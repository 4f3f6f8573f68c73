/-
Quaternion helpers. Quaternions are `(w, x, y, z)` everywhere.
-/

import FlexivControl.Core.Types

namespace FlexivControl

variable {K : Type} [Scalar K]

/-- Norms below this are treated as zero. -/
def eps : K := Scalar.ofRat (1 / 1000000000)

def quatNormalize (q : Quat K) : Quat K :=
  let n := q.norm
  if n < eps then 1
  else
    let q := q / n
    -- canonicalise the sign, so that a rotation has one representative
    if q.w < 0 then -q else q

def quatMul (a b : Quat K) : Quat K where
  w := a.w * b.w - a.x * b.x - a.y * b.y - a.z * b.z
  x := a.w * b.x + a.x * b.w + a.y * b.z - a.z * b.y
  y := a.w * b.y - a.x * b.z + a.y * b.w + a.z * b.x
  z := a.w * b.z + a.x * b.y - a.y * b.x + a.z * b.w

def quatConj (q : Quat K) : Quat K := ⟨q.w, -q.x, -q.y, -q.z⟩

/-- Geodesic angle between two orientations. -/
def quatAngle (a b : Quat K) : K :=
  let a := quatNormalize a
  let b := quatNormalize b
  let d := Scalar.abs (a.dot b)
  let d := Scalar.lesser 1 (Scalar.greater (-1) d)
  Scalar.ofNat 2 * Scalar.arccos d

def quatSlerp (a b : Quat K) (t : K) : Quat K :=
  let a := quatNormalize a
  let b := quatNormalize b
  let dot := a.dot b
  let (b, dot) := if dot < 0 then (-b, -dot) else (b, dot)
  if Scalar.ofRat (9995 / 10000) < dot then
    quatNormalize (a + t * (b - a))
  else
    let theta0 := Scalar.arccos (Scalar.lesser 1 (Scalar.greater (-1) dot))
    let sin0 := Scalar.sin theta0
    let theta := theta0 * t
    let s0 := Scalar.sin (theta0 - theta) / sin0
    let s1 := Scalar.sin theta / sin0
    quatNormalize (s0 * a + s1 * b)

/-- The active rotation of a vector by a quaternion. -/
def quatRotate (q : Quat K) (v : Vec3 K) : Vec3 K :=
  let q := quatNormalize q
  let r := quatMul (quatMul q ⟨0, v.x, v.y, v.z⟩) (quatConj q)
  ⟨r.x, r.y, r.z⟩

def rotvecToQuat (rv : Vec3 K) : Quat K :=
  let angle := rv.norm
  if angle < eps then 1
  else
    let axis := rv / angle
    let h := angle / Scalar.ofNat 2
    ⟨Scalar.cos h, Scalar.sin h * axis.x, Scalar.sin h * axis.y, Scalar.sin h * axis.z⟩

/-- Integrate `[dx, dy, dz]` and the rotation vector `[rx, ry, rz]` onto a pose; the
translation is read in `frame`. -/
def integratePose (pose : Pose K) (translation rotation : Vec3 K) (frame : String := "base") :
    Except Exc (Pose K) := do
  let dTrans ←
    if frame = "tcp" then pure (quatRotate pose.quat translation)
    else if frame = "base" then pure translation
    else throw ⟨.valueError,
      "integrate_pose: unsupported frame '" ++ frame ++ "' (expected 'base' or 'tcp')"⟩
  pure ⟨pose.pos + dTrans, quatNormalize (quatMul pose.quat (rotvecToQuat rotation))⟩

end FlexivControl
