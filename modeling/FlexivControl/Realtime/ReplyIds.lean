/-
Which replies of the daemon carry the id of the request they answer.

A request keeps its id where nothing it asks for raises and its id is one an `int` holds.
A reply to anything else that is answered has no id at all, or a wrong one.
-/

import FlexivControl.Realtime.Network

namespace FlexivControl

variable {K : Type} [Scalar K]

def Json.IsNumber : Json K → Prop
  | .int _ | .num _ => True
  | _ => False

def Json.NumbersThrough (count : Nat) : Json K → Prop
  | .arr items => ∀ i < count, ∃ item, items[i]? = some item ∧ Json.IsNumber item
  | _ => False

def NumberIfGiven (fields : List (String × Json K)) (key : String) : Prop :=
  ∀ found, Json.field? fields key = some found → Json.IsNumber found

def WrenchReads (params : List (String × Json K)) : Prop :=
  ∀ found, givenKey "wrench" (.obj params) = some found → Json.NumbersThrough kCartDof found

def GripperReads (params : List (String × Json K)) : Prop :=
  ∀ found, givenKey "gripper" (.obj params) = some found →
    ∃ gripper, found = .obj gripper ∧ NumberIfGiven gripper "width" ∧
      NumberIfGiven gripper "force"

structure SetPointReads (withWrench : Bool) (params : List (String × Json K)) : Prop where
  pose : ∃ pose, Json.field? params "pose" = some pose ∧ Json.NumbersThrough kPoseDim pose
  wrench : withWrench = true → WrenchReads params
  gripper : GripperReads params

def ParamsRead (withWrench : Bool) (fields : List (String × Json K)) : Prop :=
  ∃ params, Json.field? fields "params" = some (.obj params) ∧ SetPointReads withWrench params

def MethodServed (env : LineEnv K) (fields : List (String × Json K)) (method : String) : Prop :=
  (method = "set_cartesian_target" → ParamsRead true fields) ∧
    (method = "servo_cartesian_pose" → ParamsRead false fields) ∧
    (method = "get_state" → ∃ st, env.states = .ok st)

/-- The method is absent or a text, and served. -/
def RequestServed (env : LineEnv K) (fields : List (String × Json K)) : Prop :=
  ∃ method, valueOr getString "method" "" (.obj fields) = .ok method ∧
    MethodServed env fields method

def FitsInt (n : Int) : Prop := -2 ^ 31 ≤ n ∧ n < 2 ^ 31

theorem toInt32_eq_iff (n : Int) : toInt32 n = n ↔ FitsInt n := by
  unfold toInt32 FitsInt
  constructor
  · intro same
    have low := Int.emod_nonneg (n + 2 ^ 31) (by decide : (2 ^ 32 : Int) ≠ 0)
    have high := Int.emod_lt_of_pos (n + 2 ^ 31) (by decide : (0 : Int) < 2 ^ 32)
    omega
  · rintro ⟨low, high⟩
    rw [Int.emod_eq_of_lt (by omega) (by omega)]
    omega

def Reads {α : Type} (x : Except Fault α) : Prop := ∃ a, x = .ok a

@[simp] theorem reads_ok {α : Type} (a : α) : Reads (.ok a) := ⟨a, rfl⟩

@[simp] theorem reads_pure {α : Type} (a : α) : Reads (pure a) := ⟨a, rfl⟩

@[simp] theorem not_reads_error {α : Type} (fault : Fault) :
    ¬ Reads (.error fault : Except Fault α) := by
  rintro ⟨a, same⟩
  cases same

theorem reads_bind {α β : Type} {x : Except Fault α} {f : α → Except Fault β} :
    Reads (x >>= f) ↔ ∃ a, x = .ok a ∧ Reads (f a) := by
  cases x with
  | error fault =>
      constructor
      · exact fun reads => absurd reads (not_reads_error fault)
      · rintro ⟨a, same, _⟩
        cases same
  | ok a =>
      constructor
      · exact fun reads => ⟨a, rfl, reads⟩
      · rintro ⟨a', same, reads⟩
        cases same
        exact reads

theorem reads_bind_iff {α β : Type} {x : Except Fault α} {f : α → Except Fault β}
    (follows : ∀ a, Reads (f a)) : Reads (x >>= f) ↔ Reads x := by
  rw [reads_bind]
  constructor
  · rintro ⟨a, read, _⟩
    exact ⟨a, read⟩
  · rintro ⟨a, read⟩
    exact ⟨a, read, follows a⟩

theorem reads_getDouble (json : Json K) : Reads (getDouble json) ↔ Json.IsNumber json := by
  cases json with
  | int n => exact ⟨fun _ => trivial, fun _ => reads_ok _⟩
  | num x => exact ⟨fun _ => trivial, fun _ => reads_ok _⟩
  | _ => exact ⟨fun reads => absurd reads (not_reads_error _), False.elim⟩

theorem reads_valueOr_getDouble (key : String) (default : K) (json : Json K) :
    Reads (valueOr getDouble key default json) ↔
      ∃ fields, json = .obj fields ∧ NumberIfGiven fields key := by
  cases json with
  | obj fields =>
      unfold valueOr NumberIfGiven
      dsimp only
      cases found : Json.field? fields key with
      | none =>
          refine ⟨fun _ => ⟨fields, rfl, ?_⟩, fun _ => reads_ok _⟩
          intro value given
          cases found.symm.trans given
      | some value =>
          dsimp only
          rw [reads_getDouble]
          constructor
          · intro number
            refine ⟨fields, rfl, ?_⟩
            intro other given
            exact Option.some.inj (found.symm.trans given) ▸ number
          · rintro ⟨_, same, numbers⟩
            cases same
            exact numbers value found
  | _ =>
      constructor
      · exact fun reads => absurd reads (not_reads_error _)
      · rintro ⟨fields, same, _⟩
        cases same

omit [Scalar K] in
theorem atIndex_eq_ok {i : Nat} {items : List (Json K)} {item : Json K} :
    atIndex i (.arr items) = .ok item ↔ items[i]? = some item := by
  unfold atIndex
  dsimp only
  cases items[i]? with
  | none =>
      constructor
      · intro same
        cases same
      · intro same
        cases same
  | some value =>
      constructor
      · exact fun same => congrArg some (Except.ok.inj same)
      · exact fun same => congrArg Except.ok (Option.some.inj same)

theorem readDoubles_arr (items : List (Json K)) (count : Nat) :
    ∀ i, Reads (readDoubles (.arr items) i count) ↔
      ∀ j < count, ∃ item, items[i + j]? = some item ∧ Json.IsNumber item := by
  induction count with
  | zero =>
      intro i
      refine ⟨fun _ j inside => absurd inside (Nat.not_lt_zero j), fun _ => reads_ok _⟩
  | succ count ih =>
      intro i
      unfold readDoubles
      rw [reads_bind]
      constructor
      · rintro ⟨item, found, reads⟩
        obtain ⟨x, number, reads⟩ := reads_bind.mp reads
        have rest := (ih (i + 1)).mp ((reads_bind_iff fun _ => reads_pure _).mp reads)
        intro j inside
        cases j with
        | zero => exact ⟨item, atIndex_eq_ok.mp found, (reads_getDouble item).mp ⟨x, number⟩⟩
        | succ j =>
            obtain ⟨item, found, number⟩ := rest j (by omega)
            rw [Nat.add_right_comm] at found
            exact ⟨item, found, number⟩
      · intro entries
        obtain ⟨item, found, number⟩ := entries 0 (Nat.succ_pos count)
        obtain ⟨x, read⟩ := (reads_getDouble item).mpr number
        refine ⟨item, atIndex_eq_ok.mpr found, reads_bind.mpr ⟨x, read, ?_⟩⟩
        rw [reads_bind_iff fun _ => reads_pure _, ih (i + 1)]
        intro j inside
        obtain ⟨item, found, number⟩ := entries (j + 1) (by omega)
        rw [← Nat.add_assoc, Nat.add_right_comm] at found
        exact ⟨item, found, number⟩

theorem reads_readDoubles (json : Json K) {count : Nat} (positive : 0 < count) :
    Reads (readDoubles json 0 count) ↔ Json.NumbersThrough count json := by
  obtain ⟨count, rfl⟩ := Nat.exists_eq_succ_of_ne_zero (Nat.pos_iff_ne_zero.mp positive)
  cases json with
  | arr items =>
      rw [readDoubles_arr]
      simp only [Nat.zero_add, Json.NumbersThrough]
  | _ =>
      unfold readDoubles
      rw [reads_bind]
      constructor
      · rintro ⟨item, found, _⟩
        cases found
      · exact False.elim

theorem reads_readWrench (params : List (String × Json K)) (sp : SetPoint K) :
    Reads (readWrench (.obj params) sp) ↔ WrenchReads params := by
  unfold readWrench WrenchReads
  cases given : givenKey "wrench" (.obj params) with
  | none =>
      refine ⟨fun _ found there => ?_, fun _ => reads_ok _⟩
      cases there
  | some wrench =>
      dsimp only
      rw [reads_bind_iff fun _ => reads_pure _, reads_readDoubles wrench (by decide)]
      constructor
      · intro numbers found there
        exact Option.some.inj there ▸ numbers
      · exact fun numbers => numbers wrench rfl

theorem reads_readGripper (params : List (String × Json K)) (sp : SetPoint K) :
    Reads (readGripper (.obj params) sp) ↔ GripperReads params := by
  unfold readGripper GripperReads
  cases given : givenKey "gripper" (.obj params) with
  | none =>
      refine ⟨fun _ found there => ?_, fun _ => reads_ok _⟩
      cases there
  | some gripper =>
      dsimp only
      rw [reads_bind]
      constructor
      · rintro ⟨width, readWidth, reads⟩ found there
        rw [reads_bind_iff fun _ => reads_pure _] at reads
        obtain ⟨fields, same, widths⟩ := (reads_valueOr_getDouble _ _ gripper).mp ⟨width, readWidth⟩
        obtain ⟨fields', same', forces⟩ := (reads_valueOr_getDouble _ _ gripper).mp reads
        cases same.symm.trans same'
        exact ⟨fields, (Option.some.inj there).symm.trans same, widths, forces⟩
      · intro numbers
        obtain ⟨fields, same, widths, forces⟩ := numbers gripper rfl
        obtain ⟨width, readWidth⟩ :=
          (reads_valueOr_getDouble "width" (-1) gripper).mpr ⟨fields, same, widths⟩
        refine ⟨width, readWidth, ?_⟩
        rw [reads_bind_iff fun _ => reads_pure _]
        exact (reads_valueOr_getDouble _ _ gripper).mpr ⟨fields, same, forces⟩

omit [Scalar K] in
theorem atKey_eq_ok {key : String} {json found : Json K} :
    atKey key json = .ok found ↔
      ∃ fields, json = .obj fields ∧ Json.field? fields key = some found := by
  cases json with
  | obj fields =>
      unfold atKey
      dsimp only
      cases there : Json.field? fields key with
      | none =>
          constructor
          · intro same
            cases same
          · rintro ⟨_, same, given⟩
            cases same
            cases there.symm.trans given
      | some value =>
          constructor
          · intro same
            exact ⟨fields, rfl, congrArg some (Except.ok.inj same) ▸ there⟩
          · rintro ⟨_, same, given⟩
            cases same
            exact congrArg Except.ok (Option.some.inj (there.symm.trans given))
  | _ =>
      constructor
      · intro same
        cases same
      · rintro ⟨_, same, _⟩
        cases same

theorem reads_readSetPoint (withWrench : Bool) (fields : List (String × Json K)) :
    Reads (readSetPoint withWrench (.obj fields)) ↔ ParamsRead withWrench fields := by
  have rest (params : List (String × Json K)) (sp : SetPoint K) :
      Reads (do
        let sp ← if withWrench then readWrench (.obj params) sp else pure sp
        readGripper (.obj params) sp) ↔
        (withWrench = true → WrenchReads params) ∧ GripperReads params := by
    cases withWrench with
    | true =>
        rw [if_pos rfl, reads_bind]
        constructor
        · rintro ⟨sp', wrench, gripper⟩
          exact ⟨fun _ => (reads_readWrench params sp).mp ⟨sp', wrench⟩,
            (reads_readGripper params sp').mp gripper⟩
        · rintro ⟨wrench, gripper⟩
          obtain ⟨sp', read⟩ := (reads_readWrench params sp).mpr (wrench rfl)
          exact ⟨sp', read, (reads_readGripper params sp').mpr gripper⟩
    | false =>
        refine (reads_readGripper params sp).trans ⟨fun gripper => ⟨?_, gripper⟩, And.right⟩
        intro impossible
        cases impossible
  unfold readSetPoint
  rw [reads_bind]
  constructor
  · rintro ⟨p, given, reads⟩
    obtain ⟨_, same, field⟩ := atKey_eq_ok.mp given
    cases same
    obtain ⟨pose, there, reads⟩ := reads_bind.mp reads
    obtain ⟨params, same, posed⟩ := atKey_eq_ok.mp there
    rw [same] at reads field
    obtain ⟨xs, read, reads⟩ := reads_bind.mp reads
    obtain ⟨wrench, gripper⟩ := (rest params _).mp reads
    exact ⟨params, field, ⟨pose, posed, (reads_readDoubles pose (by decide)).mp ⟨xs, read⟩⟩,
      wrench, gripper⟩
  · rintro ⟨params, field, ⟨pose, posed, numbers⟩, wrench, gripper⟩
    obtain ⟨xs, read⟩ := (reads_readDoubles pose (by decide)).mpr numbers
    exact ⟨.obj params, atKey_eq_ok.mpr ⟨fields, rfl, field⟩, reads_bind.mpr
      ⟨pose, atKey_eq_ok.mpr ⟨params, rfl, posed⟩, reads_bind.mpr
        ⟨xs, read, (rest params _).mpr ⟨wrench, gripper⟩⟩⟩⟩

/-! ### The id of the reply -/

theorem reads_answerMethod (env : LineEnv K) (fields : List (String × Json K)) (id : Int)
    (method : String) :
    Reads (answerMethod env (.obj fields) id method) ↔ MethodServed env fields method := by
  unfold answerMethod MethodServed
  by_cases target : method = "set_cartesian_target"
  · rw [if_pos target, reads_bind_iff fun _ => reads_pure _, reads_readSetPoint]
    refine ⟨fun params => ⟨fun _ => params, ?_, ?_⟩, fun served => served.1 target⟩
    · intro servo
      exact absurd (target.symm.trans servo) (by decide)
    · intro state
      exact absurd (target.symm.trans state) (by decide)
  · rw [if_neg target]
    by_cases state : method = "get_state"
    · rw [if_pos state]
      cases read : env.states with
      | error what =>
          refine ⟨fun reads => absurd reads (not_reads_error _), ?_⟩
          rintro ⟨_, _, served⟩
          obtain ⟨st, same⟩ := served state
          cases same
      | ok st =>
          refine ⟨fun _ => ⟨fun other => absurd other target, ?_, fun _ => ⟨st, rfl⟩⟩,
            fun _ => reads_pure _⟩
          intro servo
          exact absurd (state.symm.trans servo) (by decide)
    · rw [if_neg state]
      by_cases servo : method = "servo_cartesian_pose"
      · rw [if_neg (by rw [servo]; decide), if_neg (by rw [servo]; decide),
          if_neg (by rw [servo]; decide), if_neg (by rw [servo]; decide), if_pos servo,
          reads_bind_iff fun _ => reads_pure _, reads_readSetPoint]
        exact ⟨fun params => ⟨fun other => absurd other target, fun _ => params,
          fun other => absurd other state⟩, fun served => served.2.1 servo⟩
      · have plain : Reads (if method = "stop" then
            pure { stops := true, reply := okResponse id (.obj [("stopping", .bool true)]) }
          else if method = "ping" then
            pure { reply := okResponse id (.obj [("pong", .bool true)]) }
          else if method ∈ noopMethods then pure { reply := okResponse id (.obj []) }
          else if method = "get_lease" then
            pure { reply := okResponse id (.obj [("owner", .str "")]) }
          else
            pure { reply := .obj [("id", .int id), ("ok", .bool false),
              ("error", .str ("unknown or non-RT method: " ++ method))] } :
            Except Fault (Handled K)) := by
          split_ifs <;> exact reads_pure _
        rw [if_neg servo]
        exact ⟨fun _ => ⟨fun other => absurd other target, fun other => absurd other servo,
          fun other => absurd other state⟩, fun _ => plain⟩

theorem answerMethod_id {env : LineEnv K} {req : Json K} {id : Int} {method : String}
    {handled : Handled K} (answered : answerMethod env req id method = .ok handled) :
    replyId handled.reply = some (.int id) := by
  unfold answerMethod at answered
  have streamed {withWrench : Bool} {f : SetPoint K → Handled K}
      (tagged : ∀ sp, replyId (f sp).reply = some (.int id))
      (answered : (do let sp ← readSetPoint withWrench req; pure (f sp)) = Except.ok handled) :
      replyId handled.reply = some (.int id) := by
    cases read : readSetPoint withWrench req with
    | error fault =>
        rw [read] at answered
        cases answered
    | ok sp =>
        rw [read] at answered
        exact Except.ok.inj answered ▸ tagged sp
  split_ifs at answered
  · exact streamed (fun _ => rfl) answered
  · cases read : env.states with
    | error what =>
        rw [read] at answered
        cases answered
    | ok st =>
        rw [read] at answered
        cases answered
        rfl
  · cases answered
    rfl
  · cases answered
    rfl
  · cases answered
    rfl
  · cases answered
    rfl
  · exact streamed (fun _ => rfl) answered
  · cases answered
    rfl

/-- The reply to a line is one object, and it carries this id. -/
def RepliesWith (outcome : LineOutcome K) (n : Int) : Prop :=
  ∃ reply, outcome.replies = [reply] ∧ replyId reply = some (.int n)

theorem caught_unidentified (what : Option String) (n : Int) :
    ¬ RepliesWith (caught what : LineOutcome K) n := by
  rintro ⟨reply, only, tagged⟩
  cases what with
  | none => cases only
  | some text =>
      cases only
      cases tagged

/-- A line that parses as an object with an integer id is answered by one object with that
id exactly when an `int` holds the id and the request is served. -/
theorem one_reply_with_id_iff {parse : List UInt8 → Except (Option String) (Json K)}
    {line : List UInt8} {fields : List (String × Json K)} {n : Int} (env : LineEnv K)
    (parsed : parse line = .ok (.obj fields)) (given : Json.field? fields "id" = some (.int n)) :
    RepliesWith (answerLine parse env line) n ↔ FitsInt n ∧ RequestServed env fields := by
  have identified : valueOr getInt "id" 0 (.obj fields) = .ok (toInt32 n) := by
    unfold valueOr
    dsimp only
    rw [given]
    rfl
  have request : handleRequest env (.obj fields) = (do
      let method ← valueOr getString "method" "" (.obj fields)
      answerMethod env (.obj fields) (toInt32 n) method) := by
    unfold handleRequest
    rw [identified]
    rfl
  unfold answerLine
  rw [parsed]
  dsimp only
  cases handled : handleRequest env (.obj fields) with
  | error fault =>
      have refused : ¬ RequestServed env fields := by
        rintro ⟨method, named, served⟩
        obtain ⟨answer, answered⟩ :=
          (reads_answerMethod env fields (toInt32 n) method).mpr served
        rw [request, named] at handled
        cases answered.symm.trans handled
      cases fault with
      | thrown what =>
          exact ⟨fun replies => absurd replies (caught_unidentified what n),
            fun both => absurd both.2 refused⟩
      | undefined =>
          constructor
          · rintro ⟨reply, only, _⟩
            cases only
          · exact fun both => absurd both.2 refused
  | ok answer =>
      rw [request] at handled
      have reads : Reads (valueOr getString "method" "" (.obj fields) >>=
          answerMethod env (.obj fields) (toInt32 n)) := ⟨answer, handled⟩
      obtain ⟨method, named, answered⟩ := reads_bind.mp reads
      rw [named] at handled
      have tagged := answerMethod_id handled
      have served : RequestServed env fields :=
        ⟨method, named, (reads_answerMethod env fields (toInt32 n) method).mp answered⟩
      rw [← toInt32_eq_iff]
      constructor
      · rintro ⟨reply, only, found⟩
        cases only
        exact ⟨Json.int.inj (Option.some.inj (tagged.symm.trans found)), served⟩
      · rintro ⟨same, _⟩
        exact ⟨answer.reply, rfl, by rw [tagged, same]⟩

def parsing (line : List UInt8) (json : Json K) (found : List UInt8) :
    Except (Option String) (Json K) :=
  if found = line then .ok json else .error (some "parse error")

def targetLine : List UInt8 :=
  ("\x7b\"id\":7,\"method\":\"set_cartesian_target\",\"params\":\x7b\"pose\":" ++
    "[0.5,0,0.3,1,0,0,0],\"wrench\":null,\"gripper\":\x7b\"width\":0.04\x7d\x7d\x7d").toUTF8.toList

noncomputable def targetParams : List (String × Json ℝ) :=
  [("pose", .arr [.num (1 / 2), .int 0, .num (3 / 10), .int 1, .int 0, .int 0, .int 0]),
    ("wrench", .null), ("gripper", .obj [("width", .num (4 / 100))])]

noncomputable def targetFields : List (String × Json ℝ) :=
  [("id", .int 7), ("method", .str "set_cartesian_target"), ("params", .obj targetParams)]

def farLine : List UInt8 :=
  "\x7b\"id\":2147483648,\"method\":\"ping\"\x7d".toUTF8.toList

def farFields : List (String × Json ℝ) := [("id", .int (2 ^ 31)), ("method", .str "ping")]

noncomputable def quietEnv : LineEnv ℝ := ⟨.error (some "not connected"), 0⟩

theorem targetParams_read : SetPointReads true targetParams where
  pose := by
    refine ⟨_, rfl, ?_⟩
    intro i inside
    unfold kPoseDim at inside
    interval_cases i <;> exact ⟨_, rfl, trivial⟩
  wrench := by
    intro _ found given
    cases given
  gripper := by
    intro found given
    cases given
    refine ⟨_, rfl, ?_, ?_⟩
    · intro width given
      cases given
      trivial
    · intro force given
      cases given

/-- The target is answered with its id, the ping with another one. -/
theorem one_reply_with_id_iff_target :
    RepliesWith (answerLine (parsing targetLine (.obj targetFields)) quietEnv targetLine) 7 ∧
      ¬ RepliesWith (answerLine (parsing farLine (.obj farFields)) quietEnv farLine) (2 ^ 31) := by
  have parsed : parsing targetLine (.obj targetFields) targetLine = .ok (.obj targetFields) :=
    if_pos rfl
  have read : parsing farLine (.obj farFields) farLine = .ok (.obj farFields) := if_pos rfl
  have served : RequestServed quietEnv targetFields := by
    refine ⟨"set_cartesian_target", rfl, ?_, ?_, ?_⟩
    · exact fun _ => ⟨targetParams, rfl, targetParams_read⟩
    · exact fun servo => absurd servo (by decide)
    · exact fun state => absurd state (by decide)
  constructor
  · exact (one_reply_with_id_iff quietEnv parsed rfl).mpr ⟨⟨by decide, by decide⟩, served⟩
  · intro replies
    have fits := ((one_reply_with_id_iff quietEnv read rfl).mp replies).1
    exact absurd fits.2 (by decide)

def bareLine : List UInt8 :=
  [123, 34, 105, 100, 34, 58, 55, 44, 34, 109, 101, 116, 104, 111, 100, 34, 58, 34, 115, 101, 116,
    95, 99, 97, 114, 116, 101, 115, 105, 97, 110, 95, 116, 97, 114, 103, 101, 116, 34, 125]

def bareFields : List (String × Json ℝ) :=
  [("id", .int 7), ("method", .str "set_cartesian_target")]

/-- It is answered, by an object without an id. -/
theorem bare_target_unidentified :
    (∃ reply, (answerLine (parsing bareLine (.obj bareFields)) quietEnv bareLine).replies =
      [reply]) ∧
    ¬ RepliesWith (answerLine (parsing bareLine (.obj bareFields)) quietEnv bareLine) 7 := by
  have parsed : parsing bareLine (.obj bareFields) bareLine = .ok (.obj bareFields) := if_pos rfl
  have answered : answerLine (parsing bareLine (.obj bareFields)) quietEnv bareLine =
      caught (some "[json.exception.out_of_range.403] key 'params' not found") := by
    unfold answerLine
    rw [parsed]
    rfl
  rw [answered]
  exact ⟨⟨_, rfl⟩, caught_unidentified _ 7⟩

end FlexivControl
