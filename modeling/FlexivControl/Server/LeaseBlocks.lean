/-
The lease's methods as the steps they take.

Each critical section is one step. Of the methods only `heartbeat` and `release` have a
single one: the others drop a stale lease first, and entering a hold counts it after the
check. A hold is left, if at all, after its request is served.
-/

import FlexivControl.Library.Ledger
import FlexivControl.Server.LeaseKeeping

namespace FlexivControl

open Pool

variable {K : Type} [Scalar K]

inductive LeaseBlock where
  | expire
  | grant (owner : String) (force : Bool)
  | refresh (owner : String)
  | drop (owner : String)
  | verify (owner : String)
  | count
  | uncount (owner : String)
  | readOwner
  | readInfo
  deriving DecidableEq, Repr

def leaseBlocks (K : Type) : Signature where
  Op := LeaseBlock
  Resp
    | .grant _ _ | .refresh _ => Except Exc (LeaseInfo K)
    | .drop _ | .verify _ => Except Exc Unit
    | .readOwner => String
    | .readInfo => Option (LeaseInfo K)
    | .expire | .count | .uncount _ => Unit

namespace Lease

def grantSection (lease : Lease K) (owner : String) (force : Bool) (now : K) :
    Except Exc (LeaseInfo K) × Lease K :=
  match lease.info with
  | none => lease.grant owner now
  | some held =>
      if held.owner ≠ owner ∧ force = false then
        (.error (leaseError ("robot is leased by '" ++ held.owner ++
          "'; acquire with force=True to override")), lease)
      else lease.grant owner now

def ownerSection (lease : Lease K) : String :=
  match lease.info with
  | none => ""
  | some info => info.owner

end Lease

structure LeaseState (K : Type) where
  now : K
  lease : Lease K

namespace LeaseState

def Answers (s : LeaseState K) : Call (leaseBlocks K) → Prop
  | ⟨.grant owner force, result⟩ => result = (s.lease.grantSection owner force s.now).1
  | ⟨.refresh owner, result⟩ => result = (s.lease.heartbeat owner s.now).1
  | ⟨.drop owner, result⟩ => result = (s.lease.release owner).1
  | ⟨.verify owner, result⟩ => result = s.lease.verify owner
  | ⟨.readOwner, owner⟩ => owner = s.lease.ownerSection
  | ⟨.readInfo, info⟩ => info = s.lease.info
  | _ => True

def afterBlock (s : LeaseState K) : LeaseBlock → Lease K
  | .expire => s.lease.expireIfStale s.now
  | .grant owner force => (s.lease.grantSection owner force s.now).2
  | .refresh owner => (s.lease.heartbeat owner s.now).2
  | .drop owner => (s.lease.release owner).2
  | .count => { s.lease with holds := s.lease.holds + 1 }
  | .uncount owner => s.lease.holdExit owner s.now
  | .verify _ | .readOwner | .readInfo => s.lease

end LeaseState

/-- Threads that use one lease while time passes. -/
def sharedLease : Machine (leaseBlocks K) Nat K (LeaseState K) where
  enabled
    | s, .call _ c => s.Answers c
    | s, .env now => s.now ≤ now
  next
    | s, .call _ c => { s with lease := s.afterBlock c.op }
    | s, .env now => { s with now := now }

inductive LeaseUse where
  | acquire (owner : String) (force : Bool)
  | heartbeat (owner : String)
  | release (owner : String)
  | check (owner : String)
  | owner
  | info
  | hold (owner : String)
  deriving DecidableEq, Repr

abbrev LeaseM (K : Type) [Scalar K] := Program (leaseBlocks K)

def block (op : LeaseBlock) : LeaseM K ((leaseBlocks K).Resp op) := .call op .done

def checkBlocks (owner : String) : LeaseM K (Except Exc Unit) := do
  block .expire
  block (.verify owner)

def methodBlocks : LeaseUse → LeaseM K (Except Exc Unit)
  | .acquire owner force =>
      if owner = "" then pure (.error (leaseError "lease owner must be a non-empty string"))
      else do
        block .expire
        let granted ← block (.grant owner force)
        pure (granted.map fun _ => ())
  | .heartbeat owner => do
      let refreshed ← block (.refresh owner)
      pure (refreshed.map fun _ => ())
  | .release owner => block (.drop owner)
  | .check owner => checkBlocks owner
  | .owner => do
      block .expire
      let _ ← block .readOwner
      pure (.ok ())
  | .info => do
      block .expire
      let _ ← block .readInfo
      pure (.ok ())
  | .hold owner => do
      match ← checkBlocks owner with
      | .error e => pure (.error e)
      | .ok () => do
          block .count
          block (.uncount owner)
          pure (.ok ())

end FlexivControl
