import VielHome.Relational.ReadCommitted
import VielHome.Common.AppError
import VielHome.Community.Current

/-!
# Calls and their locks

A service call or a repository transaction is a `Call`: a program of statements on the
tables of the community. The database enforces the lock of an updated row, the entry of a
unique index that an insertion makes, and the advisory locks the back office takes. The
last five locks are enforced by nobody. They name what the code reads to decide about a
write that it makes afterwards: the ballots of a vote, the current manager of a building,
the current owner of a unit, whether a person is suspended, which admins are usable.
-/

namespace VielHome.Community

open Relational.ReadCommitted

/-- The tables whose rows are updated. -/
inductive TableName
  | building
  | unit
  | person
  | membership
  | membershipRequest
  | ownership
  | tenancy
  | vote
  | voteProxy
  | managerVerificationCase
  | enforcementAction
  deriving DecidableEq

/-- What a statement locks. -/
inductive Lock
  /-- A row that is updated. -/
  | row (table : TableName) (id : ℕ)
  /-- The entry of a unique index that an insertion makes. -/
  | snapshotKey (voteId unitId : ℕ)
  | ballotKey (voteId unitId : ℕ)
  | resultKey (voteId : ℕ)
  | approvalKey (caseId ownerPersonId : ℕ)
  | idempotencyKey (key : String)
  | phoneKey (phone : String)
  /-- `pg_advisory_xact_lock` on a case, on its restoration, on its appeal; on a person that
  staff suspends or reinstates, and on the admins. -/
  | verificationCase (caseId : ℕ)
  | verificationRestore (caseId : ℕ)
  | verificationAppeal (caseId : ℕ)
  | userAdmin (personId : ℕ)
  | platformAdminUsability
  /-- What a decision rests on, with no lock behind it. -/
  | tally (voteId : ℕ)
  | managers (buildingId : ℕ)
  | owners (unitId : ℕ)
  | suspension (personId : ℕ)
  | usableAdmins
  deriving DecidableEq

/-- The database makes a statement wait for the lock. -/
def Lock.enforced : Lock → Bool
  | tally _ => false
  | managers _ => false
  | owners _ => false
  | suspension _ => false
  | usableAdmins => false
  | _ => true

/-- A program of statements on the tables. -/
abbrev Call (α : Type) : Type := Prog Store Lock Failure α

/-- The tables, the sessions that run a call each, and the locks they hold. -/
abbrev Sessions (ι α : Type) : Type := Database ι Store Lock Failure α

/-- The sessions after some events, each call about to start on the store. -/
def runCalls {ι α : Type} [DecidableEq ι] (s : Store) (calls : ι → Call α)
    (es : List (Event ι Failure)) : Sessions ι α :=
  Relational.runFrom (Database.next Lock.enforced) (Database.start s calls) es

/-- Refuse a row that refers to rows which are not there. -/
def unlessReferences (present : Store → Bool) (s : Store) : Option Failure :=
  if present s then none else some .foreignKey

theorem unlessReferences_eq_none {present : Store → Bool} {s : Store} :
    unlessReferences present s = none ↔ present s = true := by
  simp [unlessReferences]

/-- An insertion alone is made when the rows it refers to are there. -/
theorem solo_writeUnlessReferences_bind {β : Type} {locks : List (Lock × Mode)}
    {present : Store → Bool} {g : Store → Store} {f : PUnit → Call β} {c w : Store} :
    (Prog.writeUnless locks (unlessReferences present) g >>= f).solo c w =
      if present w = true then (f ⟨⟩).solo c (g w) else (.error .foreignKey, c, c) := by
  rw [Prog.solo_writeUnless_bind, unlessReferences]
  by_cases hpresent : present w = true
  · rw [if_pos hpresent, if_pos hpresent]
  · rw [if_neg hpresent, if_neg hpresent]

end VielHome.Community
