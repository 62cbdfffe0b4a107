import VielHome.Common.AppError
import VielHome.Community.Schema
import VielHome.Relational.ReadCommitted
import Mathlib.Tactic.Simps.Basic

/-!
# The tables of the building verification queue

The buildings, with the address that a new one is compared by, and the cases of the queue in the
order in which they were created. Columns that no modelled operation reads or writes are left
out.
-/

namespace VielHome.BuildingVerification

open Relational
open Relational.ReadCommitted (Database Event Mode Prog)
open Community (BuildingStatus Time VerificationPriority)

/-- What the staff decides about a building. -/
inductive BuildingVerificationDecision
  | approve
  | reject
  | requestInformation
  deriving DecidableEq

/-- A building, with its address. -/
structure Building where
  id : ℕ
  city : String
  district : String
  mainStreet : String
  status : BuildingStatus := .pending
  createdById : ℕ
  deriving DecidableEq

/-- The verification of a building. -/
structure BuildingVerificationCase where
  id : ℕ
  buildingId : ℕ
  status : BuildingStatus
  priority : VerificationPriority := .normal
  riskScore : ℕ := 0
  riskFlags : List String := []
  isAppeal : Bool := false
  previousCaseId : Option ℕ := none
  reviewedById : Option ℕ := none
  decision : Option BuildingVerificationDecision := none
  reason : Option String := none
  decidedAt : Option Time := none
  deriving DecidableEq

/-- The tables. -/
structure Store where
  buildings : Table Building Building.id
  cases : Table BuildingVerificationCase BuildingVerificationCase.id

/-- The store before anything happened. -/
def Store.empty : Store := ⟨.empty, .empty⟩

namespace Store

/-- A change of the buildings. -/
@[simps]
def onBuildings (f : Table Building Building.id → Table Building Building.id) (s : Store) : Store :=
  { s with buildings := f s.buildings }

/-- A change of the cases. -/
@[simps]
def onCases (f : Table BuildingVerificationCase BuildingVerificationCase.id →
    Table BuildingVerificationCase BuildingVerificationCase.id) (s : Store) : Store :=
  { s with cases := f s.cases }

variable (s : Store)

/-- The cases of a building, the oldest one first. -/
def casesOf (buildingId : ℕ) : List BuildingVerificationCase :=
  s.cases.rows.filter fun k => k.buildingId = buildingId

/-- `getLatestBuildingVerificationCase`. -/
def latestCase (buildingId : ℕ) : Option BuildingVerificationCase := (s.casesOf buildingId).getLast?

/-- The status of a building. -/
def statusOf (buildingId : ℕ) : Option BuildingStatus :=
  (s.buildings.find? buildingId).map Building.status

end Store

/-! ### Calls and their locks -/

/-- The tables whose rows are updated. -/
inductive TableName
  | building
  | buildingVerificationCase
  deriving DecidableEq

/-- What a statement locks: a row that is updated, which the database enforces; and the
verification of a building, which nothing enforces: its cases and its status. -/
inductive Lock
  | row (table : TableName) (id : ℕ)
  | verification (buildingId : ℕ)
  deriving DecidableEq

/-- The database makes a statement wait for the lock. -/
def Lock.enforced : Lock → Bool
  | row _ _ => true
  | verification _ => false

/-- A program of statements on the tables. -/
abbrev Call (α : Type) : Type := Prog Store Lock Failure α

/-- The tables, the sessions that run a call each, and the locks they hold. -/
abbrev Sessions (ι α : Type) : Type := Database ι Store Lock Failure α

/-- The sessions after some events, each call about to start on the store. -/
def runCalls {ι α : Type} [DecidableEq ι] (s : Store) (calls : ι → Call α)
    (es : List (Event ι Failure)) : Sessions ι α :=
  Relational.runFrom (Database.next Lock.enforced) (Database.start s calls) es

end VielHome.BuildingVerification
