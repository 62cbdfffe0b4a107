import Mathlib.Data.Finmap
import Mathlib.Data.List.Sort
import VielHome.Common.AppError
import VielHome.Community.Schema
import VielHome.Relational.Optimistic

/-!
# Saving a draft of the building setup

What a person has entered so far in the wizard is a draft, a JSON object under a step. Saving reads
the person's latest draft that has not been submitted, and creates one or writes the whole merged
object over it. A payload is a finite map from keys to JSON values, which nothing here looks into.
-/

namespace VielHome.BuildingSetup

open Relational
open Relational.ReadCommitted (Logged Prog)
open Relational.ReadCommitted.Prog (read require send)
open Community (Time)

variable {V : Type}

/-- `Record<string, unknown>`. -/
abbrev Payload (V : Type) := Finmap fun _ : String => V

/-- `{ ...a, ...b }`: what `b` has goes before what `a` has. -/
def Payload.spread (a b : Payload V) : Payload V := b ∪ a

/-- What somebody has entered so far. -/
structure BuildingSetupDraft (V : Type) where
  id : ℕ
  personId : ℕ
  device : Option String
  step : String
  payload : Payload V
  revision : ℕ := 1
  updatedAt : Time
  submittedAt : Option Time := none

/-- The tables. -/
structure Store (V : Type) where
  drafts : Table (BuildingSetupDraft V) BuildingSetupDraft.id

/-! ### `DraftRepository` -/

namespace DraftRepository

/-- The drafts of a person that have not been submitted. -/
def activeDrafts (personId : ℕ) (s : Store V) : List (BuildingSetupDraft V) :=
  s.drafts.rows.filter fun d => d.personId = personId ∧ d.submittedAt = none

/-- `findActiveForPerson`: the latest draft of somebody that is not done. -/
def findActiveForPerson (personId : ℕ) (s : Store V) : Option (BuildingSetupDraft V) :=
  ((activeDrafts personId s).insertionSort fun d d' => d'.updatedAt ≤ d.updatedAt).head?

/-- What a draft is made from. -/
structure UpsertParams (V : Type) where
  personId : ℕ
  step : String
  payload : Payload V
  device : Option String

/-- The draft as it is stored. -/
def created (params : UpsertParams V) (now : Time) (id : ℕ) : BuildingSetupDraft V where
  id := id
  personId := params.personId
  step := params.step
  payload := params.payload
  device := params.device
  updatedAt := now

theorem created_id (params : UpsertParams V) (now : Time) (id : ℕ) :
    (created params now id).id = id := rfl

/-- The row after an update with the object that was merged; a device that is not sent is kept. -/
def updated (params : UpsertParams V) (mergedPayload : Payload V) (now : Time)
    (d : BuildingSetupDraft V) : BuildingSetupDraft V :=
  { d with
    step := params.step
    payload := mergedPayload
    device := params.device.or d.device
    revision := d.revision + 1
    updatedAt := now }

theorem updated_id (params : UpsertParams V) (mergedPayload : Payload V) (now : Time)
    (d : BuildingSetupDraft V) : (updated params mergedPayload now d).id = d.id := rfl

end DraftRepository

open DraftRepository (UpsertParams activeDrafts findActiveForPerson)

/-- A write of a call: a draft is created since none was found, or the draft that was found is
written over. -/
inductive Write (V : Type)
  | create (params : UpsertParams V) (now : Time)
  | update (existing : BuildingSetupDraft V) (params : UpsertParams V) (now : Time)

/-- What a write does to the table. -/
def Write.apply : Write V → Store V → Store V
  | create params now, s =>
    { s with
      drafts := s.drafts.create (DraftRepository.created params now)
        (DraftRepository.created_id params now) }
  | update existing params now, s =>
    let mergedPayload := existing.payload.spread params.payload
    { s with
      drafts := s.drafts.modify existing.id (DraftRepository.updated params mergedPayload now)
        (DraftRepository.updated_id params mergedPayload now) }

/-- A call: reads and writes of the store, one after the other. -/
abbrev Call (V : Type) := Prog (Logged (Store V) (Write V)) Empty Failure

/-- `upsertForPerson`: the draft that is found is updated, or a new one inserted. -/
def DraftRepository.upsertForPerson (params : UpsertParams V) (now : Time) : Call V PUnit := do
  let existing ← read (findActiveForPerson params.personId)
  match existing with
  | none => send Write.apply (.create params now)
  | some existing => send Write.apply (.update existing params now)

/-! ### `BuildingSetupService` -/

/-- The steps of the wizard. -/
def BUILDING_SETUP_STEPS : List String := ["role_selection", "building_info", "address", "review"]

/-- The refusal of a step, with those that are known. -/
def BuildingSetupPolicy.unknownStep (step : String) : Failure :=
  let valid := ", ".intercalate BUILDING_SETUP_STEPS
  .businessRuleViolation ("Unknown wizard step \"" ++ step ++ "\". Valid steps: " ++ valid)

/-- The step is one of the wizard. -/
def BuildingSetupPolicy.assertValidStep (step : String) : Call V PUnit :=
  require (step ∈ BUILDING_SETUP_STEPS) (BuildingSetupPolicy.unknownStep step)

/-- What somebody has entered in a step. -/
structure SaveDraftDto (V : Type) where
  step : String
  payload : Payload V
  device : Option String := none

/-- `saveDraft`. -/
def BuildingSetupService.saveDraft (personId : ℕ) (dto : SaveDraftDto V) (now : Time) :
    Call V PUnit := do
  BuildingSetupPolicy.assertValidStep dto.step
  DraftRepository.upsertForPerson
    { personId, step := dto.step, payload := dto.payload, device := dto.device } now

end VielHome.BuildingSetup
