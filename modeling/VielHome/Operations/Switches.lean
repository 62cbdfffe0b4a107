import VielHome.Common.AppError
import VielHome.Relational.WriteThrough

/-!
# Operational switches

Two services keep switches that are read on every request or dispatch: whether the platform is
closed for maintenance, and for each provider of notifications whether it sends. Both answer from
memory, load what is stored when the process comes up, and set their copy when a call of
`setEnabled` has upserted the row. Calls that overlap may set the copy in another order than they
have written the row in, and then the switch stands against its row with no call in progress
(`not_agrees_overlapping`). `agrees_of_lastIsCurrent` says which runs keep clear of this.

After its copy is set a call only waits for its audit record, and `AuditService.record` catches
every error. So the failures after `keep` that `WriteThrough` allows do not come about here: what is
proved holds of more runs than there are.
-/

namespace VielHome.Operations

open Relational Relational.WriteThrough

/-! ### Maintenance mode -/

/-- `MaintenanceModeState`, a table with one row. -/
structure MaintenanceModeRow where
  enabled : Bool
  reason : Option String
  message : Option String
  updatedAt : ℤ
  updatedById : Option ℕ

/-- `MaintenanceModeStatus`. -/
structure MaintenanceModeStatus where
  enabled : Bool
  reason : Option String
  message : Option String
  updatedAt : ℤ
  updatedById : Option ℕ

namespace MaintenanceModeService

/-- What a call asks for. -/
structure Toggle where
  enabled : Bool
  reason : String
  message : Option String
  actorId : ℕ

/-- `toStatus`. -/
def toStatus (row : MaintenanceModeRow) : MaintenanceModeStatus where
  enabled := row.enabled
  reason := row.reason
  message := row.message
  updatedAt := row.updatedAt
  updatedById := row.updatedById

/-- `cached`: what stands until a row is read, and what every call returns. -/
def cached : Copy Unit MaintenanceModeRow MaintenanceModeStatus MaintenanceModeStatus where
  view := toStatus
  unset :=
    { enabled := false, reason := none, message := none, updatedAt := 0, updatedById := none }
  answer _ _ status := status

/-- The row, the copy, and the calls. -/
abbrev State (ι : Type) : Type :=
  WriteThrough.State ι Unit MaintenanceModeRow MaintenanceModeStatus MaintenanceModeStatus Failure

variable {ι : Type}

/-- `onModuleInit`. -/
def onModuleInit (row : Option MaintenanceModeRow) (readable : Bool) : State ι :=
  State.boot cached (fun _ => row) readable

/-- `isEnabled`. -/
def isEnabled (s : State ι) : Bool := (s.copy ()).enabled

/-- `setEnabled`: the upsert of the row. -/
def setEnabled (input : Toggle) : Except Failure (Call Unit MaintenanceModeRow) :=
  .ok
    { key := ()
      put := fun now existing =>
        match existing with
        | none =>
          { enabled := input.enabled
            reason := some input.reason
            message := input.message
            updatedAt := now
            updatedById := some input.actorId }
        | some row =>
          { row with
            enabled := input.enabled
            reason := some input.reason
            message := input.message
            updatedAt := now
            updatedById := some input.actorId } }

/-- What is stored, where no row means that the platform is open. -/
def storedEnabled (s : State ι) : Bool := (s.rows ()).elim false (·.enabled)

/-- Whenever no call is in progress, `isEnabled` returns what is stored. -/
def Agrees (s : State ι) : Prop := s.Quiet () → isEnabled s = storedEnabled s

section Runs

variable [DecidableEq ι] (inputs : ι → Toggle)

/-- A step of one of the calls. -/
def step : State ι → Event ι Failure → State ι :=
  WriteThrough.step cached fun i => setEnabled (inputs i)

/-- The last call that has still to set the switch has read back what is stored. -/
def LastIsCurrent : State ι → Event ι Failure → Prop :=
  State.LastIsCurrent cached (·.enabled)

end Runs

end MaintenanceModeService

/-! ### Provider settings -/

/-- The providers of notifications. -/
inductive ProviderKey
  | email
  | sms
  | push
  deriving DecidableEq

namespace ProviderKey

/-- The key as it stands in a request. -/
def literal : ProviderKey → String
  | email => "EMAIL"
  | sms => "SMS"
  | push => "PUSH"

end ProviderKey

/-- `ProviderSetting`, one row for each key. -/
structure ProviderSetting where
  key : ProviderKey
  enabled : Bool
  reason : Option String
  updatedAt : ℤ
  updatedById : Option ℕ

/-- `ProviderSettingStatus`. -/
structure ProviderSettingStatus where
  key : ProviderKey
  enabled : Bool
  configured : Bool
  reason : Option String
  updatedAt : Option ℤ
  updatedById : Option ℕ

namespace ProviderSettingsService

/-- `PROVIDER_KEYS`. -/
def PROVIDER_KEYS : List ProviderKey := [.email, .sms, .push]

/-- What a call asks for. The key is what the path of the request has. -/
structure Toggle where
  key : String
  enabled : Bool
  reason : String
  actorId : ℕ

/-- `cachedEnabled`, and what a call returns of the row it has written. -/
def cachedEnabled (isConfiguredFor : ProviderKey → Bool) :
    Copy ProviderKey ProviderSetting Bool ProviderSettingStatus where
  view := (·.enabled)
  unset := true
  answer key row _ :=
    { key := key
      enabled := row.enabled
      configured := isConfiguredFor key
      reason := row.reason
      updatedAt := some row.updatedAt
      updatedById := row.updatedById }

/-- The rows, the copies, and the calls. -/
abbrev State (ι : Type) : Type :=
  WriteThrough.State ι ProviderKey ProviderSetting Bool ProviderSettingStatus Failure

variable {ι : Type} (isConfiguredFor : ProviderKey → Bool)

/-- `onModuleInit`. -/
def onModuleInit (rows : ProviderKey → Option ProviderSetting) (readable : Bool) : State ι :=
  State.boot (cachedEnabled isConfiguredFor) rows readable

/-- `isEnabled`. -/
def isEnabled (s : State ι) (key : ProviderKey) : Bool := s.copy key

/-- `list`. -/
def list (s : State ι) : List ProviderSettingStatus :=
  PROVIDER_KEYS.map fun key =>
    { key := key
      enabled := ((s.rows key).map (·.enabled)).getD true
      configured := isConfiguredFor key
      reason := (s.rows key).bind (·.reason)
      updatedAt := (s.rows key).map (·.updatedAt)
      updatedById := (s.rows key).bind (·.updatedById) }

/-- `setEnabled`: the check of the key, and the upsert of its row. -/
def setEnabled (input : Toggle) : Except Failure (Call ProviderKey ProviderSetting) :=
  match PROVIDER_KEYS.find? fun key => key.literal = input.key with
  | none => .error (.notFound "Unknown provider key.")
  | some key =>
    .ok
      { key := key
        put := fun now existing =>
          match existing with
          | none =>
            { key := key
              enabled := input.enabled
              reason := some input.reason
              updatedAt := now
              updatedById := some input.actorId }
          | some row =>
            { row with
              enabled := input.enabled
              reason := some input.reason
              updatedAt := now
              updatedById := some input.actorId } }

/-- What is stored for a key, where no row means that the provider sends. -/
def storedEnabled (s : State ι) (key : ProviderKey) : Bool := (s.rows key).elim true (·.enabled)

/-- Whenever no call for a key is in progress, `isEnabled` returns what is stored for it. -/
def Agrees (s : State ι) : Prop := ∀ key, s.Quiet key → isEnabled s key = storedEnabled s key

section Runs

variable [DecidableEq ι] (inputs : ι → Toggle)

/-- A step of one of the calls. -/
def step : State ι → Event ι Failure → State ι :=
  WriteThrough.step (cachedEnabled isConfiguredFor) fun i => setEnabled (inputs i)

/-- The last call that has still to set the switch of its key has read back what is stored. -/
def LastIsCurrent : State ι → Event ι Failure → Prop :=
  State.LastIsCurrent (cachedEnabled isConfiguredFor) id

end Runs

end ProviderSettingsService

/-! ### Which runs keep the switches right -/

/-- The process has read the rows when it came up, or none of them says otherwise than no row. -/
def MaintenanceModeService.Boots (row : Option MaintenanceModeRow) (readable : Bool) : Prop :=
  readable = true ∨ row.elim false (·.enabled) = false

/-- The process has read the rows when it came up, or none of them says otherwise than no row. -/
def ProviderSettingsService.Boots (rows : ProviderKey → Option ProviderSetting)
    (readable : Bool) : Prop :=
  readable = true ∨ ∀ key, (rows key).elim true (·.enabled) = true

section

variable {ι : Type}

private theorem MaintenanceModeService.agrees_onModuleInit {row : Option MaintenanceModeRow}
    {readable : Bool} (h : MaintenanceModeService.Boots row readable) :
    (MaintenanceModeService.onModuleInit row readable :
      MaintenanceModeService.State ι).Agrees cached (·.enabled) := by
  refine agrees_boot.mpr (h.imp id fun hrow _ => ?_)
  cases row with
  | none => rfl
  | some row => exact hrow.symm

private theorem ProviderSettingsService.agrees_onModuleInit
    {isConfiguredFor : ProviderKey → Bool} {rows : ProviderKey → Option ProviderSetting}
    {readable : Bool} (h : ProviderSettingsService.Boots rows readable) :
    (ProviderSettingsService.onModuleInit isConfiguredFor rows readable :
      ProviderSettingsService.State ι).Agrees (cachedEnabled isConfiguredFor) id :=
  agrees_boot.mpr (h.imp id fun hrows key => (hrows key).symm)

theorem MaintenanceModeService.agrees_of_agrees {s : MaintenanceModeService.State ι}
    (h : State.Agrees cached (·.enabled) s) : MaintenanceModeService.Agrees s := by
  intro hquiet
  refine (h.of_quiet hquiet).trans ?_
  rw [State.stored, MaintenanceModeService.storedEnabled]
  cases s.rows () with
  | none => rfl
  | some row => rfl

theorem ProviderSettingsService.agrees_of_agrees {isConfiguredFor : ProviderKey → Bool}
    {s : ProviderSettingsService.State ι} (h : State.Agrees (cachedEnabled isConfiguredFor) id s) :
    ProviderSettingsService.Agrees s :=
  fun _ hquiet => h.of_quiet hquiet

end

/-- In a run in which the last call that has still to set a switch always reads back what is stored,
both services answer what is stored whenever no call is in progress. -/
theorem agrees_of_lastIsCurrent {ι : Type} [DecidableEq ι] :
    (∀ (inputs : ι → MaintenanceModeService.Toggle) (row : Option MaintenanceModeRow)
        (readable : Bool) (es : List (Event ι Failure)),
      MaintenanceModeService.Boots row readable →
      EachStep (MaintenanceModeService.step inputs) MaintenanceModeService.LastIsCurrent
        (MaintenanceModeService.onModuleInit row readable) es →
      MaintenanceModeService.Agrees
        (runFrom (MaintenanceModeService.step inputs)
          (MaintenanceModeService.onModuleInit row readable) es)) ∧
    ∀ (isConfiguredFor : ProviderKey → Bool) (inputs : ι → ProviderSettingsService.Toggle)
        (rows : ProviderKey → Option ProviderSetting) (readable : Bool)
        (es : List (Event ι Failure)),
      ProviderSettingsService.Boots rows readable →
      EachStep (ProviderSettingsService.step isConfiguredFor inputs)
        (ProviderSettingsService.LastIsCurrent isConfiguredFor)
        (ProviderSettingsService.onModuleInit isConfiguredFor rows readable) es →
      ProviderSettingsService.Agrees
        (runFrom (ProviderSettingsService.step isConfiguredFor inputs)
          (ProviderSettingsService.onModuleInit isConfiguredFor rows readable) es) := by
  constructor
  · intro inputs row readable es hboots hes
    have hagrees := (agrees_iff (MaintenanceModeService.agrees_onModuleInit hboots)).mpr hes
    exact MaintenanceModeService.agrees_of_agrees (hagrees es (List.prefix_refl es))
  · intro isConfiguredFor inputs rows readable es hboots hes
    have hagrees := (agrees_iff (ProviderSettingsService.agrees_onModuleInit hboots)).mpr hes
    exact ProviderSettingsService.agrees_of_agrees (hagrees es (List.prefix_refl es))

/-- One call closes the platform, the other opens it again. -/
def MaintenanceModeService.closeAndOpen : Bool → MaintenanceModeService.Toggle
  | true => { enabled := true, reason := "migration", message := none, actorId := 1 }
  | false => { enabled := false, reason := "migrated", message := none, actorId := 2 }

/-- One call turns a provider off, the other turns it on again. -/
def ProviderSettingsService.offAndOn : Bool → ProviderSettingsService.Toggle
  | true => { key := "SMS", enabled := false, reason := "outage", actorId := 1 }
  | false => { key := "SMS", enabled := true, reason := "restored", actorId := 2 }

/-- The second call writes last, and sets the switch first. -/
def overlapping : List (Event Bool Failure) :=
  [.start true, .start false, .write true 1, .write false 2, .keep false, .finish false,
    .keep true, .finish true]

/-- The second call writes last, and sets the switch last. -/
def inOrder : List (Event Bool Failure) :=
  [.start true, .start false, .write true 1, .write false 2, .keep true, .finish true,
    .keep false, .finish false]

theorem agrees_inOrder :
    MaintenanceModeService.Agrees
        (runFrom (MaintenanceModeService.step MaintenanceModeService.closeAndOpen)
          (MaintenanceModeService.onModuleInit none true) inOrder) ∧
      ProviderSettingsService.Agrees
        (runFrom (ProviderSettingsService.step (fun _ => true) ProviderSettingsService.offAndOn)
          (ProviderSettingsService.onModuleInit (fun _ => true) (fun _ => none) true) inOrder) := by
  constructor
  · refine agrees_of_lastIsCurrent.1 _ _ _ _ (.inl rfl)
      ⟨trivial, trivial, trivial, trivial, ?_, trivial, ?_, trivial, trivial⟩
    · intro call row hphase hothers
      exact absurd rfl (hothers false (by decide))
    · intro call row hphase hothers
      cases hphase
      rfl
  · refine agrees_of_lastIsCurrent.2 _ _ _ _ _ (.inl rfl)
      ⟨trivial, trivial, trivial, trivial, ?_, trivial, ?_, trivial, trivial⟩
    · intro call row hphase hothers
      cases hphase
      exact absurd rfl (hothers false (by decide))
    · intro call row hphase hothers
      cases hphase
      rfl

theorem not_agrees_overlapping :
    ¬MaintenanceModeService.Agrees
        (runFrom (MaintenanceModeService.step MaintenanceModeService.closeAndOpen)
          (MaintenanceModeService.onModuleInit none true) overlapping) ∧
      ¬ProviderSettingsService.Agrees
        (runFrom (ProviderSettingsService.step (fun _ => true) ProviderSettingsService.offAndOn)
          (ProviderSettingsService.onModuleInit (fun _ => true) (fun _ => none) true)
          overlapping) := by
  constructor
  · intro hagrees
    have hquiet : (runFrom (MaintenanceModeService.step MaintenanceModeService.closeAndOpen)
        (MaintenanceModeService.onModuleInit none true) overlapping).Quiet () :=
      fun i => by cases i <;> exact id
    exact absurd (hagrees hquiet) (by decide +kernel)
  · intro hagrees
    have hquiet : (runFrom
        (ProviderSettingsService.step (fun _ => true) ProviderSettingsService.offAndOn)
        (ProviderSettingsService.onModuleInit (fun _ => true) (fun _ => none) true)
        overlapping).Quiet .sms :=
      fun i => by cases i <;> exact id
    exact absurd (hagrees .sms hquiet) (by decide +kernel)

end VielHome.Operations
