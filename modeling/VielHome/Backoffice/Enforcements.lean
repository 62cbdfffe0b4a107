import VielHome.Backoffice.RecoveryMode
import VielHome.Encoding.Url
import VielHome.Relational.FinalCommit

/-!
# The key of an enforcement action

The key of an enforcement action is made of the case and the id of the request. Any number of calls
may run at once: under one key at most one effect is ever applied, together with its record, and a
call that fails has changed nothing. But the key is looked up before anything is compared, so what a
call returns is the action that has the key, which need not be the one it asked for. It is, as long
as no action and no other call has the key for something else (`enforce_answers`).
-/

namespace VielHome.Backoffice.Enforcements

open Relational Community
open Relational.ReadCommitted (Database Discipline Event Free Mode Prog not_free_of_exclusive)
open Relational.ReadCommitted.Prog (expect query require)
open BackOfficeRepository (EnforcementEffect EnforcementParams applyEffect
  findEnforcementActionByKey insertAction issueAction recoveryMode recoveryMode_id refusesAction
  suspendedClaim suspendedClaim_id)
open FraudCaseService (EnforceDto)

variable {s s' : Store} {β : Type} {last : Store} {notes : List (Lock × Mode × Store)}
  {post : β → Store → List (Lock × Mode × Store) → (Store → Store) → Prop}

/-! ### What a call returns -/

/-- An action by what it is and whom it is against. -/
structure NamedAction where
  type : EnforcementActionType
  targetType : EnforcementTargetType
  targetPersonId : Option ℕ := none
  targetBuildingId : Option ℕ := none
  targetMembershipId : Option ℕ := none
  deriving DecidableEq

/-- What a stored action is called. -/
def nameOf (a : EnforcementAction) : NamedAction where
  type := a.type
  targetType := a.targetType
  targetPersonId := a.targetPersonId
  targetBuildingId := a.targetBuildingId
  targetMembershipId := a.targetMembershipId

/-- What an action that is asked for is called. -/
def nameOfParams (params : EnforcementParams) : NamedAction where
  type := params.type
  targetType := params.targetType
  targetPersonId := params.targetPersonId
  targetBuildingId := params.targetBuildingId
  targetMembershipId := params.targetMembershipId

/-- `recoverAction`, with the action that it returns. -/
def recoverAction (idempotencyKey : String) : Failure → Call NamedAction
  | .uniqueConstraint => do
    let action ← query (findEnforcementActionByKey idempotencyKey)
    let action ← expect action .recordNotFound
    pure (nameOf action)
  | e => .fail e

/-- `createEnforcementActionWithEffect`, with the action that it returns. -/
def createEnforcementActionWithEffect (params : EnforcementParams) (now : Time) :
    Call NamedAction := do
  let existing ← query (findEnforcementActionByKey params.idempotencyKey)
  match existing with
  | some action => pure (nameOf action)
  | none =>
    Prog.tryCatch
      (do
        issueAction params now
        pure (nameOfParams params))
      (recoverAction params.idempotencyKey)

/-- What is checked of a call before its action is issued. -/
def assertEnforceable (caseId : ℕ) (dto : EnforceDto) (issuedById : ℕ) : Call PUnit := do
  let kase ← FraudCaseService.getCase caseId
  require (kase.status = .confirmed) (.businessRuleViolation
    "Enforcement actions may only be issued against a CONFIRMED fraud case.")
  FraudCaseService.assertTargetMatchesType dto kase
  let staff ← query (BackOfficeRepository.getActivePlatformStaff issuedById)
  let staff ← expect staff (.authorization "This action requires platform staff access.")
  FraudCasePolicy.assertCanIssueEnforcement dto.type staff.role

/-- `RequestContextMiddleware.use`: the id that a client sends, unless it is blank. -/
def requestIdOf (incoming : Option String) (randomUUID : String) : String :=
  match incoming with
  | some incoming => if trim incoming ≠ "" then incoming else randomUUID
  | none => randomUUID

/-- A request for an action. -/
structure Enforcement where
  caseId : ℕ
  dto : EnforceDto
  issuedById : ℕ
  incoming : Option String
  randomUUID : String := ""
  now : Time

namespace Enforcement

variable (e : Enforcement)

/-- The id of the request. -/
def requestId : String := requestIdOf e.incoming e.randomUUID

/-- What the repository is asked for. -/
def params : EnforcementParams where
  fraudCaseId := e.caseId
  type := e.dto.type
  targetType := e.dto.targetType
  targetPersonId := e.dto.targetPersonId
  targetBuildingId := e.dto.targetBuildingId
  targetMembershipId := e.dto.targetMembershipId
  reason := e.dto.reason
  issuedById := e.issuedById
  idempotencyKey := s!"{e.caseId}:{e.requestId}"

/-- The idempotency key of the action. -/
def key : String := e.params.idempotencyKey

/-- The action that is asked for. -/
def named : NamedAction := nameOfParams e.params

/-- `FraudCaseService.enforce`, with the action that it returns: without it, the two are the same
(`enforce_eq_call`). -/
def call : Call NamedAction := do
  assertEnforceable e.caseId e.dto e.issuedById
  createEnforcementActionWithEffect e.params e.now

end Enforcement

/-- The call does what `enforce` does, and returns an action. -/
theorem enforce_eq_call (e : Enforcement) :
    FraudCaseService.enforce e.caseId e.dto e.issuedById e.requestId e.now =
      e.call >>= fun _ => pure ⟨⟩ := by
  have hcreate : BackOfficeRepository.createEnforcementActionWithEffect e.params e.now =
      createEnforcementActionWithEffect e.params e.now >>= fun _ => pure ⟨⟩ := by
    rw [BackOfficeRepository.createEnforcementActionWithEffect, createEnforcementActionWithEffect,
      Prog.bind_assoc]
    refine congrArg (query _ >>= ·) (funext fun existing => ?_)
    cases existing with
    | some action => rfl
    | none =>
      refine Eq.trans ?_ (Prog.tryCatch_bind_done _ _ fun _ => PUnit.unit).symm
      rw [Prog.bind_assoc]
      refine congrArg₂ Prog.tryCatch (Prog.bind_done _).symm (funext fun e => ?_)
      cases e with
      | uniqueConstraint =>
        rw [recoverAction, Prog.bind_assoc]
        refine congrArg (fun f => query (findEnforcementActionByKey e.params.idempotencyKey) >>= f)
          (funext fun action => ?_)
        cases action <;> rfl
      | app | foreignKey | recordNotFound | checkConstraint | invalidArgument => rfl
  rw [FraudCaseService.enforce, Enforcement.call, assertEnforceable]
  simp only [Prog.bind_assoc]
  rw [← hcreate]
  rfl

/-! ### The effect of an action -/

theorem recoveryMode_some_id (now : Time) (b : Building) :
    (recoveryMode (some now) b).id = b.id := recoveryMode_id (some now) b

/-- The store after the effect of an action. -/
def afterEffect (now : Time) : Option EnforcementEffect → Store → Store
  | some (.suspendAccount personId), s =>
    s.onPersons (·.modify personId fun r => { r with isSuspended := true })
  | some (.revokeBuilding buildingId), s =>
    s.onBuildings (·.modify buildingId fun b => { b with status := .rejected })
  | some (.revokeManagerClaim membershipId buildingId), s =>
    (s.onMemberships (·.modify membershipId suspendedClaim suspendedClaim_id)).onBuildings
      (·.modify buildingId (recoveryMode (some now)) (recoveryMode_some_id now))
  | none, s => s

/-- The effect leaves the actions as they are. -/
theorem afterEffect_actions (now : Time) (effect : Option EnforcementEffect) (s : Store) :
    (afterEffect now effect s).enforcementActions = s.enforcementActions := by
  match effect with
  | some (.suspendAccount _) => rfl
  | some (.revokeBuilding _) => rfl
  | some (.revokeManagerClaim _ _) => rfl
  | none => rfl

/-- The effect of the action and its record, made at once where no action has the key. -/
def Issues (e : Enforcement) (s s' : Store) : Prop :=
  findEnforcementActionByKey e.key s = none ∧ ∃ previous,
    s' = (afterEffect e.now e.params.effect s).onEnforcementActions
      (·.create (issued e.params previous) (issued_id e.params previous))

/-- No action is lost. -/
def KeepsActions (s s' : Store) : Prop := ∀ a ∈ s.enforcementActions, a ∈ s'.enforcementActions

variable {e : Enforcement} {key : String}

/-- There is one action more. -/
theorem Issues.actions (h : Issues e s s') : ∃ previous, s'.enforcementActions =
    s.enforcementActions.create (issued e.params previous) (issued_id e.params previous) := by
  obtain ⟨-, previous, rfl⟩ := h
  refine ⟨previous, ?_⟩
  rw [Store.onEnforcementActions_enforcementActions, afterEffect_actions]

/-- The other actions stay. -/
theorem Issues.keeps (h : Issues e s s') : KeepsActions s s' := by
  obtain ⟨previous, hactions⟩ := h.actions
  intro a ha
  rw [hactions]
  exact Table.mem_create.mpr (Or.inl ha)

/-- No other key is taken. -/
theorem Issues.find_other (h : Issues e s s') (hne : key ≠ e.key)
    (hnone : findEnforcementActionByKey key s = none) :
    findEnforcementActionByKey key s' = none := by
  obtain ⟨previous, hactions⟩ := h.actions
  rw [findEnforcementActionByKey, List.find?_eq_none] at hnone ⊢
  intro a ha
  rw [hactions] at ha
  rcases Table.mem_create.mp ha with ha | rfl
  · exact hnone a ha
  · intro heq
    exact hne (Option.some.inj (of_decide_eq_true heq)).symm

/-! ### Any interleaving -/

/-- The sessions rely on the keys that they have locked. -/
def keyDiscipline : Discipline Store Lock where
  inv _ := True
  commits := KeepsActions
  kept
    | .idempotencyKey _ => true
    | _ => false
  same l _ s s' :=
    match l with
    | .idempotencyKey key =>
      findEnforcementActionByKey key s = none → findEnforcementActionByKey key s' = none
    | _ => True
  same_refl l _ s := by
    split
    · exact id
    · trivial
  same_trans l _ s₁ s₂ s₃ h h' := by
    split at h
    · exact fun hnone => h' (h hnone)
    · trivial

/-- The discipline of one call beside all the others. -/
abbrev issuing (e : Enforcement) : Discipline Store Lock :=
  keyDiscipline.owning (Issues e) fun _ _ => Issues.keeps

/-- The call has returned an action that has its key. -/
def Answered (e : Enforcement) (answer : NamedAction) (s : Store) : Prop :=
  ∃ a ∈ s.enforcementActions, a.idempotencyKey = some e.key ∧ nameOf a = answer

/-- The action that has the key answers the call. -/
theorem answered_of_find {a : EnforcementAction}
    (h : findEnforcementActionByKey e.key s = some a) : Answered e (nameOf a) s :=
  ⟨a, List.mem_of_find?_eq_some h,
    of_decide_eq_true (List.find?_some (p := fun a : EnforcementAction => decide (a.idempotencyKey = some e.key)) h), rfl⟩

/-- What follows the effect. -/
theorem safe_applyEffect {effect : Option EnforcementEffect} {now : Time}
    {f : Option PreviousTargetState → Call β}
    (h : ∀ previous last notes, (f previous).Safe (issuing e) post last notes
      (afterEffect now effect)) :
    (applyEffect now effect >>= f).Safe (issuing e) post last [] id := by
  match effect with
  | some (.suspendAccount personId) =>
    rw [applyEffect, Prog.bind_assoc]
    refine Prog.Safe.queryUnder fun s₀ _ _ _ => ?_
    rw [Prog.bind_assoc]
    refine Prog.Safe.expect fun target htarget => ?_
    rw [Prog.bind_assoc, Building.updatePerson]
    refine Prog.Safe.writeIf fun s₁ _ _ _ _ => ?_
    obtain rfl : target.id = personId := Table.key_of_find? htarget
    exact h _ _ _
  | some (.revokeBuilding buildingId) =>
    rw [applyEffect, Prog.bind_assoc]
    refine Prog.Safe.query fun s₀ _ _ _ => ?_
    rw [Prog.bind_assoc]
    refine Prog.Safe.expect fun target htarget => ?_
    rw [Prog.bind_assoc, Building.updateBuilding]
    refine Prog.Safe.writeIf fun s₁ _ _ _ _ => ?_
    obtain rfl : target.id = buildingId := Table.key_of_find? htarget
    exact h _ _ _
  | some (.revokeManagerClaim membershipId buildingId) =>
    rw [applyEffect, Prog.bind_assoc]
    refine Prog.Safe.query fun s₀ _ _ _ => ?_
    rw [Prog.bind_assoc]
    refine Prog.Safe.expect fun membership hmembership => ?_
    rw [Prog.bind_assoc]
    refine Prog.Safe.query fun s₁ _ _ _ => ?_
    rw [Prog.bind_assoc]
    refine Prog.Safe.expect fun building hbuilding => ?_
    rw [Prog.bind_assoc]
    refine Prog.Safe.require fun _ => ?_
    rw [Prog.bind_assoc, Building.updateMembership]
    refine Prog.Safe.writeIf fun s₂ _ _ _ _ => ?_
    rw [Prog.bind_assoc, Building.updateBuilding]
    refine Prog.Safe.writeIf fun s₃ _ _ _ _ => ?_
    obtain rfl : membership.id = membershipId := Table.key_of_find? hmembership
    obtain rfl : building.id = buildingId := Table.key_of_find? hbuilding
    exact h _ _ _
  | none => exact h none last []

/-- The row is not refused where no action has the key. -/
theorem find_of_refusesAction {params : EnforcementParams} (h : refusesAction params s = none) :
    findEnforcementActionByKey params.idempotencyKey s = none := by
  rw [refusesAction] at h
  split at h
  case isTrue => exact nomatch h
  case isFalse hfree => exact Option.not_isSome_iff_eq_none.mp hfree

/-- The call issues one action, and answers with the one that has the key. -/
theorem safe_createEnforcementActionWithEffect :
    (createEnforcementActionWithEffect e.params e.now).Safe (issuing e)
      (fun answer last _ _ => Answered e answer last) last [] id := by
  rw [createEnforcementActionWithEffect]
  refine Prog.Safe.query fun s _ _ _ => ?_
  split
  case h_1 action haction => exact answered_of_find haction
  case h_2 =>
    refine Prog.Safe.tryCatch ?_ fun failure last => ?_
    · rw [issueAction, Prog.transaction, Prog.bind_assoc, Prog.bind_assoc]
      refine safe_applyEffect fun previous last notes => ?_
      rw [insertAction]
      refine Prog.Safe.writeUnless fun s₀ _ _ _ hrefused => ?_
      rw [Prog.bind_assoc]
      refine Prog.Safe.commitAll fun s _ _ hknows => ?_
      have hnote : (.idempotencyKey e.key, .exclusive, s₀) ∈
          notes ++ (issuing e).taken [(.idempotencyKey e.params.idempotencyKey, .exclusive)] s₀ :=
        List.mem_append_right _ (Discipline.mem_taken List.mem_cons_self rfl)
      have hfree₀ : findEnforcementActionByKey e.key s₀ = none := by
        have hfree := find_of_refusesAction hrefused
        rw [findEnforcementActionByKey, afterEffect_actions] at hfree
        exact hfree
      have hissues : Issues e s ((afterEffect e.now e.params.effect s).onEnforcementActions
          (·.create (issued e.params previous) (issued_id e.params previous))) :=
        ⟨hknows _ hnote hfree₀, previous, rfl⟩
      refine ⟨trivial, hissues, fun l m hl => ?_, ?_⟩
      · cases l with
        | idempotencyKey key =>
          have hne : key ≠ e.key := by
            rintro rfl
            exact not_free_of_exclusive hnote hl
          exact hissues.find_other hne
        | _ => trivial
      · obtain ⟨previous', hactions⟩ := hissues.actions
        exact ⟨_, hactions ▸ Table.mem_create.mpr (Or.inr rfl), rfl, rfl⟩
    · cases failure with
      | uniqueConstraint =>
        refine Prog.Safe.query fun s _ _ _ => Prog.Safe.expect fun action haction => ?_
        exact answered_of_find haction
      | app | foreignKey | recordNotFound | checkConstraint | invalidArgument => trivial

/-- The checks write nothing. -/
theorem readOnly_assertEnforceable (caseId : ℕ) (dto : EnforceDto) (issuedById : ℕ) :
    (assertEnforceable caseId dto issuedById).ReadOnly := by
  have htarget : ∀ kase, (FraudCaseService.assertTargetMatchesType dto kase).ReadOnly := by
    intro kase
    refine (Prog.ReadOnly.require _ _).bind fun _ => (Prog.ReadOnly.require _ _).bind fun _ => ?_
    unfold FraudCaseService.assertTarget
    split <;> exact (Prog.ReadOnly.require _ _).bind fun _ => Prog.ReadOnly.require _ _
  refine ((Prog.ReadOnly.query _).bind fun _ => Prog.ReadOnly.expect _ _).bind fun kase => ?_
  refine (Prog.ReadOnly.require _ _).bind fun _ => (htarget kase).bind fun _ => ?_
  refine (Prog.ReadOnly.query _).bind fun _ => (Prog.ReadOnly.expect _ _).bind fun staff => ?_
  exact Prog.ReadOnly.require _ _

/-- A call commits nothing but its action where no action has its key, and returns one that has
it. -/
theorem safe_call (e : Enforcement) :
    e.call.Safe (issuing e) (fun answer last _ _ => Answered e answer last) last [] id :=
  Prog.Safe.readOnly (readOnly_assertEnforceable _ _ _) fun _ _ _ =>
    safe_createEnforcementActionWithEffect

/-! ### The commit of a call is its last step -/

/-- The effect does not commit. -/
theorem open_applyEffect (now : Time) (effect : Option EnforcementEffect) :
    (applyEffect now effect).Open := by
  match effect with
  | some (.suspendAccount personId) =>
    refine (Prog.Open.queryUnder _ _).bind fun _ => (Prog.Open.expect _ _).bind fun target => ?_
    exact Prog.Open.writeIf.bind fun _ => trivial
  | some (.revokeBuilding buildingId) =>
    refine (Prog.Open.query _).bind fun _ => (Prog.Open.expect _ _).bind fun target => ?_
    exact Prog.Open.writeIf.bind fun _ => trivial
  | some (.revokeManagerClaim membershipId buildingId) =>
    refine (Prog.Open.query _).bind fun _ => (Prog.Open.expect _ _).bind fun membership => ?_
    refine (Prog.Open.query _).bind fun _ => (Prog.Open.expect _ _).bind fun building => ?_
    refine (Prog.Open.require _ _).bind fun _ => Prog.Open.writeIf.bind fun _ => ?_
    exact Prog.Open.writeIf.bind fun _ => trivial
  | none => trivial

/-- The writes of an action, before they are committed. -/
theorem open_issue (params : EnforcementParams) (now : Time) :
    (applyEffect now params.effect >>= insertAction params).Open :=
  (open_applyEffect now params.effect).bind fun _ => Prog.Open.writeUnless

/-- The commit is the last thing that a call does. -/
theorem commitsLast_call (e : Enforcement) : e.call.CommitsLast := by
  refine Prog.CommitsLast.bind (.of_readOnly (readOnly_assertEnforceable _ _ _)) fun _ => ?_
  refine Prog.CommitsLast.bind (.query _) fun existing => ?_
  cases existing with
  | some action => trivial
  | none =>
    refine Prog.CommitsLast.tryCatch
      (Prog.CommitsLast.transaction (open_issue e.params e.now) _) fun failure => ?_
    cases failure with
    | uniqueConstraint =>
      exact Prog.CommitsLast.bind (.query _) fun action =>
        Prog.CommitsLast.bind (.expect _ _) fun _ => trivial
    | app | foreignKey | recordNotFound | checkConstraint | invalidArgument => trivial

/-! ### How often an effect is applied -/

section Runs

variable {ι : Type} [DecidableEq ι] {calls : ι → Enforcement} {es : List (Event ι Failure)}

/-- The calls of a run, about to start. -/
abbrev begun (s : Store) (calls : ι → Enforcement) : Sessions ι NamedAction :=
  Database.start s fun i => (calls i).call

/-- The event applies and records an action under the key. -/
def applies (key : String) (d : Sessions ι NamedAction) (ev : Event ι Failure) : Bool :=
  (findEnforcementActionByKey key d.store).isNone &&
    (findEnforcementActionByKey key (d.next Lock.enforced ev).store).isSome

/-- How many events of a run do. -/
def applications (key : String) : Sessions ι NamedAction → List (Event ι Failure) → ℕ
  | _, [] => 0
  | d, ev :: es => (applies key d ev).toNat + applications key (d.next Lock.enforced ev) es

/-- Each event leaves the store, or applies and records the action of its session. -/
def IssuesOnly (calls : ι → Enforcement) (d : Sessions ι NamedAction) (ev : Event ι Failure) :
    Prop :=
  (d.next Lock.enforced ev).store = d.store ∨
    Issues (calls ev.session) d.store (d.next Lock.enforced ev).store

/-- Every event keeps the actions. -/
theorem IssuesOnly.keeps {d : Sessions ι NamedAction} {ev : Event ι Failure}
    (h : IssuesOnly calls d ev) : KeepsActions d.store (d.next Lock.enforced ev).store := by
  rcases h with h | h
  · rw [h]
    exact fun a ha => ha
  · exact h.keeps

/-- A key that is taken stays taken. -/
theorem KeepsActions.isSome (h : KeepsActions s s') (key : String)
    (hs : (findEnforcementActionByKey key s).isSome = true) :
    (findEnforcementActionByKey key s').isSome = true := by
  rw [findEnforcementActionByKey, List.find?_isSome] at hs ⊢
  obtain ⟨a, ha, hkey⟩ := hs
  exact ⟨a, h a ha, hkey⟩

/-- A key that is taken at the end was taken before, or has been taken once. -/
theorem applications_eq (d : Sessions ι NamedAction)
    (h : EachStep (Database.next Lock.enforced) (IssuesOnly calls) d es) (key : String) :
    (findEnforcementActionByKey key d.store).isSome.toNat + applications key d es =
      (findEnforcementActionByKey key
        (runFrom (Database.next Lock.enforced) d es).store).isSome.toNat := by
  induction es generalizing d with
  | nil => rfl
  | cons ev es ih =>
    rw [runFrom_cons, ← ih (d.next Lock.enforced ev) h.2, applications, ← Nat.add_assoc, applies]
    have hkeeps := h.1.keeps.isSome key
    cases hbefore : findEnforcementActionByKey key d.store with
    | none => simp
    | some a =>
      rw [hbefore] at hkeeps
      simp [hkeeps rfl]

/-- Under one key one effect is applied, together with its record; a call that returns has found
it or applied it, and a call that fails has changed nothing. -/
structure AppliedOnce (s : Store) (calls : ι → Enforcement) (es : List (Event ι Failure)) :
    Prop where
  issues : EachStep (Database.next Lock.enforced) (IssuesOnly calls) (begun s calls) es
  once : ∀ i answer,
    ((runFrom (Database.next Lock.enforced) (begun s calls) es).session i).rest = .done answer →
      (findEnforcementActionByKey (calls i).key s).isSome.toNat +
        applications (calls i).key (begun s calls) es = 1
  thrown : ∀ i failure,
    ((runFrom (Database.next Lock.enforced) (begun s calls) es).session i).rest = .fail failure →
      EachStep (Database.next Lock.enforced)
        (fun d ev => ev.session = i → (d.next Lock.enforced ev).store = d.store) (begun s calls) es

omit [DecidableEq ι] in
/-- The calls start soundly. -/
theorem soundWith_begun (s : Store) (calls : ι → Enforcement) :
    (begun s calls).SoundWith keyDiscipline (fun i => Issues (calls i))
      (fun _ _ _ => Issues.keeps) (fun i => Answered (calls i)) :=
  Database.soundWith_start trivial fun i => safe_call (calls i)

/-- Every run is orderly, as all locks are enforced. -/
theorem orderly_begun (d : Sessions ι NamedAction) (es : List (Event ι Failure)) :
    EachStep (Database.next Lock.enforced)
      (Database.Orderly Lock.enforced keyDiscipline.kept) d es := by
  refine Database.eachStep_orderly_of_enforced (fun l hl => ?_) d es
  cases l with
  | idempotencyKey key => rfl
  | _ => exact nomatch hl

/-- Every commit of a run issues one action. -/
theorem issuesOnly_begun (s : Store) (calls : ι → Enforcement) (es : List (Event ι Failure)) :
    EachStep (Database.next Lock.enforced) (IssuesOnly calls) (begun s calls) es :=
  (Database.eachStep_owns (soundWith_begun s calls) (orderly_begun _ es)).mono fun _ _ h =>
    h.imp_right fun hcommits => hcommits.own

/-- What a call has returned is the name of an action that has its key at the end. -/
theorem answered_of_done {i : ι} {answer : NamedAction}
    (h : ((runFrom (Database.next Lock.enforced) (begun s calls) es).session i).rest =
      .done answer) :
    Answered (calls i) answer (runFrom (Database.next Lock.enforced) (begun s calls) es).store := by
  obtain ⟨last, hlater, a, ha, hkey, hname⟩ :=
    Database.answer_of_done (soundWith_begun s calls) (orderly_begun _ es) h
  have hkeeps : ∀ s s', KeepsActions s s' → a ∈ s.enforcementActions → a ∈ s'.enforcementActions :=
    fun _ _ h => h a
  exact ⟨a, Discipline.Later.keeps (D := keyDiscipline) hkeeps hlater ha, hkey, hname⟩

/-- Under each key there is one effect at most. -/
theorem appliedOnce_begun (s : Store) (calls : ι → Enforcement) (es : List (Event ι Failure)) :
    AppliedOnce s calls es where
  issues := issuesOnly_begun s calls es
  once i answer h := by
    obtain ⟨a, ha, hkey, -⟩ := answered_of_done h
    have htaken : (findEnforcementActionByKey (calls i).key
        (runFrom (Database.next Lock.enforced) (begun s calls) es).store).isSome = true :=
      List.find?_isSome.mpr ⟨a, ha, decide_eq_true hkey⟩
    have hcount :=
      applications_eq (begun s calls) (issuesOnly_begun s calls es) (calls i).key
    rw [htaken] at hcount
    exact hcount
  thrown i failure h := by
    refine Database.unchanged_of_ne_done (commitsLast_call (calls i)) fun answer hdone => ?_
    rw [h] at hdone
    exact nomatch hdone

/-! ### Whose action is returned -/

/-- The key is the number of the case, a colon, and the id of the request. -/
theorem toList_key (e : Enforcement) :
    e.key.toList = Nat.toDigits 10 e.caseId ++ ':' :: e.requestId.toList := by
  have hcolon : (toString ":").toList = [':'] := rfl
  have hrequest : toString e.requestId = e.requestId := rfl
  simp [Enforcement.key, Enforcement.params, hcolon, hrequest]

/-- A key tells the case and the id of the request: a case has no colon. -/
theorem key_inj {e e' : Enforcement} (h : e.key = e'.key) :
    e.caseId = e'.caseId ∧ e.requestId = e'.requestId := by
  have hcolon : ∀ caseId : ℕ, ':' ∉ Nat.toDigits 10 caseId := by
    intro caseId hmem
    have hdigit := Nat.isDigit_of_mem_toDigits (by decide) (by decide) hmem
    exact absurd hdigit (by decide)
  have hcut := congrArg (fun key : String => Encoding.Url.cut ':' key.toList) h
  simp only [toList_key, Encoding.Url.cut_append (hcolon _), Prod.mk.injEq] at hcut
  refine ⟨?_, String.toList_inj.mp hcut.2⟩
  rw [← Nat.ofDigitChars_ten_toDigits (n := e.caseId), hcut.1, Nat.ofDigitChars_ten_toDigits]

/-- No action and no other call has the case and the request id of a call for another action. -/
def Agreed (s : Store) (calls : ι → Enforcement) : Prop :=
  ∀ i, (∀ a ∈ s.enforcementActions, a.idempotencyKey = some (calls i).key →
      nameOf a = (calls i).named) ∧
    ∀ j, (calls j).caseId = (calls i).caseId → (calls j).requestId = (calls i).requestId →
      (calls j).named = (calls i).named

/-- Every call that returns does so with the action that it asked for. -/
def ReturnsItsOwn (s : Store) (calls : ι → Enforcement) (es : List (Event ι Failure)) : Prop :=
  ∀ i answer,
    ((runFrom (Database.next Lock.enforced) (begun s calls) es).session i).rest = .done answer →
      answer = (calls i).named

/-- An action that has a key was there, or is the one a call with the key asked for. -/
theorem named_of_mem (d : Sessions ι NamedAction)
    (h : EachStep (Database.next Lock.enforced) (IssuesOnly calls) d es) {a : EnforcementAction}
    (ha : a ∈ (runFrom (Database.next Lock.enforced) d es).store.enforcementActions) :
    a ∈ d.store.enforcementActions ∨
      ∃ i, a.idempotencyKey = some (calls i).key ∧ nameOf a = (calls i).named := by
  induction es generalizing d with
  | nil => exact Or.inl ha
  | cons ev es ih =>
    rcases ih (d.next Lock.enforced ev) h.2 ha with hmem | hcall
    · rcases h.1 with hsame | hissues
      · exact Or.inl (hsame ▸ hmem)
      · obtain ⟨previous, hactions⟩ := hissues.actions
        rw [hactions] at hmem
        rcases Table.mem_create.mp hmem with hmem | rfl
        · exact Or.inl hmem
        · exact Or.inr ⟨ev.session, rfl, rfl⟩
    · exact Or.inr hcall

/-- Where calls and actions agree each call is answered by its own. -/
theorem returnsItsOwn_of_agreed (h : Agreed s calls) : ReturnsItsOwn s calls es := by
  intro i answer hdone
  obtain ⟨a, ha, hkey, rfl⟩ := answered_of_done hdone
  rcases named_of_mem (begun s calls) (issuesOnly_begun s calls es) ha with hmem | ⟨j, hj, hname⟩
  · exact (h i).1 a hmem hkey
  · obtain ⟨hcase, hrequest⟩ := key_inj (Option.some.inj (hj.symm.trans hkey))
    exact hname.trans ((h i).2 j hcase hrequest)

end Runs

/-! ### A call that runs alone -/

/-- A key that is taken answers with its action. -/
theorem outcome_createEnforcementActionWithEffect {a : EnforcementAction} {e : Enforcement}
    (h : findEnforcementActionByKey e.key s = some a) :
    (createEnforcementActionWithEffect e.params e.now).outcome s = .ok (nameOf a) := by
  rw [createEnforcementActionWithEffect, Prog.outcome, Prog.query_bind, Prog.solo_stmt, id]
  change (Prog.solo (match findEnforcementActionByKey e.key s with
    | some action => pure (nameOf action)
    | none => _) s s).1 = _
  rw [h]
  rfl

/-- A key that is free answers with what was asked for. -/
theorem named_of_outcome {answer : NamedAction} {e : Enforcement}
    (hnone : findEnforcementActionByKey e.key s = none)
    (h : (createEnforcementActionWithEffect e.params e.now).outcome s = .ok answer) :
    answer = e.named := by
  have hkey : findEnforcementActionByKey e.params.idempotencyKey s = none := hnone
  simp only [createEnforcementActionWithEffect, Prog.outcome, Prog.query_bind, Prog.solo_stmt, id,
    hkey] at h
  rw [Prog.solo_tryCatch, issueAction, Prog.solo_transaction_bind] at h
  have hcommitted := (open_issue e.params e.now).solo_committed s s
  generalize Prog.solo (applyEffect e.now e.params.effect >>= insertAction e.params) s s = result
    at h hcommitted
  obtain ⟨outcome, c, w⟩ := result
  cases outcome with
  | ok _ => exact (Except.ok.inj h).symm
  | error failure =>
    obtain rfl : c = s := hcommitted
    -- nothing has the key, so there is nothing to recover
    cases failure with
    | uniqueConstraint =>
      simp only [recoverAction, Prog.query_bind, Prog.solo_stmt, id] at h
      rw [show findEnforcementActionByKey e.params.idempotencyKey c = none from hnone] at h
      cases h
    | app | foreignKey | recordNotFound | checkConstraint | invalidArgument => cases h

/-- Alone, a call that passes its checks returns its own action exactly when no other one has its
key. -/
theorem outcome_call_iff (e : Enforcement) (s : Store) :
    (∀ answer, e.call.outcome s = .ok answer → answer = e.named) ↔
      ((assertEnforceable e.caseId e.dto e.issuedById).outcome s = .ok ⟨⟩ →
        ∀ a, findEnforcementActionByKey e.key s = some a → nameOf a = e.named) := by
  have hcall : e.call.outcome s =
      ((assertEnforceable e.caseId e.dto e.issuedById).outcome s).bind fun _ =>
        (createEnforcementActionWithEffect e.params e.now).outcome s := by
    rw [Enforcement.call, Prog.outcome, Prog.solo_bind,
      (readOnly_assertEnforceable e.caseId e.dto e.issuedById).solo s]
    cases (assertEnforceable e.caseId e.dto e.issuedById).outcome s <;> rfl
  rw [hcall]
  cases hchecks : (assertEnforceable e.caseId e.dto e.issuedById).outcome s with
  | error failure => exact iff_of_true (fun _ h => by cases h) (fun h => by cases h)
  | ok _ =>
    constructor
    · intro h _ a ha
      exact h _ (outcome_createEnforcementActionWithEffect ha)
    · intro h answer hanswer
      cases hfind : findEnforcementActionByKey e.key s with
      | none => exact named_of_outcome hfind hanswer
      | some a =>
        rw [outcome_createEnforcementActionWithEffect hfind] at hanswer
        rw [← Except.ok.inj hanswer]
        exact h rfl a hfind

/-! ### The claim of the key -/

/-- A fraud case that is confirmed for person 0, and an admin. -/
def confirmedCase : Store :=
  { Store.empty with
    persons := (Table.empty.create fun id => { id, phone := "1" }).create fun id =>
      { id, phone := "2" }
    platformStaff := Table.empty.create fun id => { id, personId := 1, role := .platformAdmin }
    fraudCases := Table.empty.create fun id =>
      { id, status := .confirmed, source := .userReport, targetPersonId := some 0 } }

/-- A request of the admin against person 0, with the id that the client sent. -/
def against (type : EnforcementActionType) : Enforcement where
  caseId := 0
  dto := { type, targetType := .person, targetPersonId := some 0 }
  issuedById := 1
  incoming := some "r"
  now := 1

/-- However any number of calls take their steps: each effect is applied with its record and once
under its key, and a call that fails changes nothing. What is returned is the action that was asked
for as long as nothing else has its key; and alone, a call that passes its checks returns the
action of another one exactly when that has its key. -/
theorem enforce_answers {ι : Type} [DecidableEq ι] (s : Store) (calls : ι → Enforcement)
    (es : List (Event ι Failure)) :
    AppliedOnce s calls es ∧ (Agreed s calls → ReturnsItsOwn s calls es) ∧
      ∀ i, (∀ answer, (calls i).call.outcome s = .ok answer → answer = (calls i).named) ↔
        ((assertEnforceable (calls i).caseId (calls i).dto (calls i).issuedById).outcome s =
            .ok ⟨⟩ →
          ∀ a, findEnforcementActionByKey (calls i).key s = some a →
            nameOf a = (calls i).named) :=
  ⟨appliedOnce_begun s calls es, returnsItsOwn_of_agreed, fun i => outcome_call_iff (calls i) s⟩

/-- A warning that two clients ask for at once is issued once. -/
theorem enforce_answers_warning :
    ReturnsItsOwn confirmedCase (fun _ : Fin 2 => against .warning)
      (List.replicate 12 [Event.step 0, Event.step 1]).flatten :=
  (enforce_answers confirmedCase (fun _ => against .warning)
    (List.replicate 12 [Event.step 0, Event.step 1]).flatten).2.1 fun _ =>
      ⟨fun _ ha => absurd ha List.not_mem_nil, fun _ _ _ => rfl⟩

/-- A warning, and a suspension under the same id. -/
def warnedAndSuspended : Fin 2 → Enforcement
  | 0 => against .warning
  | 1 => against .accountSuspension

/-- A suspension under the id of a request that warned: the call returns the warning, and nobody is
suspended. -/
theorem not_returnsItsOwn_suspension :
    ¬∀ (s : Store) (calls : Fin 2 → Enforcement) (es : List (Event (Fin 2) Failure)),
      ReturnsItsOwn s calls es := by
  intro h
  have hreturned := h confirmedCase warnedAndSuspended
    (List.replicate 9 (Event.step 0) ++ List.replicate 9 (Event.step 1)) 1
    { type := .warning, targetType := .person, targetPersonId := some 0 } rfl
  exact absurd hreturned (by decide +kernel)

end VielHome.Backoffice.Enforcements
