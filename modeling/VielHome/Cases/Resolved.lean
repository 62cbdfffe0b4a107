import VielHome.Cases.Service
import VielHome.Relational.Discipline

/-!
# Resolved support cases in any interleaving

A support case that is still worked on has no date of a resolution or a closing and is not merged,
and one that is resolved or closed stays so until its creator reopens it (`ActiveUnresolved`,
`LeavesByReopening`). Half of the calls make sure of this: they claim the case in the status that
they have read. An answer does not: it reads the case, adds its message, and then writes the new
status whatever the status has become (`SupportCall.inTime`); and a reopening claims the status,
but not that the case is still unmerged.

So the two hold in every run in which an answer that goes on to write finds the case neither
resolved nor closed, and a reopening finds it unmerged (`resolved_until_reopened`). Closing a case
writes its status without looking as well, which does no harm: nothing is claimed of a closed case
but that it is reopened before it is worked on.
-/

namespace VielHome.Cases.Resolved

open Relational Community
open Relational.ReadCommitted (Database Discipline Event Free Mode Prog not_free_of_exclusive)
open SupportCasePolicy (CLOSED_STATUSES)
open BackOfficeRepository (escalated supportAssigned supportMerged supportReopened supportResolved
  withStatus)

variable {s s' : Store} {caseId : ℕ} {α β : Type} {last : Store}
  {notes : List (Lock × Mode × Store)}
  {post : β → Store → List (Lock × Mode × Store) → (Store → Store) → Prop}

/-! ### What is kept -/

/-- A support case that is still worked on was not resolved or closed since it was opened or
reopened, and is not merged. -/
def ActiveUnresolved (s : Store) : Prop :=
  ∀ c ∈ s.supportCases, c.status ∈ [.open, .inProgress, .waitingUser] →
    c.resolvedAt = none ∧ c.closedAt = none ∧ c.mergedIntoId = none

theorem mem_active_iff {status : CaseStatus} :
    status ∈ [.open, .inProgress, .waitingUser] ↔ status ∉ CLOSED_STATUSES := by
  cases status <;> decide

/-- A call that works on a support case. -/
inductive SupportCall
  | open (priority : Option VerificationPriority) (createdById : ℕ)
  | assign (caseId assigneeId : ℕ)
  | addStaffMessage (caseId : ℕ) (body : String) (isInternal : Bool) (senderId : ℕ) (now : Time)
  | replyAsCreator (caseId : ℕ) (body : String) (callerPersonId : ℕ) (now : Time)
  | resolve (caseId : ℕ) (resolutionCode : SupportCaseResolutionCode) (resolution : Option String)
      (now : Time)
  | close (caseId : ℕ) (now : Time)
  | reopen (caseId : ℕ) (reason : String) (actorPersonId : ℕ)
  | escalate (caseId : ℕ)
  | merge (caseId intoCaseId : ℕ) (now : Time)

namespace SupportCall

/-- The method of the service that the call is made to. -/
def call : SupportCall → Call PUnit
  | .open priority createdById => SupportCaseService.open priority createdById
  | assign caseId assigneeId => SupportCaseService.assign caseId assigneeId
  | addStaffMessage caseId body isInternal senderId now =>
    SupportCaseService.addStaffMessage caseId body isInternal senderId now
  | replyAsCreator caseId body callerPersonId now =>
    SupportCaseService.replyAsCreator caseId body callerPersonId now
  | resolve caseId resolutionCode resolution now =>
    SupportCaseService.resolve caseId resolutionCode resolution now
  | close caseId now => SupportCaseService.close caseId now
  | reopen caseId reason actorPersonId => SupportCaseService.reopen caseId reason actorPersonId
  | escalate caseId => SupportCaseService.escalate caseId
  | merge caseId intoCaseId now => SupportCaseService.merge caseId intoCaseId now

/-- What the update of a call has to find of the case, beyond what it claims: an answer a case that
is still worked on, and a reopening one that is not merged. -/
def inTime : SupportCall → SupportCase → Bool
  | addStaffMessage _ _ _ _ _, c => c.status ∉ CLOSED_STATUSES
  | replyAsCreator _ _ _ _, c => c.status ∉ CLOSED_STATUSES
  | reopen _ _ _, c => c.mergedIntoId = none
  | _, _ => true

/-- What a commit of the call makes of the row of a support case that it changes. -/
def Turns : SupportCall → ℕ → SupportCase → SupportCase → Prop
  | .open _ _, _, _, _ => False
  | assign caseId assigneeId, id, c, c' =>
    id = caseId ∧ c.status ∉ CLOSED_STATUSES ∧ c' = supportAssigned assigneeId c
  | addStaffMessage caseId _ _ _ now, id, c, c' => id = caseId ∧ c' = withStatus .waitingUser now c
  | replyAsCreator caseId _ _ now, id, c, c' => id = caseId ∧ c' = withStatus .inProgress now c
  | resolve caseId resolutionCode resolution now, id, c, c' =>
    id = caseId ∧ c.status ∉ CLOSED_STATUSES ∧ c' = supportResolved resolutionCode resolution now c
  | close caseId now, id, c, c' => id = caseId ∧ c' = withStatus .closed now c
  | reopen caseId _ _, id, c, c' => id = caseId ∧ c' = supportReopened c
  | escalate caseId, id, c, c' => id = caseId ∧ ∃ priority, c' = escalated priority c
  | merge caseId intoCaseId now, id, c, c' =>
    id = caseId ∧ c' = supportMerged intoCaseId now c

/-- What a commit of the call makes of the support cases. -/
def Makes (call : SupportCall) (s s' : Store) : Prop :=
  ∀ id, s'.supportCases.find? id = s.supportCases.find? id ∨
    (s.supportCases.find? id = none ∧
      ∃ c', s'.supportCases.find? id = some c' ∧ c'.status = .open ∧ c'.resolvedAt = none ∧
        c'.closedAt = none ∧ c'.mergedIntoId = none) ∨
    ∃ c c', s.supportCases.find? id = some c ∧ s'.supportCases.find? id = some c' ∧
      call.Turns id c c'

end SupportCall

/-- The sessions rely on the rows that they have locked. -/
def rowDiscipline : Discipline Store Lock where
  inv _ := True
  commits _ _ := True
  kept
    | .row .supportCase _ => true
    | _ => false
  same l _ s s' :=
    match l with
    | .row .supportCase id =>
      ∀ c, s.supportCases.find? id = some c → s'.supportCases.find? id = some c
    | _ => True
  same_refl l _ s := by
    split
    · exact fun c hc => hc
    · trivial
  same_trans l _ s₁ s₂ s₃ h h' := by
    split at h
    · exact fun c hc => h' c (h c hc)
    · trivial

/-- The discipline of one call beside all the others. -/
def turning (call : SupportCall) : Discipline Store Lock :=
  rowDiscipline.owning call.Makes fun _ _ _ => trivial

/-! ### What a commit does -/

variable {call : SupportCall}

/-- A commit that leaves the support cases alone. -/
theorem quiet_commit {P : Prop} (h : s'.supportCases = s.supportCases) (hrest : P) :
    True ∧ call.Makes s s' ∧ (∀ l m, Free notes l m → (turning call).same l m s s') ∧ P := by
  refine ⟨trivial, fun id => Or.inl (by rw [h]), fun l m _ => ?_, hrest⟩
  cases l with
  | row table id =>
    cases table with
    | buildingCase => trivial
    | supportCase => exact fun c hc => by rw [h, hc]
  | merge table id => trivial

/-- A commit that rewrites a support case whose row the session has locked. -/
theorem update_commit {P : Prop} {s₀ : Store} {c : SupportCase} {f : SupportCase → SupportCase}
    {hf : ∀ c, (f c).id = c.id} (hnote : (.row .supportCase caseId, .exclusive, s₀) ∈ notes)
    (hknows : (turning call).Knows notes s) (hc : s₀.supportCases.find? caseId = some c)
    (hturns : call.Turns caseId c (f c)) (hrest : P) :
    True ∧ call.Makes s (s.onSupportCases (·.modify caseId f hf)) ∧
      (∀ l m, Free notes l m →
        (turning call).same l m s (s.onSupportCases (·.modify caseId f hf))) ∧ P := by
  have hrow : s.supportCases.find? caseId = some c := hknows _ hnote c hc
  refine ⟨trivial, fun id => ?_, fun l m hl => ?_, hrest⟩
  · rw [Store.onSupportCases_supportCases]
    by_cases hid : id = caseId
    · subst hid
      exact Or.inr (Or.inr ⟨c, f c, hrow, Table.find?_modify_self hrow, hturns⟩)
    · exact Or.inl (Table.find?_modify_ne hid)
  · cases l with
    | row table id =>
      cases table with
      | buildingCase => trivial
      | supportCase =>
        -- the row that changes is locked by the session
        have hid : id ≠ caseId := fun hid => not_free_of_exclusive hnote (hid ▸ hl)
        exact fun c' hc' => (Table.find?_modify_ne (h := hf) hid).trans hc'
    | merge table id => trivial

/-- A commit that opens a support case. -/
theorem create_commit {P : Prop} {priority : VerificationPriority} {createdById : ℕ}
    (hrest : P) :
    True ∧ call.Makes s (s.onSupportCases
        (·.create (fun id => { id, priority, createdById }) fun _ => rfl)) ∧
      (∀ l m, Free notes l m → (turning call).same l m s (s.onSupportCases
        (·.create (fun id => { id, priority, createdById }) fun _ => rfl))) ∧ P := by
  refine ⟨trivial, fun id => ?_, fun l m _ => ?_, hrest⟩
  · rw [Store.onSupportCases_supportCases, Table.find?_create]
    split
    case isTrue hid =>
      have hnone : s.supportCases.find? id = none := Table.find?_of_next_le hid.ge
      exact Or.inr (Or.inl ⟨hnone, _, rfl, rfl, rfl, rfl, rfl⟩)
    case isFalse => exact Or.inl rfl
  · cases l with
    | row table id =>
      cases table with
      | buildingCase => trivial
      | supportCase => exact fun c hc => Table.find?_create_of_find? hc
    | merge table id => trivial

/-! ### The statements of the calls -/

section Statements

variable {f : PUnit → Call β} {g : SupportCase → SupportCase} {hg : ∀ c, (g c).id = c.id}

/-- A transaction that rewrites a support case by its id. -/
theorem safe_updateSupportCase (hturns : ∀ c, call.Turns caseId c (g c))
    (hf : ∀ last, (f ⟨⟩).Safe (turning call) post last [] id) :
    (BackOfficeRepository.updateSupportCase caseId g hg >>= f).Safe (turning call) post last notes
      id := by
  rw [BackOfficeRepository.updateSupportCase, Prog.transaction, Prog.bind_assoc]
  refine Prog.Safe.writeIf fun s₀ _ _ _ hfound => Prog.Safe.commitAll fun s _ _ hknows => ?_
  obtain ⟨c, hc⟩ := Option.isSome_iff_exists.mp hfound
  exact update_commit (List.mem_append_right _ (Discipline.mem_taken List.mem_cons_self rfl))
    hknows hc (hturns c) (hf _)

/-- A transaction that rewrites a support case which matches, and still does once its row is
locked. -/
theorem safe_claim {locks : List (Lock × Mode)} {matched : Store → Bool} {e : Failure}
    (hlock : (.row .supportCase caseId, .exclusive) ∈ locks)
    (hturns : ∀ s, matched s = true →
      ∃ c, s.supportCases.find? caseId = some c ∧ call.Turns caseId c (g c))
    (hf : ∀ last, (f ⟨⟩).Safe (turning call) post last [] id) :
    (Prog.transaction (do
      let found ← Prog.query matched
      Prog.require (found = true) e
      Prog.writeIf locks matched e fun s => s.onSupportCases (·.modify caseId g hg)) >>= f).Safe
        (turning call) post last notes id := by
  rw [Prog.transaction, Prog.bind_assoc, Prog.bind_assoc]
  refine Prog.Safe.query fun _ _ _ _ => ?_
  rw [Prog.bind_assoc]
  refine Prog.Safe.require fun _ => Prog.Safe.writeIf fun s₀ _ _ _ hmatched => ?_
  refine Prog.Safe.commitAll fun s _ _ hknows => ?_
  obtain ⟨c, hc, hturn⟩ := hturns s₀ hmatched
  exact update_commit (List.mem_append_right _ (Discipline.mem_taken hlock rfl)) hknows hc hturn
    (hf _)

end Statements

/-! ### Reading a case -/

theorem safe_getCase {relies : SupportCase → Bool} {f : SupportCase → Call β}
    (h : ∀ c last notes, (f c).Safe (turning call) post last notes id) :
    (SupportCaseService.getCase caseId relies >>= f).Safe (turning call) post last notes id := by
  rw [SupportCaseService.getCase, Prog.bind_assoc]
  exact Prog.Safe.queryUnder fun s _ _ _ => Prog.Safe.expect fun c _ => h c _ _

theorem safe_getCaseForOwner {callerPersonId : ℕ} {relies : SupportCase → Bool}
    {f : SupportCase → Call β} (h : ∀ c last notes, (f c).Safe (turning call) post last notes id) :
    (SupportCaseService.getCaseForOwner caseId callerPersonId relies >>= f).Safe (turning call) post
      last notes id := by
  rw [SupportCaseService.getCaseForOwner, Prog.bind_assoc]
  refine Prog.Safe.queryUnder fun s _ _ _ => ?_
  split
  · exact h _ _ _
  · rw [Prog.bind_assoc]
    refine safe_getCase fun existing _ _ => ?_
    rw [Prog.bind_assoc]
    exact Prog.Safe.require fun _ => trivial

theorem safe_addSupportCaseMessage {senderId : ℕ} {body : String} {isInternal : Bool}
    {f : PUnit → Call β} (h : ∀ last notes, (f ⟨⟩).Safe (turning call) post last notes id) :
    (BackOfficeRepository.addSupportCaseMessage caseId senderId body isInternal >>= f).Safe
      (turning call) post last notes id := by
  rw [BackOfficeRepository.addSupportCaseMessage, Prog.bind_assoc]
  refine Prog.Safe.write fun _ _ _ _ => Prog.Safe.commitKeeping fun s _ _ _ => ?_
  refine quiet_commit rfl ⟨fun n _ hkeep => ?_, h _ _⟩
  rw [List.mem_singleton.mp hkeep]
  trivial

/-! ### The calls -/

namespace SupportCall

theorem safe_resolvePermissions {personId : ℕ} {f : List PermissionKey → Call β}
    (h : ∀ granted last, (f granted).Safe (turning call) post last notes id) :
    (PermissionResolverService.resolve personId >>= f).Safe (turning call) post last notes id := by
  rw [PermissionResolverService.resolve, Prog.bind_assoc]
  refine Prog.Safe.query fun s _ _ _ => ?_
  split
  · exact h _ _
  · exact Prog.Safe.query fun _ _ _ _ => h _ _

theorem of_hasStatus {status : CaseStatus} {R : SupportCase → Prop}
    (h : ∀ c, c.status = status → R c) (hs : BackOfficeRepository.hasStatus caseId status s = true) :
    ∃ c, s.supportCases.find? caseId = some c ∧ R c := by
  obtain ⟨c, hc, hstatus⟩ := (Option.any_eq_true _ _).mp hs
  exact ⟨c, hc, h c (of_decide_eq_true hstatus)⟩

/-- Each call changes the support cases as it says, whatever the others do meanwhile. -/
theorem safe (call : SupportCall) :
    call.call.Safe (turning call) (fun _ _ _ _ => True) last [] id := by
  cases call with
  | «open» priority createdById =>
    rw [SupportCall.call, SupportCaseService.open, BackOfficeRepository.createSupportCase,
      Prog.transaction]
    refine Prog.Safe.write fun _ _ _ _ => Prog.Safe.commitAll fun s _ _ _ => ?_
    exact create_commit trivial
  | assign caseId assigneeId =>
    rw [SupportCall.call, SupportCaseService.assign]
    refine safe_getCase fun kase _ _ => Prog.Safe.require fun hactionable =>
      safe_resolvePermissions fun _ _ => Prog.Safe.require fun _ => ?_
    rw [BackOfficeRepository.assignSupportCase, ← Prog.bind_done (Prog.transaction _)]
    refine safe_claim List.mem_cons_self (fun s hmatched => ?_) fun _ => trivial
    exact of_hasStatus (fun c hc => ⟨rfl, hc ▸ hactionable, rfl⟩) hmatched
  | addStaffMessage caseId body isInternal senderId now =>
    rw [SupportCall.call, SupportCaseService.addStaffMessage]
    refine safe_getCase fun kase _ _ => Prog.Safe.require fun _ =>
      safe_addSupportCaseMessage fun _ _ => ?_
    split
    · rw [← Prog.bind_done (BackOfficeRepository.updateSupportCaseStatus _ _ _)]
      exact safe_updateSupportCase (fun _ => ⟨rfl, rfl⟩) fun _ => trivial
    · trivial
  | replyAsCreator caseId body callerPersonId now =>
    rw [SupportCall.call, SupportCaseService.replyAsCreator]
    refine safe_getCaseForOwner fun kase _ _ => Prog.Safe.require fun _ =>
      safe_addSupportCaseMessage fun _ _ => ?_
    split
    · rw [← Prog.bind_done (BackOfficeRepository.updateSupportCaseStatus _ _ _)]
      exact safe_updateSupportCase (fun _ => ⟨rfl, rfl⟩) fun _ => trivial
    · trivial
  | resolve caseId resolutionCode resolution now =>
    rw [SupportCall.call, SupportCaseService.resolve]
    refine safe_getCase fun kase _ _ => Prog.Safe.require fun hactionable => ?_
    rw [BackOfficeRepository.resolveSupportCase, ← Prog.bind_done (Prog.transaction _)]
    refine safe_claim List.mem_cons_self (fun s hmatched => ?_) fun _ => trivial
    exact of_hasStatus (fun c hc => ⟨rfl, hc ▸ hactionable, rfl⟩) hmatched
  | close caseId now =>
    rw [SupportCall.call, SupportCaseService.close]
    refine safe_getCase fun kase _ _ => Prog.Safe.require fun _ => ?_
    rw [← Prog.bind_done (BackOfficeRepository.updateSupportCaseStatus _ _ _)]
    exact safe_updateSupportCase (fun _ => ⟨rfl, rfl⟩) fun _ => trivial
  | reopen caseId reason actorPersonId =>
    rw [SupportCall.call, SupportCaseService.reopen]
    refine safe_getCaseForOwner fun kase _ _ => Prog.Safe.require fun _ =>
      Prog.Safe.require fun _ => ?_
    refine safe_claim List.mem_cons_self (fun s hmatched => of_hasStatus (fun c _ => ⟨rfl, rfl⟩) hmatched) fun _ => ?_
    rw [← Prog.bind_done (BackOfficeRepository.addSupportCaseMessage _ _ _ _)]
    exact safe_addSupportCaseMessage fun _ _ => trivial
  | escalate caseId =>
    rw [SupportCall.call, SupportCaseService.escalate]
    refine safe_getCase fun kase _ _ => Prog.Safe.require fun _ => ?_
    have hescalate : ∀ last notes priority, (BackOfficeRepository.escalateSupportCasePriority caseId
        priority).Safe (turning (.escalate caseId)) (fun _ _ _ _ => True) last notes id := by
      intro last notes priority
      rw [← Prog.bind_done (BackOfficeRepository.escalateSupportCasePriority _ _)]
      exact safe_updateSupportCase (fun _ => ⟨rfl, priority, rfl⟩) fun _ => trivial
    cases kase.priority with
    | low => exact hescalate _ _ _
    | normal => exact hescalate _ _ _
    | high => exact hescalate _ _ _
    | critical => trivial
  | merge caseId intoCaseId now =>
    rw [SupportCall.call, SupportCaseService.merge]
    refine Prog.Safe.require fun _ => safe_getCase fun kase _ _ => Prog.Safe.require fun _ =>
      Prog.Safe.require fun _ => safe_getCase fun target _ _ => Prog.Safe.require fun _ =>
      Prog.Safe.require fun _ => Prog.Safe.require fun _ => ?_
    rw [BackOfficeRepository.mergeSupportCase, ← Prog.bind_done (Prog.transaction _)]
    refine safe_claim List.mem_cons_self (fun s hmatched => ?_) fun _ => trivial
    obtain ⟨c, hc, -⟩ := (Option.any_eq_true _ _).mp hmatched
    exact ⟨c, hc, rfl, rfl⟩

end SupportCall

/-! ### Runs -/

/-- The session updates a support case that it finds as it has to. -/
def Timely {ι α : Type} (calls : ι → SupportCall) (d : Sessions ι α) : Event ι Failure → Prop
  | .step i => ∀ c ∈ d.store.supportCases.rows,
    (i, .row .supportCase c.id, .exclusive) ∈ d.held → (calls i).inTime c = true
  | .abort _ _ => True

instance {ι α : Type} [DecidableEq ι] (calls : ι → SupportCall) (d : Sessions ι α) :
    DecidablePred (Timely calls d)
  | .step i => inferInstanceAs (Decidable (∀ c ∈ d.store.supportCases.rows,
    (i, .row .supportCase c.id, .exclusive) ∈ d.held → (calls i).inTime c = true))
  | .abort _ _ => inferInstanceAs (Decidable True)

/-- A support case that is resolved or closed before the event and worked on after it was reopened
by it. -/
def LeavesByReopening {ι : Type} (calls : ι → SupportCall) (e : Event ι Failure) (s s' : Store) :
    Prop :=
  ∀ id c c', s.supportCases.find? id = some c → s'.supportCases.find? id = some c' →
    c.status ∈ CLOSED_STATUSES → c'.status ∉ CLOSED_STATUSES →
    ∃ reason actorPersonId, calls e.session = .reopen id reason actorPersonId

/-- What a call makes of a case that it finds in time. -/
theorem SupportCall.Turns.keeps {id : ℕ} {c c' : SupportCase} (h : call.Turns id c c')
    (htime : call.inTime c = true)
    (hc : c.status ∉ CLOSED_STATUSES →
      c.resolvedAt = none ∧ c.closedAt = none ∧ c.mergedIntoId = none) :
    (c'.status ∉ CLOSED_STATUSES →
      c'.resolvedAt = none ∧ c'.closedAt = none ∧ c'.mergedIntoId = none) ∧
    (c.status ∈ CLOSED_STATUSES → c'.status ∉ CLOSED_STATUSES →
      ∃ reason actorPersonId, call = .reopen id reason actorPersonId) := by
  cases call with
  | «open» _ _ => exact h.elim
  | assign _ _ =>
    obtain ⟨rfl, hactive, rfl⟩ := h
    exact ⟨fun _ => hc hactive, fun hclosed => absurd hclosed hactive⟩
  | addStaffMessage _ _ _ _ _ =>
    obtain ⟨rfl, rfl⟩ := h
    have hactive : c.status ∉ CLOSED_STATUSES := of_decide_eq_true htime
    exact ⟨fun _ => hc hactive, fun hclosed => absurd hclosed hactive⟩
  | replyAsCreator _ _ _ _ =>
    obtain ⟨rfl, rfl⟩ := h
    have hactive : c.status ∉ CLOSED_STATUSES := of_decide_eq_true htime
    exact ⟨fun _ => hc hactive, fun hclosed => absurd hclosed hactive⟩
  | resolve _ _ _ _ =>
    obtain ⟨rfl, -, rfl⟩ := h
    have hresolved : CaseStatus.resolved ∈ CLOSED_STATUSES := by decide
    exact ⟨fun hactive => absurd hresolved hactive, fun _ hactive => absurd hresolved hactive⟩
  | close _ _ =>
    obtain ⟨rfl, rfl⟩ := h
    have hclosed : CaseStatus.closed ∈ CLOSED_STATUSES := by decide
    exact ⟨fun hactive => absurd hclosed hactive, fun _ hactive => absurd hclosed hactive⟩
  | reopen _ reason actorPersonId =>
    obtain ⟨rfl, rfl⟩ := h
    exact ⟨fun _ => ⟨rfl, rfl, of_decide_eq_true htime⟩, fun _ _ => ⟨reason, actorPersonId, rfl⟩⟩
  | escalate _ =>
    obtain ⟨rfl, _, rfl⟩ := h
    exact ⟨hc, fun hclosed hactive => absurd hclosed hactive⟩
  | merge _ _ _ =>
    obtain ⟨rfl, rfl⟩ := h
    have hclosed : CaseStatus.closed ∈ CLOSED_STATUSES := by decide
    exact ⟨fun hactive => absurd hclosed hactive, fun _ hactive => absurd hclosed hactive⟩

/-- A support case that a commit changes is locked by its session. -/
theorem held_of_changed {ι α : Type} {calls : ι → SupportCall} {d : Sessions ι α} {i : ι} {id : ℕ}
    {c c' : SupportCase} (h : d.Commits rowDiscipline (fun i => (calls i).Makes) i s')
    (hc : d.store.supportCases.find? id = some c) (hc' : s'.supportCases.find? id = some c')
    (hne : c' ≠ c) : (i, .row .supportCase id, .exclusive) ∈ d.held := by
  by_contra hfree
  have hsame : s'.supportCases.find? id = some c := by
    refine h.same (.row .supportCase id) .shared (fun m hm => ?_) c hc
    cases m with
    | shared => rfl
    | exclusive => exact absurd hm hfree
  exact hne (Option.some.inj (hc'.symm.trans hsame))

/-- A commit of a session that finds its case in time. -/
theorem keeps_of_timely {ι α : Type} {calls : ι → SupportCall} {d : Sessions ι α} {i : ι}
    (h : d.Commits rowDiscipline (fun i => (calls i).Makes) i s') (htimely : Timely calls d (.step i))
    (hs : ActiveUnresolved d.store) :
    ActiveUnresolved s' ∧ LeavesByReopening calls (.step i) d.store s' := by
  have hkeeps : ∀ {id c c'}, d.store.supportCases.find? id = some c →
      s'.supportCases.find? id = some c' →
      (c'.status ∉ CLOSED_STATUSES →
        c'.resolvedAt = none ∧ c'.closedAt = none ∧ c'.mergedIntoId = none) ∧
      (c.status ∈ CLOSED_STATUSES → c'.status ∉ CLOSED_STATUSES →
        ∃ reason actorPersonId, calls i = .reopen id reason actorPersonId) := by
    intro id c c' hc hc'
    have hunresolved : c.status ∉ CLOSED_STATUSES →
        c.resolvedAt = none ∧ c.closedAt = none ∧ c.mergedIntoId = none :=
      fun hactive => hs c (Table.mem_of_find? hc) (mem_active_iff.mpr hactive)
    by_cases hne : c' = c
    · subst hne
      exact ⟨hunresolved, fun hclosed hactive => absurd hclosed hactive⟩
    · rcases h.own id with hsame | ⟨hnone, -⟩ | ⟨c₀, c₀', hc₀, hc₀', hturns⟩
      · exact absurd (Option.some.inj (hc'.symm.trans (hsame.trans hc))) hne
      · rw [hc] at hnone
        exact nomatch hnone
      · obtain rfl : c₀ = c := Option.some.inj (hc₀.symm.trans hc)
        obtain rfl : c₀' = c' := Option.some.inj (hc₀'.symm.trans hc')
        have hheld := held_of_changed h hc hc' hne
        have hid : c₀.id = id := Table.key_of_find? hc
        exact hturns.keeps (htimely c₀ (Table.mem_of_find? hc) (hid.symm ▸ hheld)) hunresolved
  refine ⟨fun c' hc' hactive => ?_, fun id c c' hc hc' => (hkeeps hc hc').2⟩
  have hfind' := Table.find?_of_mem hc'
  cases hfind : d.store.supportCases.find? c'.id with
  | some c => exact (hkeeps hfind hfind').1 (mem_active_iff.mp hactive)
  | none =>
    -- the case was opened by this commit
    rcases h.own c'.id with hsame | ⟨-, c₀, hc₀, -, hclean⟩ | ⟨c₀, _, hc₀, -⟩
    · rw [hsame, hfind] at hfind'
      exact nomatch hfind'
    · obtain rfl : c₀ = c' := Option.some.inj (hc₀.symm.trans hfind')
      exact hclean
    · rw [hfind] at hc₀
      exact nomatch hc₀

/-- Any number of calls, statement by statement in any order: a support case that is worked on was
not resolved, closed or merged meanwhile, and one that is resolved or closed is reopened before it
is worked on again, as long as every answer that writes a status finds the case neither resolved
nor closed, and every reopening finds it unmerged. -/
theorem resolved_until_reopened {ι : Type} [DecidableEq ι] (hs : ActiveUnresolved s)
    (calls : ι → SupportCall) {es : List (Event ι Failure)}
    (hes : EachStep (Database.next Lock.enforced) (Timely calls)
      (Database.start s fun i => (calls i).call) es) :
    EachStep (Database.next Lock.enforced) (fun d e =>
        ActiveUnresolved (d.next Lock.enforced e).store ∧
          LeavesByReopening calls e d.store (d.next Lock.enforced e).store)
      (Database.start s fun i => (calls i).call) es := by
  have hsound : (Database.start s fun i => (calls i).call).SoundAs rowDiscipline
      (fun i => (calls i).Makes) fun _ _ _ _ => trivial :=
    Database.soundAs_start trivial fun i => (calls i).safe
  have horderly : EachStep (Database.next Lock.enforced)
      (Database.Orderly Lock.enforced rowDiscipline.kept)
      (Database.start s fun i => (calls i).call) es :=
    Database.eachStep_orderly_of_enforced (fun l hl => by
      cases l with
      | row table id => rfl
      | merge table id => exact nomatch hl) _ _
  have howns := Database.eachStep_owns hsound horderly
  have hstart : ActiveUnresolved (Database.start s fun i => (calls i).call).store := hs
  clear hsound horderly
  generalize (Database.start s fun i => (calls i).call) = d at hes howns hstart ⊢
  induction es generalizing d with
  | nil => trivial
  | cons e es ih =>
    obtain ⟨htimely, hes⟩ := hes
    obtain ⟨hcommit, howns⟩ := howns
    have hquiet : (d.next Lock.enforced e).store = d.store →
        ActiveUnresolved (d.next Lock.enforced e).store ∧
          LeavesByReopening calls e d.store (d.next Lock.enforced e).store := by
      intro hsame
      rw [hsame]
      refine ⟨hstart, fun id c c' hc hc' hclosed hactive => ?_⟩
      obtain rfl : c = c' := Option.some.inj (hc.symm.trans hc')
      exact absurd hclosed hactive
    have hkept : ActiveUnresolved (d.next Lock.enforced e).store ∧
        LeavesByReopening calls e d.store (d.next Lock.enforced e).store := by
      cases e with
      | step i => exact hcommit.elim hquiet fun hcommit => keeps_of_timely hcommit htimely hstart
      | abort i e =>
        refine hquiet ?_
        rw [Database.next]
        split
        · rfl
        · exact Database.store_put
    exact ⟨hkept, ih _ hes howns hkept.1⟩

/-- A support case that was just opened by its creator, and a member of the staff. -/
def oneCase : Store :=
  { Store.empty with
    supportCases := Table.empty.create fun id => { id, createdById := 0 } }

/-- The case is answered and resolved by the staff, and reopened by its creator. -/
def answered : Fin 3 → SupportCall
  | 0 => .addStaffMessage 0 "We have seen it." false 1 1
  | 1 => .resolve 0 .bugFixed none 2
  | 2 => .reopen 0 "It is back." 0

/-- One after the other, the case is answered, resolved and reopened. -/
theorem resolved_until_reopened_answered :
    EachStep (Database.next Lock.enforced) (fun d e =>
        ActiveUnresolved (d.next Lock.enforced e).store ∧
          LeavesByReopening answered e d.store (d.next Lock.enforced e).store)
      (Database.start oneCase fun i => (answered i).call)
      (List.replicate 5 (Event.step 0) ++ List.replicate 4 (Event.step 1) ++
        List.replicate 6 (Event.step 2)) :=
  resolved_until_reopened (by unfold ActiveUnresolved; decide) answered (by decide +kernel)

/-- The case was resolved after it was read for the answer. -/
def overtaken : List (Event (Fin 3) Failure) :=
  [Event.step 0] ++ List.replicate 4 (Event.step 1) ++ List.replicate 3 (Event.step 0)

/-- The answer writes its status all the same: the case waits for its creator, with the date of a
resolution, and nobody has reopened it. -/
theorem not_resolved_until_reopened_answered :
    ¬ ActiveUnresolved (runCalls oneCase (fun i => (answered i).call)
        (overtaken ++ [Event.step 0])).store ∧
      ¬ LeavesByReopening answered (Event.step 0)
        (runCalls oneCase (fun i => (answered i).call) overtaken).store
        (runCalls oneCase (fun i => (answered i).call) (overtaken ++ [Event.step 0])).store := by
  constructor
  · unfold ActiveUnresolved
    decide +kernel
  · intro h
    obtain ⟨reason, actorPersonId, hcall⟩ := h 0
      { id := 0, createdById := 0, status := .resolved, resolutionCode := some .bugFixed,
        resolvedAt := some 2 }
      { id := 0, createdById := 0, status := .waitingUser, resolutionCode := some .bugFixed,
        resolvedAt := some 2 }
      (by decide +kernel) (by decide +kernel) (by decide) (by decide)
    exact nomatch hcall

end VielHome.Cases.Resolved
