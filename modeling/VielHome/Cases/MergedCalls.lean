import VielHome.Cases.Merged

/-!
# The calls that work on cases keep the forests

One lemma for each call: it keeps the discipline of the forests (`CaseCall.safe`). So the cases of
both systems stay forests in any interleaving in which nobody merges a case that somebody relies
on being unmerged (`forests_of_unhurried`), and merges are final.
-/

namespace VielHome.Cases.Merged

open Relational Community
open Relational.ReadCommitted (Database Discipline Event Mode Prog)

variable {s : Store} {table : TableName} {caseId : ℕ} {α β : Type} {last : Store}
  {notes : List (Lock × Mode × Store)} {pending : Store → Store}
  {post : β → Store → List (Lock × Mode × Store) → (Store → Store) → Prop}

/-! ### Reading a case -/

/-- A session that reads a case relies on it when it says so, and the case is unmerged. -/
theorem relies_of_reliedOn {κ : Type} {c : κ} {found : Option κ} {relies : κ → Bool} {v : View}
    (hfound : found = some c) (hrelies : relies c = true) (hv : look table caseId s = some v)
    (hnone : v.into = none) :
    Relies table caseId
      (notes ++ mergeDiscipline.taken (reliedOn table caseId found relies) s) := by
  have htaken : reliedOn table caseId found relies = [(.merge table caseId, .shared)] := by
    rw [reliedOn, hfound, Option.any_some, if_pos hrelies]
  refine ⟨s, ?_, (into_of_look hv).trans hnone⟩
  rw [htaken]
  exact List.mem_append_right _ (Discipline.mem_taken List.mem_cons_self rfl)

/-- What follows the look at the roles. -/
theorem safe_isPrivileged {personId buildingId : ℕ} {f : Bool → Call β}
    (h : ∀ last privileged, (f privileged).Safe mergeDiscipline post last notes pending) :
    (CasesService.isPrivileged personId buildingId >>= f).Safe mergeDiscipline post last notes
      pending := by
  rw [CasesService.isPrivileged]
  exact Prog.Safe.query fun s _ _ _ => h s _

/-- What follows, with the case that was found. -/
theorem safe_getCaseOrThrow {buildingId : ℕ} {relies : Case → Bool} {f : Case → Call β}
    (h : ∀ s c notes, Forests s → look .buildingCase caseId s = some (View.ofCase c) →
      (relies c = true → c.mergedIntoId = none → Relies .buildingCase caseId notes) →
      (f c).Safe mergeDiscipline post s notes id) :
    (CasesService.getCaseOrThrow buildingId caseId relies >>= f).Safe mergeDiscipline post last notes
      id := by
  rw [CasesService.getCaseOrThrow, Prog.bind_assoc]
  refine Prog.Safe.queryUnder fun s hs _ _ => ?_
  rw [Prog.bind_assoc]
  refine Prog.Safe.expect fun c hc => ?_
  rw [Prog.bind_assoc]
  refine Prog.Safe.require fun _ => h s c _ hs (look_of_find? hc) fun hrelies hnone => ?_
  exact relies_of_reliedOn hc hrelies (look_of_find? hc) hnone

/-- What follows, with the support case that was found. -/
theorem safe_getSupportCase {relies : SupportCase → Bool} {f : SupportCase → Call β}
    (h : ∀ s c notes, Forests s → look .supportCase caseId s = some (View.ofSupportCase c) →
      (relies c = true → c.mergedIntoId = none → Relies .supportCase caseId notes) →
      (f c).Safe mergeDiscipline post s notes id) :
    (SupportCaseService.getCase caseId relies >>= f).Safe mergeDiscipline post last notes id := by
  rw [SupportCaseService.getCase, Prog.bind_assoc]
  refine Prog.Safe.queryUnder fun s hs _ _ => Prog.Safe.expect fun c hc => ?_
  refine h s c _ hs (look_of_findSupport? hc) fun hrelies hnone => ?_
  exact relies_of_reliedOn hc hrelies (look_of_findSupport? hc) hnone

/-- What follows, with the support case of the caller. -/
theorem safe_getCaseForOwner {callerPersonId : ℕ} {relies : SupportCase → Bool}
    {f : SupportCase → Call β}
    (h : ∀ s c notes, Forests s → look .supportCase caseId s = some (View.ofSupportCase c) →
      (relies c = true → c.mergedIntoId = none → Relies .supportCase caseId notes) →
      (f c).Safe mergeDiscipline post s notes id) :
    (SupportCaseService.getCaseForOwner caseId callerPersonId relies >>= f).Safe mergeDiscipline post
      last notes id := by
  rw [SupportCaseService.getCaseForOwner, Prog.bind_assoc]
  refine Prog.Safe.queryUnder fun s hs _ _ => ?_
  dsimp only [id]
  split
  case h_1 c hc =>
    have hfind : s.supportCases.find? caseId = some c := (Option.filter_eq_some_iff.mp hc).1
    refine h s c _ hs (look_of_findSupport? hfind) fun hrelies hnone => ?_
    exact relies_of_reliedOn hc hrelies (look_of_findSupport? hfind) hnone
  case h_2 =>
    rw [Prog.bind_assoc]
    refine safe_getSupportCase fun _ c _ _ _ _ => ?_
    rw [Prog.bind_assoc]
    exact Prog.Safe.require fun _ => trivial

/-! ### `CasesService` -/

section CasesService

variable {buildingId actorPersonId : ℕ}

/-- `assignCase` keeps the forest. -/
theorem safe_assignCase (assignedToId : ℕ) (note : Option String) :
    (CasesService.assignCase buildingId caseId assignedToId note actorPersonId).Safe mergeDiscipline
      (fun _ _ _ _ => True) last [] id := by
  rw [CasesService.assignCase]
  refine safe_getCaseOrThrow fun s c notes _ _ _ => Prog.Safe.require fun hactive => ?_
  refine Prog.Safe.query fun _ _ _ _ => Prog.Safe.require fun _ => Prog.Safe.require fun _ => ?_
  have hopen : c.status ≠ .closed := fun h => by simp [CasePolicy.ACTIVE_STATUSES, h] at hactive
  exact safe_claim_write (rewrites_buildingCases (g := View.withStatus .inProgress) _ fun _ => rfl)
    (matches_of_open (fun _ => look_of_hasStatus) hopen) fun t _ _ => by cases t <;> rfl

/-- A message changes no case. -/
theorem safe_addMessage (message : String) (isInternal : Bool) :
    (CasesService.addMessage buildingId caseId message isInternal actorPersonId).Safe
      mergeDiscipline (fun _ _ _ _ => True) last [] id := by
  rw [CasesService.addMessage]
  refine safe_getCaseOrThrow fun _ _ _ _ _ _ => safe_isPrivileged fun _ _ => ?_
  refine Prog.Safe.require fun _ => Prog.Safe.require fun _ => Prog.Safe.require fun _ => ?_
  rw [CaseRepository.createMessage, Prog.transaction]
  refine Prog.Safe.write fun _ _ _ _ => Prog.Safe.commitAll fun s hs _ _ => ?_
  exact (quiet_commit fun t _ => by cases t <;> rfl).conclude hs (fun _ _ _ h => h) trivial

/-- So does `resolveCase`. -/
theorem safe_resolveCase (resolutionCode : CaseResolutionCode) :
    (CasesService.resolveCase buildingId caseId resolutionCode).Safe mergeDiscipline
      (fun _ _ _ _ => True) last [] id := by
  rw [CasesService.resolveCase]
  refine safe_getCaseOrThrow fun s c notes _ _ _ => Prog.Safe.require fun hresolvable => ?_
  have hopen : c.status ≠ .closed := fun h => hresolvable (Or.inr h)
  rw [CaseRepository.resolveCase, ← Prog.bind_done (Prog.transaction _)]
  exact safe_claim (rewrites_buildingCases (g := View.withStatus .resolved) _ fun _ => rfl)
    (matches_of_open (fun _ => look_of_hasStatus) hopen) fun _ => trivial

/-- So does `closeCase`. -/
theorem safe_closeCase (now : Time) :
    (CasesService.closeCase buildingId caseId now).Safe mergeDiscipline (fun _ _ _ _ => True) last
      [] id := by
  rw [CasesService.closeCase]
  refine safe_getCaseOrThrow fun s c notes _ _ _ => Prog.Safe.require fun _ => ?_
  rw [CaseRepository.closeCase, ← Prog.bind_done (Prog.transaction _)]
  exact safe_claim (rewrites_buildingCases (g := View.withStatus .closed) _ fun _ => rfl)
    (matches_of_open (fun _ => look_of_hasStatus) (by decide)) fun _ => trivial

/-- So does `reopenCase`, of a case that was not merged. -/
theorem safe_reopenCase :
    (CasesService.reopenCase buildingId caseId actorPersonId).Safe mergeDiscipline
      (fun _ _ _ _ => True) last [] id := by
  rw [CasesService.reopenCase]
  refine safe_getCaseOrThrow fun s c notes _ _ hrelies => safe_isPrivileged fun _ _ => ?_
  refine Prog.Safe.require fun _ => Prog.Safe.require fun _ => Prog.Safe.require fun hnone => ?_
  rw [CaseRepository.reopenCase, ← Prog.bind_done (Prog.transaction _)]
  refine safe_claim (rewrites_buildingCases (g := View.withStatus .open) _ fun _ => rfl) ?_
    fun _ => trivial
  by_cases hclosed : c.status = .closed
  · refine matches_of_relies (fun _ hok => ?_)
      (hrelies (decide_eq_true ⟨hclosed, hnone⟩) hnone)
    obtain ⟨v, hv, -⟩ := look_of_hasStatus hok
    exact ⟨v, hv⟩
  · exact matches_of_open (fun _ => look_of_hasStatus) hclosed

/-- So does `mergeCase`. -/
theorem safe_mergeCase (intoCaseId : ℕ) (now : Time) :
    (CasesService.mergeCase buildingId caseId intoCaseId now).Safe mergeDiscipline
      (fun _ _ _ _ => True) last [] id := by
  rw [CasesService.mergeCase]
  refine Prog.Safe.require fun hne => safe_getCaseOrThrow fun _ c _ _ _ _ => ?_
  refine Prog.Safe.require fun _ => Prog.Safe.require fun _ => ?_
  refine safe_getCaseOrThrow fun _ target notes _ _ hrelies => Prog.Safe.require fun _ => ?_
  refine Prog.Safe.require fun hnone => Prog.Safe.require fun hopen => ?_
  exact safe_claimMerge (rewrites_buildingCases _ fun _ => rfl) (Ne.symm hne)
    (hrelies (decide_eq_true ⟨hnone, hopen⟩) hnone) fun _ => look_of_mergeable

end CasesService

/-! ### `SupportCaseService` -/

section SupportCaseService

/-- An update of a support case. -/
theorem safe_updateSupportCase {g : View → View} {f : SupportCase → SupportCase}
    {hf : ∀ c, (f c).id = c.id} (hg : ∀ c, View.ofSupportCase (f c) = g (View.ofSupportCase c))
    (hmatched : Matches .supportCase caseId g notes fun s => (s.supportCases.find? caseId).isSome) :
    (BackOfficeRepository.updateSupportCase caseId f hf).Safe mergeDiscipline (fun _ _ _ _ => True)
      last notes id := by
  rw [BackOfficeRepository.updateSupportCase, ← Prog.bind_done (Prog.transaction _)]
  exact safe_updateRow (rewrites_supportCases hf hg) hmatched fun _ => trivial

/-- A message changes no case, and the lock of its case is kept. -/
theorem safe_addSupportCaseMessage {senderId : ℕ} {body : String} {isInternal : Bool}
    {f : PUnit → Call β}
    (h : ∀ last notes', (Relies .supportCase caseId notes → Relies .supportCase caseId notes') →
      (f ⟨⟩).Safe mergeDiscipline post last notes' id) :
    (BackOfficeRepository.addSupportCaseMessage caseId senderId body isInternal >>= f).Safe
      mergeDiscipline post last notes id := by
  rw [BackOfficeRepository.addSupportCaseMessage, Prog.bind_assoc]
  refine Prog.Safe.write fun _ _ _ _ => Prog.Safe.commitKeeping fun s hs _ _ => ?_
  have hquiet : ∀ t j, look t j (s.onSupportCaseMessages
      (·.create (fun id => { id, caseId, senderId, body, isInternal }) fun _ => rfl)) =
        look t j s := fun t _ => by cases t <;> rfl
  obtain ⟨hsteps, hsame⟩ := quiet_commit hquiet
  refine ⟨fun t => (hsteps t).forest (hs t), hsteps, fun l m _ => hsame l fun h => h,
    fun n _ _ => hsame n.1 fun h => h, h _ _ fun hrelies => ?_⟩
  obtain ⟨s₀, hnote, hnone⟩ := hrelies
  exact ⟨s₀, List.mem_filter.mpr ⟨List.mem_append_left _ hnote, by simp⟩, hnone⟩

/-- What follows the look at the permissions. -/
theorem safe_resolvePermissions {personId : ℕ} {f : List PermissionKey → Call β}
    (h : ∀ last granted, (f granted).Safe mergeDiscipline post last notes pending) :
    (PermissionResolverService.resolve personId >>= f).Safe mergeDiscipline post last notes
      pending := by
  rw [PermissionResolverService.resolve, Prog.bind_assoc]
  refine Prog.Safe.query fun s _ _ _ => ?_
  split
  · exact h s []
  · exact Prog.Safe.query fun s _ _ _ => h s _

/-- `assign` keeps the forest. -/
theorem safe_assign (assigneeId : ℕ) :
    (SupportCaseService.assign caseId assigneeId).Safe mergeDiscipline (fun _ _ _ _ => True) last []
      id := by
  rw [SupportCaseService.assign]
  refine safe_getSupportCase fun s c notes _ _ _ => Prog.Safe.require fun hactionable => ?_
  have hopen : c.status ≠ .closed := fun h => by
    simp [SupportCasePolicy.CLOSED_STATUSES, h] at hactionable
  refine safe_resolvePermissions fun _ _ => Prog.Safe.require fun _ => ?_
  rw [BackOfficeRepository.assignSupportCase, ← Prog.bind_done (Prog.transaction _)]
  exact safe_claim (rewrites_supportCases (g := View.withStatus .inProgress) _ fun _ => rfl)
    (matches_of_open (fun _ => look_of_supportHasStatus) hopen) fun _ => trivial

/-- An answer in a case that the session found open to answers makes it wait for the other
side. -/
theorem safe_answer {c : Prop} [Decidable c] {status : CaseStatus} {now : Time}
    (hrelies : c → Relies .supportCase caseId notes) :
    (if c then BackOfficeRepository.updateSupportCaseStatus caseId status now else pure ⟨⟩ :
      Call PUnit).Safe mergeDiscipline (fun _ _ _ _ => True) last notes id := by
  split
  case isTrue h =>
    exact safe_updateSupportCase (g := View.withStatus status) (fun _ => rfl)
      (matches_of_relies (fun _ => look_of_isSome) (hrelies h))
  case isFalse => trivial

/-- So does `addStaffMessage`. -/
theorem safe_addStaffMessage (body : String) (isInternal : Bool) (senderId : ℕ) (now : Time) :
    (SupportCaseService.addStaffMessage caseId body isInternal senderId now).Safe mergeDiscipline
      (fun _ _ _ _ => True) last [] id := by
  rw [SupportCaseService.addStaffMessage]
  refine safe_getSupportCase fun s c notes hs hc hrelies => Prog.Safe.require fun _ => ?_
  refine safe_addSupportCaseMessage fun _ _ hkept => safe_answer fun h => ?_
  -- an open case is not merged
  have hopen : c.status ≠ .closed := fun hclosed => by
    simp [SupportCaseService.awaitsAnswer, hclosed] at h
  exact hkept (hrelies h (hs.unmerged hc hopen))

/-- So does `replyAsCreator`. -/
theorem safe_replyAsCreator (body : String) (callerPersonId : ℕ) (now : Time) :
    (SupportCaseService.replyAsCreator caseId body callerPersonId now).Safe mergeDiscipline
      (fun _ _ _ _ => True) last [] id := by
  rw [SupportCaseService.replyAsCreator]
  refine safe_getCaseForOwner fun s c notes hs hc hrelies => Prog.Safe.require fun _ => ?_
  refine safe_addSupportCaseMessage fun _ _ hkept => safe_answer fun h => ?_
  have hopen : c.status ≠ .closed := fun hclosed => by
    simp [SupportCaseService.isAnswered, hclosed] at h
  exact hkept (hrelies h (hs.unmerged hc hopen))

/-- So does `resolve`. -/
theorem safe_resolve (resolutionCode : SupportCaseResolutionCode) (resolution : Option String)
    (now : Time) :
    (SupportCaseService.resolve caseId resolutionCode resolution now).Safe mergeDiscipline
      (fun _ _ _ _ => True) last [] id := by
  rw [SupportCaseService.resolve]
  refine safe_getSupportCase fun s c notes _ _ _ => Prog.Safe.require fun hactionable => ?_
  have hopen : c.status ≠ .closed := fun h => by
    simp [SupportCasePolicy.CLOSED_STATUSES, h] at hactionable
  rw [BackOfficeRepository.resolveSupportCase, ← Prog.bind_done (Prog.transaction _)]
  exact safe_claim (rewrites_supportCases (g := View.withStatus .resolved) _ fun _ => rfl)
    (matches_of_open (fun _ => look_of_supportHasStatus) hopen) fun _ => trivial

/-- Closing a case never revives it, merged or not. -/
theorem safe_close (now : Time) :
    (SupportCaseService.close caseId now).Safe mergeDiscipline (fun _ _ _ _ => True) last [] id := by
  rw [SupportCaseService.close]
  refine safe_getSupportCase fun _ _ notes _ _ _ => Prog.Safe.require fun _ => ?_
  refine safe_updateSupportCase (g := View.withStatus .closed) (fun _ => rfl) fun s _ _ hok => ?_
  obtain ⟨v, hv⟩ := look_of_isSome hok
  exact ⟨v, hv, v.keeps_closed⟩

/-- So does `reopen`, of a support case that was not merged. -/
theorem safe_reopen (reason : String) (actorPersonId : ℕ) :
    (SupportCaseService.reopen caseId reason actorPersonId).Safe mergeDiscipline
      (fun _ _ _ _ => True) last [] id := by
  rw [SupportCaseService.reopen]
  refine safe_getCaseForOwner fun s c notes _ _ hrelies => Prog.Safe.require fun hnone => ?_
  refine Prog.Safe.require fun _ => ?_
  rw [BackOfficeRepository.reopenSupportCase]
  refine safe_claim (rewrites_supportCases (g := View.withStatus .open) _ fun _ => rfl) ?_
    fun last => ?_
  · by_cases hclosed : c.status = .closed
    · refine matches_of_relies (fun _ hok => ?_)
        (hrelies (decide_eq_true ⟨hclosed, hnone⟩) hnone)
      obtain ⟨v, hv, -⟩ := look_of_supportHasStatus hok
      exact ⟨v, hv⟩
    · exact matches_of_open (fun _ => look_of_supportHasStatus) hclosed
  · rw [← Prog.bind_done (BackOfficeRepository.addSupportCaseMessage _ _ _ _)]
    exact safe_addSupportCaseMessage fun _ _ _ => trivial

/-- So does `escalate`. -/
theorem safe_escalate :
    (SupportCaseService.escalate caseId).Safe mergeDiscipline (fun _ _ _ _ => True) last [] id := by
  rw [SupportCaseService.escalate]
  refine safe_getSupportCase fun _ c notes _ _ _ => Prog.Safe.require fun _ => ?_
  have hescalate : ∀ s priority, (BackOfficeRepository.escalateSupportCasePriority caseId
      priority).Safe mergeDiscipline (fun _ _ _ _ => True) s notes id := by
    refine fun s priority => safe_updateSupportCase (g := fun v => v) (fun _ => rfl) fun s _ _ hok => ?_
    obtain ⟨v, hv⟩ := look_of_isSome hok
    exact ⟨v, hv, View.Keeps.refl v⟩
  cases c.priority with
  | low => exact hescalate _ _
  | normal => exact hescalate _ _
  | high => exact hescalate _ _
  | critical => trivial

/-- So does `merge`. -/
theorem safe_merge (intoCaseId : ℕ) (now : Time) :
    (SupportCaseService.merge caseId intoCaseId now).Safe mergeDiscipline (fun _ _ _ _ => True) last
      [] id := by
  rw [SupportCaseService.merge]
  refine Prog.Safe.require fun hne => safe_getSupportCase fun _ c _ _ _ _ => ?_
  refine Prog.Safe.require fun _ => Prog.Safe.require fun _ => ?_
  refine safe_getSupportCase fun _ target notes _ _ hrelies => Prog.Safe.require fun _ => ?_
  refine Prog.Safe.require fun hnone => Prog.Safe.require fun hopen => ?_
  exact safe_claimMerge (rewrites_supportCases _ fun _ => rfl) (Ne.symm hne)
    (hrelies (decide_eq_true ⟨hnone, hopen⟩) hnone) fun _ => look_of_supportMergeable

end SupportCaseService

/-! ### Runs -/

/-- A call that works on a case of either system. -/
inductive CaseCall
  | assignCase (buildingId caseId assignedToId : ℕ) (note : Option String) (actorPersonId : ℕ)
  | addMessage (buildingId caseId : ℕ) (message : String) (isInternal : Bool) (actorPersonId : ℕ)
  | resolveCase (buildingId caseId : ℕ) (resolutionCode : CaseResolutionCode)
  | closeCase (buildingId caseId : ℕ) (now : Time)
  | reopenCase (buildingId caseId actorPersonId : ℕ)
  | mergeCase (buildingId caseId intoCaseId : ℕ) (now : Time)
  | assign (caseId assigneeId : ℕ)
  | addStaffMessage (caseId : ℕ) (body : String) (isInternal : Bool) (senderId : ℕ) (now : Time)
  | replyAsCreator (caseId : ℕ) (body : String) (callerPersonId : ℕ) (now : Time)
  | resolve (caseId : ℕ) (resolutionCode : SupportCaseResolutionCode) (resolution : Option String)
      (now : Time)
  | close (caseId : ℕ) (now : Time)
  | reopen (caseId : ℕ) (reason : String) (actorPersonId : ℕ)
  | escalate (caseId : ℕ)
  | merge (caseId intoCaseId : ℕ) (now : Time)

/-- The method of the service that the call is made to. -/
def CaseCall.call : CaseCall → Call PUnit
  | .assignCase buildingId caseId assignedToId note actorPersonId =>
    CasesService.assignCase buildingId caseId assignedToId note actorPersonId
  | .addMessage buildingId caseId message isInternal actorPersonId =>
    CasesService.addMessage buildingId caseId message isInternal actorPersonId
  | .resolveCase buildingId caseId resolutionCode =>
    CasesService.resolveCase buildingId caseId resolutionCode
  | .closeCase buildingId caseId now => CasesService.closeCase buildingId caseId now
  | .reopenCase buildingId caseId actorPersonId =>
    CasesService.reopenCase buildingId caseId actorPersonId
  | .mergeCase buildingId caseId intoCaseId now =>
    CasesService.mergeCase buildingId caseId intoCaseId now
  | .assign caseId assigneeId => SupportCaseService.assign caseId assigneeId
  | .addStaffMessage caseId body isInternal senderId now =>
    SupportCaseService.addStaffMessage caseId body isInternal senderId now
  | .replyAsCreator caseId body callerPersonId now =>
    SupportCaseService.replyAsCreator caseId body callerPersonId now
  | .resolve caseId resolutionCode resolution now =>
    SupportCaseService.resolve caseId resolutionCode resolution now
  | .close caseId now => SupportCaseService.close caseId now
  | .reopen caseId reason actorPersonId => SupportCaseService.reopen caseId reason actorPersonId
  | .escalate caseId => SupportCaseService.escalate caseId
  | .merge caseId intoCaseId now => SupportCaseService.merge caseId intoCaseId now

/-- So does every call. -/
theorem CaseCall.safe (c : CaseCall) :
    c.call.Safe mergeDiscipline (fun _ _ _ _ => True) s [] id := by
  cases c with
  | assignCase _ _ assignedToId note _ => exact safe_assignCase assignedToId note
  | addMessage _ _ message isInternal _ => exact safe_addMessage message isInternal
  | resolveCase _ _ resolutionCode => exact safe_resolveCase resolutionCode
  | closeCase _ _ now => exact safe_closeCase now
  | reopenCase _ _ _ => exact safe_reopenCase
  | mergeCase _ _ intoCaseId now => exact safe_mergeCase intoCaseId now
  | assign _ assigneeId => exact safe_assign assigneeId
  | addStaffMessage _ body isInternal senderId now =>
    exact safe_addStaffMessage body isInternal senderId now
  | replyAsCreator _ body callerPersonId now => exact safe_replyAsCreator body callerPersonId now
  | resolve _ resolutionCode resolution now => exact safe_resolve resolutionCode resolution now
  | close _ now => exact safe_close now
  | reopen _ reason actorPersonId => exact safe_reopen reason actorPersonId
  | escalate _ => exact safe_escalate
  | merge _ intoCaseId now => exact safe_merge intoCaseId now

/-- The event merges no case that somebody else relies on being unmerged, and begins to rely on no
case whose merge has still to be committed. -/
abbrev Unhurried {ι α : Type} [DecidableEq ι] (d : Sessions ι α) (e : Event ι Failure) : Prop :=
  d.Orderly Lock.enforced (fun _ => true) e

/-- What is merged stays merged, into the same case. -/
def KeepsMerges (s s' : Store) : Prop :=
  ∀ table caseId t, (merges table s).into caseId = some t → (merges table s').into caseId = some t

/-- What was merged stays so over any number of commits. -/
theorem KeepsMerges.of_later {s s' : Store} (h : mergeDiscipline.Later s s') : KeepsMerges s s' :=
  fun table caseId t => h.keeps (P := fun s => (merges table s).into caseId = some t)
    fun _ _ hstep => (hstep table).into_eq

/-- Any number of sessions, statement by statement in any order: the cases of both systems stay
forests, and a merge is final, as long as nobody merges a case that somebody else relies on being
unmerged. -/
theorem forests_of_unhurried {ι : Type} [DecidableEq ι] (hs : Forests s) (calls : ι → CaseCall)
    {es : List (Event ι Failure)}
    (hes : EachStep (Database.next Lock.enforced) Unhurried
      (Database.start s fun i => (calls i).call) es) :
    ∀ es', es' <+: es → Forests (runCalls s (fun i => (calls i).call) es').store ∧
      KeepsMerges (runCalls s (fun i => (calls i).call) es').store
        (runCalls s (fun i => (calls i).call) es).store := by
  rintro es' ⟨rest, rfl⟩
  have hstart := Database.sound_start (D := mergeDiscipline) hs fun i => (calls i).safe
  obtain ⟨hbefore, hafter⟩ := eachStep_append.mp hes
  have hsound := (Database.sound_run hstart hbefore).1
  refine ⟨hsound.inv, KeepsMerges.of_later ?_⟩
  rw [runCalls, runCalls, runFrom_append]
  exact (Database.sound_run hsound hafter).2

/-- A building with two cases, and two support cases. -/
def twoCases : Store :=
  { Store.empty with
    buildingCases := (Table.empty.create fun id =>
      { id, buildingId := 0, createdById := 0 }).create fun id =>
        { id, buildingId := 0, createdById := 0 }
    supportCases := (Table.empty.create fun id => { id, createdById := 0 }).create fun id =>
      { id, createdById := 0 } }

/-- The cases of the runs are not merged yet. -/
theorem forests_twoCases : Forests twoCases := by
  refine fun table => Merges.forest_of_unmerged fun caseId => ?_
  have hcases : ∀ c ∈ twoCases.buildingCases, c.mergedIntoId = none := by decide
  have hsupport : ∀ c ∈ twoCases.supportCases, c.mergedIntoId = none := by decide
  rw [into_merges, Option.bind_eq_none_iff]
  intro v hv
  cases table with
  | buildingCase =>
    obtain ⟨c, hc, rfl⟩ := Option.map_eq_some_iff.mp hv
    exact hcases c (Table.mem_of_find? hc)
  | supportCase =>
    obtain ⟨c, hc, rfl⟩ := Option.map_eq_some_iff.mp hv
    exact hsupport c (Table.mem_of_find? hc)

/-- Two staff members merge the two cases into each other, and two others answer in a support case
and merge it. -/
def opposite : Fin 4 → CaseCall
  | 0 => .mergeCase 0 0 1 1
  | 1 => .mergeCase 0 1 0 2
  | 2 => .addStaffMessage 0 "We have seen it." false 1 3
  | 3 => .merge 0 1 4

/-- One after the other, only the first merge is made. -/
theorem forests_of_unhurried_opposite :
    Forests (runCalls twoCases (fun i => (opposite i).call) (List.replicate 5 (Event.step 0))).store ∧
      KeepsMerges
        (runCalls twoCases (fun i => (opposite i).call) (List.replicate 5 (Event.step 0))).store
        (runCalls twoCases (fun i => (opposite i).call)
          (List.replicate 5 (Event.step 0) ++ List.replicate 5 (Event.step 1) ++
            List.replicate 5 (Event.step 2) ++ List.replicate 5 (Event.step 3))).store := by
  refine forests_of_unhurried forests_twoCases opposite (by decide +kernel) _ ?_
  simp only [List.append_assoc]
  exact List.prefix_append _ _

/-- Both merges check their target before either writes, and lead back to each other. The answer
is written after the merge of the support case, which is open again. -/
theorem not_forests_opposite :
    ¬ (merges .buildingCase (runCalls twoCases (fun i => (opposite i).call)
        ([Event.step 0, Event.step 0, Event.step 1, Event.step 1] ++ List.replicate 3 (Event.step 0) ++
          List.replicate 3 (Event.step 1))).store).Acyclic ∧
      ¬ (merges .supportCase (runCalls twoCases (fun i => (opposite i).call)
        (List.replicate 3 (Event.step 2) ++ List.replicate 5 (Event.step 3) ++
          List.replicate 2 (Event.step 2))).store).Forest := by
  constructor
  · intro h
    refine h 0 (Relation.TransGen.tail (Relation.TransGen.single (b := 1) ?_) ?_)
    · change (merges _ _).into _ = _
      decide +kernel
    · change (merges _ _).into _ = _
      decide +kernel
  · intro h
    have hclosed := h.closed 0 1 (by decide +kernel)
    rw [closed_merges] at hclosed
    exact absurd hclosed (by decide +kernel)

end VielHome.Cases.Merged
