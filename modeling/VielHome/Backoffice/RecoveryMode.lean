import VielHome.Backoffice.ConcurrentManagers
import VielHome.Relational.Leads

/-!
# Recovery Mode

A building in Recovery Mode has no verified manager. The flag is written by whatever was
decided last about one case or one membership, and cases stay open, and enforcement actions
may still be overturned, when the management has long been handed on. The flag is right in
every run that never rejects a case or revokes a claim while somebody else is the verified
manager, and never gives the verification back to a current manager together with a flag
that was set before.
-/

namespace VielHome.Backoffice

open Relational Community Building
open Relational.ReadCommitted (Prog)
open BackOfficeRepository (DecideParams EnforcementEffect EnforcementParams decided decided_id
  hasCompetingManager recoveryMode recoveryMode_id reversedEffect verified)

/-! ### The invariant -/

/-- A current `MANAGER` membership of the building that is verified. -/
def IsVerifiedManagerOf (m : Membership) (buildingId : ℕ) : Prop :=
  m.IsManagerOf buildingId ∧ m.managerState = some .verified

instance (m : Membership) (buildingId : ℕ) : Decidable (IsVerifiedManagerOf m buildingId) :=
  inferInstanceAs (Decidable (_ ∧ _))

/-- A building in Recovery Mode has no verified manager. -/
def Truthful (s : Store) : Prop :=
  ∀ b ∈ s.buildings, b.recoveryModeEnteredAt ≠ none → ∀ m ∈ s.memberships,
    ¬ IsVerifiedManagerOf m b.id

instance (s : Store) : Decidable (Truthful s) :=
  inferInstanceAs (Decidable (∀ b ∈ s.buildings, b.recoveryModeEnteredAt ≠ none →
    ∀ m ∈ s.memberships, ¬ IsVerifiedManagerOf m b.id))

/-- The actions that revoked the claim of a manager are about a membership of the building they
name. -/
def OwnClaims (s : Store) : Prop :=
  ∀ a ∈ s.enforcementActions, a.effectApplied = true → ∀ membershipId buildingId,
    reversedEffect a = some (.revokeManagerClaim membershipId buildingId) →
      ∃ m, s.memberships.find? membershipId = some m ∧ m.buildingId = buildingId

/-- What every considerate step keeps. -/
structure Recorded (s : Store) : Prop where
  truthful : Truthful s
  ownClaims : OwnClaims s

/-! ### The events -/

/-- What happens to the management of a building. -/
inductive ManagementEvent
  | initiateForProvisionalManager (buildingId membershipId candidateId : ℕ)
      (isReverification : Option Bool) (now : Time)
  | changeManager (params : BuildingRepository.ChangeManagerParams) (now : Time)
  | endManagement (buildingId : ℕ) (now : Time)
  | decideCase (caseId : ℕ) (decision : ManagerVerificationDecision) (reviewerPersonId : ℕ)
      (reason : Option String) (now : Time)
  | approveByOwner (buildingId callerPersonId : ℕ) (now : Time)
  | restoreManagement (caseId reviewerPersonId : ℕ) (reason : Option String) (now : Time)
  | appealCase (buildingId callerPersonId : ℕ) (now : Time)
  | enforce (caseId : ℕ) (dto : FraudCaseService.EnforceDto) (issuedById : ℕ) (requestId : String)
      (now : Time)
  | appealEnforcement (actionId callerPersonId : ℕ) (reason : Option String) (now : Time)
  | decideEnforcementAppeal (actionId : ℕ) (decision : FraudCaseService.AppealDecision)
      (deciderPersonId : ℕ) (now : Time)

/-- The store after an event. -/
def manage (s : Store) : ManagementEvent → Store
  | .initiateForProvisionalManager buildingId membershipId candidateId isReverification now =>
    (ManagerVerificationService.initiateForProvisionalManager buildingId membershipId candidateId
      isReverification now).exec s
  | .changeManager params now => (BuildingService.changeManager params now).exec s
  | .endManagement buildingId now => (BuildingService.endManagement buildingId now).exec s
  | .decideCase caseId decision reviewerPersonId reason now =>
    (ManagerVerificationService.decideCase caseId decision reviewerPersonId reason now).exec s
  | .approveByOwner buildingId callerPersonId now =>
    (ManagerVerificationService.approveByOwner buildingId callerPersonId now).exec s
  | .restoreManagement caseId reviewerPersonId reason now =>
    (ManagerVerificationService.restoreManagement caseId reviewerPersonId reason now).exec s
  | .appealCase buildingId callerPersonId now =>
    (ManagerVerificationService.appealCase buildingId callerPersonId now).exec s
  | .enforce caseId dto issuedById requestId now =>
    (FraudCaseService.enforce caseId dto issuedById requestId now).exec s
  | .appealEnforcement actionId callerPersonId reason now =>
    (FraudCaseService.appealEnforcement actionId callerPersonId reason now).exec s
  | .decideEnforcementAppeal actionId decision deciderPersonId now =>
    (FraudCaseService.decideEnforcementAppeal actionId decision deciderPersonId now).exec s

/-- Nobody but the holder of the membership is a verified manager of the building. -/
def NoOtherVerified (buildingId membershipId : ℕ) (s : Store) : Prop :=
  ∀ m ∈ s.memberships, IsVerifiedManagerOf m buildingId → m.id = membershipId

instance (buildingId membershipId : ℕ) (s : Store) :
    Decidable (NoOtherVerified buildingId membershipId s) :=
  inferInstanceAs (Decidable (∀ m ∈ s.memberships, _ → _))

/-- The action found a verified manager in a building in Recovery Mode, who manages the building
again: what it found was no state to go back to. -/
def RestoresContradiction (s : Store) (a : EnforcementAction) : Prop :=
  match reversedEffect a, a.previousTargetState with
  | some (.revokeManagerClaim membershipId buildingId),
      some (.managerClaim (some .verified) (some _)) =>
    ∃ m ∈ s.memberships, m.id = membershipId ∧ m.IsManagerOf buildingId
  | _, _ => False

/-- No pending case is rejected, and no claim revoked, while somebody else is the verified
manager, and no action is overturned that would restore a contradiction. -/
def Considerate (s : Store) : ManagementEvent → Prop
  | .decideCase caseId .reject _ _ _ => ∀ k ∈ s.cases.find? caseId,
    k.status = .pending → NoOtherVerified k.buildingId k.membershipId s
  | .enforce caseId dto _ _ _ => ∀ k ∈ s.fraudCases.find? caseId, k.status = .confirmed →
    dto.type = .verificationRevocation → dto.targetType = .managerClaim →
      ∀ membershipId ∈ dto.targetMembershipId, ∀ buildingId ∈ dto.targetBuildingId,
        NoOtherVerified buildingId membershipId s
  | .decideEnforcementAppeal actionId .overturn _ _ => ∀ a ∈ s.enforcementActions.find? actionId,
    a.appealStatus = .pending → a.effectApplied = true → a.effectReversedAt = none →
      ¬ RestoresContradiction s a
  | _ => True

/-! ### What the writes keep -/

variable {s s' : Store}

/-- Every flag that is set was set before, and every verified manager was one before. -/
theorem Truthful.of_mem (hs : Truthful s)
    (h : ∀ b ∈ s'.buildings, b.recoveryModeEnteredAt ≠ none → ∀ m ∈ s'.memberships,
      IsVerifiedManagerOf m b.id → m ∈ s.memberships ∧
        ∃ b₀ ∈ s.buildings, b₀.id = b.id ∧ b₀.recoveryModeEnteredAt ≠ none) : Truthful s' := by
  intro b hb hflag m hm hverified
  obtain ⟨hm₀, b₀, hb₀, hid, hflag₀⟩ := h b hb hflag m hm hverified
  exact hs b₀ hb₀ hflag₀ m hm₀ (hid ▸ hverified)

/-- Actions that undo what the old ones undo are as good. -/
theorem OwnClaims.of_actions (hs : OwnClaims s) (hkeeps : KeepsBuildings s s')
    (h : ∀ a ∈ s'.enforcementActions, a.effectApplied = true → ∃ a₀ ∈ s.enforcementActions,
      a₀.effectApplied = true ∧ reversedEffect a₀ = reversedEffect a) : OwnClaims s' := by
  intro a ha happlied membershipId buildingId heffect
  obtain ⟨a₀, ha₀, happlied₀, heffect₀⟩ := h a ha happlied
  obtain ⟨m, hm, hbuilding⟩ := hs a₀ ha₀ happlied₀ membershipId buildingId (heffect₀.trans heffect)
  obtain ⟨m', hm', hbuilding'⟩ := hkeeps membershipId m hm
  exact ⟨m', hm', hbuilding'.trans hbuilding⟩

/-- Where the actions are the same nothing is new. -/
theorem OwnClaims.of_same_actions (hs : OwnClaims s) (hkeeps : KeepsBuildings s s')
    (h : s'.enforcementActions = s.enforcementActions) : OwnClaims s' :=
  hs.of_actions hkeeps fun a ha happlied => ⟨a, h ▸ ha, happlied, rfl⟩

/-- A write to none of the three tables. -/
theorem Recorded.of_same (hs : Recorded s) (hbuildings : s'.buildings = s.buildings)
    (hmembers : s'.memberships = s.memberships)
    (hactions : s'.enforcementActions = s.enforcementActions) : Recorded s' := by
  refine ⟨hs.truthful.of_mem fun b hb hflag m hm _ => ⟨hmembers ▸ hm, b, hbuildings ▸ hb, rfl, hflag⟩,
    hs.ownClaims.of_same_actions (fun _ m hm => ⟨m, hmembers ▸ hm, rfl⟩) hactions⟩

/-- One membership of the building and the building's flag are written. The flag is null
afterwards, or the building has no verified manager. -/
theorem Truthful.of_claim {membershipId buildingId : ℕ} {f : Membership → Membership}
    {h : ∀ m, (f m).id = m.id} {flag : Option Time} (hs : Truthful s)
    (hbuilding : ∀ m, (f m).buildingId = m.buildingId)
    (hrow : ∀ m ∈ s.memberships, m.id = membershipId → m.buildingId = buildingId)
    (hmembers : s'.memberships = s.memberships.modify membershipId f h)
    (hbuildings : s'.buildings =
      s.buildings.modify buildingId (recoveryMode flag) (recoveryMode_id flag))
    (hverified : flag ≠ none → ∀ m ∈ s'.memberships, ¬ IsVerifiedManagerOf m buildingId) :
    Truthful s' := by
  intro b hb hflag m hm hmanager
  obtain ⟨b₀, hb₀, rfl⟩ := (Table.mem_modify (h := recoveryMode_id flag)).mp (hbuildings ▸ hb)
  by_cases hid : b₀.id = buildingId
  · rw [if_pos hid] at hflag hmanager
    exact hverified hflag m hm (hid ▸ hmanager)
  · rw [if_neg hid] at hflag hmanager
    obtain ⟨m₀, hm₀, rfl⟩ := (Table.mem_modify (h := h)).mp (hmembers ▸ hm)
    split at hmanager
    case isTrue hmid =>
      -- the row belongs to the building that is written
      have hbid : m₀.buildingId = b₀.id := (hbuilding m₀).symm.trans hmanager.1.1
      exact hid (hbid.symm.trans (hrow m₀ hm₀ hmid))
    case isFalse => exact hs b₀ hb₀ hflag m₀ hm₀ hmanager

/-- The same for a claim that ends without verification, where nobody else was verified. -/
theorem not_verified_of_only {membershipId buildingId : ℕ} {f : Membership → Membership}
    {h : ∀ m, (f m).id = m.id} (hstate : ∀ m, (f m).managerState ≠ some .verified)
    (honly : NoOtherVerified buildingId membershipId s)
    (hmembers : s'.memberships = s.memberships.modify membershipId f h) :
    ∀ m ∈ s'.memberships, ¬ IsVerifiedManagerOf m buildingId := by
  intro m hm hmanager
  obtain ⟨m₀, hm₀, rfl⟩ := (Table.mem_modify (h := h)).mp (hmembers ▸ hm)
  split at hmanager
  case isTrue => exact hstate m₀ hmanager.2
  case isFalse hne => exact hne (honly m₀ hm₀ hmanager)

/-- The row that matched is one of the building. -/
theorem buildingId_of_matched {membershipId buildingId : ℕ} {p : Membership → Bool}
    (hp : ∀ m, p m = true → m.buildingId = buildingId)
    (hmatched : (s.memberships.find? membershipId).any p = true) :
    ∀ m ∈ s.memberships, m.id = membershipId → m.buildingId = buildingId := by
  rintro m hm rfl
  rw [Table.find?_of_mem hm] at hmatched
  exact hp m hmatched

/-- What was looked for is not there. -/
theorem noOtherVerified_of_noCompeting {membershipId buildingId : ℕ}
    (h : hasCompetingManager buildingId membershipId s = false) :
    NoOtherVerified buildingId membershipId s := by
  intro m hm hverified
  by_contra hne
  exact List.any_eq_false.mp h m hm (decide_eq_true ⟨hverified.1, hne⟩)

/-! ### Verification cases -/

variable {α β : Type} {Q : β → Store → Store → Prop} {E : Store → Prop} {c w : Store}

/-- A lock changes nothing. -/
theorem leads_advisoryLock {lock : Lock} {f : PUnit → Call β} (h : (f ⟨⟩).Leads Q E c w) :
    (advisoryLock lock >>= f).Leads Q E c w := h

/-- What follows, where there is no competing manager. -/
theorem leads_refuseCompetingManager {buildingId membershipId : ℕ} {f : PUnit → Call β} (hE : E c)
    (h : NoOtherVerified buildingId membershipId w → (f ⟨⟩).Leads Q E c w) :
    (BackOfficeRepository.refuseCompetingManager buildingId membershipId >>= f).Leads Q E c w := by
  rw [BackOfficeRepository.refuseCompetingManager, Prog.bind_assoc]
  exact Prog.Leads.queryUnder (Prog.Leads.require hE fun hnone =>
    h (noOtherVerified_of_noCompeting hnone))

/-- What follows a new case. -/
theorem leads_insertCase {mk : ℕ → ManagerVerificationCase} {h : ∀ id, (mk id).id = id}
    {f : PUnit → Call β} (hE : E c) (hf : (f ⟨⟩).Leads Q E c (w.onCases (·.create mk h))) :
    (insertCase mk h >>= f).Leads Q E c w := by
  rw [insertCase]
  exact Prog.Leads.writeUnless hE fun _ => hf

/-- What follows a change of a case. -/
theorem leads_claimCase {id : ℕ} {p : ManagerVerificationCase → Bool} {e : Failure}
    {g : ManagerVerificationCase → ManagerVerificationCase} {hg : ∀ k, (g k).id = k.id}
    {f : PUnit → Call β} (hE : E c) (h : (f ⟨⟩).Leads Q E c (w.onCases (·.modify id g hg))) :
    (claimCase id p e g hg >>= f).Leads Q E c w := by
  rw [claimCase]
  exact Prog.Leads.claim hE fun _ => h

/-- A decision about a membership and its building. -/
theorem leads_claims {membershipId buildingId : ℕ} {p : Membership → Bool} {q : Building → Bool}
    {e e' : Failure} {f : Membership → Membership} {hf : ∀ m, (f m).id = m.id}
    {flag : Option Time} {g : PUnit → Call β} (hs : Recorded s) (hE : E c)
    (hp : ∀ m, p m = true → m.buildingId = buildingId)
    (hbuilding : ∀ m, (f m).buildingId = m.buildingId)
    (hverified : flag ≠ none →
      (∀ m, (f m).managerState ≠ some .verified) ∧ NoOtherVerified buildingId membershipId s)
    (hmembers : w.memberships = s.memberships) (hbuildings : w.buildings = s.buildings)
    (hactions : w.enforcementActions = s.enforcementActions)
    (hg : ∀ w, Recorded w → (g ⟨⟩).Leads Q E c w) :
    (claimMembership membershipId p e f hf >>= fun _ =>
      claimBuilding buildingId q e' (recoveryMode flag) (recoveryMode_id flag) >>= g).Leads Q E c
        w := by
  rw [claimMembership]
  refine Prog.Leads.claim hE fun hmatched => ?_
  rw [claimBuilding]
  refine Prog.Leads.claim hE fun _ => hg _ ?_
  rw [hmembers] at hmatched
  have hmodified : (w.memberships.modify membershipId f hf) = s.memberships.modify membershipId f hf :=
    congrArg (·.modify membershipId f hf) hmembers
  refine ⟨hs.truthful.of_claim hbuilding (buildingId_of_matched hp hmatched) hmodified
    (congrArg (·.modify buildingId (recoveryMode flag) (recoveryMode_id flag)) hbuildings)
    fun hflag => ?_, hs.ownClaims.of_same_actions (keepsBuildings_modify hbuilding hmodified) hactions⟩
  obtain ⟨hstate, honly⟩ := hverified hflag
  exact not_verified_of_only hstate honly hmodified

/-- The end of a transaction that leaves everything in order. -/
theorem leads_commit {a : α} (hw : Recorded w) :
    (Prog.commitAll >>= fun _ => pure a : Call α).Leads (fun _ c _ => Recorded c) Recorded c w :=
  Prog.Leads.commitAll (Prog.Leads.done hw)

/-- A new case keeps what is recorded. -/
theorem recorded_initiateForProvisionalManager (hs : Recorded s)
    (buildingId membershipId candidateId : ℕ) (isReverification : Option Bool) (now : Time) :
    Recorded ((ManagerVerificationService.initiateForProvisionalManager buildingId membershipId
      candidateId isReverification now).exec s) := by
  refine Prog.exec_of_leads ?_
  rw [ManagerVerificationService.initiateForProvisionalManager,
    BackOfficeRepository.createManagerVerificationCase, Prog.transaction]
  exact leads_insertCase hs (leads_commit (hs.of_same rfl rfl rfl))

/-- So does a decision, where a rejection leaves no verified manager. -/
theorem leads_decideManagerVerificationCaseAtomically (hs : Recorded s) (params : DecideParams)
    (now : Time) (honly : params.decision = .reject →
      NoOtherVerified params.buildingId params.membershipId s) :
    (BackOfficeRepository.decideManagerVerificationCaseAtomically params now).Leads
      (fun _ c _ => Recorded c) Recorded s s := by
  rw [BackOfficeRepository.decideManagerVerificationCaseAtomically, Prog.transaction]
  simp only [Prog.bind_assoc]
  refine leads_advisoryLock (leads_claimCase hs ?_)
  rw [DecideParams.refuseCompetingManager, Prog.ite_bind]
  have hp : ∀ m : Membership, decide (m.buildingId = params.buildingId ∧
      m.personId = params.candidateId) = true → m.buildingId = params.buildingId :=
    fun m hm => (of_decide_eq_true hm).1
  have hbuilding : ∀ m, (decided params.decision now m).buildingId = m.buildingId := by
    intro m
    cases params.decision <;> rfl
  -- only an approval verifies, and it clears the flag
  have hstate : params.recoveryModeEnteredAt now ≠ none →
      ∀ m, (decided params.decision now m).managerState ≠ some .verified := by
    rw [DecideParams.recoveryModeEnteredAt]
    cases params.decision <;> simp [decided]
  split
  · refine leads_refuseCompetingManager hs fun hothers => ?_
    exact leads_claims hs hs hp hbuilding (fun hflag => ⟨hstate hflag, hothers⟩) rfl rfl rfl
      fun _ => leads_commit
  case isFalse hreject =>
    rw [Prog.pure_eq, Prog.done_bind]
    exact leads_claims hs hs hp hbuilding
      (fun hflag => ⟨hstate hflag, honly (not_ne_iff.mp hreject)⟩) rfl rfl rfl
      fun _ => leads_commit

/-- What follows, with the case that was found. -/
theorem leads_getCase {caseId : ℕ} {f : ManagerVerificationCase → Call β} (hE : E c)
    (h : ∀ k, w.cases.find? caseId = some k → (f k).Leads Q E c w) :
    (ManagerVerificationService.getCase caseId >>= f).Leads Q E c w := by
  rw [ManagerVerificationService.getCase, Prog.bind_assoc]
  exact Prog.Leads.query (Prog.Leads.expect hE h)

/-- `decideCase` keeps what is recorded. -/
theorem recorded_decideCase (hs : Recorded s) (caseId : ℕ) (decision : ManagerVerificationDecision)
    (reviewerPersonId : ℕ) (reason : Option String) (now : Time)
    (honly : decision = .reject → ∀ k ∈ s.cases.find? caseId, k.status = .pending →
      NoOtherVerified k.buildingId k.membershipId s) :
    Recorded ((ManagerVerificationService.decideCase caseId decision reviewerPersonId reason
      now).exec s) := by
  refine Prog.exec_of_leads ?_
  rw [ManagerVerificationService.decideCase]
  refine leads_getCase hs fun kase hkase => Prog.Leads.require hs fun hpending => ?_
  exact leads_decideManagerVerificationCaseAtomically hs _ now fun hreject =>
    honly hreject kase hkase hpending

/-- An approval that settles the case clears the flag; any other is only recorded. -/
theorem leads_castManagerVerificationApprovalAtomically (hs : Recorded s)
    (caseId ownerPersonId : ℕ) (now : Time) :
    (BackOfficeRepository.castManagerVerificationApprovalAtomically caseId ownerPersonId now).Leads
      (fun _ c _ => Recorded c) Recorded s s := by
  rw [BackOfficeRepository.castManagerVerificationApprovalAtomically, Prog.transaction]
  simp only [Prog.bind_assoc]
  refine leads_advisoryLock (Prog.Leads.query (Prog.Leads.expect hs fun kase _ => ?_))
  refine Prog.Leads.query (Prog.Leads.require hs fun _ => ?_)
  rw [BackOfficeRepository.insertApproval]
  refine Prog.Leads.writeUnless hs fun _ => Prog.Leads.query (Prog.Leads.query ?_)
  rw [Prog.ite_bind]
  split
  · rw [Prog.bind_assoc, BackOfficeRepository.resolveByOwners]
    simp only [Prog.bind_assoc]
    refine leads_claimCase hs (leads_refuseCompetingManager hs fun _ => ?_)
    exact leads_claims hs hs (fun m hm => (of_decide_eq_true hm).1) (fun _ => rfl)
      (fun h => absurd rfl h) rfl rfl rfl fun _ => leads_commit
  · exact leads_commit (hs.of_same rfl rfl rfl)

/-- What follows, with an open case. -/
theorem leads_assertHasOpenCase {buildingId : ℕ} {kase : Option ManagerVerificationCase}
    {f : ManagerVerificationCase → Call β} (hE : E c) (h : ∀ k, (f k).Leads Q E c w) :
    (ManagerVerificationService.assertHasOpenCase buildingId kase >>= f).Leads Q E c w := by
  cases kase with
  | some k => exact h k
  | none =>
    rw [ManagerVerificationService.assertHasOpenCase, Prog.bind_assoc]
    refine Prog.Leads.query ?_
    rw [Prog.bind_assoc]
    exact Prog.Leads.require hE fun _ => Prog.Leads.fail hE

/-- So does an approval of an owner. -/
theorem recorded_approveByOwner (hs : Recorded s) (buildingId callerPersonId : ℕ) (now : Time) :
    Recorded ((ManagerVerificationService.approveByOwner buildingId callerPersonId now).exec s) := by
  refine Prog.exec_of_leads ?_
  rw [ManagerVerificationService.approveByOwner]
  refine Prog.Leads.query (leads_assertHasOpenCase hs fun kase => ?_)
  rw [ManagerVerificationPolicy.assertCaseOpen, ManagerVerificationPolicy.assertNotSelfApproving]
  refine Prog.Leads.require hs fun _ => Prog.Leads.require hs fun _ => ?_
  refine Prog.Leads.query (Prog.Leads.require hs fun _ => ?_)
  exact leads_castManagerVerificationApprovalAtomically hs _ _ now

/-- So does the restoration of a manager. -/
theorem recorded_restoreManagement (hs : Recorded s) (caseId reviewerPersonId : ℕ)
    (reason : Option String) (now : Time) :
    Recorded ((ManagerVerificationService.restoreManagement caseId reviewerPersonId reason
      now).exec s) := by
  refine Prog.exec_of_leads ?_
  rw [ManagerVerificationService.restoreManagement]
  refine leads_getCase hs fun suspended _ => ?_
  rw [ManagerVerificationPolicy.assertCanRestore]
  refine Prog.Leads.require hs fun _ => ?_
  rw [BackOfficeRepository.restoreManagerVerificationCaseAtomically, Prog.transaction]
  simp only [Prog.bind_assoc]
  refine leads_advisoryLock (Prog.Leads.query (Prog.Leads.expect hs fun suspended _ => ?_))
  refine Prog.Leads.require hs fun _ => Prog.Leads.query (Prog.Leads.require hs fun _ => ?_)
  refine leads_insertCase hs (leads_refuseCompetingManager hs fun _ => ?_)
  exact leads_claims hs hs (fun m hm => (of_decide_eq_true hm).1) (fun _ => rfl)
    (fun h => absurd rfl h) rfl rfl rfl fun _ => leads_commit

/-- So does an appeal. -/
theorem recorded_appealCase (hs : Recorded s) (buildingId callerPersonId : ℕ) (now : Time) :
    Recorded ((ManagerVerificationService.appealCase buildingId callerPersonId now).exec s) := by
  refine Prog.exec_of_leads ?_
  rw [ManagerVerificationService.appealCase]
  refine Prog.Leads.query (Prog.Leads.expect hs fun latest _ => ?_)
  refine Prog.Leads.query (Prog.Leads.require hs fun _ => ?_)
  rw [ManagerVerificationPolicy.assertCanAppeal, Prog.bind_assoc]
  refine Prog.Leads.require hs fun _ => Prog.Leads.require hs fun _ => ?_
  rw [BackOfficeRepository.createManagerVerificationAppealAtomically, Prog.transaction]
  simp only [Prog.bind_assoc]
  refine leads_advisoryLock (Prog.Leads.query (Prog.Leads.expect hs fun source _ => ?_))
  refine Prog.Leads.query (Prog.Leads.require hs fun _ => ?_)
  exact leads_insertCase hs (leads_commit (hs.of_same rfl rfl rfl))

/-! ### Changes of the manager -/

/-- Retiring a manager keeps the buildings. -/
theorem keepsBuildings_retire (now : Time) (current : Option Membership) :
    KeepsBuildings s (retire now current s) := by
  cases current with
  | none => exact KeepsBuildings.refl s
  | some m =>
    have hmembers : (retire now (some m) s).memberships = s.memberships.modify m.id
        (BuildingRepository.retired now) (BuildingRepository.retired_id now) := rfl
    exact keepsBuildings_modify (f := BuildingRepository.retired now) (fun _ => rfl) hmembers

/-- The end of a membership writes no other table. -/
theorem retire_others {now : Time} {current : Option Membership} :
    (retire now current s).buildings = s.buildings ∧
      (retire now current s).enforcementActions = s.enforcementActions := by
  cases current <;> exact ⟨rfl, rfl⟩

/-- A verified manager after the end of a membership was one before. -/
theorem mem_of_mem_retire (now : Time) (current : Option Membership) {m : Membership}
    {buildingId : ℕ} (hm : m ∈ (retire now current s).memberships)
    (hmanager : m.IsManagerOf buildingId) : m ∈ s.memberships := by
  cases current with
  | none => exact hm
  | some m₀ =>
    obtain ⟨m₁, hm₁, rfl⟩ := (Table.mem_modify (h := BuildingRepository.retired_id now)).mp hm
    split at hmanager
    case isTrue => exact absurd hmanager.2.2 Bool.false_ne_true
    case isFalse hne =>
      rw [if_neg hne]
      exact hm₁

/-- The former manager's membership ends, and a provisional or a verified one begins. -/
theorem Recorded.of_handoff (hs : Recorded s) (params : BuildingRepository.ChangeManagerParams)
    (now : Time) {current : Option Membership}
    (hmembers : s'.memberships =
      (retire now current s).memberships.create (appointed params now) (appointed_id params now))
    (hbuildings : s'.buildings = (retire now current s).buildings ∧ params.managerState ≠ .verified ∨
      s'.buildings = (retire now current s).buildings.modify params.buildingId (recoveryMode none)
        (recoveryMode_id none))
    (hactions : s'.enforcementActions = (retire now current s).enforcementActions) :
    Recorded s' := by
  rw [retire_others.1] at hbuildings
  rw [retire_others.2] at hactions
  have hcreated : KeepsBuildings (retire now current s) s' := by
    intro id m hm
    refine ⟨m, ?_, rfl⟩
    rw [hmembers]
    exact Table.find?_create_of_find? hm
  refine ⟨hs.truthful.of_mem fun b hb hflag m hm hverified => ?_,
    hs.ownClaims.of_same_actions ((keepsBuildings_retire now current).trans hcreated) hactions⟩
  -- the flag is never set here, so it stood before
  have hold : ∃ b₀ ∈ s.buildings, b₀.id = b.id ∧ b₀.recoveryModeEnteredAt ≠ none := by
    rcases hbuildings with ⟨hsame, -⟩ | hcleared
    · exact ⟨b, hsame ▸ hb, rfl, hflag⟩
    · obtain ⟨b₀, hb₀, rfl⟩ := (Table.mem_modify (h := recoveryMode_id none)).mp (hcleared ▸ hb)
      split at hflag
      case isTrue => exact absurd rfl hflag
      case isFalse hne => exact ⟨b₀, hb₀, by rw [if_neg hne], hflag⟩
  refine ⟨?_, hold⟩
  rcases (Table.mem_create (h := appointed_id params now)).mp (hmembers ▸ hm) with hm | rfl
  · exact mem_of_mem_retire now current hm hverified.1
  · -- a new manager who is verified clears the flag
    exfalso
    rcases hbuildings with ⟨-, hstate⟩ | hcleared
    · exact hstate (Option.some.inj hverified.2)
    · obtain ⟨b₀, hb₀, rfl⟩ := (Table.mem_modify (h := recoveryMode_id none)).mp (hcleared ▸ hb)
      have hid : b₀.id = params.buildingId := by
        have hmanages := hverified.1.1
        split at hmanages <;> exact hmanages.symm
      rw [if_pos hid] at hflag
      exact hflag rfl

/-- What follows, when the manager has been retired. -/
theorem leads_retireManager {now : Time} {current : Option Membership} {f : PUnit → Call β}
    (hE : E c) (h : (f ⟨⟩).Leads Q E c (retire now current w)) :
    (BuildingRepository.retireManager now current >>= f).Leads Q E c w := by
  cases current with
  | none => exact h
  | some m =>
    rw [BuildingRepository.retireManager, updateMembership]
    exact Prog.Leads.writeIf hE fun _ => h

/-- `changeManager` keeps what is recorded. -/
theorem recorded_changeManager (hs : Recorded s) (params : BuildingRepository.ChangeManagerParams)
    (now : Time) : Recorded ((BuildingService.changeManager params now).exec s) := by
  refine Prog.exec_of_leads ?_
  rw [BuildingService.changeManager, BuildingService.getById, Prog.bind_assoc]
  refine Prog.Leads.query (Prog.Leads.expect hs fun _ _ => Prog.Leads.query ?_)
  rw [ManagerAssignmentPolicy.assertNotSelfHandoff]
  refine Prog.Leads.require hs fun _ => Prog.Leads.query ?_
  rw [ManagerAssignmentPolicy.assertCandidateIsMember]
  refine Prog.Leads.require hs fun _ => ?_
  rw [BuildingRepository.changeManager, Prog.transaction]
  simp only [Prog.bind_assoc]
  refine Prog.Leads.queryUnder (leads_retireManager hs ?_)
  rw [insertMembership]
  refine Prog.Leads.writeUnless hs fun _ => ?_
  rw [Prog.ite_bind]
  split
  · rw [updateBuilding]
    exact Prog.Leads.writeIf hs fun _ => leads_commit (hs.of_handoff params now rfl (Or.inr rfl) rfl)
  case isFalse hstate =>
    exact leads_commit (hs.of_handoff params now rfl (Or.inl ⟨rfl, hstate⟩) rfl)

/-- So does `endManagement`. -/
theorem recorded_endManagement (hs : Recorded s) (buildingId : ℕ) (now : Time) :
    Recorded ((BuildingService.endManagement buildingId now).exec s) := by
  refine Prog.exec_of_leads ?_
  rw [BuildingService.endManagement]
  refine Prog.Leads.query ?_
  rw [ManagerAssignmentPolicy.assertHasActiveManager]
  refine Prog.Leads.expect hs fun current _ => ?_
  rw [BuildingRepository.endManagement, Prog.transaction, updateMembership]
  refine Prog.Leads.writeIf hs fun _ => leads_commit ⟨hs.truthful.of_mem ?_, ?_⟩
  · exact fun b hb hflag m hm hverified =>
      ⟨mem_of_mem_retire now (some current) hm hverified.1, b, hb, rfl, hflag⟩
  · exact hs.ownClaims.of_same_actions (keepsBuildings_retire now (some current)) rfl

/-! ### Enforcement -/

/-- Which actions revoke the claim of a manager. -/
theorem enforcementEffect_eq_revokeManagerClaim {type : EnforcementActionType}
    {targetType : EnforcementTargetType} {person building membership : Option ℕ}
    {membershipId buildingId : ℕ}
    (h : BackOfficeRepository.enforcementEffect type targetType person building membership =
      some (.revokeManagerClaim membershipId buildingId)) :
    type = .verificationRevocation ∧ targetType = .managerClaim ∧ membership = some membershipId ∧
      building = some buildingId := by
  unfold BackOfficeRepository.enforcementEffect at h
  split at h <;> simp_all

/-- The store after the effect of an action, before the action is recorded. -/
structure Affected (effect : Option EnforcementEffect) (s s' : Store) : Prop where
  truthful : Truthful s'
  keeps : KeepsBuildings s s'
  actions : s'.enforcementActions = s.enforcementActions
  own : ∀ membershipId buildingId, effect = some (.revokeManagerClaim membershipId buildingId) →
    ∃ m, s'.memberships.find? membershipId = some m ∧ m.buildingId = buildingId

/-- Neither a flag nor a membership is written. -/
theorem Truthful.of_same_flags {f : Community.Building → Community.Building}
    {h : ∀ b, (f b).id = b.id} {id : ℕ} (hs : Truthful s)
    (hbuildings : s'.buildings = s.buildings.modify id f h)
    (hmembers : s'.memberships = s.memberships)
    (hflag : ∀ b, (f b).recoveryModeEnteredAt = b.recoveryModeEnteredAt) : Truthful s' := by
  refine hs.of_mem fun b hb hset m hm _ => ⟨hmembers ▸ hm, ?_⟩
  obtain ⟨b₀, hb₀, rfl⟩ := (Table.mem_modify (h := h)).mp (hbuildings ▸ hb)
  refine ⟨b₀, hb₀, ?_, ?_⟩
  · split
    · exact (h b₀).symm
    · rfl
  · split at hset
    · exact (hflag b₀) ▸ hset
    · exact hset

/-- What follows the effect of an action. -/
theorem leads_applyEffect {effect : Option EnforcementEffect} {now : Time}
    {f : Option PreviousTargetState → Call β} (hs : Recorded s) (hE : E c)
    (honly : ∀ membershipId buildingId, effect = some (.revokeManagerClaim membershipId buildingId) →
      NoOtherVerified buildingId membershipId s)
    (hf : ∀ previous w, Affected effect s w → (f previous).Leads Q E c w) :
    (BackOfficeRepository.applyEffect now effect >>= f).Leads Q E c s := by
  -- an effect on a person or a building leaves the memberships alone
  have hquiet : ∀ w, w.memberships = s.memberships → Truthful w →
      w.enforcementActions = s.enforcementActions →
      (∀ membershipId buildingId, effect ≠ some (.revokeManagerClaim membershipId buildingId)) →
        Affected effect s w := fun w hmembers htruthful hactions hno =>
    ⟨htruthful, fun _ m hm => ⟨m, hmembers ▸ hm, rfl⟩, hactions, fun _ _ h => absurd h (hno _ _)⟩
  unfold BackOfficeRepository.applyEffect
  split
  · rw [Prog.bind_assoc]
    refine Prog.Leads.queryUnder ?_
    rw [Prog.bind_assoc]
    refine Prog.Leads.expect hE fun target _ => ?_
    rw [Prog.bind_assoc, updatePerson]
    refine Prog.Leads.writeIf hE fun _ => hf _ _ (hquiet _ rfl ?_ rfl fun _ _ h => by cases h)
    exact hs.truthful.of_mem fun b hb hflag m hm _ => ⟨hm, b, hb, rfl, hflag⟩
  · rw [Prog.bind_assoc]
    refine Prog.Leads.query ?_
    rw [Prog.bind_assoc]
    refine Prog.Leads.expect hE fun target _ => ?_
    rw [Prog.bind_assoc, updateBuilding]
    refine Prog.Leads.writeIf hE fun _ => hf _ _ (hquiet _ rfl ?_ rfl fun _ _ h => by cases h)
    exact hs.truthful.of_same_flags
      (f := fun b : Community.Building => { b with status := .rejected }) (h := fun _ => rfl)
      rfl rfl fun _ => rfl
  case h_3 membershipId buildingId =>
    rw [Prog.bind_assoc]
    refine Prog.Leads.query ?_
    rw [Prog.bind_assoc]
    refine Prog.Leads.expect hE fun membership hmembership => ?_
    rw [Prog.bind_assoc]
    refine Prog.Leads.query ?_
    rw [Prog.bind_assoc]
    refine Prog.Leads.expect hE fun building hbuilding => ?_
    rw [Prog.bind_assoc]
    refine Prog.Leads.require hE fun hbelongs => ?_
    rw [Prog.bind_assoc, updateMembership]
    refine Prog.Leads.writeIf hE fun _ => ?_
    rw [Prog.bind_assoc, updateBuilding]
    refine Prog.Leads.writeIf hE fun _ => hf _ _ ?_
    obtain ⟨hmem, rfl⟩ := Table.find?_eq_some_iff.mp hmembership
    obtain ⟨-, rfl⟩ := Table.find?_eq_some_iff.mp hbuilding
    -- the suspended claim is still one of its building
    have hkeeps : KeepsBuildings s (s.onMemberships (·.modify membership.id
        BackOfficeRepository.suspendedClaim BackOfficeRepository.suspendedClaim_id)) :=
      keepsBuildings_modify (f := BackOfficeRepository.suspendedClaim)
        (h := BackOfficeRepository.suspendedClaim_id) (fun _ => rfl) rfl
    refine ⟨?_, hkeeps, rfl, fun _ _ heffect => ?_⟩
    · refine hs.truthful.of_claim (f := BackOfficeRepository.suspendedClaim)
        (h := BackOfficeRepository.suspendedClaim_id) (fun _ => rfl) ?_ rfl rfl fun _ =>
          not_verified_of_only (h := BackOfficeRepository.suspendedClaim_id)
            (fun _ h => by cases h) (honly _ _ rfl) rfl
      intro m hm hid
      rw [Table.eq_of_key_eq hm hmem hid]
      exact hbelongs
    · cases heffect
      obtain ⟨m, hm, hkept⟩ := hkeeps _ _ hmembership
      exact ⟨m, hm, hkept.trans hbelongs⟩
  · exact hf _ _ (hquiet _ rfl hs.truthful rfl fun _ _ h => by cases h)

/-- The row of an action that is issued. -/
def issued (params : EnforcementParams) (previous : Option PreviousTargetState) (id : ℕ) :
    EnforcementAction :=
  { id, fraudCaseId := params.fraudCaseId, type := params.type, targetType := params.targetType,
    targetPersonId := params.targetPersonId, targetBuildingId := params.targetBuildingId,
    targetMembershipId := params.targetMembershipId, reason := params.reason,
    issuedById := params.issuedById, idempotencyKey := some params.idempotencyKey,
    effectApplied := params.effect.isSome, previousTargetState := previous }

theorem issued_id (params : EnforcementParams) (previous : Option PreviousTargetState) (id : ℕ) :
    (issued params previous id).id = id := rfl

/-- The effect of an action, with its record, keeps what is recorded. -/
theorem Affected.recorded {params : EnforcementParams} {previous : Option PreviousTargetState}
    (h : Affected params.effect s s') (hs : Recorded s) :
    Recorded (s'.onEnforcementActions (·.create (issued params previous)
      (issued_id params previous))) := by
  refine ⟨h.truthful, fun a ha happlied membershipId buildingId heffect => ?_⟩
  rcases (Table.mem_create (h := issued_id params previous)).mp ha with hold | rfl
  · obtain ⟨m, hm, hbuilding⟩ :=
      hs.ownClaims a (h.actions ▸ hold) happlied membershipId buildingId heffect
    obtain ⟨m', hm', hkept⟩ := h.keeps membershipId m hm
    exact ⟨m', hm', hkept.trans hbuilding⟩
  · exact h.own membershipId buildingId heffect

/-- So does an action with its effect. -/
theorem leads_createEnforcementActionWithEffect (hs : Recorded s) (params : EnforcementParams)
    (now : Time) (honly : ∀ membershipId buildingId,
      params.effect = some (.revokeManagerClaim membershipId buildingId) →
        NoOtherVerified buildingId membershipId s) :
    (BackOfficeRepository.createEnforcementActionWithEffect params now).Leads
      (fun _ c _ => Recorded c) Recorded s s := by
  rw [BackOfficeRepository.createEnforcementActionWithEffect]
  refine Prog.Leads.query ?_
  split
  · exact Prog.Leads.done hs
  · refine Prog.Leads.tryCatch (F := Recorded) ?_ fun e c hc => ?_
    · rw [BackOfficeRepository.issueAction, Prog.transaction, Prog.bind_assoc]
      refine leads_applyEffect hs hs honly fun previous w haffected => ?_
      rw [BackOfficeRepository.insertAction]
      exact Prog.Leads.writeUnless hs fun _ => leads_commit (haffected.recorded hs)
    · cases e with
      | uniqueConstraint =>
        exact Prog.Leads.query (Prog.Leads.expect hc fun _ _ => Prog.Leads.done hc)
      | app | foreignKey | recordNotFound | checkConstraint | invalidArgument => exact Prog.Leads.fail hc

/-- What follows, where the target is right. -/
theorem leads_assertTargetMatchesType {dto : FraudCaseService.EnforceDto} {kase : FraudCase}
    {f : PUnit → Call β} (hE : E c) (h : (f ⟨⟩).Leads Q E c w) :
    (FraudCaseService.assertTargetMatchesType dto kase >>= f).Leads Q E c w := by
  rw [FraudCaseService.assertTargetMatchesType, Prog.bind_assoc]
  refine Prog.Leads.require hE fun _ => ?_
  rw [Prog.bind_assoc]
  refine Prog.Leads.require hE fun _ => ?_
  unfold FraudCaseService.assertTarget
  split
  all_goals
    rw [Prog.bind_assoc]
    exact Prog.Leads.require hE fun _ => Prog.Leads.require hE fun _ => h

/-- `enforce` keeps what is recorded. -/
theorem recorded_enforce (hs : Recorded s) (caseId : ℕ) (dto : FraudCaseService.EnforceDto)
    (issuedById : ℕ) (requestId : String) (now : Time)
    (honly : Considerate s (.enforce caseId dto issuedById requestId now)) :
    Recorded ((FraudCaseService.enforce caseId dto issuedById requestId now).exec s) := by
  refine Prog.exec_of_leads ?_
  rw [FraudCaseService.enforce, FraudCaseService.getCase, Prog.bind_assoc]
  refine Prog.Leads.query (Prog.Leads.expect hs fun kase hkase => ?_)
  refine Prog.Leads.require hs fun hconfirmed => leads_assertTargetMatchesType hs ?_
  refine Prog.Leads.query (Prog.Leads.expect hs fun staff _ => ?_)
  rw [FraudCasePolicy.assertCanIssueEnforcement]
  refine Prog.Leads.require hs fun _ => leads_createEnforcementActionWithEffect hs _ now ?_
  intro membershipId buildingId heffect
  obtain ⟨htype, htarget, hmembership, hbuilding⟩ := enforcementEffect_eq_revokeManagerClaim heffect
  exact honly kase hkase hconfirmed htype htarget membershipId hmembership buildingId hbuilding

/-- What follows, with the action that was found. -/
theorem leads_getAction {actionId : ℕ} {f : EnforcementAction → Call β} (hE : E c)
    (h : ∀ a, w.enforcementActions.find? actionId = some a → (f a).Leads Q E c w) :
    (FraudCaseService.getAction actionId >>= f).Leads Q E c w := by
  rw [FraudCaseService.getAction, Prog.bind_assoc]
  exact Prog.Leads.query (Prog.Leads.expect hE h)

/-- A write to an action that keeps what it did. -/
theorem OwnClaims.of_modified {f : EnforcementAction → EnforcementAction}
    {h : ∀ a, (f a).id = a.id} {id : ℕ} (hs : OwnClaims s) (hkeeps : KeepsBuildings s s')
    (hactions : s'.enforcementActions = s.enforcementActions.modify id f h)
    (heffect : ∀ a, (f a).effectApplied = a.effectApplied ∧ reversedEffect (f a) = reversedEffect a) :
    OwnClaims s' := by
  refine hs.of_actions hkeeps fun a ha happlied => ?_
  obtain ⟨a₀, ha₀, rfl⟩ := (Table.mem_modify (h := h)).mp (hactions ▸ ha)
  refine ⟨a₀, ha₀, ?_⟩
  split at happlied
  case isTrue hid =>
    rw [if_pos hid]
    exact ⟨(heffect a₀).1.symm.trans happlied, (heffect a₀).2.symm⟩
  case isFalse hid =>
    rw [if_neg hid]
    exact ⟨happlied, rfl⟩

/-- So does the appeal against an action. -/
theorem recorded_appealEnforcement (hs : Recorded s) (actionId callerPersonId : ℕ)
    (reason : Option String) (now : Time) :
    Recorded ((FraudCaseService.appealEnforcement actionId callerPersonId reason now).exec s) := by
  refine Prog.exec_of_leads ?_
  rw [FraudCaseService.appealEnforcement]
  refine leads_getAction hs fun a _ => Prog.Leads.query ?_
  rw [FraudCasePolicy.assertCanAppealEnforcement, Prog.bind_assoc]
  refine Prog.Leads.require hs fun _ => Prog.Leads.require hs fun _ => ?_
  rw [BackOfficeRepository.requestEnforcementAppeal, Prog.transaction, claimAction]
  refine Prog.Leads.claim hs fun _ => leads_commit ⟨hs.truthful, ?_⟩
  exact hs.ownClaims.of_modified
    (f := fun a : EnforcementAction => { a with
      appealStatus := .pending
      appealReason := reason.or a.appealReason
      appealedAt := some now }) (h := fun _ => rfl)
    (KeepsBuildings.refl s) rfl fun _ => ⟨rfl, rfl⟩

/-- What an overturned revocation gives back is no contradiction: the flag that was set is
given back to a building without verified manager, and the verification only without it. -/
theorem Truthful.of_reversed {membershipId buildingId : ℕ} {previous : Option PreviousTargetState}
    (hw : Truthful w) (hown : ∀ m ∈ w.memberships, m.id = membershipId → m.buildingId = buildingId)
    (hflagged : (w.buildings.find? buildingId).any (fun b => b.recoveryModeEnteredAt ≠ none) = true)
    (hconsistent : ∀ t, previous = some (.managerClaim (some .verified) (some t)) →
      ∀ m ∈ w.memberships, m.id = membershipId → ¬ m.IsManagerOf buildingId)
    (hmembers : s'.memberships = w.memberships.modify membershipId
      (BackOfficeRepository.restoredClaim previous) (BackOfficeRepository.restoredClaim_id previous))
    (hbuildings : s'.buildings = w.buildings.modify buildingId
      (BackOfficeRepository.restoredRecoveryMode previous)
      (BackOfficeRepository.restoredRecoveryMode_id previous)) : Truthful s' := by
  -- the flag is set, so nobody is verified before
  have hnone : ∀ m ∈ w.memberships, ¬ IsVerifiedManagerOf m buildingId := by
    obtain ⟨b, hb, hset⟩ := (Option.any_eq_true _ _).mp hflagged
    obtain ⟨hmem, rfl⟩ := Table.find?_eq_some_iff.mp hb
    exact hw b hmem (of_decide_eq_true hset)
  have hquiet : (∀ m, BackOfficeRepository.restoredClaim previous m = m) →
      (∀ b, BackOfficeRepository.restoredRecoveryMode previous b = b) → Truthful s' := by
    intro hclaim hflag
    rw [Table.modify_eq_self fun m _ _ => hclaim m] at hmembers
    rw [Table.modify_eq_self fun b _ _ => hflag b] at hbuildings
    exact hw.of_mem fun b hb hset m hm _ => ⟨hmembers ▸ hm, b, hbuildings ▸ hb, rfl, hset⟩
  rcases previous with _ | (isSuspended | status | ⟨state, flag⟩)
  · exact hquiet (fun _ => rfl) fun _ => rfl
  · exact hquiet (fun _ => rfl) fun _ => rfl
  · exact hquiet (fun _ => rfl) fun _ => rfl
  · refine hw.of_claim (f := BackOfficeRepository.restoredClaim (some (.managerClaim state flag)))
      (fun _ => rfl) hown hmembers hbuildings fun hflag m hm hverified => ?_
    obtain ⟨m₀, hm₀, rfl⟩ := (Table.mem_modify
      (h := BackOfficeRepository.restoredClaim_id (some (.managerClaim state flag)))).mp (hmembers ▸ hm)
    split at hverified
    case isTrue hid =>
      obtain ⟨t, rfl⟩ := Option.ne_none_iff_exists'.mp hflag
      obtain rfl : state = some .verified := hverified.2
      exact hconsistent t rfl m₀ hm₀ hid hverified.1
    case isFalse => exact hnone m₀ hm₀ hverified

/-- What follows, when the effect has been undone. -/
theorem leads_reverseEffect {previous : Option PreviousTargetState}
    {effect : Option EnforcementEffect} {f : PUnit → Call β} (hE : E c) (hw : Truthful w)
    (hown : ∀ membershipId buildingId, effect = some (.revokeManagerClaim membershipId buildingId) →
      ∀ m ∈ w.memberships, m.id = membershipId → m.buildingId = buildingId)
    (hconsistent : ∀ membershipId buildingId t,
      effect = some (.revokeManagerClaim membershipId buildingId) →
      previous = some (.managerClaim (some .verified) (some t)) →
        ∀ m ∈ w.memberships, m.id = membershipId → ¬ m.IsManagerOf buildingId)
    (hf : ∀ w', Truthful w' → KeepsBuildings w w' →
      w'.enforcementActions = w.enforcementActions → (f ⟨⟩).Leads Q E c w') :
    (BackOfficeRepository.reverseEffect previous effect >>= f).Leads Q E c w := by
  unfold BackOfficeRepository.reverseEffect
  split
  · rw [claimPerson, Prog.bind_assoc]
    refine Prog.Leads.queryUnder ?_
    rw [Prog.bind_assoc]
    refine Prog.Leads.require hE fun _ => Prog.Leads.writeIf hE fun _ => ?_
    refine hf _ ?_ (KeepsBuildings.refl w) rfl
    exact hw.of_mem fun b hb hflag m hm _ => ⟨hm, b, hb, rfl, hflag⟩
  · rw [claimBuilding]
    refine Prog.Leads.claim hE fun _ => hf _ ?_ (KeepsBuildings.refl w) rfl
    refine hw.of_same_flags (h := BackOfficeRepository.restoredStatus_id previous) rfl rfl fun b => ?_
    unfold BackOfficeRepository.restoredStatus
    split <;> rfl
  case h_3 membershipId buildingId =>
    rw [Prog.bind_assoc, claimMembership]
    refine Prog.Leads.claim hE fun _ => ?_
    rw [claimBuilding]
    refine Prog.Leads.claim hE fun hflagged => hf _ ?_ ?_ rfl
    · exact hw.of_reversed (hown _ _ rfl) hflagged (fun t => hconsistent _ _ t rfl) rfl rfl
    · refine keepsBuildings_modify (h := BackOfficeRepository.restoredClaim_id previous)
        (fun m => ?_) rfl
      unfold BackOfficeRepository.restoredClaim
      split <;> rfl
  · exact hf w hw (KeepsBuildings.refl w) rfl

/-- So does the decision about an appeal. -/
theorem recorded_decideEnforcementAppeal (hs : Recorded s) (actionId : ℕ)
    (decision : FraudCaseService.AppealDecision) (deciderPersonId : ℕ) (now : Time)
    (hconsistent : Considerate s (.decideEnforcementAppeal actionId decision deciderPersonId now)) :
    Recorded ((FraudCaseService.decideEnforcementAppeal actionId decision deciderPersonId
      now).exec s) := by
  refine Prog.exec_of_leads ?_
  rw [FraudCaseService.decideEnforcementAppeal]
  refine leads_getAction hs fun a ha => ?_
  rw [FraudCasePolicy.assertAppealDecidable]
  refine Prog.Leads.require hs fun hpending => ?_
  rw [BackOfficeRepository.decideEnforcementAppeal, Prog.transaction]
  simp only [Prog.bind_assoc]
  refine Prog.Leads.query (Prog.Leads.expect hs fun a' ha' => ?_)
  obtain rfl : a = a' := Option.some.inj (ha.symm.trans ha')
  rw [claimAction]
  refine Prog.Leads.claim hs fun _ => ?_
  have hclaimed : OwnClaims (s.onEnforcementActions (·.modify actionId
      (BackOfficeRepository.appealDecided decision.status deciderPersonId now)
      (BackOfficeRepository.appealDecided_id decision.status deciderPersonId now))) :=
    hs.ownClaims.of_modified (h := BackOfficeRepository.appealDecided_id decision.status
      deciderPersonId now) (KeepsBuildings.refl s) rfl fun _ => ⟨rfl, rfl⟩
  rw [BackOfficeRepository.undoAction, Prog.ite_bind]
  split
  case isFalse => exact leads_commit ⟨hs.truthful, hclaimed⟩
  case isTrue hundo =>
    obtain ⟨hoverturned, happlied, hreversed⟩ := hundo
    rw [Prog.bind_assoc]
    refine leads_reverseEffect hs hs.truthful ?_ ?_ fun w hw hkeeps hactions => ?_
    · intro membershipId buildingId heffect m hm hid
      obtain ⟨m', hm', hbuilding⟩ :=
        hs.ownClaims a (Table.mem_of_find? ha) happlied membershipId buildingId heffect
      obtain ⟨hmem, hid'⟩ := Table.find?_eq_some_iff.mp hm'
      rw [Table.eq_of_key_eq hm hmem (hid.trans hid'.symm)]
      exact hbuilding
    · intro membershipId buildingId t heffect hprevious m hm hid hmanager
      cases decision with
      | uphold => cases hoverturned
      | overturn =>
        refine hconsistent a ha hpending happlied hreversed ?_
        rw [RestoresContradiction, heffect, hprevious]
        exact ⟨m, hm, hid, hmanager⟩
    · rw [BackOfficeRepository.markReversed]
      refine Prog.Leads.writeIf hs fun _ => leads_commit ⟨hw, ?_⟩
      refine OwnClaims.of_modified
        (f := fun a : EnforcementAction => { a with effectReversedAt := some now })
        (h := fun _ => rfl) (hclaimed.of_same_actions hkeeps hactions) (KeepsBuildings.refl w) rfl
        fun _ => ⟨rfl, rfl⟩

/-! ### Runs -/

/-- Every call does. -/
theorem recorded_manage (s : Store) (e : ManagementEvent) (hs : Recorded s)
    (he : Considerate s e) : Recorded (manage s e) := by
  cases e with
  | initiateForProvisionalManager buildingId membershipId candidateId isReverification now =>
    exact recorded_initiateForProvisionalManager hs _ _ _ _ now
  | changeManager params now => exact recorded_changeManager hs params now
  | endManagement buildingId now => exact recorded_endManagement hs buildingId now
  | decideCase caseId decision reviewerPersonId reason now =>
    refine recorded_decideCase hs caseId decision reviewerPersonId reason now ?_
    rintro rfl
    exact he
  | approveByOwner buildingId callerPersonId now =>
    exact recorded_approveByOwner hs buildingId callerPersonId now
  | restoreManagement caseId reviewerPersonId reason now =>
    exact recorded_restoreManagement hs caseId reviewerPersonId reason now
  | appealCase buildingId callerPersonId now => exact recorded_appealCase hs buildingId callerPersonId now
  | enforce caseId dto issuedById requestId now =>
    exact recorded_enforce hs caseId dto issuedById requestId now he
  | appealEnforcement actionId callerPersonId reason now =>
    exact recorded_appealEnforcement hs actionId callerPersonId reason now
  | decideEnforcementAppeal actionId decision deciderPersonId now =>
    exact recorded_decideEnforcementAppeal hs actionId decision deciderPersonId now he

/-- After any sequence of considerate steps a building in Recovery Mode has no verified manager. -/
theorem truthful_of_considerate (hs : Truthful s) (hclaims : OwnClaims s)
    {es : List ManagementEvent} (hes : EachStep manage Considerate s es) :
    Truthful (runFrom manage s es) :=
  (runFrom_induction_of_eachStep recorded_manage ⟨hs, hclaims⟩ hes).truthful

/-- A building whose founder has claimed the management, with a second member. -/
def claimedHome : Store :=
  { Store.empty with
    buildings := Table.empty.create fun id =>
      { id, name := "Home", addressLine := "", postalCode := "1", createdById := 0 }
    persons := (Table.empty.create fun id => { id, phone := "1" }).create fun id =>
      { id, phone := "2" }
    memberships := (Table.empty.create fun id =>
      { id, personId := 0, buildingId := 0, role := .manager,
        managerState := some .provisional,
        managerAssignmentType := some .provisional }).create fun id =>
          { id, personId := 1, buildingId := 0, role := .owner } }

/-- The claim is queued, and the second member is elected. -/
def electedMeanwhile : List ManagementEvent :=
  [.initiateForProvisionalManager 0 0 0 none 1,
    .changeManager
      { buildingId := 0, newManagerPersonId := 1, assignmentType := .elected, assignedById := none }
      2]

/-- Nothing is rejected. -/
theorem truthful_of_considerate_electedMeanwhile :
    Truthful (runFrom manage claimedHome electedMeanwhile) :=
  truthful_of_considerate (by decide) (fun _ ha => absurd ha List.not_mem_nil)
    ⟨trivial, trivial, trivial⟩

/-- The claim of the former manager is rejected: the building enters Recovery Mode, and has a
verified manager. -/
theorem reject_after_election :
    ¬ Truthful (runFrom manage claimedHome
      (electedMeanwhile ++ [.decideCase 0 .reject 1 none 3])) := by
  decide +kernel

end VielHome.Backoffice
