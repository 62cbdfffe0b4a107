import VielHome.Backoffice.RecoveryMode
import Mathlib.Data.List.Dedup

/-!
# Approvals of owners who have left

A case is decided by its owners when the approvals it has reach the required share of the current
owners of the building. The approvals are kept for good, while owners come and go, so an approval of
somebody who has handed everything over still counts. The share is one of current owners in every run
in which nobody who has approved an open case hands over the last of the building
(`resolvedByOwners_of_ownersStay`).
-/

namespace VielHome.Backoffice

open Relational Community Building
open Relational.ReadCommitted (Prog)
open BackOfficeRepository (approvedByOwners approvedByOwners_id approverCount
  findManagerVerificationApproval totalOwners verified)

/-- The people who currently own something in a building. -/
def currentOwners (buildingId : ℕ) (s : Store) : List ℕ :=
  ((s.memberships.rows.filter fun m =>
    m.buildingId = buildingId ∧ m.role = .owner ∧ m.isCurrent = true).map
      Membership.personId).dedup

/-- The case has been approved by the person. -/
def hasApproved (caseId personId : ℕ) (s : Store) : Bool :=
  (findManagerVerificationApproval caseId personId s).isSome

/-- The case was decided by its owners. -/
def DecidedByOwners (k : ManagerVerificationCase) : Prop :=
  k.status = .verified ∧ k.verificationSource = some .ownerApproval

instance (k : ManagerVerificationCase) : Decidable (DecidedByOwners k) :=
  inferInstanceAs (Decidable (_ ∧ _))

/-! ### The events -/

/-- Owners come and go, and approve cases. -/
inductive OwnerEvent
  | linkOwnerAccountByPhone (personId : ℕ) (phone : String) (now : Time)
  | claimOwnership (buildingId unitId personId : ℕ) (now : Time)
  | transferOwnership (buildingId unitId : ℕ) (newOwnerPhone : String) (actorPersonId : ℕ)
      (now : Time)
  | castManagerVerificationApproval (caseId ownerPersonId : ℕ) (now : Time)

/-- The store after an event. -/
def OwnerEvent.exec : OwnerEvent → Store → Store
  | .linkOwnerAccountByPhone personId phone now =>
    (BuildingService.linkOwnerAccountByPhone personId phone now).exec
  | .claimOwnership buildingId unitId personId now =>
    (BuildingService.claimOwnership buildingId unitId personId now).exec
  | .transferOwnership buildingId unitId newOwnerPhone actorPersonId now =>
    (BuildingService.transferOwnership buildingId unitId newOwnerPhone actorPersonId now).exec
  | .castManagerVerificationApproval caseId ownerPersonId now =>
    (BackOfficeRepository.castManagerVerificationApprovalAtomically caseId ownerPersonId now).exec

/-- The store after an event, each call on its own. -/
def ownerStep (s : Store) (e : OwnerEvent) : Store := e.exec s

/-- A case that the event decides by its owners has been approved by the required share of those who
were current owners then, and there was one. -/
def ResolvedByOwners (s : Store) (e : OwnerEvent) : Prop :=
  ∀ k ∈ (ownerStep s e).cases, DecidedByOwners k →
    (∀ k₀ ∈ s.cases, k₀.id = k.id → ¬ DecidedByOwners k₀) →
      0 < (currentOwners k.buildingId s).length ∧
        (currentOwners k.buildingId s).length * k.requiredApprovalPercent ≤
          ((currentOwners k.buildingId s).filter fun p =>
            hasApproved k.id p (ownerStep s e)).length * 100

instance : DecidableRel ResolvedByOwners := fun s e => by
  unfold ResolvedByOwners
  infer_instance

/-- Who approves a case owns something in its building, and who has approved an open case does not
hand over the last of it. -/
def OwnersStay (s : Store) : OwnerEvent → Prop
  | .castManagerVerificationApproval caseId ownerPersonId _ =>
    ∀ k ∈ s.cases, k.id = caseId → k.status = .pending →
      ownerPersonId ∈ currentOwners k.buildingId s
  | .transferOwnership buildingId unitId newOwnerPhone actorPersonId now =>
    ∀ a ∈ s.approvals, ∀ k ∈ s.cases, k.id = a.caseId → k.status = .pending →
      a.ownerPersonId ∈ currentOwners k.buildingId s →
        a.ownerPersonId ∈ currentOwners k.buildingId
          (ownerStep s (.transferOwnership buildingId unitId newOwnerPhone actorPersonId now))
  | _ => True

instance : DecidableRel OwnersStay := fun s e => by
  unfold OwnersStay
  split <;> infer_instance

/-! ### The invariant -/

/-- Nobody has approved a case twice, and who has approved an open case is a current owner. -/
structure OwnApprovals (s : Store) : Prop where
  once : ∀ caseId, ((s.approvals.rows.filter fun a => a.caseId = caseId).map
    ManagerVerificationApproval.ownerPersonId).Nodup
  owners : ∀ a ∈ s.approvals, ∀ k ∈ s.cases, k.id = a.caseId → k.status = .pending →
    a.ownerPersonId ∈ currentOwners k.buildingId s

variable {s s' : Store}

theorem mem_currentOwners {buildingId personId : ℕ} :
    personId ∈ currentOwners buildingId s ↔
      ∃ m ∈ s.memberships, (m.buildingId = buildingId ∧ m.role = .owner ∧ m.isCurrent = true) ∧
        m.personId = personId := by
  rw [currentOwners, List.mem_dedup, List.mem_map]
  constructor
  · rintro ⟨m, hm, hperson⟩
    obtain ⟨hrow, hcurrent⟩ := List.mem_filter.mp hm
    exact ⟨m, hrow, of_decide_eq_true hcurrent, hperson⟩
  · rintro ⟨m, hm, hcurrent, hperson⟩
    exact ⟨m, List.mem_filter.mpr ⟨hm, decide_eq_true hcurrent⟩, hperson⟩

theorem hasApproved_iff {caseId personId : ℕ} :
    hasApproved caseId personId s = true ↔
      ∃ a ∈ s.approvals, a.caseId = caseId ∧ a.ownerPersonId = personId := by
  simp [hasApproved, findManagerVerificationApproval, Table.mem_rows]

/-- Where only owners have approved, all approvals are of owners. -/
theorem length_filter_hasApproved {caseId : ℕ} {owners : List ℕ} (howners : owners.Nodup)
    (honce : ((s.approvals.rows.filter fun a => a.caseId = caseId).map
      ManagerVerificationApproval.ownerPersonId).Nodup)
    (h : ∀ a ∈ s.approvals, a.caseId = caseId → a.ownerPersonId ∈ owners) :
    (owners.filter fun p => hasApproved caseId p s).length = approverCount caseId s := by
  have hperm : (owners.filter fun p => hasApproved caseId p s).Perm
      ((s.approvals.rows.filter fun a => a.caseId = caseId).map
        ManagerVerificationApproval.ownerPersonId) := by
    refine (List.perm_ext_iff_of_nodup (howners.filter _) honce).mpr fun p => ?_
    rw [List.mem_filter, hasApproved_iff, List.mem_map]
    constructor
    · rintro ⟨-, a, ha, hcase, hperson⟩
      exact ⟨a, List.mem_filter.mpr ⟨ha, decide_eq_true hcase⟩, hperson⟩
    · rintro ⟨a, ha, rfl⟩
      obtain ⟨hrow, hcase⟩ := List.mem_filter.mp ha
      exact ⟨h a hrow (of_decide_eq_true hcase), a, hrow, of_decide_eq_true hcase, rfl⟩
  rw [hperm.length_eq, List.length_map, approverCount]

/-! ### What an approval does -/

/-- What casting an approval does: nothing, or it is recorded, or it is recorded and decides the
case, for which the approvals have reached the required share of the owners. -/
inductive Cast (caseId ownerPersonId : ℕ) (now : Time) (s : Store) : Store → Prop
  | refused : Cast caseId ownerPersonId now s s
  | recorded (k : ManagerVerificationCase) (find : s.cases.find? caseId = some k)
      (pending : k.status = .pending) (fresh : hasApproved caseId ownerPersonId s = false) :
      Cast caseId ownerPersonId now s
        (s.onApprovals (·.create fun id => { id, caseId, ownerPersonId }))
  | resolved (k : ManagerVerificationCase) (find : s.cases.find? caseId = some k)
      (pending : k.status = .pending) (fresh : hasApproved caseId ownerPersonId s = false)
      (s' : Store)
      (approvals : s'.approvals = s.approvals.create fun id => { id, caseId, ownerPersonId })
      (count : 0 < totalOwners k.buildingId s ∧
        totalOwners k.buildingId s * k.requiredApprovalPercent ≤ approverCount caseId s' * 100)
      (cases : s'.cases = s.cases.modify k.id
        (approvedByOwners k.requiredApprovalPercent (approverCount caseId s')
          (totalOwners k.buildingId s) now) (approvedByOwners_id _ _ _ _))
      (memberships : s'.memberships = s.memberships.modify k.membershipId verified) :
      Cast caseId ownerPersonId now s s'

theorem cast_exec (caseId ownerPersonId : ℕ) (now : Time) (s : Store) :
    Cast caseId ownerPersonId now s
      ((BackOfficeRepository.castManagerVerificationApprovalAtomically caseId ownerPersonId
        now).exec s) := by
  refine Prog.exec_of_leads ?_
  rw [BackOfficeRepository.castManagerVerificationApprovalAtomically, Prog.transaction]
  simp only [Prog.bind_assoc]
  refine leads_advisoryLock (Prog.Leads.query (Prog.Leads.expect .refused fun k hk => ?_))
  obtain ⟨hfind, hpending⟩ := Option.filter_eq_some_iff.mp hk
  refine Prog.Leads.query (Prog.Leads.require .refused fun hduplicate => ?_)
  have hfresh : hasApproved caseId ownerPersonId s = false := by
    rw [hasApproved]
    exact (congrArg Option.isSome hduplicate)
  rw [BackOfficeRepository.insertApproval]
  refine Prog.Leads.writeUnless .refused fun _ => Prog.Leads.query (Prog.Leads.query ?_)
  rw [Prog.ite_bind]
  split
  case isTrue hcount =>
    rw [Prog.bind_assoc, BackOfficeRepository.resolveByOwners]
    simp only [Prog.bind_assoc]
    refine leads_claimCase .refused (leads_refuseCompetingManager .refused fun _ => ?_)
    refine Prog.Leads.claim .refused fun _ => ?_
    refine Prog.Leads.claim .refused fun _ => Prog.Leads.commitAll (Prog.Leads.done ?_)
    exact .resolved k hfind (of_decide_eq_true hpending) hfresh _ rfl hcount rfl rfl
  case isFalse =>
    exact Prog.Leads.commitAll (Prog.Leads.done (.recorded k hfind (of_decide_eq_true hpending) hfresh))

/-! ### What the events keep -/

/-- Owners that stay, and more. -/
theorem currentOwners_mono {buildingId personId : ℕ}
    (h : ∀ m ∈ s.memberships, m.role = .owner → m.isCurrent = true →
      ∃ m' ∈ s'.memberships, m'.buildingId = m.buildingId ∧ m'.role = .owner ∧
        m'.isCurrent = true ∧ m'.personId = m.personId)
    (howner : personId ∈ currentOwners buildingId s) : personId ∈ currentOwners buildingId s' := by
  obtain ⟨m, hm, ⟨hbuilding, hrole, hcurrent⟩, hperson⟩ := mem_currentOwners.mp howner
  obtain ⟨m', hm', hbuilding', hrole', hcurrent', hperson'⟩ := h m hm hrole hcurrent
  exact mem_currentOwners.mpr ⟨m', hm', ⟨hbuilding'.trans hbuilding, hrole', hcurrent'⟩,
    hperson'.trans hperson⟩

/-- Only the owners have changed, and nobody who has approved an open case has left. -/
theorem OwnApprovals.of_owners (h : OwnApprovals s) (happrovals : s'.approvals = s.approvals)
    (hcases : s'.cases = s.cases)
    (howners : ∀ a ∈ s.approvals, ∀ k ∈ s.cases, k.id = a.caseId → k.status = .pending →
      a.ownerPersonId ∈ currentOwners k.buildingId s →
        a.ownerPersonId ∈ currentOwners k.buildingId s') : OwnApprovals s' := by
  refine ⟨fun caseId => ?_, fun a ha k hk hid hpending => ?_⟩
  · rw [happrovals]
    exact h.once caseId
  · rw [happrovals] at ha
    rw [hcases] at hk
    exact howners a ha k hk hid hpending (h.owners a ha k hk hid hpending)

theorem OwnApprovals.link (h : OwnApprovals s) (params : BuildingRepository.LinkOwnerParams)
    (now : Time) : OwnApprovals (link params now s) := by
  refine h.of_owners rfl rfl fun a _ k _ _ _ howner => currentOwners_mono (fun m hm hrole hcurrent =>
    ⟨m, ?_, rfl, hrole, hcurrent, rfl⟩) howner
  exact (Table.mem_create (h := fun _ => rfl)).mpr (Or.inl hm)

/-- The one approval that is added is the first of its person. -/
theorem OwnApprovals.once_create (h : OwnApprovals s) {caseId ownerPersonId : ℕ}
    (hfresh : hasApproved caseId ownerPersonId s = false) (c : ℕ) :
    (((s.approvals.create fun id =>
      ({ id, caseId, ownerPersonId } : ManagerVerificationApproval)).rows.filter fun a =>
        a.caseId = c).map ManagerVerificationApproval.ownerPersonId).Nodup := by
  have hrows : (s.approvals.create fun id =>
      ({ id, caseId, ownerPersonId } : ManagerVerificationApproval)).rows =
        s.approvals.rows ++ [⟨s.approvals.next, caseId, ownerPersonId⟩] := rfl
  rw [hrows, List.filter_append, List.map_append]
  by_cases hc : caseId = c
  · subst hc
    rw [List.filter_cons_of_pos (by simp), List.filter_nil, List.map_singleton,
      List.nodup_append]
    refine ⟨h.once caseId, List.nodup_singleton _, fun p hp q hq heq => ?_⟩
    obtain ⟨a, ha, hperson⟩ := List.mem_map.mp hp
    obtain ⟨hrow, hcase⟩ := List.mem_filter.mp ha
    have happroved : hasApproved caseId ownerPersonId s = true := by
      refine hasApproved_iff.mpr ⟨a, hrow, of_decide_eq_true hcase, ?_⟩
      rw [hperson, heq, List.mem_singleton.mp hq]
    rw [hfresh] at happroved
    cases happroved
  · rw [List.filter_cons_of_neg (by simpa using hc), List.filter_nil, List.map_nil, List.append_nil]
    exact h.once c

/-- An approval of an owner. -/
theorem OwnApprovals.cast (h : OwnApprovals s) {caseId ownerPersonId : ℕ} {now : Time}
    (hcast : Cast caseId ownerPersonId now s s')
    (howner : ∀ k ∈ s.cases, k.id = caseId → k.status = .pending →
      ownerPersonId ∈ currentOwners k.buildingId s) : OwnApprovals s' := by
  cases hcast with
  | refused => exact h
  | recorded k hfind hpending hfresh =>
    refine ⟨h.once_create hfresh, fun a ha k hk hid hopen => ?_⟩
    rcases (Table.mem_create (h := fun _ => rfl)).mp ha with ha | rfl
    · exact h.owners a ha k hk hid hopen
    · exact howner k hk hid hopen
  | resolved k hfind hpending hfresh s' happrovals hcount hcases hmemberships =>
    refine ⟨fun c => by rw [happrovals]; exact h.once_create hfresh c, fun a ha k' hk' hid hopen => ?_⟩
    rw [hcases] at hk'
    obtain ⟨k₀, hk₀, rfl⟩ := (Table.mem_modify (h := approvedByOwners_id _ _ _ _)).mp hk'
    -- the case that is decided is open no longer
    have hother : ¬ k₀.id = k.id := fun heq => by rw [if_pos heq] at hopen; cases hopen
    rw [if_neg hother] at hid hopen ⊢
    have hbefore : a.ownerPersonId ∈ currentOwners k₀.buildingId s := by
      rw [happrovals] at ha
      rcases (Table.mem_create (h := fun _ => rfl)).mp ha with ha | rfl
      · exact h.owners a ha k₀ hk₀ hid hopen
      · exact howner k₀ hk₀ hid hopen
    refine currentOwners_mono (fun m hm hrole hcurrent => ?_) hbefore
    refine ⟨if m.id = k.membershipId then verified m else m, ?_, ?_, ?_, ?_, ?_⟩
    · rw [hmemberships]
      exact (Table.mem_modify (f := verified) (h := fun _ => rfl)).mpr ⟨m, hm, rfl⟩
    all_goals split <;> first | rfl | assumption

/-- A step in which the owners stay keeps the approvals those of owners. -/
theorem OwnApprovals.step (h : OwnApprovals s) {e : OwnerEvent} (he : OwnersStay s e) :
    OwnApprovals (ownerStep s e) := by
  cases e with
  | linkOwnerAccountByPhone personId phone now =>
    rw [ownerStep, OwnerEvent.exec, ← Prog.bind_done (BuildingService.linkOwnerAccountByPhone _ _ _)]
    exact exec_linkOwnerAccountByPhone_bind (fun _ _ => rfl) (fun _ _ s' hs' _ => hs'.link _ now) h
  | claimOwnership buildingId unitId personId now =>
    rw [ownerStep, OwnerEvent.exec]
    rcases exec_claimOwnership buildingId unitId personId now s with
      hexec | ⟨unit, person, -, -, -, -, -, -, hexec⟩
    · rwa [hexec]
    · rw [hexec]
      exact h.link _ now
  | transferOwnership buildingId unitId newOwnerPhone actorPersonId now =>
    rcases exec_transferOwnership buildingId unitId newOwnerPhone actorPersonId now s with
      hexec | ⟨unit, -, -, -, hexec⟩
    · rwa [ownerStep, OwnerEvent.exec, hexec]
    · refine h.of_owners ?_ ?_ he <;> rw [ownerStep, OwnerEvent.exec, hexec] <;> rfl
  | castManagerVerificationApproval caseId ownerPersonId now =>
    exact h.cast (cast_exec caseId ownerPersonId now s) he

/-- Owners who come or go decide no case. -/
theorem cases_eq_or_cast (s : Store) (e : OwnerEvent) :
    (ownerStep s e).cases = s.cases ∨
      ∃ caseId ownerPersonId now, e = .castManagerVerificationApproval caseId ownerPersonId now := by
  cases e with
  | linkOwnerAccountByPhone personId phone now =>
    left
    rw [ownerStep, OwnerEvent.exec, ← Prog.bind_done (BuildingService.linkOwnerAccountByPhone _ _ _)]
    exact exec_linkOwnerAccountByPhone_bind (P := fun s' => s'.cases = s.cases) (fun _ _ => rfl)
      (fun _ _ _ hs' _ => hs') rfl
  | claimOwnership buildingId unitId personId now =>
    left
    rw [ownerStep, OwnerEvent.exec]
    rcases exec_claimOwnership buildingId unitId personId now s with
      hexec | ⟨unit, person, -, -, -, -, -, -, hexec⟩
    · rw [hexec]
    · rw [hexec]
      rfl
  | transferOwnership buildingId unitId newOwnerPhone actorPersonId now =>
    left
    rw [ownerStep, OwnerEvent.exec]
    rcases exec_transferOwnership buildingId unitId newOwnerPhone actorPersonId now s with
      hexec | ⟨unit, -, -, -, hexec⟩
    · rw [hexec]
    · rw [hexec]
      rfl
  | castManagerVerificationApproval caseId ownerPersonId now => exact Or.inr ⟨_, _, _, rfl⟩

/-- Where the approvals are those of owners, a case is decided by the required share of them. -/
theorem OwnApprovals.resolvedByOwners (h : OwnApprovals s) {e : OwnerEvent} (he : OwnersStay s e) :
    ResolvedByOwners s e := by
  intro k hk hdecided hnew
  rcases cases_eq_or_cast s e with hsame | ⟨caseId, ownerPersonId, now, rfl⟩
  · rw [hsame] at hk
    exact absurd hdecided (hnew k hk rfl)
  · have hcast := cast_exec caseId ownerPersonId now s
    have hafter := h.cast hcast he
    rw [ownerStep, OwnerEvent.exec] at hk ⊢
    generalize (BackOfficeRepository.castManagerVerificationApprovalAtomically caseId ownerPersonId
      now).exec s = s' at hk hcast hafter ⊢
    cases hcast with
    | refused => exact absurd hdecided (hnew k hk rfl)
    | recorded k₁ hfind hpending hfresh => exact absurd hdecided (hnew k hk rfl)
    | resolved k₁ hfind hpending hfresh s' happrovals hcount hcases hmemberships =>
      rw [hcases] at hk
      obtain ⟨k₀, hk₀, rfl⟩ := (Table.mem_modify (h := approvedByOwners_id _ _ _ _)).mp hk
      by_cases hid : k₀.id = k₁.id
      · obtain rfl := s.cases.eq_of_key_eq hk₀ (Table.mem_of_find? hfind) hid
        obtain rfl := Table.key_of_find? hfind
        rw [if_pos rfl]
        have howners : ∀ a ∈ s'.approvals, a.caseId = k₀.id →
            a.ownerPersonId ∈ currentOwners k₀.buildingId s := by
          intro a ha hcase
          rw [happrovals] at ha
          rcases (Table.mem_create (h := fun _ => rfl)).mp ha with ha | rfl
          · exact h.owners a ha k₀ hk₀ hcase.symm hpending
          · exact he k₀ hk₀ rfl hpending
        refine ⟨hcount.1, hcount.2.trans_eq ?_⟩
        exact congrArg (· * 100)
          (length_filter_hasApproved (List.nodup_dedup _) (hafter.once _) howners).symm
      · rw [if_neg hid] at hdecided hnew
        exact absurd hdecided (hnew k₀ hk₀ rfl)

/-- No case that is open has been approved yet, and nobody has approved a case twice. -/
def NoneApproved (s : Store) : Prop :=
  (∀ caseId, ((s.approvals.rows.filter fun a => a.caseId = caseId).map
    ManagerVerificationApproval.ownerPersonId).Nodup) ∧
  ∀ a ∈ s.approvals, ∀ k ∈ s.cases, k.id = a.caseId → k.status ≠ .pending

/-- In every run of owners who come and go and approve cases, from a store in which no open case has
been approved yet, in which the owners who approve stay, every case that is decided by its owners is
decided by the required share of those who are current owners then, and there is one. -/
theorem resolvedByOwners_of_ownersStay (hs : NoneApproved s) (es : List OwnerEvent)
    (h : EachStep ownerStep OwnersStay s es) : EachStep ownerStep ResolvedByOwners s es :=
  EachStep.of_invariant (P := OwnApprovals) (fun _ _ hs he => hs.step he)
    (fun _ _ hs he => hs.resolvedByOwners he)
    ⟨hs.1, fun a ha k hk hid hpending => absurd hpending (hs.2 a ha k hk hid)⟩ h

/-- Four owners, of whom two have to approve the provisional manager. -/
def fourOwners : Store :=
  { Store.empty with
    buildings := Table.empty.create fun id =>
      { id, name := "Sepehr", addressLine := "1 Azadi", postalCode := "1111111111",
        createdById := 0 }
    persons := Table.empty.createMany ["0", "1", "2", "3", "4", "5"] fun phone id => { id, phone }
    units := Table.empty.createMany ["1", "2", "3", "4"] fun unitNumber id =>
      { id, buildingId := 0, unitNumber }
    ownerships := Table.empty.createMany [0, 1, 2, 3] fun unitId id =>
      { id, unitId, personId := unitId + 1 }
    memberships := (Table.empty.createMany [0, 1, 2, 3] fun unitId id =>
        { id, personId := unitId + 1, buildingId := 0, unitId := some unitId, role := .owner }).create
      fun id => { id, personId := 0, buildingId := 0, role := .manager,
                  managerState := some .provisional }
    cases := Table.empty.create fun id => { id, buildingId := 0, membershipId := 4, candidateId := 0 } }

theorem noneApproved_fourOwners : NoneApproved fourOwners :=
  ⟨fun _ => List.nodup_nil, fun _ ha => absurd ha Table.not_mem_empty⟩

/-- An owner who has not approved hands a unit over, and two that stay approve. -/
def approvedByTwo : List OwnerEvent :=
  [.castManagerVerificationApproval 0 1 1, .transferOwnership 0 3 "5" 4 2,
    .linkOwnerAccountByPhone 5 "5" 3, .castManagerVerificationApproval 0 2 4]

theorem resolvedByOwners_of_ownersStay_approvedByTwo :
    EachStep ownerStep OwnersStay fourOwners approvedByTwo ∧
      EachStep ownerStep ResolvedByOwners fourOwners approvedByTwo := by
  have h : EachStep ownerStep OwnersStay fourOwners approvedByTwo := by decide +kernel
  exact ⟨h, resolvedByOwners_of_ownersStay noneApproved_fourOwners approvedByTwo h⟩

/-- The owner who has approved hands the unit over before another one approves. -/
def approvedByOneWhoLeft : List OwnerEvent :=
  [.castManagerVerificationApproval 0 1 1, .transferOwnership 0 0 "5" 1 2,
    .linkOwnerAccountByPhone 5 "5" 3, .castManagerVerificationApproval 0 2 4]

/-- One of four current owners has approved the case that is decided, which is less than the
required share of 30 percent. -/
theorem not_resolvedByOwners_approvedByOneWhoLeft :
    NoneApproved fourOwners ∧
      ¬ EachStep ownerStep ResolvedByOwners fourOwners approvedByOneWhoLeft :=
  ⟨noneApproved_fourOwners, by decide +kernel⟩

end VielHome.Backoffice
