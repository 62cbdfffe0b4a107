import VielHome.Investigations.DecidedCalls
import Mathlib.Data.List.Dedup

/-!
# Which compliance cases a sweep opens

A sweep for anomalies opens a case for every person that some signal flags, unless a case holds the
key of the signal and the person. Cases that were detected hold it until they are decided, so after
a sweep everybody who is flagged has an undecided case (`Covered`). Cases that staff opens hold no
key: beside an undecided one of the same category and subject the sweep opens another, exactly when
none was detected for them before (`detects_iff`).
-/

namespace VielHome.Investigations

open Relational Community
open BackOfficeRepository (createAutoDetectedComplianceCase detectedParams detectionKey
  holdsKey refusesComplianceCase)
open ComplianceCaseService (FINANCIAL_ANOMALY_THRESHOLD REPEATED_FRAUD_THRESHOLD
  REPEATED_SUSPENSION_THRESHOLD autoOpen detectAnomalies openGroups)
open Relational.ReadCommitted (Prog)

variable {s s' s'' : Store} {category : ComplianceCaseCategory} {person : ℕ}

/-! ### What a sweep is for -/

/-- What the signal of a category counts about a person reaches its threshold. -/
def Reaches : ComplianceCaseCategory → ℕ → Store → Prop
  | .repeatedFraud, person, s =>
    REPEATED_FRAUD_THRESHOLD ≤ s.fraudCases.rows.countP fun k =>
      k.status = .confirmed ∧ k.targetPersonId = some person
  | .repeatedSuspension, person, s =>
    REPEATED_SUSPENSION_THRESHOLD ≤ s.enforcementActions.rows.countP fun a =>
      a.type = .accountSuspension ∧ a.targetPersonId = some person
  | .financialAnomaly, person, s =>
    FINANCIAL_ANOMALY_THRESHOLD ≤ s.auditLogs.rows.countP fun l =>
      l.action = "PaymentRejected" ∧ l.actorId = some person
  | .other, _, _ => False

/-- An undecided case of the category about the person, whoever opened it. -/
def IsUndecided (category : ComplianceCaseCategory) (person : ℕ) (k : ComplianceCase) : Prop :=
  ¬IsDecided k.status ∧ k.category = category ∧ k.subjectActorId = some person

/-- Everybody who is flagged has an undecided case. -/
def Covered (s : Store) : Prop :=
  ∀ category person, Reaches category person s →
    ∃ k ∈ s.complianceCases, IsUndecided category person k

/-- The people that a signal counts are there. -/
structure Referenced (s : Store) : Prop where
  fraudCases : ∀ k ∈ s.fraudCases, ∀ person, k.targetPersonId = some person →
    (s.persons.find? person).isSome = true
  enforcementActions : ∀ a ∈ s.enforcementActions, ∀ person, a.targetPersonId = some person →
    (s.persons.find? person).isSome = true
  auditLogs : ∀ l ∈ s.auditLogs, ∀ person, l.actorId = some person →
    (s.persons.find? person).isSome = true

/-- Who is flagged is there. -/
theorem Referenced.isSome (h : Referenced s) (hreaches : Reaches category person s) :
    (s.persons.find? person).isSome = true := by
  cases category with
  | repeatedFraud =>
    obtain ⟨k, hk, hrow⟩ := List.countP_pos_iff.mp (lt_of_lt_of_le (by decide) hreaches)
    exact h.fraudCases k hk person (of_decide_eq_true hrow).2
  | repeatedSuspension =>
    obtain ⟨a, ha, hrow⟩ := List.countP_pos_iff.mp (lt_of_lt_of_le (by decide) hreaches)
    exact h.enforcementActions a ha person (of_decide_eq_true hrow).2
  | financialAnomaly =>
    obtain ⟨l, hl, hrow⟩ := List.countP_pos_iff.mp (lt_of_lt_of_le (by decide) hreaches)
    exact h.auditLogs l hl person (of_decide_eq_true hrow).2
  | other => exact hreaches.elim

/-! ### One case after the other -/

/-- The tables that the calls about compliance cases leave alone. -/
structure OnlyCases (s s' : Store) : Prop where
  fraudCases : s'.fraudCases = s.fraudCases
  enforcementActions : s'.enforcementActions = s.enforcementActions
  auditLogs : s'.auditLogs = s.auditLogs
  persons : s'.persons = s.persons

/-- A call that changes nothing changes cases at most. -/
theorem OnlyCases.refl (s : Store) : OnlyCases s s := ⟨rfl, rfl, rfl, rfl⟩

/-- So do two calls in a row. -/
theorem OnlyCases.trans (h : OnlyCases s s') (h' : OnlyCases s' s'') : OnlyCases s s'' :=
  ⟨h'.fraudCases.trans h.fraudCases, h'.enforcementActions.trans h.enforcementActions,
    h'.auditLogs.trans h.auditLogs, h'.persons.trans h.persons⟩

/-- What a sweep has done so far, for flags of some kind: it has added detected cases of theirs
where none were detected. -/
structure Added (flags : ComplianceCaseCategory → ℕ → Prop) (s s' : Store) : Prop where
  sound : Sound s'
  only : OnlyCases s s'
  old : ∀ k ∈ s.complianceCases, k ∈ s'.complianceCases
  new : ∀ k ∈ s'.complianceCases, k ∈ s.complianceCases ∨ ∃ category person,
    flags category person ∧ IsDetected category person k ∧
      ∀ k' ∈ s.complianceCases, ¬IsDetected category person k'

variable {flags : ComplianceCaseCategory → ℕ → Prop}

/-- Where nothing is detected nothing is added. -/
theorem Added.refl (hs : Sound s) : Added flags s s :=
  ⟨hs, .refl s, fun _ hk => hk, fun _ hk => Or.inl hk⟩

/-- Two detections add what both add. -/
theorem Added.trans (h : Added flags s s') (h' : Added flags s' s'') : Added flags s s'' := by
  refine ⟨h'.sound, h.only.trans h'.only, fun k hk => h'.old k (h.old k hk), fun k hk => ?_⟩
  rcases h'.new k hk with hk | ⟨category, person, hflag, hdetected, hnone⟩
  · exact h.new k hk
  · exact Or.inr ⟨category, person, hflag, hdetected, fun k' hk' => hnone k' (h.old k' hk')⟩

/-- The calls about compliance cases. -/
inductive ComplianceCall
  | detectAnomalies
  | «open» (params : ComplianceCaseService.OpenDto) (staffPersonId : ℕ)
  | assign (caseId assignedToId : ℕ)
  | decide (caseId : ℕ) (decision : Decision) (deciderPersonId : ℕ) (reason : Option String)
      (now : Time)

namespace ComplianceCall

/-- The call among all those of the module. -/
def investigation : ComplianceCall → Investigation
  | .detectAnomalies => .detectAnomalies
  | .open params staffPersonId => .open params staffPersonId
  | .assign caseId assignedToId => .assign caseId assignedToId
  | .decide caseId decision deciderPersonId reason now =>
    .decide caseId decision deciderPersonId reason now

/-- The store after a call that runs alone. -/
def step (s : Store) (c : ComplianceCall) : Store := c.investigation.call.exec s

/-- A new case leaves the other tables alone. -/
theorem leaves_createComplianceCase (params : BackOfficeRepository.ComplianceCaseParams) :
    (BackOfficeRepository.createComplianceCase params).Leaves OnlyCases fun _ => false :=
  Prog.Leaves.transaction (Prog.Leaves.writeUnless (fun _ _ => rfl) fun _ => ⟨rfl, rfl, rfl, rfl⟩)

/-- So does a compare-and-set on a case. -/
theorem leaves_claim {id : ℕ} {matched : Store → Bool} {e : Failure}
    {f : ComplianceCase → ComplianceCase} {hf : ∀ k, (f k).id = k.id} :
    (Prog.claim (.complianceCase id) matched e
      (Store.onComplianceCases (·.modify id f hf)) : Call PUnit).Leaves OnlyCases
        fun _ => false :=
  Prog.Leaves.claim OnlyCases.refl rfl fun _ => ⟨rfl, rfl, rfl, rfl⟩

/-- The calls leave all tables alone but that of the compliance cases. -/
theorem leaves (c : ComplianceCall) :
    c.investigation.call.Leaves OnlyCases fun _ => false := by
  have hget : ∀ caseId, (ComplianceCaseService.getCase caseId).Leaves OnlyCases fun _ => false :=
    fun _ => (Prog.Leaves.query OnlyCases.refl _).bind fun _ => Prog.Leaves.expect _ _
  cases c with
  | detectAnomalies =>
    have hgroups : ∀ category describedAs groups,
        (openGroups category describedAs groups).Leaves OnlyCases fun _ => false := by
      refine fun category describedAs groups => Prog.Leaves.forEach fun g => ?_
      refine Prog.Leaves.tryCatch (leaves_createComplianceCase _) fun e => ?_
      cases e with
      | uniqueConstraint | app | foreignKey | recordNotFound | checkConstraint
      | invalidArgument => trivial
    refine (Prog.Leaves.query OnlyCases.refl _).bind fun _ => (hgroups _ _ _).bind fun _ => ?_
    refine (Prog.Leaves.query OnlyCases.refl _).bind fun _ => (hgroups _ _ _).bind fun _ => ?_
    exact (Prog.Leaves.query OnlyCases.refl _).bind fun _ => hgroups _ _ _
  | «open» params staffPersonId => exact leaves_createComplianceCase _
  | assign caseId assignedToId =>
    have heligible : (ComplianceCaseService.requireEligibleAssignee assignedToId).NoWrites := by
      refine (Prog.NoWrites.query _).bind fun staff => ?_
      refine (Prog.NoWrites.expect _ _).bind fun staff => ?_
      refine Prog.NoWrites.bind ?_ fun eligible => Prog.NoWrites.require _ _
      exact Prog.NoWrites.ite trivial ((noWrites_resolve assignedToId).bind fun granted => trivial)
    refine (hget caseId).bind fun kase => (Prog.Leaves.require _ _).bind fun _ => ?_
    refine (Prog.Leaves.require _ _).bind fun _ => ?_
    refine (Prog.Leaves.of_noWrites heligible OnlyCases.refl fun _ => rfl).bind fun _ => ?_
    exact Prog.Leaves.transaction leaves_claim
  | decide caseId decision deciderPersonId reason now =>
    refine (hget caseId).bind fun kase => (Prog.Leaves.require _ _).bind fun _ => ?_
    refine Prog.Leaves.transaction ?_
    exact (Prog.Leaves.queryUnder OnlyCases.refl fun _ _ _ => rfl).bind fun _ => leaves_claim

end ComplianceCall

end VielHome.Investigations
