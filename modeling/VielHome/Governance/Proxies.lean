import VielHome.Governance.ElectionCalls
import VielHome.Relational.FinalCommit

/-!
# Ballots by proxies

A proxy is appointed for a unit, by whoever would vote for it. A ballot for a unit is taken from
anybody who is a current proxy of the eligible person, for whichever of that person's units. So a
ballot that is accepted is one of the unit's own proxy exactly when nobody uses an appointment for
another unit.
-/

namespace VielHome.Governance

open Relational Community Building
open VotingRepository (findBallotForUnit findEligibilitySnapshotForUnit)
open VoteProxyRepository (isCurrentProxyFor)
open VotingService (CastBallotDto castBallot proxyMatch)
open Relational.ReadCommitted (Mode Prog)
open Relational.ReadCommitted.Prog (expect outcome query require)

variable {s : Store} {buildingId voteId unitId eligiblePersonId actorPersonId : ℕ}
  {dto : CastBallotDto} {now : Time} {α β : Type}

/-! ### Whose ballots are taken -/

/-- Somebody is the current proxy for the unit. -/
def StandsIn (s : Store) (unitId granterPersonId proxyPersonId : ℕ) : Prop :=
  ∃ p ∈ s.voteProxies.rows, p.isCurrent = true ∧ p.unitId = unitId ∧
    p.granterPersonId = granterPersonId ∧ p.proxyPersonId = proxyPersonId

instance : Decidable (StandsIn s unitId eligiblePersonId actorPersonId) :=
  inferInstanceAs (Decidable (∃ p ∈ s.voteProxies.rows, _))

theorem isCurrentProxyFor_of_standsIn (h : StandsIn s unitId eligiblePersonId actorPersonId) :
    isCurrentProxyFor eligiblePersonId actorPersonId s = true := by
  obtain ⟨p, hp, hcurrent, -, hgranter, hproxy⟩ := h
  exact List.any_eq_true.mpr ⟨p, hp, decide_eq_true ⟨hgranter, hproxy, hcurrent⟩⟩

/-- What a ballot for the unit takes, apart from who may cast it. -/
structure Receives (s : Store) (buildingId voteId : ℕ) (dto : CastBallotDto)
    (eligiblePersonId actorPersonId : ℕ) (now : Time) : Prop where
  vote : ∃ v, s.votes.find? voteId = some v ∧ v.buildingId = buildingId ∧ v.status = .active ∧
    ¬ v.endAt < now ∧
    ¬ (v.isManagerElection = true ∧ ∃ o ∈ optionsOf s voteId, o.value = toString eligiblePersonId)
  unit : ∃ u, s.units.find? dto.unitId = some u ∧ u.buildingId = buildingId
  first : findBallotForUnit voteId dto.unitId s = none
  option : ∃ o ∈ optionsOf s voteId, o.id = dto.selectedOptionId
  person : (s.persons.find? actorPersonId).isSome

/-- The ballot is accepted. -/
def Accepts (s : Store) (buildingId voteId : ℕ) (dto : CastBallotDto) (actorPersonId : ℕ)
    (now : Time) : Prop :=
  (castBallot buildingId voteId dto actorPersonId now).outcome s = .ok ⟨⟩

/-! ### The call -/

theorem outcome_query_bind {q : Store → α} {f : α → Call β} {b : β} :
    (query q >>= f).outcome s = .ok b ↔ (f (q s)).outcome s = .ok b :=
  Iff.rfl

theorem outcome_require_bind {c : Prop} [Decidable c] {e : Failure} {f : PUnit → Call β} {b : β} :
    (require c e >>= f).outcome s = .ok b ↔ c ∧ (f ⟨⟩).outcome s = .ok b := by
  rw [(Prog.ReadOnly.require c e).outcome_seq, Prog.outcome_require]

theorem outcome_expect_bind {o : Option α} {e : Failure} {f : α → Call β} {b : β} :
    (expect o e >>= f).outcome s = .ok b ↔ ∃ a, o = some a ∧ (f a).outcome s = .ok b := by
  rw [(Prog.ReadOnly.expect o e).outcome_bind]
  simp only [Prog.outcome_expect]

theorem outcome_proxyMatch_bind {f : Bool → Call β} {b : β} :
    (proxyMatch eligiblePersonId actorPersonId >>= f).outcome s = .ok b ↔
      (f (decide (eligiblePersonId ≠ actorPersonId) &&
        isCurrentProxyFor eligiblePersonId actorPersonId s)).outcome s = .ok b := by
  rw [proxyMatch]
  by_cases hself : eligiblePersonId = actorPersonId
  · rw [if_pos hself, decide_eq_false (not_not_intro hself), Bool.false_and]
    rfl
  · rw [if_neg hself, decide_eq_true hself, Bool.true_and]
    rfl

/-- What a transaction returns is what its statements return. -/
theorem outcome_transaction {p : Call β} : (Prog.transaction p).outcome s = p.outcome s := by
  rw [outcome, outcome, Prog.solo_transaction]
  rcases p.solo s s with ⟨e | a, c', w'⟩ <;> rfl

theorem outcome_createBallot (params : VotingRepository.BallotParams) :
    (VotingService.createBallot params now).outcome s = .ok ⟨⟩ ↔
      ∃ v, s.votes.find? params.voteId = some v ∧ (v.status = .active ∧ ¬ v.endAt < now) ∧
        params.refused s = none := by
  have hcaught : (VotingService.createBallot params now).outcome s = .ok ⟨⟩ ↔
      (VotingRepository.createBallot params now).outcome s = .ok ⟨⟩ := by
    rw [VotingService.createBallot, outcome, Prog.solo_tryCatch, outcome]
    rcases (VotingRepository.createBallot params now).solo s s with ⟨e | a, c', w'⟩
    · exact iff_of_false (fun h => by cases h) (fun h => by cases h)
    · exact Iff.rfl
  have hread {f : Option Vote → Call PUnit} {locks : Store → List (Lock × Mode)} :
      (Prog.queryUnder locks (fun s => s.votes.find? params.voteId) >>= f).outcome s = .ok ⟨⟩ ↔
        (f (s.votes.find? params.voteId)).outcome s = .ok ⟨⟩ := Iff.rfl
  have hwrite {locks : List (Lock × Mode)} {f : Store → Store} :
      (Prog.writeUnless locks params.refused f).outcome s = .ok ⟨⟩ ↔ params.refused s = none := by
    rw [outcome, Prog.solo_writeUnless]
    cases params.refused s with
    | none => exact iff_of_true rfl rfl
    | some e => exact iff_of_false (fun h => by cases h) (fun h => by cases h)
  rw [hcaught, VotingRepository.createBallot, outcome_transaction, hread]
  simp only [outcome_expect_bind, outcome_require_bind, hwrite]

/-- The database has no reason to refuse the first ballot of the unit. -/
theorem refused_eq_none {params : VotingRepository.BallotParams}
    (hfirst : findBallotForUnit params.voteId params.unitId s = none)
    (hoption : ∃ o ∈ optionsOf s params.voteId, o.id = params.selectedOptionId) :
    params.refused s = none ↔ (s.votes.find? params.voteId).isSome = true ∧
      (s.units.find? params.unitId).isSome = true ∧
        (s.persons.find? params.voterPersonId).isSome = true := by
  obtain ⟨o, ho, hid⟩ := hoption
  have hfound : (s.voteOptions.find? params.selectedOptionId).isSome = true := by
    have hmem : o ∈ s.voteOptions := List.mem_of_mem_filter ho
    rw [← hid, Table.find?_of_mem hmem, Option.isSome_some]
  rw [VotingRepository.BallotParams.refused, hfirst]
  simp only [Option.isSome_none, Bool.false_eq_true, if_false, unlessReferences_eq_none, hfound,
    Bool.and_true, Bool.and_eq_true, and_assoc]

/-- A ballot is accepted from the eligible person and from whoever is a proxy of that person, if
nothing else is in the way. -/
theorem accepts_iff : Accepts s buildingId voteId dto actorPersonId now ↔
    ∃ x, findEligibilitySnapshotForUnit voteId dto.unitId s = some x ∧
      Receives s buildingId voteId dto x.eligiblePersonId actorPersonId now ∧
      (x.eligiblePersonId = actorPersonId ∨
        isCurrentProxyFor x.eligiblePersonId actorPersonId s = true) := by
  have hvoter (eligiblePersonId : ℕ) : (decide (eligiblePersonId = actorPersonId) = true ∨
      (decide (eligiblePersonId ≠ actorPersonId) &&
        isCurrentProxyFor eligiblePersonId actorPersonId s) = true) ↔
      eligiblePersonId = actorPersonId ∨
        isCurrentProxyFor eligiblePersonId actorPersonId s = true := by
    by_cases hself : eligiblePersonId = actorPersonId <;> simp [hself]
  unfold Accepts castBallot VotingService.getVote VotePolicy.assertOpenForBallots
    VotePolicy.assertEligibleToCastBallot VotePolicy.assertNotVotingOnOwnCandidacy
  simp only [Prog.bind_assoc, Prog.pure_bind, outcome_query_bind, outcome_expect_bind,
    outcome_require_bind, outcome_proxyMatch_bind, outcome_createBallot, hvoter,
    VotingRepository.findVoteById, Option.map_eq_some_iff]
  constructor
  · rintro ⟨-, ⟨v, hv, rfl⟩, hbuilding, hactive, hend, u, hu, hunit, x, hx, hproxy, hfirst, hoption,
      hcandidate, -, -, -, hrefused⟩
    simp only [List.any_eq_true, List.mem_insertionSort, decide_eq_true_eq] at hoption
    simp only [List.mem_map, List.mem_insertionSort] at hcandidate
    have hperson := ((refused_eq_none hfirst hoption).mp hrefused).2.2
    exact ⟨x, hx, ⟨⟨v, hv, hbuilding, hactive, hend, hcandidate⟩, ⟨u, hu, hunit⟩, hfirst, hoption,
      hperson⟩, hproxy⟩
  · rintro ⟨x, hx, ⟨⟨v, hv, hbuilding, hactive, hend, hcandidate⟩, ⟨u, hu, hunit⟩, hfirst, hoption,
      hperson⟩, hproxy⟩
    have hrefused : VotingRepository.BallotParams.refused
        { voteId, unitId := dto.unitId, voterPersonId := actorPersonId,
          selectedOptionId := dto.selectedOptionId } s = none :=
      (refused_eq_none hfirst hoption).mpr
        ⟨Option.isSome_of_eq_some hv, Option.isSome_of_eq_some hu, hperson⟩
    refine ⟨_, ⟨v, hv, rfl⟩, hbuilding, hactive, hend, u, hu, hunit, x, hx, hproxy, hfirst, ?_, ?_,
      v, hv, ⟨hactive, hend⟩, hrefused⟩
    · simpa only [List.any_eq_true, List.mem_insertionSort, decide_eq_true_eq] using hoption
    · simpa only [List.mem_map, List.mem_insertionSort] using hcandidate

/-! ### The unit's own proxy -/

/-- Whoever may cast a ballot for a unit is the eligible person, or a proxy for this unit. -/
structure Authorised (s : Store) (buildingId voteId : ℕ) (dto : CastBallotDto)
    (actorPersonId : ℕ) (now : Time) : Prop where
  proxied : Accepts s buildingId voteId dto actorPersonId now →
    ∀ x, findEligibilitySnapshotForUnit voteId dto.unitId s = some x →
      x.eligiblePersonId ≠ actorPersonId →
        StandsIn s dto.unitId x.eligiblePersonId actorPersonId
  determined : Accepts s buildingId voteId dto actorPersonId now ↔
    ∃ x, findEligibilitySnapshotForUnit voteId dto.unitId s = some x ∧
      Receives s buildingId voteId dto x.eligiblePersonId actorPersonId now ∧
      (x.eligiblePersonId = actorPersonId ∨
        StandsIn s dto.unitId x.eligiblePersonId actorPersonId)

/-- Nobody but the unit's own proxy comes as a proxy of its eligible person, unless the ballot is
refused whoever casts it. -/
def OwnProxy (s : Store) (buildingId voteId : ℕ) (dto : CastBallotDto) (actorPersonId : ℕ)
    (now : Time) : Prop :=
  ∀ x, findEligibilitySnapshotForUnit voteId dto.unitId s = some x →
    Receives s buildingId voteId dto x.eligiblePersonId actorPersonId now →
      x.eligiblePersonId ≠ actorPersonId →
        isCurrentProxyFor x.eligiblePersonId actorPersonId s = true →
          StandsIn s dto.unitId x.eligiblePersonId actorPersonId

theorem authorised_iff : Authorised s buildingId voteId dto actorPersonId now ↔
    OwnProxy s buildingId voteId dto actorPersonId now := by
  constructor
  · intro h x hx hreceives hother hproxy
    exact h.proxied (accepts_iff.mpr ⟨x, hx, hreceives, Or.inr hproxy⟩) x hx hother
  · intro h
    have hproxied : Accepts s buildingId voteId dto actorPersonId now →
        ∀ x, findEligibilitySnapshotForUnit voteId dto.unitId s = some x →
          x.eligiblePersonId ≠ actorPersonId →
            StandsIn s dto.unitId x.eligiblePersonId actorPersonId := by
      intro haccepts x hx hother
      obtain ⟨y, hy, hreceives, hproxy⟩ := accepts_iff.mp haccepts
      obtain rfl : y = x := Option.some_inj.mp (hy.symm.trans hx)
      exact h y hy hreceives hother (hproxy.resolve_left hother)
    refine ⟨hproxied, fun haccepts => ?_, ?_⟩
    · obtain ⟨x, hx, hreceives, -⟩ := accepts_iff.mp haccepts
      exact ⟨x, hx, hreceives, or_iff_not_imp_left.mpr (hproxied haccepts x hx)⟩
    · rintro ⟨x, hx, hreceives, hstands⟩
      exact accepts_iff.mpr ⟨x, hx, hreceives, hstands.imp_right isCurrentProxyFor_of_standsIn⟩

/-- Every ballot of the calls, one after another, is cast on a store with `P`. -/
def EachBallot (P : Store → ℕ → ℕ → CastBallotDto → ℕ → Time → Prop) :
    Store → List ElectionCall → Prop
  | _, [] => True
  | s, c :: rest =>
    (∀ buildingId voteId dto actorPersonId now,
      c = .castBallot buildingId voteId dto actorPersonId now →
        P s buildingId voteId dto actorPersonId now) ∧
    EachBallot P (c.call.exec s) rest

theorem EachBallot.imp {P Q : Store → ℕ → ℕ → CastBallotDto → ℕ → Time → Prop}
    (hPQ : ∀ s buildingId voteId dto actorPersonId now,
      P s buildingId voteId dto actorPersonId now → Q s buildingId voteId dto actorPersonId now)
    {calls : List ElectionCall} (h : EachBallot P s calls) : EachBallot Q s calls := by
  induction calls generalizing s with
  | nil => trivial
  | cons c rest ih =>
    exact ⟨fun buildingId voteId dto actorPersonId now hc =>
      hPQ _ _ _ _ _ _ (h.1 buildingId voteId dto actorPersonId now hc), ih h.2⟩

/-- Whatever is done before, appointing, replacing and revoking proxies: the ballots are those of
the units' own proxies exactly when nobody comes to a ballot with an appointment for another unit
of the same eligible person only. -/
theorem authorised_iff_ownProxy (s : Store) (calls : List ElectionCall) :
    EachBallot Authorised s calls ↔ EachBallot OwnProxy s calls :=
  ⟨EachBallot.imp fun _ _ _ _ _ _ => authorised_iff.mp,
    EachBallot.imp fun _ _ _ _ _ _ => authorised_iff.mpr⟩

/-! ### Three units, two owners -/

/-- A building whose first two units belong to one owner, and the third to another. -/
def threeUnits : Store :=
  { Store.empty with
    buildings := Store.empty.buildings.create fun id =>
      { id, name := "Sepehr", addressLine := "Main street 1", postalCode := "1234567890",
        createdById := 0 }
    units := Store.empty.units.createMany ["09120000001", "09120000001", "09120000002"]
      fun phone id => { id, buildingId := 0, unitNumber := toString id, ownerPhone := some phone }
    persons := Store.empty.persons.createMany ["09120000001", "09120000002"] fun phone id =>
      { id, phone } }

/-- The owners move in. -/
def ownedUnits : Store :=
  (BuildingService.claimOwnership 0 2 1 1).exec ((BuildingService.claimOwnership 0 1 0 1).exec
    ((BuildingService.claimOwnership 0 0 0 1).exec threeUnits))

/-- The first owner appoints the other one for both units, and takes one appointment back. -/
def voteAfterRevocation : List ElectionCall :=
  [.createVote 0 { title := "Roof", startAt := 2, endAt := 9 } none 0 1, .publishVote 0 0 2,
    .grant 0 0 1 0 2, .grant 0 1 1 0 2, .revoke 0 1 0 3,
    .castBallot 0 0 { unitId := 1, selectedOptionId := 0 } 1 4]

/-- The other owner still votes for the second unit, for which nobody is a proxy any more. -/
theorem ballot_after_revocation : ¬ EachBallot Authorised ownedUnits voteAfterRevocation := by
  rintro ⟨-, -, -, -, -, hballot, -⟩
  have hauthorised := hballot 0 0 { unitId := 1, selectedOptionId := 0 } 1 4 rfl
  have hstands := hauthorised.proxied (by unfold Accepts; decide +kernel) _ rfl (by decide +kernel)
  exact absurd hstands (by decide +kernel)

end VielHome.Governance
