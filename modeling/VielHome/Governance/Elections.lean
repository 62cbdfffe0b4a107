import Mathlib.Data.List.Perm.Subperm
import Mathlib.Logic.Relation
import VielHome.Governance.Repository

/-!
# What becomes of a vote

A vote with all that refers to it is an `Election`: its options, the units that were eligible when it
was published, the ballots, and the result. There are five things that can happen to an election
(`Election.Step`): it is created, published together with its electorate, cast on, closed together
with its result, or cancelled. `Election.Valid` is what follows from these steps alone.

A step is `fair` when it counts every ballot there is. The ballots that are committed while a vote
is closed may come too late to be counted, so without fairness a result counts the ballots up to one
of them.
-/

namespace VielHome.Governance

open Relational Community
open VotingRepository (published closed cancelled)

/-! ### Elections -/

/-- What a vote was created with. -/
def terms (v : Vote) : Vote :=
  { v with
    status := .draft
    publishedAt := none
    closedAt := none
    cancelledAt := none
    cancelReason := none }

/-- A vote, if there is one, with all that refers to it. -/
structure Election where
  vote : Option Vote
  options : List VoteOption
  snapshots : List VoteEligibilitySnapshot
  ballots : List Community.Ballot
  results : List Community.VoteResult

/-- Nothing yet. -/
def Election.nothing : Election where
  vote := none
  options := []
  snapshots := []
  ballots := []
  results := []

/-- The election of a vote, as the store has it. -/
def election (s : Store) (voteId : ℕ) : Election where
  vote := s.votes.find? voteId
  options := optionsOf s voteId
  snapshots := snapshotsOf s voteId
  ballots := ballotsOf s voteId
  results := resultsOf s voteId

/-- What elections take from the rest of the store: which units a vote is about, and who has been
the proxy of whom. -/
structure Register where
  inScope : Vote → ℕ → Prop
  proxied : ℕ → ℕ → Prop

/-- Who may vote for what, from the tables. -/
def register (s : Store) : Register where
  inScope v unitId := ∃ u ∈ s.units, u.id = unitId ∧ u.buildingId = v.buildingId ∧
    VotingRepository.inScope v u = true
  proxied granterPersonId proxyPersonId := ∃ p ∈ s.voteProxies,
    p.granterPersonId = granterPersonId ∧ p.proxyPersonId = proxyPersonId

/-- Nothing is taken out of the register. -/
structure Register.Extends (R R' : Register) : Prop where
  inScope : ∀ v unitId, R.inScope v unitId → R'.inScope v unitId
  proxied : ∀ granterPersonId proxyPersonId, R.proxied granterPersonId proxyPersonId →
    R'.proxied granterPersonId proxyPersonId

theorem Register.Extends.refl (R : Register) : R.Extends R :=
  ⟨fun _ _ h => h, fun _ _ h => h⟩

theorem Register.Extends.trans {R R' R'' : Register} (h : R.Extends R') (h' : R'.Extends R'') :
    R.Extends R'' :=
  ⟨fun v unitId hscope => h'.inScope v unitId (h.inScope v unitId hscope),
    fun granter proxy hproxied => h'.proxied granter proxy (h.proxied granter proxy hproxied)⟩

namespace Election

variable {fair : Bool} {R R' : Register} {e e' e'' : Election}

/-- The value of the option with this id. -/
def optionValue (e : Election) (id : ℕ) : String :=
  (e.options.find? fun o => o.id = id).elim "" VoteOption.value

/-- The ballot may be cast: it is for an option of the vote, the unit was eligible when the vote was
published, whoever casts it is or stands for the eligible person, and that person is no candidate. -/
structure Entitled (R : Register) (e : Election) (v : Vote) (b : Community.Ballot) : Prop where
  option : ∃ o ∈ e.options, o.id = b.selectedOptionId
  voter : ∃ x ∈ e.snapshots, x.unitId = b.unitId ∧
    (x.eligiblePersonId = b.voterPersonId ∨ R.proxied x.eligiblePersonId b.voterPersonId) ∧
    (v.isManagerElection = true → ∀ o ∈ e.options, o.value ≠ toString x.eligiblePersonId)

/-- The result of a closed vote: it counts the ballots up to some point. -/
def Counts (fair : Bool) (e : Election) (v : Vote) (r : Community.VoteResult) : Prop :=
  ∃ counted later now id, e.ballots = counted ++ later ∧ (fair = true → later = []) ∧
    r = (computedResult v.id v.quorumPercent e.snapshots.length e.optionValue counted).row now id

/-! ### Steps -/

/-- What can happen to an election. -/
inductive Step (fair : Bool) (R : Register) : Election → Election → Prop
  | create {v : Vote} {options : List VoteOption} (hdraft : v.status = .draft) :
      Step fair R nothing { nothing with vote := some v, options }
  | publish {e : Election} {v : Vote} {now : Time} {snapshots : List VoteEligibilitySnapshot}
      (hvote : e.vote = some v) (hdraft : v.status = .draft)
      (hunits : (snapshots.map VoteEligibilitySnapshot.unitId).Nodup)
      (hscope : ∀ x ∈ snapshots, R.inScope (terms v) x.unitId) :
      Step fair R e { e with vote := some (published now v), snapshots }
  | cast {e : Election} {v : Vote} {b : Community.Ballot} (hvote : e.vote = some v)
      (hdraft : v.status ≠ .draft) (hfair : fair = true → v.status = .active)
      (hentitled : e.Entitled R v b) (honce : ∀ b' ∈ e.ballots, b'.unitId ≠ b.unitId) :
      Step fair R e { e with ballots := e.ballots ++ [b] }
  | close {e : Election} {v : Vote} {now : Time} {r : Community.VoteResult}
      (hvote : e.vote = some v) (hactive : v.status = .active) (hcounts : e.Counts fair v r) :
      Step fair R e { e with vote := some (closed now v), results := [r] }
  | cancel {e : Election} {v : Vote} {now : Time} {reason : Option String}
      (hvote : e.vote = some v) (hopen : v.status = .draft ∨ v.status = .active) :
      Step fair R e { e with vote := some (cancelled now reason v) }

/-- One step after another. -/
def Follows (fair : Bool) (R : Register) : Election → Election → Prop :=
  Relation.ReflTransGen (Step fair R)

theorem Entitled.mono {v : Vote} {b : Community.Ballot} (h : e.Entitled R v b)
    (hR : R.Extends R') : e.Entitled R' v b := by
  refine ⟨h.option, ?_⟩
  obtain ⟨x, hx, hunit, hvoter, hcandidate⟩ := h.voter
  exact ⟨x, hx, hunit, hvoter.imp_right (hR.proxied _ _), hcandidate⟩

theorem Step.mono (h : Step fair R e e') (hR : R.Extends R') : Step fair R' e e' := by
  cases h with
  | create hdraft => exact .create hdraft
  | publish hvote hdraft hunits hscope =>
    exact .publish hvote hdraft hunits fun x hx => hR.inScope _ _ (hscope x hx)
  | cast hvote hdraft hfair hentitled honce =>
    exact .cast hvote hdraft hfair (hentitled.mono hR) honce
  | close hvote hactive hcounts => exact .close hvote hactive hcounts
  | cancel hvote hopen => exact .cancel hvote hopen

theorem Follows.mono (h : Follows fair R e e') (hR : R.Extends R') : Follows fair R' e e' :=
  Relation.ReflTransGen.mono (fun _ _ (hstep : Step fair R _ _) => hstep.mono hR) _ _ h

/-- What is never taken back: the terms of a vote and its options, the units that were eligible when
it was published, and the ballots. -/
structure Fixed (e e' : Election) : Prop where
  vote : ∀ v, e.vote = some v →
    ∃ v', e'.vote = some v' ∧ terms v' = terms v ∧ (v.status ≠ .draft → v'.status ≠ .draft)
  snapshots : ∀ v, e.vote = some v → v.status ≠ .draft → e'.snapshots = e.snapshots
  options : ∀ v, e.vote = some v → e'.options = e.options
  ballots : e.ballots <+: e'.ballots

theorem Fixed.refl (e : Election) : Fixed e e :=
  ⟨fun v hv => ⟨v, hv, rfl, id⟩, fun _ _ _ => rfl, fun _ _ => rfl, List.prefix_rfl⟩

theorem Fixed.trans (h : Fixed e e') (h' : Fixed e' e'') : Fixed e e'' := by
  refine ⟨fun v hv => ?_, fun v hv hdraft => ?_, fun v hv => ?_, h.ballots.trans h'.ballots⟩
  · obtain ⟨v', hv', hterms, hdraft⟩ := h.vote v hv
    obtain ⟨v'', hv'', hterms', hdraft'⟩ := h'.vote v' hv'
    exact ⟨v'', hv'', hterms'.trans hterms, fun hnot => hdraft' (hdraft hnot)⟩
  · obtain ⟨v', hv', -, hdraft'⟩ := h.vote v hv
    exact (h'.snapshots v' hv' (hdraft' hdraft)).trans (h.snapshots v hv hdraft)
  · obtain ⟨v', hv', -⟩ := h.vote v hv
    exact (h'.options v' hv').trans (h.options v hv)

/-- A step that moves the vote on. -/
theorem Fixed.of_move {v v' : Vote} (hv : e.vote = some v) (hv' : e'.vote = some v')
    (hterms : terms v' = terms v) (hdraft : v'.status ≠ .draft)
    (hsnapshots : v.status ≠ .draft → e'.snapshots = e.snapshots)
    (hoptions : e'.options = e.options) (hballots : e'.ballots = e.ballots) : Fixed e e' := by
  refine ⟨fun v₀ hv₀ => ?_, fun v₀ hv₀ hnot => ?_, fun _ _ => hoptions, hballots ▸ List.prefix_rfl⟩
  · obtain rfl : v = v₀ := Option.some.inj (hv.symm.trans hv₀)
    exact ⟨v', hv', hterms, fun _ => hdraft⟩
  · obtain rfl : v = v₀ := Option.some.inj (hv.symm.trans hv₀)
    exact hsnapshots hnot

theorem Step.fixed (h : Step fair R e e') : Fixed e e' := by
  cases h with
  | create hdraft =>
    have hnone : ∀ v, nothing.vote ≠ some v := fun v hv => by cases hv
    exact ⟨fun v hv => absurd hv (hnone v), fun v hv => absurd hv (hnone v),
      fun v hv => absurd hv (hnone v), List.nil_prefix⟩
  | publish hvote hdraft hunits hscope =>
    exact .of_move hvote rfl rfl (by simp [published]) (fun hnot => absurd hdraft hnot) rfl rfl
  | cast hvote hdraft hfair hentitled honce =>
    exact ⟨fun v hv => ⟨v, hv, rfl, id⟩, fun _ _ _ => rfl, fun _ _ => rfl,
      List.prefix_append _ _⟩
  | close hvote hactive hcounts =>
    exact .of_move hvote rfl rfl (by simp [closed]) (fun _ => rfl) rfl rfl
  | cancel hvote hopen =>
    exact .of_move hvote rfl rfl (by simp [cancelled]) (fun _ => rfl) rfl rfl

theorem Follows.fixed (h : Follows fair R e e') : Fixed e e' := by
  induction h with
  | refl => exact .refl e
  | tail _ hstep ih => exact ih.trans hstep.fixed

/-- Whoever may vote goes on being entitled. -/
theorem Entitled.fixed {v v' : Vote} {b : Community.Ballot} (h : e.Entitled R v b)
    (hfixed : Fixed e e') (hR : R.Extends R') (hv : e.vote = some v) (hdraft : v.status ≠ .draft)
    (hv' : e'.vote = some v') : e'.Entitled R' v' b := by
  obtain ⟨v₀, hv₀, hterms, -⟩ := hfixed.vote v hv
  obtain rfl : v₀ = v' := Option.some.inj (hv₀.symm.trans hv')
  have helection : v₀.isManagerElection = v.isManagerElection := by
    change (terms v₀).isManagerElection = (terms v).isManagerElection
    rw [hterms]
  refine ⟨by rw [hfixed.options v hv]; exact h.option, ?_⟩
  obtain ⟨x, hx, hunit, hvoter, hcandidate⟩ := h.voter
  refine ⟨x, by rw [hfixed.snapshots v hv hdraft]; exact hx, hunit,
    hvoter.imp_right (hR.proxied _ _), ?_⟩
  rw [helection, hfixed.options v hv]
  exact hcandidate

/-! ### What follows from the steps -/

/-- What is so of an election that came about by steps. -/
structure Valid (fair : Bool) (R : Register) (e : Election) : Prop where
  absent : e.vote = none → e = nothing
  draft : ∀ v, e.vote = some v → v.status = .draft → e.snapshots = [] ∧ e.ballots = []
  eligible : (e.snapshots.map VoteEligibilitySnapshot.unitId).Nodup
  inScope : ∀ v, e.vote = some v → ∀ x ∈ e.snapshots, R.inScope (terms v) x.unitId
  once : (e.ballots.map Community.Ballot.unitId).Nodup
  entitled : ∀ v, e.vote = some v → ∀ b ∈ e.ballots, e.Entitled R v b
  result : ∀ v, e.vote = some v → v.status = .closed → ∃ r, e.results = [r] ∧ e.Counts fair v r
  noResult : ∀ v, e.vote = some v → v.status ≠ .closed → e.results = []

theorem Valid.mono (h : Valid fair R e) (hR : R.Extends R') : Valid fair R' e :=
  { h with
    inScope := fun v hv x hx => hR.inScope _ _ (h.inScope v hv x hx)
    entitled := fun v hv b hb => (h.entitled v hv b hb).mono hR }

theorem valid_nothing : Valid fair R nothing where
  absent _ := rfl
  draft _ _ _ := ⟨rfl, rfl⟩
  eligible := List.nodup_nil
  inScope _ _ _ hx := absurd hx List.not_mem_nil
  once := List.nodup_nil
  entitled _ _ _ hb := absurd hb List.not_mem_nil
  result _ hv := absurd hv (by simp [nothing])
  noResult _ _ _ := rfl

/-- A further ballot does not change what is counted, unless every ballot is. -/
theorem Counts.append {v : Vote} {r : Community.VoteResult} (h : e.Counts fair v r)
    (b : Community.Ballot) (hfair : fair = false) :
    Counts fair { e with ballots := e.ballots ++ [b] } v r := by
  obtain ⟨counted, later, now, id, hballots, -, hr⟩ := h
  refine ⟨counted, later ++ [b], now, id, ?_, by simp [hfair], hr⟩
  rw [← List.append_assoc, ← hballots]

theorem Valid.step (h : Valid fair R e) (hstep : Step fair R e e') : Valid fair R e' := by
  cases hstep with
  | create hdraft =>
    refine ⟨fun hv => absurd hv (by simp), fun _ _ _ => ⟨rfl, rfl⟩, List.nodup_nil,
      fun _ _ _ hx => absurd hx List.not_mem_nil, List.nodup_nil,
      fun _ _ _ hb => absurd hb List.not_mem_nil, fun v hv hclosed => ?_, fun _ _ _ => rfl⟩
    obtain rfl := Option.some.inj hv
    rw [hdraft] at hclosed
    cases hclosed
  | @publish e v now snapshots hvote hdraft hunits hscope =>
    have hballots : e.ballots = [] := (h.draft v hvote hdraft).2
    refine ⟨fun hv => absurd hv (by simp), fun v' hv' hdraft' => ?_, hunits, fun v' hv' x hx => ?_,
      h.once, fun v' hv' b hb => ?_, fun v' hv' hclosed => ?_, fun v' hv' _ => ?_⟩
    · obtain rfl := Option.some.inj hv'
      cases hdraft'
    · obtain rfl := Option.some.inj hv'
      exact hscope x hx
    · exact absurd (hballots ▸ hb) List.not_mem_nil
    · obtain rfl := Option.some.inj hv'
      cases hclosed
    · exact h.noResult v hvote (by rw [hdraft]; decide)
  | @cast e v b hvote hdraft hfair hentitled honce =>
    refine ⟨fun hv => ?_, fun v' hv' hdraft' => ?_, h.eligible, h.inScope, ?_,
      fun v' hv' b' hb' => ?_, fun v' hv' hclosed => ?_, h.noResult⟩
    · rw [show e.vote = none from hv] at hvote
      cases hvote
    · obtain rfl : v = v' := Option.some.inj (hvote.symm.trans hv')
      exact absurd hdraft' hdraft
    · rw [List.map_append, List.nodup_append]
      refine ⟨h.once, List.nodup_singleton _, fun unitId hmem unitId' hmem' => ?_⟩
      obtain ⟨b', hb', rfl⟩ := List.mem_map.mp hmem
      rw [List.map_singleton, List.mem_singleton] at hmem'
      exact hmem' ▸ honce b' hb'
    · obtain rfl : v = v' := Option.some.inj (hvote.symm.trans hv')
      rcases List.mem_append.mp hb' with hb' | hb'
      · exact ⟨(h.entitled v hvote b' hb').option, (h.entitled v hvote b' hb').voter⟩
      · obtain rfl := List.mem_singleton.mp hb'
        exact ⟨hentitled.option, hentitled.voter⟩
    · obtain rfl : v = v' := Option.some.inj (hvote.symm.trans hv')
      obtain ⟨r, hr, hcounts⟩ := h.result v hvote hclosed
      refine ⟨r, hr, hcounts.append b ?_⟩
      -- in a fair election nobody votes once the vote is closed
      cases fair with
      | false => rfl
      | true =>
        rw [hfair rfl] at hclosed
        cases hclosed
  | @close e v now r hvote hactive hcounts =>
    refine ⟨fun hv => absurd hv (by simp), fun v' hv' hdraft' => ?_, h.eligible,
      fun v' hv' x hx => ?_, h.once, fun v' hv' b hb => ?_, fun v' hv' _ => ?_,
      fun v' hv' hopen => ?_⟩
    · obtain rfl := Option.some.inj hv'
      cases hdraft'
    · obtain rfl := Option.some.inj hv'
      exact h.inScope v hvote x hx
    · obtain rfl := Option.some.inj hv'
      exact ⟨(h.entitled v hvote b hb).option, (h.entitled v hvote b hb).voter⟩
    · obtain rfl := Option.some.inj hv'
      exact ⟨r, rfl, hcounts⟩
    · obtain rfl := Option.some.inj hv'
      exact absurd rfl hopen
  | @cancel e v now reason hvote hopen =>
    refine ⟨fun hv => absurd hv (by simp), fun v' hv' hdraft' => ?_, h.eligible,
      fun v' hv' x hx => ?_, h.once, fun v' hv' b hb => ?_, fun v' hv' hclosed => ?_,
      fun v' hv' _ => ?_⟩
    · obtain rfl := Option.some.inj hv'
      cases hdraft'
    · obtain rfl := Option.some.inj hv'
      exact h.inScope v hvote x hx
    · obtain rfl := Option.some.inj hv'
      exact ⟨(h.entitled v hvote b hb).option, (h.entitled v hvote b hb).voter⟩
    · obtain rfl := Option.some.inj hv'
      cases hclosed
    · refine h.noResult v hvote ?_
      rcases hopen with hstatus | hstatus <;> rw [hstatus] <;> decide

/-- A vote never has more ballots than eligible units. -/
theorem Valid.length_ballots_le (h : Valid fair R e) : e.ballots.length ≤ e.snapshots.length := by
  have hsubset : e.ballots.map Community.Ballot.unitId ⊆
      e.snapshots.map VoteEligibilitySnapshot.unitId := by
    intro unitId hunit
    obtain ⟨b, hb, rfl⟩ := List.mem_map.mp hunit
    cases hvote : e.vote with
    | none =>
      rw [h.absent hvote] at hb
      exact absurd hb List.not_mem_nil
    | some v =>
      obtain ⟨x, hx, hxunit, -⟩ := (h.entitled v hvote b hb).voter
      exact List.mem_map.mpr ⟨x, hx, hxunit⟩
  have hle := (h.once.subperm hsubset).length_le
  rwa [List.length_map, List.length_map] at hle

/-- Nor does its result count more. -/
theorem Valid.totalBallotCount_le (h : Valid fair R e) {r : Community.VoteResult}
    (hr : r ∈ e.results) : r.totalBallotCount ≤ r.totalEligibleCount := by
  cases hvote : e.vote with
  | none =>
    rw [h.absent hvote] at hr
    exact absurd hr List.not_mem_nil
  | some v =>
    by_cases hclosed : v.status = .closed
    · obtain ⟨r', hresults, counted, later, now, id, hballots, -, rfl⟩ := h.result v hvote hclosed
      rw [hresults, List.mem_singleton] at hr
      subst hr
      have hle : counted.length ≤ e.ballots.length := by
        rw [hballots, List.length_append]
        exact Nat.le_add_right _ _
      simpa [ResultParams.row, computedResult, VotePolicy.calculateResult] using
        hle.trans h.length_ballots_le
    · rw [h.noResult v hvote hclosed] at hr
      exact absurd hr List.not_mem_nil

end Election

end VielHome.Governance
