import VielHome.Governance.ElectionCalls

/-!
# Ballots and the result

The two transactions that meet when a vote is closed: `createBallot` reads the status without a lock
and inserts the ballot, `closeVote` moves the status and then counts. As long as nobody moves the
status between such a read and the commit of its ballot, the result of a closed vote is that of all
its ballots. Otherwise a ballot may be stored and not counted.
-/

namespace VielHome.Governance

open Relational Community Building
open VotingRepository (BallotParams closed closed_id createResult)
open Relational.ReadCommitted (Database Discipline Event Mode Prog)
open Relational.ReadCommitted.Prog.Safe (Clean)

variable {s s' last : Store} {voteId : ℕ} {quorumPercent : Option ℤ} {now : Time}

/-! ### What the result says -/

/-- What is calculated from all the ballots of the vote. -/
def fullResult (s : Store) (voteId : ℕ) (quorumPercent : Option ℤ) : ResultParams :=
  computedResult voteId quorumPercent (snapshotsOf s voteId).length
    (VotingRepository.optionValue s) (ballotsOf s voteId)

/-- A closed vote has one result, that of all its ballots, and any other vote has none. -/
structure Tallied (quorumPercent : Option ℤ) (voteId : ℕ) (s : Store) : Prop where
  closed : ∀ v, s.votes.find? voteId = some v → v.status = .closed →
    ∃ now id, resultsOf s voteId = [(fullResult s voteId quorumPercent).row now id]
  noResult : ∀ v, s.votes.find? voteId = some v → v.status ≠ .closed → resultsOf s voteId = []

theorem Tallied.of_election (hs : Tallied quorumPercent voteId s)
    (h : election s' voteId = election s voteId) (hoptions : s'.voteOptions = s.voteOptions) :
    Tallied quorumPercent voteId s' := by
  have hvote : s'.votes.find? voteId = s.votes.find? voteId := congrArg Election.vote h
  have hsnapshots : snapshotsOf s' voteId = snapshotsOf s voteId := congrArg Election.snapshots h
  have hballots : ballotsOf s' voteId = ballotsOf s voteId := congrArg Election.ballots h
  have hresults : resultsOf s' voteId = resultsOf s voteId := congrArg Election.results h
  have hvalue : VotingRepository.optionValue s' = VotingRepository.optionValue s := by
    funext id
    rw [VotingRepository.optionValue, hoptions, VotingRepository.optionValue]
  have hfull : fullResult s' voteId quorumPercent = fullResult s voteId quorumPercent := by
    rw [fullResult, hsnapshots, hvalue, hballots, fullResult]
  refine ⟨fun v hv hclosed => ?_, fun v hv hopen => ?_⟩
  · rw [hresults, hfull]
    exact hs.closed v (hvote ▸ hv) hclosed
  · rw [hresults]
    exact hs.noResult v (hvote ▸ hv) hopen

/-- The closing of an open vote, with the result of all its ballots. -/
theorem tallied_closed {v : Vote} (hs : Tallied quorumPercent voteId s)
    (hv : s.votes.find? voteId = some v) (hactive : v.status = .active) (now : Time) :
    Tallied quorumPercent voteId (createResult (fullResult s voteId quorumPercent) now
      (s.onVotes (·.modify voteId (closed now) (closed_id now)))) := by
  have hempty : resultsOf s voteId = [] := hs.noResult v hv (by rw [hactive]; decide)
  have hself : election (createResult (fullResult s voteId quorumPercent) now
      (s.onVotes (·.modify voteId (closed now) (closed_id now)))) voteId = _ :=
    election_closed rfl hv hempty now
  refine ⟨fun _ _ _ => ⟨now, s.voteResults.next, congrArg Election.results hself⟩,
    fun v' hv' hopen => ?_⟩
  obtain rfl : closed now v = v' :=
    Option.some_inj.mp ((congrArg Election.vote hself).symm.trans hv')
  exact absurd rfl hopen

/-- What is counted, apart from the ballots, stays. -/
structure SameElectorate (s s' : Store) : Prop where
  voteOptions : s'.voteOptions = s.voteOptions
  snapshots : s'.snapshots = s.snapshots

/-- Every commit keeps the result that of all ballots. -/
def tallying (quorumPercent : Option ℤ) (voteId : ℕ) : Discipline Store Lock where
  inv := Tallied quorumPercent voteId
  commits := SameElectorate
  kept := electionLock true
  same := SameElection true
  same_refl := sameElection_refl
  same_trans := sameElection_trans

theorem electorate_later (h : (tallying quorumPercent voteId).Later s s') :
    SameElectorate s s' := by
  induction h with
  | refl => exact ⟨rfl, rfl⟩
  | tail _ hcommit ih =>
    exact ⟨hcommit.voteOptions.trans ih.voteOptions, hcommit.snapshots.trans ih.snapshots⟩

/-! ### The two transactions -/

/-- The status is still what was read when the ballot is committed. -/
theorem safe_createBallot_tallying {params : BallotParams} :
    (VotingRepository.createBallot params now).Safe (tallying quorumPercent voteId) Clean last []
      id := by
  rw [VotingRepository.createBallot, Prog.transaction, Prog.bind_assoc]
  refine Prog.Safe.queryUnder fun s₁ _ _ _ => ?_
  rw [Prog.bind_assoc]
  refine Prog.Safe.expect fun v hv => ?_
  rw [Prog.bind_assoc]
  refine Prog.Safe.require fun hopen => Prog.Safe.writeUnless fun s₂ _ _ _ _ => ?_
  refine Prog.Safe.commitAll fun s hs _ hknows => ?_
  have hkey : (Lock.ballotKey params.voteId params.unitId, Mode.exclusive, s₂) ∈
      [] ++ (tallying quorumPercent voteId).taken [(.tally params.voteId, .shared)] s₁ ++
        (tallying quorumPercent voteId).taken
          [(.ballotKey params.voteId params.unitId, .exclusive)] s₂ :=
    List.mem_append_right _ (Discipline.mem_taken List.mem_cons_self rfl)
  have htally : (Lock.tally params.voteId, Mode.shared, s₁) ∈
      [] ++ (tallying quorumPercent voteId).taken [(.tally params.voteId, .shared)] s₁ ++
        (tallying quorumPercent voteId).taken
          [(.ballotKey params.voteId params.unitId, .exclusive)] s₂ :=
    List.mem_append_left _ (Discipline.mem_taken List.mem_cons_self rfl)
  have hfound : s.votes.find? params.voteId = some v := hknows _ htally rfl v hv
  have htouches : Touches params.voteId s (s.onBallots (·.create params.row params.row_id)) :=
    ⟨fun _ => election_ballot_ne, rfl, rfl⟩
  refine ⟨?_, ⟨rfl, rfl⟩, htouches.same_of_key rfl (fun b hb => ?_) hkey fun _ => htally, rfl, rfl⟩
  · by_cases hid : voteId = params.voteId
    · subst hid
      refine ⟨fun v' hv' hclosed => ?_, fun v' hv' hnot => hs.noResult v' hv' hnot⟩
      obtain rfl : v = v' := Option.some_inj.mp (hfound.symm.trans hv')
      rw [hopen.1] at hclosed
      cases hclosed
    · exact hs.of_election (htouches.others voteId hid) rfl
  · rw [ballotsOf_ballot_self] at hb
    refine (List.mem_append.mp hb).imp_right fun hb => ?_
    rw [List.mem_singleton.mp hb]
    rfl

/-- Nobody adds a ballot between the count and the commit. -/
theorem safe_closeVote_tallying :
    (VotingRepository.closeVote voteId quorumPercent now).Safe (tallying quorumPercent voteId) Clean
      last [] id := by
  rw [VotingRepository.closeVote, Prog.transaction, Prog.bind_assoc, VotingRepository.moveVote,
    Prog.bind_assoc]
  refine Prog.Safe.query fun s₀ _ _ _ => ?_
  rw [Prog.bind_assoc]
  refine Prog.Safe.require fun _ => Prog.Safe.writeIf fun s₁ _ _ _ hmatched => ?_
  obtain ⟨v, hv, hactive⟩ := (Option.any_eq_true ..).mp hmatched
  have hactive : v.status = .active := of_decide_eq_true hactive
  rw [Prog.bind_assoc]
  refine Prog.Safe.query fun s₂ _ hlater₂ _ => ?_
  rw [Prog.bind_assoc]
  refine Prog.Safe.query fun s₃ _ hlater₃ hknows₃ => ?_
  rw [Prog.bind_assoc]
  refine Prog.Safe.query fun s₄ _ hlater₄ _ => ?_
  rw [Prog.bind_assoc]
  refine Prog.Safe.expect fun _ _ => ?_
  rw [Prog.bind_assoc]
  refine Prog.Safe.writeUnless fun s₅ _ hlater₅ _ _ => ?_
  refine Prog.Safe.commitAll fun s hs hlater hknows => ?_
  have hnotes : ∀ n ∈ Moving true voteId s₁, n ∈ [] ++
      (tallying quorumPercent voteId).taken
        [(.row .vote voteId, .exclusive), (.tally voteId, .exclusive)] s₁ ++
      (tallying quorumPercent voteId).taken [(.resultKey voteId, .exclusive)] s₅ :=
    fun n hn => List.mem_append_left _ hn
  have hfound : s.votes.find? voteId = some v := hknows _ (hnotes _ row_mem_moving) v hv
  -- nobody votes while the tally is locked
  have hballots : ballotsOf s voteId = ballotsOf s₁ voteId :=
    hknows _ (hnotes _ (tally_mem_moving rfl)) rfl
  have hballots₃ : ballotsOf s₃ voteId = ballotsOf s₁ voteId :=
    hknows₃ _ ((tally_mem_moving rfl : _ ∈ Moving true voteId s₁)) rfl
  have hempty : resultsOf s voteId = [] := hs.noResult v hfound (by rw [hactive]; decide)
  have hlater₃' := (hlater₄.trans hlater₅).trans hlater
  have hsame₂ := electorate_later (hlater₃.trans hlater₃')
  have hsame₃ := electorate_later hlater₃'
  have hfull : computedResult voteId quorumPercent (snapshotsOf s₂ voteId).length
      (VotingRepository.optionValue s₃) (ballotsOf s₃ voteId) =
        fullResult s voteId quorumPercent := by
    have hsnapshots : snapshotsOf s voteId = snapshotsOf s₂ voteId := by
      rw [snapshotsOf, hsame₂.snapshots, snapshotsOf]
    have hvalue : VotingRepository.optionValue s = VotingRepository.optionValue s₃ := by
      funext id
      rw [VotingRepository.optionValue, hsame₃.voteOptions, VotingRepository.optionValue]
    rw [fullResult, hsnapshots, hvalue, hballots, ← hballots₃]
  have htouches : Touches voteId s (createResult (fullResult s voteId quorumPercent) now
      (s.onVotes (·.modify voteId (closed now) (closed_id now)))) :=
    ⟨fun id hne => (election_createResult_ne hne).trans (election_modify_ne hne), rfl, rfl⟩
  have htallied := tallied_closed hs hfound hactive now
  have hsame : ∀ l m, ReadCommitted.Free _ l m → SameElection true l m s _ :=
    htouches.same_of_row rfl (hnotes _ row_mem_moving) fun _ => hnotes _ (tally_mem_moving rfl)
  rw [← hfull] at htallied hsame
  exact ⟨htallied, ⟨rfl, rfl⟩, hsame, rfl, rfl⟩

/-! ### Runs -/

/-- One of the two transactions: a ballot for any vote, or the closing of the one vote. -/
inductive TallyCall
  | createBallot (params : BallotParams) (now : Time)
  | closeVote (now : Time)

/-- What the call runs. -/
def TallyCall.call (quorumPercent : Option ℤ) (voteId : ℕ) : TallyCall → Call PUnit
  | createBallot params now => VotingRepository.createBallot params now
  | closeVote now => do
    let _ ← VotingRepository.closeVote voteId quorumPercent now
    pure ⟨⟩

theorem TallyCall.safe (c : TallyCall) (last : Store) :
    (c.call quorumPercent voteId).Safe (tallying quorumPercent voteId) (fun _ _ _ _ => True) last []
      id := by
  cases c with
  | createBallot params now => exact safe_createBallot_tallying.mono fun _ _ _ _ _ => trivial
  | closeVote now => exact safe_closeVote_tallying.bind_clean fun _ _ => trivial

/-- The vote was open, and nobody has moved its status between the read of it for a ballot and the
commit of the ballot: once it is closed, the result is that of all the ballots there are. -/
theorem counted_of_awaiting {ι : Type} [DecidableEq ι] {v : Vote}
    (hv : s.votes.find? voteId = some v) (hactive : v.status = .active)
    (hempty : resultsOf s voteId = []) (calls : ι → TallyCall) (es : List (Event ι Failure))
    (hes : EachStep (Database.next Lock.enforced) Awaiting
      (Database.start s fun i => (calls i).call quorumPercent voteId) es) :
    let s' := (runCalls s (fun i => (calls i).call quorumPercent voteId) es).store
    ∀ v', s'.votes.find? voteId = some v' → v'.status = .closed → ∃ now id,
      resultsOf s' voteId = [(fullResult s' voteId quorumPercent).row now id] := by
  intro s' v' hv' hclosed
  have hs : Tallied quorumPercent voteId s := by
    refine ⟨fun v₀ hv₀ hstatus => ?_, fun _ _ _ => hempty⟩
    obtain rfl : v = v₀ := Option.some_inj.mp (hv.symm.trans hv₀)
    rw [hactive] at hstatus
    cases hstatus
  have hrun := Database.safe_run (D := tallying quorumPercent voteId) hs
    (fun i => (calls i).safe s) hes
  exact Tallied.closed hrun.1 v' hv' hclosed

/-- The owner's ballot meets the closing of the vote about the roof. -/
def ballotAndClose : ℕ → TallyCall
  | 0 => .createBallot { voteId := 0, unitId := 0, voterPersonId := 0, selectedOptionId := 0 } 3
  | _ => .closeVote 3

/-- Here the vote is closed once the status is read for the ballot: the ballot is stored, and the
result is not that of all ballots. -/
theorem not_counted_ballotAndClose :
    ¬ ∀ es : List (Event ℕ Failure),
      let s' := (runCalls roofVote (fun i => (ballotAndClose i).call none 0) es).store
      ∀ v', s'.votes.find? 0 = some v' → v'.status = .closed → ∃ now id,
        resultsOf s' 0 = [(fullResult s' 0 none).row now id] := by
  intro h
  obtain ⟨now, id, hresults⟩ := h
    (List.replicate 1 (.step 0) ++ List.replicate 8 (.step 1) ++ List.replicate 2 (.step 0)) _ rfl
    (by decide +kernel)
  have hcounts : (resultsOf _ 0).map Community.VoteResult.totalBallotCount =
      [(fullResult _ 0 none).totalBallotCount] :=
    congrArg (List.map Community.VoteResult.totalBallotCount) hresults
  exact absurd hcounts (by decide +kernel)

/-- Here the ballot is committed before. -/
theorem counted_of_awaiting_ballotAndClose :
    let s' := (runCalls roofVote (fun i => (ballotAndClose i).call none 0)
      (List.replicate 3 (.step 0) ++ List.replicate 8 (.step 1))).store
    (∃ v', s'.votes.find? 0 = some v' ∧ v'.status = .closed) ∧
    ∀ v', s'.votes.find? 0 = some v' → v'.status = .closed → ∃ now id,
      resultsOf s' 0 = [(fullResult s' 0 none).row now id] :=
  ⟨⟨_, rfl, by decide +kernel⟩,
    counted_of_awaiting rfl rfl rfl ballotAndClose _ (by decide +kernel)⟩

end VielHome.Governance
