import VielHome.Governance.ElectionCalls

/-!
# The life of a vote

Step by step, whatever calls run at once: a vote is a draft until it is published, and active until
it is closed, and may be cancelled as long as it is one of the two. The units that are eligible are
written when it is published and never again, there is a result when it is closed and only then, and
ballots are those of eligible units, one for each.
-/

namespace VielHome.Governance

open Relational Community Building
open VotingRepository (published closed cancelled)
open Relational.ReadCommitted (Database Event)

variable {fair : Bool} {s s' : Store} {voteId : ℕ}

/-- What can become of a status. -/
inductive StatusMoves : VoteStatus → VoteStatus → Prop
  | publish : StatusMoves .draft .active
  | close : StatusMoves .active .closed
  | cancelDraft : StatusMoves .draft .cancelled
  | cancelActive : StatusMoves .active .cancelled

/-- A commit moves the status as it may, writes the eligible units when the vote is published, and
creates votes as drafts. -/
structure VoteMoves (s s' : Store) (voteId : ℕ) : Prop where
  status : ∀ v, s.votes.find? voteId = some v → ∃ v', s'.votes.find? voteId = some v' ∧
    (v'.status = v.status ∨ StatusMoves v.status v'.status) ∧
      (snapshotsOf s' voteId = snapshotsOf s voteId ∨ v.status = .draft ∧ v'.status = .active)
  created : s.votes.find? voteId = none → snapshotsOf s' voteId = [] ∧
    ∀ v', s'.votes.find? voteId = some v' → v'.status = .draft

/-- What is so of a vote in every state. -/
structure VoteKept (s : Store) (voteId : ℕ) : Prop where
  closed : resultsOf s voteId ≠ [] ↔ ∃ v, s.votes.find? voteId = some v ∧ v.status = .closed
  result : (resultsOf s voteId).length ≤ 1
  draft : ∀ v, s.votes.find? voteId = some v → v.status = .draft → snapshotsOf s voteId = []
  eligible : ((snapshotsOf s voteId).map VoteEligibilitySnapshot.unitId).Nodup
  inScope : ∀ v, s.votes.find? voteId = some v → ∀ x ∈ snapshotsOf s voteId,
    ∃ u ∈ s.units, u.id = x.unitId ∧ u.buildingId = v.buildingId ∧
      VotingRepository.inScope v u = true
  once : ((ballotsOf s voteId).map Community.Ballot.unitId).Nodup
  ballots : ∀ b ∈ ballotsOf s voteId, (∃ x ∈ snapshotsOf s voteId, x.unitId = b.unitId) ∧
    ∃ o ∈ optionsOf s voteId, o.id = b.selectedOptionId
  counted : ∀ r ∈ resultsOf s voteId, r.totalBallotCount ≤ r.totalEligibleCount

theorem Conducted.voteKept (hs : Conducted fair s) (voteId : ℕ) : VoteKept s voteId := by
  have h := hs.valid voteId
  have habsent : s.votes.find? voteId = none → election s voteId = .nothing := h.absent
  refine ⟨⟨fun hresults => ?_, ?_⟩, ?_, fun v hv hdraft => (h.draft v hv hdraft).1, h.eligible,
    fun v hv => h.inScope v hv, h.once, fun b hb => ?_, fun r hr => h.totalBallotCount_le hr⟩
  · cases hv : s.votes.find? voteId with
    | none => exact absurd (congrArg Election.results (habsent hv)) hresults
    | some v =>
      exact ⟨v, rfl, not_not.mp fun hopen => hresults (h.noResult v hv hopen)⟩
  · rintro ⟨v, hv, hclosed⟩
    obtain ⟨r, hr, -⟩ := h.result v hv hclosed
    have hresults : resultsOf s voteId = [r] := hr
    rw [hresults]
    exact List.cons_ne_nil r []
  · by_cases hclosed : ∃ v, s.votes.find? voteId = some v ∧ v.status = .closed
    · obtain ⟨v, hv, hclosed⟩ := hclosed
      obtain ⟨r, hr, -⟩ := h.result v hv hclosed
      have hresults : resultsOf s voteId = [r] := hr
      rw [hresults, List.length_singleton]
    · have hresults : resultsOf s voteId = [] := by
        cases hv : s.votes.find? voteId with
        | none => exact congrArg Election.results (habsent hv)
        | some v => exact h.noResult v hv fun hstatus => hclosed ⟨v, hv, hstatus⟩
      rw [hresults]
      exact Nat.zero_le 1
  · cases hv : s.votes.find? voteId with
    | none =>
      have hnone : ballotsOf s voteId = [] := congrArg Election.ballots (habsent hv)
      rw [hnone] at hb
      cases hb
    | some v =>
      have hentitled := h.entitled v hv b hb
      obtain ⟨x, hx, hunit, -⟩ := hentitled.voter
      exact ⟨⟨x, hx, hunit⟩, hentitled.option⟩

/-- A commit that finds the vote. -/
theorem VoteMoves.of_vote {v v' : Vote} (hv : s.votes.find? voteId = some v)
    (hv' : s'.votes.find? voteId = some v') (hstatus : v'.status = v.status ∨
      StatusMoves v.status v'.status)
    (hsnapshots : snapshotsOf s' voteId = snapshotsOf s voteId ∨
      v.status = .draft ∧ v'.status = .active) : VoteMoves s s' voteId := by
  refine ⟨fun v₀ hv₀ => ?_, fun hnone => ?_⟩
  · obtain rfl : v = v₀ := Option.some_inj.mp (hv.symm.trans hv₀)
    exact ⟨v', hv', hstatus, hsnapshots⟩
  · rw [hv] at hnone
    cases hnone

theorem Election.Step.voteMoves {R : Register}
    (h : Election.Step fair R (election s voteId) (election s' voteId)) :
    VoteMoves s s' voteId := by
  generalize he : election s voteId = e at h
  generalize he' : election s' voteId = e' at h
  have hvote : s.votes.find? voteId = e.vote := congrArg Election.vote he
  have hvote' : s'.votes.find? voteId = e'.vote := congrArg Election.vote he'
  have hsnapshots : snapshotsOf s voteId = e.snapshots := congrArg Election.snapshots he
  have hsnapshots' : snapshotsOf s' voteId = e'.snapshots := congrArg Election.snapshots he'
  cases h with
  | @create v options hdraft =>
    refine ⟨fun v₀ hv₀ => ?_, fun _ => ⟨hsnapshots', fun v' hv' => ?_⟩⟩
    · rw [hvote] at hv₀
      cases hv₀
    · obtain rfl : v = v' := Option.some_inj.mp (hvote'.symm.trans hv')
      exact hdraft
  | @publish _ v now snapshots hfound hdraft _ _ =>
    refine .of_vote (hvote.trans hfound) hvote' (Or.inr ?_) (Or.inr ⟨hdraft, rfl⟩)
    exact hdraft ▸ .publish
  | @cast _ v b hfound _ _ _ _ =>
    exact .of_vote (hvote.trans hfound) (hvote'.trans hfound) (Or.inl rfl)
      (Or.inl (hsnapshots'.trans hsnapshots.symm))
  | @close _ v now r hfound hactive _ =>
    refine .of_vote (hvote.trans hfound) hvote' (Or.inr ?_)
      (Or.inl (hsnapshots'.trans hsnapshots.symm))
    exact hactive ▸ .close
  | @cancel _ v now reason hfound hopen =>
    refine .of_vote (hvote.trans hfound) hvote' (Or.inr ?_)
      (Or.inl (hsnapshots'.trans hsnapshots.symm))
    rcases hopen with hstatus | hstatus
    · exact hstatus ▸ .cancelDraft
    · exact hstatus ▸ .cancelActive

/-- A commit that leaves the election as it is. -/
theorem VoteMoves.of_election (h : election s' voteId = election s voteId)
    (hs : Conducted fair s) : VoteMoves s s' voteId := by
  have hvote : s'.votes.find? voteId = s.votes.find? voteId := congrArg Election.vote h
  have hsnapshots : snapshotsOf s' voteId = snapshotsOf s voteId := congrArg Election.snapshots h
  refine ⟨fun v hv => ⟨v, hvote.trans hv, Or.inl rfl, Or.inl hsnapshots⟩, fun hnone => ⟨?_, ?_⟩⟩
  · exact hsnapshots.trans (congrArg Election.snapshots ((hs.valid voteId).absent hnone))
  · intro v' hv'
    rw [hvote, hnone] at hv'
    cases hv'

theorem Proceeds.voteMoves (h : Proceeds fair s s') (hs : Conducted fair s) (voteId : ℕ) :
    VoteMoves s s' voteId := by
  rcases h.election voteId with heq | hstep
  · exact .of_election heq hs
  · exact hstep.voteMoves

/-- This is so of every vote at every step of every run that starts without votes. -/
theorem voteMoves_of_calls {ι : Type} [DecidableEq ι] (hvotes : s.votes.rows = [])
    (hoptions : s.voteOptions.rows = []) (hsnapshots : s.snapshots.rows = [])
    (hballots : s.ballots.rows = []) (hresults : s.voteResults.rows = [])
    (hproxies : s.voteProxies.rows = []) (calls : ι → ElectionCall)
    (es : List (Event ι Failure)) :
    EachStep (Database.next Lock.enforced)
      (fun d e => ∀ voteId, VoteMoves d.store (d.next Lock.enforced e).store voteId ∧
        VoteKept d.store voteId ∧ VoteKept (d.next Lock.enforced e).store voteId)
      (Database.start s fun i => (calls i).call) es := by
  have hs : Conducted false s :=
    conducted_of_none hvotes hoptions hsnapshots hballots hresults hproxies
  have hstart := Database.sound_start (D := elections false) hs fun i => (calls i).safe s
  have horderly := Database.eachStep_orderly_of_enforced enforced_of_electionLock
    (Database.start s fun i => (calls i).call) es
  refine EachStep.of_invariant (P := fun d => Conducted false d.store) (fun _ _ _ h => h.1)
    (fun d e hd h voteId => ⟨?_, hd.voteKept voteId, Conducted.voteKept h.1 voteId⟩) hs
    (Database.eachStep_commits hstart horderly)
  rcases h.2 with hstore | hproceeds
  · rw [hstore]
    exact .of_election rfl hd
  · exact Proceeds.voteMoves hproceeds hd voteId

/-- A vote about the roof: it is made, published, cast on and closed. -/
def roofCalls : ℕ → ElectionCall
  | 0 => .createVote 0 { title := "Roof", startAt := 2, endAt := 9 } none 0 1
  | 1 => .publishVote 0 0 2
  | 2 => .castBallot 0 0 { unitId := 0, selectedOptionId := 0 } 0 3
  | _ => .closeVote 0 0 none 3

/-- Casting and closing overlap. -/
def roofEvents : List (Event ℕ Failure) :=
  List.replicate 3 (.step 0) ++ List.replicate 10 (.step 1) ++ List.replicate 6 (.step 2) ++
    List.replicate 9 (.step 3) ++ List.replicate 3 (.step 2)

theorem voteMoves_of_calls_roofCalls :
    ((runCalls ownedHome (fun i => (roofCalls i).call) roofEvents).store.votes.rows.map
      Vote.status = [.closed]) ∧
    EachStep (Database.next Lock.enforced)
      (fun d e => ∀ voteId, VoteMoves d.store (d.next Lock.enforced e).store voteId ∧
        VoteKept d.store voteId ∧ VoteKept (d.next Lock.enforced e).store voteId)
      (Database.start ownedHome fun i => (roofCalls i).call) roofEvents :=
  ⟨by decide +kernel, voteMoves_of_calls rfl rfl rfl rfl rfl rfl roofCalls roofEvents⟩

end VielHome.Governance
