import VielHome.Building.Occupancy
import VielHome.Governance.Elections
import VielHome.Governance.Service
import VielHome.Relational.Embedding

/-!
# Elections under concurrency

Whatever the calls of the services do, and in whatever order they take their steps, every election
moves by the steps of `Election.Step`, and so it stays valid. The status of a vote is moved under
the lock of its row; a ballot is inserted under the entry of the unique index. The status that a
ballot is inserted on is read without a lock, so a ballot can be committed after the vote was closed
and its ballots were counted (`ballot_after_close`). It cannot in the runs that keep the lock
`tally`, which a read `FOR SHARE` would take; in these runs a result counts every ballot there ever
is.
-/

namespace VielHome.Governance

open Relational Community Building
open VotingRepository (published closed cancelled moveVote findBallotForUnit)
open Relational.ReadCommitted (Database Discipline Event Free Mode Prog not_free_of_exclusive)
open Relational.ReadCommitted.Prog.Safe (Clean)

variable {fair : Bool} {s s' s'' last : Store} {voteId : ℕ} {α β : Type}
  {notes : List (Lock × Mode × Store)} {pending : Store → Store} {now : Time}
  {post : β → Store → List (Lock × Mode × Store) → (Store → Store) → Prop}

/-! ### What commits keep -/

/-- No unit has two current proxies. -/
def SingleProxies (s : Store) : Prop :=
  ∀ p ∈ s.voteProxies, ∀ p' ∈ s.voteProxies, p.isCurrent = true → p'.isCurrent = true →
    p.unitId = p'.unitId → p = p'

/-- Every election is valid, and no unit has two current proxies. -/
structure Conducted (fair : Bool) (s : Store) : Prop where
  valid : ∀ voteId, (election s voteId).Valid fair (register s)
  proxies : SingleProxies s

/-- Every election stays as it is or moves by a step. -/
structure Proceeds (fair : Bool) (s s' : Store) : Prop where
  register : (register s).Extends (register s')
  election : ∀ voteId, election s' voteId = election s voteId ∨
    Election.Step fair (Governance.register s') (Governance.election s voteId)
      (Governance.election s' voteId)

/-- A vote that is there stays as it is. -/
def KeepsVote (voteId : ℕ) (s s' : Store) : Prop :=
  ∀ v, s.votes.find? voteId = some v → s'.votes.find? voteId = some v

/-- What the holder of a lock may rely on. -/
def SameElection (fair : Bool) : Lock → Mode → Store → Store → Prop
  | .row .vote voteId, _, s, s' => KeepsVote voteId s s'
  | .tally voteId, .shared, s, s' => fair = true → KeepsVote voteId s s'
  | .tally voteId, .exclusive, s, s' => fair = true → ballotsOf s' voteId = ballotsOf s voteId
  | .ballotKey voteId unitId, _, s, s' =>
    ∀ b ∈ ballotsOf s' voteId, b.unitId = unitId → b ∈ ballotsOf s voteId
  | _, _, _, _ => True

/-- The locks that matter: the rows of the votes and the entries of the ballots, and what the
status says about the ballots if the runs are fair. -/
def electionLock (fair : Bool) : Lock → Bool
  | .row .vote _ => true
  | .ballotKey _ _ => true
  | .tally _ => fair
  | _ => false

/-- A lock that is not kept in fair runs is not kept in any. -/
theorem electionLock_of_fair {l : Lock} (h : electionLock true l = false) :
    electionLock fair l = false := by
  unfold electionLock at h ⊢
  split at h
  · exact h
  · exact h
  · exact absurd h (by decide)
  · rfl

/-- A store is the same as itself, for every lock. -/
theorem sameElection_refl (l : Lock) (m : Mode) (s : Store) : SameElection fair l m s s := by
  unfold SameElection
  split
  · exact fun _ hv => hv
  · exact fun _ _ hv => hv
  · exact fun _ => rfl
  · exact fun _ hb _ => hb
  · trivial

/-- What is the same twice in a row is the same. -/
theorem sameElection_trans (l : Lock) (m : Mode) (s s' s'' : Store)
    (h : SameElection fair l m s s') (h' : SameElection fair l m s' s'') :
    SameElection fair l m s s'' := by
  unfold SameElection at *
  split
  · exact fun v hv => h' v (h v hv)
  · exact fun hfair v hv => h' hfair v (h hfair v hv)
  · exact fun hfair => (h' hfair).trans (h hfair)
  · exact fun b hb hunit => h b (h' b hb hunit) hunit
  · trivial

/-- Every commit keeps the elections valid, and moves them by steps. -/
def elections (fair : Bool) : Discipline Store Lock where
  inv := Conducted fair
  commits := Proceeds fair
  kept := electionLock fair
  same := SameElection fair
  same_refl := sameElection_refl
  same_trans := sameElection_trans

/-- A commit that moves every election by a step keeps them all. -/
theorem Proceeds.conducted (h : Proceeds fair s s') (hs : Conducted fair s)
    (hproxies : SingleProxies s') : Conducted fair s' := by
  refine ⟨fun voteId => ?_, hproxies⟩
  have hvalid := (hs.valid voteId).mono h.register
  rcases h.election voteId with heq | hstep
  · rwa [heq]
  · exact hvalid.step hstep

/-- What became of the elections by any number of commits. -/
theorem follows_later (h : (elections fair).Later s s') :
    (register s).Extends (register s') ∧
      ∀ voteId, Election.Follows fair (register s') (election s voteId) (election s' voteId) := by
  induction h with
  | refl => exact ⟨.refl _, fun _ => Relation.ReflTransGen.refl⟩
  | @tail s₁ s₂ _ hcommit ih =>
    have hproceeds : Proceeds fair s₁ s₂ := hcommit
    refine ⟨ih.1.trans hproceeds.register, fun voteId => ?_⟩
    have hfollows := (ih.2 voteId).mono hproceeds.register
    rcases hproceeds.election voteId with heq | hstep
    · rwa [heq]
    · exact hfollows.tail hstep

/-- What is fixed of an election stays so. -/
theorem fixed_later (h : (elections fair).Later s s') (voteId : ℕ) :
    Election.Fixed (election s voteId) (election s' voteId) :=
  ((follows_later h).2 voteId).fixed

/-! ### Other calls -/

/-- Nothing of an election is written, and units stay in the scope they are in. -/
structure Elsewhere (s s' : Store) : Prop where
  votes : s'.votes = s.votes
  voteOptions : s'.voteOptions = s.voteOptions
  snapshots : s'.snapshots = s.snapshots
  ballots : s'.ballots = s.ballots
  voteResults : s'.voteResults = s.voteResults
  voteProxies : s'.voteProxies = s.voteProxies
  inScope : ∀ v unitId, (register s).inScope v unitId → (register s').inScope v unitId

/-- A commit that changes nothing leaves the elections alone. -/
theorem Elsewhere.refl (s : Store) : Elsewhere s s :=
  ⟨rfl, rfl, rfl, rfl, rfl, rfl, fun _ _ h => h⟩

/-- So do two commits in a row. -/
theorem Elsewhere.trans (h : Elsewhere s s') (h' : Elsewhere s' s'') : Elsewhere s s'' where
  votes := h'.votes.trans h.votes
  voteOptions := h'.voteOptions.trans h.voteOptions
  snapshots := h'.snapshots.trans h.snapshots
  ballots := h'.ballots.trans h.ballots
  voteResults := h'.voteResults.trans h.voteResults
  voteProxies := h'.voteProxies.trans h.voteProxies
  inScope v unitId hscope := h'.inScope v unitId (h.inScope v unitId hscope)

/-- An election does not depend on the other tables. -/
theorem Elsewhere.election (h : Elsewhere s s') (voteId : ℕ) :
    election s' voteId = Governance.election s voteId := by
  unfold Governance.election optionsOf snapshotsOf ballotsOf resultsOf
  rw [h.votes, h.voteOptions, h.snapshots, h.ballots, h.voteResults]

/-- A commit to the other tables leaves every election where it is. -/
theorem Elsewhere.proceeds (h : Elsewhere s s') : Proceeds fair s s' := by
  refine ⟨⟨h.inScope, fun granter proxy hproxied => ?_⟩, fun voteId => Or.inl (h.election voteId)⟩
  obtain ⟨p, hp, hgranter⟩ := hproxied
  exact ⟨p, h.voteProxies ▸ hp, hgranter⟩

/-- Votes that are there stay as they are, and no ballot is added. -/
theorem sameElection_of_keeps (hvotes : ∀ id, KeepsVote id s s')
    (hballots : ∀ id, ballotsOf s' id = ballotsOf s id) (l : Lock) (m : Mode) :
    SameElection fair l m s s' := by
  unfold SameElection
  split
  · exact hvotes _
  · exact fun _ => hvotes _
  · exact fun _ => hballots _
  · exact fun b hb _ => hballots _ ▸ hb
  · trivial

/-- Such a commit keeps all that the sessions rely on. -/
theorem Elsewhere.conclude (h : Elsewhere s s') (hs : Conducted fair s) :
    Conducted fair s' ∧ Proceeds fair s s' ∧ ∀ l m, SameElection fair l m s s' := by
  refine ⟨h.proceeds.conducted hs ?_, h.proceeds, sameElection_of_keeps (fun id v hv => ?_)
    fun id => congrArg Election.ballots (h.election id)⟩
  · rw [SingleProxies, h.voteProxies]
    exact hs.proxies
  · exact h.votes ▸ hv

/-- A call that writes nothing of an election keeps to the discipline. -/
theorem safe_of_leaves {p : Call α} (hp : p.Leaves Elsewhere (electionLock true)) :
    p.Safe (elections fair) (fun _ _ _ _ => True) last [] id := by
  have hkept : p.Leaves Elsewhere (electionLock fair) := hp.mono fun _ => electionLock_of_fair
  exact Prog.Safe.leaves (P := fun _ => True) hkept Elsewhere.refl (fun h h' => h.trans h')
    (fun _ _ _ _ => trivial) (fun s s' hs _ h => h.conclude hs) trivial Elsewhere.refl

/-! ### What one write makes of the elections -/

section Writes

variable {id : ℕ} {f : Vote → Vote} {h : ∀ v, (f v).id = v.id}

/-- A change of a vote is one of its election. -/
theorem election_modify_self :
    election (s.onVotes (·.modify voteId f h)) voteId =
      { election s voteId with vote := (s.votes.find? voteId).map f } := by
  have hvote : (s.votes.modify voteId f h).find? voteId = (s.votes.find? voteId).map f := by
    rw [Table.find?_modify, if_pos rfl]
  rw [← hvote]
  rfl

/-- It is one of no other election. -/
theorem election_modify_ne (hid : id ≠ voteId) :
    election (s.onVotes (·.modify voteId f h)) id = election s id := by
  have hvote : (s.votes.modify voteId f h).find? id = s.votes.find? id := Table.find?_modify_ne hid
  have helection : election (s.onVotes (·.modify voteId f h)) id =
      { election s id with vote := (s.votes.modify voteId f h).find? id } := rfl
  rw [helection, hvote]
  rfl

open VotingRepository (BallotParams EligibleUnit createSnapshots createResult created)

/-- A new vote changes no election that is there. -/
theorem election_created_ne {params : VotingRepository.CreateVoteParams} (hid : id ≠ s.votes.next) :
    election (created params s) id = election s id := by
  have hvote : (s.votes.create params.row params.row_id).find? id = s.votes.find? id := by
    rw [Table.find?_create, if_neg hid]
  have hoptions : optionsOf (created params s) id = optionsOf s id :=
    Table.filter_createMany_of_false fun _ _ => decide_eq_false (Ne.symm hid)
  have helection : election (created params s) id =
      { election s id with
        vote := (s.votes.create params.row params.row_id).find? id
        options := optionsOf (created params s) id } := rfl
  rw [helection, hvote, hoptions]
  rfl

/-- A vote is created under a fresh id, with nothing that refers to it but its options. -/
theorem election_created_self {params : VotingRepository.CreateVoteParams}
    (hs : election s s.votes.next = .nothing) :
    election (created params s) s.votes.next =
      { Election.nothing with
        vote := some (params.row s.votes.next)
        options := optionsOf (created params s) s.votes.next } := by
  have hvote : (s.votes.create params.row params.row_id).find? s.votes.next =
      some (params.row s.votes.next) := by
    rw [Table.find?_create, if_pos rfl]
  rw [← hs, ← hvote]
  rfl

/-- A snapshot changes no other election. -/
theorem election_createSnapshots_ne {eligible : List EligibleUnit} (hid : id ≠ voteId) :
    election (createSnapshots voteId eligible s) id = election s id := by
  have hsnapshots : snapshotsOf (createSnapshots voteId eligible s) id = snapshotsOf s id :=
    Table.filter_createMany_of_false fun _ _ => decide_eq_false (Ne.symm hid)
  have helection : election (createSnapshots voteId eligible s) id =
      { election s id with snapshots := snapshotsOf (createSnapshots voteId eligible s) id } := rfl
  rw [helection, hsnapshots]
  rfl

/-- What a snapshot says about its unit. -/
def eligibility (x : VoteEligibilitySnapshot) : EligibleUnit where
  unitId := x.unitId
  eligiblePersonId := x.eligiblePersonId
  eligibilityType := x.eligibilityType

/-- The snapshot of an election gets the lines of who is eligible. -/
theorem election_createSnapshots_self (voteId : ℕ) (eligible : List EligibleUnit) (s : Store) :
    ∃ rows, rows.map eligibility = eligible ∧
      election (createSnapshots voteId eligible s) voteId =
        { election s voteId with snapshots := snapshotsOf s voteId ++ rows } := by
  have hsnapshots : snapshotsOf (createSnapshots voteId eligible s) voteId = snapshotsOf s voteId ++
      eligible.mapIdx fun k e => e.row voteId (s.snapshots.next + k) :=
    Table.filter_createMany_of_true fun _ _ => decide_eq_true rfl
  refine ⟨_, ?_, congrArg (fun snapshots => { election s voteId with snapshots }) hsnapshots⟩
  refine List.ext_getElem (by simp) fun k _ _ => ?_
  simp [EligibleUnit.row, eligibility]

/-- A ballot changes no other election. -/
theorem election_ballot_ne {params : BallotParams} (hid : id ≠ params.voteId) :
    election (s.onBallots (·.create params.row params.row_id)) id = election s id := by
  have hballots : ballotsOf (s.onBallots (·.create params.row params.row_id)) id = ballotsOf s id := by
    have hnot : decide (params.voteId = id) = false := decide_eq_false (Ne.symm hid)
    rw [ballotsOf, Store.onBallots_ballots, Table.create, List.filter_append]
    simp [BallotParams.row, hnot, ballotsOf]
  have helection : election (s.onBallots (·.create params.row params.row_id)) id =
      { election s id with
        ballots := ballotsOf (s.onBallots (·.create params.row params.row_id)) id } := rfl
  rw [helection, hballots]
  rfl

/-- The ballots of a vote get one more. -/
theorem ballotsOf_ballot_self {params : BallotParams} :
    ballotsOf (s.onBallots (·.create params.row params.row_id)) params.voteId =
      ballotsOf s params.voteId ++ [params.row s.ballots.next] := by
  rw [ballotsOf, Store.onBallots_ballots, Table.create, List.filter_append]
  simp [BallotParams.row, ballotsOf]

/-- The election gets this ballot, and nothing else. -/
theorem election_ballot_self {params : BallotParams} :
    election (s.onBallots (·.create params.row params.row_id)) params.voteId =
      { election s params.voteId with
        ballots := ballotsOf s params.voteId ++ [params.row s.ballots.next] } :=
  congrArg (fun ballots => { election s params.voteId with ballots }) ballotsOf_ballot_self

/-- A result changes no other election. -/
theorem election_createResult_ne {params : ResultParams} (hid : id ≠ params.voteId) :
    election (createResult params now s) id = election s id := by
  have hresults : resultsOf (createResult params now s) id = resultsOf s id := by
    have hnot : decide (params.voteId = id) = false := decide_eq_false (Ne.symm hid)
    rw [resultsOf, createResult, Store.onVoteResults_voteResults, Table.create, List.filter_append]
    simp [ResultParams.row, hnot, resultsOf]
  have helection : election (createResult params now s) id =
      { election s id with results := resultsOf (createResult params now s) id } := rfl
  rw [helection, hresults]
  rfl

/-- The results of an election get one more. -/
theorem election_createResult_self {params : ResultParams} :
    election (createResult params now s) params.voteId =
      { election s params.voteId with
        results := resultsOf s params.voteId ++ [params.row now s.voteResults.next] } := by
  have hresults : resultsOf (createResult params now s) params.voteId =
      resultsOf s params.voteId ++ [params.row now s.voteResults.next] := by
    rw [resultsOf, createResult, Store.onVoteResults_voteResults, Table.create, List.filter_append]
    simp [ResultParams.row, resultsOf]
  exact congrArg (fun results => { election s params.voteId with results }) hresults

end Writes

/-! ### Commits that write one election -/

/-- At most one election is written. -/
structure Touches (voteId : ℕ) (s s' : Store) : Prop where
  others : ∀ id, id ≠ voteId → election s' id = election s id
  units : s'.units = s.units
  voteProxies : s'.voteProxies = s.voteProxies

namespace Touches

/-- A commit to one election leaves the register as it is. -/
theorem register (h : Touches voteId s s') :
    Governance.register s' = Governance.register s := by
  unfold Governance.register
  rw [h.units, h.voteProxies]

/-- It leaves the other votes as they are. -/
theorem find?_eq (h : Touches voteId s s') {id : ℕ} (hid : id ≠ voteId) :
    s'.votes.find? id = s.votes.find? id :=
  congrArg Election.vote (h.others id hid)

/-- It leaves their ballots as they are. -/
theorem ballotsOf_eq (h : Touches voteId s s') {id : ℕ} (hid : id ≠ voteId) :
    ballotsOf s' id = ballotsOf s id :=
  congrArg Election.ballots (h.others id hid)

/-- A commit that moves one election by a step keeps all that the sessions rely on. -/
theorem conclude (h : Touches voteId s s') (hs : Conducted fair s)
    (hstep : Election.Step fair (Governance.register s) (election s voteId) (election s' voteId))
    (hsame : ∀ l m, Free notes l m → SameElection fair l m s s') (a : α) :
    Conducted fair s' ∧ Proceeds fair s s' ∧
      (∀ l m, Free notes l m → SameElection fair l m s s') ∧
      Clean a s' ([] : List (Lock × Mode × Store)) id := by
  have hproceeds : Proceeds fair s s' := by
    rw [← h.register] at hstep
    refine ⟨h.register ▸ .refl _, fun id => ?_⟩
    by_cases hid : id = voteId
    · exact hid ▸ Or.inr hstep
    · exact Or.inl (h.others id hid)
  refine ⟨hproceeds.conducted hs ?_, hproceeds, hsame, rfl, rfl⟩
  rw [SingleProxies, h.voteProxies]
  exact hs.proxies

/-- The status is moved under the lock of the row. -/
theorem same_of_row (h : Touches voteId s s') (hballots : s'.ballots = s.ballots) {t t' : Store}
    (hrow : (Lock.row .vote voteId, Mode.exclusive, t) ∈ notes)
    (htally : fair = true → (Lock.tally voteId, Mode.exclusive, t') ∈ notes) (l : Lock) (m : Mode)
    (hfree : Free notes l m) : SameElection fair l m s s' := by
  have hof : ∀ id, ballotsOf s' id = ballotsOf s id := fun id => by
    rw [ballotsOf, hballots, ballotsOf]
  unfold SameElection KeepsVote
  split
  case h_1 id =>
    by_cases hid : id = voteId
    · subst hid
      exact absurd hfree (not_free_of_exclusive hrow)
    · rw [h.find?_eq hid]
      exact fun v hv => hv
  case h_2 id =>
    intro hfair
    by_cases hid : id = voteId
    · subst hid
      exact absurd hfree (not_free_of_exclusive (htally hfair))
    · rw [h.find?_eq hid]
      exact fun v hv => hv
  case h_3 id => exact fun _ => hof id
  case h_4 id unitId => exact fun b hb _ => hof id ▸ hb
  case h_5 => trivial

/-- A ballot is inserted under the entry of the unique index. -/
theorem same_of_key (h : Touches voteId s s') (hvotes : s'.votes = s.votes) {unitId : ℕ}
    {t t' : Store} (hballots : ∀ b ∈ ballotsOf s' voteId, b ∈ ballotsOf s voteId ∨ b.unitId = unitId)
    (hkey : (Lock.ballotKey voteId unitId, Mode.exclusive, t) ∈ notes)
    (htally : fair = true → (Lock.tally voteId, Mode.shared, t') ∈ notes) (l : Lock) (m : Mode)
    (hfree : Free notes l m) : SameElection fair l m s s' := by
  unfold SameElection KeepsVote
  split
  case h_1 id => exact fun v hv => hvotes ▸ hv
  case h_2 id => exact fun _ v hv => hvotes ▸ hv
  case h_3 id =>
    intro hfair
    by_cases hid : id = voteId
    · subst hid
      -- whoever counts the ballots holds the lock alone
      exact absurd (hfree _ (htally hfair) rfl) Bool.false_ne_true
    · exact h.ballotsOf_eq hid
  case h_4 id unitId' =>
    intro b hb hunit
    by_cases hid : id = voteId
    · subst hid
      rcases hballots b hb with hold | hnew
      · exact hold
      · have hsame : unitId' = unitId := hunit.symm.trans hnew
        subst hsame
        exact absurd hfree (not_free_of_exclusive hkey)
    · exact h.ballotsOf_eq hid ▸ hb
  case h_5 => trivial

end Touches

/-! ### The repository -/

section Repository

open VotingRepository

/-- The vote that was moved, until the transaction ends. -/
def Moving (fair : Bool) (voteId : ℕ) (s₀ : Store) : List (Lock × Mode × Store) :=
  (elections fair).taken [(.row .vote voteId, .exclusive), (.tally voteId, .exclusive)] s₀

/-- Who moves a vote holds its row. -/
theorem row_mem_moving {s₀ : Store} :
    (Lock.row .vote voteId, Mode.exclusive, s₀) ∈ Moving fair voteId s₀ :=
  Discipline.mem_taken List.mem_cons_self rfl

/-- In fair runs, who moves a vote holds its tally too. -/
theorem tally_mem_moving {s₀ : Store} (hfair : fair = true) :
    (Lock.tally voteId, Mode.exclusive, s₀) ∈ Moving fair voteId s₀ :=
  Discipline.mem_taken (List.mem_cons_of_mem _ List.mem_cons_self) hfair

/-- The row of the vote is locked once it has matched. -/
theorem safe_moveVote {status : VoteStatus} {error : Failure} {f : Vote → Vote}
    {hf : ∀ v, (f v).id = v.id} {g : PUnit → Call β}
    (h : ∀ s v, Conducted fair s → (elections fair).Later last s → s.votes.find? voteId = some v →
      v.status = status → (g ⟨⟩).Safe (elections fair) post s (Moving fair voteId s)
        fun s => s.onVotes (·.modify voteId f hf)) :
    (moveVote voteId status error f hf >>= g).Safe (elections fair) post last [] id := by
  rw [moveVote, Prog.bind_assoc]
  refine Prog.Safe.query fun s₀ _ hlater₀ _ => ?_
  rw [Prog.bind_assoc]
  refine Prog.Safe.require fun _ => Prog.Safe.writeIf fun s hs hlater _ hmatched => ?_
  obtain ⟨v, hv, hstatus⟩ := (Option.any_eq_true ..).mp hmatched
  exact h s v hs (hlater₀.trans hlater) hv (of_decide_eq_true hstatus)

/-- The vote stays what it was when its row was locked. -/
theorem find?_of_moving {s₀ : Store} {v : Vote} (hv : s₀.votes.find? voteId = some v)
    (hknows : (elections fair).Knows (Moving fair voteId s₀) s) : s.votes.find? voteId = some v :=
  hknows _ row_mem_moving v hv

/-- `createVote` keeps the discipline: nothing becomes a draft. -/
theorem VotingRepository.safe_createVote {params : CreateVoteParams} :
    (VotingRepository.createVote params).Safe (elections fair) Clean last [] id := by
  rw [createVote, Prog.transaction]
  refine Prog.Safe.writeUnless fun _ _ _ _ _ => Prog.Safe.commitAll fun s hs _ _ => ?_
  have hnone : s.votes.find? s.votes.next = none := Table.find?_of_next_le le_rfl
  have hnothing : election s s.votes.next = .nothing :=
    (hs.valid s.votes.next).absent hnone
  have htouches : Touches s.votes.next s (created params s) :=
    ⟨fun _ => election_created_ne, rfl, rfl⟩
  refine htouches.conclude hs ?_ (fun l m _ => ?_) _
  · rw [hnothing, election_created_self hnothing]
    exact .create rfl
  · have hof : ∀ id, ballotsOf (created params s) id = ballotsOf s id := fun _ => rfl
    refine sameElection_of_keeps (fun id v hv => ?_) hof l m
    exact Table.find?_create_of_find? (h := params.row_id) hv

/-- Of every unit at most one row is in the electorate. -/
theorem nodup_electorate {allowTenantVoting : Bool} {owners tenants : ℕ → List ℕ}
    {units : List BuildingUnit} (h : (units.map BuildingUnit.id).Nodup) :
    ((electorate allowTenantVoting owners tenants units).map EligibleUnit.unitId).Nodup := by
  refine h.sublist ?_
  clear h
  induction units with
  | nil => exact List.Sublist.refl _
  | cons u units ih =>
    rw [electorate, List.filterMap_cons]
    cases eligibleVoter allowTenantVoting (tenants u.id) (owners u.id) with
    | none => exact ih.cons _
    | some voter => exact ih.cons_cons _

/-- Who is eligible is so for one of the units. -/
theorem unitId_of_mem_electorate {allowTenantVoting : Bool} {owners tenants : ℕ → List ℕ}
    {units : List BuildingUnit} {e : EligibleUnit}
    (he : e ∈ electorate allowTenantVoting owners tenants units) : ∃ u ∈ units, u.id = e.unitId := by
  obtain ⟨u, hu, heq⟩ := List.mem_filterMap.mp he
  obtain ⟨voter, -, rfl⟩ := Option.map_eq_some_iff.mp heq
  exact ⟨u, hu, rfl⟩

/-- The units of the building in the scope of the vote. -/
theorem mem_unitsInScope {v : Vote} {buildingId : ℕ} {u : BuildingUnit} :
    u ∈ unitsInScope v buildingId s ↔
      u ∈ s.units ∧ u.buildingId = buildingId ∧ inScope v u = true := by
  rw [unitsInScope, List.mem_filter, Bool.and_eq_true, decide_eq_true_eq, Table.mem_rows]

/-- The terms of a vote stay as they are. -/
theorem terms_of_later {v v' : Vote} (h : (elections fair).Later s s')
    (hv : s.votes.find? voteId = some v) (hv' : s'.votes.find? voteId = some v') :
    terms v' = terms v := by
  obtain ⟨v₀, hv₀, hterms, -⟩ := (fixed_later h voteId).vote v hv
  obtain rfl : v₀ = v' := Option.some.inj (hv₀.symm.trans hv')
  exact hterms

/-- The election of a vote that is published with an electorate. -/
theorem election_published {v : Vote} (hv : s.votes.find? voteId = some v)
    (hempty : snapshotsOf s voteId = []) (eligible : List EligibleUnit) (now : Time) :
    ∃ rows, rows.map eligibility = eligible ∧
      election (createSnapshots voteId eligible
        (s.onVotes (·.modify voteId (published now) (published_id now)))) voteId =
      { election s voteId with vote := some (published now v), snapshots := rows } := by
  obtain ⟨rows, hrows, helection⟩ := election_createSnapshots_self voteId eligible
    (s.onVotes (·.modify voteId (published now) (published_id now)))
  have hnone : snapshotsOf (s.onVotes (·.modify voteId (published now) (published_id now))) voteId =
      [] := hempty
  refine ⟨rows, hrows, ?_⟩
  rw [helection, election_modify_self, hv, hnone]
  rfl

/-- The commit of a publication: the vote is active, and its electorate is written down. -/
theorem conclude_publishVote {v : Vote} {s₁ : Store} {eligible : List EligibleUnit}
    (hs : Conducted fair s) (hv : s.votes.find? voteId = some v) (hdraft : v.status = .draft)
    (hunits : (eligible.map EligibleUnit.unitId).Nodup)
    (hscope : ∀ e ∈ eligible, (register s).inScope (terms v) e.unitId)
    (hnotes : ∀ n ∈ Moving fair voteId s₁, n ∈ notes) (a : α) :
    let s' := createSnapshots voteId eligible
      (s.onVotes (·.modify voteId (published now) (published_id now)))
    Conducted fair s' ∧ Proceeds fair s s' ∧
      (∀ l m, Free notes l m → SameElection fair l m s s') ∧
      Clean a s' ([] : List (Lock × Mode × Store)) id := by
  intro s'
  have hempty : snapshotsOf s voteId = [] := ((hs.valid voteId).draft v hv hdraft).1
  obtain ⟨rows, hrows, hself⟩ := election_published hv hempty eligible now
  have htouches : Touches voteId s s' :=
    ⟨fun id hid => (election_createSnapshots_ne hid).trans (election_modify_ne hid), rfl, rfl⟩
  refine htouches.conclude hs ?_
    (htouches.same_of_row rfl (hnotes _ row_mem_moving) fun hfair =>
      hnotes _ (tally_mem_moving hfair)) a
  rw [hself]
  have hunit : rows.map VoteEligibilitySnapshot.unitId = eligible.map EligibleUnit.unitId := by
    rw [← hrows, List.map_map]
    rfl
  refine .publish hv hdraft (hunit ▸ hunits) fun x hx => ?_
  exact hscope (eligibility x) (hrows ▸ List.mem_map_of_mem hx)

/-- `publishVote` keeps the discipline: a draft becomes an open vote with its snapshot. -/
theorem VotingRepository.safe_publishVote {v₀ : Vote} (hv₀ : last.votes.find? voteId = some v₀)
    {allowTenantVoting : Bool} :
    (VotingRepository.publishVote voteId v₀.buildingId allowTenantVoting now).Safe (elections fair)
      Clean last [] id := by
  rw [VotingRepository.publishVote, Prog.transaction, Prog.bind_assoc]
  refine safe_moveVote fun s₁ v hs₁ hlater₁ hv hdraft => ?_
  rw [Prog.bind_assoc]
  refine Prog.Safe.query fun s₂ _ hlater₂ hknows₂ => ?_
  have hv₂ := find?_of_moving hv hknows₂
  have hread : (s₂.votes.modify voteId (published now) (published_id now)).find? voteId =
      some (published now v) := Table.find?_modify_self hv₂
  rw [Prog.bind_assoc]
  refine Prog.Safe.expect fun v' hv' => ?_
  obtain rfl : published now v = v' := Option.some.inj (hread.symm.trans hv')
  rw [Prog.bind_assoc]
  refine Prog.Safe.query fun s₃ _ hlater₃ hknows₃ => ?_
  rw [Prog.bind_assoc]
  refine Prog.Safe.query fun s₄ _ hlater₄ _ => ?_
  rw [Prog.bind_assoc]
  refine Prog.Safe.query fun s₅ _ hlater₅ _ => ?_
  refine Prog.Safe.writeUnless fun s₆ _ hlater₆ _ _ => Prog.Safe.commitAll fun s hs hlater hknows => ?_
  have hlater₃ : (elections fair).Later s₃ s :=
    ((hlater₄.trans hlater₅).trans hlater₆).trans hlater
  have hvs : s.votes.find? voteId = some v :=
    find?_of_moving hv fun n hn => hknows n (List.mem_append_left _ hn)
  -- the vote is of the building whose units are read
  have hbuilding : v.buildingId = v₀.buildingId := by
    change (terms v).buildingId = (terms v₀).buildingId
    rw [terms_of_later hlater₁ hv₀ hv]
  refine conclude_publishVote hs hvs hdraft ?_ (fun e he => ?_)
    (fun n hn => List.mem_append_left _ hn) _
  · exact nodup_electorate (s₃.units.nodup.sublist (List.filter_sublist.map _))
  · obtain ⟨u, hu, hunit⟩ := unitId_of_mem_electorate he
    obtain ⟨hmem, hubuilding, hscope⟩ := mem_unitsInScope.mp hu
    exact (follows_later hlater₃).1.inScope _ _
      ⟨u, hmem, hunit, hubuilding.trans hbuilding.symm, hscope⟩

/-- A ballot goes in when the unit has none. -/
theorem unitId_ne_of_refused {params : BallotParams} (h : params.refused s = none) :
    ∀ b ∈ ballotsOf s params.voteId, b.unitId ≠ params.unitId := by
  intro b hb hunit
  have hfound : (findBallotForUnit params.voteId params.unitId s).isSome = true := by
    rw [findBallotForUnit, List.find?_isSome]
    exact ⟨b, hb, decide_eq_true hunit⟩
  rw [BallotParams.refused, if_pos hfound] at h
  cases h

/-- `createBallot` keeps the discipline, when who votes is entitled to. -/
theorem VotingRepository.safe_createBallot {params : BallotParams} {v₀ : Vote}
    (hv₀ : last.votes.find? params.voteId = some v₀) (hdraft₀ : v₀.status ≠ .draft)
    (hentitled : ∀ id, (election last params.voteId).Entitled (register last) v₀ (params.row id)) :
    (VotingRepository.createBallot params now).Safe (elections fair) Clean last [] id := by
  rw [VotingRepository.createBallot, Prog.transaction, Prog.bind_assoc]
  refine Prog.Safe.queryUnder fun s₁ _ hlater₁ _ => ?_
  rw [Prog.bind_assoc]
  refine Prog.Safe.expect fun v hv => ?_
  rw [Prog.bind_assoc]
  refine Prog.Safe.require fun hopen => ?_
  refine Prog.Safe.writeUnless fun s₂ _ hlater₂ _ hfree => Prog.Safe.commitAll fun s hs hlater hknows => ?_
  have hlast : (elections fair).Later last s := (hlater₁.trans hlater₂).trans hlater
  obtain ⟨v', hv', -, hdraft⟩ := (fixed_later hlast params.voteId).vote v₀ hv₀
  have hkey : (Lock.ballotKey params.voteId params.unitId, Mode.exclusive, s₂) ∈
      [] ++ (elections fair).taken [(.tally params.voteId, .shared)] s₁ ++
        (elections fair).taken [(.ballotKey params.voteId params.unitId, .exclusive)] s₂ :=
    List.mem_append_right _ (Discipline.mem_taken List.mem_cons_self rfl)
  have htally : fair = true → (Lock.tally params.voteId, Mode.shared, s₁) ∈
      [] ++ (elections fair).taken [(.tally params.voteId, .shared)] s₁ ++
        (elections fair).taken [(.ballotKey params.voteId params.unitId, .exclusive)] s₂ :=
    fun hfair => List.mem_append_left _ (Discipline.mem_taken List.mem_cons_self hfair)
  have htouches : Touches params.voteId s (s.onBallots (·.create params.row params.row_id)) :=
    ⟨fun _ => election_ballot_ne, rfl, rfl⟩
  refine htouches.conclude hs ?_ (htouches.same_of_key rfl (fun b hb => ?_) hkey htally) _
  · rw [election_ballot_self]
    refine .cast hv' (hdraft hdraft₀) (fun hfair => ?_)
      ((hentitled _).fixed (fixed_later hlast _) (follows_later hlast).1 hv₀ hdraft₀ hv')
      fun b hb hunit => ?_
    · -- the status that was read is still the status
      have hsame : s.votes.find? params.voteId = some v :=
        hknows _ (htally hfair) hfair v hv
      obtain rfl : v = v' := Option.some.inj (hsame.symm.trans hv')
      exact hopen.1
    · -- a ballot that was there before the entry was locked would have been found
      have hold : b ∈ ballotsOf s₂ params.voteId := hknows _ hkey b hb hunit
      exact unitId_ne_of_refused hfree b hold hunit
  · rw [ballotsOf_ballot_self] at hb
    refine (List.mem_append.mp hb).imp_right fun hb => ?_
    rw [List.mem_singleton.mp hb]
    rfl

/-- A result only depends on the values of the options that were voted for. -/
theorem computedResult_congr (voteId : ℕ) (quorumPercent : Option ℤ) (total : ℕ)
    {value value' : ℕ → String} {ballots : List Community.Ballot}
    (h : ∀ b ∈ ballots, value b.selectedOptionId = value' b.selectedOptionId) :
    computedResult voteId quorumPercent total value ballots =
      computedResult voteId quorumPercent total value' ballots := by
  have hmap : (ballots.map fun b =>
      ({ selectedOptionId := optionId b.selectedOptionId
         optionValue := value b.selectedOptionId } : Ballot)) =
      ballots.map fun b =>
        { selectedOptionId := optionId b.selectedOptionId
          optionValue := value' b.selectedOptionId } :=
    List.map_congr_left fun b hb => by rw [h b hb]
  rw [computedResult, hmap, computedResult]

/-- The option that a ballot is read together with is one of the options of its vote. -/
theorem optionValue_eq {id : ℕ} (h : ∃ o ∈ (election s voteId).options, o.id = id) :
    VotingRepository.optionValue s id = (election s voteId).optionValue id := by
  obtain ⟨o, ho, rfl⟩ := h
  have hmem : o ∈ s.voteOptions := (List.mem_filter.mp ho).1
  have hsome : ((election s voteId).options.find? fun o' => o'.id = o.id).isSome = true :=
    List.find?_isSome.mpr ⟨o, ho, decide_eq_true rfl⟩
  obtain ⟨o', ho'⟩ := Option.isSome_iff_exists.mp hsome
  have hid : decide (o'.id = o.id) = true :=
    List.find?_some (p := fun o' : VoteOption => decide (o'.id = o.id)) ho'
  have hmem' : o' ∈ s.voteOptions := (List.mem_filter.mp (List.mem_of_find?_eq_some ho')).1
  obtain rfl := Table.eq_of_key_eq hmem' hmem (of_decide_eq_true hid)
  rw [VotingRepository.optionValue, Table.find?_of_mem hmem, Election.optionValue, ho']

/-- The election of a vote that is closed with a result. -/
theorem election_closed {v : Vote} {params : ResultParams} (hid : params.voteId = voteId)
    (hv : s.votes.find? voteId = some v) (hempty : resultsOf s voteId = []) (now : Time) :
    election (createResult params now (s.onVotes (·.modify voteId (closed now) (closed_id now))))
        voteId =
      { election s voteId with
        vote := some (closed now v)
        results := [params.row now s.voteResults.next] } := by
  subst hid
  have hnone : resultsOf (s.onVotes (·.modify params.voteId (closed now) (closed_id now)))
      params.voteId = [] := hempty
  rw [election_createResult_self, election_modify_self, hv, hnone]
  rfl

/-- The commit of a closing: the vote is closed, and its result is written down. -/
theorem conclude_closeVote {v : Vote} {s₁ : Store} {params : ResultParams}
    (hs : Conducted fair s) (hv : s.votes.find? voteId = some v) (hactive : v.status = .active)
    (hid : params.voteId = voteId)
    (hcounts : ∀ id, (election s voteId).Counts fair v (params.row now id))
    (hnotes : ∀ n ∈ Moving fair voteId s₁, n ∈ notes) (a : α) :
    let s' := createResult params now (s.onVotes (·.modify voteId (closed now) (closed_id now)))
    Conducted fair s' ∧ Proceeds fair s s' ∧
      (∀ l m, Free notes l m → SameElection fair l m s s') ∧
      Clean a s' ([] : List (Lock × Mode × Store)) id := by
  intro s'
  have hempty : resultsOf s voteId = [] :=
    (hs.valid voteId).noResult v hv (by rw [hactive]; decide)
  have hself := election_closed hid hv hempty now
  have htouches : Touches voteId s s' :=
    ⟨fun id hne => (election_createResult_ne (hid ▸ hne)).trans (election_modify_ne hne), rfl, rfl⟩
  refine htouches.conclude hs ?_
    (htouches.same_of_row rfl (hnotes _ row_mem_moving) fun hfair =>
      hnotes _ (tally_mem_moving hfair)) a
  rw [hself]
  exact .close hv hactive (hcounts _)

/-- `closeVote` keeps the discipline: an open vote is closed with its result. -/
theorem VotingRepository.safe_closeVote {v₀ : Vote} (hv₀ : last.votes.find? voteId = some v₀) :
    (VotingRepository.closeVote voteId v₀.quorumPercent now).Safe (elections fair) Clean last []
      id := by
  rw [VotingRepository.closeVote, Prog.transaction, Prog.bind_assoc]
  refine safe_moveVote fun s₁ v hs₁ hlater₁ hv hactive => ?_
  rw [Prog.bind_assoc]
  refine Prog.Safe.query fun s₂ _ hlater₂ hknows₂ => ?_
  rw [Prog.bind_assoc]
  refine Prog.Safe.query fun s₃ hs₃ hlater₃ hknows₃ => ?_
  rw [Prog.bind_assoc]
  refine Prog.Safe.query fun s₄ _ hlater₄ _ => ?_
  rw [Prog.bind_assoc]
  refine Prog.Safe.expect fun _ _ => ?_
  rw [Prog.bind_assoc]
  refine Prog.Safe.writeUnless fun s₅ _ hlater₅ _ _ => ?_
  refine Prog.Safe.commitAll fun s hs hlater hknows => ?_
  have hlocks : (elections fair).Knows (Moving fair voteId s₁) s :=
    fun n hn => hknows n (List.mem_append_left _ hn)
  have hvs : s.votes.find? voteId = some v := find?_of_moving hv hlocks
  have hlater' : (elections fair).Later s₃ s := (hlater₄.trans hlater₅).trans hlater
  have hfixed₂ := fixed_later (hlater₃.trans hlater') voteId
  have hfixed₃ := fixed_later hlater' voteId
  have hopen : v.status ≠ .draft := by
    rw [hactive]
    decide
  -- the electorate is fixed once the vote is no draft
  have hsnapshots : snapshotsOf s voteId = snapshotsOf s₂ voteId :=
    hfixed₂.snapshots v (find?_of_moving hv hknows₂) hopen
  have hv₃ : s₃.votes.find? voteId = some v := find?_of_moving hv hknows₃
  have hquorum : v.quorumPercent = v₀.quorumPercent := by
    change (terms v).quorumPercent = (terms v₀).quorumPercent
    rw [terms_of_later hlater₁ hv₀ hv]
  obtain ⟨later, hballots⟩ := hfixed₃.ballots
  refine conclude_closeVote hs hvs hactive rfl (fun id => ?_)
    (fun n hn => List.mem_append_left _ hn) _
  refine ⟨ballotsOf s₃ voteId, later, now, id, hballots.symm, fun hfair => ?_, ?_⟩
  · -- nobody votes while the tally is locked
    have hsame : ballotsOf s voteId = ballotsOf s₁ voteId :=
      hlocks _ (tally_mem_moving hfair) hfair
    have hsame₃ : ballotsOf s₃ voteId = ballotsOf s₁ voteId :=
      hknows₃ _ (tally_mem_moving hfair) hfair
    have happend : ballotsOf s₃ voteId ++ later = ballotsOf s voteId := hballots
    rw [hsame, hsame₃] at happend
    exact List.append_right_eq_self.mp happend
  · have hid : v.id = voteId := Table.key_of_find? hvs
    have hvalue : ∀ b ∈ ballotsOf s₃ voteId, VotingRepository.optionValue s₃ b.selectedOptionId =
        (election s voteId).optionValue b.selectedOptionId := by
      intro b hb
      rw [optionValue_eq ((hs₃.valid voteId).entitled v hv₃ b hb).option, Election.optionValue,
        Election.optionValue, hfixed₃.options v hv₃]
    have hlength : (snapshotsOf s₂ voteId).length = (election s voteId).snapshots.length :=
      congrArg List.length hsnapshots.symm
    have hcomputed := computedResult_congr voteId v₀.quorumPercent (snapshotsOf s₂ voteId).length hvalue
    rw [hid, hquorum, ← hlength, ← hcomputed]
    rfl

/-- `cancelVote` keeps the discipline: a vote that is not over is called off. -/
theorem VotingRepository.safe_cancelVote {status : VoteStatus} {reason : Option String}
    (hstatus : status ≠ .closed ∧ status ≠ .cancelled) :
    (VotingRepository.cancelVote voteId status reason now).Safe (elections fair) Clean last []
      id := by
  rw [VotingRepository.cancelVote, Prog.transaction, Prog.bind_assoc]
  refine safe_moveVote fun s₁ v hs₁ _ hv hv' => ?_
  rw [Prog.bind_assoc]
  refine Prog.Safe.commitAll fun s hs hlater hknows => ?_
  have hvs : s.votes.find? voteId = some v := find?_of_moving hv hknows
  have htouches : Touches voteId s
      (s.onVotes (·.modify voteId (cancelled now reason) (cancelled_id now reason))) :=
    ⟨fun _ hne => election_modify_ne hne, rfl, rfl⟩
  have hopen : v.status = .draft ∨ v.status = .active := by
    subst hv'
    cases hcase : v.status with
    | draft => exact Or.inl rfl
    | active => exact Or.inr rfl
    | closed => exact absurd hcase hstatus.1
    | cancelled => exact absurd hcase hstatus.2
  have hstep : Election.Step fair (register s) (election s voteId)
      (election (s.onVotes (·.modify voteId (cancelled now reason) (cancelled_id now reason)))
        voteId) := by
    rw [election_modify_self, hvs]
    exact .cancel hvs hopen
  obtain ⟨hinv, hproceeds, hsame, -⟩ := htouches.conclude hs hstep
    (htouches.same_of_row rfl row_mem_moving fun hfair => tally_mem_moving hfair) PUnit.unit
  exact ⟨hinv, hproceeds, hsame,
    Prog.Safe.query fun _ _ _ _ => Prog.Safe.expect fun _ _ => ⟨rfl, rfl⟩⟩

/-- A commit that writes no table but that of the proxies, and forgets none of them. -/
theorem conclude_proxies (hs : Conducted fair s)
    (hrest : ∃ f, s' = s.onVoteProxies f)
    (hkeeps : ∀ p ∈ s.voteProxies, ∃ p' ∈ s'.voteProxies,
      p'.granterPersonId = p.granterPersonId ∧ p'.proxyPersonId = p.proxyPersonId)
    (hsingle : SingleProxies s') (a : α) :
    Conducted fair s' ∧ Proceeds fair s s' ∧
      (∀ l m, Free notes l m → SameElection fair l m s s') ∧
      Clean a s' ([] : List (Lock × Mode × Store)) id := by
  obtain ⟨f, rfl⟩ := hrest
  have hproceeds : Proceeds fair s (s.onVoteProxies f) := by
    refine ⟨⟨fun _ _ h => h, fun granter proxy hproxied => ?_⟩, fun _ => Or.inl rfl⟩
    obtain ⟨p, hp, rfl, rfl⟩ := hproxied
    exact hkeeps p hp
  refine ⟨hproceeds.conducted hs hsingle, hproceeds, fun l m _ => ?_, rfl, rfl⟩
  have hvotes : ∀ id, KeepsVote id s (s.onVoteProxies f) := fun _ _ hv => hv
  exact sameElection_of_keeps hvotes (fun _ => rfl) l m

open VoteProxyRepository (granted revoked revoked_id GrantParams)

/-- A grant revokes the proxies of the unit and inserts one. -/
theorem granted_eq {params : GrantParams} : granted params now s = s.onVoteProxies fun t =>
    (t.updateMany (fun p => p.unitId = params.unitId ∧ p.isCurrent = true) (revoked now)
      (revoked_id now)).create (params.row now) (params.row_id now) := rfl

/-- A row after the replacement of a proxy. -/
theorem mem_granted {params : GrantParams} {p : VoteProxy} :
    p ∈ (granted params now s).voteProxies ↔
      (∃ p₀ ∈ s.voteProxies,
        p = if p₀.unitId = params.unitId ∧ p₀.isCurrent = true then revoked now p₀ else p₀) ∨
      p = params.row now s.voteProxies.next := by
  have hends := Table.mem_updateMany_iff (t := s.voteProxies)
    (p := fun p => p.unitId = params.unitId ∧ p.isCurrent = true) (h := revoked_id now) (r := p)
  have hbegins : p ∈ (granted params now s).voteProxies ↔
      p ∈ s.voteProxies.updateMany (fun p => p.unitId = params.unitId ∧ p.isCurrent = true)
        (revoked now) (revoked_id now) ∨ p = params.row now s.voteProxies.next :=
    Table.mem_create (h := params.row_id now)
  exact hbegins.trans (or_congr_left hends)

/-- No proxy is forgotten by a grant. -/
theorem keeps_granted {params : GrantParams} : ∀ p ∈ s.voteProxies,
    ∃ p' ∈ (granted params now s).voteProxies,
      p'.granterPersonId = p.granterPersonId ∧ p'.proxyPersonId = p.proxyPersonId := by
  intro p hp
  refine ⟨_, mem_granted.mpr (Or.inl ⟨p, hp, rfl⟩), ?_⟩
  split <;> exact ⟨rfl, rfl⟩

/-- A unit has one current proxy after a grant, as before. -/
theorem singleProxies_granted {params : GrantParams} (hs : SingleProxies s) :
    SingleProxies (granted params now s) := by
  -- a current row is the new one, or a row of another unit that was current before
  have hcases : ∀ p ∈ (granted params now s).voteProxies, p.isCurrent = true →
      (p ∈ s.voteProxies ∧ p.unitId ≠ params.unitId) ∨ p = params.row now s.voteProxies.next := by
    intro p hp hcurrent
    refine (mem_granted.mp hp).imp_left ?_
    rintro ⟨p₀, hp₀, rfl⟩
    split at hcurrent
    case isTrue hended => cases hcurrent
    case isFalse hkept =>
      rw [if_neg hkept]
      exact ⟨hp₀, fun hunit => hkept ⟨hunit, hcurrent⟩⟩
  intro p hp p' hp' hcurrent hcurrent' hunit
  rcases hcases p hp hcurrent with ⟨hmem, hne⟩ | rfl <;>
    rcases hcases p' hp' hcurrent' with ⟨hmem', hne'⟩ | rfl
  · exact hs p hmem p' hmem' hcurrent hcurrent' hunit
  · exact absurd hunit hne
  · exact absurd hunit.symm hne'
  · rfl

/-- No proxy is forgotten when one is revoked. -/
theorem keeps_revoked {id : ℕ} : ∀ p ∈ s.voteProxies,
    ∃ p' ∈ s.voteProxies.modify id (revoked now) (revoked_id now),
      p'.granterPersonId = p.granterPersonId ∧ p'.proxyPersonId = p.proxyPersonId := by
  intro p hp
  refine ⟨_, (Table.mem_modify (h := revoked_id now)).mpr ⟨p, hp, rfl⟩, ?_⟩
  split <;> exact ⟨rfl, rfl⟩

/-- A unit has one current proxy at most, when one is revoked. -/
theorem singleProxies_revoked {id : ℕ} (hs : SingleProxies s) :
    SingleProxies (s.onVoteProxies (·.modify id (revoked now) (revoked_id now))) := by
  have hcases : ∀ p ∈ s.voteProxies.modify id (revoked now) (revoked_id now),
      p.isCurrent = true → p ∈ s.voteProxies := by
    intro p hp hcurrent
    obtain ⟨p₀, hp₀, rfl⟩ := (Table.mem_modify (h := revoked_id now)).mp hp
    split at hcurrent
    case isTrue => cases hcurrent
    case isFalse hne =>
      rw [if_neg hne]
      exact hp₀
  intro p hp p' hp' hcurrent hcurrent' hunit
  exact hs p (hcases p hp hcurrent) p' (hcases p' hp' hcurrent') hcurrent hcurrent' hunit

/-- `grant` keeps the discipline. -/
theorem VoteProxyRepository.safe_grant {params : GrantParams} :
    (VoteProxyRepository.grant params now).Safe (elections fair) Clean last [] id := by
  rw [VoteProxyRepository.grant, Prog.transaction]
  exact Prog.Safe.writeUnless fun _ _ _ _ _ => Prog.Safe.commitAll fun s hs _ _ =>
    conclude_proxies hs ⟨_, granted_eq⟩ keeps_granted (singleProxies_granted hs.proxies) _

/-- `revoke` keeps the discipline. -/
theorem VoteProxyRepository.safe_revoke {proxyId : ℕ} :
    (VoteProxyRepository.revoke proxyId now).Safe (elections fair) Clean last [] id := by
  rw [VoteProxyRepository.revoke, Prog.transaction]
  exact Prog.Safe.writeIf fun _ _ _ _ _ => Prog.Safe.commitAll fun s hs _ _ =>
    conclude_proxies hs ⟨_, rfl⟩ keeps_revoked (singleProxies_revoked hs.proxies) _

end Repository

/-! ### The services -/

section Services

open VotingService
open Relational.ReadCommitted.Prog (ReadOnly)

/-- The vote is read with its options. -/
theorem safe_getVote_bind {buildingId : ℕ} {f : VoteDetail → Call β}
    (h : ∀ s v, (elections fair).Later last s → s.votes.find? voteId = some v →
      v.buildingId = buildingId →
      (f { vote := v
           options := (optionsOf s voteId).insertionSort fun o o' => o.sortOrder ≤ o'.sortOrder }).Safe
        (elections fair) post s [] id) :
    (getVote buildingId voteId >>= f).Safe (elections fair) post last [] id := by
  rw [getVote, Prog.bind_assoc]
  refine Prog.Safe.query fun s _ hlater _ => ?_
  rw [Prog.bind_assoc]
  refine Prog.Safe.expect fun detail hdetail => ?_
  obtain ⟨v, hv, rfl⟩ := Option.map_eq_some_iff.mp hdetail
  rw [Prog.bind_assoc]
  exact Prog.Safe.require fun hbuilding => h s v hlater hv hbuilding

/-- The look at the candidates writes nothing. -/
theorem readOnly_ineligibleCandidates (buildingId : ℕ) (candidates : List String) :
    (ineligibleCandidates buildingId candidates).ReadOnly := by
  induction candidates with
  | nil => trivial
  | cons candidate rest ih => exact .bind (.query _) fun _ => .bind ih fun _ => trivial

/-- Neither does their check. -/
theorem readOnly_assertCandidates (buildingId : ℕ) (candidates : List String) :
    (assertCandidates buildingId candidates).ReadOnly :=
  .bind (.bind (.require _ _) fun _ => .require _ _) fun _ =>
    .bind (readOnly_ineligibleCandidates _ _) fun _ => .require _ _

/-- Nor does that of the meeting. -/
theorem readOnly_assertMeeting (buildingId : ℕ) (meetingId meeting : Option ℕ) :
    (assertMeeting buildingId meetingId meeting).ReadOnly := by
  cases meetingId with
  | none => trivial
  | some id => exact .require _ _

/-- Nor does that of the block. -/
theorem readOnly_assertScopeBlock (buildingId : ℕ) (scopeType : VoteScopeType)
    (scopeBlockId : Option ℕ) : (assertScopeBlock buildingId scopeType scopeBlockId).ReadOnly := by
  rw [assertScopeBlock.eq_def]
  split
  · exact .bind (.query _) fun _ => .require _ _
  · trivial

/-- Nor does that of the units. -/
theorem readOnly_assertScopeUnits (buildingId : ℕ) (scopeType : VoteScopeType)
    (scopeUnitIds : List ℕ) : (assertScopeUnits buildingId scopeType scopeUnitIds).ReadOnly :=
  .ite (.bind (.query _) fun _ => .require _ _) trivial

/-- Nor does that of the scope. -/
theorem readOnly_assertValidScope (scopeType : VoteScopeType) (scopeBlockId : Option ℕ)
    (scopeUnitType : Option UnitType) (scopeUnitIds : List ℕ) :
    (VotePolicy.assertValidScope scopeType scopeBlockId scopeUnitType scopeUnitIds).ReadOnly :=
  .bind (.require _ _) fun _ => .bind (.require _ _) fun _ => .bind (.require _ _) fun _ =>
    .bind (.require _ _) fun _ => .bind (.require _ _) fun _ => .require _ _

/-- `createVote`, with its checks. -/
theorem VotingService.safe_createVote {buildingId actorPersonId : ℕ} {dto : CreateVoteDto}
    {meeting : Option ℕ} :
    (VotingService.createVote buildingId dto meeting actorPersonId now).Safe (elections fair) Clean
      last [] id := by
  rw [VotingService.createVote]
  refine Prog.Safe.query fun _ _ _ _ => Prog.Safe.expect fun _ _ => ?_
  refine .readOnly (.bind (.require _ _) fun _ => .require _ _) fun _ _ _ => ?_
  refine .require fun _ => ?_
  have hrest : ∀ last, (do
      assertMeeting buildingId dto.meetingId meeting
      VotePolicy.assertValidScope (dto.scopeType.getD .entireBuilding) dto.scopeBlockId
        dto.scopeUnitType (dto.scopeUnitIds.getD [])
      assertScopeBlock buildingId (dto.scopeType.getD .entireBuilding) dto.scopeBlockId
      assertScopeUnits buildingId (dto.scopeType.getD .entireBuilding) (dto.scopeUnitIds.getD [])
      VotingRepository.createVote (dto.params buildingId actorPersonId) : Call PUnit).Safe
        (elections fair) Clean last [] id := fun last =>
    .readOnly (readOnly_assertMeeting _ _ _) fun _ _ _ =>
      .readOnly (readOnly_assertValidScope _ _ _ _) fun _ _ _ =>
      .readOnly (readOnly_assertScopeBlock _ _ _) fun _ _ _ =>
      .readOnly (readOnly_assertScopeUnits _ _ _) fun _ _ _ => VotingRepository.safe_createVote
  dsimp only
  split
  · exact .readOnly (readOnly_assertCandidates _ _) fun _ _ _ => hrest _
  · exact hrest _

/-- `publishVote`, with its checks. -/
theorem VotingService.safe_publishVote {buildingId : ℕ} :
    (VotingService.publishVote buildingId voteId now).Safe (elections fair) Clean last [] id := by
  rw [VotingService.publishVote]
  refine safe_getVote_bind fun s v _ hv hbuilding => ?_
  refine .readOnly (.bind (.require _ _) fun _ => .require _ _) fun _ _ hlater => ?_
  refine Prog.Safe.query fun s' _ hlater' _ => ?_
  obtain ⟨v', hv', hterms, -⟩ := (fixed_later (hlater.trans hlater') voteId).vote v hv
  have hsame : v'.buildingId = buildingId := by
    rw [← hbuilding]
    change (terms v').buildingId = (terms v).buildingId
    rw [hterms]
  exact hsame ▸ VotingRepository.safe_publishVote hv'

/-- Who votes in place of another has been granted a proxy. -/
theorem safe_proxyMatch_bind {eligiblePersonId actorPersonId : ℕ} {f : Bool → Call β}
    (h : ∀ s isProxyMatch, (elections fair).Later last s →
      (isProxyMatch = true → (register s).proxied eligiblePersonId actorPersonId) →
        (f isProxyMatch).Safe (elections fair) post s [] id) :
    (proxyMatch eligiblePersonId actorPersonId >>= f).Safe (elections fair) post last [] id := by
  rw [proxyMatch, Prog.ite_bind]
  split
  · exact h last false (.refl _) fun hfalse => by cases hfalse
  · refine Prog.Safe.query fun s _ hlater _ => h s _ hlater fun hproxy => ?_
    obtain ⟨p, hp, hproxied⟩ := List.any_eq_true.mp hproxy
    have hproxied := of_decide_eq_true hproxied
    exact ⟨p, hp, hproxied.1, hproxied.2.1⟩

/-- A vote that ballots are cast on is published, and stays so. -/
theorem VotingService.safe_castBallot {buildingId actorPersonId : ℕ} {dto : CastBallotDto} :
    (VotingService.castBallot buildingId voteId dto actorPersonId now).Safe (elections fair) Clean
      last [] id := by
  rw [VotingService.castBallot]
  refine safe_getVote_bind fun s v _ hv _ => ?_
  rw [VotePolicy.assertOpenForBallots, Prog.bind_assoc]
  refine .require fun hactive => ?_
  refine .require fun _ => ?_
  refine Prog.Safe.query fun s₁ _ hlater₁ _ => Prog.Safe.expect fun unit _ => .require fun _ => ?_
  refine Prog.Safe.query fun s₂ _ hlater₂ _ => Prog.Safe.expect fun x hx => ?_
  refine safe_proxyMatch_bind fun s₃ isProxyMatch hlater₃ hproxy => ?_
  refine .require fun heligible => Prog.Safe.query fun s₄ _ hlater₄ _ => .require fun _ => ?_
  refine .require fun hoption => .require fun hcandidate => ?_
  rw [VotingService.createBallot]
  refine Prog.Safe.tryCatch ?_ fun _ _ => trivial
  -- the vote, its options and its electorate are still what they were
  have hopen : v.status ≠ .draft := by
    rw [hactive]
    decide
  have hlater := ((hlater₁.trans hlater₂).trans hlater₃).trans hlater₄
  have hfixed := fixed_later hlater voteId
  obtain ⟨v₂, hv₂, -, hopen₂⟩ := (fixed_later (hlater₁.trans hlater₂) voteId).vote v hv
  have hfixed₂ := fixed_later (hlater₃.trans hlater₄) voteId
  obtain ⟨v₄, hv₄, hterms, hopen₄⟩ := hfixed.vote v hv
  refine VotingRepository.safe_createBallot hv₄ (hopen₄ hopen) fun id => ⟨?_, x, ?_, ?_, ?_, ?_⟩
  · obtain ⟨o, ho, hid⟩ := List.any_eq_true.mp hoption
    rw [hfixed.options v hv]
    exact ⟨o, (List.mem_insertionSort _).mp ho, of_decide_eq_true hid⟩
  · rw [hfixed₂.snapshots v₂ hv₂ (hopen₂ hopen)]
    exact List.mem_of_find?_eq_some hx
  · exact of_decide_eq_true (List.find?_some
      (p := fun e : VoteEligibilitySnapshot => decide (e.unitId = dto.unitId)) hx)
  · exact heligible.imp of_decide_eq_true fun hproxied =>
      (follows_later hlater₄).1.proxied _ _ (hproxy hproxied)
  · intro helection o ho hvalue
    have hsame : v₄.isManagerElection = v.isManagerElection := by
      change (terms v₄).isManagerElection = (terms v).isManagerElection
      rw [hterms]
    refine hcandidate ⟨hsame ▸ helection, hvalue ▸ List.mem_map_of_mem ?_⟩
    rw [hfixed.options v hv] at ho
    exact (List.mem_insertionSort _).mpr ho

/-- `cancelVote`, with its checks. -/
theorem VotingService.safe_cancelVote {buildingId : ℕ} {reason : Option String} :
    (VotingService.cancelVote buildingId voteId reason now).Safe (elections fair) Clean last []
      id := by
  rw [VotingService.cancelVote]
  refine safe_getVote_bind fun s v _ hv _ => ?_
  exact .require fun hopen => VotingRepository.safe_cancelVote hopen

/-- A write of memberships leaves the elections alone. -/
theorem elsewhere_onMemberships {f : Table Membership Membership.id → Table Membership Membership.id} :
    Elsewhere s (s.onMemberships f) :=
  ⟨rfl, rfl, rfl, rfl, rfl, rfl, fun _ _ h => h⟩

/-- So does one of buildings. -/
theorem elsewhere_onBuildings {f : Table Building Building.id → Table Building Building.id} :
    Elsewhere s (s.onBuildings f) :=
  ⟨rfl, rfl, rfl, rfl, rfl, rfl, fun _ _ h => h⟩

/-- A change of the manager writes nothing of an election. -/
theorem leaves_changeManager (params : BuildingRepository.ChangeManagerParams) :
    (BuildingService.changeManager params now).Leaves Elsewhere (electionLock true) := by
  rw [BuildingService.changeManager]
  have hunlocked : ∀ (l : Lock), electionLock true l = false →
      ∀ l' ∈ [(l, Mode.exclusive)], electionLock true l'.1 = false := by
    intro l hl l' hl'
    rw [List.mem_singleton.mp hl']
    exact hl
  refine .bind (.bind (.query Elsewhere.refl _) fun _ => .expect _ _) fun _ => ?_
  refine .bind (.query Elsewhere.refl _) fun _ => .bind (.require _ _) fun _ => ?_
  refine .bind (.query Elsewhere.refl _) fun _ => .bind (.require _ _) fun _ => ?_
  refine .transaction (.bind (.queryUnder Elsewhere.refl fun _ => hunlocked _ rfl) fun current => ?_)
  have hretire : (BuildingRepository.retireManager now current).Leaves Elsewhere
      (electionLock true) := by
    cases current with
    | none => trivial
    | some m => exact .writeIf (hunlocked _ rfl) fun _ => elsewhere_onMemberships
  refine .bind hretire fun _ => .bind (.writeUnless (fun _ hl => absurd hl List.not_mem_nil)
    fun _ => elsewhere_onMemberships) fun _ => ?_
  split
  · exact .writeIf (hunlocked _ rfl) fun _ => elsewhere_onBuildings
  · trivial

/-- The hand-over leaves the elections alone. -/
theorem leaves_electManager {buildingId : ℕ} {value : String} {assignedById : Option ℕ} :
    (electManager buildingId value assignedById now).Leaves Elsewhere (electionLock true) := by
  rw [electManager.eq_def]
  split
  · exact leaves_changeManager _
  · exact Prog.Leaves.require _ _

/-- What a change of the manager did is committed when it is done. -/
theorem concludes_changeManager (params : BuildingRepository.ChangeManagerParams)
    (concluded : Bool) : (BuildingService.changeManager params now).Concludes concluded := by
  rw [BuildingService.changeManager]
  refine .bind (fun _ concluded => .bind (fun _ concluded => .bind (fun _ concluded => ?_) _ concluded)
    _ concluded) _ concluded
  exact .bind (fun _ concluded => .bind (fun _ concluded => .transaction _ concluded) _ concluded)
    _ concluded

/-- The hand-over ends with nothing pending. -/
theorem concludes_electManager {buildingId : ℕ} {value : String} {assignedById : Option ℕ} :
    (electManager buildingId value assignedById now).Concludes true := by
  rw [electManager.eq_def]
  split
  · exact concludes_changeManager _ _
  · exact trivial

/-- The hand-over keeps the discipline, also when it fails. -/
theorem safe_handOver {buildingId : ℕ} {winningOption : Option VoteOption}
    {assignedById : Option ℕ} :
    (VotingService.handOver buildingId winningOption assignedById now).Safe (elections fair) Clean
      last [] id := by
  rw [VotingService.handOver.eq_def]
  split
  · refine Prog.Safe.tryCatch ?_ fun _ _ => ⟨rfl, rfl⟩
    exact (safe_of_leaves leaves_electManager).clean concludes_electManager fun _ => ⟨rfl, rfl⟩
  · exact ⟨rfl, rfl⟩

/-- `closeVote`, with the hand-over. -/
theorem VotingService.safe_closeVote {buildingId : ℕ} {actorPersonId : Option ℕ} :
    (VotingService.closeVote buildingId voteId actorPersonId now).Safe (elections fair) Clean last []
      id := by
  rw [VotingService.closeVote]
  refine safe_getVote_bind fun s v _ hv _ => ?_
  exact .require fun _ => (VotingRepository.safe_closeVote hv).bind_clean fun _ _ => safe_handOver

/-- `runAutoPublish`: one vote after the other. -/
theorem VotingService.safe_runAutoPublish :
    (VotingService.runAutoPublish now).Safe (elections fair) Clean last [] id := by
  rw [VotingService.runAutoPublish]
  refine Prog.Safe.query fun s _ _ _ => .forEach (fun v _ last => ?_) s
  exact Prog.Safe.tryCatch VotingService.safe_publishVote fun _ _ => ⟨rfl, rfl⟩

/-- `runAutoClose`: one vote after the other. -/
theorem VotingService.safe_runAutoClose :
    (VotingService.runAutoClose now).Safe (elections fair) Clean last [] id := by
  rw [VotingService.runAutoClose]
  refine Prog.Safe.query fun s _ _ _ => .forEach (fun v _ last => ?_) s
  exact Prog.Safe.tryCatch VotingService.safe_closeVote fun _ _ => ⟨rfl, rfl⟩

/-- The look at the unit writes nothing. -/
theorem readOnly_getOwnUnit (buildingId unitId : ℕ) :
    (VoteProxyService.getOwnUnit buildingId unitId).ReadOnly :=
  .bind (.query _) fun _ => .bind (.expect _ _) fun _ => .bind (.require _ _) fun _ => trivial

/-- Neither does that at who votes for it. -/
theorem readOnly_findLiveEligibleVoterForUnit (unitId : ℕ) (allowTenantVoting : Bool) :
    (VoteProxyService.findLiveEligibleVoterForUnit unitId allowTenantVoting).ReadOnly := by
  refine .bind ?_ fun tenants => ?_
  · rw [VoteProxyService.votingTenants]
    split
    · exact .query _
    · trivial
  · rw [VoteProxyService.soleVoter.eq_def]
    split
    · trivial
    · exact .bind (.query _) fun _ => trivial

/-- `grant`, with its checks. -/
theorem VoteProxyService.safe_grant {buildingId unitId proxyPersonId actorPersonId : ℕ} :
    (VoteProxyService.grant buildingId unitId proxyPersonId actorPersonId now).Safe (elections fair)
      Clean last [] id := by
  rw [VoteProxyService.grant]
  refine .readOnly (readOnly_getOwnUnit _ _) fun _ _ _ => .readOnly (.query _) fun _ _ _ => ?_
  refine .readOnly (readOnly_findLiveEligibleVoterForUnit _ _) fun _ _ _ => ?_
  refine .require fun _ => .require fun _ => .readOnly (.query _) fun _ _ _ => .require fun _ => ?_
  exact VoteProxyRepository.safe_grant

/-- `revoke`, with its checks. -/
theorem VoteProxyService.safe_revoke {buildingId unitId actorPersonId : ℕ} :
    (VoteProxyService.revoke buildingId unitId actorPersonId now).Safe (elections fair) Clean last []
      id := by
  rw [VoteProxyService.revoke]
  refine .readOnly (readOnly_getOwnUnit _ _) fun _ _ _ => .readOnly (.query _) fun _ _ _ => ?_
  exact .readOnly (.expect _ _) fun _ _ _ => .require fun _ => VoteProxyRepository.safe_revoke

end Services

/-! ### Runs -/

/-- A call about votes or proxies, or one that writes nothing of an election. -/
inductive ElectionCall
  | createVote (buildingId : ℕ) (dto : VotingService.CreateVoteDto) (meeting : Option ℕ)
      (actorPersonId : ℕ) (now : Time)
  | publishVote (buildingId voteId : ℕ) (now : Time)
  | castBallot (buildingId voteId : ℕ) (dto : VotingService.CastBallotDto) (actorPersonId : ℕ)
      (now : Time)
  | closeVote (buildingId voteId : ℕ) (actorPersonId : Option ℕ) (now : Time)
  | cancelVote (buildingId voteId : ℕ) (reason : Option String) (now : Time)
  | runAutoPublish (now : Time)
  | runAutoClose (now : Time)
  | grant (buildingId unitId proxyPersonId actorPersonId : ℕ) (now : Time)
  | revoke (buildingId unitId actorPersonId : ℕ) (now : Time)
  | elsewhere (call : Call PUnit) (leaves : call.Leaves Elsewhere (electionLock true))

/-- The method that the call is made to. -/
def ElectionCall.call : ElectionCall → Call PUnit
  | createVote buildingId dto meeting actorPersonId now =>
    VotingService.createVote buildingId dto meeting actorPersonId now
  | publishVote buildingId voteId now => VotingService.publishVote buildingId voteId now
  | castBallot buildingId voteId dto actorPersonId now =>
    VotingService.castBallot buildingId voteId dto actorPersonId now
  | closeVote buildingId voteId actorPersonId now =>
    VotingService.closeVote buildingId voteId actorPersonId now
  | cancelVote buildingId voteId reason now => VotingService.cancelVote buildingId voteId reason now
  | runAutoPublish now => VotingService.runAutoPublish now
  | runAutoClose now => VotingService.runAutoClose now
  | grant buildingId unitId proxyPersonId actorPersonId now =>
    VoteProxyService.grant buildingId unitId proxyPersonId actorPersonId now
  | revoke buildingId unitId actorPersonId now =>
    VoteProxyService.revoke buildingId unitId actorPersonId now
  | elsewhere call _ => call

/-- Every call keeps the discipline. -/
theorem ElectionCall.safe (c : ElectionCall) (last : Store) :
    c.call.Safe (elections fair) (fun _ _ _ _ => True) last [] id := by
  cases c with
  | createVote => exact VotingService.safe_createVote.mono fun _ _ _ _ _ => trivial
  | publishVote => exact VotingService.safe_publishVote.mono fun _ _ _ _ _ => trivial
  | castBallot => exact VotingService.safe_castBallot.mono fun _ _ _ _ _ => trivial
  | closeVote => exact VotingService.safe_closeVote.mono fun _ _ _ _ _ => trivial
  | cancelVote => exact VotingService.safe_cancelVote.mono fun _ _ _ _ _ => trivial
  | runAutoPublish => exact VotingService.safe_runAutoPublish.mono fun _ _ _ _ _ => trivial
  | runAutoClose => exact VotingService.safe_runAutoClose.mono fun _ _ _ _ _ => trivial
  | grant => exact VoteProxyService.safe_grant.mono fun _ _ _ _ _ => trivial
  | revoke => exact VoteProxyService.safe_revoke.mono fun _ _ _ _ _ => trivial
  | elsewhere call leaves => exact safe_of_leaves leaves

/-- The elections after an orderly run. -/
theorem conducted_run {ι : Type} [DecidableEq ι] (hs : Conducted fair s) (calls : ι → ElectionCall)
    {es : List (Event ι Failure)}
    (horderly : Relational.EachStep (Database.next Lock.enforced)
      (Database.Orderly Lock.enforced (electionLock fair))
      (Database.start s fun i => (calls i).call) es) :
    let s' := (runCalls s (fun i => (calls i).call) es).store
    Conducted fair s' ∧ ∀ voteId,
      Election.Follows fair (register s') (election s voteId) (election s' voteId) := by
  have hrun := Database.safe_run hs (fun i => (calls i).safe s) horderly
  exact ⟨hrun.1, (follows_later hrun.2).2⟩

/-- Outside fair runs only locks of the database are kept. -/
theorem enforced_of_electionLock (l : Lock) (hl : electionLock false l = true) :
    l.enforced = true := by
  unfold electionLock at hl
  split at hl
  · rfl
  · rfl
  · cases hl
  · cases hl

/-- Whatever the calls do, and in whatever order they take their steps: every election moves by the
steps of `Election.Step`, with a result that counts the ballots up to one of them. So there is a
result exactly when the vote is closed, at most one ballot for each eligible unit, and never more
ballots than eligible units. -/
theorem elections_of_calls {ι : Type} [DecidableEq ι] (hs : Conducted false s)
    (calls : ι → ElectionCall) (es : List (Event ι Failure)) :
    let s' := (runCalls s (fun i => (calls i).call) es).store
    (∀ voteId, Election.Follows false (register s') (election s voteId) (election s' voteId) ∧
      (election s' voteId).Valid false (register s') ∧
      (∀ r ∈ (election s' voteId).results, r.totalBallotCount ≤ r.totalEligibleCount)) ∧
    SingleProxies s' := by
  have hrun := conducted_run hs calls
    (Database.eachStep_orderly_of_enforced enforced_of_electionLock _ es)
  exact ⟨fun voteId => ⟨hrun.2 voteId, hrun.1.valid voteId,
    fun r hr => (hrun.1.valid voteId).totalBallotCount_le hr⟩, hrun.1.proxies⟩

/-- The event is no read of a status for a ballot while another call moves the status, and no move
of the status between such a read and its ballot. -/
abbrev Awaiting {ι α : Type} [DecidableEq ι] (d : Sessions ι α) (e : Event ι Failure) : Prop :=
  d.Orderly Lock.enforced (electionLock true) e

/-- As long as nobody moves the status of a vote between the read of it for a ballot and the commit
of the ballot, ballots are only cast on active votes, and the result of a closed vote is that of all
the ballots there are. -/
theorem allCounted_of_awaiting {ι : Type} [DecidableEq ι] (hs : Conducted true s)
    (calls : ι → ElectionCall) (es : List (Event ι Failure))
    (hes : EachStep (Database.next Lock.enforced) Awaiting
      (Database.start s fun i => (calls i).call) es) :
    let s' := (runCalls s (fun i => (calls i).call) es).store
    ∀ voteId, Election.Follows true (register s') (election s voteId) (election s' voteId) ∧
      ∀ v, s'.votes.find? voteId = some v → v.status = .closed → ∃ publishedAt id,
        resultsOf s' voteId = [(computedResult voteId v.quorumPercent (snapshotsOf s' voteId).length
          (VotingRepository.optionValue s') (ballotsOf s' voteId)).row publishedAt id] := by
  intro s' voteId
  have hrun := conducted_run hs calls hes
  refine ⟨hrun.2 voteId, fun v hv hclosed => ?_⟩
  have hvalid := hrun.1.valid voteId
  obtain ⟨r, hr, counted, later, publishedAt, id, hballots, hlater, rfl⟩ :=
    hvalid.result v hv hclosed
  refine ⟨publishedAt, id, ?_⟩
  have hall : ballotsOf s' voteId = counted := by
    have hsplit : ballotsOf s' voteId = counted ++ later := hballots
    rw [hsplit, hlater rfl, List.append_nil]
  have hid : v.id = voteId := Table.key_of_find? hv
  have hvalue : ∀ b ∈ ballotsOf s' voteId, VotingRepository.optionValue s' b.selectedOptionId =
      (election s' voteId).optionValue b.selectedOptionId :=
    fun b hb => optionValue_eq (hvalid.entitled v hv b hb).option
  have hcomputed := computedResult_congr voteId v.quorumPercent (snapshotsOf s' voteId).length hvalue
  rw [hcomputed, hall, ← hid]
  exact hid ▸ hr

/-! ### A vote about the roof -/

/-- The elections of a store without votes. -/
theorem conducted_of_none (hvotes : s.votes.rows = []) (hoptions : s.voteOptions.rows = [])
    (hsnapshots : s.snapshots.rows = []) (hballots : s.ballots.rows = [])
    (hresults : s.voteResults.rows = []) (hproxies : s.voteProxies.rows = []) :
    Conducted fair s := by
  refine ⟨fun voteId => ?_, fun p hp => ?_⟩
  · have hnothing : election s voteId = .nothing := by
      unfold election optionsOf snapshotsOf ballotsOf resultsOf Table.find?
      rw [hvotes, hoptions, hsnapshots, hballots, hresults]
      rfl
    rw [hnothing]
    exact Election.valid_nothing
  · have hmem : p ∈ s.voteProxies.rows := hp
    rw [hproxies] at hmem
    cases hmem

/-- A home with an owner. -/
def ownedHome : Store := (BuildingService.claimOwnership 0 0 0 1).exec invitedHome

/-- A vote that is open until 9. -/
def roofVote : Store :=
  (ElectionCall.publishVote 0 0 2).call.exec
    ((ElectionCall.createVote 0 { title := "Roof", startAt := 2, endAt := 9 } none 0 1).call.exec
      ownedHome)

/-- The vote about the roof is conducted as it should be. -/
theorem conducted_roofVote : Conducted fair roofVote := by
  have hs : Conducted fair ownedHome := conducted_of_none rfl rfl rfl rfl rfl rfl
  exact Prog.Safe.inv_exec (D := elections fair) (ElectionCall.safe _ _)
    (Prog.Safe.inv_exec (D := elections fair) (ElectionCall.safe _ _) hs)

/-- The owner votes while the vote is closed. -/
def castAndClose (i : Fin 2) : ElectionCall :=
  if i = 0 then .castBallot 0 0 { unitId := 0, selectedOptionId := 0 } 0 3
  else .closeVote 0 0 none 3

/-- The vote is closed between the last look at its status and the ballot. -/
def castDuringClose : List (Event (Fin 2) Failure) :=
  List.replicate 6 (.step 0) ++ List.replicate 9 (.step 1) ++ List.replicate 3 (.step 0)

/-- The ballot is committed, and the result does not count it. -/
theorem ballot_after_close :
    let s' := (runCalls roofVote (fun i => (castAndClose i).call) castDuringClose).store
    ((ballotsOf s' 0).length = 1 ∧
      (resultsOf s' 0).map Community.VoteResult.totalBallotCount = [0]) ∧
    (∀ voteId, Election.Follows false (register s') (election roofVote voteId)
        (election s' voteId) ∧
      (election s' voteId).Valid false (register s') ∧
      (∀ r ∈ (election s' voteId).results, r.totalBallotCount ≤ r.totalEligibleCount)) ∧
    SingleProxies s' :=
  ⟨by decide +kernel, elections_of_calls conducted_roofVote castAndClose castDuringClose⟩

/-- The vote is closed after the ballot is committed. -/
def castThenClose : List (Event (Fin 2) Failure) :=
  List.replicate 9 (.step 0) ++ List.replicate 9 (.step 1)

/-- The ballot is committed, and the result counts it. -/
theorem ballot_before_close :
    let s' := (runCalls roofVote (fun i => (castAndClose i).call) castThenClose).store
    ((ballotsOf s' 0).length = 1 ∧
      (resultsOf s' 0).map Community.VoteResult.totalBallotCount = [1]) ∧
    ∀ voteId, Election.Follows true (register s') (election roofVote voteId) (election s' voteId) ∧
      ∀ v, s'.votes.find? voteId = some v → v.status = .closed → ∃ publishedAt id,
        resultsOf s' voteId = [(computedResult voteId v.quorumPercent (snapshotsOf s' voteId).length
          (VotingRepository.optionValue s') (ballotsOf s' voteId)).row publishedAt id] :=
  ⟨by decide +kernel,
    allCounted_of_awaiting conducted_roofVote castAndClose castThenClose (by decide +kernel)⟩

end VielHome.Governance
