import VielHome.Governance.ElectionCalls
import VielHome.Relational.Leads

/-!
# The scheduled publications and closings

A sweep goes through the votes that were due when it started, and goes on when one of them fails.
Here a sweep runs alone. It leaves none of the votes undone that can be done: every draft that is due
and has two options is published with its electorate, and every active vote that is past its end is
closed with a result that counts all its ballots. The other elections stay as they are.
-/

namespace VielHome.Governance

open Relational Community Building
open VotingRepository (EligibleUnit createSnapshots createResult electorate moveVote ownersOf
  published published_id closed closed_id tenantsOf unitsInScope)
open Relational.ReadCommitted (Prog)
open Relational.ReadCommitted.Prog (Leads)

variable {fair : Bool} {s s' c w : Store} {voteId buildingId : ℕ} {now : Time} {v : Vote} {β : Type}

/-! ### What a sweep makes of an election -/

/-- The units that the vote would be published with, and who votes for each. -/
def electorateOf (s : Store) (v : Vote) : List EligibleUnit :=
  electorate (s.allowTenantVoting v.buildingId) (ownersOf s) (tenantsOf s)
    (unitsInScope v v.buildingId s)

/-- The election is published if it is due. -/
inductive AutoPublished (s : Store) (now : Time) (e : Election) : Election → Prop
  | published {v : Vote} {snapshots : List VoteEligibilitySnapshot} (hvote : e.vote = some v)
      (hdraft : v.status = .draft) (hdue : v.startAt ≤ now) (hoptions : 2 ≤ e.options.length)
      (helectorate : snapshots.map eligibility = electorateOf s v) :
      AutoPublished s now e { e with vote := some (published now v), snapshots }
  | unchanged (h : ∀ v, e.vote = some v → v.status = .draft → v.startAt ≤ now →
      e.options.length < 2) : AutoPublished s now e e

/-- The election is closed if it is due. -/
inductive AutoClosed (now : Time) (e : Election) : Election → Prop
  | closed {v : Vote} {id : ℕ} (hvote : e.vote = some v) (hactive : v.status = .active)
      (hdue : v.endAt ≤ now) :
      AutoClosed now e
        { e with
          vote := some (closed now v)
          results := [(computedResult v.id v.quorumPercent e.snapshots.length e.optionValue
            e.ballots).row now id] }
  | unchanged (h : ∀ v, e.vote = some v → v.status = .active → ¬ v.endAt ≤ now) :
      AutoClosed now e e

/-! ### The calls, alone -/

/-- A vote in the expected status is moved. -/
theorem solo_moveVote_bind {status : VoteStatus} {error : Failure} {f : Vote → Vote}
    {h : ∀ v, (f v).id = v.id} {g : PUnit → Call β} (hv : w.votes.find? voteId = some v)
    (hstatus : v.status = status) :
    (moveVote voteId status error f h >>= g).solo c w =
      (g ⟨⟩).solo c (w.onVotes (·.modify voteId f h)) := by
  have hfound : ((w.votes.find? voteId).any fun v => v.status = status) = true := by
    rw [hv, Option.any_some]
    exact decide_eq_true hstatus
  rw [moveVote, Prog.bind_assoc]
  change ((Prog.require _ _ >>= _) >>= g).solo c w = _
  rw [Prog.bind_assoc, Prog.require_bind, if_pos hfound, Prog.solo_writeIf_bind, if_pos hfound]

theorem find?_moved {f : Vote → Vote} {h : ∀ v, (f v).id = v.id}
    (hv : w.votes.find? voteId = some v) :
    (w.onVotes (·.modify voteId f h)).votes.find? voteId = some (f v) :=
  Table.find?_modify_self (h := h) hv

/-- A transaction that does not fail commits what it did. -/
theorem solo_transaction_of_ok {p : Call β} {b : β} {w' : Store}
    (h : p.solo c w = (.ok b, c, w')) : (Prog.transaction p).solo c w = (.ok b, w', w') := by
  rw [Prog.solo_transaction, h]

/-- A draft without snapshots is published together with its electorate. -/
theorem VotingRepository.solo_publishVote (hv : s.votes.find? voteId = some v)
    (hdraft : v.status = .draft) (hempty : snapshotsOf s voteId = []) (now : Time) :
    let s' := createSnapshots voteId (electorateOf s v)
      (s.onVotes (·.modify voteId (published now) (published_id now)))
    (VotingRepository.publishVote voteId v.buildingId (s.allowTenantVoting v.buildingId) now).solo
      s s = (.ok ⟨⟩, s', s') := by
  intro s'
  rw [VotingRepository.publishVote]
  refine solo_transaction_of_ok ?_
  rw [solo_moveVote_bind hv hdraft, Prog.solo_query_bind, Prog.solo_expect_bind, find?_moved hv]
  dsimp only
  rw [Prog.solo_query_bind, Prog.solo_query_bind, Prog.solo_query_bind]
  have hsame : snapshotsOf (s.onVotes (·.modify voteId (published now) (published_id now))) voteId =
      [] := hempty
  rw [Prog.solo_writeUnless, hsame]
  simp only [List.any_nil, List.any_eq_true, Bool.false_eq_true, and_false, exists_false, if_false]
  rfl

/-- A vote without a result is closed together with its result. -/
theorem VotingRepository.solo_closeVote (hv : s.votes.find? voteId = some v)
    (hactive : v.status = .active) (hempty : resultsOf s voteId = []) (quorumPercent : Option ℤ)
    (now : Time) :
    let params := computedResult voteId quorumPercent (snapshotsOf s voteId).length
      (VotingRepository.optionValue s) (ballotsOf s voteId)
    let s' := createResult params now (s.onVotes (·.modify voteId (closed now) (closed_id now)))
    (VotingRepository.closeVote voteId quorumPercent now).solo s s = (.ok params, s', s') := by
  intro params s'
  rw [VotingRepository.closeVote]
  refine solo_transaction_of_ok ?_
  rw [solo_moveVote_bind hv hactive, Prog.solo_query_bind, Prog.solo_query_bind,
    Prog.solo_query_bind, Prog.solo_expect_bind, find?_moved hv]
  dsimp only
  have hsame : resultsOf (s.onVotes (·.modify voteId (closed now) (closed_id now))) voteId = [] :=
    hempty
  rw [Prog.solo_writeUnless_bind, hsame, if_pos rfl]
  rfl

theorem solo_getVote_bind {f : VoteDetail → Call β} (hv : w.votes.find? voteId = some v) :
    (VotingService.getVote v.buildingId voteId >>= f).solo c w =
      (f { vote := v
           options := (optionsOf w voteId).insertionSort fun o o' => o.sortOrder ≤ o'.sortOrder }).solo
        c w := by
  rw [VotingService.getVote, Prog.bind_assoc, Prog.solo_query_bind, VotingRepository.findVoteById, hv,
    Option.map_some, Prog.bind_assoc, Prog.solo_expect_bind]
  dsimp only
  rw [Prog.bind_assoc, Prog.require_bind, if_pos rfl]
  rfl

/-- A due draft is published if it has two options. -/
theorem solo_publishVote (hv : s.votes.find? voteId = some v) (hdraft : v.status = .draft)
    (hempty : snapshotsOf s voteId = []) (hoptions : 2 ≤ (optionsOf s voteId).length) (now : Time) :
    let s' := createSnapshots voteId (electorateOf s v)
      (s.onVotes (·.modify voteId (published now) (published_id now)))
    (VotingService.publishVote v.buildingId voteId now).solo s s = (.ok ⟨⟩, s', s') := by
  intro s'
  rw [VotingService.publishVote, solo_getVote_bind hv, VotePolicy.assertPublishable, Prog.bind_assoc,
    Prog.require_bind, if_pos hdraft, Prog.require_bind, if_pos, Prog.solo_query_bind]
  · exact VotingRepository.solo_publishVote hv hdraft hempty now
  · rw [List.length_insertionSort]
    omega

/-- And refused if it has not. -/
theorem solo_publishVote_of_lt (hv : s.votes.find? voteId = some v) (hdraft : v.status = .draft)
    (hoptions : (optionsOf s voteId).length < 2) (now : Time) :
    (VotingService.publishVote v.buildingId voteId now).solo s s =
      (.error (.businessRuleViolation
        "A vote needs at least two options before it can be published."), s, s) := by
  rw [VotingService.publishVote, solo_getVote_bind hv, VotePolicy.assertPublishable, Prog.bind_assoc,
    Prog.require_bind, if_pos hdraft, Prog.require_bind, if_neg]
  · rfl
  · rw [List.length_insertionSort]
    omega

/-! ### A turn of a sweep -/

/-- A sweep of publications, with what is left of it. -/
structure Publishing (s : Store) (now : Time) (left : List Vote) (c : Store) : Prop where
  same : c = { s with votes := c.votes, snapshots := c.snapshots }
  nodup : (left.map Vote.id).Nodup
  due : ∀ v ∈ left, v ∈ s.votes ∧ v.status = .draft ∧ v.startAt ≤ now
  untouched : ∀ v ∈ left, election c v.id = election s v.id
  done : ∀ voteId, voteId ∉ left.map Vote.id →
    AutoPublished s now (election s voteId) (election c voteId)

/-- What the election is after its publication, as the sweep promises it. -/
theorem autoPublished_of_due (hv : s.votes.find? voteId = some v) (hdraft : v.status = .draft)
    (hdue : v.startAt ≤ now) (hoptions : 2 ≤ (optionsOf s voteId).length)
    (hempty : snapshotsOf s voteId = []) (hc : election c voteId = election s voteId)
    (helectorate : electorateOf c v = electorateOf s v) :
    AutoPublished s now (election s voteId)
      (election (createSnapshots voteId (electorateOf c v)
        (c.onVotes (·.modify voteId (published now) (published_id now)))) voteId) := by
  have hnone : snapshotsOf c voteId = [] := (congrArg Election.snapshots hc).trans hempty
  have hvote : c.votes.find? voteId = some v := (congrArg Election.vote hc).trans hv
  obtain ⟨rows, hrows, hself⟩ := election_published hvote hnone (electorateOf c v) now
  rw [hself, hc]
  exact .published hv hdraft hdue hoptions (hrows.trans helectorate)

/-- The vote whose turn it is gets published if it can be. -/
theorem Publishing.turn {rest : List Vote} (hs : Conducted fair s)
    (h : Publishing s now (v :: rest) c) :
    (Prog.tryCatch (VotingService.publishVote v.buildingId v.id now) fun _ => pure ⟨⟩).Leads
      (fun _ c' w' => c' = w' ∧ Publishing s now rest c') (fun _ => False) c c := by
  obtain ⟨hmem, hdraft, hdue⟩ := h.due v List.mem_cons_self
  have hc : election c v.id = election s v.id := h.untouched v List.mem_cons_self
  have hv : s.votes.find? v.id = some v := Table.find?_of_mem hmem
  have hvc : c.votes.find? v.id = some v := (congrArg Election.vote hc).trans hv
  have hoptions : optionsOf c v.id = optionsOf s v.id := congrArg Election.options hc
  have hnodup := List.nodup_cons.mp h.nodup
  have hrest : ∀ u ∈ rest, u.id ≠ v.id := fun u hu heq =>
    hnodup.1 (heq ▸ List.mem_map_of_mem hu)
  by_cases htwo : 2 ≤ (optionsOf s v.id).length
  · have hempty : snapshotsOf s v.id = [] := ((hs.valid v.id).draft v hv hdraft).1
    have hemptyc : snapshotsOf c v.id = [] := (congrArg Election.snapshots hc).trans hempty
    have hsolo := solo_publishVote hvc hdraft hemptyc (hoptions ▸ htwo) now
    refine Leads.of_solo (by rw [Prog.solo_tryCatch, hsolo]) ⟨rfl, ?_⟩
    have helsewhere : ∀ id, id ≠ v.id → election (createSnapshots v.id (electorateOf c v)
        (c.onVotes (·.modify v.id (published now) (published_id now)))) id = election c id :=
      fun id hid => (election_createSnapshots_ne hid).trans (election_modify_ne hid)
    have helectorate : electorateOf c v = electorateOf s v := by
      rw [h.same]
      rfl
    refine ⟨?_, hnodup.2, fun u hu => h.due u (List.mem_cons_of_mem _ hu), fun u hu => ?_,
      fun voteId hvoteId => ?_⟩
    · generalize electorateOf c v = eligible
      conv_lhs => rw [h.same]
      rfl
    · exact (helsewhere u.id (hrest u hu)).trans (h.untouched u (List.mem_cons_of_mem _ hu))
    · by_cases hself : voteId = v.id
      · rw [hself]
        exact autoPublished_of_due hv hdraft hdue htwo hempty hc helectorate
      · rw [helsewhere voteId hself]
        exact h.done voteId (by simpa [hself] using hvoteId)
  · have hlt : (optionsOf s v.id).length < 2 := Nat.lt_of_not_le htwo
    have hsolo := solo_publishVote_of_lt hvc hdraft (hoptions ▸ hlt) now
    have hskip : (Prog.tryCatch (VotingService.publishVote v.buildingId v.id now) fun _ =>
        pure ⟨⟩).solo c c = (.ok ⟨⟩, c, c) := by
      rw [Prog.solo_tryCatch, hsolo]
      rfl
    refine Leads.of_solo hskip ⟨rfl, ?_⟩
    refine ⟨h.same, hnodup.2, fun u hu => h.due u (List.mem_cons_of_mem _ hu),
      fun u hu => h.untouched u (List.mem_cons_of_mem _ hu), fun voteId hvoteId => ?_⟩
    by_cases hself : voteId = v.id
    · rw [hself, hc]
      refine .unchanged fun u hu _ _ => ?_
      exact hlt
    · exact h.done voteId (by simpa [hself] using hvoteId)

/-- A sweep of closings, with what is left of it. -/
structure Closing (s : Store) (now : Time) (left : List Vote) (c : Store) : Prop where
  voteOptions : c.voteOptions = s.voteOptions
  nodup : (left.map Vote.id).Nodup
  due : ∀ v ∈ left, v ∈ s.votes ∧ v.status = .active ∧ v.endAt ≤ now
  untouched : ∀ v ∈ left, election c v.id = election s v.id
  done : ∀ voteId, voteId ∉ left.map Vote.id →
    AutoClosed now (election s voteId) (election c voteId)

/-- A call that commits what it does, and leaves the elections alone. -/
theorem leads_of_leaves {p : Call β} {kept : Lock → Bool} (hp : p.Leaves Elsewhere kept)
    (hconcludes : p.Concludes true) :
    p.Leads (fun _ c' w' => c' = w' ∧ Elsewhere c c') (Elsewhere c) c c := by
  have hleaves := hp.solo (fun h h' => h.trans h') (Elsewhere.refl c) (Elsewhere.refl c)
  have hsame := hconcludes.solo (c := c) fun _ => rfl
  unfold Prog.Leads
  rcases hsolo : p.solo c c with ⟨e | b, c', w'⟩
  · rw [hsolo] at hleaves
    exact hleaves.1
  · rw [hsolo] at hleaves hsame
    exact ⟨hsame, hleaves.1⟩

theorem leads_handOver {winningOption : Option VoteOption} {assignedById : Option ℕ} :
    (VotingService.handOver buildingId winningOption assignedById now).Leads
      (fun _ c' w' => c' = w' ∧ Elsewhere c c') (Elsewhere c) c c := by
  rw [VotingService.handOver.eq_def]
  split
  · refine .tryCatch (leads_of_leaves leaves_electManager concludes_electManager) fun _ c' hc' => ?_
    exact .done ⟨rfl, hc'⟩
  · exact .done ⟨rfl, .refl c⟩

/-- What the election is after its closing, as the sweep promises it. -/
theorem autoClosed_of_due (hs : Conducted fair s) (hv : s.votes.find? voteId = some v)
    (hactive : v.status = .active) (hdue : v.endAt ≤ now)
    (hc : election c voteId = election s voteId) (hoptions : c.voteOptions = s.voteOptions) :
    AutoClosed now (election s voteId)
      (election (createResult
        (computedResult voteId v.quorumPercent (snapshotsOf c voteId).length
          (VotingRepository.optionValue c) (ballotsOf c voteId)) now
        (c.onVotes (·.modify voteId (closed now) (closed_id now)))) voteId) := by
  have hvalid := hs.valid voteId
  have hid : v.id = voteId := Table.key_of_find? hv
  have hempty : resultsOf s voteId = [] := hvalid.noResult v hv (by rw [hactive]; decide)
  have hballots : ballotsOf c voteId = ballotsOf s voteId := congrArg Election.ballots hc
  have hsnapshots : snapshotsOf c voteId = snapshotsOf s voteId := congrArg Election.snapshots hc
  have hvalue : ∀ b ∈ ballotsOf s voteId, VotingRepository.optionValue c b.selectedOptionId =
      (election s voteId).optionValue b.selectedOptionId := by
    intro b hb
    rw [VotingRepository.optionValue, hoptions]
    exact optionValue_eq (hvalid.entitled v hv b hb).option
  have hcomputed := computedResult_congr voteId v.quorumPercent (snapshotsOf s voteId).length hvalue
  have hvote : c.votes.find? voteId = some v := (congrArg Election.vote hc).trans hv
  have hnone : resultsOf c voteId = [] := (congrArg Election.results hc).trans hempty
  have hparams : (computedResult voteId v.quorumPercent (snapshotsOf s voteId).length
      (election s voteId).optionValue (ballotsOf s voteId)).voteId = voteId := rfl
  rw [hballots, hsnapshots, hcomputed, election_closed hparams hvote hnone now, hc, ← hid]
  exact .closed (hid.symm ▸ hv) hactive hdue

/-- The vote whose turn it is gets closed, whatever comes of the hand-over. -/
theorem Closing.turn {rest : List Vote} (hs : Conducted fair s) (h : Closing s now (v :: rest) c) :
    (Prog.tryCatch (VotingService.closeVote v.buildingId v.id none now) fun _ => pure ⟨⟩).Leads
      (fun _ c' w' => c' = w' ∧ Closing s now rest c') (fun _ => False) c c := by
  obtain ⟨hmem, hactive, hdue⟩ := h.due v List.mem_cons_self
  have hc : election c v.id = election s v.id := h.untouched v List.mem_cons_self
  have hv : s.votes.find? v.id = some v := Table.find?_of_mem hmem
  have hvc : c.votes.find? v.id = some v := (congrArg Election.vote hc).trans hv
  have hempty : resultsOf c v.id = [] := (congrArg Election.results hc).trans
    ((hs.valid v.id).noResult v hv (by rw [hactive]; decide))
  have hnodup := List.nodup_cons.mp h.nodup
  have hrest : ∀ u ∈ rest, u.id ≠ v.id := fun u hu heq =>
    hnodup.1 (heq ▸ List.mem_map_of_mem hu)
  -- the closing itself, and whatever the hand-over leaves
  have hturn : ∀ c', Elsewhere (createResult
      (computedResult v.id v.quorumPercent (snapshotsOf c v.id).length
        (VotingRepository.optionValue c) (ballotsOf c v.id)) now
      (c.onVotes (·.modify v.id (closed now) (closed_id now)))) c' → Closing s now rest c' := by
    intro c' hc'
    have helsewhere : ∀ id, id ≠ v.id → election c' id = election c id := by
      intro id hid
      rw [hc'.election id]
      exact (election_createResult_ne hid).trans (election_modify_ne hid)
    refine ⟨hc'.voteOptions.trans h.voteOptions, hnodup.2,
      fun u hu => h.due u (List.mem_cons_of_mem _ hu), fun u hu => ?_, fun voteId hvoteId => ?_⟩
    · exact (helsewhere u.id (hrest u hu)).trans (h.untouched u (List.mem_cons_of_mem _ hu))
    · by_cases hself : voteId = v.id
      · rw [hself, hc'.election v.id]
        exact autoClosed_of_due hs hv hactive hdue hc h.voteOptions
      · rw [helsewhere voteId hself]
        exact h.done voteId (by simpa [hself] using hvoteId)
  refine Leads.tryCatch (F := Closing s now rest) ?_ fun _ c' hc' => .done ⟨rfl, hc'⟩
  have hsolo := VotingRepository.solo_closeVote hvc hactive hempty v.quorumPercent now
  unfold Prog.Leads
  rw [VotingService.closeVote, solo_getVote_bind hvc, VotePolicy.assertClosable, Prog.require_bind,
    if_pos hactive, Prog.solo_bind, hsolo]
  exact leads_handOver.mono (fun _ c' w' hc' => ⟨hc'.1, hturn c' hc'.2⟩) hturn

/-! ### The sweeps -/

theorem nodup_due {p : Vote → Bool} : ((s.votes.rows.filter p).map Vote.id).Nodup :=
  s.votes.nodup.sublist (List.filter_sublist.map _)

/-- Every vote that is due is published or closed, if it can be. -/
theorem elections_of_sweeps (hs : Conducted fair s) (now : Time) (voteId : ℕ) :
    AutoPublished s now (election s voteId)
      (election ((VotingService.runAutoPublish now).exec s) voteId) ∧
    AutoClosed now (election s voteId)
      (election ((VotingService.runAutoClose now).exec s) voteId) := by
  constructor
  · have hstart : Publishing s now (VotingRepository.findVotesDueForAutoPublish now s) s := by
      refine ⟨rfl, nodup_due, fun v hv => ?_, fun _ _ => rfl, fun id hid => .unchanged ?_⟩
      · obtain ⟨hmem, hdue⟩ := List.mem_filter.mp hv
        exact ⟨hmem, of_decide_eq_true hdue⟩
      · intro v hv hdraft hdue
        have hmem : v ∈ VotingRepository.findVotesDueForAutoPublish now s :=
          List.mem_filter.mpr ⟨Table.mem_of_find? hv, decide_eq_true ⟨hdraft, hdue⟩⟩
        exact absurd (List.mem_map.mpr ⟨v, hmem, Table.key_of_find? hv⟩) hid
    have hend := Leads.forEach (E := fun _ => False)
      (fun v rest c (h : Publishing s now (v :: rest) c) => h.turn hs) hstart
    refine Prog.exec_of_leads (P := fun s' => AutoPublished s now (election s voteId)
      (election s' voteId)) (Leads.mono hend (fun _ c _ h => ?_) fun _ h => h.elim)
    exact h.done voteId List.not_mem_nil
  · have hstart : Closing s now (VotingRepository.findVotesDueForAutoClose now s) s := by
      refine ⟨rfl, nodup_due, fun v hv => ?_, fun _ _ => rfl, fun id hid => .unchanged ?_⟩
      · obtain ⟨hmem, hdue⟩ := List.mem_filter.mp hv
        exact ⟨hmem, of_decide_eq_true hdue⟩
      · intro v hv hactive hdue
        have hmem : v ∈ VotingRepository.findVotesDueForAutoClose now s :=
          List.mem_filter.mpr ⟨Table.mem_of_find? hv, decide_eq_true ⟨hactive, hdue⟩⟩
        exact absurd (List.mem_map.mpr ⟨v, hmem, Table.key_of_find? hv⟩) hid
    have hend := Leads.forEach (E := fun _ => False)
      (fun v rest c (h : Closing s now (v :: rest) c) => h.turn hs) hstart
    refine Prog.exec_of_leads (P := fun s' => AutoClosed now (election s voteId)
      (election s' voteId)) (Leads.mono hend (fun _ c _ h => ?_) fun _ h => h.elim)
    exact h.done voteId List.not_mem_nil

/-- The vote about the roof is closed at its end. -/
theorem elections_of_sweeps_roofVote :
    (AutoPublished roofVote 9 (election roofVote 0)
        (election ((VotingService.runAutoPublish 9).exec roofVote) 0) ∧
      AutoClosed 9 (election roofVote 0)
        (election ((VotingService.runAutoClose 9).exec roofVote) 0)) ∧
    ((VotingService.runAutoClose 9).exec roofVote).votes.rows.map Vote.status = [.closed] :=
  have hs : Conducted false roofVote := conducted_roofVote
  ⟨elections_of_sweeps hs 9 0, by decide +kernel⟩

end VielHome.Governance
