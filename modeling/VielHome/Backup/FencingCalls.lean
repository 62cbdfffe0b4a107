import VielHome.Backup.Fencing
import VielHome.Backup.Runner

/-!
# Runners and their leases

A runner claims requests, and verifies or fails them in any order and as often as it likes, under
any of the leases that were returned to it. When no lease is won between the update of a claim and
its read, the leases are fenced (`fenced_of_ordered`). A runner that reads back so late that its
lease has expired and was won by another one gets the owner of the other one
(`not_fenced_readLate`).
-/

namespace VielHome.Backup

open Relational
open Community (Time)
open Relational.ReadCommitted (Database Event Mode Owns Prog givesBack_of_guard)
open BackupRepository

variable {α β : Type} {s s' last : Store} {notes : List (Lock × Mode × Store)}
  {post : β → Store → List (Lock × Mode × Store) → (Store → Store) → Prop}

/-! ### Runners -/

/-- What a runner does next. It names its leases in the order in which they were returned to it. -/
inductive Action
  | claim (sourceBucket : String) (canClaim : List Bool)
  | createGeneration (lease : ℕ) (backupBucket : String)
  | verify (lease : ℕ) (generation : ObjectBackupGeneration) (data : Verification)
  | fail (lease : ℕ) (code : String)

/-- An error does not stop the runner. -/
def attempt (p : Call PUnit) : Call PUnit := p.tryCatch fun _ => pure ⟨⟩

/-- A call under one of the leases, if there are so many. -/
def underLease (leases : List Lease) (n : ℕ) (call : Lease → Call PUnit) : Call PUnit :=
  match leases[n]? with
  | some lease => attempt (call lease)
  | none => pure ⟨⟩

/-- A runner with some leases. -/
def runActions : List Action → List Lease → Call PUnit
  | [], _ => pure ⟨⟩
  | .claim sourceBucket canClaim :: actions, leases => do
    let lease ← claimRequest sourceBucket canClaim
    runActions actions (leases ++ lease.toList)
  | .createGeneration n backupBucket :: actions, leases => do
    underLease leases n fun lease => do
      let _ ← createGeneration lease.request.id backupBucket
      pure ⟨⟩
    runActions actions leases
  | .verify n generation data :: actions, leases => do
    underLease leases n fun lease => verify lease generation data
    runActions actions leases
  | .fail n code :: actions, leases => do
    underLease leases n fun lease => BackupRepository.fail lease code
    runActions actions leases

/-! ### Claims -/

/-- A commit that leaves the leases alone. -/
theorem guarded_commitSame (keep : List Lock) {w : Store → Store} {f : PUnit → Call β}
    (hw : ∀ s, SameLeases s (w s))
    (h : ∀ s, leasing.Later last s → leasing.Later last (w s) → leasing.Knows notes s →
      (f ⟨⟩).Guarded leasing post (w s) (ReadCommitted.refreshed keep notes (w s)) id) :
    (Prog.commitKeeping keep >>= f).Guarded leasing post last notes w := by
  refine .commitKeeping fun s hs hlast hknows _ _ => ?_
  have hcommits := (hw s).commits hs
  exact hcommits.conclude (fun _ h => h.elim)
    ⟨fun _ _ _ => trivial, h s hlast (hlast.next hcommits.grows) hknows⟩

theorem guarded_commitNothing {f : PUnit → Call β}
    (h : ∀ last', leasing.Later last last' → (f ⟨⟩).Guarded leasing post last' [] id) :
    (Prog.commitAll >>= f).Guarded leasing post last notes id :=
  guarded_commitSame _ (fun s => .refl s) fun s hlast _ _ => by
    simpa [ReadCommitted.refreshed] using h s hlast

/-- Nobody has won a lease with what was drawn, and nobody else draws it. -/
theorem guarded_randomUUID {f : Uuid → Call β}
    (h : ∀ uuid last', leasing.Later last last' → ¬ Won uuid last' → uuid < last'.uuids →
      (f uuid).Guarded leasing post last' [(.drawn uuid, .exclusive, last')] id) :
    (randomUUID >>= f).Guarded leasing post last [] id := by
  rw [randomUUID]
  simp only [Prog.bind_assoc]
  refine .queryUnder fun s₀ hs₀ hlast₀ _ _ => ?_
  refine .write fun s₁ _ hlast₁ _ => ?_
  refine guarded_commitSame _ (fun s => ⟨fun _ _ hr => hr, fun _ _ hu => hu, rfl, Nat.le_succ _⟩)
    fun s hlast hlater hknows => ?_
  -- what is drawn has not been drawn before
  have hfresh : ¬ Won s₀.uuids s₀ := fun hwon => Nat.lt_irrefl _ (hs₀.drawn _ hwon)
  have hsame : SameLease (.drawn s₀.uuids) s₀ s :=
    hknows (.drawn s₀.uuids, .exclusive, s₀) List.mem_cons_self
  have hgrows : Grows s₀ s := grows_of_later (hlast₁.trans hlast)
  have hnotes : ReadCommitted.refreshed [.drawn s₀.uuids]
      ([] ++ leasing.taken [(.uuid, .exclusive), (.drawn s₀.uuids, .exclusive)] s₀ ++
        leasing.taken [] s₁) s.drawUuid = [(.drawn s₀.uuids, .exclusive, s.drawUuid)] := by
    simp [ReadCommitted.refreshed, ReadCommitted.Discipline.taken, leasing]
  simp only [id_eq]
  rw [hnotes]
  exact h _ _ (hlast₀.trans (hlast₁.trans hlater)) (fun hwon => hfresh (hsame hwon))
    (Nat.lt_succ_of_le hgrows.uuids)

/-- The lease is won with the owner, and nobody else wins it as long as the lock is held. -/
theorem guarded_takeLease {sourceBucket : String} {now : Time} {requestId : ℕ} {owner : Uuid}
    {f : Bool → Call β} (hnew : ¬ Won owner last) (hdrawn : owner < last.uuids)
    (hwon : ∀ last', leasing.Later last last' → Leased requestId owner last' →
      ¬ Returned requestId owner last' → Won owner last' →
      (f true).Guarded leasing post last' [(.lease requestId, .exclusive, last')] id)
    (hlost : ∀ last', leasing.Later last last' → (f false).Guarded leasing post last' [] id) :
    (takeLease sourceBucket now requestId owner >>= f).Guarded leasing post last
      [(.drawn owner, .exclusive, last)] id := by
  rw [takeLease, Prog.bind_assoc]
  refine .query fun s₀ _ hlast₀ _ => ?_
  rw [Prog.ite_bind]
  split
  case isFalse =>
    rw [Prog.bind_assoc]
    exact guarded_commitNothing fun last' hlater => hlost _ (hlast₀.trans hlater)
  rw [Prog.bind_assoc]
  refine .queryUnder fun s₁ _ hlast₁ _ _ => ?_
  have hlast₁ := hlast₀.trans hlast₁
  simp only [id_eq]
  rw [Prog.ite_bind]
  split
  case isFalse =>
    rw [Prog.bind_assoc]
    exact guarded_commitNothing fun last' hlater => hlost _ (hlast₁.trans hlater)
  case isTrue hstill =>
    simp only [Prog.bind_assoc]
    refine .write fun s₂ _ hlast₂ _ => .commitKeeping fun s hs hlast hknows _ _ => ?_
    have hlater := (hlast₁.trans hlast₂).trans hlast
    obtain ⟨r, hr, -⟩ := (Option.any_eq_true _ _).mp hstill
    have htaken : leasing.taken (leaseLocks sourceBucket now requestId s₁) s₁ =
        [(.request requestId, .exclusive, s₁), (.lease requestId, .exclusive, s₁)] := by
      rw [leaseLocks, if_pos hstill]
      rfl
    rw [htaken] at hknows ⊢
    -- the request has been locked since it was read, and nobody else draws this owner
    have hrow : SameLease (.request requestId) s₁ s :=
      hknows (.request requestId, .exclusive, s₁) (by simp)
    have hfree : SameLease (.drawn owner) last s := hknows (.drawn owner, .exclusive, last) (by simp)
    have hfresh : ¬ Won owner s := fun h => hnew (hfree h)
    have hcommits := commits_won now hs (hrow r hr)
      (hdrawn.trans_le (grows_of_later hlater).uuids)
    refine hcommits.conclude (fun l hl => ?_) ⟨fun _ _ _ => trivial, ?_⟩
    · rcases hl with rfl | rfl | rfl
      · exact ⟨s₁, by simp⟩
      · exact ⟨s₁, by simp⟩
      · exact ⟨last, by simp⟩
    · have hnotes : ReadCommitted.refreshed [.lease requestId]
          ([(.drawn owner, .exclusive, last)] ++ [(.request requestId, .exclusive, s₁),
            (.lease requestId, .exclusive, s₁)] ++ leasing.taken [] s₂)
          ((s.onRequests (·.modify requestId (leased owner now) (leased_id owner now))).record
            (.won requestId owner)) = [(.lease requestId, .exclusive, (s.onRequests
              (·.modify requestId (leased owner now) (leased_id owner now))).record
                (.won requestId owner))] := by
        simp [ReadCommitted.refreshed]
      simp only [id_eq]
      rw [hnotes]
      refine hwon _ (hlater.tail hcommits.grows)
        ⟨_, Table.find?_modify_self (h := leased_id owner now) (hrow r hr), rfl⟩ (fun hreturned => ?_)
        ⟨requestId, List.mem_append_right _ (List.mem_singleton_self _)⟩
      exact hfresh (hs.won requestId owner (by simpa [Returned] using hreturned))

/-- The claim has returned the request of the lease. -/
def Held (lease : Lease) (s : Store) : Prop :=
  .returned lease.request.id lease.owner lease.request.leaseOwner ∈ s.history

theorem Held.later {lease : Lease} (h : Held lease s) (hlater : leasing.Later s s') :
    Held lease s' := (grows_of_later hlater).mem h

/-- What is read back under the lock is the request with the owner that has won the lease. -/
theorem guarded_readBack {requestId : ℕ} {owner : Uuid} {f : Lease → Call β}
    (hleased : Leased requestId owner last) (hnew : ¬ Returned requestId owner last)
    (hwon : Won owner last)
    (h : ∀ lease last', leasing.Later last last' → Held lease last' →
      (f lease).Guarded leasing post last' [] id) :
    (readBack requestId owner >>= f).Guarded leasing post last
      [(.lease requestId, .exclusive, last)] id := by
  rw [readBack]
  simp only [Prog.bind_assoc]
  refine .query fun s₀ _ hlast₀ hknows => .expect (fun _ => givesBack_of_guard fun _ _ => trivial)
    fun r hr => .write fun s₁ _ hlast₁ _ => .commitAll fun s hs hlast hknows' _ _ => ?_
  have hsame₀ : SameLease (.lease requestId) last s₀ :=
    hknows (.lease requestId, .exclusive, last) List.mem_cons_self
  have hsame : SameLease (.lease requestId) last s :=
    hknows' (.lease requestId, .exclusive, last) List.mem_cons_self
  obtain ⟨r', hr', howner⟩ := hsame₀.2 owner hleased hnew
  obtain rfl : r' = r := Option.some.inj (hr'.symm.trans hr)
  have hlater := (hlast₀.trans hlast₁).trans hlast
  have hwon' : Won owner s := hwon.imp fun _ hmem => (grows_of_later hlater).mem hmem
  have hcommits := commits_returned hs (fun hreturned => hnew (hsame.1 owner hreturned)) hwon'
  simp only [howner] at hcommits ⊢
  refine hcommits.conclude (fun l hl => ?_) ⟨fun _ _ => trivial, ?_⟩
  · rw [hl]
    exact ⟨last, List.mem_cons_self⟩
  · refine h ⟨r', owner⟩ _ (hlater.tail hcommits.grows) ?_
    rw [Held, howner, Table.key_of_find? hr]
    exact List.mem_append_right _ (List.mem_singleton_self _)

theorem guarded_claimFirst {sourceBucket : String} {now : Time} {f : Option Lease → Call β}
    (requestIds : List ℕ) (canClaim : List Bool)
    (h : ∀ lease last', leasing.Later last last' → (∀ l ∈ lease, Held l last') →
      (f lease).Guarded leasing post last' [] id) :
    (claimFirst sourceBucket now requestIds canClaim >>= f).Guarded leasing post last [] id := by
  induction requestIds generalizing canClaim last with
  | nil => exact h none last (.refl last) (by simp)
  | cons requestId requestIds ih =>
    match canClaim with
    | [] => exact h none last (.refl last) (by simp)
    | false :: _ => exact h none last (.refl last) (by simp)
    | true :: canClaim =>
      rw [claimFirst]
      simp only [Prog.bind_assoc]
      refine guarded_randomUUID fun owner last₁ hlast₁ hnew hdrawn => ?_
      refine guarded_takeLease hnew hdrawn (fun last₂ hlast₂ hleased hnew hwon => ?_)
        fun last₂ hlast₂ => ?_
      · rw [if_pos rfl, Prog.bind_assoc]
        refine guarded_readBack hleased hnew hwon fun lease last₃ hlast₃ hheld => ?_
        refine h (some lease) last₃ ((hlast₁.trans hlast₂).trans hlast₃) fun l hl => ?_
        rwa [← Option.some.inj hl]
      · rw [if_neg Bool.false_ne_true]
        exact ih canClaim fun lease last₃ hlast₃ =>
          h lease last₃ ((hlast₁.trans hlast₂).trans hlast₃)

theorem guarded_claimRequest {sourceBucket : String} {canClaim : List Bool}
    {f : Option Lease → Call β}
    (h : ∀ lease last', leasing.Later last last' → (∀ l ∈ lease, Held l last') →
      (f lease).Guarded leasing post last' [] id) :
    (claimRequest sourceBucket canClaim >>= f).Guarded leasing post last [] id := by
  rw [claimRequest, Prog.bind_assoc]
  refine .query fun s₀ _ hlast₀ _ => ?_
  split
  · rw [Prog.bind_assoc]
    refine .query fun s₁ _ hlast₁ _ => ?_
    exact guarded_claimFirst _ _ fun lease last' hlater =>
      h lease last' ((hlast₀.trans hlast₁).trans hlater)
  · exact h none s₀ hlast₀ (by simp)

/-! ### What is done under a lease -/

/-- What is left behind: no lock, no write, and a later store. -/
def Settled (started : Store) (_ : PUnit) (last : Store) (notes : List (Lock × Mode × Store))
    (pending : Store → Store) : Prop :=
  leasing.Later started last ∧ notes = [] ∧ pending = id

theorem Held.owner {lease : Lease} (h : Held lease s) (hs : Leasing s) :
    lease.request.leaseOwner = some lease.owner := hs.returned _ _ _ h

theorem Held.returned {lease : Lease} (h : Held lease s) (hs : Leasing s) :
    Returned lease.request.id lease.owner s := by
  rw [Returned, ← h.owner hs]
  exact h

/-- The lock of the row, and no other one that counts. -/
theorem owns_request {requestId : ℕ} {s₁ : Store} (notes : List (Lock × Mode × Store)) :
    ∀ l, l = .request requestId →
      Owns ((.request requestId, .exclusive, s₁) :: notes) l := fun l hl => by
  rw [hl]
  exact ⟨s₁, List.mem_cons_self⟩

theorem guarded_verify {lease : Lease} {generation : ObjectBackupGeneration} {data : Verification}
    (hheld : Held lease last) :
    (verify lease generation data).Guarded leasing (Settled last) last [] id := by
  rw [verify, Prog.transaction]
  simp only [Prog.claim, Prog.bind_assoc]
  refine .query fun s₀ _ hlast₀ _ => .query fun s₁ _ hlast₁ _ =>
    .require (fun _ => givesBack_of_guard fun _ _ => trivial) fun _ =>
    .writeIf (fun _ _ _ _ _ => givesBack_of_guard fun _ _ => trivial) fun s₂ _ hlast₂ _ hactive => ?_
  refine .query fun s₃ _ hlast₃ _ =>
    .require (fun _ => givesBack_of_guard fun _ _ => trivial) fun _ =>
    .writeIf (fun _ _ _ _ _ => givesBack_of_guard fun _ _ => trivial) fun s₄ _ hlast₄ _ _ => ?_
  refine .commitAll fun s hs hlast hknows _ _ => ?_
  obtain ⟨r, hr, howned⟩ := (Option.any_eq_true _ _).mp hactive
  have hrow : SameLease (.request lease.request.id) s₂ s :=
    hknows (.request lease.request.id, .exclusive, s₂) List.mem_cons_self
  have hlater := ((((hlast₀.trans hlast₁).trans hlast₂).trans hlast₃).trans hlast₄).trans hlast
  have hheld := hheld.later hlater
  have howner : r.leaseOwner = some lease.owner := by
    simp only [isActive, isOwned, decide_eq_true_eq] at howned
    rw [howned.1.2, hheld.owner hs]
  have hcommits : CommitsLease (fun l => l = .request lease.request.id) s
      (((s.onRequests (·.modify lease.request.id verified verified_id)).record
        (.wrote lease.request.id lease.owner)).onGenerations
          (·.modify generation.id data.complete data.complete_id)) :=
    commits_wrote (h := verified_id) hs (hrow r hr) howner (hheld.returned hs) rfl rfl rfl rfl
  exact hcommits.conclude (owns_request _)
    ⟨fun _ _ => trivial, hlater.tail hcommits.grows, rfl, rfl⟩

theorem guarded_fail {lease : Lease} {code : String} (hheld : Held lease last) :
    (BackupRepository.fail lease code).Guarded leasing (Settled last) last [] id := by
  rw [BackupRepository.fail, Prog.transaction]
  simp only [Prog.updateMany, Prog.bind_assoc]
  refine .query fun s₀ _ hlast₀ _ => .query fun s₁ _ hlast₁ _ => ?_
  split
  case isFalse =>
    exact guarded_commitNothing fun last' hlast => ⟨(hlast₀.trans hlast₁).trans hlast, rfl, rfl⟩
  rw [Prog.forEach_cons]
  simp only [Prog.bind_assoc]
  refine .queryUnder fun s₂ _ hlast₂ _ _ => ?_
  have hlast₂ := (hlast₀.trans hlast₁).trans hlast₂
  rw [Prog.ite_bind]
  split
  case isFalse =>
    exact guarded_commitNothing fun last' hlast => ⟨hlast₂.trans hlast, rfl, rfl⟩
  case isTrue hmatched =>
    refine .write fun s₃ _ hlast₃ _ => .commitAll fun s hs hlast hknows _ _ => ?_
    obtain ⟨r, hr, howned⟩ := (Option.any_eq_true _ _).mp hmatched
    have hrow : SameLease (.request lease.request.id) s₂ s :=
      hknows (.request lease.request.id, .exclusive, s₂) List.mem_cons_self
    have hlater := (hlast₂.trans hlast₃).trans hlast
    have hheld := hheld.later hlater
    have howner : r.leaseOwner = some lease.owner := by
      simp only [isOwned, decide_eq_true_eq] at howned
      rw [howned.2, hheld.owner hs]
    have hcommits : CommitsLease (fun l => l = .request lease.request.id) s
        ((s.onRequests (·.modify lease.request.id
          (failed code (s₀.clock + backoff lease.request.attempts * 1000)) (failed_id code _))).record
            (.wrote lease.request.id lease.owner)) :=
      commits_wrote (h := failed_id code _) hs (hrow r hr) howner (hheld.returned hs) rfl rfl rfl rfl
    exact hcommits.conclude (owns_request _)
      ⟨fun _ _ => trivial, hlater.tail hcommits.grows, rfl, rfl⟩

theorem guarded_createGeneration {requestId : ℕ} {backupBucket : String} :
    (createGeneration requestId backupBucket >>= fun _ => pure ⟨⟩).Guarded leasing (Settled last)
      last [] id := by
  rw [createGeneration]
  simp only [Prog.bind_assoc]
  refine guarded_randomUUID fun captureId last₁ hlast₁ _ _ => ?_
  refine .query fun s₂ _ hlast₂ _ => .writeUnless
    (fun _ _ _ _ _ _ _ => givesBack_of_guard fun _ _ => trivial) fun s₃ _ hlast₃ _ _ _ => ?_
  refine guarded_commitSame [] (fun s => ⟨fun _ _ hr => hr, fun _ _ hu => hu, rfl, le_rfl⟩)
    fun s _ hlater _ => ?_
  refine .query fun s₄ _ hlast₄ _ => .expect (fun _ => ?_) fun _ _ => ?_
  · exact givesBack_of_guard fun _ _ => trivial
  · refine ⟨(((hlast₁.trans hlast₂).trans hlast₃).trans hlater).trans hlast₄, ?_, rfl⟩
    simp [ReadCommitted.refreshed]

/-! ### Calls -/

theorem guarded_underLease {leases : List Lease} {n : ℕ} {call : Lease → Call PUnit}
    {f : PUnit → Call PUnit}
    (hcall : ∀ lease ∈ leases, (call lease).Guarded leasing (Settled last) last [] id)
    (h : ∀ last', leasing.Later last last' →
      (f ⟨⟩).Guarded leasing (Prog.Guarded.AtEnd leasing) last' [] id) :
    (underLease leases n call >>= f).Guarded leasing (Prog.Guarded.AtEnd leasing) last [] id := by
  rw [underLease]
  split
  case h_2 => exact h last (.refl last)
  case h_1 lease hlease =>
    rw [attempt]
    refine (Prog.Guarded.tryCatch (h := fun _ => pure ⟨⟩) (hcall lease (List.mem_of_getElem? hlease))
      fun e last' hlater => ⟨hlater, rfl, rfl⟩).bind fun _ last' notes pending hsettled => ?_
    obtain ⟨hlater, rfl, rfl⟩ := hsettled
    exact h last' hlater

theorem guarded_runActions (actions : List Action) {leases : List Lease}
    (hheld : ∀ lease ∈ leases, Held lease last) :
    (runActions actions leases).Guarded leasing (Prog.Guarded.AtEnd leasing) last [] id := by
  induction actions generalizing leases last with
  | nil => exact givesBack_of_guard fun _ _ => trivial
  | cons action actions ih =>
    cases action with
    | claim sourceBucket canClaim =>
      refine guarded_claimRequest fun lease last' hlater hlease => ih fun l hl => ?_
      rcases List.mem_append.mp hl with hl | hl
      · exact (hheld l hl).later hlater
      · exact hlease l (Option.mem_toList.mp hl)
    | createGeneration n backupBucket =>
      exact guarded_underLease (fun _ _ => guarded_createGeneration)
        fun last' hlater => ih fun l hl => (hheld l hl).later hlater
    | verify n generation data =>
      exact guarded_underLease (fun lease hlease => guarded_verify (hheld lease hlease))
        fun last' hlater => ih fun l hl => (hheld l hl).later hlater
    | fail n code =>
      exact guarded_underLease (fun lease hlease => guarded_fail (hheld lease hlease))
        fun last' hlater => ih fun l hl => (hheld l hl).later hlater

/-- A runner, or what else happens. -/
inductive LeaseCall
  | run (actions : List Action)
  | enqueueDocumentBackup (params : VersionParams)
  | wait (milliseconds : ℕ)

/-- What the call runs. -/
def LeaseCall.call : LeaseCall → Call PUnit
  | run actions => runActions actions []
  | enqueueDocumentBackup params => Backup.enqueueDocumentBackup params
  | wait milliseconds => Backup.wait milliseconds

theorem guarded_of_leaves {p : Call PUnit} (hp : p.Leaves SameLeases leasing.kept) :
    p.Guarded leasing (Prog.Guarded.AtEnd leasing) last [] id :=
  .leaves hp SameLeases.refl SameLeases.trans (fun h hs => (h.commits hs).leasing)
    (fun h => ⟨h.history ▸ List.prefix_rfl, h.uuids⟩) (fun h l _ => h.same l) (fun _ _ _ => trivial)
    SameLeases.refl

theorem LeaseCall.guarded (c : LeaseCall) (last : Store) :
    c.call.Guarded leasing (Prog.Guarded.AtEnd leasing) last [] id := by
  cases c with
  | run actions => exact guarded_runActions actions (by simp)
  | enqueueDocumentBackup params =>
    refine guarded_of_leaves ((Prog.Leaves.query SameLeases.refl _).bind fun now =>
      .transaction (.writeUnless (by simp [leasing]) fun s => ?_))
    refine ⟨fun id r hr => Table.find?_create_of_find? (h := fun _ => rfl) hr, fun id u hu => ?_, rfl,
      le_rfl⟩
    -- the new request has no owner
    obtain ⟨r, hr, howner⟩ := hu
    rcases (Table.mem_create (h := fun _ => rfl)).mp (Table.mem_of_find? hr) with hmem | rfl
    · exact ⟨r, Table.key_of_find? hr ▸ Table.find?_of_mem hmem, howner⟩
    · cases howner
  | wait milliseconds =>
    exact guarded_of_leaves (.transaction (.write (by simp) fun _ =>
      ⟨fun _ _ hr => hr, fun _ _ hu => hu, rfl, le_rfl⟩))

/-! ### Runs -/

/-- Nobody wins the lease of a request between the update and the read of a claim that has won
it. -/
abbrev InTurn {ι α : Type} [DecidableEq ι] (d : Sessions ι α) (e : Event ι Fault) : Prop :=
  d.Orderly Lock.enforced leasing.kept e

/-- Any number of runners, statement by statement in any order and with any delays: the leases are
fenced, as long as every claim reads back the lease that it has won before somebody else wins it. -/
theorem fenced_of_inTurn {ι : Type} [DecidableEq ι] (hs : Leasing s) (calls : ι → LeaseCall)
    {es : List (Event ι Fault)} (hes : EachStep (Database.next Lock.enforced) InTurn
      (Database.start s fun i => (calls i).call) es) :
    Fenced (runCalls s (fun i => (calls i).call) es).store := by
  have hstart : (Database.start s fun i => (calls i).call).Guarded leasing :=
    Database.guarded_start hs (fun _ _ => trivial) fun i => (calls i).guarded s
  have hpermitted : ∀ (d : Sessions ι PUnit) e, InTurn d e → d.Permitted Lock.enforced leasing e := by
    intro d e he
    refine ⟨he, ?_, trivial, ?_⟩
    · cases e with
      | step i => trivial
      | abort i e => exact fun _ _ _ _ _ => trivial
    · cases e with
      | step i => exact fun _ _ _ => trivial
      | abort i e => trivial
  exact (Database.guarded_run hstart (hes.mono hpermitted)).1.inv.toFenced

/-! ### A runner that reads back late -/

theorem leasing_of_fresh (howner : ∀ r ∈ s.requests, r.leaseOwner = none) (hhistory : s.history = []) :
    Leasing s := by
  refine ⟨⟨fun id u v h => ?_, ?_, fun id u before h => ?_⟩, fun id u hu => ?_, fun u hu => ?_,
    fun id u hu => ?_⟩
  · rw [hhistory] at h
    cases h
  · rw [hhistory]
    exact List.nodup_nil
  · rw [hhistory, List.prefix_nil] at h
    simp at h
  · obtain ⟨r, hr, hu⟩ := hu
    rw [howner r (Table.mem_of_find? hr)] at hu
    cases hu
  · obtain ⟨id, hu⟩ := hu
    rw [hhistory] at hu
    cases hu
  · rw [Returned, hhistory] at hu
    cases hu

/-- A request that nobody has claimed. -/
def queued : Store where
  requests := Table.empty.create fun id =>
    { id, sourceBucket := "documents", sourceKey := "a.pdf", referenceType := "DOCUMENT_VERSION",
      referenceId := 0, nextAttemptAt := 0, finalizedAt := 0 }
  generations := .empty
  sources := fun _ => none
  destination := fun _ => none
  clock := 0
  uuids := 0
  history := []

theorem leasing_queued : Leasing queued := leasing_of_fresh (by decide +kernel) rfl

/-- Two runners that claim the request and fail it, and ten minutes. -/
def twoRunners : Fin 3 → LeaseCall
  | 0 => .run [.claim "documents" [true, true], .fail 0 "TIMEOUT"]
  | 1 => .run [.claim "documents" [true, true], .fail 0 "TIMEOUT"]
  | _ => .wait 600000

/-- The second runner claims the request when the lease of the first one has expired, and the first
one fails it after that. -/
def takenOver : List (Event (Fin 3) Fault) :=
  List.replicate 13 (Event.step 0) ++ List.replicate 2 (Event.step 2) ++ List.replicate 13 (Event.step 1) ++
    List.replicate 8 (Event.step 0)

/-- Nothing is written by the runner whose lease was taken over. -/
theorem fenced_of_inTurn_takenOver :
    (runCalls queued (fun i => (twoRunners i).call) takenOver).store.history =
      [.won 0 0, .returned 0 0 (some 0), .won 0 1, .returned 0 1 (some 1)] ∧
    Fenced (runCalls queued (fun i => (twoRunners i).call) takenOver).store :=
  ⟨by decide +kernel, fenced_of_inTurn leasing_queued twoRunners (by decide +kernel)⟩

/-- The first runner wins the lease and reads it back only when it has expired, and the second
runner has claimed the request. -/
def readLate : List (Event (Fin 3) Fault) :=
  List.replicate 9 (Event.step 0) ++ List.replicate 2 (Event.step 2) ++ List.replicate 13 (Event.step 1) ++
    List.replicate 12 (Event.step 0)

theorem history_readLate :
    (runCalls queued (fun i => (twoRunners i).call) readLate).store.history =
      [.won 0 0, .won 0 1, .returned 0 1 (some 1), .returned 0 0 (some 1), .wrote 0 0] := by
  decide +kernel

/-- Both runners hold the owner of the second one, and the first one fails the request under the
lease of the second one. -/
theorem not_fenced_readLate :
    ¬ Fenced (runCalls queued (fun i => (twoRunners i).call) readLate).store := by
  intro h
  have hreturned := h.returned 0 0 (some 1)
  rw [history_readLate] at hreturned
  exact absurd (hreturned (by decide)) (by decide)

end VielHome.Backup
