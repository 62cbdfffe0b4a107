import VielHome.Backup.Restorable

/-!
# Runs of the backup

One lemma for each call: every commit that it makes keeps what was verified restorable, and what it
has read stays true while the call goes on (`Copied.later`). So however many runners and lost
sources there are, a verified request stays verified and can be restored
(`restorable_of_calls`).
-/

namespace VielHome.Backup

open Relational
open Community (Time)
open Relational.ReadCommitted (Database Discipline Event Free Mode Prog not_free_of_exclusive)
open BackupRepository HttpBackupStorage BackupRunner

variable {α β : Type} {s s' last : Store} {digest : List UInt8 → String} {config : Config}
  {notes : List (Lock × Mode × Store)}
  {post : β → Store → List (Lock × Mode × Store) → (Store → Store) → Prop}

/-! ### What stays true -/

/-- A commit that changes nothing keeps all this. -/
theorem Keeps.refl (s : Store) : Keeps s s :=
  ⟨keepsRequest_of_eq rfl, keepsGeneration_of_eq rfl, fun _ _ h => h, fun _ h => h⟩

/-- So do two commits in a row. -/
theorem Keeps.trans {s'' : Store} (h : Keeps s s') (h' : Keeps s' s'') : Keeps s s'' := by
  refine ⟨fun id r hr => ?_, fun id g hg => ?_,
    fun key bytes hbytes => h'.object key bytes (h.object key bytes hbytes),
    fun x hx => h'.history x (h.history x hx)⟩
  · obtain ⟨r', hr', hsame, hverified⟩ := h.request id r hr
    obtain ⟨r'', hr'', hsame', hverified'⟩ := h'.request id r' hr'
    refine ⟨r'', hr'', hsame.trans hsame', fun hstate => ?_⟩
    obtain rfl := hverified hstate
    exact hverified' hstate
  · obtain ⟨g', hg', hsame, hverified⟩ := h.generation id g hg
    obtain ⟨g'', hg'', hsame', hverified'⟩ := h'.generation id g' hg'
    refine ⟨g'', hg'', hsame.trans hsame', fun hstate => ?_⟩
    obtain rfl := hverified hstate
    exact hverified' hstate

/-- So do any number of commits. -/
theorem keeps_of_later (h : (restoring digest).Later s s') : Keeps s s' :=
  h.keeps (P := Keeps s) (fun _ _ hcommit hs => hs.trans hcommit) (.refl s)

/-- The request is in the table, as it was returned or later. -/
def Requested (request : ObjectBackupRequest) (s : Store) : Prop :=
  ∃ r, s.requests.find? request.id = some r ∧ SameRequest request r

/-- A request stays what it is. -/
theorem Requested.keeps {request : ObjectBackupRequest} (h : Requested request s)
    (hkeeps : Keeps s s') : Requested request s' := by
  obtain ⟨r, hr, hsame⟩ := h
  obtain ⟨r', hr', hsame', -⟩ := hkeeps.request _ r hr
  exact ⟨r', hr', hsame.trans hsame'⟩

/-- The generation is in the table, as it was returned or later. -/
def Generated (generation : ObjectBackupGeneration) (s : Store) : Prop :=
  ∃ g, s.generations.find? generation.id = some g ∧ SameGeneration generation g

/-- A copy stays what it is. -/
theorem Generated.keeps {generation : ObjectBackupGeneration} (h : Generated generation s)
    (hkeeps : Keeps s s') : Generated generation s' := by
  obtain ⟨g, hg, hsame⟩ := h
  obtain ⟨g', hg', hsame', -⟩ := hkeeps.generation _ g hg
  exact ⟨g', hg', hsame.trans hsame'⟩

/-- What was copied stays copied. -/
theorem Copied.keeps {request : ObjectBackupRequest} {generation : ObjectBackupGeneration}
    {data : Verification} (h : Copied digest request generation data s) (hkeeps : Keeps s s') :
    Copied digest request generation data s' := by
  obtain ⟨bytes, environment, hobject, hsize, hexpected, hdigest, hgot, hmanifest⟩ := h.copied
  have hrequested : Requested request s := h.requested
  have hgenerated : Generated generation s := h.generated
  exact ⟨hrequested.keeps hkeeps, hgenerated.keeps hkeeps, bytes, environment,
    hkeeps.object _ _ hobject, hsize, hexpected, hdigest, hkeeps.history _ hgot,
    hkeeps.object _ _ hmanifest⟩

/-! ### Calls that leave the tables alone -/

/-- What a call commits that only records something, draws an identifier, or changes a source. -/
def Aside (w : Store → Store) : Prop :=
  ∀ s, (w s).requests = s.requests ∧ (w s).generations = s.generations ∧
    (w s).destination = s.destination ∧ ∀ h ∈ s.history, h ∈ (w s).history

/-- A commit that has nothing to do with backups keeps them. -/
theorem Aside.commits {w : Store → Store} (h : Aside w) (hs : Backed digest s) :
    CommitsBackup digest (fun _ => False) s (w s) := by
  obtain ⟨hrequests, hgenerations, hdestination, hhistory⟩ := h s
  exact commits_aside hs hrequests hgenerations hdestination hhistory

/-- A line of the history has nothing to do with backups. -/
theorem aside_record (h : Happening) : Aside (Store.record h) :=
  fun _ => ⟨rfl, rfl, rfl, fun _ hh => List.mem_append_left _ hh⟩

/-- A commit of such writes. -/
theorem safe_commitAside {keep : List Lock} {w : Store → Store} {f : PUnit → Call β}
    (hw : Aside w)
    (h : ∀ s, (restoring digest).Later last (w s) →
      (f ⟨⟩).Safe (restoring digest) post (w s) (notes.filter fun n => n.1 ∈ keep) id) :
    (Prog.commitKeeping keep >>= f).Safe (restoring digest) post last notes w := by
  refine Prog.Safe.commitKeeping fun s hs hlast _ => ?_
  have hcommits := hw.commits hs
  refine hcommits.conclude (fun _ _ _ => id) ⟨fun n _ _ => hcommits.same n.1 id, ?_⟩
  exact h s (hlast.next hcommits.keeps)

/-- A commit of nothing. -/
theorem safe_commitNothing {f : PUnit → Call β}
    (h : ∀ last', (restoring digest).Later last last' →
      (f ⟨⟩).Safe (restoring digest) post last' [] id) :
    (Prog.commitAll >>= f).Safe (restoring digest) post last notes id := by
  refine safe_commitAside (fun _ => ⟨rfl, rfl, rfl, fun _ hh => hh⟩) fun s hlast => ?_
  simpa using h s hlast

/-- A UUID is drawn. -/
theorem safe_randomUUID {f : Uuid → Call β}
    (h : ∀ uuid last', (restoring digest).Later last last' →
      (f uuid).Safe (restoring digest) post last' [] id) :
    (randomUUID >>= f).Safe (restoring digest) post last [] id := by
  rw [randomUUID]
  simp only [Prog.bind_assoc]
  refine Prog.Safe.queryUnder fun s₀ _ hlast₀ _ => Prog.Safe.write fun s₁ _ hlast₁ _ => ?_
  refine safe_commitAside (fun _ => ⟨rfl, rfl, rfl, fun _ hh => hh⟩) fun s hlater => ?_
  exact h _ _ (hlast₀.trans (hlast₁.trans hlater))

/-! ### Claims -/

/-- Who takes a lease locks the request. -/
theorem taken_lease {sourceBucket : String} {now : Time} {requestId : ℕ} {s : Store} :
    (restoring digest).taken (leaseLocks sourceBucket now requestId s) s =
      [(.request requestId, .exclusive, s)] := by
  rw [leaseLocks]
  split <;> rfl

/-- A request that may be copied is not verified. -/
theorem state_of_eligible {sourceBucket : String} {now : Time} {r : ObjectBackupRequest}
    (h : eligible sourceBucket now r = true) : r.state ≠ .verified := by
  intro hstate
  simp [eligible, hstate] at h

/-- A lease is taken, or not. -/
theorem safe_takeLease {sourceBucket : String} {now : Time} {requestId : ℕ} {owner : Uuid}
    {f : Bool → Call β}
    (h : ∀ won last', (restoring digest).Later last last' →
      (f won).Safe (restoring digest) post last' [] id) :
    (takeLease sourceBucket now requestId owner >>= f).Safe (restoring digest) post last [] id := by
  rw [takeLease, Prog.bind_assoc]
  refine Prog.Safe.query fun s₀ _ hlast₀ _ => ?_
  rw [Prog.ite_bind]
  split
  case isFalse =>
    rw [Prog.bind_assoc]
    exact safe_commitNothing fun last' hlast => h _ _ (hlast₀.trans hlast)
  rw [Prog.bind_assoc]
  refine Prog.Safe.queryUnder fun s₁ _ hlast₁ _ => ?_
  simp only [id_eq, List.nil_append, taken_lease]
  have hlast₁ := hlast₀.trans hlast₁
  rw [Prog.ite_bind]
  split
  case isFalse =>
    rw [Prog.bind_assoc]
    exact safe_commitNothing fun last' hlast => h _ _ (hlast₁.trans hlast)
  case isTrue hstill =>
    simp only [Prog.bind_assoc]
    refine Prog.Safe.write fun s₂ _ hlast₂ _ => Prog.Safe.commitKeeping fun s hs hlast hknows => ?_
    obtain ⟨r, hr, heligible⟩ := (Option.any_eq_true _ _).mp hstill
    -- the row is locked since it was found to be eligible
    have hrow : SameUnder (.request requestId) s₁ s := hknows (_, _, _) List.mem_cons_self
    have hcommits : CommitsBackup digest (fun l => l = .request requestId) s
        ((s.onRequests (·.modify requestId (leased owner now) (leased_id owner now))).record
          (.won requestId owner)) :=
      commits_request (f := leased owner now) (h := leased_id owner now) hs (hrow r hr) (state_of_eligible heligible) ⟨rfl, rfl, rfl, rfl, rfl, rfl⟩
        (by rw [leased]; simp) rfl rfl rfl fun _ hh => List.mem_append_left _ hh
    refine hcommits.conclude (fun l m hl hlock => ?_) ⟨?_, ?_⟩
    · subst hlock
      exact not_free_of_exclusive List.mem_cons_self hl
    · intro n hn hkeep
      rw [List.mem_singleton.mp hkeep]
      trivial
    · have hlater := ((hlast₁.trans hlast₂).trans hlast).tail hcommits.keeps
      simpa using h true _ hlater

/-- The request is read again under its lease. -/
theorem safe_readBack {requestId : ℕ} {owner : Uuid} {f : Lease → Call β}
    (h : ∀ lease last', (restoring digest).Later last last' → Requested lease.request last' →
      (f lease).Safe (restoring digest) post last' [] id) :
    (readBack requestId owner >>= f).Safe (restoring digest) post last [] id := by
  rw [readBack]
  simp only [Prog.bind_assoc]
  refine Prog.Safe.query fun s₀ _ hlast₀ _ => Prog.Safe.expect fun r hr => ?_
  refine Prog.Safe.write fun s₁ _ hlast₁ _ => ?_
  refine safe_commitAside (aside_record _) fun s hlast => ?_
  have hrequested : Requested r s₀ := ⟨r, by rw [Table.key_of_find? hr]; exact hr, .refl r⟩
  have hlater := hlast₁.trans hlast
  exact h ⟨r, owner⟩ _ (hlast₀.trans hlater) (hrequested.keeps (keeps_of_later hlater))

/-- The first request that can be claimed. -/
theorem safe_claimFirst {sourceBucket : String} {now : Time} {f : Option Lease → Call β}
    (h : ∀ lease last', (∀ l ∈ lease, Requested l.request last') →
      (f lease).Safe (restoring digest) post last' [] id) :
    ∀ (requestIds : List ℕ) (canClaim : List Bool) (last : Store),
      (claimFirst sourceBucket now requestIds canClaim >>= f).Safe (restoring digest) post last [] id
  | [], _, last => h none last (by simp)
  | _ :: _, [], last => h none last (by simp)
  | _ :: _, false :: _, last => h none last (by simp)
  | requestId :: requestIds, true :: canClaim, last => by
    rw [claimFirst]
    simp only [Prog.bind_assoc]
    refine safe_randomUUID fun owner last₁ _ => safe_takeLease fun won last₂ _ => ?_
    rw [Prog.ite_bind]
    split
    · rw [Prog.bind_assoc]
      refine safe_readBack fun lease last₃ _ hrequested => ?_
      exact h (some lease) last₃ fun l hl => by rwa [← Option.some.inj hl]
    · exact safe_claimFirst h requestIds canClaim last₂

/-- A request that is due is claimed. -/
theorem safe_claimRequest {sourceBucket : String} {canClaim : List Bool}
    {f : Option Lease → Call β}
    (h : ∀ lease last', (∀ l ∈ lease, Requested l.request last') →
      (f lease).Safe (restoring digest) post last' [] id) :
    (claimRequest sourceBucket canClaim >>= f).Safe (restoring digest) post last [] id := by
  rw [claimRequest, Prog.bind_assoc]
  refine Prog.Safe.query fun s₀ _ _ _ => ?_
  split
  · rw [Prog.bind_assoc]
    exact Prog.Safe.query fun s₁ _ _ _ => safe_claimFirst h _ _ s₁
  · exact h none s₀ (by simp)

/-! ### Requests to the storages -/

/-- The look at the source writes nothing. -/
theorem readOnly_headSource (config : Config) (key : String) (answer : Answer) :
    (headSource config key answer).ReadOnly := by
  rw [headSource]
  unfold request
  refine (Prog.ReadOnly.require _ _).bind fun _ => ?_
  cases answer with
  | answered =>
    refine (Prog.ReadOnly.query _).bind fun _ => (Prog.ReadOnly.expect _ _).bind fun _ => ?_
    refine (Prog.ReadOnly.require _ _).bind fun _ => ?_
    rw [assertWithinLimit]
    exact (Prog.ReadOnly.require _ _).bind fun _ => trivial
  | failed code carriedOut => trivial

/-- What is read of the source is noted. -/
theorem safe_readSource {key etag : String} {answer : Answer} {f : List UInt8 → Call β}
    (h : ∀ bytes last', (restoring digest).Later last last' →
      .got key etag bytes ∈ last'.history → (f bytes).Safe (restoring digest) post last' [] id) :
    (readSource config key etag answer >>= f).Safe (restoring digest) post last [] id := by
  rw [readSource]
  unfold request
  rw [Prog.bind_assoc]
  refine Prog.Safe.require fun _ => ?_
  cases answer with
  | failed code carriedOut => trivial
  | answered =>
    simp only [Prog.bind_assoc]
    refine Prog.Safe.query fun s₀ _ hlast₀ _ => Prog.Safe.expect fun object _ => ?_
    refine Prog.Safe.require fun _ => ?_
    rw [assertWithinLimit]
    refine Prog.Safe.require fun _ => Prog.Safe.write fun s₁ _ hlast₁ _ => ?_
    refine safe_commitAside (aside_record _) fun s hlast => ?_
    exact h _ _ ((hlast₀.trans hlast₁).trans hlast)
      (List.mem_append_right _ (List.mem_singleton.mpr rfl))

/-- What a `PUT` has put is there from then on, if it is answered. -/
theorem safe_putNew {key : String} {bytes : List UInt8} {answer : Answer} {f : PUnit → Call β}
    (h : ∀ last', (restoring digest).Later last last' → last'.destination key = some bytes →
      (f ⟨⟩).Safe (restoring digest) post last' [] id) :
    (putNew key bytes answer >>= f).Safe (restoring digest) post last [] id := by
  unfold putNew
  rw [Prog.bind_assoc]
  refine Prog.Safe.require fun _ => ?_
  cases answer with
  | answered =>
    simp only [Prog.transaction, Prog.bind_assoc]
    refine Prog.Safe.writeUnless fun s₁ _ hlast₁ _ hnew => ?_
    refine Prog.Safe.commitAll fun s hs hlast hknows => ?_
    have hobject : SameUnder (.object key) s₁ s := hknows (_, _, _) List.mem_cons_self
    have hcommits := commits_put hs key bytes
    refine hcommits.conclude (fun l m hl hlock => ?_) ?_
    · subst hlock
      exact not_free_of_exclusive List.mem_cons_self hl
    · refine h _ ((hlast₁.trans hlast).tail hcommits.keeps) ?_
      have hnone : s.destination key = none := by
        have hobject : s.destination key = s₁.destination key := hobject
        rw [hobject]
        simpa using hnew
      simp [hnone]
  | failed code carriedOut =>
    cases carriedOut with
    | false => trivial
    | true =>
      simp only [Prog.transaction, Prog.bind_assoc, if_true]
      refine Prog.Safe.write fun s₁ _ _ _ => Prog.Safe.commitAll fun s hs hlast hknows => ?_
      refine (commits_put hs key bytes).conclude (fun l m hl hlock => ?_) trivial
      subst hlock
      exact not_free_of_exclusive List.mem_cons_self hl

/-- What is read of the copy is what is stored. -/
theorem safe_readBackup {key : String} {answer : Answer} {f : List UInt8 → Call β}
    (h : ∀ bytes last', (restoring digest).Later last last' →
      last'.destination key = some bytes → (f bytes).Safe (restoring digest) post last' [] id) :
    (readBackup config key answer >>= f).Safe (restoring digest) post last [] id := by
  rw [readBackup]
  unfold request
  rw [Prog.bind_assoc]
  refine Prog.Safe.require fun _ => ?_
  cases answer with
  | failed code carriedOut => trivial
  | answered =>
    simp only [Prog.bind_assoc]
    refine Prog.Safe.query fun s₀ _ hlast₀ _ => Prog.Safe.expect fun bytes hbytes => ?_
    rw [assertWithinLimit]
    exact Prog.Safe.require fun _ => h bytes s₀ hlast₀ hbytes

/-- The bytes of a source are those of one `GET` under the ETag that is returned with them. -/
theorem safe_capture {request : ObjectBackupRequest} {answers : Answers}
    {f : SourceIdentity × List UInt8 → Call β}
    (h : ∀ source bytes last', (restoring digest).Later last last' →
      .got request.sourceKey source.etag bytes ∈ last'.history → bytes.length = source.size →
      (∀ n ∈ request.expectedSize, n = bytes.length) →
      (f (source, bytes)).Safe (restoring digest) post last' [] id) :
    (capture config request answers >>= f).Safe (restoring digest) post last [] id := by
  rw [capture]
  simp only [Prog.bind_assoc]
  refine Prog.Safe.readOnly (readOnly_headSource _ _ _) fun before last₁ hlast₁ => ?_
  refine Prog.Safe.require fun hexpected => safe_readSource fun bytes last₂ hlast₂ hgot => ?_
  refine Prog.Safe.readOnly (readOnly_headSource _ _ _) fun after last₃ hlast₃ => ?_
  refine Prog.Safe.require fun hsame => ?_
  obtain ⟨-, -, -, hsize⟩ := hsame
  refine h before bytes last₃ ((hlast₁.trans hlast₂).trans hlast₃)
    ((keeps_of_later hlast₃).history _ hgot) hsize fun n hn => ?_
  rw [Option.all_eq_true] at hexpected
  rw [hsize]
  exact of_decide_eq_true (hexpected n hn)

/-! ### Generations -/

/-- A copy is begun. -/
theorem safe_createGeneration {requestId : ℕ} {backupBucket : String}
    {f : ObjectBackupGeneration → Call β}
    (h : ∀ generation last', (restoring digest).Later last last' → Generated generation last' →
      (f generation).Safe (restoring digest) post last' [] id) :
    (createGeneration requestId backupBucket >>= f).Safe (restoring digest) post last [] id := by
  rw [createGeneration]
  simp only [Prog.bind_assoc]
  refine safe_randomUUID fun captureId last₀ hlast₀ => Prog.Safe.query fun s₁ _ hlast₁ _ => ?_
  refine Prog.Safe.writeUnless fun s₂ _ hlast₂ _ _ => Prog.Safe.commitAll fun s hs hlast _ => ?_
  have hcommits := commits_generation ⟨requestId, captureId, backupBucket⟩ s₁.clock hs rfl
  refine hcommits.conclude (fun _ _ _ => id) (Prog.Safe.query fun s₃ _ hlast₃ _ => ?_)
  refine Prog.Safe.expect fun generation hgeneration => ?_
  have hlater := (((hlast₀.trans hlast₁).trans hlast₂).trans hlast).tail hcommits.keeps
  refine h generation s₃ (hlater.trans hlast₃) ⟨generation, ?_, .refl generation⟩
  exact Table.find?_of_mem (List.mem_of_find?_eq_some hgeneration)

/-! ### The end of a copy -/

/-- Nothing is known of the generation but what was read, and nothing of the lease. -/
theorem safe_verify {lease : Lease} {generation : ObjectBackupGeneration} {data : Verification}
    {f : PUnit → Call β} (hcopied : Copied digest lease.request generation data last)
    (h : ∀ last', (f ⟨⟩).Safe (restoring digest) post last' [] id) :
    (verify lease generation data >>= f).Safe (restoring digest) post last [] id := by
  rw [verify, Prog.transaction]
  simp only [Prog.bind_assoc]
  refine Prog.Safe.query fun s₀ _ hlast₀ _ => ?_
  refine Prog.Safe.claim fun s₁ _ hlast₁ _ hactive => ?_
  refine Prog.Safe.claim fun s₂ _ hlast₂ _ hgeneration => ?_
  refine Prog.Safe.commitAll fun s hs hlast hknows => ?_
  obtain ⟨r, hr, howned⟩ := (Option.any_eq_true _ _).mp hactive
  obtain ⟨g, hg, hrequest⟩ := (Option.any_eq_true _ _).mp hgeneration
  have hrow : SameUnder (.request lease.request.id) s₁ s := hknows (_, _, _) List.mem_cons_self
  have hstate : r.state = .copying := by
    simp only [isActive, isOwned, decide_eq_true_eq] at howned
    exact howned.1.1
  have hcopied₂ := hcopied.keeps (keeps_of_later ((hlast₀.trans hlast₁).trans hlast₂))
  have hrequest : generation.requestId = lease.request.id := by
    obtain ⟨g', hg', hsame⟩ := hcopied₂.generated
    obtain rfl : g = g' := Option.some.inj (hg.symm.trans hg')
    rw [← hsame.requestId]
    exact of_decide_eq_true hrequest
  refine (commits_verified hs (hcopied₂.keeps (keeps_of_later hlast)) hrequest (hrow r hr) hstate).conclude
    (fun l m hl hlock => ?_) (h _)
  subst hlock
  exact not_free_of_exclusive List.mem_cons_self hl

/-- What `fail` writes. -/
def failing (lease : Lease) (code : String) (now : Time) (s : Store) : Store :=
  (s.onRequests (·.modify lease.request.id
    (failed code (now + backoff lease.request.attempts * 1000)) (failed_id code _))).record
      (.wrote lease.request.id lease.owner)

/-- How far the update of `fail` has come: the row is not found to be under the lease, or it is
locked, and all that there is to write is written. -/
def Failing (lease : Lease) (write : Store → Store) (ids : List ℕ)
    (notes : List (Lock × Mode × Store)) (pending : Store → Store) : Prop :=
  pending = id ∧ (ids = [] ∨ ids = [lease.request.id]) ∨
    ids = [] ∧ pending = write ∧ ∃ s r, (.request lease.request.id, .exclusive, s) ∈ notes ∧
      s.requests.find? lease.request.id = some r ∧ r.state = .copying

/-- A request is put off. -/
theorem safe_fail {lease : Lease} {code : String} {f : PUnit → Call β}
    (h : ∀ last', (f ⟨⟩).Safe (restoring digest) post last' [] id) :
    (fail lease code >>= f).Safe (restoring digest) post last [] id := by
  rw [fail, Prog.transaction]
  simp only [Prog.bind_assoc]
  refine Prog.Safe.query fun s₀ _ _ _ => ?_
  refine Prog.Safe.updateMany
    (fun ids _ notes pending => Failing lease (failing lease code s₀.clock) ids notes pending)
    (fun s _ _ _ => .inl ⟨rfl, ?_⟩) (fun _ _ _ _ _ hI _ => hI)
    (fun b bs _ notes pending hI s _ _ _ => ?_) fun last₁ notes pending hI => ?_
  · split
    · exact .inr rfl
    · exact .inl rfl
  · obtain ⟨rfl, hids⟩ | ⟨hids, -⟩ := hI
    · obtain ⟨rfl, rfl⟩ : b = lease.request.id ∧ bs = [] := by simpa using hids
      split
      case isTrue hmatched =>
        obtain ⟨r, hr, howned⟩ := (Option.any_eq_true _ _).mp hmatched
        refine .inr ⟨rfl, rfl, s, r, List.mem_append_right _ List.mem_cons_self, hr, ?_⟩
        simp only [isOwned, decide_eq_true_eq] at howned
        exact howned.1
      case isFalse => exact .inl ⟨rfl, .inl rfl⟩
    · cases hids
  -- either the lease was lost and nothing is written, or the request is still owned and locked
  obtain ⟨rfl, -⟩ | ⟨-, rfl, s₁, r, hheld, hr, hstate⟩ := hI
  · exact safe_commitNothing fun last' _ => h last'
  · refine Prog.Safe.commitAll fun s hs _ hknows => ?_
    have hrow : SameUnder (.request lease.request.id) s₁ s := hknows _ hheld
    have hcommits : CommitsBackup digest (fun l => l = .request lease.request.id) s
        (failing lease code s₀.clock s) := by
      refine commits_request (f := failed code _) (h := failed_id code _) hs (hrow r hr) ?_
        ⟨rfl, rfl, rfl, rfl, rfl, rfl⟩ ?_ rfl rfl rfl fun _ hh => List.mem_append_left _ hh
      · rw [hstate]
        decide
      · rw [failed]
        split <;> exact ObjectBackupState.noConfusion
    refine hcommits.conclude (fun l m hl hlock => ?_) (h _)
    subst hlock
    exact not_free_of_exclusive hheld hl

/-! ### The calls -/

/-- What was copied was put under new keys and read back from there. -/
theorem safe_copy {lease : Lease} {answers : Answers} {f : PUnit → Call β}
    (hrequested : Requested lease.request last)
    (h : ∀ last', (f ⟨⟩).Safe (restoring digest) post last' [] id) :
    (copy config digest lease answers >>= f).Safe (restoring digest) post last [] id := by
  rw [copy, Prog.bind_assoc]
  refine safe_capture fun source bytes last₁ hlast₁ hgot hsize hexpected => ?_
  simp only [Prog.bind_assoc]
  refine safe_createGeneration fun generation last₂ hlast₂ hgenerated => ?_
  refine safe_putNew fun last₃ hlast₃ hput => ?_
  refine safe_readBackup fun restored last₄ hlast₄ _ => Prog.Safe.require fun _ => ?_
  refine Prog.Safe.query fun s₅ _ hlast₅ _ => ?_
  rw [id_eq]
  generalize hmetadata : manifest lease.request generation source (digest bytes)
    config.environment s₅.clock = metadata
  refine safe_putNew fun last₆ hlast₆ hmanifest => ?_
  refine safe_readBackup fun written last₇ hlast₇ _ => Prog.Safe.require fun _ => ?_
  have hlater₃ := keeps_of_later (((hlast₄.trans hlast₅).trans hlast₆).trans hlast₇)
  have hlater₂ := (keeps_of_later hlast₃).trans hlater₃
  have hlater₁ := (keeps_of_later hlast₂).trans hlater₂
  have hsource : (⟨source.etag, source.lastModified, bytes.length⟩ : SourceIdentity) = source := by
    rw [hsize]
  have hcopied : Copied digest lease.request generation
      ⟨source.etag, source.lastModified, bytes.length, digest bytes, s₅.clock⟩ last₇ := by
    refine ⟨hrequested.keeps ((keeps_of_later hlast₁).trans hlater₁),
      hgenerated.keeps hlater₂, bytes, config.environment, hlater₃.object _ _ hput, rfl, hexpected,
      rfl, hlater₁.history _ hgot, ?_⟩
    rw [hsource, hmetadata]
    exact (keeps_of_later hlast₇).object _ _ hmanifest
  exact safe_verify hcopied h

/-- `runOne` keeps the discipline. -/
theorem safe_runOne {canClaim : List Bool} {answers : Answers} :
    (runOne config digest canClaim answers).Safe (restoring digest) (fun _ _ _ _ => True) last []
      id := by
  rw [runOne]
  refine safe_claimRequest fun lease last' hrequested => ?_
  cases lease with
  | none => trivial
  | some lease =>
    refine Prog.Safe.tryCatch ?_ fun e last'' => safe_fail fun _ => trivial
    exact safe_copy (hrequested lease rfl) fun _ => trivial

/-! ### The system -/

/-- A call of a runner, or of anybody that a runner has to do with. -/
inductive BackupCall
  | runOne (config : Config) (canClaim : List Bool) (answers : Answers)
  | enqueueDocumentBackup (params : VersionParams)
  | changeSource (key : String) (object : Option SourceObject)
  | wait (milliseconds : ℕ)

/-- What the call runs. -/
def BackupCall.call (digest : List UInt8 → String) : BackupCall → Call PUnit
  | runOne config canClaim answers => do
    let _ ← BackupRunner.runOne config digest canClaim answers
    pure ⟨⟩
  | enqueueDocumentBackup params => Backup.enqueueDocumentBackup params
  | changeSource key object => Backup.changeSource key object
  | wait milliseconds => Backup.wait milliseconds

/-- Every call keeps the discipline. -/
theorem BackupCall.safe (c : BackupCall) (last : Store) :
    (c.call digest).Safe (restoring digest) (fun _ _ _ _ => True) last [] id := by
  cases c with
  | runOne config canClaim answers => exact safe_runOne.bind fun _ _ _ _ _ => trivial
  | enqueueDocumentBackup params =>
    rw [call, Backup.enqueueDocumentBackup]
    refine Prog.Safe.query fun s₀ _ _ _ => ?_
    rw [Prog.transaction]
    refine Prog.Safe.writeUnless fun s₁ _ _ _ _ => Prog.Safe.commitAll fun s hs _ _ => ?_
    exact (commits_requested params s₀.clock hs rfl).conclude
      (fun _ _ _ => id) trivial
  | changeSource key object =>
    rw [call, Backup.changeSource, Prog.transaction]
    refine Prog.Safe.write fun s₁ _ _ _ => ?_
    exact safe_commitAside (fun _ => ⟨rfl, rfl, rfl, fun _ hh => hh⟩) fun _ _ => trivial
  | wait milliseconds =>
    rw [call, Backup.wait, Prog.transaction]
    refine Prog.Safe.write fun s₁ _ _ _ => ?_
    exact safe_commitAside (fun _ => ⟨rfl, rfl, rfl, fun _ hh => hh⟩) fun _ _ => trivial

/-- Any number of calls, each of which may stop after any statement: a request that was verified at
some time is the same row from then on, and every verified request can be restored. -/
theorem restorable_of_calls {ι : Type} [DecidableEq ι] (hs : Backed digest s)
    (calls : ι → BackupCall) (es : List (Event ι Fault)) :
    (∀ r ∈ (runCalls s (fun i => (calls i).call digest) es).store.requests, r.state = .verified →
      Restorable digest r (runCalls s (fun i => (calls i).call digest) es).store) ∧
    ∀ es', es' <+: es → ∀ r ∈ (runCalls s (fun i => (calls i).call digest) es').store.requests,
      r.state = .verified → r ∈ (runCalls s (fun i => (calls i).call digest) es).store.requests := by
  have hstart : (Database.start s fun i => (calls i).call digest).Sound (restoring digest) :=
    Database.sound_start hs fun i => (calls i).safe s
  have horderly : ∀ es : List (Event ι Fault), EachStep (Database.next Lock.enforced)
      (Database.Orderly Lock.enforced (restoring digest).kept)
      (Database.start s fun i => (calls i).call digest) es := by
    refine Database.eachStep_orderly_of_enforced (fun l hl => ?_) _
    cases l with
    | lease requestId => cases hl
    | _ => rfl
  refine ⟨(Database.sound_run hstart (horderly es)).1.inv.restorable, ?_⟩
  rintro es' ⟨rest, rfl⟩ r hr hstate
  obtain ⟨-, hafter⟩ := eachStep_append.mp (horderly (es' ++ rest))
  have hbefore := (Database.sound_run hstart (horderly es')).1
  obtain ⟨-, hlater⟩ := Database.sound_run hbefore hafter
  rw [runCalls, runFrom_append]
  obtain ⟨r', hr', -, hsame⟩ := (keeps_of_later hlater).request r.id r (Table.find?_of_mem hr)
  obtain rfl := hsame hstate
  exact Table.mem_of_find? hr'

/-! ### A copy that is verified -/

/-- Nothing is verified where nothing was requested. -/
theorem backed_of_empty (hrequests : s.requests.rows = []) (hgenerations : s.generations.rows = []) :
    Backed digest s := by
  refine ⟨fun r hr => ?_, fun g hg => ?_⟩
  · rw [← Table.mem_rows, hrequests] at hr
    cases hr
  · rw [← Table.mem_rows, hgenerations] at hg
    cases hg

/-- A source of three bytes, and nothing that was copied. -/
def uploaded : Store where
  requests := .empty
  generations := .empty
  sources := fun key => if key = "a.pdf" then some
    { bytes := [1, 2, 3], etag := "e", lastModified := "Thu, 01 Jan 1970 00:00:00 GMT" } else none
  destination := fun _ => none
  clock := 0
  uuids := 0
  history := []

/-- The settings of the runs below. -/
def settings : Config where
  sourceBucket := "documents"
  destinationBucket := "backups"
  environment := "test"
  maxBytes := 1000

/-- Every request to a storage is answered. -/
def allAnswered : Answers :=
  ⟨.answered, .answered, .answered, .answered, .answered, .answered, .answered⟩

/-- Two runners, after a version was uploaded. -/
def uploadAndCopy : Fin 3 → BackupCall
  | 0 => .enqueueDocumentBackup
    { sourceBucket := "documents", sourceKey := "a.pdf", versionId := 0, fileSize := 3, uploadedAt := 0 }
  | _ => .runOne settings [true, true] allAnswered

/-- The runners take turns. -/
def takeTurns : List (Event (Fin 3) Fault) :=
  List.replicate 3 (Event.step 0) ++ (List.replicate 40 [Event.step 1, Event.step 2]).flatten

/-- A digest that tells no more than the size. -/
def sizeDigest (bytes : List UInt8) : String := toString bytes.length

/-- In the store of the runs nothing was backed up yet. -/
theorem backed_uploaded : Backed sizeDigest uploaded := backed_of_empty rfl rfl

theorem restorable_of_calls_uploadAndCopy :
    ((runCalls uploaded (fun i => (uploadAndCopy i).call sizeDigest) takeTurns).store.requests.rows.map
      ObjectBackupRequest.state) = [.verified] ∧
    ∀ r ∈ (runCalls uploaded (fun i => (uploadAndCopy i).call sizeDigest) takeTurns).store.requests,
      r.state = .verified → Restorable sizeDigest r
        (runCalls uploaded (fun i => (uploadAndCopy i).call sizeDigest) takeTurns).store :=
  ⟨by decide +kernel, (restorable_of_calls backed_uploaded uploadAndCopy takeTurns).1⟩

end VielHome.Backup
