import VielHome.Backup.Runner
import VielHome.Relational.Discipline

/-!
# Verified means restorable

A request is verified together with one of its generations, and neither changes afterwards. Nor does
an object of the destination, so what was read back under the keys of the generation stays there
(`Restorable`). Only the commit that verifies a request has something to prove (`commits_verified`);
all others leave verified rows and objects as they are (`Restorable.of_keeps`).
-/

namespace VielHome.Backup

open Relational
open Community (Time)
open Relational.ReadCommitted (Discipline Free Mode)
open BackupRepository

variable {s s' : Store} {digest : List UInt8 → String}

/-! ### The invariant -/

/-- What can be restored from a generation: the object under its key is the source as it was read
once under the recorded ETag, with the recorded size and digest, and the manifest says so. -/
structure IsBackup (digest : List UInt8 → String) (r : ObjectBackupRequest)
    (g : ObjectBackupGeneration) (s : Store) : Prop where
  copied : ∃ bytes source environment verifiedAt, s.destination g.backupKey = some bytes ∧
    g.observedSize = some bytes.length ∧ (∀ n ∈ r.expectedSize, n = bytes.length) ∧
    g.sha256 = some (digest bytes) ∧ g.sourceETag = some source.etag ∧
    g.sourceLastModified = some source.lastModified ∧ source.size = bytes.length ∧
    .got r.sourceKey source.etag bytes ∈ s.history ∧ g.verifiedAt = some verifiedAt ∧
    s.destination g.manifestKey =
      some (manifest r g source (digest bytes) environment verifiedAt)

/-- The request has exactly one generation that was verified, and can be restored from it. -/
def Restorable (digest : List UInt8 → String) (r : ObjectBackupRequest) (s : Store) : Prop :=
  ∃ g ∈ s.generations, g.requestId = r.id ∧ IsBackup digest r g s ∧
    ∀ g' ∈ s.generations, g'.requestId = r.id → g'.verifiedAt ≠ none → g' = g

/-- What holds of the committed tables and objects. -/
structure Backed (digest : List UInt8 → String) (s : Store) : Prop where
  restorable : ∀ r ∈ s.requests, r.state = .verified → Restorable digest r s
  verified : ∀ g ∈ s.generations, g.verifiedAt ≠ none →
    ∃ r ∈ s.requests, r.id = g.requestId ∧ r.state = .verified

/-! ### What a commit keeps -/

/-- The request asks for the same object. -/
structure SameRequest (r r' : ObjectBackupRequest) : Prop where
  id : r'.id = r.id
  sourceBucket : r'.sourceBucket = r.sourceBucket
  sourceKey : r'.sourceKey = r.sourceKey
  referenceType : r'.referenceType = r.referenceType
  referenceId : r'.referenceId = r.referenceId
  expectedSize : r'.expectedSize = r.expectedSize

theorem SameRequest.refl (r : ObjectBackupRequest) : SameRequest r r := ⟨rfl, rfl, rfl, rfl, rfl, rfl⟩

theorem SameRequest.trans {r r' r'' : ObjectBackupRequest} (h : SameRequest r r')
    (h' : SameRequest r' r'') : SameRequest r r'' :=
  ⟨h'.id.trans h.id, h'.sourceBucket.trans h.sourceBucket, h'.sourceKey.trans h.sourceKey,
    h'.referenceType.trans h.referenceType, h'.referenceId.trans h.referenceId,
    h'.expectedSize.trans h.expectedSize⟩

/-- The generation is the same copy. -/
structure SameGeneration (g g' : ObjectBackupGeneration) : Prop where
  id : g'.id = g.id
  requestId : g'.requestId = g.requestId
  captureId : g'.captureId = g.captureId
  backupBucket : g'.backupBucket = g.backupBucket
  backupKey : g'.backupKey = g.backupKey
  manifestKey : g'.manifestKey = g.manifestKey
  createdAt : g'.createdAt = g.createdAt

theorem SameGeneration.refl (g : ObjectBackupGeneration) : SameGeneration g g :=
  ⟨rfl, rfl, rfl, rfl, rfl, rfl, rfl⟩

theorem SameGeneration.trans {g g' g'' : ObjectBackupGeneration} (h : SameGeneration g g')
    (h' : SameGeneration g' g'') : SameGeneration g g'' :=
  ⟨h'.id.trans h.id, h'.requestId.trans h.requestId, h'.captureId.trans h.captureId,
    h'.backupBucket.trans h.backupBucket, h'.backupKey.trans h.backupKey,
    h'.manifestKey.trans h.manifestKey, h'.createdAt.trans h.createdAt⟩

/-- The manifest depends on nothing that changes. -/
theorem manifest_congr {r r' : ObjectBackupRequest} {g g' : ObjectBackupGeneration}
    (hr : SameRequest r r') (hg : SameGeneration g g') (source : SourceIdentity)
    (sha256 environment : String) (verifiedAt : Time) :
    manifest r' g' source sha256 environment verifiedAt =
      manifest r g source sha256 environment verifiedAt := by
  rw [manifest, manifest, manifestText, manifestText, hr.sourceBucket, hr.sourceKey,
    hr.referenceType, hr.referenceId, hg.backupBucket, hg.backupKey, hg.captureId, hg.createdAt]

/-- Requests and generations stay what they are, and do not change any more once they are verified;
the objects of the destination and what has happened stay. -/
structure Keeps (s s' : Store) : Prop where
  request : ∀ id r, s.requests.find? id = some r → ∃ r', s'.requests.find? id = some r' ∧
    SameRequest r r' ∧ (r.state = .verified → r' = r)
  generation : ∀ id g, s.generations.find? id = some g →
    ∃ g', s'.generations.find? id = some g' ∧ SameGeneration g g' ∧ (g.verifiedAt ≠ none → g' = g)
  object : ∀ key bytes, s.destination key = some bytes → s'.destination key = some bytes
  history : ∀ h ∈ s.history, h ∈ s'.history

theorem IsBackup.keeps {r : ObjectBackupRequest} {g : ObjectBackupGeneration}
    (h : IsBackup digest r g s) (hkeeps : Keeps s s') : IsBackup digest r g s' := by
  obtain ⟨bytes, source, environment, verifiedAt, hobject, hsize, hexpected, hdigest, hetag, hmodified,
    hsource, hgot, hverified, hmanifest⟩ := h.copied
  exact ⟨bytes, source, environment, verifiedAt, hkeeps.object _ _ hobject, hsize, hexpected, hdigest,
    hetag, hmodified, hsource, hkeeps.history _ hgot, hverified, hkeeps.object _ _ hmanifest⟩

theorem IsBackup.isVerified {r : ObjectBackupRequest} {g : ObjectBackupGeneration}
    (h : IsBackup digest r g s) : g.verifiedAt ≠ none := by
  obtain ⟨-, -, -, verifiedAt, -, -, -, -, -, -, -, -, hverified, -⟩ := h.copied
  rw [hverified]
  exact Option.some_ne_none verifiedAt

/-- A commit that verifies nothing leaves whatever was verified restorable. -/
theorem Backed.of_keeps (hs : Backed digest s) (hkeeps : Keeps s s')
    (hrequests : ∀ r ∈ s'.requests, r.state = .verified → r ∈ s.requests)
    (hgenerations : ∀ g ∈ s'.generations, g.verifiedAt ≠ none → g ∈ s.generations) :
    Backed digest s' := by
  refine ⟨fun r hr hstate => ?_, fun g hg hverified => ?_⟩
  · obtain ⟨g, hg, hid, hbackup, honly⟩ := hs.restorable r (hrequests r hr hstate) hstate
    obtain ⟨g', hg', -, hsame⟩ := hkeeps.generation g.id g (Table.find?_of_mem hg)
    obtain rfl := hsame hbackup.isVerified
    exact ⟨g', Table.mem_of_find? hg', hid, hbackup.keeps hkeeps,
      fun g hg hid hverified => honly g (hgenerations g hg hverified) hid hverified⟩
  · obtain ⟨r, hr, hid, hstate⟩ := hs.verified g (hgenerations g hg hverified) hverified
    obtain ⟨r', hr', -, hsame⟩ := hkeeps.request r.id r (Table.find?_of_mem hr)
    obtain rfl := hsame hstate
    exact ⟨r', Table.mem_of_find? hr', hid, hstate⟩

/-- What a lock protects: the row of a request, or an object of the destination. -/
def SameUnder : Lock → Store → Store → Prop
  | .request id, s, s' => ∀ r, s.requests.find? id = some r → s'.requests.find? id = some r
  | .object key, s, s' => s'.destination key = s.destination key
  | _, _, _ => True

theorem SameUnder.refl (l : Lock) (s : Store) : SameUnder l s s := by
  cases l with
  | request id => exact fun _ hr => hr
  | object key => rfl
  | _ => trivial

theorem SameUnder.trans {s'' : Store} {l : Lock} (h : SameUnder l s s') (h' : SameUnder l s' s'') :
    SameUnder l s s'' := by
  cases l with
  | request id => exact fun r hr => h' r (h r hr)
  | object key => exact Eq.trans h' h
  | _ => trivial

/-- Every commit keeps what was verified restorable. -/
def restoring (digest : List UInt8 → String) : Discipline Store Lock where
  inv := Backed digest
  commits := Keeps
  kept
    | .request _ => true
    | .object _ => true
    | _ => false
  same l _ := SameUnder l
  same_refl l _ s := .refl l s
  same_trans _ _ _ _ _ h h' := h.trans h'

/-- What a commit keeps, with the locks of what it writes. -/
structure CommitsBackup (digest : List UInt8 → String) (written : Lock → Prop) (s s' : Store) :
    Prop where
  backed : Backed digest s'
  keeps : Keeps s s'
  same : ∀ l, ¬ written l → SameUnder l s s'

/-- A session writes nothing but what it holds the locks of. -/
theorem CommitsBackup.conclude {written : Lock → Prop} (h : CommitsBackup digest written s s')
    {notes : List (Lock × Mode × Store)} {P : Prop}
    (hheld : ∀ l m, Free notes l m → ¬ written l) (hrest : P) :
    Backed digest s' ∧ Keeps s s' ∧ (∀ l m, Free notes l m → SameUnder l s s') ∧ P :=
  ⟨h.backed, h.keeps, fun l m hl => h.same l (hheld l m hl), hrest⟩

/-! ### One lemma for each kind of commit -/

/-- Only rows of requests and objects of the destination are protected. -/
theorem sameUnder_of {l : Lock}
    (hrow : ∀ id r, l = .request id → s.requests.find? id = some r → s'.requests.find? id = some r)
    (hobject : ∀ key, l = .object key → s'.destination key = s.destination key) :
    SameUnder l s s' := by
  cases l with
  | request id => exact fun r => hrow id r rfl
  | object key => exact hobject key rfl
  | _ => trivial

theorem keepsRequest_of_eq (h : s'.requests = s.requests) (id : ℕ) (r : ObjectBackupRequest)
    (hr : s.requests.find? id = some r) : ∃ r', s'.requests.find? id = some r' ∧
      SameRequest r r' ∧ (r.state = .verified → r' = r) :=
  ⟨r, h ▸ hr, .refl r, fun _ => rfl⟩

theorem keepsGeneration_of_eq (h : s'.generations = s.generations) (id : ℕ)
    (g : ObjectBackupGeneration) (hg : s.generations.find? id = some g) :
    ∃ g', s'.generations.find? id = some g' ∧ SameGeneration g g' ∧ (g.verifiedAt ≠ none → g' = g) :=
  ⟨g, h ▸ hg, .refl g, fun _ => rfl⟩

/-- A commit that leaves the tables and the destination alone. -/
theorem commits_aside (hs : Backed digest s) (hrequests : s'.requests = s.requests)
    (hgenerations : s'.generations = s.generations) (hdestination : s'.destination = s.destination)
    (hhistory : ∀ h ∈ s.history, h ∈ s'.history) :
    CommitsBackup digest (fun _ => False) s s' := by
  have hkeeps : Keeps s s' := ⟨keepsRequest_of_eq hrequests, keepsGeneration_of_eq hgenerations,
    fun _ _ hbytes => hdestination ▸ hbytes, hhistory⟩
  exact ⟨hs.of_keeps hkeeps (fun r hr _ => hrequests ▸ hr) fun g hg _ => hgenerations ▸ hg, hkeeps,
    fun _ _ => sameUnder_of (fun _ _ _ hr => hrequests ▸ hr) fun _ _ => by rw [hdestination]⟩

/-- An object is put, unless there is one. -/
theorem commits_put (hs : Backed digest s) (key : String) (bytes : List UInt8) :
    CommitsBackup digest (fun l => l = .object key) s (s.putIfAbsent key bytes) := by
  have hobject : ∀ key' bytes', s.destination key' = some bytes' →
      (s.putIfAbsent key bytes).destination key' = some bytes' := by
    intro key' bytes' hbytes
    rw [Store.putIfAbsent_destination]
    by_cases hkey : key' = key
    · subst hkey
      rw [Function.update_self, hbytes, Option.getD_some]
    · rw [Function.update_of_ne hkey, hbytes]
  have hkeeps : Keeps s (s.putIfAbsent key bytes) :=
    ⟨keepsRequest_of_eq rfl, keepsGeneration_of_eq rfl, hobject, fun _ hh => hh⟩
  refine ⟨hs.of_keeps hkeeps (fun r hr _ => hr) fun g hg _ => hg, hkeeps, fun l hl => ?_⟩
  refine sameUnder_of (fun _ _ _ hr => hr) fun key' hkey' => ?_
  subst hkey'
  rw [Store.putIfAbsent_destination, Function.update_of_ne fun h => hl (congrArg Lock.object h)]

/-- A request is written that is not verified, neither before nor after. -/
theorem commits_request {id : ℕ} {f : ObjectBackupRequest → ObjectBackupRequest}
    {h : ∀ r, (f r).id = r.id} {r : ObjectBackupRequest} (hs : Backed digest s)
    (hr : s.requests.find? id = some r) (hstate : r.state ≠ .verified)
    (hsame : SameRequest r (f r)) (hstate' : (f r).state ≠ .verified)
    (hrequests : s'.requests = s.requests.modify id f h)
    (hgenerations : s'.generations = s.generations)
    (hdestination : s'.destination = s.destination) (hhistory : ∀ h ∈ s.history, h ∈ s'.history) :
    CommitsBackup digest (fun l => l = .request id) s s' := by
  have hother : ∀ k, k ≠ id → s'.requests.find? k = s.requests.find? k := by
    intro k hk
    rw [hrequests, Table.find?_modify_ne hk]
  have hself : s'.requests.find? id = some (f r) := by
    rw [hrequests]
    exact Table.find?_modify_self hr
  have hkeeps : Keeps s s' := by
    refine ⟨fun k r' hr' => ?_, keepsGeneration_of_eq hgenerations,
      fun key bytes hbytes => hdestination ▸ hbytes, hhistory⟩
    by_cases hk : k = id
    · subst hk
      obtain rfl : r = r' := Option.some.inj (hr.symm.trans hr')
      exact ⟨f r, hself, hsame, fun h => absurd h hstate⟩
    · exact ⟨r', (hother k hk).trans hr', .refl r', fun _ => rfl⟩
  refine ⟨hs.of_keeps hkeeps (fun r' hr' hverified => ?_) fun g hg _ => hgenerations ▸ hg, hkeeps,
    fun l hl => sameUnder_of (fun k r' hk hr' => (hother k fun h => hl (hk.trans (h ▸ rfl))).trans hr')
      fun _ _ => by rw [hdestination]⟩
  have hfind := Table.find?_of_mem hr'
  by_cases hk : r'.id = id
  · rw [hk, hself] at hfind
    obtain rfl := Option.some.inj hfind
    exact absurd hverified hstate'
  · rw [hother _ hk] at hfind
    exact Table.mem_of_find? hfind

theorem commits_requested (params : VersionParams) (now : Time) (hs : Backed digest s)
    (h : s' = s.onRequests (·.create (params.row now) fun _ => rfl)) :
    CommitsBackup digest (fun _ => False) s s' := by
  have hold : ∀ id r, s.requests.find? id = some r → s'.requests.find? id = some r := by
    intro id r hr
    rw [h]
    exact Table.find?_create_of_find? (h := fun _ => rfl) hr
  have hkeeps : Keeps s s' :=
    ⟨fun id r hr => ⟨r, hold id r hr, .refl r, fun _ => rfl⟩,
      keepsGeneration_of_eq (by rw [h]; rfl), fun _ _ hbytes => h ▸ hbytes, fun _ hh => h ▸ hh⟩
  refine ⟨hs.of_keeps hkeeps (fun r hr hverified => ?_) fun g hg _ => ?_, hkeeps,
    fun _ _ => sameUnder_of (fun id r _ hr => hold id r hr) fun _ _ => by rw [h]; rfl⟩
  · rw [h] at hr
    rcases (Table.mem_create (h := fun _ => rfl)).mp hr with hr | rfl
    · exact hr
    · cases hverified
  · rw [h] at hg
    exact hg

theorem commits_generation (params : GenerationParams) (now : Time) (hs : Backed digest s)
    (h : s' = s.onGenerations (·.create (params.row now) (params.row_id now))) :
    CommitsBackup digest (fun _ => False) s s' := by
  have hrequests : s'.requests = s.requests := by rw [h]; rfl
  have hkeeps : Keeps s s' := by
    refine ⟨keepsRequest_of_eq hrequests, fun id g hg => ⟨g, ?_, .refl g, fun _ => rfl⟩,
      fun _ _ hbytes => h ▸ hbytes, fun _ hh => h ▸ hh⟩
    rw [h]
    exact Table.find?_create_of_find? (h := params.row_id now) hg
  refine ⟨hs.of_keeps hkeeps (fun r hr _ => hrequests ▸ hr) fun g hg hverified => ?_, hkeeps,
    fun _ _ => sameUnder_of (fun _ _ _ hr => hrequests ▸ hr) fun _ _ => by rw [h]; rfl⟩
  rw [h] at hg
  rcases (Table.mem_create (h := params.row_id now)).mp hg with hg | rfl
  · exact hg
  · exact absurd rfl hverified

/-- What is known before a request is verified: its generation is there, the source was read, and
what was read back under the two keys is the copy and its manifest. -/
structure Copied (digest : List UInt8 → String) (request : ObjectBackupRequest)
    (generation : ObjectBackupGeneration) (data : Verification) (s : Store) : Prop where
  requested : ∃ r, s.requests.find? request.id = some r ∧ SameRequest request r
  generated : ∃ g, s.generations.find? generation.id = some g ∧ SameGeneration generation g
  copied : ∃ bytes environment, s.destination generation.backupKey = some bytes ∧
    data.observedSize = bytes.length ∧ (∀ n ∈ request.expectedSize, n = bytes.length) ∧
    data.sha256 = digest bytes ∧ .got request.sourceKey data.sourceETag bytes ∈ s.history ∧
    s.destination generation.manifestKey = some (manifest request generation
      { etag := data.sourceETag, lastModified := data.sourceLastModified, size := bytes.length }
      (digest bytes) environment data.verifiedAt)

section Verified

variable {request r : ObjectBackupRequest} {generation g : ObjectBackupGeneration}
  {data : Verification} {owner : Uuid}

variable (request generation data owner s) in
/-- The store after the request and its generation have been verified. -/
def verifiedIn : Store :=
  ((s.onRequests (·.modify request.id verified verified_id)).record
    (.wrote request.id owner)).onGenerations
      (·.modify generation.id data.complete data.complete_id)

theorem request_verifiedIn_of_ne {id : Uuid} (h : id ≠ request.id) :
    (verifiedIn s request generation data owner).requests.find? id = s.requests.find? id :=
  Table.find?_modify_ne (h := verified_id) h

theorem request_verifiedIn (hr : s.requests.find? request.id = some r) :
    (verifiedIn s request generation data owner).requests.find? request.id = some (verified r) :=
  Table.find?_modify_self (h := verified_id) hr

theorem generation_verifiedIn_of_ne {id : Uuid} (h : id ≠ generation.id) :
    (verifiedIn s request generation data owner).generations.find? id = s.generations.find? id :=
  Table.find?_modify_ne (h := data.complete_id) h

theorem generation_verifiedIn (hg : s.generations.find? generation.id = some g) :
    (verifiedIn s request generation data owner).generations.find? generation.id =
      some (data.complete g) :=
  Table.find?_modify_self (h := data.complete_id) hg

/-- A generation is the one that is verified, or was there before. -/
theorem mem_generations_verifiedIn (hg : s.generations.find? generation.id = some g)
    {g' : ObjectBackupGeneration}
    (hg' : g' ∈ (verifiedIn s request generation data owner).generations) :
    g' = data.complete g ∨ g' ∈ s.generations := by
  have hfind := Table.find?_of_mem hg'
  by_cases hid : g'.id = generation.id
  · rw [hid, generation_verifiedIn hg] at hfind
    exact Or.inl (Option.some.inj hfind).symm
  · rw [generation_verifiedIn_of_ne hid] at hfind
    exact Or.inr (Table.mem_of_find? hfind)

/-- No generation of a request that is still copied was verified. -/
theorem Backed.verifiedAt_eq_none (hs : Backed digest s)
    (hr : s.requests.find? request.id = some r) (hstate : r.state = .copying) :
    ∀ g ∈ s.generations, g.requestId = request.id → g.verifiedAt = none := by
  intro g hg hid
  by_contra hverified
  obtain ⟨r', hr', hrid, hrstate⟩ := hs.verified g hg hverified
  have hfind := Table.find?_of_mem hr'
  rw [hrid, hid, hr] at hfind
  obtain rfl := Option.some.inj hfind
  rw [hstate] at hrstate
  cases hrstate

theorem keeps_verifiedIn (hr : s.requests.find? request.id = some r) (hstate : r.state = .copying)
    (hg : s.generations.find? generation.id = some g) (hfresh : g.verifiedAt = none) :
    Keeps s (verifiedIn s request generation data owner) where
  request id r' hr' := by
    by_cases hid : id = request.id
    · subst hid
      obtain rfl : r = r' := Option.some.inj (hr.symm.trans hr')
      exact ⟨_, request_verifiedIn hr, ⟨rfl, rfl, rfl, rfl, rfl, rfl⟩,
        fun h => by rw [hstate] at h; cases h⟩
    · exact ⟨r', (request_verifiedIn_of_ne hid).trans hr', .refl r', fun _ => rfl⟩
  generation id g' hg' := by
    by_cases hid : id = generation.id
    · subst hid
      obtain rfl : g = g' := Option.some.inj (hg.symm.trans hg')
      exact ⟨_, generation_verifiedIn hg, ⟨rfl, rfl, rfl, rfl, rfl, rfl, rfl⟩,
        fun h => absurd hfresh h⟩
    · exact ⟨g', (generation_verifiedIn_of_ne hid).trans hg', .refl g', fun _ => rfl⟩
  object _ _ hbytes := hbytes
  history _ hh := List.mem_append_left _ hh

/-- What was copied can be restored from the generation that is verified. -/
theorem Copied.isBackup (h : Copied digest request generation data s)
    (hr : s.requests.find? request.id = some r)
    (hg : s.generations.find? generation.id = some g) :
    IsBackup digest (verified r) (data.complete g) (verifiedIn s request generation data owner) := by
  obtain ⟨r₀, hr₀, hsame⟩ := h.requested
  obtain rfl : r = r₀ := Option.some.inj (hr.symm.trans hr₀)
  obtain ⟨g₀, hg₀, hgsame⟩ := h.generated
  obtain rfl : g = g₀ := Option.some.inj (hg.symm.trans hg₀)
  obtain ⟨bytes, environment, hobject, hsize, hexpected, hdigest, hgot, hmanifest⟩ := h.copied
  have hsame' : SameRequest request (verified r) :=
    ⟨hsame.id, hsame.sourceBucket, hsame.sourceKey, hsame.referenceType, hsame.referenceId,
      hsame.expectedSize⟩
  have hgsame' : SameGeneration generation (data.complete g) :=
    ⟨hgsame.id, hgsame.requestId, hgsame.captureId, hgsame.backupBucket, hgsame.backupKey,
      hgsame.manifestKey, hgsame.createdAt⟩
  refine ⟨bytes,
    { etag := data.sourceETag, lastModified := data.sourceLastModified, size := bytes.length },
    environment, data.verifiedAt, ?_, congrArg some hsize, fun n hn => hexpected n ?_,
    congrArg some hdigest, rfl, rfl, rfl, List.mem_append_left _ ?_, rfl, ?_⟩
  · rw [show (data.complete g).backupKey = generation.backupKey from hgsame.backupKey]
    exact hobject
  · rw [← hsame.expectedSize]
    exact hn
  · rw [show (verified r).sourceKey = request.sourceKey from hsame.sourceKey]
    exact hgot
  · rw [show (data.complete g).manifestKey = generation.manifestKey from hgsame.manifestKey,
      manifest_congr hsame' hgsame']
    exact hmanifest

end Verified

/-- The request and its generation are verified together. -/
theorem commits_verified {request : ObjectBackupRequest} {generation : ObjectBackupGeneration}
    {data : Verification} {owner : Uuid} {r : ObjectBackupRequest} (hs : Backed digest s)
    (hcopied : Copied digest request generation data s) (hrequest : generation.requestId = request.id)
    (hr : s.requests.find? request.id = some r) (hstate : r.state = .copying) :
    CommitsBackup digest (fun l => l = .request request.id) s
      (((s.onRequests (·.modify request.id verified verified_id)).record
        (.wrote request.id owner)).onGenerations
          (·.modify generation.id data.complete data.complete_id)) := by
  change CommitsBackup digest (fun l => l = .request request.id) s
    (verifiedIn s request generation data owner)
  obtain ⟨g, hg, hgsame⟩ := hcopied.generated
  have hgid : g.requestId = request.id := hgsame.requestId.trans hrequest
  have hfresh := hs.verifiedAt_eq_none hr hstate
  have hkeeps : Keeps s (verifiedIn s request generation data owner) :=
    keeps_verifiedIn hr hstate hg (hfresh g (Table.mem_of_find? hg) hgid)
  have hself : (verifiedIn s request generation data owner).requests.find? request.id =
      some (verified r) := request_verifiedIn hr
  refine ⟨⟨fun r' hr' hverified => ?_, fun g' hg' hverified => ?_⟩, hkeeps,
    fun l hl => sameUnder_of
      (fun k r' hk hr' => (request_verifiedIn_of_ne fun h => hl (hk.trans (h ▸ rfl))).trans hr')
      fun _ _ => rfl⟩
  · have hfind := Table.find?_of_mem hr'
    by_cases hk : r'.id = request.id
    · -- the request that is verified now
      rw [hk, hself] at hfind
      obtain rfl := Option.some.inj hfind
      refine ⟨data.complete g, Table.mem_of_find? (generation_verifiedIn hg), hgid.trans hk.symm,
        hcopied.isBackup hr hg, fun g' hg' hid hverified => ?_⟩
      rcases mem_generations_verifiedIn hg hg' with heq | hold
      · exact heq
      · exact absurd (hfresh g' hold (hid.trans hk)) hverified
    · -- a request that was verified before
      rw [request_verifiedIn_of_ne hk] at hfind
      obtain ⟨g', hg', hid, hbackup, honly⟩ := hs.restorable r' (Table.mem_of_find? hfind) hverified
      obtain ⟨g'', hg'', -, hkept⟩ := hkeeps.generation g'.id g' (Table.find?_of_mem hg')
      obtain rfl := hkept hbackup.isVerified
      refine ⟨g'', Table.mem_of_find? hg'', hid, hbackup.keeps hkeeps,
        fun g₂ hg₂ hid₂ hverified₂ => ?_⟩
      rcases mem_generations_verifiedIn hg hg₂ with rfl | hold
      · exact absurd (hid₂.symm.trans hgid) hk
      · exact honly g₂ hold hid₂ hverified₂
  · rcases mem_generations_verifiedIn hg hg' with rfl | hold
    · exact ⟨verified r, Table.mem_of_find? hself, (Table.key_of_find? hself).trans hgid.symm, rfl⟩
    · obtain ⟨r', hr', hid, hstate'⟩ := hs.verified g' hold hverified
      obtain ⟨r'', hr'', -, hkept⟩ := hkeeps.request r'.id r' (Table.find?_of_mem hr')
      obtain rfl := hkept hstate'
      exact ⟨r'', Table.mem_of_find? hr'', hid, hstate'⟩

end VielHome.Backup
