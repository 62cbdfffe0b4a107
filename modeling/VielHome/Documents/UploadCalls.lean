import VielHome.Documents.Bindings

/-!
# The calls that upload files

One lemma for each statement and each call: it keeps the versions bound to their intents, and
their backup requests with them (`UploadCall.safe`). So this holds of any number of calls, statement
by statement in any order (`trusted_of_calls`, `backed_of_calls`).
-/

namespace VielHome.Documents

open Relational Community
open DocumentRepository DocumentsService
open Relational.ReadCommitted (Database Discipline Event Free Mode Prog not_free_of_exclusive)
open Relational.ReadCommitted.Prog.Safe (Clean)

variable {s : Store} {config : Config} {receipts : Bool} {α β : Type} {last : Store}
  {notes : List (Lock × Mode × Store)} {pending : Store → Store} {now : Time}
  {post : β → Store → List (Lock × Mode × Store) → (Store → Store) → Prop}

/-! ### What a session knows of the rows it has read -/

/-- The intent was issued as it is, and may have been consumed since. -/
def Issued (i : DocumentUploadIntent) (s : Store) : Prop :=
  ∃ consumedAt, s.uploadIntents.find? i.id = some { i with consumedAt }

/-- An intent that is found was issued. -/
theorem issued_of_find? {id : ℕ} {i : DocumentUploadIntent}
    (h : s.uploadIntents.find? id = some i) : Issued i s := by
  obtain rfl : i.id = id := Table.key_of_find? h
  exact ⟨i.consumedAt, h⟩

/-- An intent that was issued stays so. -/
theorem Issued.later {i : DocumentUploadIntent} (h : Issued i last)
    (hlast : (uploads config receipts).Later last s) : Issued i s := by
  refine hlast.keeps (P := Issued i) (fun s s' hcommit hi => ?_) h
  obtain ⟨consumedAt, hi⟩ := hi
  obtain ⟨consumedAt', hi', -⟩ := hcommit.1.intents _ _ hi
  exact ⟨consumedAt', hi'⟩

/-- A document that is there stays. -/
theorem find?_documents_later {id : ℕ} {d : Document} (h : last.documents.find? id = some d)
    (hlast : (uploads config receipts).Later last s) : s.documents.find? id = some d := by
  refine hlast.keeps (P := fun s => s.documents.find? id = some d) (fun s s' hcommit hd => ?_) h
  exact hcommit.1.documents _ _ hd

/-- The file is the one that the intent declares. -/
structure Declares (i : DocumentUploadIntent) (file : FileParams) : Prop where
  storageKey : i.storageKey = file.fileUrl
  fileName : i.fileName = file.fileName
  fileType : i.fileType.toUpper = file.fileType.toUpper
  fileSize : i.fileSize = file.fileSize

/-- When the storage is configured the id is that of an intent for the file, and `p` holds of the
intent. -/
def Resolved (config : Config) (file : FileParams) (p : DocumentUploadIntent → Prop)
    (uploadIntentId : Option ℕ) (s : Store) : Prop :=
  config.storageConfigured = true →
    ∃ i, uploadIntentId = some i.id ∧ Issued i s ∧ Declares i file ∧ p i

/-- What `p` may look at: all but whether the intent was consumed. -/
def Stable (p : DocumentUploadIntent → Prop) : Prop :=
  ∀ i consumedAt, p i → p { i with consumedAt }

/-- The intent that a session has claimed is not consumed by anybody else. -/
def Claimed (uploadIntentId : Option ℕ) (notes : List (Lock × Mode × Store)) : Prop :=
  ∀ id ∈ uploadIntentId, ∃ s, (.uploadIntent id, .exclusive, s) ∈ notes ∧ s.isUnconsumed id = true

/-- An intent that is claimed is so with more locks. -/
theorem Claimed.mono {uploadIntentId : Option ℕ} {notes' : List (Lock × Mode × Store)}
    (h : Claimed uploadIntentId notes) (hnotes : ∀ n ∈ notes, n ∈ notes') :
    Claimed uploadIntentId notes' := by
  intro id hid
  obtain ⟨s, hs, hfree⟩ := h id hid
  exact ⟨s, hnotes _ hs, hfree⟩

/-- At the commit the intent is still there, unconsumed. -/
theorem Resolved.fits {file : FileParams} {p : DocumentUploadIntent → Prop}
    {uploadIntentId : Option ℕ} (h : Resolved config file p uploadIntentId last) (hp : Stable p)
    (s' : Store) (v : DocumentVersion)
    (hlast : (uploads config receipts).Later last s) (hclaimed : Claimed uploadIntentId notes)
    (hknows : (uploads config receipts).Knows notes s) (hurl : v.fileUrl = file.fileUrl)
    (hname : v.fileName = file.fileName) (htype : v.fileType = file.fileType.toUpper)
    (hsize : v.fileSize = file.fileSize)
    (hbuilding : ∀ i, p i → ∃ d, s'.documents.find? v.documentId = some d ∧
      d.buildingId = i.buildingId)
    (hpurpose : ∀ i, p i → Purposed s' v i) :
    config.storageConfigured = true → ∃ i, uploadIntentId = some i.id ∧
      s.uploadIntents.find? i.id = some i ∧ Fits s' v i ∧ p i := by
  intro hconfigured
  obtain ⟨i, hid, hissued, hdeclares, hi⟩ := h hconfigured
  obtain ⟨consumedAt, hfound⟩ := hissued.later hlast
  obtain ⟨s₁, hs₁, hfree⟩ := hclaimed _ hid
  -- the row is still the one that was claimed
  obtain ⟨i₁, hi₁, hunconsumed⟩ := isUnconsumed_eq_true.mp hfree
  have hkept : s.uploadIntents.find? i.id = some i₁ := hknows _ hs₁ i₁ hi₁
  obtain rfl : i₁ = { i with consumedAt } := Option.some.inj (hkept.symm.trans hfound)
  refine ⟨{ i with consumedAt }, hid, hfound, ⟨hunconsumed,
    hdeclares.storageKey.trans hurl.symm, ?_, hname.trans hdeclares.fileName.symm,
    htype.trans hdeclares.fileType.symm, hsize.trans hdeclares.fileSize.symm, ?_⟩, hp i _ hi⟩
  · exact hbuilding _ (hp i consumedAt hi)
  · exact hpurpose _ (hp i consumedAt hi)

/-! ### Consuming an intent -/

/-- The intent is claimed from then on. -/
theorem safe_consumeUploadIntent {uploadIntentId : ℕ} {f : PUnit → Call β}
    (h : ∀ last' notes', (uploads config receipts).Later last last' →
      Claimed (some uploadIntentId) notes' →
      (f ⟨⟩).Safe (uploads config receipts) post last' notes'
        (consumedIn (some uploadIntentId) now)) :
    (consumeUploadIntent uploadIntentId now >>= f).Safe (uploads config receipts) post last [] id := by
  rw [consumeUploadIntent]
  refine Prog.Safe.claim fun s _ hlast _ hfree => h s _ hlast fun id hid => ?_
  obtain rfl : uploadIntentId = id := Option.some.inj hid
  exact ⟨s, List.mem_append_right _ (Discipline.mem_taken List.mem_cons_self rfl), hfree⟩

/-- So it is when there is one. -/
theorem safe_consumeIfAny {uploadIntentId : Option ℕ} {f : PUnit → Call β}
    (h : ∀ last' notes', (uploads config receipts).Later last last' →
      Claimed uploadIntentId notes' →
      (f ⟨⟩).Safe (uploads config receipts) post last' notes' (consumedIn uploadIntentId now)) :
    (consumeIfAny uploadIntentId now >>= f).Safe (uploads config receipts) post last [] id := by
  cases uploadIntentId with
  | some uploadIntentId => exact safe_consumeUploadIntent h
  | none => exact h last [] (.refl last) fun _ hid => absurd hid (Option.not_mem_none _)

/-- A session holds the locks that its new version disturbs. -/
theorem held_of_claimed {uploadIntentId : Option ℕ} {receipt : Option DocumentReference}
    (hclaimed : Claimed uploadIntentId notes)
    (hreceipt : ∀ r ∈ receipt, ∃ s, (.paymentReference r.entityId, .exclusive, s) ∈ notes)
    (l : Lock) (m : Mode) (hfree : Free notes l m) :
    ¬ ((∃ id ∈ uploadIntentId, l = .uploadIntent id) ∨
      ∃ r ∈ receipt, l = .paymentReference r.entityId) := by
  rintro (⟨id, hid, rfl⟩ | ⟨r, hr, rfl⟩)
  · obtain ⟨s, hs, -⟩ := hclaimed id hid
    exact not_free_of_exclusive hs hfree
  · obtain ⟨s, hs⟩ := hreceipt r hr
    exact not_free_of_exclusive hs hfree

/-! ### Creating a version -/

/-- The new document and its first version are in the same building as the intent. -/
theorem safe_createDocumentWithFirstVersion {document : DocumentParams} {file : FileParams}
    {uploadIntentId : Option ℕ}
    (h : Resolved config file (fun i => i.buildingId = document.buildingId ∧
      i.purpose = .createDocument) uploadIntentId last) :
    (createDocumentWithFirstVersion config document file uploadIntentId now).Safe
      (uploads config receipts) Clean last [] id := by
  rw [createDocumentWithFirstVersion, Prog.transaction, Prog.bind_assoc]
  refine safe_consumeIfAny fun last₁ notes hlast₁ hclaimed => ?_
  refine Prog.Safe.write fun s₁ _ hs₁ _ => ?_
  refine Prog.Safe.commitAll fun s hs hlast hknows => ?_
  have hknows : (uploads config receipts).Knows notes s :=
    fun n hn => hknows n (List.mem_append_left _ hn)
  have hlater : (uploads config receipts).Later last s := (hlast₁.trans hs₁).trans hlast
  have hadds := (prepares_consumedIn uploadIntentId now s).addsVersion
    (addsVersion_createFirstVersion config document file now)
  have hdocument : (createFirstVersion config document file now
      (consumedIn uploadIntentId now s)).documents.find?
        (consumedIn uploadIntentId now s).documents.next =
      some (document.row now (consumedIn uploadIntentId now s).documents.next) := by
    rw [createFirstVersion_documents]
    exact Table.find?_of_mem (Table.mem_create.mpr (Or.inr rfl))
  refine Commits.conclude (commits_addsVersion none hs hadds
    createFirstVersion_uploadIntents (fun r => ?_) (fun r hr => absurd hr (Option.not_mem_none r))
    fun hconfigured => ?_) (held_of_claimed (hclaimed.mono fun n hn => List.mem_append_left _ hn)
      fun r hr => absurd hr (Option.not_mem_none r)) ⟨rfl, rfl⟩
  · rw [createFirstVersion_references, consumedIn_references]
    simp
  · obtain ⟨i, hid, hi, hfits, -⟩ := h.fits (fun i _ hi => hi)
      (createFirstVersion config document file now (consumedIn uploadIntentId now s))
      (file.row (consumedIn uploadIntentId now s).documents.next 1 now
        (consumedIn uploadIntentId now s).versions.next) hlater hclaimed hknows rfl rfl rfl rfl
      (fun i hi => ⟨document.row now _, hdocument, hi.1.symm⟩)
      (fun i hi => purposed_createDocument hi.2 rfl) hconfigured
    exact ⟨i, hid, hi, hfits, fun r hr => absurd hr (Option.not_mem_none r)⟩

/-- The new version is one of the document that the intent is bound to. -/
theorem safe_addVersion {documentId : ℕ} {d : Document} {file : FileParams}
    {uploadIntentId : Option ℕ} (hd : last.documents.find? documentId = some d)
    (h : Resolved config file (fun i => i.buildingId = d.buildingId ∧ i.purpose = .createVersion ∧
      i.documentId = some documentId) uploadIntentId last) :
    (addVersion config documentId file uploadIntentId now).Safe (uploads config receipts) Clean last
      [] id := by
  rw [addVersion, Prog.transaction, Prog.bind_assoc]
  refine safe_consumeIfAny fun last₁ notes hlast₁ hclaimed => ?_
  rw [Prog.bind_assoc]
  refine Prog.Safe.query fun s₁ _ hs₁ _ => ?_
  generalize (consumedIn uploadIntentId now s₁).latestVersionNumber documentId = latest
  rw [Prog.bind_assoc]
  -- the loop over the versions that were current changes nothing else
  refine Prog.Safe.updateMany
    (fun _ last' notes' pending' => (uploads config receipts).Later last last' ∧
      (∀ n ∈ notes, n ∈ notes') ∧ ∀ s, Prepares (consumedIn uploadIntentId now s) (pending' s) ∧
        (pending' s).uploadIntents = (consumedIn uploadIntentId now s).uploadIntents ∧
        (pending' s).documents = s.documents)
    (fun s _ hlast _ => ⟨(hlast₁.trans hs₁).trans hlast, fun n hn => hn, fun s =>
      ⟨.refl, rfl, consumedIn_documents _ _ s⟩⟩)
    (fun _ _ _ _ s hI hlast => ⟨hI.1.trans hlast, hI.2⟩) (fun id _ last' notes' pending' hI s _ hlast _ => ?_)
    fun last₂ notes₂ pending₂ hI => ?_
  · obtain ⟨hlater, hnotes, hpending⟩ := hI
    refine ⟨hlater.trans hlast, fun n hn => List.mem_append_left _ (hnotes n hn), fun s' => ?_⟩
    obtain ⟨hprepares, hintents, hdocuments⟩ := hpending s'
    split
    · exact ⟨hprepares.trans (.supersede id), hintents, hdocuments⟩
    · exact hpending s'
  obtain ⟨hlater, hnotes, hpending⟩ := hI
  refine Prog.Safe.writeUnless fun s₂ _ hs₂ _ _ => ?_
  refine Prog.Safe.commitAll fun s hs hlast hknows => ?_
  have hknows : (uploads config receipts).Knows notes s :=
    fun n hn => hknows n (List.mem_append_left _ (hnotes n hn))
  obtain ⟨hprepares, hintents, hdocuments⟩ := hpending s
  have hadds := ((prepares_consumedIn uploadIntentId now s).trans hprepares).addsVersion
    (addsVersion_createVersion config file documentId (latest + 1) now)
  have hdocument : (createVersion config file documentId (latest + 1) now
      (pending₂ s)).documents.find? documentId = some d := by
    rw [createVersion_documents, hdocuments]
    exact find?_documents_later hd ((hlater.trans hs₂).trans hlast)
  refine Commits.conclude (commits_addsVersion none hs hadds
    (createVersion_uploadIntents.trans hintents) (fun r => ?_)
    (fun r hr => absurd hr (Option.not_mem_none r)) fun hconfigured => ?_)
    (held_of_claimed (hclaimed.mono fun n hn => List.mem_append_left _ (hnotes n hn))
      fun r hr => absurd hr (Option.not_mem_none r)) ⟨rfl, rfl⟩
  · rw [createVersion_references, hprepares.references, consumedIn_references]
    simp
  · obtain ⟨i, hid, hi, hfits, -⟩ := h.fits (fun i _ hi => hi)
      (createVersion config file documentId (latest + 1) now (pending₂ s))
      (file.row documentId (latest + 1) now (pending₂ s).versions.next)
      ((hlater.trans hs₂).trans hlast) hclaimed hknows rfl rfl rfl rfl
      (fun i hi => ⟨d, hdocument, hi.1.symm⟩)
      (fun i hi => purposed_createVersion hi.2.1 hi.2.2) hconfigured
    exact ⟨i, hid, hi, hfits, fun r hr => absurd hr (Option.not_mem_none r)⟩

/-- The new version is the receipt of the payment that the intent is bound to. -/
theorem safe_createPaymentReceipt {buildingId paymentId : ℕ} {file : FileParams}
    {uploadIntentId : ℕ}
    (h : Resolved config file (fun i => i.buildingId = buildingId ∧ i.purpose = .paymentReceipt ∧
      i.paymentId = some paymentId) (some uploadIntentId) last) :
    (createPaymentReceipt config buildingId paymentId file uploadIntentId now).Safe
      (uploads config receipts) Clean last [] id := by
  rw [createPaymentReceipt, Prog.transaction, Prog.bind_assoc]
  refine safe_consumeUploadIntent fun last₁ notes hlast₁ hclaimed => ?_
  refine Prog.Safe.writeUnless fun s₁ _ hs₁ _ hfree => ?_
  refine Prog.Safe.commitAll fun s hs hlast hknows => ?_
  have hlock : (Lock.paymentReference paymentId, Mode.exclusive, s₁) ∈
      notes ++ (uploads config receipts).taken [(.paymentReference paymentId, .exclusive)] s₁ :=
    List.mem_append_right _ (Discipline.mem_taken List.mem_cons_self rfl)
  -- the payment has no receipt yet, and nobody else creates one
  have hnone : s.paymentReceiptReference paymentId = none := by
    refine hknows _ hlock ?_
    by_contra hsome
    have hview : (consumedIn (some uploadIntentId) now s₁).paymentReceiptReference paymentId =
        s₁.paymentReceiptReference paymentId := rfl
    rw [hview, if_pos (Option.isSome_iff_ne_none.mpr hsome)] at hfree
    cases hfree
  have hknows : (uploads config receipts).Knows notes s :=
    fun n hn => hknows n (List.mem_append_left _ hn)
  have hlater : (uploads config receipts).Later last s := (hlast₁.trans hs₁).trans hlast
  have hheld : Claimed (some uploadIntentId) (notes ++ (uploads config receipts).taken
      [(.paymentReference paymentId, .exclusive)] s₁) :=
    hclaimed.mono fun n hn => List.mem_append_left _ hn
  generalize hdocument : receiptDocument buildingId file.uploadedById file.fileName = document
  have hbuilding : document.buildingId = buildingId := hdocument ▸ rfl
  generalize hreference : referenceRow s.versions.next .payment paymentId now = reference
  have hid : ∀ n, (reference n).id = n := fun n => hreference ▸ rfl
  have hentity : (reference s.references.next).entityId = paymentId := hreference ▸ rfl
  have htype : (reference s.references.next).entityType = .payment := hreference ▸ rfl
  have hversion : (reference s.references.next).documentVersionId = s.versions.next :=
    hreference ▸ rfl
  have hadds := ((prepares_consumedIn (some uploadIntentId) now s).addsVersion
    (addsVersion_createFirstVersion config document file now)).reference reference hid
  generalize hs' : (createFirstVersion config document file now
    (consumedIn (some uploadIntentId) now s)).onReferences (·.create reference hid) = s' at hadds
  have hdocuments : s'.documents.find? s.documents.next =
      some (document.row now s.documents.next) := by
    rw [← hs', Store.onReferences_documents, createFirstVersion_documents]
    exact Table.find?_of_mem (Table.mem_create.mpr (Or.inr rfl))
  have hreferences : ∀ r, r ∈ s'.references ↔
      r ∈ s.references ∨ r = reference s.references.next := by
    intro r
    rw [← hs', Store.onReferences_references, createFirstVersion_references, consumedIn_references]
    exact Table.mem_create
  have hfits := h.fits (fun i _ hi => hi) s' (file.row s.documents.next 1 now s.versions.next)
    hlater hclaimed hknows rfl rfl rfl rfl
    (fun i hi => ⟨document.row now s.documents.next, hdocuments, hbuilding.trans hi.1.symm⟩)
    (fun i hi => purposed_paymentReceipt (r := reference s.references.next) hi.2.1
      ((hreferences _).mpr (Or.inr rfl)) hversion htype (hi.2.2.trans (congrArg some hentity.symm)))
  have hcommits := commits_addsVersion (some (reference s.references.next)) hs hadds
    (by rw [← hs', Store.onReferences_uploadIntents, createFirstVersion_uploadIntents])
    (fun r => by rw [hreferences, Option.mem_some_iff, eq_comm (a := r)])
    (fun r hr => by
      obtain rfl := Option.mem_some_iff.mp hr
      exact ⟨hversion, htype, hentity ▸ hnone⟩)
    (fun hconfigured => by
      obtain ⟨i, hi, hfound, hfit, hp⟩ := hfits hconfigured
      refine ⟨i, hi, hfound, hfit, fun r hr => ?_⟩
      obtain rfl := Option.mem_some_iff.mp hr
      exact ⟨hp.2.1, hp.2.2.trans (congrArg some hentity.symm)⟩)
  have hview : createReceipt config document file paymentId now
      (consumedIn (some uploadIntentId) now s) = s' := by
    subst hreference
    exact hs'
  rw [hview]
  refine hcommits.conclude (held_of_claimed hheld fun r hr => ?_) ⟨rfl, rfl⟩
  obtain rfl := Option.mem_some_iff.mp hr
  exact ⟨s₁, hentity ▸ hlock⟩

/-! ### What the calls check before they write -/

section ReadOnly

open Relational.ReadCommitted.Prog (ReadOnly)

/-- The look at the building writes nothing. -/
theorem readOnly_getBuilding (buildingId : ℕ) : (getBuilding buildingId).ReadOnly :=
  .bind (.query _) fun _ => .bind (.expect _ _) fun _ => trivial

/-- Neither does the check for the manager. -/
theorem readOnly_assertManager (personId buildingId : ℕ) :
    (assertManager personId buildingId).ReadOnly :=
  .bind (.query _) fun _ => .require _ _

/-- Nor does that of the roles. -/
theorem readOnly_isPrivileged (personId buildingId : ℕ) :
    (isPrivileged personId buildingId).ReadOnly := .query _

/-- Nor does that of the target. -/
theorem readOnly_assertTarget (buildingId : ℕ) (dto : RequestUploadUrlDto) :
    (assertTarget buildingId dto).ReadOnly := by
  rw [assertTarget]
  refine .ite (.bind (.expect _ _) fun _ => .bind (.query _) fun _ => .require _ _) (.require _ _)

/-- Nor does the `HEAD` request. -/
theorem readOnly_verifyObjectUploaded (config : Config) (storageKey : String)
    (head : StorageService.HeadRequest) :
    (StorageService.verifyObjectUploaded config storageKey head).ReadOnly :=
  .bind (.require _ _) fun _ => .query _

/-- Nor does the check of the size. -/
theorem readOnly_assertSize (actualSizeBytes : Option ℕ) (fileSize : ℕ) :
    (assertSize actualSizeBytes fileSize).ReadOnly := by
  cases actualSizeBytes with
  | none => trivial
  | some actualSizeBytes => exact .require _ _

/-- Nor does the look at the payment. -/
theorem readOnly_getBankTransferPaymentForPayer (buildingId paymentId actorPersonId : ℕ) :
    (PaymentReceiptService.getBankTransferPaymentForPayer buildingId paymentId
      actorPersonId).ReadOnly :=
  .bind (.bind (.bind (.query _) fun _ => .expect _ _) fun _ => .bind (.require _ _) fun _ => trivial)
    fun _ => .bind (.require _ _) fun _ => trivial

/-- Nor does that for a receipt. -/
theorem readOnly_assertNoExistingReceipt (paymentId : ℕ) :
    (PaymentReceiptService.assertNoExistingReceipt paymentId).ReadOnly :=
  .bind (.query _) fun _ => .require _ _

/-- Nor does that at the first bytes. -/
theorem readOnly_validateMagicBytes (config : Config) (intent : DocumentUploadIntent)
    (answered : Bool) :
    (PaymentReceiptService.validateMagicBytes config intent answered).ReadOnly := by
  refine .bind (.ite (.query _) trivial) fun bytes => ?_
  cases bytes with
  | none => trivial
  | some bytes => exact .ite trivial trivial

end ReadOnly

/-! ### The calls -/

/-- A new intent keeps the discipline. -/
theorem safe_createUploadIntent {params : UploadIntentParams} :
    (createUploadIntent params).Safe (uploads config receipts) Clean last [] id := by
  rw [createUploadIntent, Prog.transaction]
  refine Prog.Safe.writeUnless fun s₀ _ _ _ hfree => ?_
  refine Prog.Safe.commitAll fun s hs _ hknows => ?_
  have hlock : (Lock.storageKey params.storageKey, Mode.exclusive, s₀) ∈
      [] ++ (uploads config receipts).taken [(.storageKey params.storageKey, .exclusive)] s₀ :=
    List.mem_append_right _ (Discipline.mem_taken List.mem_cons_self rfl)
  -- no intent has the key yet, and nobody else creates one
  have hnone : s.uploadIntentByStorageKey params.storageKey = none := by
    refine hknows _ hlock ?_
    by_contra hsome
    rw [id_eq, if_pos (Option.isSome_iff_ne_none.mpr hsome)] at hfree
    cases hfree
  refine (commits_createUploadIntent hs hnone rfl).conclude (fun l m hl hkey => ?_) ⟨rfl, rfl⟩
  subst hkey
  exact not_free_of_exclusive hlock hl

/-- So does `requestUploadUrl`. -/
theorem safe_requestUploadUrl {buildingId actorPersonId : ℕ} {dto : RequestUploadUrlDto}
    {parts : StorageService.KeyParts} :
    (requestUploadUrl config buildingId dto actorPersonId parts now).Safe (uploads config receipts)
      Clean last [] id := by
  rw [requestUploadUrl]
  refine .readOnly (readOnly_getBuilding _) fun _ _ _ => ?_
  refine .readOnly (readOnly_assertManager _ _) fun _ _ _ => ?_
  refine .require fun _ => .require fun _ => ?_
  refine .readOnly (readOnly_assertTarget _ _) fun _ _ _ => .require fun _ => ?_
  exact safe_createUploadIntent

/-- So does `requestUploadIntent`. -/
theorem safe_requestUploadIntent {buildingId paymentId actorPersonId : ℕ}
    {dto : PaymentReceiptService.RequestDto} {parts : StorageService.KeyParts} :
    (PaymentReceiptService.requestUploadIntent config buildingId paymentId dto actorPersonId parts
      now).Safe (uploads config receipts) Clean last [] id := by
  rw [PaymentReceiptService.requestUploadIntent]
  refine .readOnly (readOnly_getBankTransferPaymentForPayer _ _ _) fun _ _ _ => ?_
  refine .readOnly (readOnly_assertNoExistingReceipt _) fun _ _ _ => ?_
  refine .require fun _ => .require fun _ => .require fun _ => ?_
  exact safe_createUploadIntent

/-- What `resolveUploadIntent` has checked of an intent. -/
def Matches (params : ResolveParams) (i : DocumentUploadIntent) : Prop :=
  i.buildingId = params.buildingId ∧ i.purpose = params.purpose ∧
    (params.purpose = .createVersion → i.documentId = params.documentId)

/-- What follows may rely on the intent of the file. -/
theorem safe_resolveUploadIntent {params : ResolveParams} (file : FileParams)
    {head : StorageService.HeadRequest} {f : Option ℕ → Call β}
    (hurl : params.storageKey = file.fileUrl) (hname : params.fileName = file.fileName)
    (htype : params.fileType = file.fileType) (hsize : params.fileSize = file.fileSize)
    (h : ∀ uploadIntentId last', (uploads config receipts).Later last last' →
      Resolved config file (Matches params) uploadIntentId last' →
      (f uploadIntentId).Safe (uploads config receipts) post last' [] id) :
    (resolveUploadIntent config params head now >>= f).Safe (uploads config receipts) post last []
      id := by
  rw [resolveUploadIntent, Prog.ite_bind]
  split
  case isFalse hconfigured =>
    exact h none last (.refl last) fun hc => absurd hc hconfigured
  case isTrue =>
    rw [Prog.bind_assoc]
    refine Prog.Safe.query fun s₁ _ hlast₁ _ => ?_
    rw [Prog.bind_assoc]
    refine Prog.Safe.expect fun i hi => ?_
    obtain ⟨hmem, hkey⟩ := uploadIntentByStorageKey_eq_some hi
    rw [Prog.bind_assoc, assertIntentMatches]
    simp only [Prog.bind_assoc]
    refine .require fun _ => .require fun _ => .require fun hbuilding => .require fun _ =>
      .require fun hpurpose => .require fun hdocument => .require fun hfile => ?_
    refine .readOnly (readOnly_verifyObjectUploaded _ _ _) fun _ s₂ hlast₂ => .require fun _ => ?_
    refine .readOnly (readOnly_assertSize _ _) fun _ s₃ hlast₃ => ?_
    refine h (some i.id) s₃ ((hlast₁.trans hlast₂).trans hlast₃) fun _ => ⟨i, rfl, ?_, ?_, ?_⟩
    · exact (issued_of_find? (Table.find?_of_mem hmem)).later (hlast₂.trans hlast₃)
    · exact ⟨hkey.trans hurl, hfile.1.trans hname, htype ▸ hfile.2.1, hfile.2.2.trans hsize⟩
    · refine ⟨hbuilding, hpurpose, fun hversion => ?_⟩
      by_contra hne
      exact hdocument ⟨hversion, hne⟩

/-- A document with its file keeps the discipline. -/
theorem safe_createOne {buildingId actorPersonId : ℕ} {dto : CreateDocumentDto} {privileged : Bool}
    {head : StorageService.HeadRequest} :
    (createOne config buildingId dto actorPersonId privileged head now).Safe
      (uploads config receipts) Clean last [] id := by
  rw [createOne]
  refine .require fun _ => .require fun _ => .require fun _ => ?_
  refine safe_resolveUploadIntent (dto.file actorPersonId) rfl rfl rfl rfl
    fun uploadIntentId last' _ hresolved => ?_
  refine safe_createDocumentWithFirstVersion fun hconfigured => ?_
  obtain ⟨i, hid, hissued, hdeclares, hmatches⟩ := hresolved hconfigured
  exact ⟨i, hid, hissued, hdeclares, hmatches.1, hmatches.2.1⟩

/-- So does `createDocument`. -/
theorem safe_createDocument {buildingId actorPersonId : ℕ} {dto : CreateDocumentDto}
    {head : StorageService.HeadRequest} :
    (createDocument config buildingId dto actorPersonId head now).Safe (uploads config receipts)
      Clean last [] id := by
  rw [createDocument]
  refine .readOnly (readOnly_getBuilding _) fun _ _ _ => ?_
  refine .readOnly (readOnly_assertManager _ _) fun _ _ _ => ?_
  exact .readOnly (readOnly_isPrivileged _ _) fun _ _ _ => safe_createOne

/-- So do several documents in a row. -/
theorem safe_bulkCreateDocuments {buildingId actorPersonId : ℕ}
    {dto : List (CreateDocumentDto × StorageService.HeadRequest)} :
    (bulkCreateDocuments config buildingId dto actorPersonId now).Safe (uploads config receipts)
      Clean last [] id := by
  rw [bulkCreateDocuments]
  refine .readOnly (readOnly_getBuilding _) fun _ _ _ => ?_
  refine .readOnly (readOnly_assertManager _ _) fun _ _ _ => ?_
  refine .readOnly (readOnly_isPrivileged _ _) fun _ last' _ => ?_
  refine .forEach (fun item _ last' => ?_) last'
  exact Prog.Safe.tryCatch safe_createOne fun _ _ => ⟨rfl, rfl⟩

/-- So does `uploadVersion`. -/
theorem safe_uploadVersion {documentId actorPersonId : ℕ} {dto : UploadVersionDto}
    {head : StorageService.HeadRequest} :
    (uploadVersion config documentId dto actorPersonId head now).Safe (uploads config receipts)
      Clean last [] id := by
  rw [uploadVersion, getDocumentOrThrow, Prog.bind_assoc]
  refine Prog.Safe.query fun s₁ _ _ _ => Prog.Safe.expect fun d hd => ?_
  refine .readOnly (readOnly_assertManager _ _) fun _ s₂ hs₂ => ?_
  refine .readOnly (readOnly_isPrivileged _ _) fun _ s₃ hs₃ => ?_
  refine .require fun _ => .require fun _ => .require fun _ => .require fun _ => ?_
  refine safe_resolveUploadIntent (dto.file actorPersonId) rfl rfl rfl rfl
    fun uploadIntentId s₄ hs₄ hresolved => ?_
  refine safe_addVersion (find?_documents_later hd ((hs₂.trans hs₃).trans hs₄))
    fun hconfigured => ?_
  obtain ⟨i, hid, hissued, hdeclares, hmatches⟩ := hresolved hconfigured
  exact ⟨i, hid, hissued, hdeclares, hmatches.1, hmatches.2.1, hmatches.2.2 rfl⟩

/-- A client uploads. -/
theorem safe_put {storageKey : String} {bytes : List UInt8} :
    (StorageService.put storageKey bytes now).Safe (uploads config receipts) Clean last [] id := by
  rw [StorageService.put]
  refine Prog.Safe.query fun _ _ _ _ => Prog.Safe.expect fun _ _ => .require fun _ => ?_
  rw [Prog.transaction]
  refine Prog.Safe.write fun _ _ _ _ => Prog.Safe.commitAll fun s hs _ _ => ?_
  obtain ⟨hconsistent, hkeeps, hsame⟩ :=
    commits_setObject storageKey (some bytes) hs
  refine ⟨hconsistent, ⟨hkeeps, fun _ key _ hkey => ?_⟩, fun l _ _ => hsame l, rfl, rfl⟩
  by_cases h : key = storageKey
  · simp [Store.setObject, h]
  · simpa [Store.setObject, Function.update_of_ne h] using hkey

end VielHome.Documents
