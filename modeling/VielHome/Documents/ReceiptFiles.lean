import VielHome.Documents.UploadRuns
import VielHome.Relational.Guards

/-!
# The files of receipts

A finalization deletes the object of its intent when it cannot read it, or finds something else
than was declared. It looked at the intent and the payment before, so by then another finalization
may have made the object the file of a receipt. `receipts_of_timely` says that this is the only way
to lose the file of a receipt: it stays in every run in which no finalization is still about to
delete the object of an intent that has been consumed.
-/

namespace VielHome.Documents

open Relational Community
open DocumentRepository DocumentsService
open Relational.ReadCommitted (Database Event Guards Mode Prog givesBack_of_guard)
open Relational.ReadCommitted.Prog.Guarded (AtEnd)

variable {s s' : Store} {config : Config} {last : Store} {now : Time}

/-- Whoever is about to delete the object of an intent goes on only while nobody has consumed the
intent. -/
def inTime : Lock → Store → Prop
  | .cleanup uploadIntentId, s => s.isUnconsumed uploadIntentId = true
  | _, _ => True

instance inTime.decidable (s : Store) : (l : Lock) → Decidable (inTime l s)
  | .cleanup uploadIntentId => inferInstanceAs (Decidable (s.isUnconsumed uploadIntentId = true))
  | .uploadIntent _ | .storageKey _ | .paymentReference _ | .versionNumber _ _ | .version _ =>
    inferInstanceAs (Decidable True)

/-- Every commit keeps the objects of the receipts. -/
def receiptFiles (config : Config) : Guards Store Lock where
  toDiscipline := uploads config true
  guard _ _ := True
  allowed _ _ := True
  during := inTime

instance (l : Lock) : DecidablePred ((receiptFiles config).during l) :=
  fun s => inTime.decidable s l

/-- Nothing has to be restored. -/
theorem givesBack_receiptFiles {notes : List (Lock × Mode × Store)} :
    ReadCommitted.GivesBack (receiptFiles config) last notes :=
  givesBack_of_guard fun _ _ => trivial

/-! ### The cleanup -/

/-- The object of an intent that nobody has consumed is not the file of a receipt. -/
theorem not_finalized_of_isUnconsumed {i : DocumentUploadIntent} (hs : Consistent config s)
    (hconfigured : config.storageConfigured = true) (hissued : Issued i s)
    (hfree : s.isUnconsumed i.id = true) : ¬ Finalized i.storageKey s := by
  rintro ⟨r, -, -, v, hv, hurl⟩
  obtain ⟨consumedAt, hi⟩ := hissued
  obtain ⟨i', hi', hunconsumed⟩ := isUnconsumed_eq_true.mp hfree
  obtain rfl : i' = { i with consumedAt } := Option.some.inj (hi'.symm.trans hi)
  -- the version has an intent that was consumed, and it has the same key
  obtain ⟨j, hj, hbinds⟩ := (hs.bound hconfigured).intent v (Table.mem_of_find? hv)
  have hsame : j = { i with consumedAt } := hs.unique.storageKey j hj _ (Table.mem_of_find? hi')
    (hbinds.storageKey.trans hurl)
  exact hbinds.consumed (hsame ▸ hunconsumed)

theorem keepsReceipts_setObject {key : String} (h : ¬ Finalized key s) :
    KeepsReceipts s (s.setObject key none) := by
  intro key' hkey' hobject
  have hne : key' ≠ key := fun heq => h (heq ▸ hkey')
  rw [Store.setObject_objects, Function.update_of_ne hne]
  exact hobject

theorem guarded_deleteObject {i : DocumentUploadIntent} {answered : Bool} {error : Failure}
    (hissued : Issued i last) :
    (StorageService.deleteObject config i.storageKey i.id answered >>= fun _ =>
      (.fail error : Call PUnit)).Guarded (receiptFiles config) (AtEnd (receiptFiles config)) last
        [] id := by
  rw [StorageService.deleteObject, Prog.ite_bind]
  split
  case isFalse => exact givesBack_receiptFiles
  case isTrue hconfigured =>
    rw [Prog.transaction, Prog.bind_assoc]
    refine Prog.Guarded.write fun s₀ _ hs₀ _ => ?_
    refine Prog.Guarded.commitAll fun s hs hlast _ _ hduring => ?_
    have hnote : (Lock.cleanup i.id, Mode.shared, s₀) ∈
        [] ++ (receiptFiles config).taken [(.cleanup i.id, .shared)] s₀ :=
      List.mem_append_right _ (ReadCommitted.Discipline.mem_taken List.mem_cons_self rfl)
    have hfree : s.isUnconsumed i.id = true := hduring _ hnote
    obtain ⟨hconsistent, hkeeps, hsame⟩ := commits_setObject i.storageKey none hs
    refine ⟨hconsistent, ⟨hkeeps, fun _ => keepsReceipts_setObject ?_⟩, fun l _ _ => hsame l,
      fun _ _ _ => trivial, fun _ _ => trivial, givesBack_receiptFiles⟩
    exact not_finalized_of_isUnconsumed hs hconfigured.1 (hissued.later (hs₀.trans hlast)) hfree

/-! ### The calls -/

theorem guarded_loadValidReceiptIntent {uploadIntentId buildingId paymentId : ℕ}
    {f : DocumentUploadIntent → Call PUnit}
    (h : ∀ i last', Issued i last' → ForReceipt buildingId paymentId i →
      (f i).Guarded (receiptFiles config) (AtEnd (receiptFiles config)) last' [] id) :
    (PaymentReceiptService.loadValidReceiptIntent uploadIntentId buildingId paymentId now >>=
      f).Guarded (receiptFiles config) (AtEnd (receiptFiles config)) last [] id := by
  rw [PaymentReceiptService.loadValidReceiptIntent, Prog.bind_assoc]
  refine Prog.Guarded.query fun s₁ _ _ _ => ?_
  rw [Prog.bind_assoc]
  refine Prog.Guarded.expect (fun _ => givesBack_receiptFiles) fun i hi => ?_
  rw [Option.filter_eq_some_iff] at hi
  obtain ⟨hpurpose, hbuilding⟩ := of_decide_eq_true hi.2
  simp only [Prog.bind_assoc]
  refine .require (fun _ => givesBack_receiptFiles) fun hpayment =>
    .require (fun _ => givesBack_receiptFiles) fun _ =>
      .require (fun _ => givesBack_receiptFiles) fun _ => ?_
  exact h i s₁ (issued_of_find? hi.1) ⟨hbuilding, hpurpose, hpayment⟩

theorem guarded_finalize {buildingId paymentId uploadIntentId actorPersonId : ℕ}
    {requests : PaymentReceiptService.Requests} :
    (PaymentReceiptService.finalize config buildingId paymentId uploadIntentId actorPersonId
      requests now).Guarded (receiptFiles config) (AtEnd (receiptFiles config)) last [] id := by
  rw [PaymentReceiptService.finalize]
  refine .readOnly (readOnly_getBankTransferPaymentForPayer _ _ _)
    (fun _ _ => givesBack_receiptFiles) fun payment _ _ => ?_
  refine .readOnly (readOnly_assertNoExistingReceipt _) (fun _ _ => givesBack_receiptFiles)
    fun _ _ _ => ?_
  refine guarded_loadValidReceiptIntent fun i s₁ hissued hreceipt => ?_
  refine .readOnly (readOnly_validateMagicBytes _ _ _) (fun _ _ => givesBack_receiptFiles)
    fun validationError s₂ hs₂ => ?_
  have hissued : Issued i s₂ := hissued.later hs₂
  cases validationError with
  | some error => exact guarded_deleteObject hissued
  | none =>
    refine .of_safe (fun _ _ => trivial) ((safe_attachReceipt hissued hreceipt).mono
      fun _ _ _ _ _ => trivial) fun n hn => absurd hn List.not_mem_nil

theorem UploadCall.guarded (c : UploadCall) (last : Store) :
    (c.call config).Guarded (receiptFiles config) (AtEnd (receiptFiles config)) last [] id := by
  have hsafe : ∀ {p : Call PUnit}, p.Safe (uploads config true) Prog.Safe.Clean last [] id →
      p.Guarded (receiptFiles config) (AtEnd (receiptFiles config)) last [] id := fun h =>
    .of_safe (fun _ _ => trivial) (h.mono fun _ _ _ _ _ => trivial)
      fun n hn => absurd hn List.not_mem_nil
  cases c with
  | requestUploadUrl buildingId dto actorPersonId parts now => exact hsafe safe_requestUploadUrl
  | requestUploadIntent buildingId paymentId dto actorPersonId parts now =>
    exact hsafe safe_requestUploadIntent
  | put storageKey bytes now => exact hsafe safe_put
  | createDocument buildingId dto actorPersonId head now => exact hsafe safe_createDocument
  | bulkCreateDocuments buildingId dto actorPersonId now => exact hsafe safe_bulkCreateDocuments
  | uploadVersion documentId dto actorPersonId head now => exact hsafe safe_uploadVersion
  | finalize buildingId paymentId uploadIntentId actorPersonId requests now =>
    exact guarded_finalize

/-! ### Runs -/

theorem KeepsReceipts.of_later (h : (uploads config true).Later s s') : KeepsReceipts s s' := by
  intro key hkey hobject
  refine (h.keeps (P := fun s => Finalized key s ∧ (s.objects key).isSome)
    (fun s s' hcommit hs => ?_) ⟨hkey, hobject⟩).2
  exact ⟨hcommit.1.finalized hs.1, hcommit.2 rfl key hs.1 hs.2⟩

/-- The event is not a step of a finalization that is about to delete the object of an intent
which has been consumed. -/
abbrev CleansInTime {ι α : Type} [DecidableEq ι] (config : Config) (d : Sessions ι α)
    (e : Event ι Failure) : Prop :=
  d.Timely (receiptFiles config) e

/-- A session that is cut off leaves nothing to be restored. -/
theorem uncut {ι α : Type} [DecidableEq ι] (d : Sessions ι α) (e : Event ι Failure) :
    d.Uncut (receiptFiles config) e := by
  cases e with
  | step i => trivial
  | abort i e => exact fun _ _ _ _ _ => trivial

/-- Any number of calls, statement by statement in any order: the file of a receipt stays in the
storage, as long as every finalization that deletes an object does so before another one has
consumed the intent. -/
theorem receipts_of_timely {ι : Type} [DecidableEq ι] (hs : Consistent config s)
    (calls : ι → UploadCall) {es : List (Event ι Failure)}
    (hes : Relational.EachStep (Database.next Lock.enforced) (CleansInTime config)
      (Database.start s fun i => (calls i).call config) es) :
    ∀ es', es' <+: es →
      KeepsReceipts (runCalls s (fun i => (calls i).call config) es').store
        (runCalls s (fun i => (calls i).call config) es).store := by
  rintro es' ⟨rest, rfl⟩
  have hpermitted := hes.mono fun d e htimely =>
    (⟨Database.orderly_of_enforced (fun _ _ => rfl) d e, uncut d e, trivial, htimely⟩ :
      d.Permitted Lock.enforced (receiptFiles config) e)
  have hstart : (Database.start s fun i => (calls i).call config).Guarded (receiptFiles config) :=
    Database.guarded_start hs (fun _ _ => trivial) fun i => (calls i).guarded s
  obtain ⟨hbefore, hafter⟩ := Relational.eachStep_append.mp hpermitted
  have hguarded := (Database.guarded_run hstart hbefore).1
  rw [runCalls, runCalls, Relational.runFrom_append]
  exact .of_later (Database.guarded_run hguarded hafter).2

/-- A payment whose payer has uploaded a receipt. -/
def paid : Store where
  toStore := Community.Store.empty
  buildingCases := .empty
  caseAssignments := .empty
  caseMessages := .empty
  supportCases := .empty
  supportCaseMessages := .empty
  staffRoles := .empty
  rolePermissions := .empty
  payments := Table.empty.create fun id =>
    { id, buildingId := 0, unitId := 0, fundId := 0, payerId := 1, amount := 100,
      method := .bankTransfer, createdAt := 0 }
  documents := .empty
  versions := .empty
  references := .empty
  uploadIntents := Table.empty.create fun id =>
    { id, buildingId := 0, storageKey := "payments/0/0/a-receipt.pdf", requestedById := 1,
      purpose := .paymentReceipt, paymentId := some 0, fileName := "receipt.pdf",
      fileType := "PDF", fileSize := 5, expiresAt := 10 }
  backupRequests := .empty
  objects key := if key = "payments/0/0/a-receipt.pdf" then some [0x25, 0x50, 0x44, 0x46, 0x2d]
    else none

/-- The payer finalizes the receipt twice, and the second time the storage does not answer when it
is read. -/
def finalizedTwice (i : Fin 2) : UploadCall :=
  .finalize 0 0 0 1 { readAnswered := i = 0, deleteAnswered := true } 1

/-- One after the other, the second finalization is refused. -/
theorem receipts_of_timely_finalizedTwice :
    KeepsReceipts
      (runCalls paid (fun i => (finalizedTwice i).call backedUp)
        (List.replicate 8 (Event.step 0))).store
      (runCalls paid (fun i => (finalizedTwice i).call backedUp)
        (List.replicate 8 (Event.step 0) ++ List.replicate 5 (Event.step 1))).store :=
  receipts_of_timely (consistent_of_no_versions rfl rfl rfl (by decide +kernel)) finalizedTwice
    (by decide +kernel) _ (List.prefix_append _ _)

/-- Both look at the intent and the payment before either has attached the receipt: the first one
attaches it, and the second one, which could not read the file, deletes it. -/
theorem not_receipts_finalizedTwice :
    ¬ KeepsReceipts (runCalls paid (fun i => (finalizedTwice i).call backedUp)
        (List.replicate 3 (Event.step 1) ++ List.replicate 8 (Event.step 0))).store
      (runCalls paid (fun i => (finalizedTwice i).call backedUp)
        (List.replicate 3 (Event.step 1) ++ List.replicate 8 (Event.step 0) ++
          List.replicate 2 (Event.step 1))).store := by
  intro h
  have hkept := h "payments/0/0/a-receipt.pdf"
    ⟨⟨0, 0, .payment, 0, 1⟩, Table.mem_of_find? (k := 0) (by decide +kernel), rfl,
      { id := 0, documentId := 0, versionNumber := 1, fileUrl := "payments/0/0/a-receipt.pdf",
        fileName := "receipt.pdf", fileType := "PDF", fileSize := 5, uploadedById := 1,
        uploadedAt := 1 }, by decide +kernel, rfl⟩ (by decide +kernel)
  exact absurd hkept (by decide +kernel)

end VielHome.Documents
