import VielHome.Documents.UploadRuns
import VielHome.Relational.Embedding

/-!
# The history of a document

A new version takes the number after the greatest one that its transaction has read, and the flag
of the version that was current is cleared by another statement. Neither read is locked; what makes
them consistent is the unique index on the numbers, whose entry a transaction holds until it ends:
when the insertion goes through, no version was committed since the number was read, so the version
whose flag was cleared is the last one. In every state the versions of every document are numbered
1, 2, 3, … in the order of their creation, exactly the last one is current, and what was created is
never rewritten, but for a document that is archived (`history_of_calls`).
-/

namespace VielHome.Documents

open Relational Community
open DocumentRepository DocumentsService
open Relational.ReadCommitted (Database Discipline Event Free Mode Prog not_free_of_exclusive)
open Relational.ReadCommitted.Prog.Safe (Clean)

variable {s s' s'' : Store} {config : Config} {α β : Type} {last : Store} {documentId : ℕ}
  {notes : List (Lock × Mode × Store)} {pending : Store → Store} {now : Time}
  {post : β → Store → List (Lock × Mode × Store) → (Store → Store) → Prop}

/-! ### Numbering -/

/-- The number of a version, and whether it is the current one. -/
def DocumentVersion.tag (v : DocumentVersion) : ℕ × Bool := (v.versionNumber, v.isCurrent)

/-- What is written once. -/
def DocumentVersion.written (v : DocumentVersion) : DocumentVersion := { v with isCurrent := true }

/-- The numbers from 1 to `n`, the last of which is current. -/
def numbering (n : ℕ) : List (ℕ × Bool) :=
  (List.range n).map fun k => (k + 1, decide (k + 1 = n))

/-- A further version is current in place of the one before. -/
theorem numbering_succ (n : ℕ) :
    numbering (n + 1) = (numbering n).map (fun t => (t.1, false)) ++ [(n + 1, true)] := by
  have hbefore : ∀ k ∈ List.range n,
      ((k + 1, decide (k + 1 = n + 1)) : ℕ × Bool) = (k + 1, false) := by
    intro k hk
    have hlt : k < n := List.mem_range.mp hk
    rw [decide_eq_false (by omega)]
  rw [numbering, List.range_succ, List.map_append, List.map_congr_left hbefore, numbering,
    List.map_map]
  simp

/-- The numbers from `1` to `n`, the last of them current. -/
theorem mem_numbering {n k : ℕ} {b : Bool} :
    (k, b) ∈ numbering n ↔ 1 ≤ k ∧ k ≤ n ∧ b = decide (k = n) := by
  simp only [numbering, List.mem_map, List.mem_range, Prod.mk.injEq]
  constructor
  · rintro ⟨j, hj, rfl, rfl⟩
    exact ⟨by omega, by omega, rfl⟩
  · rintro ⟨hpos, hle, rfl⟩
    obtain ⟨j, rfl⟩ : ∃ j, k = j + 1 := ⟨k - 1, by omega⟩
    exact ⟨j, by omega, rfl, rfl⟩

/-- A bound of all is one of the greatest. -/
private theorem foldr_max_le {l : List ℕ} {n : ℕ} (h : ∀ k ∈ l, k ≤ n) : l.foldr max 0 ≤ n := by
  induction l with
  | nil => exact Nat.zero_le n
  | cons k l ih =>
    exact max_le (h k List.mem_cons_self) (ih fun k hk => h k (List.mem_cons_of_mem _ hk))

/-- The greatest is a bound of all. -/
private theorem le_foldr_max {l : List ℕ} {k : ℕ} (h : k ∈ l) : k ≤ l.foldr max 0 := by
  induction l with
  | nil => exact absurd h List.not_mem_nil
  | cons j l ih =>
    rcases List.mem_cons.mp h with rfl | h
    · exact le_max_left _ _
    · exact (ih h).trans (le_max_right _ _)

/-! ### Histories -/

/-- The versions of a document are numbered as they stand in the table, and the last one is
current. -/
def Store.NumberedFor (s : Store) (documentId : ℕ) : Prop :=
  (s.versionsOf documentId).map DocumentVersion.tag =
    numbering (s.versionsOf documentId).length

/-- Every document has versions, numbered from 1 on, and every version is of a document. -/
structure History (s : Store) : Prop where
  numbered : ∀ d ∈ s.documents, s.versionsOf d.id ≠ [] ∧ s.NumberedFor d.id
  document : ∀ v ∈ s.versions, (s.documents.find? v.documentId).isSome = true

namespace Store

/-- The versions of a document. -/
theorem mem_versionsOf {v : DocumentVersion} :
    v ∈ s.versionsOf documentId ↔ v ∈ s.versions ∧ v.documentId = documentId := by
  rw [versionsOf, List.mem_filter, decide_eq_true_eq, Table.mem_rows]

/-- Which numbers a numbered document has, and which of them is current. -/
theorem NumberedFor.mem_tag (h : s.NumberedFor documentId) {k : ℕ} {b : Bool} :
    (∃ v ∈ s.versionsOf documentId, v.versionNumber = k ∧ v.isCurrent = b) ↔
      1 ≤ k ∧ k ≤ (s.versionsOf documentId).length ∧
        b = decide (k = (s.versionsOf documentId).length) := by
  rw [← mem_numbering, ← h, List.mem_map]
  simp only [DocumentVersion.tag, Prod.mk.injEq]

/-- The greatest number is the number of versions. -/
theorem NumberedFor.latestVersionNumber_eq (h : s.NumberedFor documentId) :
    s.latestVersionNumber documentId = (s.versionsOf documentId).length := by
  rw [latestVersionNumber]
  refine le_antisymm (foldr_max_le fun k hk => ?_) ?_
  · obtain ⟨v, hv, rfl⟩ := List.mem_map.mp hk
    exact (h.mem_tag.mp ⟨v, hv, rfl, rfl⟩).2.1
  · rcases Nat.eq_zero_or_pos (s.versionsOf documentId).length with hzero | hpos
    · rw [hzero]
      exact Nat.zero_le _
    · obtain ⟨v, hv, hnumber, -⟩ := h.mem_tag.mpr ⟨hpos, le_rfl, rfl⟩
      exact le_foldr_max (List.mem_map.mpr ⟨v, hv, hnumber⟩)

end Store

/-- What is not a document is numbered too: it has no version. -/
theorem History.numberedFor (h : History s) (documentId : ℕ) : s.NumberedFor documentId := by
  by_cases hdocument : (s.documents.find? documentId).isSome = true
  · obtain ⟨d, hd⟩ := Option.isSome_iff_exists.mp hdocument
    obtain rfl : d.id = documentId := Table.key_of_find? hd
    exact (h.numbered d (Table.mem_of_find? hd)).2
  · -- no version is of a document that is not there
    have hnil : s.versionsOf documentId = [] := by
      refine List.eq_nil_iff_forall_not_mem.mpr fun v hv => hdocument ?_
      obtain ⟨hmem, rfl⟩ := Store.mem_versionsOf.mp hv
      exact h.document v hmem
    rw [Store.NumberedFor, hnil]
    rfl

/-! ### What a commit does to the histories -/

/-- The versions of the document are the same, or there are further ones behind them. -/
def GrowsFor (s s' : Store) (documentId : ℕ) : Prop :=
  ((s.versionsOf documentId).map DocumentVersion.written <+:
      (s'.versionsOf documentId).map DocumentVersion.written) ∧
    (s'.versionsOf documentId = s.versionsOf documentId ∨
      (s.versionsOf documentId).length < (s'.versionsOf documentId).length)

/-- Where nothing is added the history has grown by nothing. -/
theorem GrowsFor.of_eq (h : s'.versionsOf documentId = s.versionsOf documentId) :
    GrowsFor s s' documentId :=
  ⟨h ▸ List.prefix_rfl, Or.inl h⟩

/-- A history does not get shorter. -/
theorem GrowsFor.length_le (h : GrowsFor s s' documentId) :
    (s.versionsOf documentId).length ≤ (s'.versionsOf documentId).length := by
  have hlength := h.1.length_le
  rwa [List.length_map, List.length_map] at hlength

/-- A history that has grown twice has grown. -/
theorem GrowsFor.trans (h : GrowsFor s s' documentId) (h' : GrowsFor s' s'' documentId) :
    GrowsFor s s'' documentId := by
  refine ⟨h.1.trans h'.1, ?_⟩
  have hle := h.length_le
  have hle' := h'.length_le
  rcases h.2, h'.2 with ⟨heq | hlt, heq' | hlt'⟩
  · exact Or.inl (heq'.trans heq)
  · exact Or.inr (by omega)
  · exact Or.inr (by omega)
  · exact Or.inr (by omega)

/-- What decides who may see what a document is attached to stays, and so do references. -/
structure Retains (s s' : Store) : Prop where
  casesStore : s'.casesStore = s.casesStore
  payments : s'.payments = s.payments
  references : ∀ r ∈ s.references, r ∈ s'.references

/-- A commit to other tables retains them. -/
theorem Retains.of_eq (hcases : s'.casesStore = s.casesStore) (hpayments : s'.payments = s.payments)
    (hreferences : s'.references = s.references) : Retains s s' :=
  ⟨hcases, hpayments, fun _ hr => hreferences ▸ hr⟩

/-- So do two commits in a row. -/
theorem Retains.trans (h : Retains s s') (h' : Retains s' s'') : Retains s s'' :=
  ⟨h'.casesStore.trans h.casesStore, h'.payments.trans h.payments,
    fun r hr => h'.references r (h.references r hr)⟩

/-- Documents stay as they are, but for being archived, and their histories grow. -/
structure Grows (s s' : Store) : Prop extends Retains s s' where
  documents : ∀ id d, s.documents.find? id = some d →
    ∃ d', s'.documents.find? id = some d' ∧ (d' = d ∨ d' = archived d)
  versions : ∀ id, (s.documents.find? id).isSome = true → GrowsFor s s' id

/-- No document goes away. -/
theorem Grows.isSome (h : Grows s s') (hd : (s.documents.find? documentId).isSome = true) :
    (s'.documents.find? documentId).isSome = true := by
  obtain ⟨d, hd⟩ := Option.isSome_iff_exists.mp hd
  obtain ⟨d', hd', -⟩ := h.documents documentId d hd
  exact Option.isSome_iff_exists.mpr ⟨d', hd'⟩

/-- Two commits in a row let the histories grow. -/
theorem Grows.trans (h : Grows s s') (h' : Grows s' s'') : Grows s s'' where
  toRetains := h.toRetains.trans h'.toRetains
  documents id d hd := by
    obtain ⟨d', hd', hsame⟩ := h.documents id d hd
    obtain ⟨d'', hd'', hsame'⟩ := h'.documents id d' hd'
    refine ⟨d'', hd'', ?_⟩
    rcases hsame, hsame' with ⟨rfl | rfl, rfl | rfl⟩
    · exact Or.inl rfl
    · exact Or.inr rfl
    · exact Or.inr rfl
    · exact Or.inr rfl
  versions id hd := (h.versions id hd).trans (h'.versions id (h.isSome hd))

/-- The holder of the entry that comes next for a document knows that no version is added. -/
def SameHistory (l : Lock) (s s' : Store) : Prop :=
  ∀ documentId versionNumber, l = .versionNumber documentId versionNumber →
    (s.documents.find? documentId).isSome = true →
    (s.versionsOf documentId).length + 1 = versionNumber →
      (s'.documents.find? documentId).isSome = true ∧
        s'.versionsOf documentId = s.versionsOf documentId

/-- Only the entries for the numbers of the versions matter. -/
def Lock.isVersionNumber : Lock → Bool
  | .versionNumber _ _ => true
  | _ => false

/-- Every commit keeps the histories, and lets them grow. -/
def histories : Discipline Store Lock where
  inv := History
  commits := Grows
  kept := Lock.isVersionNumber
  same l _ := SameHistory l
  same_refl _ _ _ _ _ _ hdocument _ := ⟨hdocument, rfl⟩
  same_trans _ _ _ _ _ h h' documentId versionNumber hl hdocument hlength := by
    obtain ⟨hdocument', heq⟩ := h documentId versionNumber hl hdocument hlength
    obtain ⟨hdocument'', heq'⟩ := h' documentId versionNumber hl hdocument' (by rwa [heq])
    exact ⟨hdocument'', heq'.trans heq⟩

/-- So do any number of commits. -/
theorem grows_later (h : histories.Later s s') : Grows s s' := by
  induction h with
  | refl => exact ⟨.of_eq rfl rfl rfl, fun _ d hd => ⟨d, hd, Or.inl rfl⟩, fun _ _ => .of_eq rfl⟩
  | tail _ hcommit ih => exact ih.trans hcommit

/-! ### What the statements make of the versions -/

/-- The use of an intent adds no version. -/
@[simp] theorem versionsOf_consumedIn (uploadIntentId : Option ℕ) :
    (consumedIn uploadIntentId now s).versionsOf documentId = s.versionsOf documentId := by
  cases uploadIntentId <;> rfl

/-- A reference adds no version. -/
@[simp] theorem versionsOf_onReferences (f : Table DocumentReference DocumentReference.id →
    Table DocumentReference DocumentReference.id) :
    (s.onReferences f).versionsOf documentId = s.versionsOf documentId := rfl

/-- A document adds no version. -/
@[simp] theorem versionsOf_onDocuments (f : Table Document Document.id →
    Table Document Document.id) :
    (s.onDocuments f).versionsOf documentId = s.versionsOf documentId := rfl

/-- A new version is the last one of its document, and no other document has it. -/
theorem versionsOf_createVersion (file : FileParams) (ofId versionNumber : ℕ) :
    (createVersion config file ofId versionNumber now s).versionsOf documentId =
      s.versionsOf documentId ++ if ofId = documentId then
        [file.row ofId versionNumber now s.versions.next] else [] := by
  have hrows : (createVersion config file ofId versionNumber now s).versions.rows =
      s.versions.rows ++ [file.row ofId versionNumber now s.versions.next] := by
    rw [createVersion, enqueueDocumentBackup_versions]
    rfl
  rw [Store.versionsOf, hrows, List.filter_append, Store.versionsOf]
  by_cases hid : ofId = documentId <;> simp [hid, FileParams.row]

/-- The versions with these ids are no longer current. -/
def supersededIn (ids : List ℕ) (s : Store) : Store :=
  ids.foldr (fun id s => s.onVersions (·.modify id superseded superseded_id)) s

/-- The versions are superseded one by one. -/
theorem supersededIn_cons (id : ℕ) (ids : List ℕ) : supersededIn (id :: ids) s =
    (supersededIn ids s).onVersions (·.modify id superseded superseded_id) := rfl

/-- Superseding versions leaves the documents as they are. -/
@[simp] theorem supersededIn_documents (ids : List ℕ) :
    (supersededIn ids s).documents = s.documents := by
  induction ids with
  | nil => rfl
  | cons id ids ih => exact ih

/-- The versions with these ids are no longer current. -/
theorem rows_supersededIn (ids : List ℕ) : (supersededIn ids s).versions.rows =
    s.versions.rows.map fun v => if v.id ∈ ids then superseded v else v := by
  induction ids with
  | nil => simp [supersededIn]
  | cons id ids ih =>
    have hmodify : (supersededIn (id :: ids) s).versions.rows =
        (supersededIn ids s).versions.rows.map fun v =>
          if decide (v.id = id) = true then superseded v else v := rfl
    rw [hmodify, ih, List.map_map]
    refine List.map_congr_left fun v _ => ?_
    have hkey : (if v.id ∈ ids then superseded v else v).id = v.id := by split <;> rfl
    simp only [Function.comp_apply, hkey, decide_eq_true_eq, List.mem_cons]
    by_cases hid : v.id = id
    · -- to supersede a version once more changes nothing
      rw [if_pos hid, if_pos (Or.inl hid)]
      split <;> rfl
    · rw [if_neg hid]
      simp only [hid, false_or]

/-- So it is for the versions of each document. -/
theorem versionsOf_supersededIn (ids : List ℕ) : (supersededIn ids s).versionsOf documentId =
    (s.versionsOf documentId).map fun v => if v.id ∈ ids then superseded v else v := by
  rw [Store.versionsOf, rows_supersededIn, List.filter_map, Store.versionsOf]
  congr 2
  funext v
  simp only [Function.comp_apply]
  split <;> rfl

/-- The use of an intent retains the other tables. -/
theorem retains_consumedIn (uploadIntentId : Option ℕ) :
    Retains s (consumedIn uploadIntentId now s) := by
  cases uploadIntentId <;> exact .of_eq rfl rfl rfl

/-- So does superseding versions. -/
theorem retains_supersededIn (ids : List ℕ) : Retains s (supersededIn ids s) := by
  induction ids with
  | nil => exact .of_eq rfl rfl rfl
  | cons id ids ih => exact ih.trans (.of_eq rfl rfl rfl)

/-- So does a new version. -/
theorem retains_createVersion (file : FileParams) (ofId versionNumber : ℕ) :
    Retains s (createVersion config file ofId versionNumber now s) := by
  rw [createVersion, enqueueDocumentBackup.eq_def]
  split <;> exact .of_eq rfl rfl rfl

/-- So does a new document with its first version. -/
theorem retains_createFirstVersion (document : DocumentParams) (file : FileParams) :
    Retains s (createFirstVersion config document file now s) := by
  have hdocument : Retains s (s.onDocuments (·.create (document.row now) fun _ => rfl)) :=
    .of_eq rfl rfl rfl
  exact hdocument.trans (retains_createVersion file s.documents.next 1)

/-! ### A new version -/

/-- A version is added behind those of one document, none of which is current any more. -/
structure AddsLast (documentId : ℕ) (s s' : Store) : Prop extends Retains s s' where
  documents : ∀ id d, s.documents.find? id = some d → s'.documents.find? id = some d
  created : ∀ d ∈ s'.documents, d.id ≠ documentId → d ∈ s.documents
  here : (s'.documents.find? documentId).isSome = true
  others : ∀ id, id ≠ documentId → s'.versionsOf id = s.versionsOf id
  written : ∃ v : DocumentVersion, (s'.versionsOf documentId).map DocumentVersion.written =
    (s.versionsOf documentId).map DocumentVersion.written ++ [v.written]
  tag : (s'.versionsOf documentId).map DocumentVersion.tag =
    ((s.versionsOf documentId).map fun v => (v.versionNumber, false)) ++
      [((s.versionsOf documentId).length + 1, true)]

namespace AddsLast

/-- There is one version more. -/
theorem length (h : AddsLast documentId s s') :
    (s'.versionsOf documentId).length = (s.versionsOf documentId).length + 1 := by
  have hlength := congrArg List.length h.tag
  simpa using hlength

/-- The document is numbered afterwards. -/
theorem numberedFor (h : AddsLast documentId s s') (hs : History s) :
    s'.NumberedFor documentId := by
  have hbefore : (s.versionsOf documentId).map (fun v => (v.versionNumber, false)) =
      (numbering (s.versionsOf documentId).length).map fun t => (t.1, false) := by
    rw [← hs.numberedFor documentId, List.map_map]
    rfl
  rw [Store.NumberedFor, h.tag, h.length, numbering_succ, hbefore]

/-- All documents are. -/
theorem history (h : AddsLast documentId s s') (hs : History s) : History s' := by
  refine ⟨fun d hd => ?_, fun v hv => ?_⟩
  · by_cases hid : d.id = documentId
    · subst hid
      refine ⟨fun hnil => ?_, h.numberedFor hs⟩
      have hlength := h.length
      rw [hnil] at hlength
      cases hlength
    · have hd := hs.numbered d (h.created d hd hid)
      rwa [Store.NumberedFor, h.others d.id hid]
  · by_cases hid : v.documentId = documentId
    · exact hid ▸ h.here
    · have hmem : v ∈ s'.versionsOf v.documentId := Store.mem_versionsOf.mpr ⟨hv, rfl⟩
      rw [h.others _ hid] at hmem
      obtain ⟨d, hd⟩ := Option.isSome_iff_exists.mp
        (hs.document v (Store.mem_versionsOf.mp hmem).1)
      exact Option.isSome_iff_exists.mpr ⟨d, h.documents _ d hd⟩

/-- The histories have grown. -/
theorem grows (h : AddsLast documentId s s') : Grows s s' := by
  refine ⟨h.toRetains, fun id d hd => ⟨d, h.documents id d hd, Or.inl rfl⟩, fun id _ => ?_⟩
  by_cases hid : id = documentId
  · subst hid
    obtain ⟨v, hv⟩ := h.written
    exact ⟨⟨[v.written], hv.symm⟩, Or.inr (by rw [h.length]; omega)⟩
  · exact .of_eq (h.others id hid)

/-- Nothing that the holder of another entry may rely on has changed. -/
theorem sameHistory (h : AddsLast documentId s s') {l : Lock}
    (hl : (s.documents.find? documentId).isSome = true →
      l ≠ .versionNumber documentId ((s.versionsOf documentId).length + 1)) :
    SameHistory l s s' := by
  intro id versionNumber heq hdocument hlength
  have hid : id ≠ documentId := by
    rintro rfl
    exact hl hdocument (heq.trans (by rw [hlength]))
  obtain ⟨d, hd⟩ := Option.isSome_iff_exists.mp hdocument
  exact ⟨Option.isSome_iff_exists.mpr ⟨d, h.documents id d hd⟩, h.others id hid⟩

end AddsLast

/-- Rows of other tables do not matter. -/
theorem AddsLast.of_eq (h : AddsLast documentId s s') (hretains : Retains s' s'')
    (hdocuments : s''.documents = s'.documents) (hversions : s''.versions = s'.versions) :
    AddsLast documentId s s'' := by
  have hof : ∀ id, s''.versionsOf id = s'.versionsOf id := fun id => by
    rw [Store.versionsOf, hversions, Store.versionsOf]
  exact ⟨h.toRetains.trans hretains, hdocuments ▸ h.documents, hdocuments ▸ h.created,
    hdocuments ▸ h.here, fun id hid => (hof id).trans (h.others id hid), hof documentId ▸ h.written,
    hof documentId ▸ h.tag⟩

/-- A document with its first version. -/
theorem addsLast_createFirstVersion (hs : History s) {document : DocumentParams}
    {file : FileParams} (uploadIntentId : Option ℕ) :
    AddsLast s.documents.next s
      (createFirstVersion config document file now (consumedIn uploadIntentId now s)) := by
  -- the id of the new document is fresh, so it has no versions yet
  have hnil : s.versionsOf s.documents.next = [] := by
    refine List.eq_nil_iff_forall_not_mem.mpr fun v hv => ?_
    obtain ⟨hmem, hid⟩ := Store.mem_versionsOf.mp hv
    have hsome := hs.document v hmem
    rw [hid, Table.find?_of_next_le le_rfl] at hsome
    cases hsome
  have hdocuments : (createFirstVersion config document file now
      (consumedIn uploadIntentId now s)).documents =
      s.documents.create (document.row now) fun _ => rfl := by
    rw [createFirstVersion_documents]
    simp only [consumedIn_documents]
  have hversions : ∀ id, (createFirstVersion config document file now
      (consumedIn uploadIntentId now s)).versionsOf id = s.versionsOf id ++
        if s.documents.next = id then [file.row s.documents.next 1 now
          (consumedIn uploadIntentId now s).versions.next] else [] := by
    intro id
    rw [createFirstVersion, versionsOf_createVersion, versionsOf_onDocuments, versionsOf_consumedIn]
    simp only [consumedIn_documents]
    rfl
  refine ⟨?_, fun id d hd => ?_, fun d hd hid => ?_, ?_, fun id hid => ?_, ?_, ?_⟩
  · exact (retains_consumedIn uploadIntentId).trans (retains_createFirstVersion document file)
  · rw [hdocuments]
    exact Table.find?_create_of_find? (h := fun _ => rfl) hd
  · rw [hdocuments] at hd
    rcases (Table.mem_create (h := fun _ => rfl)).mp hd with hd | rfl
    · exact hd
    · exact absurd rfl hid
  · rw [hdocuments]
    exact Option.isSome_iff_exists.mpr ⟨_, Table.find?_of_mem
      ((Table.mem_create (h := fun _ => rfl)).mpr (Or.inr rfl))⟩
  · rw [hversions, if_neg (Ne.symm hid), List.append_nil]
  · exact ⟨_, by rw [hversions, if_pos rfl, List.map_append]; rfl⟩
  · rw [hversions, if_pos rfl, hnil]
    rfl

/-- A version behind the others, when all that were current are superseded. -/
theorem addsLast_createVersion (hd : (s.documents.find? documentId).isSome = true)
    {file : FileParams} (uploadIntentId : Option ℕ) {ids : List ℕ}
    (hcurrent : ∀ v ∈ s.versionsOf documentId, v.isCurrent = true → v.id ∈ ids)
    (hids : ∀ id ∈ ids, ∃ v ∈ s.versionsOf documentId, v.id = id) :
    AddsLast documentId s (createVersion config file documentId
      ((s.versionsOf documentId).length + 1) now
        (supersededIn ids (consumedIn uploadIntentId now s))) := by
  have hdocuments : (createVersion config file documentId
      ((s.versionsOf documentId).length + 1) now
        (supersededIn ids (consumedIn uploadIntentId now s))).documents = s.documents := by
    rw [createVersion_documents, supersededIn_documents, consumedIn_documents]
  -- the ids are those of versions of this document
  have hothers : ∀ id, id ≠ documentId → ∀ v ∈ s.versionsOf id, v.id ∉ ids := by
    intro id hid v hv hmem
    obtain ⟨w, hw, hkey⟩ := hids _ hmem
    obtain ⟨hv, rfl⟩ := Store.mem_versionsOf.mp hv
    obtain ⟨hmem, rfl⟩ := Store.mem_versionsOf.mp hw
    exact hid (congrArg DocumentVersion.documentId (Table.eq_of_key_eq ‹v ∈ s.versions› hmem
      hkey.symm))
  refine ⟨((retains_consumedIn uploadIntentId).trans (retains_supersededIn ids)).trans
      (retains_createVersion file _ _), fun id d hd => hdocuments ▸ hd,
    fun d hd _ => hdocuments ▸ hd, hdocuments ▸ hd,
    fun id hid => ?_, ?_, ?_⟩
  · rw [versionsOf_createVersion, if_neg (Ne.symm hid), List.append_nil, versionsOf_supersededIn,
      versionsOf_consumedIn]
    refine (List.map_congr_left fun v hv => ?_).trans (List.map_id _)
    rw [if_neg (hothers id hid v hv), id_eq]
  · refine ⟨file.row documentId ((s.versionsOf documentId).length + 1) now
      (supersededIn ids (consumedIn uploadIntentId now s)).versions.next, ?_⟩
    rw [versionsOf_createVersion, if_pos rfl, List.map_append, versionsOf_supersededIn,
      versionsOf_consumedIn, List.map_map]
    congr 1
    refine List.map_congr_left fun v _ => ?_
    rw [Function.comp_apply]
    split <;> rfl
  · rw [versionsOf_createVersion, if_pos rfl, List.map_append, versionsOf_supersededIn,
      versionsOf_consumedIn, List.map_map]
    congr 1
    refine List.map_congr_left fun v hv => ?_
    rw [Function.comp_apply]
    split
    case isTrue => rfl
    case isFalse hid =>
      have hfalse : v.isCurrent = false := by
        by_contra htrue
        exact hid (hcurrent v hv (by simpa using htrue))
      rw [DocumentVersion.tag, hfalse]

/-! ### The transactions -/

/-- The use of an intent adds to no history. -/
theorem safe_consumeIfAny_histories {uploadIntentId : Option ℕ} {f : PUnit → Call β}
    (h : ∀ last', histories.Later last last' →
      (f ⟨⟩).Safe histories post last' [] (consumedIn uploadIntentId now)) :
    (consumeIfAny uploadIntentId now >>= f).Safe histories post last [] id := by
  cases uploadIntentId with
  | some uploadIntentId => exact Prog.Safe.claim fun s _ hlast _ _ => h s hlast
  | none => exact h last (.refl last)

/-- The commit of a transaction that has added a version. -/
theorem AddsLast.conclude (h : AddsLast documentId s s') (hs : History s)
    (hheld : (s.documents.find? documentId).isSome = true → ∃ s₀ : Store,
      (.versionNumber documentId ((s.versionsOf documentId).length + 1), Mode.exclusive, s₀) ∈
        notes) :
    History s' ∧ Grows s s' ∧ (∀ l m, Free notes l m → SameHistory l s s') ∧
      Clean PUnit.unit s' ([] : List (Lock × Mode × Store)) id := by
  refine ⟨h.history hs, h.grows, fun l m hfree => h.sameHistory fun hdocument hl => ?_, rfl, rfl⟩
  obtain ⟨s₀, hs₀⟩ := hheld hdocument
  exact not_free_of_exclusive hs₀ (hl ▸ hfree)

/-- A new document begins a history. -/
theorem safe_createDocumentWithFirstVersion_histories {document : DocumentParams}
    {file : FileParams} {uploadIntentId : Option ℕ} :
    (createDocumentWithFirstVersion config document file uploadIntentId now).Safe histories Clean
      last [] id := by
  rw [createDocumentWithFirstVersion, Prog.transaction, Prog.bind_assoc]
  refine safe_consumeIfAny_histories fun last₁ _ => Prog.Safe.write fun _ _ _ _ => ?_
  refine Prog.Safe.commitAll fun s hs _ _ => ?_
  refine (addsLast_createFirstVersion hs uploadIntentId).conclude hs fun hdocument => ?_
  -- no document has the next id yet
  rw [Table.find?_of_next_le le_rfl] at hdocument
  cases hdocument

/-- What the loop over the versions that were current has done: as long as no version was added
since the number was read, the versions that are still current are superseded or to come. -/
def Superseding (documentId latest : ℕ) (uploadIntentId : Option ℕ) (now : Time) (ids : List ℕ)
    (last : Store) (pending : Store → Store) : Prop :=
  ∃ done, (∀ s, pending s = supersededIn done (consumedIn uploadIntentId now s)) ∧
    latest ≤ (last.versionsOf documentId).length ∧
    ((last.versionsOf documentId).length = latest →
      (∀ v ∈ last.versionsOf documentId, v.isCurrent = true → v.id ∈ done ∨ v.id ∈ ids) ∧
      ∀ id, id ∈ done ∨ id ∈ ids → ∃ v ∈ last.versionsOf documentId, v.id = id)

section Superseding

variable {latest : ℕ} {uploadIntentId : Option ℕ} {ids : List ℕ}

/-- The history of a document that is there grows. -/
theorem growsFor_later (hd : (last.documents.find? documentId).isSome = true)
    (hlast : histories.Later last s) : GrowsFor last s documentId :=
  (grows_later hlast).versions documentId hd

/-- What a transaction knows of the versions stays true until it commits. -/
theorem Superseding.later (h : Superseding documentId latest uploadIntentId now ids last pending)
    (hd : (last.documents.find? documentId).isSome = true) (hlast : histories.Later last s) :
    Superseding documentId latest uploadIntentId now ids s pending := by
  obtain ⟨done, hpending, hle, hcurrent⟩ := h
  have hgrows := growsFor_later hd hlast
  refine ⟨done, hpending, hle.trans hgrows.length_le, fun hlength => ?_⟩
  rcases hgrows.2 with heq | hlt
  · rw [heq] at hlength ⊢
    exact hcurrent hlength
  · omega

/-- A row is superseded when it is still current once it is free. -/
theorem Superseding.next {id : ℕ}
    (h : Superseding documentId latest uploadIntentId now (id :: ids) s pending) :
    Superseding documentId latest uploadIntentId now ids s
      (if ((pending s).versions.find? id).any DocumentVersion.isCurrent = true then
        fun s => (pending s).onVersions (·.modify id superseded superseded_id) else pending) := by
  obtain ⟨done, hpending, hle, hcurrent⟩ := h
  split
  case isTrue hmatched =>
    refine ⟨id :: done, fun s => by rw [supersededIn_cons, ← hpending], hle, fun hlength => ?_⟩
    obtain ⟨hsuperseded, hids⟩ := hcurrent hlength
    refine ⟨fun v hv htrue => ?_, fun id' hid' => hids id' ?_⟩
    · have := hsuperseded v hv htrue
      simp only [List.mem_cons] at this ⊢
      tauto
    · simp only [List.mem_cons] at hid' ⊢
      tauto
  case isFalse hunmatched =>
    refine ⟨done, hpending, hle, fun hlength => ?_⟩
    obtain ⟨hsuperseded, hids⟩ := hcurrent hlength
    refine ⟨fun v hv htrue => ?_,
      fun id' hid' => hids id' (hid'.imp_right (List.mem_cons_of_mem _))⟩
    rcases hsuperseded v hv htrue with hdone | hrest
    · exact Or.inl hdone
    · rcases List.mem_cons.mp hrest with rfl | hrest
      · -- a version that is still current was superseded before
        by_contra hnot
        refine hunmatched ?_
        have hmem : v ∈ (supersededIn done (consumedIn uploadIntentId now s)).versionsOf
            documentId := by
          rw [versionsOf_supersededIn, versionsOf_consumedIn]
          exact List.mem_map.mpr ⟨v, hv, if_neg fun hdone => hnot (Or.inl hdone)⟩
        rw [hpending, Table.find?_of_mem (Store.mem_versionsOf.mp hmem).1]
        exact htrue
      · exact Or.inr hrest

/-- The insertion is refused unless no version was added since the number was read. -/
theorem Superseding.length_eq (hs : History s)
    (h : Superseding documentId latest uploadIntentId now ids s pending)
    (hfree : ((pending s).versionsOf documentId).any (fun v => v.versionNumber = latest + 1) =
      false) : (s.versionsOf documentId).length = latest := by
  obtain ⟨done, hpending, hle, -⟩ := h
  by_contra hne
  -- the number would be taken
  obtain ⟨v, hv, hnumber, -⟩ := (hs.numberedFor documentId).mem_tag.mpr
    ⟨by omega, show latest + 1 ≤ _ by omega, rfl⟩
  rw [hpending, versionsOf_supersededIn, versionsOf_consumedIn, List.any_eq_false] at hfree
  refine hfree _ (List.mem_map.mpr ⟨v, hv, rfl⟩) ?_
  rw [decide_eq_true_eq, ← hnumber]
  split <;> rfl

end Superseding

/-- The version that is current at the commit is the one whose number was read. -/
theorem safe_addVersion_histories (hd : (last.documents.find? documentId).isSome = true)
    {file : FileParams} {uploadIntentId : Option ℕ} :
    (addVersion config documentId file uploadIntentId now).Safe histories Clean last [] id := by
  rw [addVersion, Prog.transaction, Prog.bind_assoc]
  refine safe_consumeIfAny_histories fun last₁ hlast₁ => ?_
  rw [Prog.bind_assoc]
  refine Prog.Safe.query fun s₁ hs₁ hlater₁ _ => ?_
  have hd₁ : (s₁.documents.find? documentId).isSome = true :=
    (grows_later (hlast₁.trans hlater₁)).isSome hd
  have hdocument : ∀ {s}, histories.Later s₁ s → (s.documents.find? documentId).isSome = true :=
    fun hlater => (grows_later hlater).isSome hd₁
  have hlatest : (consumedIn uploadIntentId now s₁).latestVersionNumber documentId =
      (s₁.versionsOf documentId).length := by
    rw [← (hs₁.numberedFor documentId).latestVersionNumber_eq, Store.latestVersionNumber,
      versionsOf_consumedIn, Store.latestVersionNumber]
  rw [hlatest, Prog.bind_assoc]
  generalize hlength₁ : (s₁.versionsOf documentId).length = latest
  refine Prog.Safe.updateMany (fun ids last' _ pending' => histories.Later s₁ last' ∧
      Superseding documentId latest uploadIntentId now ids last' pending')
    (fun s _ hlater _ => ⟨hlater, [], fun _ => rfl, ?_, fun _ => ⟨fun v hv htrue => ?_, ?_⟩⟩)
    (fun _ _ _ _ s hI hlater => ⟨hI.1.trans hlater, hI.2.later (hdocument hI.1) hlater⟩)
    (fun _ _ _ _ _ hI s _ hlater _ =>
      ⟨hI.1.trans hlater, (hI.2.later (hdocument hI.1) hlater).next⟩)
    fun last₂ notes₂ pending₂ hI => ?_
  · exact hlength₁ ▸ (growsFor_later hd₁ hlater).length_le
  · refine Or.inr (List.mem_map.mpr ⟨v, List.mem_filter.mpr ⟨?_, htrue⟩, rfl⟩)
    rwa [versionsOf_consumedIn]
  · intro id hid
    obtain ⟨v, hv, rfl⟩ := List.mem_map.mp (hid.resolve_left List.not_mem_nil)
    exact ⟨v, by simpa using (List.mem_filter.mp hv).1, rfl⟩
  refine Prog.Safe.writeUnless fun s₂ hs₂ hlater₂ _ hfree => ?_
  refine Prog.Safe.commitAll fun s hs hlater hknows => ?_
  have hlater₂ := hI.1.trans hlater₂
  have hlast : histories.Later last₂ s := Relation.ReflTransGen.trans ‹_› hlater
  have hunused : ((pending₂ s₂).versionsOf documentId).any
      (fun v => v.versionNumber = latest + 1) = false := by
    by_contra htaken
    rw [if_pos (by simpa using htaken)] at hfree
    cases hfree
  have hlength₂ : (s₂.versionsOf documentId).length = latest :=
    (hI.2.later (hdocument hI.1) ‹_›).length_eq hs₂ hunused
  -- the entry of the index was held since, so no version was added
  have hlock : (Lock.versionNumber documentId (latest + 1), Mode.exclusive, s₂) ∈
      notes₂ ++ histories.taken [(.versionNumber documentId (latest + 1), .exclusive)] s₂ :=
    List.mem_append_right _ (Discipline.mem_taken List.mem_cons_self rfl)
  have hsame : s.versionsOf documentId = s₂.versionsOf documentId :=
    (hknows _ hlock documentId (latest + 1) rfl
      (hdocument hlater₂) (by rw [hlength₂])).2
  have hlength : (s.versionsOf documentId).length = latest := by rw [hsame, hlength₂]
  obtain ⟨done, hpending, -, hcurrent⟩ := hI.2.later (hdocument hI.1) hlast
  obtain ⟨hsuperseded, hids⟩ := hcurrent hlength
  rw [hpending, ← hlength]
  refine (addsLast_createVersion (hdocument (hI.1.trans hlast)) uploadIntentId
    (fun v hv htrue => (hsuperseded v hv htrue).resolve_right List.not_mem_nil)
    fun id hid => hids id (Or.inl hid)).conclude hs fun _ => ⟨s₂, ?_⟩
  rw [hlength]
  exact hlock

/-- A receipt begins a history. -/
theorem safe_createPaymentReceipt_histories {buildingId paymentId uploadIntentId : ℕ}
    {file : FileParams} :
    (createPaymentReceipt config buildingId paymentId file uploadIntentId now).Safe histories Clean
      last [] id := by
  rw [createPaymentReceipt, Prog.transaction, Prog.bind_assoc, consumeUploadIntent]
  refine Prog.Safe.claim fun _ _ _ _ _ => Prog.Safe.writeUnless fun _ _ _ _ _ => ?_
  refine Prog.Safe.commitAll fun s hs _ _ => ?_
  have hretains : Retains
      (createFirstVersion config (receiptDocument buildingId file.uploadedById file.fileName) file
        now (consumedIn (some uploadIntentId) now s))
      (createReceipt config (receiptDocument buildingId file.uploadedById file.fileName) file
        paymentId now (consumedIn (some uploadIntentId) now s)) :=
    ⟨rfl, rfl, fun _ hr => (Table.mem_create (h := fun _ => rfl)).mpr (Or.inl hr)⟩
  have hadds := (addsLast_createFirstVersion hs (some uploadIntentId)).of_eq hretains rfl rfl
  refine hadds.conclude hs fun hdocument => ?_
  rw [Table.find?_of_next_le le_rfl] at hdocument
  cases hdocument

/-! ### The calls -/

/-- The commit of a transaction that adds no document and no version, and may archive. -/
theorem conclude_of_edit {edit : Document → Document} {a : α} (hs : History s)
    (hretains : Retains s s') (hedit : ∀ d, edit d = d ∨ edit d = archived d)
    (hdocuments : s'.documents.rows = s.documents.rows.map edit)
    (hversions : s'.versions = s.versions) :
    History s' ∧ Grows s s' ∧ (∀ l m, Free notes l m → SameHistory l s s') ∧
      Clean a s' ([] : List (Lock × Mode × Store)) id := by
  have hof : ∀ id, s'.versionsOf id = s.versionsOf id := fun id => by
    rw [Store.versionsOf, hversions, Store.versionsOf]
  have hkey : ∀ d, (edit d).id = d.id := by
    intro d
    rcases hedit d with heq | heq
    · rw [heq]
    · rw [heq, archived_id]
  have hfind : ∀ id, s'.documents.find? id = (s.documents.find? id).map edit := by
    intro id
    rw [Table.find?, hdocuments, List.find?_map, Table.find?]
    simp only [Function.comp_def, hkey]
  have hisSome : ∀ id, (s'.documents.find? id).isSome = (s.documents.find? id).isSome := by
    intro id
    rw [hfind, Option.isSome_map]
  refine ⟨⟨fun d hd => ?_, fun v hv => ?_⟩,
    ⟨hretains, fun id d hd => ?_, fun id _ => .of_eq (hof id)⟩, fun l _ _ id versionNumber _ hdocument _ => ⟨(hisSome id).trans hdocument, hof id⟩, rfl, rfl⟩
  · have hmem : d ∈ s.documents.rows.map edit := hdocuments ▸ hd
    obtain ⟨d₀, hd₀, rfl⟩ := List.mem_map.mp hmem
    rw [Store.NumberedFor, hof, hkey]
    exact hs.numbered d₀ hd₀
  · rw [hisSome]
    exact hs.document v (hversions ▸ hv)
  · exact ⟨edit d, by rw [hfind, hd, Option.map_some], hedit d⟩

/-- The commit of a transaction that touches no document and no version. -/
theorem conclude_of_eq (hs : History s) (hretains : Retains s s')
    (hdocuments : s'.documents = s.documents) (hversions : s'.versions = s.versions) :
    History s' ∧ Grows s s' ∧ (∀ l m, Free notes l m → SameHistory l s s') ∧
      Clean PUnit.unit s' ([] : List (Lock × Mode × Store)) id :=
  conclude_of_edit hs hretains (fun _ => Or.inl rfl)
    (by rw [hdocuments]; exact (List.map_id _).symm) hversions

/-- An intent adds to no history. -/
theorem safe_createUploadIntent_histories {params : UploadIntentParams} :
    (createUploadIntent params).Safe histories Clean last [] id := by
  rw [createUploadIntent, Prog.transaction]
  exact Prog.Safe.writeUnless fun _ _ _ _ _ => Prog.Safe.commitAll fun _ hs _ _ =>
    conclude_of_eq hs (.of_eq rfl rfl rfl) rfl rfl

open Relational.ReadCommitted.Prog (ReadOnly) in
/-- The look at an intent writes nothing. -/
theorem readOnly_resolveUploadIntent (config : Config) (params : ResolveParams)
    (head : StorageService.HeadRequest) (now : Time) :
    (resolveUploadIntent config params head now).ReadOnly := by
  rw [resolveUploadIntent]
  refine .ite (.bind (.query _) fun _ => .bind (.expect _ _) fun _ => .bind ?_ fun _ =>
    .bind (readOnly_verifyObjectUploaded _ _ _) fun _ => .bind (.require _ _) fun _ =>
    .bind (readOnly_assertSize _ _) fun _ => trivial) trivial
  exact .bind (.require _ _) fun _ => .bind (.require _ _) fun _ => .bind (.require _ _) fun _ =>
    .bind (.require _ _) fun _ => .bind (.require _ _) fun _ => .bind (.require _ _) fun _ =>
    .require _ _

/-- `createDocument` for one file. -/
theorem safe_createOne_histories {buildingId actorPersonId : ℕ} {dto : CreateDocumentDto}
    {privileged : Bool} {head : StorageService.HeadRequest} :
    (createOne config buildingId dto actorPersonId privileged head now).Safe histories Clean last []
      id := by
  rw [createOne]
  exact .require fun _ => .require fun _ => .require fun _ =>
    .readOnly (readOnly_resolveUploadIntent _ _ _ _) fun _ _ _ =>
      safe_createDocumentWithFirstVersion_histories

/-- Deleting an object adds to no history. -/
theorem safe_deleteObject_histories {storageKey : String} {uploadIntentId : ℕ} {answered : Bool} :
    (StorageService.deleteObject config storageKey uploadIntentId answered).Safe histories Clean
      last [] id := by
  rw [StorageService.deleteObject]
  split
  case isFalse => exact ⟨rfl, rfl⟩
  case isTrue =>
    rw [Prog.transaction]
    exact Prog.Safe.write fun _ _ _ _ => Prog.Safe.commitAll fun _ hs _ _ =>
      conclude_of_eq hs (.of_eq rfl rfl rfl) rfl rfl

open Relational.ReadCommitted.Prog (ReadOnly) in
/-- The look at the intent of a receipt writes nothing. -/
theorem readOnly_loadValidReceiptIntent (uploadIntentId buildingId paymentId : ℕ) (now : Time) :
    (PaymentReceiptService.loadValidReceiptIntent uploadIntentId buildingId paymentId
      now).ReadOnly :=
  .bind (.query _) fun _ => .bind (.expect _ _) fun _ => .bind (.require _ _) fun _ =>
    .bind (.require _ _) fun _ => .bind (.require _ _) fun _ => trivial

/-- `finalize` adds a receipt, or nothing. -/
theorem safe_finalize_histories {buildingId paymentId uploadIntentId actorPersonId : ℕ}
    {requests : PaymentReceiptService.Requests} :
    (PaymentReceiptService.finalize config buildingId paymentId uploadIntentId actorPersonId
      requests now).Safe histories Clean last [] id := by
  rw [PaymentReceiptService.finalize]
  refine .readOnly (readOnly_getBankTransferPaymentForPayer _ _ _) fun payment _ _ => ?_
  refine .readOnly (readOnly_assertNoExistingReceipt _) fun _ _ _ => ?_
  refine .readOnly (readOnly_loadValidReceiptIntent _ _ _ _) fun _ _ _ => ?_
  refine .readOnly (readOnly_validateMagicBytes _ _ _) fun validationError _ _ => ?_
  cases validationError with
  | some error => exact safe_deleteObject_histories.bind_clean fun _ _ => trivial
  | none => exact .tryCatch safe_createPaymentReceipt_histories fun _ _ => trivial

/-- Every call that has to do with an upload keeps the histories. -/
theorem UploadCall.safe_histories (c : UploadCall) (last : Store) :
    (c.call config).Safe histories (fun _ _ _ _ => True) last [] id := by
  -- no call keeps a lock over its end, so each is shown clean
  have hclean : (c.call config).Safe histories Clean last [] id := by
    cases c with
    | requestUploadUrl buildingId dto actorPersonId parts now =>
      rw [UploadCall.call, DocumentsService.requestUploadUrl]
      exact .readOnly (readOnly_getBuilding _) fun _ _ _ =>
        .readOnly (readOnly_assertManager _ _) fun _ _ _ => .require fun _ => .require fun _ =>
        .readOnly (readOnly_assertTarget _ _) fun _ _ _ => .require fun _ =>
        safe_createUploadIntent_histories
    | requestUploadIntent buildingId paymentId dto actorPersonId parts now =>
      rw [UploadCall.call, PaymentReceiptService.requestUploadIntent]
      exact .readOnly (readOnly_getBankTransferPaymentForPayer _ _ _) fun _ _ _ =>
        .readOnly (readOnly_assertNoExistingReceipt _) fun _ _ _ => .require fun _ =>
        .require fun _ => .require fun _ => safe_createUploadIntent_histories
    | put storageKey bytes now =>
      rw [UploadCall.call, StorageService.put]
      refine Prog.Safe.query fun _ _ _ _ => Prog.Safe.expect fun _ _ => .require fun _ => ?_
      rw [Prog.transaction]
      exact Prog.Safe.write fun _ _ _ _ => Prog.Safe.commitAll fun _ hs _ _ =>
        conclude_of_eq hs (.of_eq rfl rfl rfl) rfl rfl
    | createDocument buildingId dto actorPersonId head now =>
      rw [UploadCall.call, DocumentsService.createDocument]
      exact .readOnly (readOnly_getBuilding _) fun _ _ _ =>
        .readOnly (readOnly_assertManager _ _) fun _ _ _ =>
        .readOnly (readOnly_isPrivileged _ _) fun _ _ _ => safe_createOne_histories
    | bulkCreateDocuments buildingId dto actorPersonId now =>
      rw [UploadCall.call, DocumentsService.bulkCreateDocuments]
      refine .readOnly (readOnly_getBuilding _) fun _ _ _ =>
        .readOnly (readOnly_assertManager _ _) fun _ _ _ =>
        .readOnly (readOnly_isPrivileged _ _) fun _ last' _ => .forEach (fun _ _ _ => ?_) last'
      exact Prog.Safe.tryCatch safe_createOne_histories fun _ _ => ⟨rfl, rfl⟩
    | uploadVersion documentId dto actorPersonId head now =>
      rw [UploadCall.call, DocumentsService.uploadVersion, getDocumentOrThrow, Prog.bind_assoc]
      refine Prog.Safe.query fun _ _ _ _ => Prog.Safe.expect fun d hd => ?_
      refine .readOnly (readOnly_assertManager _ _) fun _ _ hs₁ => ?_
      refine .readOnly (readOnly_isPrivileged _ _) fun _ _ hs₂ => ?_
      refine .require fun _ => .require fun _ => .require fun _ => .require fun _ => ?_
      refine .readOnly (readOnly_resolveUploadIntent _ _ _ _) fun _ _ hs₃ => ?_
      exact safe_addVersion_histories
        ((grows_later ((hs₁.trans hs₂).trans hs₃)).isSome (Option.isSome_iff_exists.mpr ⟨d, hd⟩))
    | finalize buildingId paymentId uploadIntentId actorPersonId requests now =>
      exact safe_finalize_histories
  exact hclean.mono fun _ _ _ _ _ => trivial

section ReadOnly

open Relational.ReadCommitted.Prog (ReadOnly)

/-- The look at a document writes nothing. -/
theorem readOnly_getDocumentOrThrow (documentId : ℕ) : (getDocumentOrThrow documentId).ReadOnly :=
  .bind (.query _) fun _ => .expect _ _

/-- Neither does the check for a membership. -/
theorem readOnly_assertMember (personId buildingId : ℕ) :
    (assertMember personId buildingId).ReadOnly :=
  .bind (.query _) fun _ => .require _ _

/-- Nor does the look at a case. -/
theorem readOnly_getCase (buildingId caseId actorPersonId : ℕ) :
    (getCase buildingId caseId actorPersonId).ReadOnly := by
  refine .bind (.query _) fun found => ?_
  cases found <;> trivial

/-- Nor does that at a version. -/
theorem readOnly_referencedVersion (documentId : ℕ) (versionId : Option ℕ) :
    (referencedVersion documentId versionId).ReadOnly := by
  cases versionId with
  | some versionId =>
    refine .bind (.query _) fun _ => .bind (.expect _ _) fun _ => ?_
    exact .bind (.require _ _) fun _ => trivial
  | none => exact .bind (.query _) fun _ => .bind (.expect _ _) fun _ => trivial

end ReadOnly

/-- Attaching a version adds to no history. -/
theorem safe_attach_histories {documentId entityId : ℕ} {versionId : Option ℕ}
    {entityType : DocumentReferenceEntityType} :
    (referencedVersion documentId versionId >>= fun versionId =>
      DocumentRepository.createReference versionId entityType entityId now).Safe histories Clean
        last [] id := by
  refine .readOnly (readOnly_referencedVersion _ _) fun _ _ _ => ?_
  rw [DocumentRepository.createReference, Prog.transaction]
  exact Prog.Safe.writeUnless fun _ _ _ _ _ => Prog.Safe.commitAll fun _ hs _ _ =>
    conclude_of_eq hs ⟨rfl, rfl, fun _ hr => (Table.mem_create (h := fun _ => rfl)).mpr (Or.inl hr)⟩
      rfl rfl

/-- `createReference`, with its checks. -/
theorem safe_createReference_histories {documentId actorPersonId : ℕ} {dto : CreateReferenceDto} :
    (DocumentsService.createReference documentId dto actorPersonId now).Safe histories Clean last []
      id := by
  rw [DocumentsService.createReference]
  refine .readOnly (readOnly_getDocumentOrThrow _) fun _ _ _ => ?_
  refine .readOnly (readOnly_assertMember _ _) fun _ _ _ => ?_
  refine .readOnly (readOnly_isPrivileged _ _) fun _ _ _ => .require fun _ => .require fun _ => ?_
  dsimp only
  split
  · exact .readOnly (readOnly_getCase _ _ _) fun _ _ _ => safe_attach_histories
  · exact safe_attach_histories

/-- `archiveDocument` adds to no history. -/
theorem safe_archiveDocument_histories {documentId actorPersonId : ℕ} :
    (DocumentsService.archiveDocument documentId actorPersonId).Safe histories Clean last []
      id := by
  rw [DocumentsService.archiveDocument]
  refine .readOnly (readOnly_getDocumentOrThrow _) fun _ _ _ => ?_
  refine .readOnly (readOnly_assertMember _ _) fun _ _ _ => ?_
  refine .readOnly (readOnly_isPrivileged _ _) fun _ _ _ => .require fun _ => .require fun _ => ?_
  rw [DocumentRepository.archiveDocument, Prog.transaction, Prog.bind_assoc]
  refine Prog.Safe.writeUnless fun _ _ _ _ _ => ?_
  rw [Prog.bind_assoc]
  refine Prog.Safe.query fun _ _ _ _ => Prog.Safe.expect fun _ _ => ?_
  refine Prog.Safe.commitAll fun s hs _ _ => ?_
  refine conclude_of_edit hs (.of_eq rfl rfl rfl) (fun d => ?_) rfl rfl
  split
  · exact Or.inr rfl
  · exact Or.inl rfl

/-! ### Runs -/

/-- A call that uploads a file, or attaches or archives a document. -/
inductive DocumentCall
  | upload (call : UploadCall)
  | archiveDocument (documentId actorPersonId : ℕ)
  | createReference (documentId : ℕ) (dto : CreateReferenceDto) (actorPersonId : ℕ) (now : Time)

/-- The method that the call is made to. -/
def DocumentCall.call (config : Config) : DocumentCall → Call PUnit
  | upload call => call.call config
  | archiveDocument documentId actorPersonId => do
    let _ ← DocumentsService.archiveDocument documentId actorPersonId
    pure ⟨⟩
  | createReference documentId dto actorPersonId now =>
    DocumentsService.createReference documentId dto actorPersonId now

/-- Every call keeps the histories. -/
theorem DocumentCall.safe_histories (c : DocumentCall) (last : Store) :
    (c.call config).Safe histories (fun _ _ _ _ => True) last [] id := by
  cases c with
  | upload call => exact call.safe_histories last
  | archiveDocument documentId actorPersonId =>
    exact safe_archiveDocument_histories.bind_clean fun _ _ => trivial
  | createReference documentId dto actorPersonId now =>
    exact safe_createReference_histories.mono fun _ _ _ _ _ => trivial

/-- The histories after calls that are safe one by one. -/
theorem history_run {ι : Type} [DecidableEq ι] (hs : History s) {calls : ι → Call PUnit}
    (hsafe : ∀ i, (calls i).Safe histories (fun _ _ _ _ => True) s [] id)
    (es : List (Event ι Failure)) :
    History (runCalls s calls es).store ∧ Grows s (runCalls s calls es).store := by
  have hrun := Database.safe_run hs hsafe
    (Database.eachStep_orderly_of_enforced (fun _ _ => rfl) _ es)
  exact ⟨hrun.1, grows_later hrun.2⟩

/-- Whatever the calls do, and in whatever order they take their steps: the versions of every
document stay numbered from 1 on, with the last one current, and the histories only grow. -/
theorem history_of_calls {ι : Type} [DecidableEq ι] (hs : History s) (calls : ι → DocumentCall)
    (es : List (Event ι Failure)) :
    History (runCalls s (fun i => (calls i).call config) es).store ∧
      Grows s (runCalls s (fun i => (calls i).call config) es).store :=
  history_run hs (fun i => (calls i).safe_histories s) es

/-- Files are stored elsewhere. -/
def noStorage : Config where
  storageConfigured := false
  bucket := none

/-- The building of `uploaded` with one document. -/
def described : Store :=
  createFirstVersion noStorage
    { buildingId := 0, category := .general, title := "Plan", visibility := .membersOnly,
      createdById := 1 }
    { fileUrl := "plan-1", fileName := "plan.pdf", fileType := "PDF", fileSize := 3,
      uploadedById := 1 } 1 uploaded

/-- The document of the runs has its history. -/
theorem history_described : History described := by
  refine ⟨?_, by decide +kernel⟩
  unfold Store.NumberedFor
  decide +kernel

/-- The manager uploads two further versions at once. -/
def uploadedTwice (i : Fin 2) : DocumentCall :=
  .upload (.uploadVersion 0
    { fileUrl := if i = 0 then "plan-2" else "plan-3", fileName := "plan.pdf", fileType := "PDF",
      fileSize := 3 } 1 { answered := true, sizeReported := true } 2)

/-- Both calls read the same number, and one of them adds its version. -/
theorem history_of_calls_uploadedTwice :
    ((runCalls described (fun i => (uploadedTwice i).call noStorage)
      (List.replicate 9 [Event.step 0, Event.step 1]).flatten).store.versionsOf 0).map
        DocumentVersion.tag = [(1, false), (2, true)] ∧
      History (runCalls described (fun i => (uploadedTwice i).call noStorage)
        (List.replicate 9 [Event.step 0, Event.step 1]).flatten).store ∧
      Grows described (runCalls described (fun i => (uploadedTwice i).call noStorage)
        (List.replicate 9 [Event.step 0, Event.step 1]).flatten).store :=
  ⟨by decide +kernel, history_of_calls history_described uploadedTwice _⟩

/-! ### The versions of one document -/

/-- Where there is no document there is nothing to number. -/
theorem history_of_none (hdocuments : s.documents.rows = []) (hversions : s.versions.rows = []) :
    History s := by
  refine ⟨fun d hd => ?_, fun v hv => ?_⟩
  · rw [← Table.mem_rows, hdocuments] at hd
    cases hd
  · rw [← Table.mem_rows, hversions] at hv
    cases hv

/-- The numbers from 1 on, in order, and whose version is current. -/
theorem Store.NumberedFor.versions (h : s.NumberedFor documentId) :
    (s.versionsOf documentId).map DocumentVersion.versionNumber =
        List.range' 1 (s.versionsOf documentId).length ∧
      ∀ v ∈ s.versionsOf documentId,
        v.isCurrent = true ↔ v.versionNumber = (s.versionsOf documentId).length := by
  constructor
  · have hnumbers := congrArg (List.map Prod.fst) h
    rw [List.map_map, numbering, List.map_map] at hnumbers
    refine hnumbers.trans ?_
    rw [List.range'_eq_map_range]
    exact List.map_congr_left fun k _ => Nat.add_comm k 1
  · intro v hv
    have hcurrent := (h.mem_tag.mp ⟨v, hv, rfl, rfl⟩).2.2
    rw [hcurrent, decide_eq_true_eq]

/-- What an upload adds to a document that is there. -/
structure AddedVersion where
  file : FileParams
  uploadIntentId : Option ℕ
  now : Time

/-- A document is created in a state that calls lead to from a building without documents, and any
number of versions are added at once. In every state the versions are numbered from 1 on without
gaps, and the last one is the one that is current. -/
theorem versions_of_additions {ι κ : Type} [DecidableEq ι] [DecidableEq κ]
    (hdocuments : s.documents.rows = []) (hversions : s.versions.rows = [])
    (calls : κ → DocumentCall) (before : List (Event κ Failure)) (document : DocumentParams)
    (file : FileParams) (uploadIntentId : Option ℕ) (now : Time) :
    let reached := (runCalls s (fun k => (calls k).call config) before).store
    let created :=
      (createDocumentWithFirstVersion config document file uploadIntentId now).exec reached
    let documentId := reached.documents.next
    (created.documents.find? documentId).isSome = true →
      ∀ (additions : ι → AddedVersion) (es : List (Event ι Failure)),
        let versions := (runCalls created (fun i => addVersion config documentId (additions i).file
          (additions i).uploadIntentId (additions i).now) es).store.versionsOf documentId
        versions ≠ [] ∧
          versions.map DocumentVersion.versionNumber = List.range' 1 versions.length ∧
          ∀ v ∈ versions, v.isCurrent = true ↔ v.versionNumber = versions.length := by
  intro reached created documentId hcreated additions es versions
  have hreached : History reached :=
    (history_run (history_of_none hdocuments hversions) (fun k => (calls k).safe_histories s)
      before).1
  have hhistory : History created :=
    Prog.Safe.inv_exec (D := histories) safe_createDocumentWithFirstVersion_histories hreached
  have hsafe : ∀ i, (addVersion config documentId (additions i).file (additions i).uploadIntentId
      (additions i).now).Safe histories (fun _ _ _ _ => True) created [] id :=
    fun i => (safe_addVersion_histories hcreated).mono fun _ _ _ _ _ => trivial
  have hrun := history_run hhistory hsafe es
  obtain ⟨d, hd⟩ := Option.isSome_iff_exists.mp (hrun.2.isSome hcreated)
  have hkey : d.id = documentId := Table.key_of_find? hd
  have hnumbered := hrun.1.numbered d (Table.mem_of_find? hd)
  rw [hkey] at hnumbered
  exact ⟨hnumbered.1, hnumbered.2.versions⟩

/-- A plan, and a file of it. -/
def plan : DocumentParams where
  buildingId := 0
  category := .general
  title := "Plan"
  visibility := .membersOnly
  createdById := 1

/-- A file of the runs below. -/
def planFile (fileUrl : String) : FileParams where
  fileUrl := fileUrl
  fileName := "plan.pdf"
  fileType := "PDF"
  fileSize := 3
  uploadedById := 1

/-- Two further versions of the plan. -/
def furtherVersions (i : Fin 2) : AddedVersion where
  file := planFile (if i = 0 then "plan-2" else "plan-3")
  uploadIntentId := none
  now := 2

/-- The building of `uploaded`, once the plan is created. -/
def planned : Store :=
  (createDocumentWithFirstVersion noStorage plan (planFile "plan-1") none 1).exec
    (runCalls uploaded (fun _ : Unit => (DocumentCall.archiveDocument 0 1).call noStorage) []).store

/-- Both have read the same number, and one of them is added. -/
theorem versions_of_additions_further :
    let versions := (runCalls planned (fun i => addVersion noStorage 0 (furtherVersions i).file
      (furtherVersions i).uploadIntentId (furtherVersions i).now)
      (List.replicate 9 [Event.step 0, Event.step 1]).flatten).store.versionsOf 0
    versions.map DocumentVersion.tag = [(1, false), (2, true)] ∧ versions ≠ [] ∧
      versions.map DocumentVersion.versionNumber = List.range' 1 versions.length ∧
      ∀ v ∈ versions, v.isCurrent = true ↔ v.versionNumber = versions.length :=
  ⟨by decide +kernel, versions_of_additions rfl rfl (fun _ : Unit => .archiveDocument 0 1) [] plan
    (planFile "plan-1") none 1 (by decide +kernel) furtherVersions _⟩

end VielHome.Documents
