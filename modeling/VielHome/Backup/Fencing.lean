import VielHome.Backup.Repository
import VielHome.Relational.Embedding

/-!
# Leases

A claim wins the lease of a request with one update and reads the request back with another
statement, and whatever is done under the lease afterwards is fenced by the owner that was read
back. As long as nobody else wins the lease of the request in between, that is the owner which the
claim has drawn; no other claim returns it, and nothing is written under the lease once somebody
else has won it (`Fenced`).
-/

namespace VielHome.Backup

open Relational
open Community (Time)
open Relational.ReadCommitted (Free Guards Mode Owns Prog not_free_of_exclusive)
open BackupRepository

variable {s s' : Store} {id : ℕ} {u : Uuid}

/-! ### What is known about the leases -/

/-- The owner with which a call has won the lease of the request. -/
def wonBy (id : ℕ) : Happening → Option Uuid
  | .won requestId owner => if requestId = id then some owner else none
  | _ => none

/-- The owner with which the lease of the request was won last. -/
def lastWon (id : ℕ) (history : List Happening) : Option Uuid :=
  (history.filterMap (wonBy id)).getLast?

/-- The request and the owner that a claim has returned. -/
def heldLease : Happening → Option (ℕ × Option Uuid)
  | .returned requestId _ leaseOwner => some (requestId, leaseOwner)
  | _ => none

/-- A claim returns the owner that it has drawn; no two return the same owner for a request; and a
request is written only under the lease that was won last. -/
structure Fenced (s : Store) : Prop where
  returned : ∀ id u v, .returned id u v ∈ s.history → v = some u
  distinct : (s.history.filterMap heldLease).Nodup
  wrote : ∀ id u before, before ++ [.wrote id u] <+: s.history → lastWon id before = some u

/-- The claim with this owner has returned the request. -/
def Returned (id : ℕ) (u : Uuid) (s : Store) : Prop := .returned id u (some u) ∈ s.history

/-- The owner stands on the row of the request. -/
def Leased (id : ℕ) (u : Uuid) (s : Store) : Prop :=
  ∃ r, s.requests.find? id = some r ∧ r.leaseOwner = some u

/-- The lease of some request was won with this owner. -/
def Won (u : Uuid) (s : Store) : Prop := ∃ id, .won id u ∈ s.history

/-- What holds of the committed leases. -/
structure Leasing (s : Store) : Prop extends Fenced s where
  owner : ∀ id u, Leased id u s → lastWon id s.history = some u
  drawn : ∀ u, Won u s → u < s.uuids
  won : ∀ id u, Returned id u s → Won u s

/-- What has happened stays, and so do the identifiers that were drawn. -/
structure Grows (s s' : Store) : Prop where
  history : s.history <+: s'.history
  uuids : s.uuids ≤ s'.uuids

/-- What a lock protects: the row of a request; a lease that was not returned yet; an owner with
which no lease was won yet. -/
def SameLease : Lock → Store → Store → Prop
  | .request id, s, s' => ∀ r, s.requests.find? id = some r → s'.requests.find? id = some r
  | .lease id, s, s' => (∀ u, Returned id u s' → Returned id u s) ∧
    ∀ u, Leased id u s → ¬ Returned id u s → Leased id u s'
  | .drawn u, s, s' => Won u s' → Won u s
  | _, _, _ => True

theorem SameLease.refl (l : Lock) (s : Store) : SameLease l s s := by
  cases l with
  | request id => exact fun _ hr => hr
  | lease id => exact ⟨fun _ h => h, fun _ h _ => h⟩
  | drawn u => exact fun h => h
  | _ => trivial

theorem SameLease.trans {s'' : Store} {l : Lock} (h : SameLease l s s') (h' : SameLease l s' s'') :
    SameLease l s s'' := by
  cases l with
  | request id => exact fun r hr => h' r (h r hr)
  | lease id =>
    refine ⟨fun u hu => h.1 u (h'.1 u hu), fun u hleased hnew => ?_⟩
    exact h'.2 u (h.2 u hleased hnew) fun hu => hnew (h.1 u hu)
  | drawn u => exact fun hu => h (h' hu)
  | _ => trivial

/-- Every commit keeps the leases fenced. The locks guard nothing. -/
def leasing : Guards Store Lock where
  inv := Leasing
  commits := Grows
  kept
    | .request _ => true
    | .drawn _ => true
    | .lease _ => true
    | _ => false
  same l _ := SameLease l
  same_refl l _ s := .refl l s
  same_trans _ _ _ _ _ h h' := h.trans h'
  guard _ _ := True
  allowed _ _ := True
  during _ _ := True

theorem grows_of_later (h : leasing.Later s s') : Grows s s' := by
  refine h.keeps (P := Grows s) (fun s₁ s₂ hcommit hs => ?_) ⟨List.prefix_rfl, le_rfl⟩
  exact ⟨hs.history.trans hcommit.history, hs.uuids.trans hcommit.uuids⟩

theorem Grows.mem (h : Grows s s') {x : Happening} (hx : x ∈ s.history) : x ∈ s'.history :=
  h.history.subset hx

/-! ### What a commit keeps -/

/-- What a commit keeps, with the locks of what it disturbs. -/
structure CommitsLease (disturbed : Lock → Prop) (s s' : Store) : Prop where
  leasing : Leasing s'
  grows : Grows s s'
  same : ∀ l, ¬ disturbed l → SameLease l s s'

/-- A session disturbs nothing but what it owns. -/
theorem CommitsLease.conclude {disturbed : Lock → Prop} (h : CommitsLease disturbed s s')
    {notes : List (Lock × Mode × Store)} {P Q : Prop} (howns : ∀ l, disturbed l → Owns notes l)
    (hrest : P ∧ Q) :
    Leasing s' ∧ Grows s s' ∧ (∀ l m, Free notes l m → SameLease l s s') ∧
      (∀ l, ¬ Owns notes l → True → True) ∧ P ∧ Q := by
  refine ⟨h.leasing, h.grows, fun l m hfree => h.same l fun hl => ?_, fun _ _ _ => trivial, hrest⟩
  obtain ⟨s₀, hs₀⟩ := howns l hl
  exact not_free_of_exclusive hs₀ hfree

/-- The leases are the same, and no request is lost. -/
structure SameLeases (s s' : Store) : Prop where
  request : ∀ id r, s.requests.find? id = some r → s'.requests.find? id = some r
  leased : ∀ id u, Leased id u s' → Leased id u s
  history : s'.history = s.history
  uuids : s.uuids ≤ s'.uuids

namespace SameLeases

theorem refl (s : Store) : SameLeases s s := ⟨fun _ _ h => h, fun _ _ h => h, rfl, le_rfl⟩

theorem trans {s'' : Store} (h : SameLeases s s') (h' : SameLeases s' s'') : SameLeases s s'' :=
  ⟨fun id r hr => h'.request id r (h.request id r hr),
    fun id u hu => h.leased id u (h'.leased id u hu), h'.history.trans h.history,
    h.uuids.trans h'.uuids⟩

theorem returned (h : SameLeases s s') (id : ℕ) (u : Uuid) : Returned id u s' ↔ Returned id u s := by
  rw [Returned, Returned, h.history]

theorem won (h : SameLeases s s') (u : Uuid) : Won u s' ↔ Won u s := by
  rw [Won, Won, h.history]

theorem same (h : SameLeases s s') (l : Lock) : SameLease l s s' := by
  cases l with
  | request id => exact h.request id
  | lease id =>
    refine ⟨fun u => (h.returned id u).mp, fun u hu _ => ?_⟩
    obtain ⟨r, hr, howner⟩ := hu
    exact ⟨r, h.request id r hr, howner⟩
  | drawn u => exact (h.won u).mp
  | _ => trivial

theorem commits (h : SameLeases s s') (hs : Leasing s) : CommitsLease (fun _ => False) s s' := by
  refine ⟨⟨⟨?_, ?_, ?_⟩, fun id u hu => ?_, fun u hu => ?_, fun id u hu => ?_⟩,
    ⟨h.history ▸ List.prefix_rfl, h.uuids⟩, fun l _ => h.same l⟩
  · rw [h.history]
    exact hs.returned
  · rw [h.history]
    exact hs.distinct
  · rw [h.history]
    exact hs.wrote
  · rw [h.history]
    exact hs.owner id u (h.leased id u hu)
  · exact (hs.drawn u ((h.won u).mp hu)).trans_le h.uuids
  · exact (h.won u).mpr (hs.won id u ((h.returned id u).mp hu))

end SameLeases

/-! ### Commits that are about a lease -/

theorem lastWon_append (id : ℕ) (history : List Happening) (x : Happening) :
    lastWon id (history ++ [x]) = (wonBy id x).or (lastWon id history) := by
  rw [lastWon, lastWon, List.filterMap_append]
  cases hx : wonBy id x with
  | none => simp [hx]
  | some u => simp [hx]

theorem wonBy_eq_none {x : Happening} (h : ∀ u, x ≠ .won id u) : wonBy id x = none := by
  cases x with
  | won requestId owner =>
    refine if_neg fun hid => ?_
    subst hid
    exact h owner rfl
  | _ => rfl

/-- What one more thing that happens has to satisfy. -/
structure Follows (x : Happening) (s : Store) : Prop where
  returned : ∀ id u v, x = .returned id u v → v = some u ∧ ¬ Returned id u s ∧ Won u s
  wrote : ∀ id u, x = .wrote id u → lastWon id s.history = some u
  won : ∀ id u, x = .won id u → u < s.uuids

theorem follows_won {owner : Uuid} (hdrawn : owner < s.uuids) : Follows (.won id owner) s := by
  refine ⟨fun _ _ _ h => ?_, fun _ _ h => ?_, fun _ _ h => ?_⟩
  · cases h
  · cases h
  · cases h
    exact hdrawn

theorem follows_returned {owner : Uuid} (hnew : ¬ Returned id owner s) (hwon : Won owner s) :
    Follows (.returned id owner (some owner)) s := by
  refine ⟨fun _ _ _ h => ?_, fun _ _ h => ?_, fun _ _ h => ?_⟩
  · cases h
    exact ⟨rfl, hnew, hwon⟩
  · cases h
  · cases h

theorem follows_wrote {owner : Uuid} (hlast : lastWon id s.history = some owner) :
    Follows (.wrote id owner) s := by
  refine ⟨fun _ _ _ h => ?_, fun _ _ h => ?_, fun _ _ h => ?_⟩
  · cases h
  · cases h
    exact hlast
  · cases h

theorem Fenced.append {x : Happening} (hs : Fenced s) (hx : Follows x s)
    (hhistory : s'.history = s.history ++ [x]) : Fenced s' := by
  refine ⟨fun id u v hmem => ?_, ?_, fun id u before hprefix => ?_⟩
  · rw [hhistory] at hmem
    rcases List.mem_append.mp hmem with hmem | hmem
    · exact hs.returned id u v hmem
    · exact (hx.returned id u v (List.mem_singleton.mp hmem).symm).1
  · rw [hhistory, List.filterMap_append]
    cases x with
    | returned id u v =>
      obtain ⟨rfl, hnew, -⟩ := hx.returned id u v rfl
      refine List.Nodup.append hs.distinct (List.nodup_singleton _) fun lease hmem hlease => ?_
      obtain rfl := List.mem_singleton.mp hlease
      obtain ⟨y, hy, hheld⟩ := List.mem_filterMap.mp hmem
      cases y with
      | returned id' w v' =>
        obtain ⟨rfl, rfl⟩ : id' = id ∧ v' = some u := by simpa [heldLease] using hheld
        obtain rfl : u = w := Option.some.inj (hs.returned id' w _ hy)
        exact hnew hy
      | _ => cases hheld
    | _ =>
      rw [List.filterMap_cons_none rfl, List.filterMap_nil, List.append_nil]
      exact hs.distinct
  · rw [hhistory] at hprefix
    rcases List.prefix_concat_iff.mp hprefix with heq | hprefix
    · obtain ⟨rfl, hlast⟩ := List.append_inj' heq rfl
      exact hx.wrote id u (List.singleton_inj.mp hlast).symm
    · exact hs.wrote id u before hprefix

/-- A commit that records something, and puts no owner on a row but the one it has won with. -/
theorem Leasing.append {x : Happening} (hs : Leasing s) (hx : Follows x s)
    (hhistory : s'.history = s.history ++ [x]) (huuids : s'.uuids = s.uuids)
    (howner : ∀ id u, Leased id u s' → x = .won id u ∨ Leased id u s ∧ ∀ w, x ≠ .won id w) :
    Leasing s' := by
  have hold : ∀ {y : Happening}, y ∈ s.history → y ∈ s'.history := by
    intro y hy
    rw [hhistory]
    exact List.mem_append_left _ hy
  refine ⟨hs.toFenced.append hx hhistory, fun id u hu => ?_, fun u hu => ?_, fun id u hu => ?_⟩
  · rw [hhistory, lastWon_append]
    rcases howner id u hu with rfl | ⟨hu, hne⟩
    · simp [wonBy]
    · rw [wonBy_eq_none hne, Option.none_or]
      exact hs.owner id u hu
  · obtain ⟨id, hu⟩ := hu
    rw [huuids]
    rw [hhistory] at hu
    rcases List.mem_append.mp hu with hu | hu
    · exact hs.drawn u ⟨id, hu⟩
    · exact hx.won id u (List.mem_singleton.mp hu).symm
  · rw [Returned, hhistory] at hu
    have hwon : Won u s := by
      rcases List.mem_append.mp hu with hu | hu
      · exact hs.won id u hu
      · exact (hx.returned id u _ (List.mem_singleton.mp hu).symm).2.2
    obtain ⟨id', hmem⟩ := hwon
    exact ⟨id', hold hmem⟩

theorem grows_append {x : Happening} (hhistory : s'.history = s.history ++ [x])
    (huuids : s'.uuids = s.uuids) : Grows s s' :=
  ⟨hhistory ▸ List.prefix_append _ _, huuids.ge⟩

/-- Which requests are leased after a request is rewritten. -/
theorem leased_modify {f : ObjectBackupRequest → ObjectBackupRequest} {h : ∀ r, (f r).id = r.id}
    {r : ObjectBackupRequest} (hr : s.requests.find? id = some r)
    (hrequests : s'.requests = s.requests.modify id f h) (k : ℕ) (u : Uuid) :
    Leased k u s' ↔ if k = id then (f r).leaseOwner = some u else Leased k u s := by
  rw [Leased, hrequests]
  split
  case isTrue hk =>
    subst hk
    rw [Table.find?_modify_self hr]
    simp
  case isFalse hk => rw [Table.find?_modify_ne hk, Leased]

/-- A lease is won with an owner that was drawn, and with which none was won before. -/
theorem commits_won {owner : Uuid} (now : Time) {r : ObjectBackupRequest} (hs : Leasing s)
    (hr : s.requests.find? id = some r) (hdrawn : owner < s.uuids) :
    CommitsLease (fun l => l = .request id ∨ l = .lease id ∨ l = .drawn owner) s
      ((s.onRequests (·.modify id (leased owner now) (leased_id owner now))).record
        (.won id owner)) := by
  generalize hs' : (s.onRequests (·.modify id (leased owner now) (leased_id owner now))).record
    (.won id owner) = s'
  have hrequests : s'.requests = s.requests.modify id (leased owner now) (leased_id owner now) := by
    rw [← hs']
    rfl
  have hhistory : s'.history = s.history ++ [.won id owner] := by
    rw [← hs']
    rfl
  have huuids : s'.uuids = s.uuids := by
    rw [← hs']
    rfl
  have hleased := leased_modify hr hrequests
  have hreturned : ∀ k u, Returned k u s' → Returned k u s := by
    intro k u hu
    simpa [Returned, hhistory] using hu
  refine ⟨hs.append (follows_won hdrawn) hhistory huuids fun k u hu => ?_,
    grows_append hhistory huuids, fun l hl => ?_⟩
  · rw [hleased] at hu
    split at hu
    case isTrue hk =>
      subst hk
      exact .inl (congrArg _ (Option.some.inj hu))
    case isFalse hk =>
      refine .inr ⟨hu, fun w h => hk ?_⟩
      cases h
      rfl
  · cases l with
    | request k =>
      intro r' hr'
      rw [hrequests, Table.find?_modify_ne fun hk => hl (.inl (congrArg _ hk))]
      exact hr'
    | lease k =>
      refine ⟨hreturned k, fun u hu _ => ?_⟩
      rw [hleased, if_neg fun hk => hl (.inr (.inl (congrArg _ hk)))]
      exact hu
    | drawn u =>
      rintro ⟨k, hu⟩
      rw [hhistory] at hu
      rcases List.mem_append.mp hu with hu | hu
      · exact ⟨k, hu⟩
      · cases List.mem_singleton.mp hu
        exact absurd (.inr (.inr rfl)) hl
    | _ => trivial

/-- A request is returned with the owner that has won its lease. -/
theorem commits_returned {owner : Uuid} (hs : Leasing s) (hnew : ¬ Returned id owner s)
    (hwon : Won owner s) :
    CommitsLease (fun l => l = .lease id) s (s.record (.returned id owner (some owner))) := by
  generalize hs' : s.record (.returned id owner (some owner)) = s'
  have hrequests : s'.requests = s.requests := by
    rw [← hs']
    rfl
  have hhistory : s'.history = s.history ++ [.returned id owner (some owner)] := by
    rw [← hs']
    rfl
  have huuids : s'.uuids = s.uuids := by
    rw [← hs']
    rfl
  have hleased : ∀ k u, Leased k u s' ↔ Leased k u s := by
    intro k u
    rw [Leased, Leased, hrequests]
  refine ⟨hs.append (follows_returned hnew hwon) hhistory huuids
    fun k u hu => .inr ⟨(hleased k u).mp hu, fun _ => Happening.noConfusion⟩,
    grows_append hhistory huuids, fun l hl => ?_⟩
  · cases l with
    | request k => exact fun r hr => hrequests ▸ hr
    | lease k =>
      refine ⟨fun u hu => ?_, fun u hu _ => (hleased k u).mpr hu⟩
      rw [Returned, hhistory] at hu
      rcases List.mem_append.mp hu with hu | hu
      · exact hu
      · cases List.mem_singleton.mp hu
        exact absurd rfl hl
    | drawn u =>
      rintro ⟨k, hu⟩
      exact ⟨k, by simpa [hhistory] using hu⟩
    | _ => trivial

/-- A request is released by the call that has won its lease last and returned it. -/
theorem commits_wrote {owner : Uuid} {f : ObjectBackupRequest → ObjectBackupRequest}
    {h : ∀ r, (f r).id = r.id} {r : ObjectBackupRequest} (hs : Leasing s)
    (hr : s.requests.find? id = some r) (howner : r.leaseOwner = some owner)
    (hreturned : Returned id owner s) (hreleased : (f r).leaseOwner = none)
    (hrequests : s'.requests = s.requests.modify id f h)
    (hhistory : s'.history = s.history ++ [.wrote id owner]) (huuids : s'.uuids = s.uuids) :
    CommitsLease (fun l => l = .request id) s s' := by
  have hleased := leased_modify hr hrequests
  refine ⟨hs.append (follows_wrote (hs.owner id owner ⟨r, hr, howner⟩)) hhistory huuids
    fun k u hu => ?_, grows_append hhistory huuids, fun l hl => ?_⟩
  · rw [hleased, hreleased] at hu
    split at hu
    · cases hu
    · exact .inr ⟨hu, fun _ => Happening.noConfusion⟩
  · cases l with
    | request k =>
      intro r' hr'
      rw [hrequests, Table.find?_modify_ne fun hk => hl (congrArg _ hk)]
      exact hr'
    | lease k =>
      refine ⟨fun u hu => by simpa [Returned, hhistory] using hu, fun u hu hnew => ?_⟩
      rw [hleased]
      split
      case isTrue hk =>
        -- the lease that is released here was returned
        subst hk
        obtain ⟨r', hr', hu⟩ := hu
        obtain rfl : r = r' := Option.some.inj (hr.symm.trans hr')
        obtain rfl : owner = u := Option.some.inj (howner.symm.trans hu)
        exact absurd hreturned hnew
      case isFalse hk => exact hu
    | drawn u =>
      rintro ⟨k, hu⟩
      exact ⟨k, by simpa [hhistory] using hu⟩
    | _ => trivial

end VielHome.Backup
