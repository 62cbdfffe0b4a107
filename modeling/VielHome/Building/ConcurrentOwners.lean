import VielHome.Building.Occupancy

/-!
# Two owners of one unit

A self-claim and a login both look whether a unit is owned and link its invited owner in a
later statement. Neither takes a lock, and no index keeps a second current ownership out, so
two of them that look before either has linked make two owners. A unit keeps one owner in
every run in which nobody looks at the unit while somebody else who has looked at it has
still to commit the link. Hand-overs may be interleaved with all of this in any way.
-/

namespace VielHome.Building

open Relational Community
open Relational.ReadCommitted (Database Discipline Event Free Mode Prog not_free_of_exclusive)
open BuildingRepository (LinkOwnerParams UnlinkedUnit)

/-! ### What the sessions rely on -/

/-- The current `OWNER` memberships for the unit. -/
def ownersOf (unitId : ℕ) (s : Store) : List Membership :=
  s.memberships.rows.filter fun m => m.IsFor unitId .owner

/-- No unit has two current ownerships or two current `OWNER` memberships. -/
def SingleOwner (s : Store) : Prop :=
  ∀ unitId, (s.ownershipsOf unitId).length ≤ 1 ∧ (ownersOf unitId s).length ≤ 1

/-- A unit has one current ownership and one current `OWNER` membership at most, and no
membership without an ownership. -/
structure Owned (s : Store) : Prop where
  ownership : ∀ unitId, ∀ o ∈ s.ownerships, ∀ o' ∈ s.ownerships,
    o.IsOf unitId → o'.IsOf unitId → o = o'
  membership : ∀ unitId, ∀ m ∈ s.memberships, ∀ m' ∈ s.memberships,
    m.IsFor unitId .owner → m'.IsFor unitId .owner → m = m'
  backed : ∀ unitId, ∀ m ∈ s.memberships, m.IsFor unitId .owner →
    ∃ o ∈ s.ownerships, o.IsOf unitId

theorem Owned.singleOwner {s : Store} (h : Owned s) : SingleOwner s := by
  refine fun unitId => ⟨Table.length_filter_le_one_iff.mpr fun o ho o' ho' hof hof' => ?_,
    Table.length_filter_le_one_iff.mpr fun m hm m' hm' hfor hfor' => ?_⟩
  · exact h.ownership unitId o ho o' ho' (of_decide_eq_true hof) (of_decide_eq_true hof')
  · exact h.membership unitId m hm m' hm' (of_decide_eq_true hfor) (of_decide_eq_true hfor')

/-- Memberships are added and ended, and a current one was always as it is. -/
structure OnlyEnds (s s' : Store) : Prop where
  next : s.memberships.next ≤ s'.memberships.next
  memberships : ∀ m ∈ s'.memberships, m.isCurrent = true → m.id < s.memberships.next →
    m ∈ s.memberships

theorem OnlyEnds.refl (s : Store) : OnlyEnds s s := ⟨le_rfl, fun _ hm _ _ => hm⟩

theorem OnlyEnds.trans {s s' s'' : Store} (h : OnlyEnds s s') (h' : OnlyEnds s' s'') :
    OnlyEnds s s'' := by
  refine ⟨h.next.trans h'.next, fun m hm hcurrent hlt => ?_⟩
  exact h.memberships m (h'.memberships m hm hcurrent (hlt.trans_le h.next)) hcurrent hlt

/-- What two stores have in common for the holder of a lock: an ownership that is locked stays,
and meanwhile its unit gets no further owner; under the lock of the owners of a unit there is
no new ownership of it. -/
def sameOwners : Lock → Store → Store → Prop
  | .row .ownership id, s, s' => ∀ o, s.ownerships.find? id = some o →
    s'.ownerships.find? id = some o ∧
      (o.isCurrent = true → ∀ m ∈ s'.memberships, m.IsFor o.unitId .owner → m ∈ s.memberships)
  | .owners unitId, s, s' => ∀ o ∈ s'.ownerships, o.IsOf unitId → o ∈ s.ownerships
  | _, _, _ => True

theorem sameOwners_of_eq {s s' : Store} (howned : s'.ownerships = s.ownerships)
    (hmembers : s'.memberships = s.memberships) (l : Lock) : sameOwners l s s' := by
  unfold sameOwners
  split
  · exact fun o ho => ⟨howned ▸ ho, fun _ m hm _ => hmembers ▸ hm⟩
  · exact fun o ho _ => howned ▸ ho
  · trivial

theorem sameOwners_trans {l : Lock} {s s' s'' : Store} (h : sameOwners l s s')
    (h' : sameOwners l s' s'') : sameOwners l s s'' := by
  unfold sameOwners at *
  split
  · intro o ho
    obtain ⟨ho', hmembers⟩ := h o ho
    obtain ⟨ho'', hmembers'⟩ := h' o ho'
    exact ⟨ho'', fun hcurrent m hm hfor =>
      hmembers hcurrent m (hmembers' hcurrent m hm hfor) hfor⟩
  · exact fun o ho hof => h o (h' o ho hof) hof
  · trivial

/-- The lock of the owners of a unit is the one that nobody enforces. -/
def ownerDiscipline : Discipline Store Lock where
  inv := Owned
  commits := OnlyEnds
  kept _ := true
  same l _ := sameOwners l
  same_refl l _ _ := sameOwners_of_eq rfl rfl l
  same_trans _ _ _ _ _ := sameOwners_trans

theorem onlyEnds_of_later {s s' : Store} (h : ownerDiscipline.Later s s') : OnlyEnds s s' := by
  induction h with
  | refl => exact OnlyEnds.refl s
  | tail _ hlast ih => exact ih.trans hlast

/-! ### Links -/

/-- A commit that writes neither table. -/
theorem quiet_commit {s s' : Store} (hs : Owned s) (howned : s'.ownerships = s.ownerships)
    (hmembers : s'.memberships = s.memberships) :
    Owned s' ∧ OnlyEnds s s' ∧ ∀ l, sameOwners l s s' := by
  refine ⟨⟨howned ▸ hs.ownership, hmembers ▸ hs.membership, ?_⟩, ⟨?_, ?_⟩,
    sameOwners_of_eq howned hmembers⟩
  · rw [howned, hmembers]
    exact hs.backed
  · rw [hmembers]
  · exact fun m hm _ _ => hmembers ▸ hm

theorem onPersons_commit {s : Store} (hs : Owned s)
    (g : Table Person Person.id → Table Person Person.id) :
    Owned (s.onPersons g) ∧ OnlyEnds s (s.onPersons g) ∧ ∀ l, sameOwners l s (s.onPersons g) :=
  quiet_commit hs rfl rfl

theorem onUnits_commit {s : Store} (hs : Owned s)
    (g : Table BuildingUnit BuildingUnit.id → Table BuildingUnit BuildingUnit.id) :
    Owned (s.onUnits g) ∧ OnlyEnds s (s.onUnits g) ∧ ∀ l, sameOwners l s (s.onUnits g) :=
  quiet_commit hs rfl rfl

/-- The ownership and the membership of a link. -/
def addOwner (params : LinkOwnerParams) (now : Time) (s : Store) : Store :=
  (s.onOwnerships (·.create fun id =>
      { id, unitId := params.unitId, personId := params.personId, startDate := now })).onMemberships
    (·.create fun id =>
      { id, personId := params.personId, buildingId := params.buildingId,
        unitId := some params.unitId, role := .owner, startedAt := now })

/-- The owner of a unit that nobody owns is the only one, and the holders of other locks do
not notice. -/
theorem addOwner_commit (params : LinkOwnerParams) (now : Time) {s : Store} (hs : Owned s)
    (hfree : ∀ o ∈ s.ownerships, ¬ o.IsOf params.unitId) :
    Owned (addOwner params now s) ∧ OnlyEnds s (addOwner params now s) ∧
      ∀ l, l ≠ .owners params.unitId → sameOwners l s (addOwner params now s) := by
  -- a unit without a current ownership has no owner membership either
  have hnomember : ∀ m ∈ s.memberships, ¬ m.IsFor params.unitId .owner := by
    intro m hm hfor
    obtain ⟨o, ho, hof⟩ := hs.backed _ m hm hfor
    exact hfree o ho hof
  have hnew : ∀ o ∈ (addOwner params now s).ownerships, o ∈ s.ownerships ∨
      o.unitId = params.unitId ∧ o = ⟨s.ownerships.next, params.unitId, params.personId, now, none,
        true⟩ := by
    intro o ho
    rcases Table.mem_create.mp ho with ho | rfl
    · exact Or.inl ho
    · exact Or.inr ⟨rfl, rfl⟩
  have hnewMember : ∀ m ∈ (addOwner params now s).memberships, m ∈ s.memberships ∨
      m.unitId = some params.unitId ∧ m = ⟨s.memberships.next, params.personId, params.buildingId,
        some params.unitId, .owner, none, none, none, now, none, true⟩ := by
    intro m hm
    rcases Table.mem_create.mp hm with hm | rfl
    · exact Or.inl hm
    · exact Or.inr ⟨rfl, rfl⟩
  refine ⟨⟨fun unitId o ho o' ho' hof hof' => ?_, fun unitId m hm m' hm' hfor hfor' => ?_,
    fun unitId m hm hfor => ?_⟩, ⟨Nat.le_succ _, fun m hm _ hlt => ?_⟩, fun l hl => ?_⟩
  · rcases hnew o ho with ho | ⟨hunit, heq⟩ <;> rcases hnew o' ho' with ho' | ⟨hunit', heq'⟩
    · exact hs.ownership unitId o ho o' ho' hof hof'
    · exact absurd (hunit'.symm.trans hof'.1 ▸ hof) (hfree o ho)
    · exact absurd (hunit.symm.trans hof.1 ▸ hof') (hfree o' ho')
    · rw [heq, heq']
  · rcases hnewMember m hm with hm | ⟨hunit, heq⟩ <;>
      rcases hnewMember m' hm' with hm' | ⟨hunit', heq'⟩
    · exact hs.membership unitId m hm m' hm' hfor hfor'
    · exact absurd (Option.some.inj (hunit'.symm.trans hfor'.1) ▸ hfor) (hnomember m hm)
    · exact absurd (Option.some.inj (hunit.symm.trans hfor.1) ▸ hfor') (hnomember m' hm')
    · rw [heq, heq']
  · rcases hnewMember m hm with hm | ⟨hunit, -⟩
    · obtain ⟨o, ho, hof⟩ := hs.backed unitId m hm hfor
      exact ⟨o, Table.mem_create.mpr (Or.inl ho), hof⟩
    · refine ⟨_, Table.mem_create.mpr (Or.inr rfl), ?_, rfl⟩
      exact Option.some.inj (hunit.symm.trans hfor.1)
  · rcases hnewMember m hm with hm | ⟨-, heq⟩
    · exact hm
    · rw [heq] at hlt
      exact absurd hlt (lt_irrefl _)
  · unfold sameOwners
    split
    · intro o ho
      refine ⟨Table.find?_create_of_find? ho, fun hcurrent m hm hfor => ?_⟩
      rcases hnewMember m hm with hm | ⟨hunit, -⟩
      · exact hm
      · -- a unit with a current ownership is not linked
        have hof : o.IsOf params.unitId :=
          ⟨Option.some.inj (hfor.1.symm.trans hunit), hcurrent⟩
        exact absurd hof (hfree o (Table.mem_of_find? ho))
    · intro o ho hof
      rcases hnew o ho with ho | ⟨hunit, -⟩
      · exact ho
      · exact absurd (congrArg Lock.owners (hof.1.symm.trans hunit)) hl
    · trivial

variable {last : Store} {notes : List (Lock × Mode × Store)} {keep : List Lock}

/-- What is left behind by a program that gives back all locks but those of `keep`. -/
def Keeping (keep : List Lock) (notes : List (Lock × Mode × Store)) (_ : PUnit) (_ : Store)
    (notes' : List (Lock × Mode × Store)) (pending : Store → Store) : Prop :=
  pending = id ∧ ∀ n ∈ notes, n.1 ∈ keep → n ∈ notes'

theorem safe_fillMissingPersonName (personId : ℕ) (firstName lastName : Option String) :
    (BuildingRepository.fillMissingPersonName personId firstName lastName keep).Safe
      ownerDiscipline (Keeping keep notes) last notes id := by
  rw [BuildingRepository.fillMissingPersonName]
  refine Prog.Safe.query fun s _ _ _ => ?_
  split
  · exact ⟨rfl, fun n hn _ => hn⟩
  · split
    · exact ⟨rfl, fun n hn _ => hn⟩
    · rw [updatePerson]
      refine Prog.Safe.writeIf fun s' _ _ _ _ => ?_
      rw [← Prog.bind_done (Prog.commitKeeping keep)]
      refine Prog.Safe.commitKeeping fun s'' hs'' _ _ => ?_
      have hcommit := onPersons_commit hs''
      refine ⟨(hcommit _).1, (hcommit _).2.1, fun l _ _ => (hcommit _).2.2 l,
        fun n _ _ => (hcommit _).2.2 n.1, rfl, fun n hn hkeep => ?_⟩
      exact List.mem_filter.mpr ⟨List.mem_append_left _ hn, by simpa using hkeep⟩

/-- A link under the lock of the owners of its unit, taken when nobody owned it. -/
theorem safe_linkOwnerToUnit (params : LinkOwnerParams) (now : Time)
    (hlock : ∃ s₀, (.owners params.unitId, .exclusive, s₀) ∈ notes ∧
      ∀ o ∈ s₀.ownerships, ¬ o.IsOf params.unitId)
    (hkeep : .owners params.unitId ∉ keep) :
    (BuildingRepository.linkOwnerToUnit params now keep).Safe ownerDiscipline (Keeping keep notes)
      last notes id := by
  obtain ⟨s₀, hnote, hfree⟩ := hlock
  rw [BuildingRepository.linkOwnerToUnit, insertOwnership, insertMembership]
  refine Prog.Safe.writeUnless fun s₁ _ _ _ _ => ?_
  refine Prog.Safe.writeUnless fun s₂ _ _ _ _ => ?_
  simp only [Discipline.taken_nil, List.append_nil]
  refine Prog.Safe.commitKeeping fun s hs _ hknows => ?_
  have hunowned : ∀ o ∈ s.ownerships, ¬ o.IsOf params.unitId := fun o ho hof =>
    hfree o (hknows _ hnote o ho hof) hof
  obtain ⟨howned, hends, hsame⟩ := addOwner_commit params now hs hunowned
  refine ⟨howned, hends, fun l m hl => hsame l ?_, fun n _ hn => hsame n.1 ?_, ?_⟩
  · rintro rfl
    exact not_free_of_exclusive hnote hl
  · exact fun hn' => hkeep (hn' ▸ hn)
  · have hkept : ∀ n ∈ notes, n.1 ∈ keep → n ∈ notes.filter fun n => n.1 ∈ keep :=
      fun n hn hkeep => List.mem_filter.mpr ⟨hn, by simpa using hkeep⟩
    split
    · refine (safe_fillMissingPersonName _ _ _).mono fun _ _ notes' pending h => ?_
      exact ⟨h.1, fun n hn hkeep => h.2 n (hkept n hn hkeep) hkeep⟩
    · exact ⟨rfl, hkept⟩

/-- The loop of a login, under the locks of all units that are still to be linked. -/
theorem safe_linkUnits (personId : ℕ) (now : Time) {units : List UnlinkedUnit}
    (hunits : (units.map UnlinkedUnit.id).Nodup)
    (hlocks : ∀ unit ∈ units, ∃ s₀, (.owners unit.id, .exclusive, s₀) ∈ notes ∧
      ∀ o ∈ s₀.ownerships, ¬ o.IsOf unit.id) :
    (BuildingService.linkUnits personId now units).Safe ownerDiscipline (fun _ _ _ _ => True) last
      notes id := by
  induction units generalizing last notes with
  | nil => trivial
  | cons unit units ih =>
    obtain ⟨hunit, hunits⟩ := List.nodup_cons.mp hunits
    have hmem : ∀ u, Lock.owners u ∈ units.map (fun u => Lock.owners u.id) ↔
        u ∈ units.map UnlinkedUnit.id := by simp
    refine Prog.Safe.bind (safe_linkOwnerToUnit (unit.params personId) now
      (hlocks unit List.mem_cons_self) fun h => hunit ((hmem _).mp h)) ?_
    rintro _ last' notes' pending' ⟨rfl, hkept⟩
    refine ih hunits fun u hu => ?_
    obtain ⟨s₀, hnote, hfree⟩ := hlocks u (List.mem_cons_of_mem _ hu)
    exact ⟨s₀, hkept _ hnote ((hmem _).mpr (List.mem_map_of_mem hu)), hfree⟩

theorem safe_linkOwnerAccountByPhone (personId : ℕ) (phone : String) (now : Time) :
    (BuildingService.linkOwnerAccountByPhone personId phone now).Safe ownerDiscipline
      (fun _ _ _ _ => True) last [] id := by
  rw [BuildingService.linkOwnerAccountByPhone]
  refine Prog.Safe.queryUnder fun s _ _ _ => ?_
  refine Prog.Safe.bind (safe_linkUnits personId now ?_ fun unit hunit => ?_)
    fun _ _ _ _ _ => trivial
  · have hids : (BuildingRepository.unlinkedOwnerUnits phone s).map UnlinkedUnit.id =
        (s.units.rows.filter fun u =>
          u.ownerPhone = some phone ∧ s.hasCurrentOwnership u.id = false).map BuildingUnit.id :=
      List.map_map
    rw [id, hids]
    exact s.units.nodup.sublist (List.filter_sublist.map _)
  · refine ⟨s, ?_, ?_⟩
    · exact Discipline.mem_taken (List.mem_map_of_mem (f := fun u : UnlinkedUnit =>
        (Lock.owners u.id, Mode.exclusive)) hunit) rfl
    · obtain ⟨u, hu, rfl⟩ := List.mem_map.mp hunit
      exact Store.hasCurrentOwnership_eq_false.mp (of_decide_eq_true (List.mem_filter.mp hu).2).2

theorem safe_claimOwnership (buildingId unitId personId : ℕ) (now : Time) :
    (BuildingService.claimOwnership buildingId unitId personId now).Safe ownerDiscipline
      (fun _ _ _ _ => True) last [] id := by
  rw [BuildingService.claimOwnership]
  refine safe_getOwnUnit_bind fun unit _ _ _ _ => ?_
  refine Prog.Safe.queryUnder fun s _ _ _ => ?_
  refine Prog.Safe.query fun s' _ _ _ => ?_
  refine Prog.Safe.expect fun caller _ => ?_
  rw [OwnershipClaimPolicy.assertEligible, Prog.bind_assoc]
  refine Prog.Safe.require fun hunowned => Prog.Safe.require fun _ => ?_
  have hfree : ∀ o ∈ s.ownerships, ¬ o.IsOf unitId := Store.hasCurrentOwnership_eq_false.mp hunowned
  have hlook : (.owners unitId, .exclusive) ∈ BuildingService.lookedAt unitId s := by
    rw [BuildingService.lookedAt, show s.hasCurrentOwnership unitId = false from hunowned]
    exact List.mem_singleton.mpr rfl
  exact Prog.Safe.mono (safe_linkOwnerToUnit _ now
    ⟨s, Discipline.mem_taken hlook rfl, hfree⟩ List.not_mem_nil) fun _ _ _ _ _ => trivial

/-! ### Hand-overs -/

/-- The second store comes from the first one by ending the ownerships and the memberships
with the given ids. -/
structure Ends (owned members : List ℕ) (s s' : Store) : Prop where
  ownerships : ∀ o ∈ s'.ownerships, o.isCurrent = true → o ∈ s.ownerships ∧ o.id ∉ owned
  otherOwnerships : ∀ o ∈ s.ownerships, o.id ∉ owned → o ∈ s'.ownerships
  memberships : ∀ m ∈ s'.memberships, m.isCurrent = true → m ∈ s.memberships ∧ m.id ∉ members
  otherMemberships : ∀ m ∈ s.memberships, m.id ∉ members → m ∈ s'.memberships
  next : s'.memberships.next = s.memberships.next

theorem Ends.nil (s : Store) : Ends [] [] s s :=
  ⟨fun _ ho _ => ⟨ho, List.not_mem_nil⟩, fun _ ho _ => ho, fun _ hm _ => ⟨hm, List.not_mem_nil⟩,
    fun _ hm _ => hm, rfl⟩

variable {owned members : List ℕ} {s s' : Store}

/-- One more ownership ends. -/
theorem Ends.endOwnership (h : Ends owned members s s') (id : ℕ) {f : Ownership → Ownership}
    {hf : ∀ o, (f o).id = o.id} (hended : ∀ o, (f o).isCurrent = false) :
    Ends (id :: owned) members s (s'.onOwnerships (·.modify id f hf)) := by
  refine ⟨fun o ho hcurrent => ?_, fun o ho hid => ?_, h.memberships, h.otherMemberships, h.next⟩
  · obtain ⟨o₀, ho₀, rfl⟩ := (Table.mem_modify (h := hf)).mp ho
    split at hcurrent
    case isTrue => exact absurd hcurrent (by rw [hended]; exact Bool.false_ne_true)
    case isFalse hne =>
      obtain ⟨hmem, hid⟩ := h.ownerships o₀ ho₀ hcurrent
      rw [if_neg hne]
      exact ⟨hmem, fun hcons => (List.mem_cons.mp hcons).elim hne hid⟩
  · obtain ⟨hne, hid⟩ := not_or.mp (mt List.mem_cons.mpr hid)
    exact (Table.mem_modify (h := hf)).mpr ⟨o, h.otherOwnerships o ho hid, if_neg hne⟩

/-- One more membership ends. -/
theorem Ends.endMembership (h : Ends owned members s s') (id : ℕ) {f : Membership → Membership}
    {hf : ∀ m, (f m).id = m.id} (hended : ∀ m, (f m).isCurrent = false) :
    Ends owned (id :: members) s (s'.onMemberships (·.modify id f hf)) := by
  refine ⟨h.ownerships, h.otherOwnerships, fun m hm hcurrent => ?_, fun m hm hid => ?_, h.next⟩
  · obtain ⟨m₀, hm₀, rfl⟩ := (Table.mem_modify (h := hf)).mp hm
    split at hcurrent
    case isTrue => exact absurd hcurrent (by rw [hended]; exact Bool.false_ne_true)
    case isFalse hne =>
      obtain ⟨hmem, hid⟩ := h.memberships m₀ hm₀ hcurrent
      rw [if_neg hne]
      exact ⟨hmem, fun hcons => (List.mem_cons.mp hcons).elim hne hid⟩
  · obtain ⟨hne, hid⟩ := not_or.mp (mt List.mem_cons.mpr hid)
    exact (Table.mem_modify (h := hf)).mpr ⟨m, h.otherMemberships m hm hid, if_neg hne⟩

/-- Ownerships may end when the memberships of their owners end with them; the holders of
other locks do not notice. -/
theorem Ends.commit (h : Ends owned members s s') (hs : Owned s)
    (hpaired : ∀ o ∈ s.ownerships, o.isCurrent = true → o.id ∈ owned →
      ∀ m ∈ s.memberships, m.IsFor o.unitId .owner → m.id ∈ members) :
    Owned s' ∧ OnlyEnds s s' ∧ ∀ l, (∀ id ∈ owned, l ≠ .row .ownership id) →
      sameOwners l s s' := by
  refine ⟨⟨fun unitId o ho o' ho' hof hof' => ?_, fun unitId m hm m' hm' hfor hfor' => ?_,
    fun unitId m hm hfor => ?_⟩, ⟨h.next.ge, fun m hm hcurrent _ => (h.memberships m hm hcurrent).1⟩,
    fun l howned => ?_⟩
  · exact hs.ownership unitId o (h.ownerships o ho hof.2).1 o' (h.ownerships o' ho' hof'.2).1 hof hof'
  · exact hs.membership unitId m (h.memberships m hm hfor.2.2).1 m'
      (h.memberships m' hm' hfor'.2.2).1 hfor hfor'
  · obtain ⟨hm, hid⟩ := h.memberships m hm hfor.2.2
    obtain ⟨o, ho, hof⟩ := hs.backed unitId m hm hfor
    exact ⟨o, h.otherOwnerships o ho fun hended =>
      hid (hpaired o ho hof.2 hended m hm (hof.1.symm ▸ hfor)), hof⟩
  · unfold sameOwners
    split
    · intro o ho
      obtain ⟨hmem, rfl⟩ := Table.find?_eq_some_iff.mp ho
      have hid : o.id ∉ owned := fun hid => howned o.id hid rfl
      exact ⟨Table.find?_of_mem (h.otherOwnerships o hmem hid),
        fun _ m hm hfor => (h.memberships m hm hfor.2.2).1⟩
    · exact fun o ho hof => (h.ownerships o ho hof.2).1
    · trivial

/-- The ownerships that a hand-over has ended so far: each was a current one of the unit when
its row was locked. -/
def LockedOwners (unitId : ℕ) (owned : List ℕ) (notes : List (Lock × Mode × Store))
    (last : Store) : Prop :=
  ∀ id ∈ owned, ∃ s₀ o, (.row .ownership id, .exclusive, s₀) ∈ notes ∧
    s₀.ownerships.find? id = some o ∧ o.IsOf unitId ∧ ownerDiscipline.Later s₀ last

theorem LockedOwners.mono {unitId : ℕ} {notes' : List (Lock × Mode × Store)} {last' : Store}
    (h : LockedOwners unitId owned notes last) (hnotes : ∀ n ∈ notes, n ∈ notes')
    (hlater : ownerDiscipline.Later last last') : LockedOwners unitId owned notes' last' := by
  intro id hid
  obtain ⟨s₀, o, hnote, ho, hof, hs₀⟩ := h id hid
  exact ⟨s₀, o, hnotes _ hnote, ho, hof, hs₀.trans hlater⟩

/-- The memberships for the unit that were current in the snapshot `s₂`: each has been ended,
is still to come, or was found ended by somebody else. -/
def Covered (unitId : ℕ) (members rest : List ℕ) (s₂ last : Store) : Prop :=
  ∀ m ∈ s₂.memberships, m.IsFor unitId .owner → m.id ∈ members ∨ m.id ∈ rest ∨
    ∃ s₀, ownerDiscipline.Later s₂ s₀ ∧ ownerDiscipline.Later s₀ last ∧ m ∉ s₀.memberships

/-- While a current ownership of the unit is locked, every current membership for the unit is
one of those that end with it. -/
theorem Covered.paired {unitId : ℕ} {s₂ : Store} (hcovered : Covered unitId members [] s₂ last)
    (howned : LockedOwners unitId owned notes s₂) (hs₂ : ownerDiscipline.Later s₂ s)
    (hlast : ownerDiscipline.Later last s) (hknows : ownerDiscipline.Knows notes s) :
    ∀ o ∈ s.ownerships, o.isCurrent = true → o.id ∈ owned →
      ∀ m ∈ s.memberships, m.IsFor o.unitId .owner → m.id ∈ members := by
  intro o ho hcurrent hid m hm hfor
  obtain ⟨s₀, o₀, hnote, ho₀, hof₀, hs₀⟩ := howned o.id hid
  obtain ⟨hsame, hmembers⟩ := hknows _ hnote o₀ ho₀
  obtain rfl : o = o₀ := Option.some.inj ((Table.find?_of_mem ho).symm.trans hsame)
  -- the membership was there when the ownership was locked, and ever since
  have hm₀ : m ∈ s₀.memberships := hmembers hcurrent m hm hfor
  have hlt : m.id < s₀.memberships.next := s₀.memberships.lt_next m hm₀
  have hlt₂ : m.id < s₂.memberships.next := hlt.trans_le (onlyEnds_of_later hs₀).next
  have hm₂ : m ∈ s₂.memberships := (onlyEnds_of_later hs₂).memberships m hm hfor.2.2 hlt₂
  rcases hcovered m hm₂ (hof₀.1 ▸ hfor) with hid | hnil | ⟨s', hs', hlast', hgone⟩
  · exact hid
  · exact absurd hnil List.not_mem_nil
  · refine absurd ?_ hgone
    refine (onlyEnds_of_later (hlast'.trans hlast)).memberships m hm hfor.2.2 ?_
    exact hlt₂.trans_le (onlyEnds_of_later hs').next

section HandOver

variable {β : Type} {post : β → Store → List (Lock × Mode × Store) → (Store → Store) → Prop}
  {unitId : ℕ} {now : Time} {f : PUnit → Call β}

/-- The first update of a hand-over. -/
theorem safe_endOwnerships
    (hf : ∀ owned last notes pending, (∀ s, Ends owned [] s (pending s)) →
      LockedOwners unitId owned notes last → (f ⟨⟩).Safe ownerDiscipline post last notes pending) :
    (updateOwnerships (fun o => o.IsOf unitId)
      (fun o => { o with isCurrent := false, endDate := some now }) >>= f).Safe ownerDiscipline post
        last notes id := by
  rw [updateOwnerships]
  refine Prog.Safe.updateMany (fun _ last notes pending => ∃ owned,
    (∀ s, Ends owned [] s (pending s)) ∧ LockedOwners unitId owned notes last) ?_ ?_ ?_ ?_
  · exact fun s _ _ _ => ⟨[], Ends.nil, fun id hid => absurd hid List.not_mem_nil⟩
  · rintro _ last notes pending s ⟨owned, hends, hlocked⟩ hlast
    exact ⟨owned, hends, hlocked.mono (fun _ hn => hn) hlast⟩
  · rintro id _ last notes pending ⟨owned, hends, hlocked⟩ s _ hlast _
    have hkept : LockedOwners unitId owned
        (notes ++ ownerDiscipline.taken [(.row .ownership id, .exclusive)] s) s :=
      hlocked.mono (fun _ hn => List.mem_append_left _ hn) hlast
    split
    case isFalse => exact ⟨owned, hends, hkept⟩
    case isTrue hmatched =>
      cases ho : (pending s).ownerships.find? id with
      | none => simp [ho] at hmatched
      | some o =>
        have hof : o.IsOf unitId := by simpa [ho] using hmatched
        obtain ⟨hmem, rfl⟩ := Table.find?_eq_some_iff.mp ho
        refine ⟨o.id :: owned, fun s => (hends s).endOwnership o.id fun _ => rfl, fun id hid => ?_⟩
        rcases List.mem_cons.mp hid with rfl | hid
        · -- the row that is locked is the one of the committed store
          refine ⟨s, o, List.mem_append_right _ (Discipline.mem_taken List.mem_cons_self rfl),
            Table.find?_of_mem ((hends s).ownerships o hmem hof.2).1, hof, .refl s⟩
        · exact hkept id hid
  · rintro last notes pending ⟨owned, hends, hlocked⟩
    exact hf owned last notes pending hends hlocked

/-- The second update of a hand-over. -/
theorem safe_endMemberships {pending : Store → Store} (hends : ∀ s, Ends owned [] s (pending s))
    (hlocked : LockedOwners unitId owned notes last)
    (hf : ∀ members s₂ last notes pending, (∀ s, Ends owned members s (pending s)) →
      LockedOwners unitId owned notes s₂ → ownerDiscipline.Later s₂ last →
      Covered unitId members [] s₂ last → (f ⟨⟩).Safe ownerDiscipline post last notes pending) :
    (updateMemberships (fun m => m.IsFor unitId .owner) (Membership.ended now)
      (Membership.ended_id now) >>= f).Safe ownerDiscipline post last notes pending := by
  rw [updateMemberships]
  refine Prog.Safe.updateMany (fun rest last notes pending => ∃ members s₂,
    (∀ s, Ends owned members s (pending s)) ∧ LockedOwners unitId owned notes s₂ ∧
      ownerDiscipline.Later s₂ last ∧ Covered unitId members rest s₂ last) ?_ ?_ ?_ ?_
  · intro s _ hlast _
    refine ⟨[], s, hends, hlocked.mono (fun _ hn => hn) hlast, .refl s, fun m hm hfor => ?_⟩
    have hview : m ∈ (pending s).memberships := (hends s).otherMemberships m hm List.not_mem_nil
    refine Or.inr (Or.inl (List.mem_map_of_mem (List.mem_filter.mpr ⟨hview, ?_⟩)))
    exact decide_eq_true hfor
  · rintro rest last notes pending s ⟨members, s₂, hends, hlocked, hs₂, hcovered⟩ hlast
    refine ⟨members, s₂, hends, hlocked, hs₂.trans hlast, fun m hm hfor => ?_⟩
    refine (hcovered m hm hfor).imp_right fun h => h.imp_right ?_
    rintro ⟨s₀, hs₀, hlast₀, hgone⟩
    exact ⟨s₀, hs₀, hlast₀.trans hlast, hgone⟩
  · rintro id rest last notes pending ⟨members, s₂, hends, hlocked, hs₂, hcovered⟩ s _ hlast _
    have hnotes : LockedOwners unitId owned
        (notes ++ ownerDiscipline.taken [(.row .membership id, .exclusive)] s) s₂ :=
      hlocked.mono (fun _ hn => List.mem_append_left _ hn) (.refl s₂)
    split
    case isTrue hmatched =>
      refine ⟨id :: members, s₂, fun s => (hends s).endMembership id fun _ => rfl, hnotes,
        hs₂.trans hlast, fun m hm hfor => ?_⟩
      rcases hcovered m hm hfor with hid | hid | ⟨s₀, hs₀, hlast₀, hgone⟩
      · exact Or.inl (List.mem_cons_of_mem _ hid)
      · rcases List.mem_cons.mp hid with rfl | hid
        · exact Or.inl List.mem_cons_self
        · exact Or.inr (Or.inl hid)
      · exact Or.inr (Or.inr ⟨s₀, hs₀, hlast₀.trans hlast, hgone⟩)
    case isFalse hunmatched =>
      refine ⟨members, s₂, hends, hnotes, hs₂.trans hlast, fun m hm hfor => ?_⟩
      rcases hcovered m hm hfor with hid | hid | ⟨s₀, hs₀, hlast₀, hgone⟩
      · exact Or.inl hid
      · rcases List.mem_cons.mp hid with rfl | hid
        · -- a row that no longer matches was ended by somebody else, or by this hand-over
          by_cases hended : m.id ∈ members
          · exact Or.inl hended
          · refine Or.inr (Or.inr ⟨s, hs₂.trans hlast, .refl s, fun hmem => hunmatched ?_⟩)
            rw [Table.find?_of_mem ((hends s).otherMemberships m hmem hended)]
            exact decide_eq_true hfor
        · exact Or.inr (Or.inl hid)
      · exact Or.inr (Or.inr ⟨s₀, hs₀, hlast₀.trans hlast, hgone⟩)
  · rintro last notes pending ⟨members, s₂, hends, hlocked, hs₂, hcovered⟩
    exact hf members s₂ last notes pending hends hlocked hs₂ hcovered

end HandOver

theorem safe_transferOwnership (buildingId unitId : ℕ) (newOwnerPhone : String)
    (actorPersonId : ℕ) (now : Time) :
    (BuildingService.transferOwnership buildingId unitId newOwnerPhone actorPersonId now).Safe
      ownerDiscipline (fun _ _ _ _ => True) last [] id := by
  rw [BuildingService.transferOwnership]
  refine safe_getOwnUnit_bind fun unit _ _ _ _ => ?_
  refine Prog.Safe.query fun s _ _ _ => ?_
  rw [OwnershipTransferPolicy.assertCallerIsCurrentOwner]
  refine Prog.Safe.require fun _ => ?_
  rw [BuildingRepository.transferOwnership, Prog.transaction, Prog.bind_assoc]
  refine safe_endOwnerships fun owned last notes pending hends hlocked => ?_
  rw [Prog.bind_assoc]
  refine safe_endMemberships hends hlocked fun members s₂ last notes pending hends hlocked hs₂
    hcovered => ?_
  rw [updateUnitRow]
  refine Prog.Safe.writeIf fun s₃ _ hlast₃ _ _ => ?_
  refine Prog.Safe.commitAll fun s hs hlast hknows => ?_
  have hnotes : ownerDiscipline.Knows notes s := fun n hn => hknows n (List.mem_append_left _ hn)
  have hlater : ownerDiscipline.Later last s := hlast₃.trans hlast
  obtain ⟨howned, honly, hsame⟩ := (hends s).commit hs
    (hcovered.paired hlocked (hs₂.trans hlater) hlater hnotes)
  refine ⟨(onUnits_commit howned _).1, honly.trans (onUnits_commit howned _).2.1,
    fun l m hl => ?_, trivial⟩
  refine sameOwners_trans (hsame l fun id hid => ?_) ((onUnits_commit howned _).2.2 l)
  -- the rows that end are locked
  obtain ⟨s₀, o, hnote, -⟩ := hlocked id hid
  rintro rfl
  exact not_free_of_exclusive (List.mem_append_left _ hnote) hl

/-! ### Runs -/

/-- A call that makes or ends owners. -/
inductive OwnerCall
  | claimOwnership (buildingId unitId personId : ℕ) (now : Time)
  | linkOwnerAccountByPhone (personId : ℕ) (phone : String) (now : Time)
  | transferOwnership (buildingId unitId : ℕ) (newOwnerPhone : String) (actorPersonId : ℕ)
      (now : Time)

/-- The method that the call is made to. -/
def OwnerCall.call : OwnerCall → Call PUnit
  | .claimOwnership buildingId unitId personId now =>
    BuildingService.claimOwnership buildingId unitId personId now
  | .linkOwnerAccountByPhone personId phone now => do
    let _ ← BuildingService.linkOwnerAccountByPhone personId phone now
    pure ⟨⟩
  | .transferOwnership buildingId unitId newOwnerPhone actorPersonId now =>
    BuildingService.transferOwnership buildingId unitId newOwnerPhone actorPersonId now

theorem OwnerCall.safe (c : OwnerCall) :
    c.call.Safe ownerDiscipline (fun _ _ _ _ => True) s [] id := by
  cases c with
  | claimOwnership buildingId unitId personId now =>
    exact safe_claimOwnership buildingId unitId personId now
  | linkOwnerAccountByPhone personId phone now =>
    exact Prog.Safe.bind (safe_linkOwnerAccountByPhone personId phone now) fun _ _ _ _ _ => trivial
  | transferOwnership buildingId unitId newOwnerPhone actorPersonId now =>
    exact safe_transferOwnership buildingId unitId newOwnerPhone actorPersonId now

/-- The event is no look that finds a unit without owner while somebody else who has found it
so has still to link it. -/
abbrev Unhurried {ι α : Type} [DecidableEq ι] (d : Sessions ι α) (e : Event ι Failure) : Prop :=
  d.Orderly Lock.enforced (fun _ => true) e

/-- Any number of sessions, statement by statement in any order: no unit gets two owners as
long as no session finds a unit without owner between the look and the link of another one. -/
theorem singleOwner_of_unhurried {ι : Type} [DecidableEq ι] (hs : Owned s) (calls : ι → OwnerCall)
    {es : List (Event ι Failure)}
    (hes : EachStep (Database.next Lock.enforced) Unhurried
      (Database.start s fun i => (calls i).call) es) :
    SingleOwner (runCalls s (fun i => (calls i).call) es).store := by
  have hrun := Database.safe_run (D := ownerDiscipline) hs (fun i => (calls i).safe) hes
  exact Owned.singleOwner hrun.1

/-- A self-claim and a login of the invited owner. -/
def claimAndLogin (i : Fin 2) : OwnerCall :=
  if i = 0 then .claimOwnership 0 0 0 1 else .linkOwnerAccountByPhone 0 "09120000001" 1

/-- The login starts when the claim is through, and finds nothing to link. -/
theorem singleOwner_of_unhurried_claimAndLogin :
    SingleOwner (runCalls invitedHome (fun i => (claimAndLogin i).call)
      (List.replicate 10 (Event.step 0) ++ List.replicate 10 (Event.step 1))).store :=
  singleOwner_of_unhurried ⟨fun _ o ho => absurd ho List.not_mem_nil,
    fun _ m hm => absurd hm List.not_mem_nil, fun _ m hm => absurd hm List.not_mem_nil⟩
    claimAndLogin (by decide +kernel)

/-- The login looks at the unit after the claim has looked at it and before its link is
committed: the unit has two current ownerships. -/
theorem login_during_claim :
    ¬ SingleOwner (runCalls invitedHome (fun i => (claimAndLogin i).call)
      (List.replicate 4 (Event.step 0) ++ [Event.step 1] ++ List.replicate 6 (Event.step 0) ++
        List.replicate 6 (Event.step 1))).store :=
  fun h => absurd (h 0).1 (by decide +kernel)

end VielHome.Building
