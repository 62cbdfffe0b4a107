import VielHome.Building.Effect
import VielHome.Relational.Run

/-!
# Who owns and who rents a unit

An ownership of a unit comes with an `OWNER` membership for it, a tenancy with a `TENANT`
membership. The two tables are opened together and closed by different conditions: a
hand-over closes both by the unit, the end of a tenancy closes the tenancy by its id and
the membership by unit and person. What every call does to each of the three relations
between units and people is said once; the pairing of the tables follows, since a unit has
one current tenancy at most.
-/

namespace VielHome.Building

open Relational Community
open Relational.ReadCommitted (Prog)
open BuildingRepository (LinkOwnerParams)

/-! ### The three relations -/

/-- The person has a current ownership of the unit. -/
def Owns (s : Store) (unitId personId : ℕ) : Prop :=
  ∃ o ∈ s.ownerships, o.IsOf unitId ∧ o.personId = personId

/-- The person has a current tenancy of the unit. -/
def Rents (s : Store) (unitId personId : ℕ) : Prop :=
  ∃ t ∈ s.tenancies, t.IsOf unitId ∧ t.personId = personId

/-- The person has a current membership in the role for the unit. -/
def IsMember (s : Store) (role : MembershipRole) (unitId personId : ℕ) : Prop :=
  ∃ m ∈ s.memberships, m.IsFor unitId role ∧ m.personId = personId

section Relations

variable {s : Store} {unitId personId : ℕ} {role : MembershipRole} {now : Time}

theorem owns_link {params : LinkOwnerParams} :
    Owns (link params now s) unitId personId ↔
      Owns s unitId personId ∨ params.unitId = unitId ∧ params.personId = personId := by
  refine Table.exists_mem_create.trans (or_congr_right ?_)
  simp [Ownership.IsOf]

theorem isMember_link {params : LinkOwnerParams} :
    IsMember (link params now s) role unitId personId ↔
      IsMember s role unitId personId ∨
        params.unitId = unitId ∧ role = .owner ∧ params.personId = personId := by
  refine Table.exists_mem_create.trans (or_congr_right ?_)
  simp [Membership.IsFor, eq_comm, and_assoc]

theorem owns_handOver {handedOver : ℕ} {newOwnerPhone : String} :
    Owns (handOver handedOver newOwnerPhone now s) unitId personId ↔
      Owns s unitId personId ∧ unitId ≠ handedOver := by
  refine (Table.exists_mem_updateMany (q := fun o : Ownership => o.IsOf handedOver)
    (f := fun o => { o with isCurrent := false, endDate := some now }) (h := fun _ => rfl)
    fun o => ?_).trans ?_
  · simp [Ownership.IsOf]
  · constructor
    · rintro ⟨o, ho, ⟨hof, hperson⟩, hother⟩
      exact ⟨⟨o, ho, hof, hperson⟩, fun hunit => hother (hunit ▸ hof)⟩
    · rintro ⟨⟨o, ho, hof, hperson⟩, hunit⟩
      exact ⟨o, ho, ⟨hof, hperson⟩, fun hother => hunit (hof.1.symm.trans hother.1)⟩

theorem isMember_handOver {handedOver : ℕ} {newOwnerPhone : String} :
    IsMember (handOver handedOver newOwnerPhone now s) role unitId personId ↔
      IsMember s role unitId personId ∧ ¬(role = .owner ∧ unitId = handedOver) := by
  refine (Table.exists_mem_updateMany (q := fun m : Membership => m.IsFor handedOver .owner)
    (h := Membership.ended_id now) fun m => ?_).trans ?_
  · simp [Membership.IsFor, Membership.ended]
  · constructor
    · rintro ⟨m, hm, ⟨hfor, hperson⟩, hother⟩
      exact ⟨⟨m, hm, hfor, hperson⟩, fun h => hother (h.1 ▸ h.2 ▸ hfor)⟩
    · rintro ⟨⟨m, hm, hfor, hperson⟩, hother⟩
      refine ⟨m, hm, ⟨hfor, hperson⟩, fun h => hother ⟨hfor.2.1.symm.trans h.2.1, ?_⟩⟩
      exact Option.some.inj (hfor.1.symm.trans h.1)

theorem owns_moveIn {movedIn buildingId tenantId : ℕ} :
    Owns (moveIn movedIn buildingId tenantId now s) unitId personId ↔ Owns s unitId personId :=
  Iff.rfl

theorem rents_moveIn {movedIn buildingId tenantId : ℕ} :
    Rents (moveIn movedIn buildingId tenantId now s) unitId personId ↔
      Rents s unitId personId ∨ movedIn = unitId ∧ tenantId = personId := by
  refine Table.exists_mem_create.trans (or_congr_right ?_)
  simp [Tenancy.IsOf]

theorem isMember_moveIn {movedIn buildingId tenantId : ℕ} :
    IsMember (moveIn movedIn buildingId tenantId now s) role unitId personId ↔
      IsMember s role unitId personId ∨
        movedIn = unitId ∧ role = .tenant ∧ tenantId = personId := by
  refine Table.exists_mem_create.trans (or_congr_right ?_)
  simp [Membership.IsFor, eq_comm, and_assoc]

theorem owns_moveOut {tenancy : Tenancy} {terminationReason : Option String} :
    Owns (moveOut tenancy terminationReason now s) unitId personId ↔ Owns s unitId personId :=
  Iff.rfl

theorem isMember_moveOut {tenancy : Tenancy} {terminationReason : Option String} :
    IsMember (moveOut tenancy terminationReason now s) role unitId personId ↔
      IsMember s role unitId personId ∧
        ¬(role = .tenant ∧ unitId = tenancy.unitId ∧ personId = tenancy.personId) := by
  refine (Table.exists_mem_updateMany
    (q := fun m : Membership => m.IsFor tenancy.unitId .tenant ∧ m.personId = tenancy.personId)
    (h := Membership.ended_id now) fun m => ?_).trans ?_
  · simp [Membership.IsFor, Membership.ended]
  · constructor
    · rintro ⟨m, hm, ⟨hfor, hperson⟩, hother⟩
      exact ⟨⟨m, hm, hfor, hperson⟩, fun h =>
        hother ⟨h.1 ▸ h.2.1 ▸ hfor, hperson.trans h.2.2⟩⟩
    · rintro ⟨⟨m, hm, hfor, hperson⟩, hother⟩
      refine ⟨m, hm, ⟨hfor, hperson⟩, fun h =>
        hother ⟨hfor.2.1.symm.trans h.1.2.1, ?_, hperson.symm.trans h.2⟩⟩
      exact Option.some.inj (hfor.1.symm.trans h.1.1)

end Relations

/-! ### The invariant -/

/-- The tables are paired: an ownership for each `OWNER` membership of a unit, a tenancy for
each `TENANT` membership, one current tenancy of a unit at most, and the tenancies that are
not over are current. -/
structure Paired (s : Store) : Prop where
  owners : ∀ unitId personId, Owns s unitId personId ↔ IsMember s .owner unitId personId
  tenants : ∀ unitId personId, Rents s unitId personId ↔ IsMember s .tenant unitId personId
  single : ∀ unitId, ∀ t ∈ s.tenancies, ∀ t' ∈ s.tenancies, t.IsOf unitId → t'.IsOf unitId → t = t'
  opened : ∀ t ∈ s.tenancies, t.status ∈ TenancyPolicy.OPEN_STATUSES → t.isCurrent = true

variable {s s' : Store}

/-- The tables before anybody owned or rented a unit. -/
theorem paired_of_unoccupied (howned : s.ownerships.rows = []) (hrented : s.tenancies.rows = [])
    (hmembers : ∀ m ∈ s.memberships, m.unitId = none) : Paired s := by
  have hnone : ∀ role unitId personId, ¬ IsMember s role unitId personId := by
    rintro role unitId personId ⟨m, hm, hfor, -⟩
    exact absurd ((hmembers m hm).symm.trans hfor.1) (by simp)
  have hempty : ∀ t, t ∉ s.tenancies := fun t ht => by
    rw [← Table.mem_rows, hrented] at ht
    exact List.not_mem_nil ht
  refine ⟨fun unitId personId => iff_of_false ?_ (hnone _ _ _),
    fun unitId personId => iff_of_false ?_ (hnone _ _ _), fun _ t ht => absurd ht (hempty t),
    fun t ht => absurd ht (hempty t)⟩
  · rintro ⟨o, ho, -⟩
    rw [← Table.mem_rows, howned] at ho
    exact List.not_mem_nil ho
  · rintro ⟨t, ht, -⟩
    exact hempty t ht

/-- A write that leaves the tenancies and the tenants alone. -/
theorem Paired.of_tenancies_eq (h : Paired s) (htenancies : s'.tenancies = s.tenancies)
    (howners : ∀ unitId personId, Owns s' unitId personId ↔ IsMember s' .owner unitId personId)
    (htenants : ∀ unitId personId,
      IsMember s' .tenant unitId personId ↔ IsMember s .tenant unitId personId) : Paired s' := by
  refine ⟨howners, fun unitId personId => ?_, htenancies ▸ h.single, htenancies ▸ h.opened⟩
  rw [htenants, ← h.tenants, Rents, htenancies, Rents]

theorem Paired.link (h : Paired s) (params : LinkOwnerParams) (now : Time) :
    Paired (link params now s) := by
  refine h.of_tenancies_eq rfl (fun unitId personId => ?_) fun unitId personId => ?_
  · simp [owns_link, isMember_link, h.owners]
  · simp [isMember_link]

theorem Paired.handOver (h : Paired s) (unitId : ℕ) (newOwnerPhone : String) (now : Time) :
    Paired (handOver unitId newOwnerPhone now s) := by
  refine h.of_tenancies_eq rfl (fun unitId personId => ?_) fun unitId personId => ?_
  · simp [owns_handOver, isMember_handOver, h.owners]
  · simp [isMember_handOver]

/-- Somebody moves into a unit that nobody rents. -/
theorem Paired.moveIn (h : Paired s) {unitId : ℕ} (hfree : s.currentTenancyForUnit unitId = none)
    (buildingId personId : ℕ) (now : Time) : Paired (moveIn unitId buildingId personId now s) := by
  rw [Store.currentTenancyForUnit_eq_none] at hfree
  refine ⟨fun unitId' personId' => ?_, fun unitId' personId' => ?_,
    fun unitId' t ht t' ht' hof hof' => ?_, fun t ht hopen => ?_⟩
  · simp [owns_moveIn, isMember_moveIn, h.owners]
  · simp [rents_moveIn, isMember_moveIn, h.tenants]
  · -- the new tenancy is the only one of its unit
    rcases Table.mem_create.mp ht with ht | rfl <;> rcases Table.mem_create.mp ht' with ht' | rfl
    · exact h.single unitId' t ht t' ht' hof hof'
    · exact absurd ((show unitId = unitId' from hof'.1) ▸ hof) (hfree t ht)
    · exact absurd ((show unitId = unitId' from hof.1) ▸ hof') (hfree t' ht')
    · rfl
  · rcases Table.mem_create.mp ht with ht | rfl
    · exact h.opened t ht hopen
    · rfl

/-- Notice is given on a tenancy that is active. -/
theorem Paired.notice (h : Paired s) {tenancy : Tenancy} {id : ℕ}
    (hfound : s.tenancies.find? id = some tenancy) (hactive : tenancy.status = .active) (now : Time) :
    Paired (s.onTenancies (·.modify id (noticed now) (noticed_id now))) := by
  obtain ⟨hmem, rfl⟩ := Table.find?_eq_some_iff.mp hfound
  -- which tenancies are current, of which units and people, does not change
  have hold : ∀ t ∈ s.tenancies.modify tenancy.id (noticed now) (noticed_id now),
      ∃ t₀ ∈ s.tenancies, t = (if t₀.id = tenancy.id then noticed now t₀ else t₀) ∧
        ∀ unitId, t.IsOf unitId ↔ t₀.IsOf unitId := by
    intro t ht
    obtain ⟨t₀, ht₀, rfl⟩ := (Table.mem_modify (h := noticed_id now)).mp ht
    refine ⟨t₀, ht₀, rfl, fun unitId => ?_⟩
    split <;> rfl
  have hrents : ∀ unitId personId,
      Rents (s.onTenancies (·.modify tenancy.id (noticed now) (noticed_id now))) unitId personId ↔
        Rents s unitId personId := by
    intro unitId personId
    constructor
    · rintro ⟨t, ht, hof, hperson⟩
      obtain ⟨t₀, ht₀, rfl, hiff⟩ := hold t ht
      refine ⟨t₀, ht₀, (hiff unitId).mp hof, hperson ▸ ?_⟩
      split <;> rfl
    · rintro ⟨t, ht, hof, hperson⟩
      refine ⟨_, (Table.mem_modify (h := noticed_id now)).mpr ⟨t, ht, rfl⟩, ?_, ?_⟩ <;> split
      · exact hof
      · exact hof
      · exact hperson
      · exact hperson
  refine ⟨h.owners, fun unitId personId => (hrents unitId personId).trans (h.tenants _ _),
    fun unitId t ht t' ht' hof hof' => ?_, fun t ht hopen => ?_⟩
  · obtain ⟨t₀, ht₀, rfl, hiff⟩ := hold t ht
    obtain ⟨t₁, ht₁, rfl, hiff'⟩ := hold t' ht'
    rw [h.single unitId t₀ ht₀ t₁ ht₁ ((hiff unitId).mp hof) ((hiff' unitId).mp hof')]
  · obtain ⟨t₀, ht₀, rfl, -⟩ := hold t ht
    split at hopen
    case isTrue hid =>
      rw [if_pos hid, Table.eq_of_key_eq ht₀ hmem hid]
      exact h.opened tenancy hmem (hactive ▸ by decide)
    case isFalse hid =>
      rw [if_neg hid]
      exact h.opened t₀ ht₀ hopen

/-- A tenancy that is not over ends: it is the current one of its unit, so the membership that
ends with it is the one that belongs to it. -/
theorem Paired.moveOut (h : Paired s) {tenancy : Tenancy} (hmem : tenancy ∈ s.tenancies)
    (hopen : tenancy.status ∈ TenancyPolicy.OPEN_STATUSES) (terminationReason : Option String)
    (now : Time) : Paired (moveOut tenancy terminationReason now s) := by
  have hcurrent : tenancy.IsOf tenancy.unitId := ⟨rfl, h.opened tenancy hmem hopen⟩
  have hold : ∀ t ∈ (Building.moveOut tenancy terminationReason now s).tenancies,
      ∀ unitId, t.IsOf unitId → t ∈ s.tenancies ∧ t.id ≠ tenancy.id := by
    intro t ht unitId hof
    obtain ⟨t₀, ht₀, rfl⟩ := mem_tenancies_moveOut.mp ht
    by_cases hid : t₀.id = tenancy.id
    · rw [if_pos hid] at hof
      exact absurd hof.2 (by simp [BuildingRepository.closed])
    · rw [if_neg hid]
      exact ⟨ht₀, hid⟩
  refine ⟨fun unitId personId => ?_, fun unitId personId => ?_,
    fun unitId t ht t' ht' hof hof' => ?_, fun t ht hopen' => ?_⟩
  · simp [owns_moveOut, isMember_moveOut, h.owners]
  · rw [isMember_moveOut, ← h.tenants]
    constructor
    · rintro ⟨t, ht, hof, hperson⟩
      obtain ⟨hmem', hid⟩ := hold t ht unitId hof
      refine ⟨⟨t, hmem', hof, hperson⟩, fun hsame => hid ?_⟩
      rw [h.single unitId t hmem' tenancy hmem hof (hsame.2.1 ▸ hcurrent)]
    · rintro ⟨⟨t, ht, hof, hperson⟩, hother⟩
      have hid : t.id ≠ tenancy.id := fun hid => by
        obtain rfl := Table.eq_of_key_eq ht hmem hid
        exact hother ⟨rfl, hof.1.symm, hperson.symm⟩
      exact ⟨t, mem_tenancies_moveOut.mpr ⟨t, ht, (if_neg hid).symm⟩, hof, hperson⟩
  · exact h.single unitId t (hold t ht unitId hof).1 t' (hold t' ht' unitId hof').1 hof hof'
  · obtain ⟨t₀, ht₀, rfl⟩ := mem_tenancies_moveOut.mp ht
    by_cases hid : t₀.id = tenancy.id
    · rw [if_pos hid] at hopen'
      exact absurd hopen' (by simp [BuildingRepository.closed, TenancyPolicy.OPEN_STATUSES])
    · rw [if_neg hid] at hopen' ⊢
      exact h.opened t₀ ht₀ hopen'

/-! ### Runs -/

/-- A call that opens or closes an ownership or a tenancy. -/
inductive OccupancyCall
  | claimOwnership (buildingId unitId personId : ℕ) (now : Time)
  | linkOwnerAccountByPhone (personId : ℕ) (phone : String) (now : Time)
  | transferOwnership (buildingId unitId : ℕ) (newOwnerPhone : String) (actorPersonId : ℕ)
      (now : Time)
  | createTenancy (buildingId unitId tenantPersonId actorPersonId : ℕ) (now : Time)
  | giveTenancyNotice (buildingId tenancyId actorPersonId : ℕ) (now : Time)
  | endTenancy (buildingId tenancyId : ℕ) (terminationReason : Option String)
      (actorPersonId : ℕ) (now : Time)

/-- The store after the call, which runs on its own. -/
def OccupancyCall.exec : OccupancyCall → Store → Store
  | .claimOwnership buildingId unitId personId now =>
    (BuildingService.claimOwnership buildingId unitId personId now).exec
  | .linkOwnerAccountByPhone personId phone now =>
    (BuildingService.linkOwnerAccountByPhone personId phone now).exec
  | .transferOwnership buildingId unitId newOwnerPhone actorPersonId now =>
    (BuildingService.transferOwnership buildingId unitId newOwnerPhone actorPersonId now).exec
  | .createTenancy buildingId unitId tenantPersonId actorPersonId now =>
    (BuildingService.createTenancy buildingId unitId tenantPersonId actorPersonId now).exec
  | .giveTenancyNotice buildingId tenancyId actorPersonId now =>
    (BuildingService.giveTenancyNotice buildingId tenancyId actorPersonId now).exec
  | .endTenancy buildingId tenancyId terminationReason actorPersonId now =>
    (BuildingService.endTenancy buildingId tenancyId terminationReason actorPersonId now).exec

theorem Paired.exec (h : Paired s) (c : OccupancyCall) : Paired (c.exec s) := by
  cases c with
  | claimOwnership buildingId unitId personId now =>
    rcases exec_claimOwnership buildingId unitId personId now s with
      hexec | ⟨unit, person, -, -, -, -, -, -, hexec⟩
    · exact (congrArg Paired hexec).mpr h
    · exact (congrArg Paired hexec).mpr (h.link _ now)
  | linkOwnerAccountByPhone personId phone now =>
    rw [OccupancyCall.exec, ← Prog.bind_done (BuildingService.linkOwnerAccountByPhone _ _ _)]
    exact exec_linkOwnerAccountByPhone_bind (fun _ _ => rfl) (fun unit _ s' hs' _ => hs'.link _ now) h
  | transferOwnership buildingId unitId newOwnerPhone actorPersonId now =>
    rcases exec_transferOwnership buildingId unitId newOwnerPhone actorPersonId now s with
      hexec | ⟨-, -, -, -, hexec⟩
    · exact (congrArg Paired hexec).mpr h
    · exact (congrArg Paired hexec).mpr (h.handOver unitId newOwnerPhone now)
  | createTenancy buildingId unitId tenantPersonId actorPersonId now =>
    rcases exec_createTenancy buildingId unitId tenantPersonId actorPersonId now s with
      hexec | ⟨hfree, hexec⟩
    · exact (congrArg Paired hexec).mpr h
    · exact (congrArg Paired hexec).mpr (h.moveIn hfree buildingId tenantPersonId now)
  | giveTenancyNotice buildingId tenancyId actorPersonId now =>
    rcases exec_giveTenancyNotice buildingId tenancyId actorPersonId now s with
      hexec | ⟨tenancy, hfound, hactive, hexec⟩
    · exact (congrArg Paired hexec).mpr h
    · exact (congrArg Paired hexec).mpr (h.notice hfound hactive now)
  | endTenancy buildingId tenancyId terminationReason actorPersonId now =>
    rcases exec_endTenancy buildingId tenancyId terminationReason actorPersonId now s with
      hexec | ⟨tenancy, hfound, hopen, hexec⟩
    · exact (congrArg Paired hexec).mpr h
    · exact (congrArg Paired hexec).mpr
        (h.moveOut (Table.mem_of_find? hfound) hopen terminationReason now)

/-- One call, alone. -/
def occupancyStep (s : Store) (c : OccupancyCall) : Store := c.exec s

/-- In every state that the calls reach a person owns a unit just when they are an `OWNER`
member for it and rents it just when they are a `TENANT` member for it, and a unit has one
current tenancy at most. -/
theorem occupancy_paired (hs : Paired s) (h : Reachable occupancyStep s s')
    (unitId personId : ℕ) :
    (Owns s' unitId personId ↔ IsMember s' .owner unitId personId) ∧
      (Rents s' unitId personId ↔ IsMember s' .tenant unitId personId) ∧
      (s'.tenanciesOf unitId).length ≤ 1 := by
  have hpaired : Paired s' := h.induction (fun s c hs => hs.exec c) hs
  refine ⟨hpaired.owners unitId personId, hpaired.tenants unitId personId, ?_⟩
  refine Table.length_filter_le_one_iff.mpr fun t ht t' ht' hof hof' => ?_
  exact hpaired.single unitId t ht t' ht' (of_decide_eq_true hof) (of_decide_eq_true hof')

/-- A building with one unit, its invited owner, and somebody else. -/
def invitedHome : Store :=
  { Store.empty with
    buildings := Store.empty.buildings.create fun id =>
      { id, name := "Sepehr", addressLine := "Main street 1", postalCode := "1234567890",
        createdById := 0 }
    units := Store.empty.units.create fun id =>
      { id, buildingId := 0, unitNumber := "1", ownerPhone := some "09120000001" }
    persons := Store.empty.persons.createMany ["09120000001", "09120000002"] fun phone id =>
      { id, phone } }

/-- The owner signs in and lets the unit to somebody, who moves out after a notice. -/
theorem occupancy_paired_invitedHome :
    let s := runFrom occupancyStep invitedHome
      [.linkOwnerAccountByPhone 0 "09120000001" 1, .createTenancy 0 0 1 0 2,
        .giveTenancyNotice 0 0 1 3, .endTenancy 0 0 none 1 4]
    (Owns s 0 0 ↔ IsMember s .owner 0 0) ∧ (Rents s 0 0 ↔ IsMember s .tenant 0 0) ∧
      (s.tenanciesOf 0).length ≤ 1 :=
  occupancy_paired (paired_of_unoccupied rfl rfl (by decide)) ⟨_, rfl⟩ 0 0

end VielHome.Building
