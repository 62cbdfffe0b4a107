import VielHome.Community.Schema

/-!
# Who is what at the moment

Memberships, ownerships and tenancies are never deleted: they carry a flag that says whether
they are current. These are the conditions on a row, and the selections from the tables,
that the queries of all modules share.
-/

namespace VielHome.Community

open Relational

/-! ### Rows -/

/-- A current `MANAGER` membership of the building. -/
def Membership.IsManagerOf (m : Membership) (buildingId : ℕ) : Prop :=
  m.buildingId = buildingId ∧ m.role = .manager ∧ m.isCurrent = true

instance (m : Membership) (buildingId : ℕ) : Decidable (m.IsManagerOf buildingId) :=
  inferInstanceAs (Decidable (_ ∧ _))

/-- A current membership for the unit in a role. -/
def Membership.IsFor (m : Membership) (unitId : ℕ) (role : MembershipRole) : Prop :=
  m.unitId = some unitId ∧ m.role = role ∧ m.isCurrent = true

instance (m : Membership) (unitId : ℕ) (role : MembershipRole) : Decidable (m.IsFor unitId role) :=
  inferInstanceAs (Decidable (_ ∧ _))

/-- A current ownership of the unit. -/
def Ownership.IsOf (o : Ownership) (unitId : ℕ) : Prop := o.unitId = unitId ∧ o.isCurrent = true

instance (o : Ownership) (unitId : ℕ) : Decidable (o.IsOf unitId) :=
  inferInstanceAs (Decidable (_ ∧ _))

/-- A current tenancy of the unit. -/
def Tenancy.IsOf (t : Tenancy) (unitId : ℕ) : Prop := t.unitId = unitId ∧ t.isCurrent = true

instance (t : Tenancy) (unitId : ℕ) : Decidable (t.IsOf unitId) :=
  inferInstanceAs (Decidable (_ ∧ _))

/-- The end of a membership. -/
def Membership.ended (now : Time) (m : Membership) : Membership :=
  { m with isCurrent := false, endedAt := some now }

theorem Membership.ended_id (now : Time) (m : Membership) : (m.ended now).id = m.id := rfl

/-! ### Selections -/

namespace Store

variable (s : Store)

/-- `getCurrentManagerMembership`. -/
def currentManager (buildingId : ℕ) : Option Membership :=
  s.memberships.rows.find? fun m => m.IsManagerOf buildingId

/-- `getRoles`: every current role of the person in the building. -/
def roles (personId buildingId : ℕ) : List MembershipRole :=
  (s.memberships.rows.filter fun m =>
    m.personId = personId ∧ m.buildingId = buildingId ∧ m.isCurrent = true).map Membership.role

/-- The current ownerships of a unit. -/
def ownershipsOf (unitId : ℕ) : List Ownership := s.ownerships.rows.filter fun o => o.IsOf unitId

/-- The current tenancies of a unit. -/
def tenanciesOf (unitId : ℕ) : List Tenancy := s.tenancies.rows.filter fun t => t.IsOf unitId

/-- `isCurrentOwnerOfUnit`. -/
def isCurrentOwnerOfUnit (unitId personId : ℕ) : Bool :=
  s.ownerships.rows.any fun o => o.IsOf unitId ∧ o.personId = personId

/-- `hasCurrentOwnership`. -/
def hasCurrentOwnership (unitId : ℕ) : Bool := s.ownerships.rows.any fun o => o.IsOf unitId

/-- `findCurrentTenancyForUnit`. -/
def currentTenancyForUnit (unitId : ℕ) : Option Tenancy :=
  s.tenancies.rows.find? fun t => t.IsOf unitId

/-- `getBuildingSettings`: the default stands in for a row that was never written. -/
def allowTenantVoting (buildingId : ℕ) : Bool :=
  match s.settings.rows.find? fun b => b.buildingId = buildingId with
  | some settings => settings.allowTenantVoting
  | none => false

variable {s}

theorem currentManager_eq_some {buildingId : ℕ} {m : Membership}
    (h : s.currentManager buildingId = some m) : m ∈ s.memberships ∧ m.IsManagerOf buildingId :=
  ⟨List.mem_of_find?_eq_some h, by simpa using List.find?_some h⟩

theorem currentManager_eq_none {buildingId : ℕ} :
    s.currentManager buildingId = none ↔ ∀ m ∈ s.memberships, ¬ m.IsManagerOf buildingId := by
  simp [currentManager, List.find?_eq_none, Table.mem_rows]

theorem hasCurrentOwnership_eq_false {unitId : ℕ} :
    s.hasCurrentOwnership unitId = false ↔ ∀ o ∈ s.ownerships, ¬ o.IsOf unitId := by
  simp [hasCurrentOwnership, Table.mem_rows]

theorem currentTenancyForUnit_eq_none {unitId : ℕ} :
    s.currentTenancyForUnit unitId = none ↔ ∀ t ∈ s.tenancies, ¬ t.IsOf unitId := by
  simp [currentTenancyForUnit, List.find?_eq_none, Table.mem_rows]

end Store

end VielHome.Community
