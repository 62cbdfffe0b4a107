import VielHome.Building.Effect
import VielHome.Relational.Run

/-!
# Whose name an owner's invite carries

A unit carries the phone of its invited owner and, since the second version of the invite,
that owner's first and last name. When somebody with the phone is linked to the unit, the
names fill those that the person does not have. But the first version of the invite, an
update of the unit and a hand-over set the phone and leave the names, so a name that was
entered for one owner can be written to the next one. A name follows the phone it was
entered with in every run in which these three calls find on the unit no name but those
that were entered together with the new phone.
-/

namespace VielHome.Building

open Relational Community BuildingService
open Relational.ReadCommitted (Prog)
open BuildingRepository (LinkOwnerParams UnlinkedUnit missing)

/-- A call that an owner's invite goes through. -/
inductive InviteCall
  | inviteOwner (buildingId unitId : ℕ) (dto : InviteOwnerDto) (now : Time)
  | inviteOwnerV2 (buildingId unitId : ℕ) (dto : InviteOwnerV2Dto) (now : Time)
  | updateUnit (buildingId unitId : ℕ) (dto : UpdateUnitDto)
  | transferOwnership (buildingId unitId : ℕ) (newOwnerPhone : String) (actorPersonId : ℕ)
      (now : Time)
  | claimOwnership (buildingId unitId personId : ℕ) (now : Time)
  | verifyOtp (phone : String) (now : Time)

/-- The method that the call is made to. -/
def InviteCall.call : InviteCall → Call PUnit
  | .inviteOwner buildingId unitId dto now => BuildingService.inviteOwner buildingId unitId dto now
  | .inviteOwnerV2 buildingId unitId dto now =>
    BuildingService.inviteOwnerV2 buildingId unitId dto now
  | .updateUnit buildingId unitId dto => BuildingService.updateUnit buildingId unitId dto
  | .transferOwnership buildingId unitId newOwnerPhone actorPersonId now =>
    BuildingService.transferOwnership buildingId unitId newOwnerPhone actorPersonId now
  | .claimOwnership buildingId unitId personId now =>
    BuildingService.claimOwnership buildingId unitId personId now
  | .verifyOtp phone now => AuthService.verifyOtp phone now

/-- A name as it was entered: for a unit, together with a phone. -/
structure Entry where
  unitId : ℕ
  firstName : String
  lastName : String
  phone : String
  deriving DecidableEq

/-- Only the second version of the invite takes a structured name. -/
def InviteCall.entry? : InviteCall → Option Entry
  | .inviteOwnerV2 _ unitId dto _ =>
    some ⟨unitId, dto.ownerFirstName, dto.ownerLastName, dto.ownerPhone⟩
  | _ => none

/-- The two names, each a column of the person, of the unit and of an entry. -/
inductive NameColumn
  | firstName
  | lastName

namespace NameColumn

/-- The column of a person. -/
def ofPerson : NameColumn → Person → Option String
  | firstName, p => p.firstName
  | lastName, p => p.lastName

/-- The column of a unit. -/
def ofUnit : NameColumn → BuildingUnit → Option String
  | firstName, u => u.ownerFirstName
  | lastName, u => u.ownerLastName

/-- The column of what was entered. -/
def ofEntry : NameColumn → Entry → String
  | firstName, e => e.firstName
  | lastName, e => e.lastName

/-- The name a person had in the store. -/
def before (column : NameColumn) (s : Store) (personId : ℕ) : Option String :=
  (s.persons.find? personId).bind column.ofPerson

end NameColumn

/-- The person was linked to the unit on the way from one store to the other. -/
def Linked (s s' : Store) (unitId personId : ℕ) : Prop :=
  ∃ o ∈ s'.ownerships, s.ownerships.next ≤ o.id ∧ o.unitId = unitId ∧ o.personId = personId

instance (s s' : Store) (unitId personId : ℕ) : Decidable (Linked s s' unitId personId) :=
  inferInstanceAs (Decidable (∃ o ∈ s'.ownerships, _))

/-- The store, and the names that were entered so far. -/
structure Invites where
  store : Store
  entered : List Entry

namespace Invites

/-- One call; what a successful one took is entered. -/
def step (a : Invites) (c : InviteCall) : Invites where
  store := c.call.exec a.store
  entered := a.entered ++ if (c.call.outcome a.store).isOk then c.entry?.toList else []

/-- The name of a person is the one from before, or there was none and it was entered with the
phone of the person for a unit that the person is now linked to. -/
def Follows (a a' : Invites) (p : Person) (column : NameColumn) : Prop :=
  column.ofPerson p = column.before a.store p.id ∨
    column.before a.store p.id = none ∧
      ∃ e ∈ a.entered, column.ofPerson p = some (column.ofEntry e) ∧ e.phone = p.phone ∧
        Linked a.store a'.store e.unitId p.id

instance (a a' : Invites) (p : Person) (column : NameColumn) : Decidable (a.Follows a' p column) :=
  inferInstanceAs (Decidable (_ ∨ _ ∧ ∃ e ∈ a.entered, _))

/-- The names that a call writes follow the phone they were entered with. -/
def NamesFollowPhone (a : Invites) (c : InviteCall) : Prop :=
  ∀ p ∈ (a.step c).store.persons,
    a.Follows (a.step c) p .firstName ∧ a.Follows (a.step c) p .lastName

instance : DecidableRel NamesFollowPhone := fun a c =>
  inferInstanceAs (Decidable (∀ p ∈ (a.step c).store.persons, _))

/-- The name of the unit, if it has one, was entered for it together with the phone. -/
def EnteredWith (a : Invites) (unit : BuildingUnit) (phone : String) (column : NameColumn) : Prop :=
  truthy (column.ofUnit unit) = true →
    ∃ e ∈ a.entered, e.unitId = unit.id ∧ e.phone = phone ∧
      column.ofUnit unit = some (column.ofEntry e)

instance (a : Invites) (unit : BuildingUnit) (phone : String) (column : NameColumn) :
    Decidable (a.EnteredWith unit phone column) :=
  inferInstanceAs (Decidable (_ → ∃ e ∈ a.entered, _))

/-- All that the unit has of a name was entered for it together with the phone. -/
def AddressedTo (a : Invites) (unit : BuildingUnit) (phone : String) : Prop :=
  a.EnteredWith unit phone .firstName ∧ a.EnteredWith unit phone .lastName

instance (a : Invites) (unit : BuildingUnit) (phone : String) :
    Decidable (a.AddressedTo unit phone) :=
  inferInstanceAs (Decidable (_ ∧ _))

/-- The names of the units that wait for their owner were entered with the phone that is
waited for. -/
def Recorded (a : Invites) : Prop :=
  ∀ unit ∈ a.store.units, ∀ phone ∈ unit.ownerPhone,
    a.store.hasCurrentOwnership unit.id = false → a.AddressedTo unit phone

instance (a : Invites) : Decidable a.Recorded :=
  inferInstanceAs (Decidable (∀ unit ∈ a.store.units, _))

/-- The unit has no name but those that were entered for it together with the phone. -/
def Readdressable (a : Invites) (buildingId unitId : ℕ) (phone : String) : Prop :=
  ∀ unit ∈ a.store.units, unit.id = unitId → unit.buildingId = buildingId →
    a.AddressedTo unit phone

instance (a : Invites) (buildingId unitId : ℕ) (phone : String) :
    Decidable (a.Readdressable buildingId unitId phone) :=
  inferInstanceAs (Decidable (∀ unit ∈ a.store.units, _))

/-- A call that sets the phone of a unit without its names, be it of a unit that nobody owns
or in a hand-over, finds no name on it but those that were entered with that phone. -/
def KeepsAddress (a : Invites) : InviteCall → Prop
  | .inviteOwner buildingId unitId dto _ =>
    a.store.hasCurrentOwnership unitId = false → a.Readdressable buildingId unitId dto.ownerPhone
  | .updateUnit buildingId unitId dto =>
    a.store.hasCurrentOwnership unitId = false →
      ∀ phone ∈ dto.ownerPhone.join, a.Readdressable buildingId unitId phone
  | .transferOwnership buildingId unitId newOwnerPhone actorPersonId _ =>
    a.store.isCurrentOwnerOfUnit unitId actorPersonId = true →
      a.Readdressable buildingId unitId newOwnerPhone
  | _ => True

instance (a : Invites) : (c : InviteCall) → Decidable (a.KeepsAddress c)
  | .inviteOwner .. => inferInstanceAs (Decidable (_ → _))
  | .updateUnit _ _ dto =>
    inferInstanceAs (Decidable (_ → ∀ phone ∈ dto.ownerPhone.join, _))
  | .transferOwnership .. => inferInstanceAs (Decidable (_ → _))
  | .inviteOwnerV2 .. => inferInstanceAs (Decidable True)
  | .claimOwnership .. => inferInstanceAs (Decidable True)
  | .verifyOtp .. => inferInstanceAs (Decidable True)

/-! ### Links -/

variable {s s' : Store} {a : Invites}

/-- A name is filled when it is missing and the one that is given is not empty. -/
theorem missing_or_cases (name given : Option String) :
    (missing name given).or name = name ∨
      name = none ∧ truthy given = true ∧ (missing name given).or name = given := by
  rw [missing]
  by_cases h : name = none ∧ truthy given = true
  · rw [if_pos h, h.1, Option.or_none]
    exact Or.inr ⟨rfl, h.2, rfl⟩
  · rw [if_neg h, Option.none_or]
    exact Or.inl rfl

/-- The name of a person is the one from before, or there was none and it comes from a unit
that waited for an owner with the phone of the person, who is now linked to it. -/
def Filled (s s' : Store) (p : Person) (column : NameColumn) : Prop :=
  column.ofPerson p = column.before s p.id ∨
    column.before s p.id = none ∧
      ∃ unit ∈ s.units, unit.ownerPhone = some p.phone ∧ s.hasCurrentOwnership unit.id = false ∧
        truthy (column.ofUnit unit) = true ∧ column.ofPerson p = column.ofUnit unit ∧
        Linked s s' unit.id p.id

/-- What a call that links owners does: units stay, ownerships are added, names are filled. -/
structure Linking (s s' : Store) : Prop where
  units : s'.units = s.units
  ownerships : ∀ o ∈ s.ownerships, o ∈ s'.ownerships
  next : s.ownerships.next ≤ s'.ownerships.next
  filled : ∀ p ∈ s'.persons, ∀ column, Filled s s' p column

theorem filled_of_mem {p : Person} (hp : p ∈ s.persons) (column : NameColumn) :
    Filled s s' p column := by
  refine Or.inl ?_
  rw [NameColumn.before, Table.find?_of_mem hp, Option.bind_some]

theorem Linking.refl (s : Store) : Linking s s :=
  ⟨rfl, fun _ ho => ho, le_rfl, fun _ hp => filled_of_mem hp⟩

/-- A new person has no name yet. -/
theorem linking_newPerson (phone : String) (s : Store) : Linking s (newPerson phone s) := by
  refine ⟨rfl, fun _ ho => ho, le_rfl, fun p hp column => ?_⟩
  rcases Table.mem_create.mp hp with hp | rfl
  · exact filled_of_mem hp column
  · refine Or.inl ?_
    rw [NameColumn.before, Table.find?_of_next_le le_rfl, Option.bind_none]
    cases column <;> rfl

/-- One more link, of a unit that waits for an owner with the phone of the person. -/
theorem Linking.link (h : Linking s s') {params : LinkOwnerParams} {unit : BuildingUnit}
    (hunit : unit ∈ s.units) (howned : s.hasCurrentOwnership unit.id = false) (now : Time)
    (hparams : params.unitId = unit.id ∧ params.pendingOwnerFirstName = unit.ownerFirstName ∧
      params.pendingOwnerLastName = unit.ownerLastName)
    (hphone : ∀ p ∈ s'.persons, p.id = params.personId → unit.ownerPhone = some p.phone) :
    Linking s (link params now s') := by
  have hadded : ∀ o ∈ s'.ownerships, o ∈ (Building.link params now s').ownerships :=
    fun o ho => Table.mem_create.mpr (Or.inl ho)
  refine ⟨h.units, fun o ho => hadded o (h.ownerships o ho), Nat.le_succ_of_le h.next,
    fun p hp column => ?_⟩
  obtain ⟨p₀, hp₀, hp⟩ := (Table.mem_modify (h := missingName_id _ _)).mp hp
  have hfilled : Filled s (Building.link params now s') p₀ column := by
    refine (h.filled p₀ hp₀ column).imp_right ?_
    rintro ⟨hnone, u, hu, huphone, huowned, hutruthy, huname, o, ho, hlinked⟩
    exact ⟨hnone, u, hu, huphone, huowned, hutruthy, huname, o, hadded o ho, hlinked⟩
  split at hp
  case isFalse => exact hp ▸ hfilled
  case isTrue hid =>
    have hlinked : Linked s (Building.link params now s') unit.id p₀.id :=
      ⟨_, Table.mem_create.mpr (Or.inr rfl), h.next, hparams.1, hid.symm⟩
    have hname : column.ofPerson p = column.ofPerson p₀ ∨
        column.ofPerson p₀ = none ∧ truthy (column.ofUnit unit) = true ∧
          column.ofPerson p = column.ofUnit unit := by
      subst hp
      cases column with
      | firstName => exact hparams.2.1 ▸ missing_or_cases p₀.firstName _
      | lastName => exact hparams.2.2 ▸ missing_or_cases p₀.lastName _
    have hkeys : p.id = p₀.id ∧ p.phone = p₀.phone := by
      subst hp
      exact ⟨rfl, rfl⟩
    rw [Filled, hkeys.1, hkeys.2]
    rcases hname with hname | ⟨hnone, htruthy, hname⟩
    · rw [hname]
      exact hfilled
    · refine Or.inr ⟨?_, unit, hunit, hphone p₀ hp₀ hid, howned, htruthy, hname, hlinked⟩
      -- a name that is missing now was missing before
      rcases hfilled with hbefore | ⟨hbefore, -⟩
      · rw [← hbefore, hnone]
      · exact hbefore

/-- The person whose units are linked keeps the phone. -/
theorem phone_link {params : LinkOwnerParams} {now : Time} {personId : ℕ} {phone : String}
    (h : ∀ p ∈ s.persons, p.id = personId → p.phone = phone) :
    ∀ p ∈ (link params now s).persons, p.id = personId → p.phone = phone := by
  intro p hp hid
  obtain ⟨p₀, hp₀, rfl⟩ := (Table.mem_modify (h := missingName_id _ _)).mp hp
  split at hid <;> split <;> exact h p₀ hp₀ hid

theorem linking_claimOwnership (buildingId unitId personId : ℕ) (now : Time) (s : Store) :
    Linking s ((BuildingService.claimOwnership buildingId unitId personId now).exec s) := by
  rcases exec_claimOwnership buildingId unitId personId now s with
    hexec | ⟨unit, person, hunit, -, hperson, howned, hphone, -, hexec⟩
  · rw [hexec]
    exact Linking.refl s
  · obtain ⟨hmem, rfl⟩ := Table.find?_eq_some_iff.mp hunit
    rw [hexec]
    refine (Linking.refl s).link hmem howned now ⟨rfl, rfl, rfl⟩ fun p hp hid => ?_
    obtain ⟨hperson, hkey⟩ := Table.find?_eq_some_iff.mp hperson
    rw [hphone, Table.eq_of_key_eq hp hperson (hid.trans hkey.symm)]

/-- The links of a login, of a person whose row is there. -/
theorem linking_linkOwnerAccountByPhone {β : Type} {f : List ℕ → Call β} {personId : ℕ}
    {phone : String} {now : Time} (hf : ∀ ids s, (f ids).exec s = s) (h : Linking s s')
    (howned : s'.ownerships = s.ownerships)
    (hphone : ∀ p ∈ s'.persons, p.id = personId → p.phone = phone) :
    Linking s ((BuildingService.linkOwnerAccountByPhone personId phone now >>= f).exec s') := by
  refine And.left (exec_linkOwnerAccountByPhone_bind
    (P := fun s' => Linking s s' ∧ ∀ p ∈ s'.persons, p.id = personId → p.phone = phone) hf
    (fun unit hunit s'' hs'' _ => ?_) ⟨h, hphone⟩)
  obtain ⟨u, hu, rfl⟩ := List.mem_map.mp hunit
  obtain ⟨hu, hwaiting⟩ := List.mem_filter.mp hu
  obtain ⟨huphone, huowned⟩ := of_decide_eq_true hwaiting
  have hnobody : s.hasCurrentOwnership u.id = false := by
    rwa [Store.hasCurrentOwnership, ← howned]
  refine ⟨hs''.1.link (h.units ▸ hu) hnobody now ⟨rfl, rfl, rfl⟩ fun p hp hid => ?_,
    phone_link hs''.2⟩
  rw [huphone, hs''.2 p hp hid]

theorem linking_verifyOtp (phone : String) (now : Time) (s : Store) :
    Linking s ((AuthService.verifyOtp phone now).exec s) := by
  rw [AuthService.verifyOtp, Prog.exec_query_bind]
  rcases exec_findOrCreatePerson_bind phone _ s with ⟨person, hperson, hphone, hexec⟩ | hexec
  · rw [hexec, Prog.exec_require_bind]
    split
    · refine linking_linkOwnerAccountByPhone (fun _ _ => rfl) (Linking.refl s) rfl
        fun p hp hid => ?_
      rw [Table.eq_of_key_eq hp hperson hid]
    · exact Linking.refl s
  · rw [hexec, Prog.exec_require_bind, if_pos rfl]
    refine linking_linkOwnerAccountByPhone (fun _ _ => rfl) (linking_newPerson phone s) rfl
      fun p hp hid => ?_
    have hnew : { id := s.persons.next, phone } ∈ (newPerson phone s).persons :=
      Table.mem_create.mpr (Or.inr rfl)
    rw [Table.eq_of_key_eq hp hnew hid]

/-! ### One call -/

/-- A call that writes to units only. -/
theorem filled_of_persons_eq (h : s'.persons = s.persons) :
    ∀ p ∈ s'.persons, ∀ column, Filled s s' p column :=
  fun _ hp => filled_of_mem (h ▸ hp)

/-- Whatever names the units carry: a name that is there is never overwritten, and one that is
filled comes from a unit that waited for the person. -/
theorem filled_call (c : InviteCall) (s : Store) :
    ∀ p ∈ (c.call.exec s).persons, ∀ column, Filled s (c.call.exec s) p column := by
  cases c with
  | inviteOwner buildingId unitId dto now =>
    rcases exec_invite buildingId unitId _ now s (p := inviteOwner buildingId unitId dto now) rfl with
      ⟨-, hexec⟩ | ⟨-, -, -, -, hexec⟩
    · exact filled_of_persons_eq (congrArg Store.persons hexec)
    · exact filled_of_persons_eq ((congrArg Store.persons hexec).trans rfl)
  | inviteOwnerV2 buildingId unitId dto now =>
    rcases exec_invite buildingId unitId _ now s (p := inviteOwnerV2 buildingId unitId dto now)
      rfl with ⟨-, hexec⟩ | ⟨-, -, -, -, hexec⟩
    · exact filled_of_persons_eq (congrArg Store.persons hexec)
    · exact filled_of_persons_eq ((congrArg Store.persons hexec).trans rfl)
  | updateUnit buildingId unitId dto =>
    rcases exec_updateUnit buildingId unitId dto s with hexec | ⟨-, -, -, hexec⟩
    · exact filled_of_persons_eq (congrArg Store.persons hexec)
    · exact filled_of_persons_eq ((congrArg Store.persons hexec).trans rfl)
  | transferOwnership buildingId unitId newOwnerPhone actorPersonId now =>
    rcases exec_transferOwnership buildingId unitId newOwnerPhone actorPersonId now s with
      hexec | ⟨-, -, -, -, hexec⟩
    · exact filled_of_persons_eq (congrArg Store.persons hexec)
    · exact filled_of_persons_eq ((congrArg Store.persons hexec).trans rfl)
  | claimOwnership buildingId unitId personId now =>
    exact (linking_claimOwnership buildingId unitId personId now s).filled
  | verifyOtp phone now => exact (linking_verifyOtp phone now s).filled

/-- The names that fill are the ones that were entered, when the names of the waiting units
are. -/
theorem namesFollowPhone_of_recorded (ha : a.Recorded) (c : InviteCall) : a.NamesFollowPhone c := by
  have hcolumn : ∀ p ∈ (a.step c).store.persons, ∀ column, (∀ unit ∈ a.store.units,
      unit.ownerPhone = some p.phone → a.store.hasCurrentOwnership unit.id = false →
        a.EnteredWith unit p.phone column) → a.Follows (a.step c) p column := by
    intro p hp column hentered
    refine (filled_call c a.store p hp column).imp_right ?_
    rintro ⟨hnone, unit, hunit, hphone, howned, htruthy, hname, hlinked⟩
    obtain ⟨e, he, heunit, hephone, hename⟩ := hentered unit hunit hphone howned htruthy
    exact ⟨hnone, e, he, hname.trans hename, hephone, heunit ▸ hlinked⟩
  refine fun p hp => ⟨hcolumn p hp .firstName fun unit hunit hphone howned =>
      (ha unit hunit p.phone hphone howned).1,
    hcolumn p hp .lastName fun unit hunit hphone howned => (ha unit hunit p.phone hphone howned).2⟩

/-- A later state knows of more entries. -/
theorem EnteredWith.mono {a' : Invites} {unit unit' : BuildingUnit} {phone : String}
    {column : NameColumn} (h : a.EnteredWith unit phone column)
    (hentered : ∀ e ∈ a.entered, e ∈ a'.entered) (hid : unit'.id = unit.id)
    (hname : column.ofUnit unit' = column.ofUnit unit) : a'.EnteredWith unit' phone column := by
  intro htruthy
  rw [hname] at htruthy
  obtain ⟨e, he, heunit, hephone, hename⟩ := h htruthy
  exact ⟨e, hentered e he, heunit.trans hid.symm, hephone, hname.trans hename⟩

theorem AddressedTo.mono {a' : Invites} {unit unit' : BuildingUnit} {phone : String}
    (h : a.AddressedTo unit phone) (hentered : ∀ e ∈ a.entered, e ∈ a'.entered)
    (hid : unit'.id = unit.id) (hfirst : unit'.ownerFirstName = unit.ownerFirstName)
    (hlast : unit'.ownerLastName = unit.ownerLastName) : a'.AddressedTo unit' phone :=
  ⟨h.1.mono hentered hid hfirst, h.2.mono hentered hid hlast⟩

theorem mem_entered_step {c : InviteCall} {e : Entry} (he : e ∈ a.entered) :
    e ∈ (a.step c).entered := List.mem_append_left _ he

/-- Each unit of the new state was there, owned by nobody if it is so now, or its names were
entered with its phone. -/
theorem recorded_step_of_units (ha : a.Recorded) {c : InviteCall}
    (hunits : ∀ unit ∈ (c.call.exec a.store).units,
      (unit ∈ a.store.units ∧ ((c.call.exec a.store).hasCurrentOwnership unit.id = false →
        a.store.hasCurrentOwnership unit.id = false)) ∨
      ∀ phone ∈ unit.ownerPhone, (c.call.exec a.store).hasCurrentOwnership unit.id = false →
        (a.step c).AddressedTo unit phone) : (a.step c).Recorded := by
  intro unit hunit phone hphone howned
  rcases hunits unit hunit with ⟨hold, hwas⟩ | hnew
  · exact (ha unit hold phone hphone (hwas howned)).mono (fun _ => mem_entered_step) rfl rfl rfl
  · exact hnew phone hphone howned

theorem recorded_step_of_exec_eq (ha : a.Recorded) {c : InviteCall}
    (h : c.call.exec a.store = a.store) : (a.step c).Recorded :=
  recorded_step_of_units ha fun _ hunit => Or.inl ⟨h ▸ hunit, fun howned => h ▸ howned⟩

theorem recorded_step_of_linking (ha : a.Recorded) {c : InviteCall}
    (h : Linking a.store (c.call.exec a.store)) : (a.step c).Recorded := by
  refine recorded_step_of_units ha fun _ hunit => Or.inl ⟨h.units ▸ hunit, fun howned => ?_⟩
  rw [Store.hasCurrentOwnership_eq_false] at howned ⊢
  exact fun o ho => howned o (h.ownerships o ho)

/-- A call that rewrites one unit and no ownership. -/
theorem recorded_step_of_onUnits (ha : a.Recorded) {c : InviteCall} {unitId buildingId : ℕ}
    {unit : BuildingUnit} {g : BuildingUnit → BuildingUnit} {hg : ∀ u, (g u).id = u.id}
    (hunit : a.store.units.find? unitId = some unit) (hbelongs : unit.buildingId = buildingId)
    (hexec : c.call.exec a.store = a.store.onUnits (·.modify unitId g hg))
    (haddressed : ∀ u ∈ a.store.units, u.id = unitId → u.buildingId = buildingId →
      ∀ phone ∈ (g u).ownerPhone, a.store.hasCurrentOwnership u.id = false →
        (a.step c).AddressedTo (g u) phone) : (a.step c).Recorded := by
  refine recorded_step_of_units ha fun u hu => ?_
  rw [hexec] at hu ⊢
  obtain ⟨u₀, hu₀, rfl⟩ := (Table.mem_modify (h := hg)).mp hu
  by_cases hid : u₀.id = unitId
  · obtain ⟨hmem, hkey⟩ := Table.find?_eq_some_iff.mp hunit
    rw [if_pos hid, hg]
    refine Or.inr fun phone hphone howned => haddressed u₀ hu₀ hid ?_ phone hphone howned
    rw [Table.eq_of_key_eq hu₀ hmem (hid.trans hkey.symm), hbelongs]
  · rw [if_neg hid]
    exact Or.inl ⟨hu₀, fun howned => howned⟩

theorem recorded_step_invite (ha : a.Recorded) {c : InviteCall} {buildingId unitId : ℕ}
    {params : BuildingRepository.UpdateUnitParams} {now : Time}
    (hcall : c.call = getOwnUnit buildingId unitId >>= fun _ =>
      BuildingRepository.updateUnit unitId params >>= fun _ =>
        BuildingRepository.markOwnerInviteSent unitId now)
    (haddressed : (c.call.outcome a.store).isOk = true →
      ∀ u ∈ a.store.units, u.id = unitId → u.buildingId = buildingId →
        ∀ phone ∈ (params.apply u).ownerPhone, a.store.hasCurrentOwnership u.id = false →
          (a.step c).AddressedTo (params.apply u) phone) : (a.step c).Recorded := by
  rcases exec_invite buildingId unitId params now a.store hcall with
    ⟨-, hexec⟩ | ⟨unit, hunit, hbelongs, hok, hexec⟩
  · exact recorded_step_of_exec_eq ha hexec
  · refine recorded_step_of_onUnits ha hunit hbelongs hexec fun u hu hid hbuilding phone hphone
      howned => ?_
    exact (haddressed hok u hu hid hbuilding phone hphone howned).mono (fun _ he => he) rfl rfl rfl

/-- A call that keeps the address leaves only names that were entered with the phone. -/
theorem recorded_step (ha : a.Recorded) {c : InviteCall} (hc : a.KeepsAddress c) :
    (a.step c).Recorded := by
  cases c with
  | inviteOwner buildingId unitId dto now =>
    refine recorded_step_invite ha rfl fun _ u hu hid hbuilding phone hphone howned => ?_
    obtain rfl : dto.ownerPhone = phone := Option.some.inj hphone
    exact (hc (hid ▸ howned) u hu hid hbuilding).mono (fun _ => mem_entered_step) rfl rfl rfl
  | inviteOwnerV2 buildingId unitId dto now =>
    refine recorded_step_invite ha rfl fun hok u hu hid hbuilding phone hphone howned => ?_
    obtain rfl : dto.ownerPhone = phone := Option.some.inj hphone
    -- both names and the phone are those of the new entry
    have hentry : ⟨unitId, dto.ownerFirstName, dto.ownerLastName, dto.ownerPhone⟩ ∈
        (a.step (.inviteOwnerV2 buildingId unitId dto now)).entered := by
      refine List.mem_append_right _ ?_
      rw [if_pos hok]
      exact List.mem_singleton.mpr rfl
    exact ⟨fun _ => ⟨_, hentry, hid.symm, rfl, rfl⟩, fun _ => ⟨_, hentry, hid.symm, rfl, rfl⟩⟩
  | updateUnit buildingId unitId dto =>
    rcases exec_updateUnit buildingId unitId dto a.store with
      hexec | ⟨unit, hunit, hbelongs, hexec⟩
    · exact recorded_step_of_exec_eq ha hexec
    · refine recorded_step_of_onUnits ha hunit hbelongs hexec fun u hu hid hbuilding phone hphone
        howned => ?_
      have hold : a.AddressedTo u phone := by
        cases hgiven : dto.ownerPhone with
        | none =>
          refine ha u hu phone ?_ howned
          simpa [UpdateUnitDto.params, BuildingRepository.UpdateUnitParams.apply, hgiven] using hphone
        | some given =>
          refine hc (hid ▸ howned) phone ?_ u hu hid hbuilding
          simpa [UpdateUnitDto.params, BuildingRepository.UpdateUnitParams.apply, hgiven] using hphone
      exact hold.mono (fun _ => mem_entered_step) rfl rfl rfl
  | transferOwnership buildingId unitId newOwnerPhone actorPersonId now =>
    rcases exec_transferOwnership buildingId unitId newOwnerPhone actorPersonId now a.store with
      hexec | ⟨unit, hunit, hbelongs, howner, hexec⟩
    · exact recorded_step_of_exec_eq ha hexec
    · refine recorded_step_of_units ha fun u hu => ?_
      rw [InviteCall.call, hexec] at hu ⊢
      obtain ⟨u₀, hu₀, rfl⟩ := mem_units_handOver.mp hu
      by_cases hid : u₀.id = unitId
      · obtain ⟨hmem, hkey⟩ := Table.find?_eq_some_iff.mp hunit
        rw [if_pos hid]
        refine Or.inr fun phone hphone _ => ?_
        obtain rfl : newOwnerPhone = phone := Option.some.inj hphone
        refine (hc howner u₀ hu₀ hid ?_).mono (fun _ => mem_entered_step) rfl rfl rfl
        rw [Table.eq_of_key_eq hu₀ hmem (hid.trans hkey.symm), hbelongs]
      · rw [if_neg hid]
        refine Or.inl ⟨hu₀, fun howned => ?_⟩
        rw [Store.hasCurrentOwnership_eq_false] at howned ⊢
        intro o ho hof
        -- an ownership of another unit stays
        refine howned o (mem_ownerships_handOver.mpr ⟨o, ho, (if_neg fun h => ?_).symm⟩) hof
        exact hid (hof.1.symm.trans h.1)
  | claimOwnership buildingId unitId personId now =>
    exact recorded_step_of_linking ha (linking_claimOwnership buildingId unitId personId now _)
  | verifyOtp phone now => exact recorded_step_of_linking ha (linking_verifyOtp phone now _)

/-! ### Runs -/

/-- Along a run whose calls keep the address of every unit, each name that a link fills was
entered with the phone of that person. -/
theorem namesFollowPhone_of_keepsAddress (ha : a.Recorded) {cs : List InviteCall}
    (hcs : EachStep step KeepsAddress a cs) : EachStep step NamesFollowPhone a cs := by
  induction cs generalizing a with
  | nil => trivial
  | cons c cs ih =>
    exact ⟨namesFollowPhone_of_recorded ha c, ih (recorded_step ha hcs.1) hcs.2⟩

/-- A building with one unit, before any invite. -/
def newBuilding : Invites where
  store :=
    { Store.empty with
      buildings := Store.empty.buildings.create fun id =>
        { id, name := "Sepehr", addressLine := "Main street 1", postalCode := "1234567890",
          createdById := 0 }
      units := Store.empty.units.create fun id => { id, buildingId := 0, unitNumber := "1" } }
  entered := []

/-- An invited owner signs in; the next owner is invited by name, the unit is handed over to
that phone, and the next owner signs in. -/
theorem namesFollowPhone_of_keepsAddress_newBuilding :
    EachStep step NamesFollowPhone newBuilding
      [.inviteOwnerV2 0 0 ⟨"Sara", "Amini", "09120000001"⟩ 1, .verifyOtp "09120000001" 2,
        .inviteOwnerV2 0 0 ⟨"Reza", "Karimi", "09120000002"⟩ 3,
        .transferOwnership 0 0 "09120000002" 0 4, .verifyOtp "09120000002" 5] :=
  namesFollowPhone_of_keepsAddress (by decide) (by decide)

/-- The first version of the invite leaves the name of the former invite on the unit, and the
new owner gets it. -/
theorem reinvite_keeps_name :
    ¬ EachStep step NamesFollowPhone newBuilding
      [.inviteOwnerV2 0 0 ⟨"Sara", "Amini", "09120000001"⟩ 1,
        .inviteOwner 0 0 ⟨"Reza Karimi", "09120000002"⟩ 2, .verifyOtp "09120000002" 3] := by
  decide

end Invites

end VielHome.Building
