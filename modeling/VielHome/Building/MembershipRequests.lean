import VielHome.Building.Service
import VielHome.Relational.Run

/-!
# Resolving membership requests

`resolveMembershipRequest` never looks at the status of the request, and it commits the new
status before the guard of a `MANAGER` membership runs. So a request can be approved twice,
a decided one can be decided the other way, and an approval whose guard fails stays on
record without its membership. A request is resolved once exactly when every call is on a
request that is still pending, and approves the `MANAGER` role only while there is no
current manager; a call that repeats the outcome of the request without giving rise to
another membership does no harm either. And `noTrace_iff` says which calls that throw leave
nothing behind.
-/

namespace VielHome.Building

open Relational Community BuildingService
open Relational.ReadCommitted (Prog)

/-! ### What a resolution does -/

theorem setRequestStatus_id (status : MembershipRequestStatus) (r : MembershipRequest) :
    { r with status }.id = r.id := rfl

/-- `membershipRequest.update` of the status. -/
def setRequestStatus (requestId : ℕ) (status : MembershipRequestStatus) : Store → Store :=
  Store.onMembershipRequests
    (·.modify requestId (fun r => { r with status }) (setRequestStatus_id status))

/-- The membership an approved request gives rise to. -/
def admission (request : MembershipRequest) (now : Time) : Store → Store :=
  Store.onMemberships (·.create fun id =>
    { id, personId := request.personId, buildingId := request.buildingId, role := request.role,
      managerState := if request.role = .manager then some .provisional else none
      managerAssignmentType := if request.role = .manager then some .appointed else none
      startedAt := now })

/-- The guard of the membership refuses the approval. -/
def Refused (s : Store) (request : MembershipRequest) : Prop :=
  request.role = .manager ∧ (s.currentManager request.buildingId).isSome = true

instance (s : Store) (request : MembershipRequest) : Decidable (Refused s request) :=
  inferInstanceAs (Decidable (_ ∧ _))

/-- The rows a request refers to are there. -/
def RequestReferences (s : Store) : Prop :=
  ∀ r ∈ s.membershipRequests,
    (s.persons.find? r.personId).isSome = true ∧ (s.buildings.find? r.buildingId).isSome = true

variable {s : Store} {buildingId requestId : ℕ} {resolution : Resolution} {now : Time}
  {request : MembershipRequest}

theorem exec_resolve_of_find?_none (h : s.membershipRequests.find? requestId = none) :
    (resolveMembershipRequest buildingId requestId resolution now).exec s = s := by
  rw [resolveMembershipRequest, Prog.exec_query_bind, h]
  rfl

theorem exec_resolve_of_ne (h : s.membershipRequests.find? requestId = some request)
    (hne : request.buildingId ≠ buildingId) :
    (resolveMembershipRequest buildingId requestId resolution now).exec s = s := by
  rw [resolveMembershipRequest, Prog.exec_query_bind, h, Prog.exec_expect_bind]
  dsimp only
  rw [Prog.exec_require_bind, if_neg hne]

theorem exec_updateMembershipRequestStatus_bind {β : Type} {f : PUnit → Call β}
    {status : MembershipRequestStatus} (h : s.membershipRequests.find? requestId = some request) :
    (BuildingRepository.updateMembershipRequestStatus requestId status >>= f).exec s =
      (f ⟨⟩).exec (setRequestStatus requestId status s) := by
  rw [BuildingRepository.updateMembershipRequestStatus, Prog.exec_transaction_bind, Prog.solo_writeIf,
    if_pos (by rw [h]; rfl)]
  rfl

theorem exec_createMembership (hpresent : (s.persons.find? request.personId).isSome = true ∧
      (s.buildings.find? request.buildingId).isSome = true) :
    (BuildingRepository.createMembership request.personId request.buildingId request.role now).exec s =
      admission request now s := by
  rw [BuildingRepository.createMembership, Prog.exec_transaction, insertMembership,
    Prog.solo_writeUnless, unlessReferences, if_pos (by rw [hpresent.1, hpresent.2]; rfl)]
  rfl

theorem exec_guardManagerRole_bind {β : Type} {f : PUnit → Call β} :
    (guardManagerRole request.buildingId request.role >>= f).exec s =
      if Refused s request then s else (f ⟨⟩).exec s := by
  rw [guardManagerRole, Prog.ite_bind, Prog.exec_ite]
  by_cases hrole : request.role = .manager
  · rw [if_pos hrole, Prog.bind_assoc, Prog.exec_queryUnder_bind]
    cases hcurrent : s.currentManager request.buildingId with
    | none =>
      rw [if_neg (by simp [Refused, hcurrent])]
      rfl
    | some m =>
      rw [if_pos ⟨hrole, by rw [hcurrent]; rfl⟩]
      rfl
  · rw [if_neg hrole, if_neg fun h => hrole h.1]
    rfl

/-- The status is written in any case; the membership is added when the guard allows it. -/
theorem exec_resolve (resolution : Resolution) (now : Time) (hrefs : RequestReferences s)
    (h : s.membershipRequests.find? requestId = some request) :
    (resolveMembershipRequest request.buildingId requestId resolution now).exec s =
      if resolution = .approved ∧ ¬ Refused s request then
        admission request now (setRequestStatus requestId resolution.status s)
      else setRequestStatus requestId resolution.status s := by
  rw [resolveMembershipRequest, Prog.exec_query_bind, h, Prog.exec_expect_bind]
  dsimp only
  rw [Prog.exec_require_bind, if_pos rfl, exec_updateMembershipRequestStatus_bind h, Prog.exec_ite]
  by_cases happroved : resolution = .approved
  · have hpresent := hrefs _ (Table.mem_of_find? h)
    rw [if_pos happroved, exec_guardManagerRole_bind,
      exec_createMembership (s := setRequestStatus requestId resolution.status s) hpresent]
    by_cases hrefused : Refused s request
    · rw [if_pos (show Refused (setRequestStatus _ _ s) request from hrefused),
        if_neg fun h => h.2 hrefused]
    · rw [if_neg (show ¬ Refused (setRequestStatus _ _ s) request from hrefused),
        if_pos ⟨happroved, hrefused⟩]
  · rw [if_neg happroved, if_neg fun h => happroved h.1]
    rfl

/-- A new request is added, or nothing happens. -/
theorem exec_requestMembership (s : Store) (buildingId personId : ℕ) (role : RequestableRole)
    (message : Option String) :
    (requestMembership buildingId personId role message).exec s = s ∨
      (s.persons.find? personId).isSome = true ∧ (s.buildings.find? buildingId).isSome = true ∧
        (requestMembership buildingId personId role message).exec s =
          Store.onMembershipRequests (·.create fun id =>
            { id, buildingId, personId, role := role.role, message }) s := by
  rw [requestMembership, getById, Prog.bind_assoc, Prog.exec_query_bind]
  cases hbuilding : findById buildingId s with
  | none => exact Or.inl rfl
  | some detail =>
    rw [Prog.exec_expect_bind]
    dsimp only
    rw [BuildingRepository.createMembershipRequest, Prog.exec_transaction, Prog.solo_writeUnless,
      unlessReferences]
    by_cases hpresent :
        ((s.persons.find? personId).isSome && (s.buildings.find? buildingId).isSome) = true
    · rw [if_pos hpresent]
      rw [Bool.and_eq_true] at hpresent
      exact Or.inr ⟨hpresent.1, hpresent.2, rfl⟩
    · rw [if_neg hpresent]
      exact Or.inl rfl

/-! ### The run -/

/-- A call about membership requests. -/
inductive RequestCall
  | request (buildingId personId : ℕ) (role : RequestableRole) (message : Option String)
  | resolve (buildingId requestId : ℕ) (resolution : Resolution) (now : Time)

/-- The method that the call is made to. -/
def RequestCall.call : RequestCall → Call PUnit
  | .request buildingId personId role message => requestMembership buildingId personId role message
  | .resolve buildingId requestId resolution now =>
    resolveMembershipRequest buildingId requestId resolution now

/-- The request that the memberships of a call come from. -/
def RequestCall.requestId? : RequestCall → Option ℕ
  | .request .. => none
  | .resolve _ requestId _ _ => some requestId

/-- The store, and which request gave rise to which membership: nothing in the store says so. -/
structure Admissions where
  store : Store
  given : List (ℕ × ℕ)

namespace Admissions

/-- The memberships that the request gave rise to. -/
def of (a : Admissions) (requestId : ℕ) : List Membership :=
  a.store.memberships.rows.filter fun m => (requestId, m.id) ∈ a.given

/-- One call; the memberships it creates come from its request. -/
def step (a : Admissions) (c : RequestCall) : Admissions where
  store := c.call.exec a.store
  given := a.given ++ c.requestId?.toList.flatMap fun requestId =>
    (List.range' a.store.memberships.next
      ((c.call.exec a.store).memberships.next - a.store.memberships.next)).map (requestId, ·)

/-- Each request has given rise to at most one membership, and to one exactly when it is
approved. -/
def Consistent (a : Admissions) : Prop :=
  ∀ r ∈ a.store.membershipRequests,
    (a.of r.id).length ≤ 1 ∧ (a.of r.id ≠ [] ↔ r.status = .approved)

instance (a : Admissions) : Decidable a.Consistent :=
  inferInstanceAs (Decidable (∀ r ∈ a.store.membershipRequests, _))

/-- A decided request keeps its status. -/
def KeepsDecided (a a' : Admissions) : Prop :=
  ∀ r ∈ a.store.membershipRequests, r.status ≠ .pending →
    (a'.store.membershipRequests.find? r.id).map MembershipRequest.status = some r.status

instance (a a' : Admissions) : Decidable (a.KeepsDecided a') :=
  inferInstanceAs (Decidable (∀ r ∈ a.store.membershipRequests, _))

/-- Every request is resolved at most once along the run. -/
def ResolvedOnce : Admissions → List RequestCall → Prop
  | a, [] => a.Consistent
  | a, c :: cs => a.Consistent ∧ a.KeepsDecided (a.step c) ∧ (a.step c).ResolvedOnce cs

instance ResolvedOnce.decidable : (a : Admissions) → (cs : List RequestCall) →
    Decidable (a.ResolvedOnce cs)
  | a, [] => inferInstanceAs (Decidable a.Consistent)
  | a, c :: cs =>
    have := ResolvedOnce.decidable (a.step c) cs
    inferInstanceAs (Decidable (_ ∧ _ ∧ _))

/-- The call is on a pending request and its guard does not refuse the approval, or it
repeats the outcome of the request and gives rise to no membership. -/
def Resolvable (a : Admissions) : RequestCall → Prop
  | .request .. => True
  | .resolve buildingId requestId resolution _ =>
    ∀ r ∈ a.store.membershipRequests, r.id = requestId → r.buildingId = buildingId →
      (r.status = .pending ∧ ¬(resolution = .approved ∧ Refused a.store r)) ∨
      (r.status = resolution.status ∧ (resolution = .approved → Refused a.store r))

/-- What the database and the history say of every state of a run: references are kept, and
the history names memberships that were created. -/
structure Recorded (a : Admissions) : Prop where
  references : RequestReferences a.store
  given : ∀ g ∈ a.given,
    g.1 < a.store.membershipRequests.next ∧ g.2 < a.store.memberships.next

variable {a : Admissions} {c : RequestCall}

/-! ### What a call does to the run -/

/-- A call without a membership adds nothing to the history. -/
theorem step_eq_of_next (h : (c.call.exec a.store).memberships.next = a.store.memberships.next) :
    a.step c = ⟨c.call.exec a.store, a.given⟩ := by
  simp [step, h]

theorem step_eq_self (h : c.call.exec a.store = a.store) : a.step c = a := by
  rw [step_eq_of_next (by rw [h]), h]

/-- What a call can do. -/
inductive Outcome (a : Admissions) : RequestCall → Admissions → Prop
  | notRequested {buildingId personId : ℕ} {role : RequestableRole} {message : Option String} :
      Outcome a (.request buildingId personId role message) a
  | requested {buildingId personId : ℕ} {role : RequestableRole} {message : Option String}
      (hperson : (a.store.persons.find? personId).isSome = true)
      (hbuilding : (a.store.buildings.find? buildingId).isSome = true) :
      Outcome a (.request buildingId personId role message)
        ⟨Store.onMembershipRequests (·.create fun id =>
          { id, buildingId, personId, role := role.role, message }) a.store, a.given⟩
  | notFound {buildingId requestId : ℕ} {resolution : Resolution} {now : Time}
      (h : ∀ r ∈ a.store.membershipRequests, r.id = requestId → r.buildingId ≠ buildingId) :
      Outcome a (.resolve buildingId requestId resolution now) a
  | decided {r : MembershipRequest} {resolution : Resolution} {now : Time}
      (hr : r ∈ a.store.membershipRequests) (h : resolution = .approved → Refused a.store r) :
      Outcome a (.resolve r.buildingId r.id resolution now)
        ⟨setRequestStatus r.id resolution.status a.store, a.given⟩
  | admitted {r : MembershipRequest} {now : Time} (hr : r ∈ a.store.membershipRequests)
      (h : ¬ Refused a.store r) :
      Outcome a (.resolve r.buildingId r.id .approved now)
        ⟨admission r now (setRequestStatus r.id .approved a.store),
          a.given ++ [(r.id, a.store.memberships.next)]⟩

theorem outcome_resolve (ha : a.Recorded) {r : MembershipRequest}
    (hr : r ∈ a.store.membershipRequests) :
    Outcome a (.resolve r.buildingId r.id resolution now)
      (a.step (.resolve r.buildingId r.id resolution now)) := by
  have hexec := exec_resolve resolution now ha.references
    (Table.find?_of_mem hr)
  by_cases h : resolution = .approved ∧ ¬ Refused a.store r
  · obtain ⟨rfl, hallowed⟩ := h
    rw [if_pos ⟨rfl, hallowed⟩] at hexec
    have hstep : a.step (.resolve r.buildingId r.id .approved now) =
        ⟨admission r now (setRequestStatus r.id .approved a.store),
          a.given ++ [(r.id, a.store.memberships.next)]⟩ := by
      have hnext : (admission r now (setRequestStatus r.id .approved a.store)).memberships.next =
          a.store.memberships.next + 1 := rfl
      rw [step, RequestCall.call, hexec]
      change Admissions.mk (admission r now (setRequestStatus r.id .approved a.store)) _ = _
      rw [Resolution.status, hnext]
      simp [RequestCall.requestId?]
    rw [hstep]
    exact .admitted hr hallowed
  · rw [if_neg h] at hexec
    rw [step_eq_of_next (c := .resolve r.buildingId r.id resolution now)
      (by rw [RequestCall.call, hexec]; rfl), RequestCall.call, hexec]
    exact .decided hr fun happroved => not_not.mp fun hrefused => h ⟨happroved, hrefused⟩

theorem outcome_step (ha : a.Recorded) (c : RequestCall) : Outcome a c (a.step c) := by
  cases c with
  | request buildingId personId role message =>
    rcases exec_requestMembership a.store buildingId personId role message with
      hexec | ⟨hperson, hbuilding, hexec⟩
    · rw [step_eq_self (c := .request buildingId personId role message) hexec]
      exact .notRequested
    · rw [step_eq_of_next (c := .request buildingId personId role message)
        (by rw [RequestCall.call, hexec]; rfl), RequestCall.call, hexec]
      exact .requested hperson hbuilding
  | resolve buildingId requestId resolution now =>
    cases hr : a.store.membershipRequests.find? requestId with
    | none =>
      rw [step_eq_self (c := .resolve buildingId requestId resolution now)
        (exec_resolve_of_find?_none hr)]
      exact .notFound fun r hmem hid => absurd hid (Table.find?_eq_none_iff.mp hr r hmem)
    | some r =>
      obtain ⟨hmem, rfl⟩ := Table.find?_eq_some_iff.mp hr
      by_cases hbuilding : r.buildingId = buildingId
      · subst hbuilding
        exact outcome_resolve ha hmem
      · rw [step_eq_self (c := .resolve buildingId r.id resolution now)
          (exec_resolve_of_ne hr hbuilding)]
        exact .notFound fun r' hmem' hid => Table.eq_of_key_eq hmem' hmem hid ▸ hbuilding

/-- The membership that a request is admitted with is one more of that request. -/
theorem of_admission (ha : a.Recorded) (request : MembershipRequest) (now : Time) (id : ℕ)
    (status : MembershipRequestStatus) (r : ℕ) :
    ((Admissions.mk (admission request now (setRequestStatus id status a.store))
        (a.given ++ [(request.id, a.store.memberships.next)])).of r).length =
      (a.of r).length + if r = request.id then 1 else 0 := by
  have hold : ∀ m ∈ a.store.memberships.rows,
      decide ((r, m.id) ∈ a.given ++ [(request.id, a.store.memberships.next)]) =
        decide ((r, m.id) ∈ a.given) := by
    intro m hm
    have hlt : m.id ≠ a.store.memberships.next := (a.store.memberships.lt_next m hm).ne
    simp [hlt]
  have hnew : ((r, a.store.memberships.next) ∈
      a.given ++ [(request.id, a.store.memberships.next)]) ↔ r = request.id := by
    have hfresh : (r, a.store.memberships.next) ∉ a.given :=
      fun hg => absurd (ha.given _ hg).2 (lt_irrefl _)
    simp [hfresh]
  have hrows : (admission request now (setRequestStatus id status a.store)).memberships.rows =
      a.store.memberships.rows ++ [⟨a.store.memberships.next, request.personId,
        request.buildingId, none, request.role,
        if request.role = .manager then some .provisional else none,
        if request.role = .manager then some .appointed else none, none, now, none, true⟩] := rfl
  rw [of, of, hrows, List.filter_append, List.length_append, List.filter_congr hold]
  congr 1
  by_cases hr : r = request.id
  · rw [if_pos hr, List.filter_cons_of_pos (by simpa using hnew.mpr hr)]
    rfl
  · rw [if_neg hr, List.filter_cons_of_neg (by simpa using fun h => hr (hnew.mp h))]
    rfl

/-! ### One call -/

theorem find?_setRequestStatus {id : ℕ} {status : MembershipRequestStatus} {s : Store} (k : ℕ) :
    (setRequestStatus id status s).membershipRequests.find? k =
      if k = id then (s.membershipRequests.find? k).map fun r => { r with status }
      else s.membershipRequests.find? k :=
  Table.find?_modify (f := fun r : MembershipRequest => { r with status }) (h := fun _ => rfl)

/-- A request after a change of status: the same request, or the one that was decided. -/
theorem mem_setRequestStatus {id : ℕ} {status : MembershipRequestStatus} {s : Store}
    {r : MembershipRequest} (hr : r ∈ (setRequestStatus id status s).membershipRequests) :
    ∃ r₀ ∈ s.membershipRequests, r = if r₀.id = id then { r₀ with status } else r₀ := by
  obtain ⟨r₀, hr₀, h⟩ := (Table.mem_modify (f := fun r : MembershipRequest => { r with status })
    (h := fun _ => rfl)).mp hr
  exact ⟨r₀, hr₀, h.symm⟩

theorem references_setRequestStatus {id : ℕ} {status : MembershipRequestStatus} {s : Store}
    (h : RequestReferences s) : RequestReferences (setRequestStatus id status s) := by
  intro r hr
  obtain ⟨r₀, hr₀, rfl⟩ := mem_setRequestStatus hr
  have hrefs := h r₀ hr₀
  split <;> exact hrefs

theorem recorded_step (ha : a.Recorded) (c : RequestCall) : (a.step c).Recorded := by
  have houtcome := outcome_step ha c
  generalize a.step c = a' at houtcome
  cases houtcome with
  | notRequested => exact ha
  | notFound _ => exact ha
  | requested hperson hbuilding =>
    refine ⟨fun r hr => ?_, fun g hg => ?_⟩
    · rcases Table.mem_create.mp hr with hr | rfl
      · exact ha.references r hr
      · exact ⟨hperson, hbuilding⟩
    · exact ⟨Nat.lt_succ_of_lt (ha.given g hg).1, (ha.given g hg).2⟩
  | decided _ _ => exact ⟨references_setRequestStatus ha.references, ha.given⟩
  | admitted hr _ =>
    refine ⟨references_setRequestStatus ha.references, fun g hg => ?_⟩
    rcases List.mem_append.mp hg with hg | hg
    · exact ⟨(ha.given g hg).1, Nat.lt_succ_of_lt (ha.given g hg).2⟩
    · rw [List.mem_singleton.mp hg]
      exact ⟨a.store.membershipRequests.lt_next _ hr, Nat.lt_succ_self _⟩

/-- A change of status keeps what was decided exactly when it changes no decided status. -/
theorem keepsDecided_setRequestStatus {r : MembershipRequest} {status : MembershipRequestStatus}
    {given : List (ℕ × ℕ)} {s : Store} (hr : r ∈ a.store.membershipRequests)
    (hs : s.membershipRequests = (setRequestStatus r.id status a.store).membershipRequests) :
    a.KeepsDecided ⟨s, given⟩ ↔ r.status = .pending ∨ r.status = status := by
  have hstatus : ∀ r' ∈ a.store.membershipRequests,
      (s.membershipRequests.find? r'.id).map MembershipRequest.status =
        some (if r'.id = r.id then status else r'.status) := by
    intro r' hr'
    rw [hs, find?_setRequestStatus, Table.find?_of_mem hr']
    split <;> rfl
  constructor
  · intro h
    by_cases hpending : r.status = .pending
    · exact Or.inl hpending
    · have hkept := h r hr hpending
      rw [hstatus r hr, if_pos rfl, Option.some.injEq] at hkept
      exact Or.inr hkept.symm
  · intro h r' hr' hdecided
    rw [hstatus r' hr']
    split
    case isTrue hid =>
      obtain rfl := Table.eq_of_key_eq hr' hr hid
      rw [h.resolve_left hdecided]
    case isFalse => rfl

/-- A change of one status is consistent when that request has the memberships of its new
status. -/
theorem consistent_setRequestStatus (hconsistent : a.Consistent) {r : MembershipRequest}
    {status : MembershipRequestStatus} (hr : r ∈ a.store.membershipRequests) :
    (Admissions.mk (setRequestStatus r.id status a.store) a.given).Consistent ↔
      (a.of r.id ≠ [] ↔ status = .approved) := by
  constructor
  · intro h
    have hmem : { r with status } ∈ (setRequestStatus r.id status a.store).membershipRequests := by
      refine (Table.mem_modify (f := fun r : MembershipRequest => { r with status }) (h := fun _ => rfl)).mpr
        ⟨r, hr, if_pos rfl⟩
    exact (h _ hmem).2
  · intro h r' hr'
    obtain ⟨r₀, hr₀, rfl⟩ := mem_setRequestStatus hr'
    split
    case isTrue hid =>
      obtain rfl := Table.eq_of_key_eq hr₀ hr hid
      exact ⟨(hconsistent r₀ hr₀).1, h⟩
    case isFalse => exact hconsistent r₀ hr₀

/-- With its membership added, an approved request is consistent when it had none before. -/
theorem consistent_admission (ha : a.Recorded) (hconsistent : a.Consistent) {r : MembershipRequest}
    (hr : r ∈ a.store.membershipRequests) :
    (Admissions.mk (admission r now (setRequestStatus r.id .approved a.store))
      (a.given ++ [(r.id, a.store.memberships.next)])).Consistent ↔ r.status ≠ .approved := by
  have hlength := of_admission ha r now r.id .approved
  rw [Ne, ← (hconsistent r hr).2, not_not]
  constructor
  · intro h
    have hmem : { r with status := .approved } ∈
        (admission r now (setRequestStatus r.id .approved a.store)).membershipRequests :=
      (Table.mem_modify (f := fun r : MembershipRequest => { r with status := .approved })
        (h := fun _ => rfl)).mpr ⟨r, hr, if_pos rfl⟩
    have hcount := (hlength r.id).symm.trans_le (h _ hmem).1
    rw [if_pos rfl] at hcount
    exact List.eq_nil_of_length_eq_zero (by omega)
  · intro h r' hr'
    obtain ⟨r₀, hr₀, rfl⟩ := mem_setRequestStatus hr'
    split
    case isTrue hid =>
      obtain rfl := Table.eq_of_key_eq hr₀ hr hid
      have hone := hlength r₀.id
      rw [h, if_pos rfl] at hone
      refine ⟨hone.le, iff_of_true (fun hnil => ?_) rfl⟩
      rw [hnil] at hone
      exact absurd hone (by simp)
    case isFalse hid =>
      have hsame := hlength r₀.id
      rw [if_neg hid, Nat.add_zero] at hsame
      refine ⟨hsame.le.trans (hconsistent r₀ hr₀).1, ?_⟩
      rw [← (hconsistent r₀ hr₀).2, ← List.length_pos_iff, ← List.length_pos_iff, hsame]

theorem resolvable_resolve_iff {r : MembershipRequest} (hr : r ∈ a.store.membershipRequests) :
    a.Resolvable (.resolve r.buildingId r.id resolution now) ↔
      (r.status = .pending ∧ ¬(resolution = .approved ∧ Refused a.store r)) ∨
      (r.status = resolution.status ∧ (resolution = .approved → Refused a.store r)) := by
  refine ⟨fun h => h r hr rfl rfl, fun h r' hr' hid _ => ?_⟩
  rwa [Table.eq_of_key_eq hr' hr hid]

theorem consistent_of_resolvedOnce {cs : List RequestCall} (h : a.ResolvedOnce cs) :
    a.Consistent := by
  cases cs with
  | nil => exact h
  | cons c cs => exact h.1

theorem keepsDecided_refl {given : List (ℕ × ℕ)} {s : Store}
    (hs : ∀ r ∈ a.store.membershipRequests, s.membershipRequests.find? r.id = some r) :
    a.KeepsDecided ⟨s, given⟩ := fun r hr _ => by rw [hs r hr]; rfl

/-- A call keeps the requests resolved once exactly when it meets the condition. -/
theorem consistent_step_iff (ha : a.Recorded) (hconsistent : a.Consistent) (c : RequestCall) :
    (a.step c).Consistent ∧ a.KeepsDecided (a.step c) ↔ a.Resolvable c := by
  have houtcome := outcome_step ha c
  generalize a.step c = a' at houtcome
  cases houtcome with
  | notRequested =>
    exact ⟨fun _ => trivial, fun _ =>
      ⟨hconsistent, keepsDecided_refl fun r hr => Table.find?_of_mem hr⟩⟩
  | notFound h =>
    exact ⟨fun _ r hr hid hbuilding => absurd hbuilding (h r hr hid), fun _ =>
      ⟨hconsistent, keepsDecided_refl fun r hr => Table.find?_of_mem hr⟩⟩
  | requested hperson hbuilding =>
    refine ⟨fun _ => trivial, fun _ => ⟨fun r hr => ?_, keepsDecided_refl fun r hr => ?_⟩⟩
    · rcases Table.mem_create.mp hr with hr | rfl
      · exact hconsistent r hr
      · -- the history names no request that is still to come
        have hnone : a.of a.store.membershipRequests.next = [] := by
          refine List.filter_eq_nil_iff.mpr fun m _ hg => ?_
          exact absurd (ha.given _ (of_decide_eq_true hg)).1 (lt_irrefl _)
        change (a.of a.store.membershipRequests.next).length ≤ 1 ∧
          (a.of a.store.membershipRequests.next ≠ [] ↔ MembershipRequestStatus.pending = .approved)
        rw [hnone]
        simp
    · exact Table.find?_create_of_find? (Table.find?_of_mem hr)
  | @decided r resolution now hr h =>
    rw [keepsDecided_setRequestStatus hr rfl, consistent_setRequestStatus hconsistent hr,
      (hconsistent r hr).2, resolvable_resolve_iff hr]
    cases resolution with
    | approved => cases hstatus : r.status <;> simp [Resolution.status, h rfl]
    | rejected => cases hstatus : r.status <;> simp [Resolution.status]
  | @admitted r now hr h =>
    have hkept : a.KeepsDecided ⟨admission r now (setRequestStatus r.id .approved a.store),
        a.given ++ [(r.id, a.store.memberships.next)]⟩ ↔ r.status = .pending ∨ r.status = .approved :=
      keepsDecided_setRequestStatus hr rfl
    rw [hkept, consistent_admission ha hconsistent hr, resolvable_resolve_iff hr]
    cases hstatus : r.status <;> simp [Resolution.status, h]

/-- Every request is resolved at most once along a run exactly when each call of the run is on
a pending request and its guard does not refuse the approval, or repeats the outcome of the
request and gives rise to no membership. -/
theorem resolvedOnce_iff_resolvable (ha : a.Recorded) (hconsistent : a.Consistent)
    (cs : List RequestCall) : a.ResolvedOnce cs ↔ EachStep step Resolvable a cs := by
  induction cs generalizing a with
  | nil => exact iff_of_true hconsistent trivial
  | cons c cs ih =>
    have hstep := consistent_step_iff ha hconsistent c
    have hrun : a.ResolvedOnce (c :: cs) ↔
        a.Consistent ∧ a.KeepsDecided (a.step c) ∧ (a.step c).ResolvedOnce cs := Iff.rfl
    rw [hrun, EachStep]
    constructor
    · rintro ⟨-, hkept, hrest⟩
      have hnext := consistent_of_resolvedOnce hrest
      exact ⟨hstep.mp ⟨hnext, hkept⟩, (ih (recorded_step ha c) hnext).mp hrest⟩
    · rintro ⟨hresolvable, hrest⟩
      obtain ⟨hnext, hkept⟩ := hstep.mpr hresolvable
      exact ⟨hconsistent, hkept, (ih (recorded_step ha c) hnext).mpr hrest⟩

/-- A building, two people who live there, and two requests to join it. -/
def requests : Admissions where
  store :=
    { Store.empty with
      buildings := Store.empty.buildings.create fun id =>
        { id, name := "Sepehr", addressLine := "Main street 1", postalCode := "1234567890",
          createdById := 0 }
      persons := Store.empty.persons.createMany ["09120000001", "09120000002"] fun phone id =>
        { id, phone }
      membershipRequests :=
        Store.empty.membershipRequests.createMany [MembershipRole.owner, .manager] fun role id =>
          { id, buildingId := 0, personId := 1, role } }
  given := []

/-- Approving the first request and rejecting the second one. -/
theorem resolvedOnce_iff_resolvable_requests :
    requests.ResolvedOnce [.resolve 0 0 .approved 1, .resolve 0 1 .rejected 2] ↔
      EachStep step Resolvable requests [.resolve 0 0 .approved 1, .resolve 0 1 .rejected 2] :=
  resolvedOnce_iff_resolvable ⟨by unfold RequestReferences; decide, by decide⟩ (by decide) _

/-- Approving the same request twice adds a second membership. -/
theorem approve_twice :
    ¬ requests.ResolvedOnce [.resolve 0 0 .approved 1, .resolve 0 0 .approved 2] := by
  decide

end Admissions

/-! ### Calls that throw -/

/-- No request and no membership was touched. -/
def NoTrace (s s' : Store) : Prop :=
  s'.membershipRequests = s.membershipRequests ∧ s'.memberships = s.memberships

/-- The person and the building of a request are there. -/
def Present (s : Store) (request : MembershipRequest) : Prop :=
  (s.persons.find? request.personId).isSome = true ∧
    (s.buildings.find? request.buildingId).isSome = true

instance (s : Store) (request : MembershipRequest) : Decidable (Present s request) :=
  inferInstanceAs (Decidable (_ ∧ _))

theorem solo_guardManagerRole (request : MembershipRequest) (s : Store) :
    (Refused s request → ∃ e, (guardManagerRole request.buildingId request.role).solo s s =
        (.error e, s, s)) ∧
      (¬Refused s request →
        (guardManagerRole request.buildingId request.role).solo s s = (.ok ⟨⟩, s, s)) := by
  rw [guardManagerRole, Prog.solo_ite]
  by_cases hrole : request.role = .manager
  · rw [if_pos hrole, Prog.queryUnder_bind, Prog.solo_stmt, id]
    cases hcurrent : s.currentManager request.buildingId with
    | none =>
      refine ⟨fun h => ?_, fun _ => rfl⟩
      have hsome := h.2
      rw [hcurrent] at hsome
      cases hsome
    | some existing => exact ⟨fun _ => ⟨_, rfl⟩, fun h => absurd ⟨hrole, by rw [hcurrent]; rfl⟩ h⟩
  · rw [if_neg hrole]
    exact ⟨fun h => absurd h.1 hrole, fun _ => rfl⟩

theorem solo_createMembership (request : MembershipRequest) (now : Time) (s : Store) :
    (BuildingRepository.createMembership request.personId request.buildingId request.role now).solo
        s s =
      if Present s request then (.ok ⟨⟩, admission request now s, admission request now s)
      else (.error .foreignKey, s, s) := by
  rw [BuildingRepository.createMembership, Prog.solo_transaction, insertMembership,
    Prog.solo_writeUnless, unlessReferences]
  by_cases hpresent : Present s request
  · rw [if_pos hpresent, if_pos (by rw [hpresent.1, hpresent.2]; rfl)]
    rfl
  · rw [if_neg hpresent, if_neg fun h => hpresent (by simpa [Present] using h)]

/-- An approval ends in an error, or admits the person. -/
theorem solo_admit (request : MembershipRequest) (now : Time) (s : Store) :
    (Refused s request ∨ ¬Present s request → ∃ e,
      (guardManagerRole request.buildingId request.role >>= fun _ =>
        BuildingRepository.createMembership request.personId request.buildingId request.role
          now).solo s s = (.error e, s, s)) ∧
      (¬(Refused s request ∨ ¬Present s request) →
        ((guardManagerRole request.buildingId request.role >>= fun _ =>
          BuildingRepository.createMembership request.personId request.buildingId request.role
            now).solo s s).1 = .ok ⟨⟩) := by
  obtain ⟨hguard, hallowed⟩ := solo_guardManagerRole request s
  rw [Prog.solo_bind]
  constructor
  · intro hthrows
    by_cases hrefused : Refused s request
    · obtain ⟨e, he⟩ := hguard hrefused
      exact ⟨e, by rw [he]⟩
    · rw [hallowed hrefused]
      dsimp only
      rw [solo_createMembership, if_neg (hthrows.resolve_left hrefused)]
      exact ⟨_, rfl⟩
  · intro hgoes
    rw [not_or, not_not] at hgoes
    rw [hallowed hgoes.1]
    dsimp only
    rw [solo_createMembership, if_pos hgoes.2]

/-- The status of a request is written, and then its approval may fail. -/
theorem solo_resolve_bind {request : MembershipRequest}
    (h : s.membershipRequests.find? requestId = some request) (resolution : Resolution)
    (now : Time) :
    (resolveMembershipRequest request.buildingId requestId resolution now).solo s s =
      (if resolution = .approved then
        guardManagerRole request.buildingId request.role >>= fun _ =>
          BuildingRepository.createMembership request.personId request.buildingId request.role now
      else pure ⟨⟩ : Call PUnit).solo (setRequestStatus requestId resolution.status s)
        (setRequestStatus requestId resolution.status s) := by
  rw [resolveMembershipRequest, Prog.query_bind, Prog.solo_stmt, id, h, Prog.solo_expect_bind]
  dsimp only
  rw [Prog.require_bind, if_pos rfl, BuildingRepository.updateMembershipRequestStatus,
    Prog.solo_transaction_bind, Prog.solo_writeIf, if_pos (by rw [h]; rfl)]
  rfl

/-- Rewriting the status of a request leaves no trace exactly when it had this status. -/
theorem noTrace_setRequestStatus {request : MembershipRequest} {status : MembershipRequestStatus}
    (h : s.membershipRequests.find? requestId = some request) :
    NoTrace s (setRequestStatus requestId status s) ↔ request.status = status := by
  constructor
  · rintro ⟨hrequests, -⟩
    have hfind := congrArg (Table.find? · requestId) hrequests
    have hset := Table.find?_modify_self (f := fun r : MembershipRequest => { r with status })
      (h := fun _ => rfl) h
    have heq := hset.symm.trans (hfind.trans h)
    exact congrArg MembershipRequest.status (Option.some.inj heq).symm
  · rintro rfl
    refine ⟨Table.modify_eq_self
      (f := fun r : MembershipRequest => { r with status := request.status })
      (h := fun _ => rfl) fun r hr hid => ?_, rfl⟩
    have hfind : s.membershipRequests.find? requestId = some r := by
      rw [← hid]
      exact Table.find?_of_mem hr
    obtain rfl : request = r := Option.some.inj (h.symm.trans hfind)
    rfl

/-- A call that throws leaves requests and memberships as they were exactly when it does not throw
on an approval, after the status is written, of a request that was not approved before. -/
theorem noTrace_iff (s : Store) (buildingId requestId : ℕ) (resolution : Resolution) (now : Time) :
    ((∃ e, (resolveMembershipRequest buildingId requestId resolution now).outcome s = .error e) →
        NoTrace s ((resolveMembershipRequest buildingId requestId resolution now).exec s)) ↔
      (resolution = .approved → ∀ request, s.membershipRequests.find? requestId = some request →
        request.buildingId = buildingId → Refused s request ∨ ¬Present s request →
          request.status = .approved) := by
  cases hfound : s.membershipRequests.find? requestId with
  | none =>
    rw [exec_resolve_of_find?_none hfound]
    exact iff_of_true (fun _ => ⟨rfl, rfl⟩) fun _ request h => by cases h
  | some request =>
    by_cases hbuilding : request.buildingId = buildingId
    · subst hbuilding
      -- the status is written first, the membership is admitted after it
      have hsolo := solo_resolve_bind hfound resolution now
      cases resolution with
      | rejected =>
        have hok : (resolveMembershipRequest request.buildingId requestId .rejected now).outcome s =
            .ok ⟨⟩ := by
          rw [Prog.outcome, hsolo]
          rfl
        rw [hok]
        exact iff_of_true (fun ⟨e, he⟩ => by cases he) fun h => by cases h
      | approved =>
        rw [if_pos rfl] at hsolo
        obtain ⟨hthrows, hgoes⟩ := solo_admit request now (setRequestStatus requestId .approved s)
        rw [forall_prop_of_true rfl]
        simp only [Option.some.injEq, forall_eq', forall_prop_of_true]
        by_cases hends : Refused s request ∨ ¬Present s request
        · obtain ⟨e, he⟩ := hthrows hends
          rw [Prog.outcome, Prog.exec, hsolo, Resolution.status, he, forall_prop_of_true ⟨e, rfl⟩,
            forall_prop_of_true hends]
          exact noTrace_setRequestStatus hfound
        · have hok : (resolveMembershipRequest request.buildingId requestId .approved now).outcome s =
              .ok ⟨⟩ := by
            rw [Prog.outcome, hsolo]
            exact hgoes hends
          rw [hok]
          exact iff_of_true (fun ⟨e, he⟩ => by cases he) fun h => absurd h hends
    · rw [exec_resolve_of_ne hfound hbuilding]
      refine iff_of_true (fun _ => ⟨rfl, rfl⟩) fun _ request' h hbuilding' => ?_
      obtain rfl : request = request' := Option.some.inj h
      exact absurd hbuilding' hbuilding

/-- A building with a manager, and a request of another person to be one. -/
def managed : Store :=
  { Admissions.requests.store with
    memberships := Store.empty.memberships.create fun id =>
      { id, personId := 0, buildingId := 0, role := .manager, managerState := some .verified
        managerAssignmentType := some .appointed, startedAt := 0 } }

/-- The approval of the second manager throws, and the request is approved. -/
theorem not_noTrace_managed :
    (∃ e, (resolveMembershipRequest 0 1 .approved 1).outcome managed = .error e) ∧
      ¬NoTrace managed ((resolveMembershipRequest 0 1 .approved 1).exec managed) := by
  refine ⟨⟨_, rfl⟩, fun h => ?_⟩
  have hstatus := congrArg (fun t => (t.find? 1).map MembershipRequest.status) h.1
  revert hstatus
  decide +kernel

end VielHome.Building
