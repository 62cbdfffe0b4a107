import VielHome.Auth.Service
import Mathlib.Logic.Relation

/-!
# Chains of refresh tokens

A refresh replaces a token by a successor, so the tokens that descend from one login form a chain.
All but the last one of a chain are revoked (`Linear.unrevoked_unique`), whatever calls run side by
side. Whom staff suspends has no token left (`Ended`), as long as no login and no refresh of the
person is under way while the tokens are revoked.

Each kind of commit has one lemma: what it keeps, and which locks it may disturb (`Commits`).
-/

namespace VielHome.Auth

open Relational Community
open Relational.ReadCommitted (Discipline Free Mode)
open AuthRepository BackOfficeRepository

variable {s s' : Store} {ordered : Bool}

/-! ### The invariant -/

/-- The token was replaced by the successor. -/
def Rotated (s : Store) (tokenId successorId : ℕ) : Prop :=
  .rotated tokenId successorId ∈ s.history

/-- A token that has a successor is revoked, and the successor is of the same person and device.
The rows say the same as the history. -/
structure Linear (s : Store) : Prop where
  successor : ∀ id t n, s.refreshTokens.find? id = some t → t.replacedBy = some n →
    t.revokedAt ≠ none ∧ ∃ t', s.refreshTokens.find? n = some t' ∧ t'.personId = t.personId ∧
      t'.deviceId = t.deviceId
  rotated : ∀ a b, Rotated s a b ↔
    ∃ t, s.refreshTokens.find? a = some t ∧ t.replacedBy = some b

/-- The token descends from the other one. -/
def Descends (s : Store) : ℕ → ℕ → Prop := Relation.ReflTransGen (Rotated s)

theorem Linear.successor_unique (h : Linear s) {a b c : ℕ} (hb : Rotated s a b)
    (hc : Rotated s a c) : b = c := by
  obtain ⟨t, ht, htb⟩ := (h.rotated a b).mp hb
  obtain ⟨t', ht', htc⟩ := (h.rotated a c).mp hc
  obtain rfl : t = t' := Option.some.inj (ht.symm.trans ht')
  exact Option.some.inj (htb.symm.trans htc)

/-- The token is there, and has not been revoked. -/
def Unrevoked (s : Store) (id : ℕ) : Prop :=
  ∃ t, s.refreshTokens.find? id = some t ∧ t.revokedAt = none

/-- Nothing descends from a token that has not been revoked. -/
theorem Linear.eq_of_descends (h : Linear s) {a b : ℕ} (ha : Unrevoked s a)
    (hab : Descends s a b) : b = a := by
  rcases Relation.ReflTransGen.cases_head hab with hab | ⟨c, hac, -⟩
  · exact hab.symm
  · obtain ⟨t, ht, hlive⟩ := ha
    obtain ⟨t', ht', hreplaced⟩ := (h.rotated a c).mp hac
    obtain rfl : t = t' := Option.some.inj (ht.symm.trans ht')
    exact absurd hlive (h.successor a t c ht hreplaced).1

/-- Of the tokens that descend from one token at most one has not been revoked. -/
theorem Linear.unrevoked_unique (h : Linear s) {a b c : ℕ} (hb : Descends s a b)
    (hc : Descends s a c) (hbu : Unrevoked s b) (hcu : Unrevoked s c) : b = c := by
  have hunique : Relator.RightUnique (Rotated s) := fun _ _ _ => h.successor_unique
  -- one of the two descends from the other
  rcases Relation.ReflTransGen.total_of_right_unique hunique hb hc with hbc | hcb
  · exact (h.eq_of_descends hbu hbc).symm
  · exact h.eq_of_descends hcu hcb

/-- What holds of the committed tables. -/
structure Consistent (s : Store) : Prop where
  linear : Linear s
  phone : ∀ r ∈ s.persons, ∀ r' ∈ s.persons, r.phone = r'.phone → r = r'

/-! ### What a commit keeps -/

/-- A token keeps its person and device; once it is revoked it stays so, and gets no successor any
more. A person keeps the phone. -/
structure Keeps (s s' : Store) : Prop where
  token : ∀ id t, s.refreshTokens.find? id = some t → ∃ revokedAt replacedBy,
    s'.refreshTokens.find? id = some { t with revokedAt, replacedBy } ∧
      (t.revokedAt ≠ none → revokedAt ≠ none ∧ replacedBy = t.replacedBy)
  person : ∀ id r, s.persons.find? id = some r → ∃ isSuspended,
    s'.persons.find? id = some { r with isSuspended }

theorem keeps_token_of_eq (h : s'.refreshTokens = s.refreshTokens) (id : ℕ) (t : RefreshToken)
    (ht : s.refreshTokens.find? id = some t) : ∃ revokedAt replacedBy,
      s'.refreshTokens.find? id = some { t with revokedAt, replacedBy } ∧
        (t.revokedAt ≠ none → revokedAt ≠ none ∧ replacedBy = t.replacedBy) :=
  ⟨t.revokedAt, t.replacedBy, h ▸ ht, fun hrevoked => ⟨hrevoked, rfl⟩⟩

theorem keeps_person_of_eq (h : s'.persons = s.persons) (id : ℕ) (r : Person)
    (hr : s.persons.find? id = some r) :
    ∃ isSuspended, s'.persons.find? id = some { r with isSuspended } :=
  ⟨r.isSuspended, h ▸ hr⟩

/-- The person has the token, which has not been revoked. -/
def Live (personId : ℕ) (s : Store) (id : ℕ) : Prop :=
  ∃ t, s.refreshTokens.find? id = some t ∧ isLive personId t = true

/-- Somebody is suspended. -/
def Suspended (personId : ℕ) (s : Store) : Prop :=
  ∃ r, s.persons.find? personId = some r ∧ r.isSuspended = true

/-- If the person is suspended, no token of the person is left. -/
def Ended (personId : ℕ) (s : Store) : Prop := Suspended personId s → ∀ id, ¬ Live personId s id

theorem isLive_eq_true {personId : ℕ} {t : RefreshToken} :
    isLive personId t = true ↔ t.personId = personId ∧ t.revokedAt = none := by
  simp [isLive]

/-- Nobody with the phone is suspended. -/
def Unsuspended (phone : String) (s : Store) : Prop :=
  ∀ id r, s.persons.find? id = some r → r.phone = phone → r.isSuspended = false

/-- The person has the phone. -/
def HasPhone (personId : ℕ) (phone : String) (s : Store) : Prop :=
  ∃ r, s.persons.find? personId = some r ∧ r.phone = phone

/-- What a lock protects. -/
structure Protects (ordered : Bool) (l : Lock) (m : Mode) (s s' : Store) : Prop where
  token : ∀ id, l = .refreshToken id → ∀ t, s.refreshTokens.find? id = some t →
    s'.refreshTokens.find? id = some t
  phone : ∀ phone, l = .community (.phoneKey phone) → findPersonByPhone phone s = none →
    findPersonByPhone phone s' = none
  login : ∀ phone, l = .sessions phone → m = .shared → ordered = true → Unsuspended phone s →
    Unsuspended phone s'
  revocation : ∀ phone, l = .sessions phone → m = .exclusive → ordered = true → ∀ personId,
    HasPhone personId phone s → HasPhone personId phone s' ∧
      ∀ id, Live personId s' id → Live personId s id

namespace Protects

variable {l : Lock} {m : Mode}

theorem refl : Protects ordered l m s s :=
  ⟨fun _ _ _ ht => ht, fun _ _ hnone => hnone, fun _ _ _ _ h => h,
    fun _ _ _ _ _ h => ⟨h, fun _ hlive => hlive⟩⟩

theorem trans {s'' : Store} (h : Protects ordered l m s s') (h' : Protects ordered l m s' s'') :
    Protects ordered l m s s'' := by
  refine ⟨fun id hl t ht => h'.token id hl t (h.token id hl t ht),
    fun phone hl hnone => h'.phone phone hl (h.phone phone hl hnone),
    fun phone hl hm ho hfree => h'.login phone hl hm ho (h.login phone hl hm ho hfree),
    fun phone hl hm ho personId hphone => ?_⟩
  obtain ⟨hphone', hlive⟩ := h.revocation phone hl hm ho personId hphone
  obtain ⟨hphone'', hlive'⟩ := h'.revocation phone hl hm ho personId hphone'
  exact ⟨hphone'', fun id hid => hlive id (hlive' id hid)⟩

end Protects

/-- Who is suspended has no token left, if nobody who is suspended had one before. -/
def KeepsEnded (s s' : Store) : Prop := ∀ personId, Ended personId s → Ended personId s'

/-- Every commit keeps the chains. Where the sessions are `ordered`, it also keeps those ended
that a suspension has ended. -/
def sessions (ordered : Bool) : Discipline Store Lock where
  inv := Consistent
  commits s s' := Keeps s s' ∧ (ordered = true → KeepsEnded s s')
  kept
    | .community l => l.enforced
    | .guesses _ => false
    | .sessions _ => ordered
    | _ => true
  same := Protects ordered
  same_refl _ _ _ := .refl
  same_trans _ _ _ _ _ h h' := h.trans h'

/-- What a commit keeps, with the locks that it may disturb. -/
structure Commits (ordered : Bool) (disturbed : Lock → Mode → Prop) (s s' : Store) : Prop where
  consistent : Consistent s'
  keeps : Keeps s s'
  ended : ordered = true → KeepsEnded s s'
  same : ∀ l m, ¬ disturbed l m → Protects ordered l m s s'

/-- A commit that disturbs nothing but locks of the session. -/
theorem Commits.conclude {disturbed : Lock → Mode → Prop} (h : Commits ordered disturbed s s')
    {notes : List (Lock × Mode × Store)} {P : Prop}
    (hheld : ∀ l m, Free notes l m → ¬ disturbed l m) (hrest : P) :
    Consistent s' ∧ (sessions ordered).commits s s' ∧
      (∀ l m, Free notes l m → Protects ordered l m s s') ∧ P :=
  ⟨h.consistent, ⟨h.keeps, h.ended⟩, fun l m hl => h.same l m (hheld l m hl), hrest⟩

/-! ### Commits that leave tokens and people alone -/

/-- The rotations are those that were there before. -/
def SameRotations (s s' : Store) : Prop := ∀ a b, Rotated s' a b ↔ Rotated s a b

theorem sameRotations_record {h : Happening} (hne : ∀ a b, h ≠ .rotated a b) :
    SameRotations s (s.record h) := by
  intro a b
  simp [Rotated, Store.record, Ne.symm (hne a b)]

theorem commits_unchanged (hs : Consistent s) (hpersons : s'.persons = s.persons)
    (htokens : s'.refreshTokens = s.refreshTokens) (hrotations : SameRotations s s') :
    Commits ordered (fun _ _ => False) s s' := by
  have hlive : ∀ personId id, Live personId s' id ↔ Live personId s id := by
    simp [Live, htokens]
  refine ⟨⟨⟨?_, fun a b => ?_⟩, hpersons ▸ hs.phone⟩,
    ⟨keeps_token_of_eq htokens, keeps_person_of_eq hpersons⟩, fun _ personId hended => ?_,
    fun l m _ => ⟨fun _ _ t ht => htokens ▸ ht, fun phone _ hnone => ?_, ?_, ?_⟩⟩
  · rw [htokens]
    exact hs.linear.successor
  · rw [hrotations a b, htokens]
    exact hs.linear.rotated a b
  · intro hsuspended id hid
    rw [Suspended, hpersons] at hsuspended
    exact hended hsuspended id ((hlive personId id).mp hid)
  · rwa [findPersonByPhone, Building.AuthService.findPersonByPhone, hpersons]
  · intro phone _ _ _ hfree
    rwa [Unsuspended, hpersons]
  · intro phone _ _ _ personId hphone
    refine ⟨?_, fun id hid => (hlive personId id).mp hid⟩
    rwa [HasPhone, hpersons]

/-! ### A new person -/

theorem findPersonByPhone_eq_none {phone : String} :
    findPersonByPhone phone s = none ↔ ∀ r ∈ s.persons, r.phone ≠ phone := by
  simp [findPersonByPhone, Building.AuthService.findPersonByPhone, List.find?_eq_none,
    Table.mem_rows]

theorem hasPhone_of_findPersonByPhone {phone : String} {r : Person}
    (h : findPersonByPhone phone s = some r) :
    s.persons.find? r.id = some r ∧ r.phone = phone :=
  ⟨Table.find?_of_mem (List.mem_of_find?_eq_some h), by simpa using List.find?_some h⟩

theorem commits_newPerson {phone : String} (hs : Consistent s)
    (hfree : findPersonByPhone phone s = none)
    (hpersons : s'.persons = s.persons.create (fun id => { id, phone }) fun _ => rfl)
    (htokens : s'.refreshTokens = s.refreshTokens) (hhistory : s'.history = s.history) :
    Commits ordered (fun l _ => l = .community (.phoneKey phone)) s s' := by
  rw [findPersonByPhone_eq_none] at hfree
  have hmem : ∀ r, r ∈ s'.persons ↔ r ∈ s.persons ∨ r = { id := s.persons.next, phone } := by
    intro r
    rw [hpersons]
    exact Table.mem_create
  have hlive : ∀ personId id, Live personId s' id ↔ Live personId s id := by
    simp [Live, htokens]
  have hrow : ∀ id r, s'.persons.find? id = some r →
      s.persons.find? id = some r ∨ r.isSuspended = false ∧ r.phone = phone := by
    intro id r hr
    obtain rfl : r.id = id := Table.key_of_find? hr
    rcases (hmem r).mp (Table.mem_of_find? hr) with hr | rfl
    · exact Or.inl (Table.find?_of_mem hr)
    · exact Or.inr ⟨rfl, rfl⟩
  refine ⟨⟨⟨htokens ▸ hs.linear.successor, fun a b => ?_⟩, fun r hr r' hr' hphone => ?_⟩,
    ⟨keeps_token_of_eq htokens, fun id r hr => ?_⟩, fun _ personId hended => ?_,
    fun l m hl => ⟨fun _ _ t ht => htokens ▸ ht, fun phone' hphone' hnone => ?_, ?_, ?_⟩⟩
  · rw [Rotated, hhistory, htokens]
    exact hs.linear.rotated a b
  · rcases (hmem r).mp hr with hr | rfl <;> rcases (hmem r').mp hr' with hr' | rfl
    · exact hs.phone r hr r' hr' hphone
    · exact absurd hphone (hfree r hr)
    · exact absurd hphone.symm (hfree r' hr')
    · rfl
  · exact ⟨r.isSuspended, hpersons ▸ Table.find?_create_of_find? hr⟩
  · rintro ⟨r, hr, hsuspended⟩ id hid
    rcases hrow personId r hr with hr | ⟨hfalse, -⟩
    · exact hended ⟨r, hr, hsuspended⟩ id ((hlive personId id).mp hid)
    · exact absurd hsuspended (by simp [hfalse])
  · rw [findPersonByPhone_eq_none] at hnone ⊢
    intro r hr
    rcases (hmem r).mp hr with hr | rfl
    · exact hnone r hr
    · rintro rfl
      exact hl hphone'
  · intro phone' _ _ _ hunsuspended id r hr hphone
    rcases hrow id r hr with hr | ⟨hfalse, -⟩
    · exact hunsuspended id r hr hphone
    · exact hfalse
  · rintro phone' - - - personId ⟨r, hr, hphone⟩
    exact ⟨⟨r, hpersons ▸ Table.find?_create_of_find? hr, hphone⟩,
      fun id hid => (hlive personId id).mp hid⟩

/-! ### New tokens -/

/-- The person with the phone is not suspended. -/
theorem not_suspended_of_unsuspended {personId : ℕ} {phone : String}
    (hphone : HasPhone personId phone s) (hfree : Unsuspended phone s) : ¬ Suspended personId s := by
  rintro ⟨r, hr, hsuspended⟩
  obtain ⟨r', hr', hphone⟩ := hphone
  obtain rfl : r = r' := Option.some.inj (hr.symm.trans hr')
  exact absurd hsuspended (by simp [hfree personId r hr hphone])

/-- A token of a person who is not suspended ends nothing that was ended. -/
theorem keepsEnded_of_live {personId : ℕ} {phone : String} (hphone : HasPhone personId phone s)
    (hfree : Unsuspended phone s) (hpersons : s'.persons = s.persons)
    (hlive : ∀ p id, p ≠ personId → Live p s' id → Live p s id) : KeepsEnded s s' := by
  intro p hended hsuspended id hid
  rw [Suspended, hpersons] at hsuspended
  by_cases hp : p = personId
  · exact absurd (hp ▸ hsuspended) (not_suspended_of_unsuspended hphone hfree)
  · exact hended hsuspended id (hlive p id hp hid)

theorem commits_login {params : TokenParams} {phone : String} (hs : Consistent s)
    (hphone : HasPhone params.personId phone s) (hfree : ordered = true → Unsuspended phone s)
    (h : s' = (params.create s).record (.loggedIn s.refreshTokens.next)) :
    Commits ordered (fun l m => ordered = true ∧ l = .sessions phone ∧ m = .exclusive) s s' := by
  have hfind : ∀ k, s'.refreshTokens.find? k =
      if k = s.refreshTokens.next then some (params.row s.refreshTokens.next)
      else s.refreshTokens.find? k := by
    intro k
    rw [h]
    exact Table.find?_create (h := params.row_id)
  have hold : ∀ k t, s.refreshTokens.find? k = some t → s'.refreshTokens.find? k = some t := by
    intro k t ht
    rw [h]
    exact Table.find?_create_of_find? (h := params.row_id) ht
  have hpersons : s'.persons = s.persons := by rw [h]; rfl
  have hrotations : SameRotations s s' := by
    rw [h]
    exact sameRotations_record fun _ _ => by simp
  have hlive : ∀ p id, p ≠ params.personId → Live p s' id → Live p s id := by
    rintro p id hp ⟨t, ht, hlive⟩
    rw [hfind] at ht
    split at ht
    · obtain rfl := Option.some.inj ht
      exact absurd (isLive_eq_true.mp hlive).1 (Ne.symm hp)
    · exact ⟨t, ht, hlive⟩
  refine ⟨⟨⟨fun k t n ht hn => ?_, fun a b => ?_⟩, hpersons ▸ hs.phone⟩,
    ⟨fun k t ht => ⟨t.revokedAt, t.replacedBy, hold k t ht, fun hne => ⟨hne, rfl⟩⟩,
      keeps_person_of_eq hpersons⟩,
    fun ho => keepsEnded_of_live hphone (hfree ho) hpersons hlive,
    fun l m hl => ⟨fun id _ t ht => hold id t ht, fun phone' _ hnone => ?_, ?_, ?_⟩⟩
  · rw [hfind] at ht
    split at ht
    · obtain rfl := Option.some.inj ht
      cases hn
    · obtain ⟨hrevoked, t', ht', hsame⟩ := hs.linear.successor k t n ht hn
      exact ⟨hrevoked, t', hold n t' ht', hsame⟩
  · rw [hrotations a b, hs.linear.rotated a b]
    refine ⟨fun ⟨t, ht, hb⟩ => ⟨t, hold a t ht, hb⟩, fun ⟨t, ht, hb⟩ => ?_⟩
    rw [hfind] at ht
    split at ht
    · obtain rfl := Option.some.inj ht
      cases hb
    · exact ⟨t, ht, hb⟩
  · rwa [findPersonByPhone, Building.AuthService.findPersonByPhone, hpersons]
  · intro phone' _ _ _ hunsuspended
    rwa [Unsuspended, hpersons]
  · rintro phone' hphone' hm ho p ⟨r, hr, hrphone⟩
    refine ⟨⟨r, hpersons ▸ hr, hrphone⟩, fun id hid => hlive p id (fun hp => ?_) hid⟩
    -- the person of the new token has another phone
    subst hp
    obtain ⟨r', hr', hr'phone⟩ := hphone
    obtain rfl : r = r' := Option.some.inj (hr.symm.trans hr')
    exact hl ⟨ho, hphone'.trans (congrArg Lock.sessions (hrphone.symm.trans hr'phone)), hm⟩

/-! ### Successors -/

section Rotation

variable {params : RotateParams} {t : RefreshToken}

/-- The rotated token, the successor, and all the others. -/
theorem find?_succeed (ht : s.refreshTokens.find? params.id = some t)
    (h : s' = params.succeed (s.onRefreshTokens (·.modify params.id (tokenRevoked params.now)
      (tokenRevoked_id params.now)))) (k : ℕ) :
    s'.refreshTokens.find? k =
      if k = params.id then
        some { t with revokedAt := some params.now, replacedBy := some s.refreshTokens.next }
      else if k = s.refreshTokens.next then some (params.successor.row s.refreshTokens.next)
      else s.refreshTokens.find? k := by
  have hne : params.id ≠ s.refreshTokens.next := by
    intro heq
    rw [Table.find?_of_next_le heq.ge] at ht
    cases ht
  have htokens : s'.refreshTokens =
      ((s.refreshTokens.modify params.id (tokenRevoked params.now)
        (tokenRevoked_id params.now)).create params.successor.row params.successor.row_id).modify
          params.id
          (replaced s.refreshTokens.next) (replaced_id s.refreshTokens.next) := by
    rw [h]
    rfl
  rw [htokens, Table.find?_modify]
  split
  case isTrue hk =>
    subst hk
    have hrevoked := Table.find?_modify_self (f := tokenRevoked params.now)
      (h := tokenRevoked_id params.now) ht
    rw [Table.find?_create_of_find? hrevoked]
    rfl
  case isFalse hk =>
    rw [Table.find?_create, Table.find?_modify_ne hk]
    rfl

theorem find?_succeed_self (ht : s.refreshTokens.find? params.id = some t)
    (h : s' = params.succeed (s.onRefreshTokens (·.modify params.id (tokenRevoked params.now)
      (tokenRevoked_id params.now)))) :
    s'.refreshTokens.find? params.id =
      some { t with revokedAt := some params.now, replacedBy := some s.refreshTokens.next } := by
  rw [find?_succeed ht h, if_pos rfl]

/-- A token that is not the rotated one stays as it is. -/
theorem find?_succeed_of_find? (ht : s.refreshTokens.find? params.id = some t)
    (h : s' = params.succeed (s.onRefreshTokens (·.modify params.id (tokenRevoked params.now)
      (tokenRevoked_id params.now))))
    {k : ℕ} {t' : RefreshToken} (hk : k ≠ params.id)
    (ht' : s.refreshTokens.find? k = some t') : s'.refreshTokens.find? k = some t' := by
  have hnext : k ≠ s.refreshTokens.next := by
    rintro rfl
    rw [Table.find?_of_next_le le_rfl] at ht'
    cases ht'
  rw [find?_succeed ht h, if_neg hk, if_neg hnext, ht']

theorem find?_succeed_next (ht : s.refreshTokens.find? params.id = some t)
    (h : s' = params.succeed (s.onRefreshTokens (·.modify params.id (tokenRevoked params.now)
      (tokenRevoked_id params.now)))) :
    s'.refreshTokens.find? s.refreshTokens.next =
      some (params.successor.row s.refreshTokens.next) := by
  have hne : s.refreshTokens.next ≠ params.id := by
    intro heq
    rw [Table.find?_of_next_le heq.le] at ht
    cases ht
  rw [find?_succeed ht h, if_neg hne, if_pos rfl]

/-- Each token keeps its person and its device. -/
theorem exists_find?_succeed (ht : s.refreshTokens.find? params.id = some t)
    (h : s' = params.succeed (s.onRefreshTokens (·.modify params.id (tokenRevoked params.now)
      (tokenRevoked_id params.now))))
    {k : ℕ} {t' : RefreshToken} (ht' : s.refreshTokens.find? k = some t') :
    ∃ t'', s'.refreshTokens.find? k = some t'' ∧ t''.personId = t'.personId ∧
      t''.deviceId = t'.deviceId := by
  by_cases hk : k = params.id
  · subst hk
    obtain rfl : t = t' := Option.some.inj (ht.symm.trans ht')
    exact ⟨_, find?_succeed_self ht h, rfl, rfl⟩
  · exact ⟨t', find?_succeed_of_find? ht h hk ht', rfl, rfl⟩

/-- A token of another person is live afterwards only if it was so before. -/
theorem live_of_succeed (ht : s.refreshTokens.find? params.id = some t)
    (h : s' = params.succeed (s.onRefreshTokens (·.modify params.id (tokenRevoked params.now)
      (tokenRevoked_id params.now))))
    {p id : ℕ} (hp : p ≠ params.successor.personId) (hlive : Live p s' id) : Live p s id := by
  obtain ⟨t', ht', hlive⟩ := hlive
  obtain ⟨hperson, hunrevoked⟩ := isLive_eq_true.mp hlive
  rw [find?_succeed ht h] at ht'
  split at ht'
  · obtain rfl := Option.some.inj ht'
    cases hunrevoked
  · split at ht'
    · obtain rfl := Option.some.inj ht'
      exact absurd hperson (Ne.symm hp)
    · exact ⟨t', ht', hlive⟩

/-- An unrevoked token gets a successor of the same person and device: the chains stay chains. -/
theorem Linear.succeed (hs : Linear s) (ht : s.refreshTokens.find? params.id = some t)
    (hmatches : params.matches_ t = true)
    (h : s' = params.succeed (s.onRefreshTokens (·.modify params.id (tokenRevoked params.now)
      (tokenRevoked_id params.now)))) :
    Linear s' := by
  simp only [RotateParams.matches_, decide_eq_true_eq] at hmatches
  obtain ⟨hperson, hdevice, hunrevoked, -⟩ := hmatches
  refine ⟨fun k t' n ht' hn => ?_, fun a b => ?_⟩
  · rw [find?_succeed ht h] at ht'
    split at ht'
    · obtain rfl := Option.some.inj ht'
      obtain rfl := Option.some.inj hn
      exact ⟨Option.some_ne_none _, _, find?_succeed_next ht h, hperson.symm, hdevice.symm⟩
    · split at ht'
      · obtain rfl := Option.some.inj ht'
        cases hn
      · obtain ⟨hrevoked, t₁, ht₁, hsame⟩ := hs.successor k t' n ht' hn
        obtain ⟨t₂, ht₂, hperson₂, hdevice₂⟩ := exists_find?_succeed ht h ht₁
        exact ⟨hrevoked, t₂, ht₂, hperson₂.trans hsame.1, hdevice₂.trans hsame.2⟩
  · have hhistory : s'.history = s.history ++ [.rotated params.id s.refreshTokens.next] := by
      rw [h]
      rfl
    have hmem : Rotated s' a b ↔
        Rotated s a b ∨ a = params.id ∧ b = s.refreshTokens.next := by
      simp [Rotated, hhistory]
    rw [hmem, hs.rotated a b]
    refine ⟨?_, fun ⟨t', ht', hb⟩ => ?_⟩
    · rintro (⟨t', ht', hb⟩ | ⟨rfl, rfl⟩)
      · by_cases ha : a = params.id
        · -- the token had no successor before, since it was not revoked
          subst ha
          obtain rfl : t = t' := Option.some.inj (ht.symm.trans ht')
          exact absurd hunrevoked (hs.successor _ t b ht hb).1
        · exact ⟨t', find?_succeed_of_find? ht h ha ht', hb⟩
      · exact ⟨_, find?_succeed_self ht h, rfl⟩
    · rw [find?_succeed ht h] at ht'
      split at ht'
      case isTrue ha =>
        obtain rfl := Option.some.inj ht'
        exact Or.inr ⟨ha, (Option.some.inj hb).symm⟩
      case isFalse =>
        split at ht'
        · obtain rfl := Option.some.inj ht'
          cases hb
        · exact Or.inl ⟨t', ht', hb⟩

theorem commits_rotation {phone : String} (hs : Consistent s)
    (ht : s.refreshTokens.find? params.id = some t) (hmatches : params.matches_ t = true)
    (hphone : HasPhone params.successor.personId phone s)
    (hfree : ordered = true → Unsuspended phone s)
    (h : s' = params.succeed (s.onRefreshTokens (·.modify params.id (tokenRevoked params.now)
      (tokenRevoked_id params.now)))) :
    Commits ordered (fun l m => l = .refreshToken params.id ∨
      ordered = true ∧ l = .sessions phone ∧ m = .exclusive) s s' := by
  have hpersons : s'.persons = s.persons := by rw [h]; rfl
  have hunrevoked : t.revokedAt = none := by
    simp only [RotateParams.matches_, decide_eq_true_eq] at hmatches
    exact hmatches.2.2.1
  have hlive : ∀ p id, p ≠ params.successor.personId → Live p s' id → Live p s id :=
    fun _ _ hp => live_of_succeed ht h hp
  refine ⟨⟨hs.linear.succeed ht hmatches h, hpersons ▸ hs.phone⟩,
    ⟨fun k t' ht' => ?_, keeps_person_of_eq hpersons⟩,
    fun ho => keepsEnded_of_live hphone (hfree ho) hpersons hlive,
    fun l m hl => ⟨fun id hid t' ht' => ?_, fun phone' _ hnone => ?_, ?_, ?_⟩⟩
  · by_cases hk : k = params.id
    · subst hk
      obtain rfl : t = t' := Option.some.inj (ht.symm.trans ht')
      exact ⟨_, _, find?_succeed_self ht h, fun hne => absurd hunrevoked hne⟩
    · exact ⟨t'.revokedAt, t'.replacedBy, find?_succeed_of_find? ht h hk ht',
        fun hne => ⟨hne, rfl⟩⟩
  · refine find?_succeed_of_find? ht h (fun heq => hl (Or.inl ?_)) ht'
    rw [hid, heq]
  · rwa [findPersonByPhone, Building.AuthService.findPersonByPhone, hpersons]
  · intro phone' _ _ _ hunsuspended
    rwa [Unsuspended, hpersons]
  · rintro phone' hphone' hm ho p ⟨r, hr, hrphone⟩
    refine ⟨⟨r, hpersons ▸ hr, hrphone⟩, fun id hid => hlive p id (fun hp => ?_) hid⟩
    -- the person of the successor has another phone
    subst hp
    obtain ⟨r', hr', hr'phone⟩ := hphone
    obtain rfl : r = r' := Option.some.inj (hr.symm.trans hr')
    exact hl (Or.inr ⟨ho, hphone'.trans (congrArg Lock.sessions (hrphone.symm.trans hr'phone)), hm⟩)

end Rotation

/-! ### Suspensions -/

/-- The flag of a person is changed, and some tokens are revoked. -/
structure ChangesSuspension (target : ℕ) (suspend : Bool) (now : Time) (revoked : List ℕ)
    (s s' : Store) : Prop where
  persons : s'.persons = s.persons.modify target (suspensionChanged suspend)
    (suspensionChanged_id suspend)
  token : ∀ k, s'.refreshTokens.find? k =
    if k ∈ revoked then (s.refreshTokens.find? k).map (tokenRevoked now)
    else s.refreshTokens.find? k
  history : s'.history = s.history

namespace ChangesSuspension

variable {target : ℕ} {suspend : Bool} {now : Time} {revoked : List ℕ}

theorem person (h : ChangesSuspension target suspend now revoked s s') {k : ℕ} {r : Person}
    (hr : s.persons.find? k = some r) :
    s'.persons.find? k = some (if k = target then suspensionChanged suspend r else r) := by
  rw [h.persons, Table.find?_modify, hr, Option.map_some, apply_ite some]

theorem person_inv (h : ChangesSuspension target suspend now revoked s s') {k : ℕ} {r : Person}
    (hr : s'.persons.find? k = some r) :
    ∃ r₀, s.persons.find? k = some r₀ ∧
      r = if k = target then suspensionChanged suspend r₀ else r₀ := by
  cases hr₀ : s.persons.find? k with
  | none =>
    rw [h.persons, Table.find?_modify, hr₀] at hr
    simp at hr
  | some r₀ => exact ⟨r₀, rfl, Option.some.inj (hr.symm.trans (h.person hr₀))⟩

/-- A token of the new table, and whether it was revoked now. -/
theorem token_inv (h : ChangesSuspension target suspend now revoked s s') {k : ℕ}
    {t : RefreshToken} (ht : s'.refreshTokens.find? k = some t) :
    ∃ t₀, s.refreshTokens.find? k = some t₀ ∧
      (k ∈ revoked ∧ t = tokenRevoked now t₀ ∨ k ∉ revoked ∧ t = t₀) := by
  rw [h.token] at ht
  split at ht
  case isTrue hk =>
    obtain ⟨t₀, ht₀, rfl⟩ := Option.map_eq_some_iff.mp ht
    exact ⟨t₀, ht₀, Or.inl ⟨hk, rfl⟩⟩
  case isFalse hk => exact ⟨t, ht, Or.inr ⟨hk, rfl⟩⟩

theorem kept (h : ChangesSuspension target suspend now revoked s s') {k : ℕ} {t : RefreshToken}
    (ht : s.refreshTokens.find? k = some t) : ∃ revokedAt,
      s'.refreshTokens.find? k = some { t with revokedAt } ∧
        (t.revokedAt ≠ none → revokedAt ≠ none) := by
  rw [h.token, ht]
  split
  · exact ⟨some now, rfl, fun _ => Option.some_ne_none now⟩
  · exact ⟨t.revokedAt, rfl, fun hne => hne⟩

theorem live (h : ChangesSuspension target suspend now revoked s s') {p k : ℕ}
    (hlive : Live p s' k) : Live p s k ∧ k ∉ revoked := by
  obtain ⟨t, ht, hlive⟩ := hlive
  obtain ⟨t₀, ht₀, ⟨-, rfl⟩ | ⟨hk, rfl⟩⟩ := h.token_inv ht
  · exact absurd (isLive_eq_true.mp hlive).2 (Option.some_ne_none now)
  · exact ⟨⟨t, ht₀, hlive⟩, hk⟩

/-- Whoever is suspended now has lost every token. -/
theorem commits (h : ChangesSuspension target suspend now revoked s s') {phone : String}
    (hs : Consistent s) (hphone : HasPhone target phone s)
    (hrevoked : ordered = true → suspend = true → ∀ k, Live target s k → k ∈ revoked) :
    Commits ordered (fun l m => (∃ k ∈ revoked, l = .refreshToken k) ∨
      ordered = true ∧ l = .sessions phone ∧ m = .shared ∧ suspend = true) s s' := by
  have hphones : ∀ {k : ℕ} {r : Person}, s'.persons.find? k = some r →
      ∃ r₀, s.persons.find? k = some r₀ ∧ r.phone = r₀.phone := by
    intro k r hr
    obtain ⟨r₀, hr₀, rfl⟩ := h.person_inv hr
    refine ⟨r₀, hr₀, ?_⟩
    split <;> rfl
  refine ⟨⟨⟨fun k t n ht hn => ?_, fun a b => ?_⟩, fun r hr r' hr' hsame => ?_⟩,
    ⟨fun k t ht => ?_, fun k r hr => ?_⟩, fun ho p hended => ?_,
    fun l m hl => ⟨fun k hk t ht => ?_, fun phone' _ hnone => ?_, ?_, ?_⟩⟩
  · obtain ⟨t₀, ht₀, hcase⟩ := h.token_inv ht
    have hn₀ : t₀.replacedBy = some n ∧ t.personId = t₀.personId ∧ t.deviceId = t₀.deviceId ∧
        (t₀.revokedAt ≠ none → t.revokedAt ≠ none) := by
      rcases hcase with ⟨-, rfl⟩ | ⟨-, rfl⟩
      · exact ⟨hn, rfl, rfl, fun _ => Option.some_ne_none now⟩
      · exact ⟨hn, rfl, rfl, fun hne => hne⟩
    obtain ⟨hrev, t₁, ht₁, hperson, hdevice⟩ := hs.linear.successor k t₀ n ht₀ hn₀.1
    obtain ⟨_, ht₁', -⟩ := h.kept ht₁
    exact ⟨hn₀.2.2.2 hrev, _, ht₁', hperson.trans hn₀.2.1.symm, hdevice.trans hn₀.2.2.1.symm⟩
  · rw [Rotated, h.history]
    refine (hs.linear.rotated a b).trans ⟨fun ⟨t, ht, hb⟩ => ?_, fun ⟨t, ht, hb⟩ => ?_⟩
    · obtain ⟨_, ht', -⟩ := h.kept ht
      exact ⟨_, ht', hb⟩
    · obtain ⟨t₀, ht₀, ⟨-, rfl⟩ | ⟨-, rfl⟩⟩ := h.token_inv ht
      · exact ⟨t₀, ht₀, hb⟩
      · exact ⟨t, ht₀, hb⟩
  · have hr₁ := Table.find?_of_mem hr
    have hr₁' := Table.find?_of_mem hr'
    obtain ⟨r₀, hr₀, hphone₀⟩ := hphones hr₁
    obtain ⟨r₀', hr₀', hphone₀'⟩ := hphones hr₁'
    obtain rfl : r₀ = r₀' := hs.phone r₀ (Table.mem_of_find? hr₀) r₀' (Table.mem_of_find? hr₀')
      (hphone₀.symm.trans (hsame.trans hphone₀'))
    have hid : r.id = r'.id := (Table.key_of_find? hr₀).symm.trans (Table.key_of_find? hr₀')
    rw [hid] at hr₁
    exact Option.some.inj (hr₁.symm.trans hr₁')
  · obtain ⟨revokedAt, ht', hrev⟩ := h.kept ht
    exact ⟨revokedAt, t.replacedBy, ht', fun hne => ⟨hrev hne, rfl⟩⟩
  · rw [h.person hr]
    split
    · exact ⟨suspend, rfl⟩
    · exact ⟨r.isSuspended, rfl⟩
  · rintro ⟨r, hr, hsuspended⟩ k hlive
    obtain ⟨hlive, hk⟩ := h.live hlive
    obtain ⟨r₀, hr₀, rfl⟩ := h.person_inv hr
    split at hsuspended
    case isTrue hp =>
      subst hp
      exact hk (hrevoked ho hsuspended k hlive)
    case isFalse => exact hended ⟨r₀, hr₀, hsuspended⟩ k hlive
  · have hk' : k ∉ revoked := fun hmem => hl (Or.inl ⟨k, hmem, hk⟩)
    rw [h.token, if_neg hk', ht]
  · rw [findPersonByPhone_eq_none] at hnone ⊢
    intro r hr
    obtain ⟨r₀, hr₀, hphone₀⟩ := hphones (Table.find?_of_mem hr)
    exact fun heq => hnone r₀ (Table.mem_of_find? hr₀) (hphone₀.symm.trans heq)
  · intro phone' hphone' hm ho hunsuspended k r hr hrphone
    obtain ⟨r₀, hr₀, hphone₀⟩ := hphones hr
    obtain ⟨r₁, hr₁, rfl⟩ := h.person_inv hr
    obtain rfl : r₀ = r₁ := Option.some.inj (hr₀.symm.trans hr₁)
    have hfree := hunsuspended k r₀ hr₀ (hphone₀.symm.trans hrphone)
    split
    case isTrue hk =>
      -- a suspension of somebody with this phone has the sessions to itself
      subst hk
      obtain ⟨r', hr', hr'phone⟩ := hphone
      obtain rfl : r₀ = r' := Option.some.inj (hr₀.symm.trans hr')
      have hsame : phone' = phone := hrphone.symm.trans (hphone₀.trans hr'phone)
      cases hsuspend : suspend with
      | false => rfl
      | true =>
        exact absurd (Or.inr ⟨ho, hphone'.trans (congrArg Lock.sessions hsame), hm, hsuspend⟩) hl
    case isFalse => exact hfree
  · rintro phone' - - - p ⟨r, hr, hrphone⟩
    refine ⟨⟨_, h.person hr, ?_⟩, fun k hlive => (h.live hlive).1⟩
    split <;> exact hrphone

end ChangesSuspension

end VielHome.Auth
