import VielHome.Auth.Chains

/-!
# The calls that open and end sessions

One lemma for each statement and each call: it keeps the chains of tokens, and where the sessions
are ordered it keeps those ended that a suspension has ended (`SessionCall.safe`).
-/

namespace VielHome.Auth

open Relational Community
open Relational.ReadCommitted (Database Discipline Event Mode Prog not_free_of_exclusive)
open AuthRepository AuthService BackOfficeRepository
open Backoffice.BackOfficeRepository (ChangePersonSuspensionParams)

variable {s : Store} {ordered : Bool} {hash : String → String} {config : Config} {α β : Type}
  {last : Store} {notes : List (Lock × Mode × Store)} {pending : Store → Store} {now : Time}
  {post : β → Store → List (Lock × Mode × Store) → (Store → Store) → Prop}

/-! ### Statements on other tables -/

/-- The writes leave tokens and people alone. -/
def Aside (pending : Store → Store) : Prop :=
  ∀ s, (pending s).persons = s.persons ∧ (pending s).refreshTokens = s.refreshTokens ∧
    SameRotations s (pending s)

/-- A commit that has nothing to do with tokens keeps some locks. -/
theorem safe_commitKeeping (keep : List Lock) {f : PUnit → Call β} (hpending : Aside pending)
    (h : ∀ last', (sessions ordered).Later last last' →
      (f ⟨⟩).Safe (sessions ordered) post last' (notes.filter fun n => n.1 ∈ keep) id) :
    (Prog.commitKeeping keep >>= f).Safe (sessions ordered) post last notes pending := by
  refine Prog.Safe.commitKeeping fun s hs hlast _ => ?_
  obtain ⟨hpersons, htokens, hrotations⟩ := hpending s
  have hcommits : Commits ordered (fun _ _ => False) s (pending s) :=
    commits_unchanged hs hpersons htokens hrotations
  refine hcommits.conclude (fun l m _ => id) ⟨fun n _ _ => hcommits.same n.1 n.2.1 id, ?_⟩
  exact h _ (hlast.next ⟨hcommits.keeps, hcommits.ended⟩)

/-- A commit that has nothing to do with tokens gives all locks back. -/
theorem safe_commitAll {f : PUnit → Call β} (hpending : Aside pending)
    (h : ∀ last', (sessions ordered).Later last last' →
      (f ⟨⟩).Safe (sessions ordered) post last' [] id) :
    (Prog.commitAll >>= f).Safe (sessions ordered) post last notes pending := by
  refine safe_commitKeeping [] hpending fun last' hlast => ?_
  simpa using h last' hlast

/-! ### One-time codes -/

/-- A line of the history that is no rotation has nothing to do with tokens. -/
theorem aside_record {g : Happening} (hne : ∀ a b, g ≠ .rotated a b) : Aside (Store.record g) :=
  fun _ => ⟨rfl, rfl, sameRotations_record hne⟩

/-- A new code. -/
theorem safe_createOtpRequest {params : OtpParams} {f : PUnit → Call β}
    (h : ∀ last', (f ⟨⟩).Safe (sessions ordered) post last' [] id) :
    (createOtpRequest params now >>= f).Safe (sessions ordered) post last [] id := by
  rw [createOtpRequest, Prog.transaction, Prog.bind_assoc]
  refine Prog.Safe.write fun _ _ _ _ => ?_
  exact safe_commitAll (fun _ => ⟨rfl, rfl, fun _ _ => Iff.rfl⟩) fun last' _ => h last'

/-- A code that is used up. -/
theorem safe_claimOtp {params : ClaimOtpParams} {f : PUnit → Call β}
    (h : ∀ last', (sessions ordered).Later last last' →
      (f ⟨⟩).Safe (sessions ordered) post last' [] id) :
    (claimOtp params >>= f).Safe (sessions ordered) post last notes id := by
  rw [claimOtp, Prog.transaction, Prog.bind_assoc]
  refine Prog.Safe.claim fun s₁ _ hs₁ _ _ => ?_
  refine safe_commitAll (fun s => ⟨rfl, rfl, ?_⟩) fun last' hlast => h last' (hs₁.trans hlast)
  exact sameRotations_record (s := s.onOtpRequests _) fun _ _ => by simp

/-- The checks of a code, and its use. -/
theorem safe_acceptCode {dto : VerifyOtpDto} {f : PUnit → Call β}
    (h : ∀ last', (f ⟨⟩).Safe (sessions ordered) post last' [] id) :
    (acceptCode hash dto now >>= f).Safe (sessions ordered) post last [] id := by
  rw [acceptCode, Prog.bind_assoc]
  refine .noWrites (.queryUnder _ _) fun otpRequest _ _ _ _ => ?_
  rw [Prog.bind_assoc]
  refine .expect fun r _ => ?_
  rw [OtpPolicy.assertNotExpired, OtpPolicy.assertAttemptsRemaining, compareCode]
  simp only [Prog.bind_assoc]
  refine .require fun _ => .require fun _ => .require fun _ => ?_
  refine Prog.Safe.write fun _ _ _ _ => ?_
  refine safe_commitKeeping _ (aside_record fun _ _ => by simp) fun _ _ => ?_
  rw [Prog.ite_bind]
  split
  · exact safe_claimOtp fun last' _ => h last'
  · rw [Prog.bind_assoc, incrementOtpAttempts, Prog.transaction, Prog.bind_assoc]
    refine Prog.Safe.writeIf fun _ _ _ _ _ => ?_
    exact safe_commitAll (fun _ => ⟨rfl, rfl, fun _ _ => Iff.rfl⟩) fun _ _ => trivial

/-! ### Logins -/

/-- Somebody keeps their phone. -/
theorem HasPhone.later {personId : ℕ} {phone : String} (h : HasPhone personId phone last)
    (hlast : (sessions ordered).Later last s) : HasPhone personId phone s := by
  refine hlast.keeps (P := HasPhone personId phone) (fun s s' hcommit hs => ?_) h
  obtain ⟨r, hr, hphone⟩ := hs
  obtain ⟨isSuspended, hr'⟩ := hcommit.1.person _ _ hr
  exact ⟨_, hr', hphone⟩

/-- A session is about to mint a token for a person: who was not suspended when it looked. -/
structure LoggingIn (ordered : Bool) (phone : String) (personId : ℕ) (last : Store)
    (notes : List (Lock × Mode × Store)) : Prop where
  owner : HasPhone personId phone last
  looked : ordered = true → ∃ s, (.sessions phone, .shared, s) ∈ notes ∧ Unsuspended phone s

namespace LoggingIn

variable {phone : String} {personId : ℕ}

/-- What somebody who signs in knows stays true. -/
theorem mono (h : LoggingIn ordered phone personId last notes) {last' : Store}
    {notes' : List (Lock × Mode × Store)} (hlast : (sessions ordered).Later last last')
    (hnotes : ∀ n ∈ notes, n.1 = .sessions phone → n ∈ notes') :
    LoggingIn ordered phone personId last' notes' := by
  refine ⟨h.owner.later hlast, fun ho => ?_⟩
  obtain ⟨s, hs, hfree⟩ := h.looked ho
  exact ⟨s, hnotes _ hs rfl, hfree⟩

/-- It stays true after a commit that keeps the lock of the sessions. -/
theorem filter (h : LoggingIn ordered phone personId last notes) {last' : Store}
    (hlast : (sessions ordered).Later last last') :
    LoggingIn ordered phone personId last'
      (notes.filter fun n => n.1 ∈ [Lock.sessions phone]) := by
  refine h.mono hlast fun n hn hsessions => List.mem_filter.mpr ⟨hn, ?_⟩
  simp [hsessions]

/-- The person is still not suspended when the token is committed. -/
theorem unsuspended (h : LoggingIn ordered phone personId last notes)
    (hknows : (sessions ordered).Knows notes s) (ho : ordered = true) : Unsuspended phone s := by
  obtain ⟨s₀, hs₀, hfree⟩ := h.looked ho
  exact (hknows _ hs₀).login phone rfl rfl ho hfree

/-- Nobody revokes the tokens of the person meanwhile. -/
theorem not_revoking (h : LoggingIn ordered phone personId last notes) {l : Lock} {m : Mode}
    (hfree : ReadCommitted.Free notes l m) :
    ¬ (ordered = true ∧ l = .sessions phone ∧ m = .exclusive) := by
  rintro ⟨ho, rfl, rfl⟩
  obtain ⟨s₀, hs₀, -⟩ := h.looked ho
  exact absurd (hfree _ hs₀ rfl) (by simp [Mode.compatible])

end LoggingIn

/-- Nobody else has the phone. -/
theorem unsuspended_of_not_suspended {phone : String} {r : Person} (hs : Consistent s)
    (hr : r ∈ s.persons) (hphone : r.phone = phone) (hsuspended : r.isSuspended = false) :
    Unsuspended phone s := by
  intro id r' hr' hphone'
  rw [hs.phone r' (Table.mem_of_find? hr') r hr (hphone'.trans hphone.symm), hsuspended]

/-- The person of the phone, found or made. -/
theorem safe_findOrCreatePerson {phone : String} {f : Person → Call β}
    (h : ∀ person last' notes',
      (person.isSuspended = false → LoggingIn ordered phone person.id last' notes') →
      (f person).Safe (sessions ordered) post last' notes' id) :
    (findOrCreatePerson phone >>= f).Safe (sessions ordered) post last [] id := by
  have hnote : ∀ s₀ : Store, ordered = true → (Lock.sessions phone, Mode.shared, s₀) ∈
      [] ++ (sessions ordered).taken [(.sessions phone, .shared)] s₀ := fun s₀ ho =>
    List.mem_append_right _ (Discipline.mem_taken List.mem_cons_self ho)
  rw [findOrCreatePerson, Prog.bind_assoc]
  refine Prog.Safe.queryUnder fun s₀ hs₀ _ _ => ?_
  cases hfound : findPersonByPhone phone (id s₀) with
  | some r =>
    obtain ⟨hr, hphone⟩ := hasPhone_of_findPersonByPhone hfound
    refine h r s₀ _ fun hsuspended => ⟨⟨r, hr, hphone⟩, fun ho => ⟨s₀, hnote s₀ ho, ?_⟩⟩
    exact unsuspended_of_not_suspended hs₀ (Table.mem_of_find? hr) hphone hsuspended
  | none =>
    have hunsuspended : Unsuspended phone s₀ := fun id r hr hphone =>
      absurd hphone (findPersonByPhone_eq_none.mp hfound r (Table.mem_of_find? hr))
    rw [createPerson, Prog.bind_assoc]
    refine Prog.Safe.writeUnless fun s₁ _ hs₁ _ hfree => ?_
    rw [Prog.bind_assoc]
    refine Prog.Safe.commitKeeping fun s hs hlast hknows => ?_
    have hlock : (Lock.community (.phoneKey phone), Mode.exclusive, s₁) ∈
        [] ++ (sessions ordered).taken [(.sessions phone, .shared)] s₀ ++
          (sessions ordered).taken [(.community (.phoneKey phone), .exclusive)] s₁ :=
      List.mem_append_right _ (Discipline.mem_taken List.mem_cons_self rfl)
    -- nobody has the phone yet, and nobody else creates a person with it
    have hnone : findPersonByPhone phone s = none := by
      refine (hknows _ hlock).phone phone rfl ?_
      by_contra hsome
      rw [id_eq, if_pos (Option.isSome_iff_ne_none.mpr hsome)] at hfree
      cases hfree
    have hcommits : Commits ordered (fun l _ => l = .community (.phoneKey phone)) s
        (s.onCommunity (Community.Store.onPersons (·.create (fun id => { id, phone })
          fun _ => rfl))) := commits_newPerson hs hnone rfl rfl rfl
    refine hcommits.conclude (fun l m hl hphone => ?_) ⟨fun n hn hkeep => ?_, ?_⟩
    · subst hphone
      exact not_free_of_exclusive hlock hl
    · refine hcommits.same n.1 n.2.1 fun heq => ?_
      rw [heq] at hkeep
      simp at hkeep
    · rw [Prog.bind_assoc]
      refine Prog.Safe.query fun s₂ _ _ _ => ?_
      rw [Prog.bind_assoc]
      refine Prog.Safe.expect fun r hr => ?_
      obtain ⟨hr, hphone⟩ := hasPhone_of_findPersonByPhone hr
      refine h { r with isSuspended := false } s₂ _ fun _ => ⟨⟨r, hr, hphone⟩, fun ho =>
        ⟨s₀, List.mem_filter.mpr ⟨List.mem_append_left _ (hnote s₀ ho), by simp⟩, hunsuspended⟩⟩

/-- A device has nothing to do with tokens. -/
theorem aside_upsert (params : DeviceParams) : Aside (params.upsert now) := by
  intro s
  rw [DeviceParams.upsert]
  split <;> exact ⟨rfl, rfl, fun _ _ => Iff.rfl⟩

/-- The device of who signs in. -/
theorem safe_upsertDevice {params : DeviceParams} {phone : String} {f : Device → Call β}
    (hlogin : LoggingIn ordered phone params.personId last notes)
    (h : ∀ device last' notes', LoggingIn ordered phone params.personId last' notes' →
      (f device).Safe (sessions ordered) post last' notes' id) :
    (upsertDevice params now [.sessions phone] >>= f).Safe (sessions ordered) post last notes id := by
  rw [upsertDevice, Prog.bind_assoc]
  refine Prog.Safe.writeUnless fun s₁ _ hs₁ _ _ => ?_
  rw [Prog.bind_assoc]
  refine safe_commitKeeping _ (aside_upsert params) fun s₂ hs₂ => ?_
  rw [Prog.bind_assoc]
  refine Prog.Safe.query fun s₃ _ hs₃ _ => Prog.Safe.expect fun device _ => ?_
  exact h device s₃ _ (((hlogin.mono hs₁ fun n hn _ => List.mem_append_left _ hn).filter hs₂).mono
    hs₃ fun n hn _ => hn)

/-- The token of who signs in. -/
theorem safe_createRefreshToken {params : TokenParams} {phone : String}
    (hlogin : LoggingIn ordered phone params.personId last notes) :
    (createRefreshToken params).Safe (sessions ordered) (fun _ _ _ _ => True) last notes id := by
  rw [createRefreshToken, Prog.transaction]
  refine Prog.Safe.writeUnless fun s₁ _ hs₁ _ _ => ?_
  refine Prog.Safe.commitAll fun s hs hlast hknows => ?_
  have hlogin := hlogin.mono (hs₁.trans hlast) fun n hn _ => List.mem_append_left
    ((sessions ordered).taken [(.tokenHash params.tokenHash, .exclusive)] s₁) hn
  exact (commits_login hs hlogin.owner (hlogin.unsuspended hknows) rfl).conclude
    (fun l m hl => hlogin.not_revoking hl) trivial

/-- `verifyOtp` keeps the discipline. -/
theorem safe_verifyOtp {dto : VerifyOtpDto} {rawRefreshToken : String} :
    (verifyOtp hash config dto rawRefreshToken now).Safe (sessions ordered)
      (fun _ _ _ _ => True) last [] id := by
  rw [verifyOtp]
  refine safe_acceptCode fun _ => safe_findOrCreatePerson fun person _ _ hperson => ?_
  refine .require fun hsuspended => ?_
  refine safe_upsertDevice (hperson hsuspended) fun device _ _ hlogin => ?_
  exact safe_createRefreshToken hlogin

/-! ### Refreshes -/

/-- A rotation keeps the chain of its tokens. -/
theorem safe_rotateRefreshToken {params : RotateParams} {phone : String}
    (hlogin : LoggingIn ordered phone params.successor.personId last notes) :
    (rotateRefreshToken params).Safe (sessions ordered) (fun _ _ _ _ => True) last notes id := by
  rw [rotateRefreshToken, ← Prog.bind_done (Prog.transaction _), Prog.transaction, Prog.bind_assoc,
    Prog.bind_assoc]
  refine Prog.Safe.claim fun s₁ _ hs₁ _ hmatched => ?_
  refine Prog.Safe.writeUnless fun s₂ _ hs₂ _ _ => ?_
  refine Prog.Safe.commitAll fun s hs hlast hknows => ?_
  obtain ⟨t, ht, hmatches⟩ := (Option.any_eq_true _ _).mp hmatched
  have hlock : (Lock.refreshToken params.id, Mode.exclusive, s₁) ∈
      notes ++ (sessions ordered).taken [(.refreshToken params.id, .exclusive)] s₁ ++
        (sessions ordered).taken [(.tokenHash params.successor.tokenHash, .exclusive)] s₂ :=
    List.mem_append_left _ (List.mem_append_right _ (Discipline.mem_taken List.mem_cons_self rfl))
  -- the row is still the one that was claimed
  have ht' : s.refreshTokens.find? params.id = some t := (hknows _ hlock).token params.id rfl t ht
  have hlogin : LoggingIn ordered phone params.successor.personId s
      (notes ++ (sessions ordered).taken [(.refreshToken params.id, .exclusive)] s₁ ++
        (sessions ordered).taken [(.tokenHash params.successor.tokenHash, .exclusive)] s₂) :=
    hlogin.mono ((hs₁.trans hs₂).trans hlast) fun n hn _ =>
      List.mem_append_left _ (List.mem_append_left _ hn)
  refine (commits_rotation hs ht' hmatches hlogin.owner (hlogin.unsuspended hknows) rfl).conclude
    (fun l m hl hdisturbed => ?_) trivial
  rcases hdisturbed with rfl | hdisturbed
  · exact not_free_of_exclusive hlock hl
  · exact hlogin.not_revoking hl hdisturbed

/-- The lock of the sessions of somebody is that of their phone. -/
theorem sessionsOf_eq {personId : ℕ} {mode : Mode} {r : Person}
    (h : s.persons.find? personId = some r) :
    sessionsOf personId mode s = [(.sessions r.phone, mode)] := by
  rw [sessionsOf, h]

/-- `refresh` keeps the discipline. -/
theorem safe_refresh {refreshToken rawRefreshToken : String} :
    (refresh hash config refreshToken rawRefreshToken now).Safe (sessions ordered)
      (fun _ _ _ _ => True) last [] id := by
  rw [refresh]
  refine Prog.Safe.query fun _ _ _ _ => .expect fun existing _ => ?_
  refine .require fun _ => .require fun _ => ?_
  refine Prog.Safe.queryUnder fun s₁ hs₁ _ _ => .require fun hperson => ?_
  obtain ⟨r, hr, hsuspended⟩ := (Option.any_eq_true _ _).mp hperson
  have hr : s₁.persons.find? existing.personId = some r := hr
  have hphone : HasPhone existing.personId r.phone s₁ := ⟨r, hr, rfl⟩
  refine safe_rotateRefreshToken ⟨hphone, fun ho => ⟨s₁, ?_, ?_⟩⟩
  · rw [id_eq, sessionsOf_eq hr]
    exact List.mem_append_right _ (Discipline.mem_taken List.mem_cons_self ho)
  · exact unsuspended_of_not_suspended hs₁ (Table.mem_of_find? hr) rfl
      (of_decide_eq_true hsuspended)

/-! ### Suspensions -/

/-- The token has been revoked. -/
def Revoked (s : Store) (id : ℕ) : Prop :=
  ∃ t, s.refreshTokens.find? id = some t ∧ t.revokedAt ≠ none

/-- A token that is revoked stays so. -/
theorem Revoked.later {id : ℕ} (h : Revoked last id) (hlast : (sessions ordered).Later last s) :
    Revoked s id := by
  refine hlast.keeps (P := fun s => Revoked s id) (fun s s' hcommit hs => ?_) h
  obtain ⟨t, ht, hrevoked⟩ := hs
  obtain ⟨revokedAt, replacedBy, ht', hkept⟩ := hcommit.1.token id t ht
  exact ⟨_, ht', (hkept hrevoked).1⟩

/-- A token that lives is not revoked. -/
theorem Live.not_revoked {personId id : ℕ} (h : Live personId s id) : ¬ Revoked s id := by
  rintro ⟨t, ht, hrevoked⟩
  obtain ⟨t', ht', hlive⟩ := h
  obtain rfl : t = t' := Option.some.inj (ht.symm.trans ht')
  exact hrevoked (isLive_eq_true.mp hlive).2

/-- Later the person has the token, or it was revoked. -/
theorem Live.later {personId id : ℕ} (h : Live personId last id)
    (hlast : (sessions ordered).Later last s) : ∃ t, s.refreshTokens.find? id = some t ∧
      t.personId = personId := by
  obtain ⟨t, ht, hlive⟩ := h
  refine hlast.keeps (P := fun s => ∃ t, s.refreshTokens.find? id = some t ∧ t.personId = personId)
    (fun s s' hcommit hs => ?_) ⟨t, ht, (isLive_eq_true.mp hlive).1⟩
  obtain ⟨t, ht, hperson⟩ := hs
  obtain ⟨revokedAt, replacedBy, ht', -⟩ := hcommit.1.token id t ht
  exact ⟨_, ht', hperson⟩

/-- What revoking some tokens makes of a store. -/
structure Revokes (now : Time) (revoked : List ℕ) (s s' : Store) : Prop where
  persons : s'.persons = s.persons
  token : ∀ k, s'.refreshTokens.find? k =
    if k ∈ revoked then (s.refreshTokens.find? k).map (tokenRevoked now)
    else s.refreshTokens.find? k
  history : s'.history = s.history

/-- Nothing is revoked. -/
theorem Revokes.refl : Revokes now [] s s := ⟨rfl, fun _ => by simp, rfl⟩

/-- One more token is revoked. -/
theorem Revokes.cons {s' : Store} {revoked : List ℕ} (h : Revokes now revoked s s') (k : ℕ) :
    Revokes now (k :: revoked) s
      (s'.onRefreshTokens (·.modify k (tokenRevoked now) (tokenRevoked_id now))) := by
  refine ⟨h.persons, fun j => ?_, h.history⟩
  rw [Store.onRefreshTokens_refreshTokens, Table.find?_modify, h.token]
  by_cases hj : j = k
  · subst hj
    by_cases hmem : j ∈ revoked
    · cases s.refreshTokens.find? j <;> simp [hmem, tokenRevoked]
    · simp [hmem]
  · simp [hj]

/-- How far the revocation of the tokens has come: those of `revoked` are revoked and those of
`ids` still to come; any other token was revoked by somebody else. -/
structure Revoking (ordered : Bool) (target : ℕ) (now : Time) (base : Store → Store)
    (started : Store) (notes₀ : List (Lock × Mode × Store)) (ids : List ℕ) (last : Store)
    (notes : List (Lock × Mode × Store)) (pending : Store → Store) (revoked : List ℕ) : Prop where
  later : (sessions ordered).Later started last
  held : ∀ n ∈ notes₀, n ∈ notes
  revokes : ∀ s, Revokes now revoked (base s) (pending s)
  lock : ∀ k ∈ revoked, ∃ s, (Lock.refreshToken k, Mode.exclusive, s) ∈ notes
  live : ∀ k, Live target started k → k ∈ ids ∨ k ∈ revoked ∨ Revoked last k
  ids : ∀ k ∈ ids, Live target started k

namespace Revoking

variable {target : ℕ} {base : Store → Store} {started : Store}
  {notes₀ : List (Lock × Mode × Store)} {ids revoked : List ℕ}

/-- What a suspension knows while it revokes stays true. -/
theorem mono (h : Revoking ordered target now base started notes₀ ids last notes pending revoked)
    (hlast : (sessions ordered).Later last s) :
    Revoking ordered target now base started notes₀ ids s notes pending revoked := by
  refine ⟨h.later.trans hlast, h.held, h.revokes, h.lock, fun k hk => ?_, h.ids⟩
  exact (h.live k hk).imp_right (Or.imp_right fun hrevoked => hrevoked.later hlast)

/-- One more token has been looked at again, under its lock. -/
theorem next {k : ℕ} (hbase : ∀ s, (base s).refreshTokens = s.refreshTokens)
    (h : Revoking ordered target now base started notes₀ (k :: ids) last notes pending revoked)
    (hlast : (sessions ordered).Later last s) :
    ∃ revoked', Revoking ordered target now base started notes₀ ids s
      (notes ++ (sessions ordered).taken [(.refreshToken k, .exclusive)] s)
      (if ((pending s).refreshTokens.find? k).any (isLive target) = true then fun s =>
        (pending s).onRefreshTokens (·.modify k (tokenRevoked now) (tokenRevoked_id now))
        else pending) revoked' := by
  have h := h.mono hlast
  have hheld : ∀ n ∈ notes₀,
      n ∈ notes ++ (sessions ordered).taken [(.refreshToken k, .exclusive)] s :=
    fun n hn => List.mem_append_left _ (h.held n hn)
  have hlock : ∀ j ∈ revoked, ∃ s', (Lock.refreshToken j, Mode.exclusive, s') ∈
      notes ++ (sessions ordered).taken [(.refreshToken k, .exclusive)] s := by
    intro j hj
    obtain ⟨s', hs'⟩ := h.lock j hj
    exact ⟨s', List.mem_append_left _ hs'⟩
  split
  case isTrue =>
    refine ⟨k :: revoked, h.later, hheld, fun s => (h.revokes s).cons k, fun j hj => ?_,
      fun j hj => ?_, fun j hj => h.ids j (List.mem_cons_of_mem _ hj)⟩
    · rcases List.mem_cons.mp hj with rfl | hj
      · exact ⟨s, List.mem_append_right _ (Discipline.mem_taken List.mem_cons_self rfl)⟩
      · exact hlock j hj
    · rcases h.live j hj with hj | hj | hj
      · rcases List.mem_cons.mp hj with rfl | hj
        · exact Or.inr (Or.inl List.mem_cons_self)
        · exact Or.inl hj
      · exact Or.inr (Or.inl (List.mem_cons_of_mem _ hj))
      · exact Or.inr (Or.inr hj)
  case isFalse hdead =>
    refine ⟨revoked, h.later, hheld, h.revokes, hlock, fun j hj => ?_,
      fun j hj => h.ids j (List.mem_cons_of_mem _ hj)⟩
    rcases h.live j hj with hmem | hmem | hrevoked
    · rcases List.mem_cons.mp hmem with rfl | hmem
      · -- it was revoked by this session before, or by another one
        by_cases hrevoked : j ∈ revoked
        · exact Or.inr (Or.inl hrevoked)
        · obtain ⟨t, ht, hperson⟩ := hj.later h.later
          refine Or.inr (Or.inr ⟨t, ht, fun hnone => hdead ?_⟩)
          rw [(h.revokes s).token, if_neg hrevoked, hbase, ht, Option.any_some]
          exact isLive_eq_true.mpr ⟨hperson, hnone⟩
      · exact Or.inl hmem
    · exact Or.inr (Or.inl hmem)
    · exact Or.inr (Or.inr hrevoked)

end Revoking

/-- The tokens of somebody are revoked, one after the other. -/
theorem safe_revokeRefreshTokens {target : ℕ} {f : PUnit → Call β}
    (hbase : ∀ s, (pending s).refreshTokens = s.refreshTokens)
    (h : ∀ started last' notes' pending' revoked, (sessions ordered).Later last started →
      Revoking ordered target now pending started (notes ++ (sessions ordered).taken
        (sessionsOf target .exclusive (pending started)) started) [] last' notes' pending' revoked →
      (f ⟨⟩).Safe (sessions ordered) post last' notes' pending') :
    (revokeRefreshTokens target now >>= f).Safe (sessions ordered) post last notes pending := by
  rw [revokeRefreshTokens, Prog.bind_assoc]
  refine Prog.Safe.queryUnder fun started _ hstarted _ => ?_
  have hmem : ∀ k, k ∈ ((pending started).refreshTokens.rows.filter (isLive target)).map
      RefreshToken.id ↔ Live target started k := by
    intro k
    rw [hbase, List.mem_map]
    refine ⟨fun ⟨t, ht, hk⟩ => ?_, fun ⟨t, ht, hlive⟩ => ?_⟩
    · obtain ⟨ht, hlive⟩ := List.mem_filter.mp ht
      exact ⟨t, hk ▸ Table.find?_of_mem ht, hlive⟩
    · exact ⟨t, List.mem_filter.mpr ⟨Table.mem_of_find? ht, hlive⟩, Table.key_of_find? ht⟩
  refine Prog.Safe.updateEach (fun ids last' notes' pending' => ∃ revoked,
      Revoking ordered target now pending started (notes ++ (sessions ordered).taken
        (sessionsOf target .exclusive (pending started)) started) ids last' notes' pending' revoked)
    ⟨[], .refl _, fun n hn => hn, fun _ => .refl, fun _ hk => absurd hk List.not_mem_nil,
      fun k hk => Or.inl ((hmem k).mpr hk), fun k hk => (hmem k).mp hk⟩
    (fun _ _ _ _ s hI hlast => ?_) (fun k _ _ _ _ hI s _ hlast _ => ?_)
    fun last' notes' pending' hI => ?_
  · obtain ⟨revoked, hI⟩ := hI
    exact ⟨revoked, hI.mono hlast⟩
  · obtain ⟨revoked, hI⟩ := hI
    exact hI.next hbase hlast
  · obtain ⟨revoked, hI⟩ := hI
    exact h started last' notes' pending' revoked hstarted hI

/-- A call that writes nothing writes nothing here either. -/
theorem noWrites_onCommunity {p : Community.Call α} (h : p.NoWrites) : (onCommunity p).NoWrites :=
  h.lift (fun _ => rfl) Lock.community

/-- A lock alone writes nothing. -/
theorem noWrites_advisoryLock (l : Community.Lock) :
    (Backoffice.advisoryLock l).NoWrites := ⟨rfl, fun _ => trivial⟩

/-- The checks of a suspension write nothing. -/
theorem noWrites_assertSuspensionChange (params : ChangePersonSuspensionParams)
    (targetStaff : Option PlatformStaff) :
    (Backoffice.BackOfficeRepository.assertSuspensionChange params targetStaff).NoWrites := by
  refine .ite ?_ (.bind (.queryUnder _ _) fun _ => .require _ _)
  cases targetStaff with
  | none => trivial
  | some staff =>
    exact .ite (.bind (noWrites_advisoryLock _) fun _ => .bind (.queryUnder _ _) fun _ =>
      .require _ _) trivial

/-- A suspension keeps the discipline. -/
theorem safe_changePersonSuspensionAtomically {params : ChangePersonSuspensionParams} :
    (changePersonSuspensionAtomically params now).Safe (sessions ordered) (fun _ _ _ _ => True) last
      [] id := by
  rw [changePersonSuspensionAtomically, Prog.transaction]
  simp only [Prog.bind_assoc]
  refine .noWrites (noWrites_onCommunity (noWrites_advisoryLock _)) fun _ _ _ _ _ => ?_
  refine .require fun _ => Prog.Safe.query fun _ _ _ _ => Prog.Safe.query fun _ _ _ _ => ?_
  refine .expect fun targetStaff _ => .expect fun actor _ => .require fun _ => ?_
  refine .noWrites (noWrites_onCommunity (noWrites_assertSuspensionChange _ _))
    fun _ _ notes _ _ => ?_
  refine Prog.Safe.claim fun s₁ hs₁ _ _ hmatched => ?_
  obtain ⟨r, hr, -⟩ := (Option.any_eq_true _ _).mp hmatched
  have hphone : HasPhone params.targetPersonId r.phone s₁ := ⟨r, hr, rfl⟩
  rw [Prog.ite_bind]
  split
  case isTrue hsuspend =>
    refine safe_revokeRefreshTokens (fun _ => rfl)
      fun started last' notes' pending' revoked hstarted hrevoking => ?_
    refine Prog.Safe.commitAll fun s hs hlast hknows => ?_
    have hphone' := hphone.later hstarted
    -- what the claim has written
    have hrevoking := hrevoking.mono hlast
    have hrevokes := hrevoking.revokes s
    have hchanges : ChangesSuspension params.targetPersonId params.suspend now revoked s
        (pending' s) := ⟨hrevokes.persons, hrevokes.token, hrevokes.history⟩
    have hlock : ordered = true → (Lock.sessions r.phone, Mode.exclusive, started) ∈ notes' := by
      intro ho
      obtain ⟨r', hr', hr'phone⟩ := hphone'
      refine hrevoking.held _ (List.mem_append_right _ (Discipline.mem_taken ?_ ho))
      have hview := Table.find?_modify_self (f := suspensionChanged params.suspend)
        (h := suspensionChanged_id params.suspend) hr'
      rw [sessionsOf_eq hview]
      exact List.mem_singleton.mpr (by rw [← hr'phone]; rfl)
    refine (hchanges.commits hs (hphone'.later hrevoking.later) fun ho _ k hk => ?_).conclude
      (fun l m hl hdisturbed => ?_) trivial
    · -- nobody has given the person a token since the revocation started
      have hlive := ((hknows _ (hlock ho)).revocation _ rfl rfl ho _ hphone').2 k hk
      rcases hrevoking.live k hlive with hmem | hmem | hrevoked
      · exact absurd hmem List.not_mem_nil
      · exact hmem
      · exact absurd hrevoked hk.not_revoked
    · rcases hdisturbed with ⟨k, hk, rfl⟩ | ⟨ho, rfl, rfl, -⟩
      · obtain ⟨s₂, hs₂⟩ := hrevoking.lock k hk
        exact not_free_of_exclusive hs₂ hl
      · exact not_free_of_exclusive (hlock ho) hl
  case isFalse hreinstate =>
    refine Prog.Safe.commitAll fun s hs hlast _ => ?_
    have hchanges : ChangesSuspension params.targetPersonId params.suspend now [] s
        (s.onCommunity (Community.Store.onPersons (·.modify params.targetPersonId
          (suspensionChanged params.suspend) (suspensionChanged_id params.suspend)))) :=
      ⟨rfl, fun _ => by simp, rfl⟩
    refine (hchanges.commits hs (hphone.later hlast) fun _ h => absurd h hreinstate).conclude
      (fun l m _ hdisturbed => ?_) trivial
    rcases hdisturbed with ⟨k, hk, -⟩ | ⟨-, -, -, h⟩
    · exact absurd hk List.not_mem_nil
    · exact hreinstate h

/-! ### Runs -/

/-- A call that signs in, keeps somebody signed in, or suspends. -/
inductive SessionCall
  | requestOtp (dto : RequestOtpDto) (code : String) (delivered : Bool) (now : Time)
  | verifyOtp (dto : VerifyOtpDto) (rawRefreshToken : String) (now : Time)
  | refresh (refreshToken rawRefreshToken : String) (now : Time)
  | changePersonSuspensionAtomically (params : ChangePersonSuspensionParams) (now : Time)

/-- The method that the call is made to. -/
def SessionCall.call (hash : String → String) (config : Config) : SessionCall → Call PUnit
  | requestOtp dto code delivered now => AuthService.requestOtp hash config dto code delivered now
  | verifyOtp dto rawRefreshToken now => AuthService.verifyOtp hash config dto rawRefreshToken now
  | refresh refreshToken rawRefreshToken now =>
    AuthService.refresh hash config refreshToken rawRefreshToken now
  | changePersonSuspensionAtomically params now =>
    BackOfficeRepository.changePersonSuspensionAtomically params now

/-- Every call keeps the discipline. -/
theorem SessionCall.safe (c : SessionCall) (last : Store) :
    (c.call hash config).Safe (sessions ordered) (fun _ _ _ _ => True) last [] id := by
  cases c with
  | requestOtp dto code delivered now =>
    refine safe_createOtpRequest fun last' => ?_
    rw [← Prog.bind_done (Prog.require _ _)]
    exact .require fun _ => trivial
  | verifyOtp dto rawRefreshToken now => exact safe_verifyOtp
  | refresh refreshToken rawRefreshToken now => exact safe_refresh
  | changePersonSuspensionAtomically params now => exact safe_changePersonSuspensionAtomically

end VielHome.Auth
