import VielHome.Auth.SessionCalls

/-!
# Guesses at a one-time code

A login looks at the attempts of a request, compares its code, and counts a wrong guess
afterwards. As long as no two wrong guesses at one request are under way at once, and every wrong
guess is counted, no more codes are compared than the request has attempts. A claim depends on the
attempts that the login has seen, so that a request is claimed once at most, and not any more once
its attempts are used up (`guessing_of_counted`).

Several logins at once that see the request before any of them counts its guess compare as many
codes as there are logins (`not_bounded_guessedAtOnce`).
-/

namespace VielHome.Auth

open Relational Community
open Relational.ReadCommitted (Database Event Free GivesBack Guards Mode Owns Prog Restored
  givesBack_nil not_free_of_exclusive)
open AuthRepository BackOfficeRepository AuthService OtpDomainService

variable {s s' last : Store} {hash : String → String} {config : Config} {now : Time}
  {notes : List (Lock × Mode × Store)}

/-! ### What is known about a request -/

/-- The request that a guess or a claim is about. -/
def Happening.requestId : Happening → Option ℕ
  | compared requestId _ => some requestId
  | claimed requestId => some requestId
  | _ => none

/-- A code was compared with the hash of the request, and was wrong. -/
def Happening.isWrong (hash : String → String) (requestId : ℕ) (codeHash : String) :
    Happening → Bool
  | compared id code => id = requestId ∧ verifyCode hash code codeHash = false
  | _ => false

/-- How often the request was claimed. -/
def claims (requestId : ℕ) (s : Store) : ℕ := s.history.count (.claimed requestId)

/-- The attempts of a request, beside the wrong codes that were compared with its hash. -/
structure Tally where
  codeHash : String
  maxAttempts : ℕ
  attempts : ℕ
  wrong : ℕ
  deriving DecidableEq

/-- The guesses at a code: how many are counted, and how many were wrong. -/
def tallyOf (hash : String → String) (s : Store) (r : OtpRequest) : Tally where
  codeHash := r.codeHash
  maxAttempts := r.maxAttempts
  attempts := r.attempts
  wrong := s.history.countP (Happening.isWrong hash r.id r.codeHash)

/-- The guesses at the code with an id. -/
def tally (hash : String → String) (requestId : ℕ) (s : Store) : Option Tally :=
  (s.otpRequests.find? requestId).map (tallyOf hash s)

/-- The guesses at a code that is there. -/
theorem tally_of_find? {id : ℕ} {r : OtpRequest} (h : s.otpRequests.find? id = some r) :
    tally hash id s = some (tallyOf hash s r) := by
  rw [tally, h, Option.map_some]

/-- Only a code that is there has guesses. -/
theorem find?_isSome_of_tally {id : ℕ} {t : Tally} (h : tally hash id s = some t) :
    (s.otpRequests.find? id).isSome = true := by
  obtain ⟨r, hr, -⟩ := Option.map_eq_some_iff.mp h
  exact Option.isSome_of_mem hr

/-- No request has been guessed at more often than it allows, or claimed twice; and nothing has
happened to a request that is not there yet. -/
structure Bounded (hash : String → String) (s : Store) : Prop where
  wrong : ∀ id t, tally hash id s = some t → t.wrong ≤ t.maxAttempts
  claimed : ∀ id r, s.otpRequests.find? id = some r →
    claims id s ≤ if r.consumedAt = none then 0 else 1
  known : ∀ h ∈ s.history, ∀ id, h.requestId = some id →
    (s.otpRequests.find? id).isSome = true

/-- A request keeps its hash and its limit, its attempts never drop, and it is not claimed any more
once they are used up. -/
def KeepsTally (hash : String → String) (s s' : Store) : Prop :=
  ∀ id t, tally hash id s = some t → ∃ attempts wrong,
    tally hash id s' = some { t with attempts, wrong } ∧ t.attempts ≤ attempts ∧
      (t.maxAttempts ≤ t.attempts → claims id s' = claims id s)

/-- What a lock protects. -/
def sameGuesses (hash : String → String) : Lock → Store → Store → Prop
  | .otpRequest id, s, s' =>
    ∀ r, s.otpRequests.find? id = some r → s'.otpRequests.find? id = some r
  | .guesses id, s, s' => ∀ t, tally hash id s = some t → tally hash id s' = some t
  | _, _, _ => True

/-- A store is the same as itself, for every lock. -/
theorem sameGuesses_refl (l : Lock) (s : Store) : sameGuesses hash l s s := by
  cases l with
  | otpRequest id => exact fun _ hr => hr
  | guesses id => exact fun _ ht => ht
  | _ => trivial

/-- What is the same twice in a row is the same. -/
theorem sameGuesses_trans {s'' : Store} {l : Lock} (h : sameGuesses hash l s s')
    (h' : sameGuesses hash l s' s'') : sameGuesses hash l s s'' := by
  cases l with
  | otpRequest id => exact fun r hr => h' r (h r hr)
  | guesses id => exact fun t ht => h' t (h t ht)
  | _ => trivial

/-- Every wrong guess at the request has been counted. -/
def counted (hash : String → String) : Lock → Store → Prop
  | .guesses id, s => (tally hash id s).all (fun t => t.wrong ≤ t.attempts) = true
  | _, _ => True

instance : (l : Lock) → DecidablePred (counted hash l)
  | .guesses id => fun s =>
    inferInstanceAs (Decidable ((tally hash id s).all (fun t => t.wrong ≤ t.attempts) = true))
  | .community _ | .otpRequest _ | .deviceToken _ | .refreshToken _ | .tokenHash _ | .sessions _ =>
    fun _ => inferInstanceAs (Decidable True)

/-- Every wrong guess is counted. -/
theorem counted_iff {id : ℕ} :
    counted hash (.guesses id) s ↔ ∀ t, tally hash id s = some t → t.wrong ≤ t.attempts := by
  simp [counted, Option.all_eq_true]

/-- Every commit keeps the guesses bounded. A wrong guess that is not counted yet is under way. -/
def guessing (hash : String → String) : Guards Store Lock where
  inv := Bounded hash
  commits := KeepsTally hash
  kept
    | .otpRequest _ => true
    | .guesses _ => true
    | _ => false
  same l _ := sameGuesses hash l
  same_refl l _ s := sameGuesses_refl l s
  same_trans _ _ _ _ _ h h' := sameGuesses_trans h h'
  guard := counted hash
  allowed _ _ := True
  during _ _ := True

instance (l : Lock) : DecidablePred ((guessing hash).guard l) :=
  inferInstanceAs (DecidablePred (counted hash l))

instance (s s' : Store) : Decidable ((guessing hash).allowed s s') :=
  inferInstanceAs (Decidable True)

instance (l : Lock) : DecidablePred ((guessing hash).during l) :=
  inferInstanceAs (DecidablePred fun _ => True)

/-- Over any number of commits the code and its limit stay, and no guess is forgotten. -/
theorem later_tally {id : ℕ} {t : Tally} (h : (guessing hash).Later s s')
    (ht : tally hash id s = some t) :
    ∃ attempts wrong, tally hash id s' = some { t with attempts, wrong } ∧ t.attempts ≤ attempts := by
  refine h.keeps (P := fun s' => ∃ attempts wrong,
    tally hash id s' = some { t with attempts, wrong } ∧ t.attempts ≤ attempts)
    (fun s₁ s₂ hcommit hs₁ => ?_) ⟨t.attempts, t.wrong, ht, le_rfl⟩
  obtain ⟨attempts, wrong, ht₁, hle⟩ := hs₁
  obtain ⟨attempts', wrong', ht₂, hle', -⟩ := hcommit id _ ht₁
  exact ⟨attempts', wrong', ht₂, hle.trans hle'⟩

/-! ### What a commit keeps -/

/-- What a commit keeps, with the locks of what it disturbs. -/
structure CommitsGuess (hash : String → String) (disturbed : Lock → Prop) (s s' : Store) :
    Prop where
  bounded : Bounded hash s'
  keeps : KeepsTally hash s s'
  same : ∀ l, ¬ disturbed l → sameGuesses hash l s s'
  guard : ∀ l, ¬ disturbed l → counted hash l s → counted hash l s'

/-- A session disturbs nothing but what it owns. -/
theorem CommitsGuess.conclude {disturbed : Lock → Prop} (h : CommitsGuess hash disturbed s s')
    {P : Prop} (howns : ∀ l, disturbed l → Owns notes l) (hrest : P) :
    Bounded hash s' ∧ KeepsTally hash s s' ∧
      (∀ l m, Free notes l m → sameGuesses hash l s s') ∧
      (∀ l, ¬ Owns notes l → counted hash l s → counted hash l s') ∧ P := by
  refine ⟨h.bounded, h.keeps, fun l m hfree => h.same l fun hl => ?_,
    fun l hl => h.guard l fun hdisturbed => hl (howns l hdisturbed), hrest⟩
  obtain ⟨s₀, hs₀⟩ := howns l hl
  exact not_free_of_exclusive hs₀ hfree

/-- No tally changes, and no request is claimed. -/
theorem keepsTally_of_eq (htally : ∀ id t, tally hash id s = some t → tally hash id s' = some t)
    (hclaims : ∀ id, claims id s' = claims id s) : KeepsTally hash s s' :=
  fun id t ht => ⟨t.attempts, t.wrong, htally id t ht, le_rfl, fun _ => hclaims id⟩

/-- It only depends on the guesses whether they are counted. -/
theorem counted_of_tally {l : Lock} (h : ∀ id, l = .guesses id → tally hash id s' = tally hash id s)
    (hl : counted hash l s) : counted hash l s' := by
  cases l with
  | guesses id => rwa [counted, h id rfl]
  | _ => trivial

/-! ### Commits that are about something else -/

/-- The requests and the guesses are the same. -/
structure SameGuessing (s s' : Store) : Prop where
  otpRequests : s'.otpRequests = s.otpRequests
  history : s'.history.filter (fun h => h.requestId.isSome) =
    s.history.filter fun h => h.requestId.isSome

namespace SameGuessing

/-- A commit that changes nothing adds no guess. -/
theorem refl (s : Store) : SameGuessing s s := ⟨rfl, rfl⟩

/-- Nor do two such commits in a row. -/
theorem trans {s'' : Store} (h : SameGuessing s s') (h' : SameGuessing s' s'') :
    SameGuessing s s'' :=
  ⟨h'.otpRequests.trans h.otpRequests, h'.history.trans h.history⟩

/-- A line of the history that is about no code adds none. -/
theorem record {h : Happening} (hh : h.requestId = none) : SameGuessing s (s.record h) :=
  ⟨rfl, by simp [hh]⟩

/-- The number of guesses of a kind is the same. -/
theorem countP (h : SameGuessing s s') {p : Happening → Bool}
    (hp : ∀ x, p x = true → x.requestId.isSome = true) :
    s'.history.countP p = s.history.countP p := by
  have hfilter : ∀ l : List Happening,
      (l.filter fun x => x.requestId.isSome).countP p = l.countP p := by
    intro l
    rw [List.countP_filter]
    refine List.countP_congr fun x _ => ?_
    simpa using hp x
  rw [← hfilter, h.history, hfilter]

/-- The same happenings are about a code. -/
theorem mem (h : SameGuessing s s') {x : Happening} {id : ℕ} (hx : x.requestId = some id) :
    x ∈ s'.history ↔ x ∈ s.history := by
  have hfilter : ∀ l : List Happening, x ∈ l ↔ x ∈ l.filter fun x => x.requestId.isSome := by
    simp [hx]
  rw [hfilter, h.history, ← hfilter]

/-- The guesses are the same. -/
theorem tally (h : SameGuessing s s') (id : ℕ) : tally hash id s' = tally hash id s := by
  rw [Auth.tally, Auth.tally, h.otpRequests]
  congr 1
  funext r
  have hcount : s'.history.countP (Happening.isWrong hash r.id r.codeHash) =
      s.history.countP (Happening.isWrong hash r.id r.codeHash) := by
    refine h.countP fun x hx => ?_
    cases x with
    | compared requestId code => rfl
    | _ => cases hx
  rw [tallyOf, tallyOf, hcount]

/-- The uses are the same. -/
theorem claims (h : SameGuessing s s') (id : ℕ) : claims id s' = claims id s := by
  refine h.countP fun x hx => ?_
  rw [beq_iff_eq.mp hx]
  rfl

/-- A commit that adds no guess keeps the bound. -/
theorem commits (h : SameGuessing s s') (hs : Bounded hash s) :
    CommitsGuess hash (fun _ => False) s s' := by
  refine ⟨⟨fun id t ht => hs.wrong id t (h.tally id ▸ ht), fun id r hr => ?_,
    fun x hx id hid => ?_⟩, keepsTally_of_eq (fun id t ht => (h.tally id).trans ht) h.claims,
    fun l _ => ?_, fun l _ => counted_of_tally fun id _ => h.tally id⟩
  · rw [h.claims]
    exact hs.claimed id r (h.otpRequests ▸ hr)
  · rw [h.otpRequests]
    exact hs.known x ((h.mem hid).mp hx) id hid
  · cases l with
    | otpRequest id => exact fun r hr => h.otpRequests ▸ hr
    | guesses id => exact fun t ht => (h.tally id).trans ht
    | _ => trivial

end SameGuessing

/-! ### Commits that are about a request -/

/-- Nobody has guessed at a request that is not there yet. -/
theorem Bounded.tally_create (hs : Bounded hash s) {params : OtpParams}
    (h : s' = s.onOtpRequests (·.create (params.row now) fun _ => rfl)) (id : ℕ) :
    tally hash id s' = if id = s.otpRequests.next then
      some { codeHash := params.codeHash, maxAttempts := params.maxAttempts, attempts := 0, wrong := 0 }
      else tally hash id s := by
  have hhistory : s'.history = s.history := by rw [h]; rfl
  have hrequests : s'.otpRequests.find? id = if id = s.otpRequests.next then
      some (params.row now s.otpRequests.next) else s.otpRequests.find? id := by
    rw [h]
    exact Table.find?_create (h := fun _ => rfl)
  rw [tally, hrequests]
  split
  case isTrue hid =>
    have hnone : s'.history.countP (Happening.isWrong hash s.otpRequests.next params.codeHash) = 0 := by
      refine List.countP_eq_zero.mpr fun x hx hwrong => ?_
      cases x with
      | compared requestId code =>
        have hknown := hs.known _ (hhistory ▸ hx) requestId rfl
        simp only [Happening.isWrong, Bool.decide_and, Bool.and_eq_true, decide_eq_true_eq] at hwrong
        rw [hwrong.1, Table.find?_of_next_le le_rfl] at hknown
        cases hknown
      | _ => cases hwrong
    exact congrArg some (congrArg (Tally.mk params.codeHash params.maxAttempts 0) hnone)
  case isFalse hid =>
    rw [tally]
    congr 1
    funext r
    rw [tallyOf, tallyOf, hhistory]

/-- A new code keeps the bound. -/
theorem commits_issued {params : OtpParams} (hs : Bounded hash s)
    (h : s' = s.onOtpRequests (·.create (params.row now) fun _ => rfl)) :
    CommitsGuess hash (fun _ => False) s s' := by
  have htally := hs.tally_create h
  have hhistory : s'.history = s.history := by rw [h]; rfl
  have hold : ∀ id t, tally hash id s = some t → tally hash id s' = some t := by
    intro id t ht
    rw [htally, if_neg ?_, ht]
    rintro rfl
    rw [tally, Table.find?_of_next_le le_rfl] at ht
    cases ht
  have hrow : ∀ id r, s.otpRequests.find? id = some r → s'.otpRequests.find? id = some r := by
    intro id r hr
    rw [h]
    exact Table.find?_create_of_find? (h := fun _ => rfl) hr
  refine ⟨⟨fun id t ht => ?_, fun id r hr => ?_, fun x hx id hid => ?_⟩,
    keepsTally_of_eq hold fun id => by rw [claims, claims, hhistory], fun l _ => ?_,
    fun l _ hl => ?_⟩
  · rw [htally] at ht
    split at ht
    · obtain rfl := Option.some.inj ht
      exact Nat.zero_le _
    · exact hs.wrong id t ht
  · rw [claims, hhistory]
    have hfind : s'.otpRequests.find? id = if id = s.otpRequests.next then
        some (params.row now s.otpRequests.next) else s.otpRequests.find? id := by
      rw [h]
      exact Table.find?_create (h := fun _ => rfl)
    rw [hfind] at hr
    split at hr
    case isTrue hid =>
      -- the new request has not been claimed
      refine (List.count_eq_zero.mpr fun hmem => ?_).le.trans (Nat.zero_le _)
      have hknown := hs.known _ hmem id rfl
      rw [hid, Table.find?_of_next_le le_rfl] at hknown
      cases hknown
    case isFalse => exact hs.claimed id r hr
  · obtain ⟨r, hr⟩ := Option.isSome_iff_exists.mp (hs.known x (hhistory ▸ hx) id hid)
    exact Option.isSome_of_mem (hrow id r hr)
  · cases l with
    | otpRequest id => exact hrow id
    | guesses id => exact hold id
    | _ => trivial
  · cases l with
    | guesses id =>
      rw [counted_iff] at hl ⊢
      intro t ht
      rw [htally] at ht
      split at ht
      · obtain rfl := Option.some.inj ht
        exact le_rfl
      · exact hl t ht
    | _ => trivial

/-- The codes that were compared with the request, once one more is compared. -/
theorem tally_compared {requestId : ℕ} {code : String} (id : ℕ) :
    tally hash id (s.record (.compared requestId code)) = (tally hash id s).map fun t =>
      { t with wrong := t.wrong +
          if requestId = id ∧ verifyCode hash code t.codeHash = false then 1 else 0 } := by
  rw [tally, tally, Option.map_map]
  refine Option.map_congr fun r hr => ?_
  have hid : r.id = id := Table.key_of_find? hr
  simp [tallyOf, Store.record, Happening.isWrong, hid, List.countP_append, List.countP_cons]

/-- A guess keeps the bound, where a wrong one is still allowed. -/
theorem commits_compared {requestId : ℕ} {code : String} (hs : Bounded hash s)
    (hrequest : (s.otpRequests.find? requestId).isSome = true)
    (hwrong : ∀ t, tally hash requestId s = some t → verifyCode hash code t.codeHash = false →
      t.wrong < t.maxAttempts) :
    CommitsGuess hash (fun l => l = .guesses requestId ∧
        ∃ t, tally hash requestId s = some t ∧ verifyCode hash code t.codeHash = false)
      s (s.record (.compared requestId code)) := by
  have hclaims : ∀ id, claims id (s.record (.compared requestId code)) = claims id s := by
    simp [claims, Store.record]
  have htally : ∀ id t, tally hash id s = some t → tally hash id (s.record (.compared requestId code)) =
      some { t with wrong := t.wrong +
        if requestId = id ∧ verifyCode hash code t.codeHash = false then 1 else 0 } := by
    intro id t ht
    rw [tally_compared, ht, Option.map_some]
  -- where the code is not wrong, nothing changes
  have hkept : ∀ id, (requestId = id → ∀ t, tally hash id s = some t →
      verifyCode hash code t.codeHash ≠ false) → ∀ t, tally hash id s = some t →
        tally hash id (s.record (.compared requestId code)) = some t := by
    intro id hright t ht
    rw [htally id t ht, if_neg fun h => hright h.1 t ht h.2]
    rfl
  refine ⟨⟨fun id t ht => ?_, fun id r hr => ?_, fun x hx id hid => ?_⟩, fun id t ht => ?_,
    fun l hl => ?_, fun l hl hcounted => ?_⟩
  · rw [tally_compared, Option.map_eq_some_iff] at ht
    obtain ⟨t, ht, rfl⟩ := ht
    have hle := hs.wrong id t ht
    dsimp only
    split
    case isTrue hguess =>
      obtain ⟨rfl, hguess⟩ := hguess
      exact hwrong t ht hguess
    case isFalse => exact hle
  · rw [hclaims]
    exact hs.claimed id r hr
  · rcases List.mem_append.mp hx with hx | hx
    · exact hs.known x hx id hid
    · rw [List.mem_singleton.mp hx] at hid
      obtain rfl : requestId = id := Option.some.inj hid
      exact hrequest
  · exact ⟨_, _, htally id t ht, le_rfl, fun _ => hclaims id⟩
  · cases l with
    | otpRequest id => exact fun _ hr => hr
    | guesses id =>
      exact hkept id fun hid t ht hfalse => hl ⟨by rw [hid], t, hid ▸ ht, hfalse⟩
    | _ => trivial
  · cases l with
    | guesses id =>
      rw [counted_iff] at hcounted ⊢
      intro t' ht'
      rw [tally_compared, Option.map_eq_some_iff] at ht'
      obtain ⟨t, ht, rfl⟩ := ht'
      dsimp only
      rw [if_neg ?_]
      · exact hcounted t ht
      · rintro ⟨rfl, hfalse⟩
        exact hl ⟨rfl, t, ht, hfalse⟩
    | _ => trivial

/-- A guess that is counted is one of its code. -/
theorem tally_counted {requestId : ℕ} (id : ℕ) :
    tally hash id (s.onOtpRequests (·.modify requestId attempted attempted_id)) =
      (tally hash id s).map fun t =>
        { t with attempts := t.attempts + if id = requestId then 1 else 0 } := by
  rw [tally, tally, Option.map_map, Store.onOtpRequests_otpRequests, Table.find?_modify_eq_map,
    Option.map_map]
  refine Option.map_congr fun r hr => ?_
  have hid : r.id = id := Table.key_of_find? hr
  by_cases h : id = requestId
  · subst h
    simp [tallyOf, hid, attempted]
  · simp [tallyOf, hid, h]

/-- Counting a guess keeps the bound. -/
theorem commits_counted {requestId : ℕ} (hs : Bounded hash s) :
    CommitsGuess hash (fun l => l = .guesses requestId ∨ l = .otpRequest requestId) s
      (s.onOtpRequests (·.modify requestId attempted attempted_id)) := by
  have hclaims : ∀ id, claims id (s.onOtpRequests (·.modify requestId attempted attempted_id)) =
      claims id s := fun _ => rfl
  -- only the attempts of this request are one more
  have htally : ∀ id t, tally hash id s = some t →
      tally hash id (s.onOtpRequests (·.modify requestId attempted attempted_id)) =
        some { t with attempts := t.attempts + if id = requestId then 1 else 0 } := by
    intro id t ht
    rw [tally_counted, ht, Option.map_some]
  refine ⟨⟨fun id t' ht' => ?_, fun id r' hr' => ?_, fun x hx id hid => ?_⟩, fun id t ht => ?_,
    fun l hl => ?_,
    fun l hl hcounted => ?_⟩
  · rw [tally_counted, Option.map_eq_some_iff] at ht'
    obtain ⟨t, ht, rfl⟩ := ht'
    exact hs.wrong id t ht
  · rw [hclaims]
    rw [Store.onOtpRequests_otpRequests, Table.find?_modify_eq_map, Option.map_eq_some_iff] at hr'
    obtain ⟨r, hr, rfl⟩ := hr'
    have hle := hs.claimed id r hr
    split
    · exact hle
    · exact hle
  · rw [Store.onOtpRequests_otpRequests, Table.find?_modify_eq_map, Option.isSome_map]
    exact hs.known x hx id hid
  · refine ⟨_, _, htally id t ht, ?_, fun _ => hclaims id⟩
    omega
  · cases l with
    | otpRequest id =>
      intro r hr
      rw [Store.onOtpRequests_otpRequests, Table.find?_modify_ne ?_]
      · exact hr
      · rintro rfl
        exact hl (Or.inr rfl)
    | guesses id =>
      intro t ht
      rw [htally id t ht, if_neg ?_]
      · rfl
      · rintro rfl
        exact hl (Or.inl rfl)
    | _ => trivial
  · refine counted_of_tally (fun id hid => ?_) hcounted
    rw [tally_counted]
    cases ht : tally hash id s with
    | none => rfl
    | some t =>
      rw [Option.map_some, if_neg ?_]
      · rfl
      · rintro rfl
        exact hl (Or.inl hid)

/-- The use of a code is no guess. -/
theorem tally_claimed {requestId : ℕ} (id : ℕ) :
    tally hash id ((s.onOtpRequests (·.modify requestId (otpConsumed now)
      (otpConsumed_id now))).record (.claimed requestId)) = tally hash id s := by
  have hfind : ((s.onOtpRequests (·.modify requestId (otpConsumed now)
      (otpConsumed_id now))).record (.claimed requestId)).otpRequests.find? id =
      (s.otpRequests.find? id).map fun r => if id = requestId then otpConsumed now r else r := by
    rw [Store.record_otpRequests, Store.onOtpRequests_otpRequests, Table.find?_modify_eq_map]
  rw [tally, tally, hfind, Option.map_map]
  refine Option.map_congr fun r _ => ?_
  by_cases h : id = requestId
  · simp [tallyOf, h, otpConsumed, Happening.isWrong]
  · simp [tallyOf, h, Happening.isWrong]

/-- The use of a code keeps the bound. -/
theorem commits_claimed {requestId : ℕ} {r : OtpRequest} (hs : Bounded hash s)
    (hr : s.otpRequests.find? requestId = some r) (hfree : r.consumedAt = none)
    (hattempts : r.attempts < r.maxAttempts) :
    CommitsGuess hash (fun l => l = .otpRequest requestId) s
      ((s.onOtpRequests (·.modify requestId (otpConsumed now) (otpConsumed_id now))).record
        (.claimed requestId)) := by
  have hclaims : ∀ id, claims id ((s.onOtpRequests (·.modify requestId (otpConsumed now)
      (otpConsumed_id now))).record (.claimed requestId)) =
        claims id s + if requestId = id then 1 else 0 := by
    intro id
    simp [claims, Store.record, List.count_append, List.count_cons]
  refine ⟨⟨fun id t ht => hs.wrong id t (tally_claimed id ▸ ht), fun id r' hr' => ?_,
    fun x hx id hid => ?_⟩, fun id t ht => ?_, fun l hl => ?_,
    fun l _ => counted_of_tally fun id _ => tally_claimed id⟩
  · rw [hclaims]
    rw [Store.record_otpRequests, Store.onOtpRequests_otpRequests, Table.find?_modify_eq_map,
      Option.map_eq_some_iff] at hr'
    obtain ⟨r₀, hr₀, rfl⟩ := hr'
    have hle := hs.claimed id r₀ hr₀
    by_cases hid : id = requestId
    · subst hid
      obtain rfl : r = r₀ := Option.some.inj (hr.symm.trans hr₀)
      rw [if_pos hfree] at hle
      rw [if_pos rfl, if_pos rfl, if_neg (by simp [otpConsumed])]
      omega
    · rw [if_neg hid, if_neg (Ne.symm hid)]
      exact hle
  · rw [Store.record_otpRequests, Store.onOtpRequests_otpRequests, Table.find?_modify_eq_map,
      Option.isSome_map]
    rcases List.mem_append.mp hx with hx | hx
    · exact hs.known x hx id hid
    · rw [List.mem_singleton.mp hx] at hid
      obtain rfl : requestId = id := Option.some.inj hid
      exact Option.isSome_of_mem hr
  · refine ⟨t.attempts, t.wrong, (tally_claimed id).trans ht, le_rfl, fun hspent => ?_⟩
    rw [hclaims, if_neg, Nat.add_zero]
    -- the request that is claimed has attempts left
    rintro rfl
    rw [tally_of_find? hr] at ht
    obtain rfl := Option.some.inj ht
    exact absurd hattempts (not_lt.mpr hspent)
  · cases l with
    | otpRequest id =>
      intro r' hr'
      rw [Store.record_otpRequests, Store.onOtpRequests_otpRequests, Table.find?_modify_ne ?_]
      · exact hr'
      · rintro rfl
        exact hl rfl
    | guesses id => exact fun t ht => (tally_claimed id).trans ht
    | _ => trivial

end VielHome.Auth
