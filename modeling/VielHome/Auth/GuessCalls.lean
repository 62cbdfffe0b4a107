import VielHome.Auth.Guesses
import VielHome.Auth.Sessions

/-!
# Logins that guess

What follows once a code is accepted, and every call that accepts none, leaves the requests alone
(`leaves_issueTokens`, `leaves_refresh`). A login is at work on a request from the moment it sees
the request with a code that is wrong until it has counted the guess (`guarded_acceptCode`).
-/

namespace VielHome.Auth

open Relational Community
open Relational.ReadCommitted (Database Event GivesBack Mode Owns Prog givesBack_nil)
open AuthRepository BackOfficeRepository AuthService OtpDomainService

variable {α : Type} {s s' last : Store} {hash : String → String} {config : Config} {now : Time}
  {notes : List (Lock × Mode × Store)}

/-! ### Calls that leave the requests alone -/

/-- The program leaves the requests and the guesses alone. -/
abbrev LeavesGuesses (hash : String → String) (p : Call α) : Prop :=
  p.Leaves SameGuessing (guessing hash).kept

theorem guarded_of_leaves {p : Call PUnit} (hp : LeavesGuesses hash p) :
    p.Guarded (guessing hash) (Prog.Guarded.AtEnd (guessing hash)) last [] id := by
  refine .leaves hp SameGuessing.refl SameGuessing.trans (fun h hs => (h.commits hs).bounded)
    (fun h => keepsTally_of_eq (fun id t ht => (h.tally id).trans ht) h.claims)
    (fun h l m => ?_) (fun h l => counted_of_tally fun id _ => h.tally id) SameGuessing.refl
  change sameGuesses hash l _ _
  cases l with
  | otpRequest id => exact fun r hr => h.otpRequests ▸ hr
  | guesses id => exact fun t ht => (h.tally id).trans ht
  | _ => trivial

theorem leaves_onCommunity (p : Community.Call α) : LeavesGuesses hash (onCommunity p) :=
  .lift p (fun _ _ => ⟨rfl, rfl⟩) fun _ => rfl

theorem leaves_findOrCreatePerson {phone : String} :
    LeavesGuesses hash (findOrCreatePerson phone) := by
  refine (Prog.Leaves.queryUnder SameGuessing.refl ?_).bind fun person => ?_
  · simp [guessing]
  · cases person with
    | some person => trivial
    | none =>
      refine (Prog.Leaves.writeUnless ?_ fun _ => ⟨rfl, rfl⟩).bind fun _ =>
        (Prog.Leaves.commitKeeping _).bind fun _ =>
        (Prog.Leaves.query SameGuessing.refl _).bind fun _ => (Prog.Leaves.expect _ _).bind
          fun _ => trivial
      simp [guessing]

theorem same_upsert (params : DeviceParams) (s : Store) : SameGuessing s (params.upsert now s) := by
  rw [DeviceParams.upsert]
  split
  · exact ⟨rfl, rfl⟩
  · exact ⟨rfl, rfl⟩

theorem leaves_upsertDevice {params : DeviceParams} {keep : List Lock} :
    LeavesGuesses hash (upsertDevice params now keep) := by
  refine (Prog.Leaves.writeUnless ?_ (same_upsert params)).bind fun _ =>
    (Prog.Leaves.commitKeeping _).bind fun _ => (Prog.Leaves.query SameGuessing.refl _).bind
      fun _ => Prog.Leaves.expect _ _
  simp [guessing]

theorem leaves_createRefreshToken {params : TokenParams} :
    LeavesGuesses hash (createRefreshToken params) := by
  refine .transaction (.writeUnless (by simp [guessing]) fun s => ?_)
  have hcreate : SameGuessing s (params.create s) := ⟨rfl, rfl⟩
  exact hcreate.trans (.record rfl)

/-- What a login does once its code is accepted. -/
theorem leaves_issueTokens {phone deviceToken platform rawRefreshToken : String} :
    LeavesGuesses hash (do
      let person ← findOrCreatePerson phone
      Prog.require (person.isSuspended = false)
        (.authorization "Your account has been suspended. Contact support for assistance.")
      let device ← upsertDevice { personId := person.id, deviceToken, platform } now
        [.sessions phone]
      issueTokenPair hash config person.id device.id rawRefreshToken now) :=
  leaves_findOrCreatePerson.bind fun _ => (Prog.Leaves.require _ _).bind fun _ =>
    leaves_upsertDevice.bind fun _ => leaves_createRefreshToken

theorem same_succeed (params : RotateParams) (s : Store) : SameGuessing s (params.succeed s) := by
  have hcreate : SameGuessing s (params.successor.create s) := ⟨rfl, rfl⟩
  have hreplace : SameGuessing (params.successor.create s)
      ((params.successor.create s).onRefreshTokens (·.modify params.id
        (replaced s.refreshTokens.next) (replaced_id s.refreshTokens.next))) := ⟨rfl, rfl⟩
  exact (hcreate.trans hreplace).trans (.record rfl)

theorem leaves_refresh {refreshToken rawRefreshToken : String} :
    LeavesGuesses hash (refresh hash config refreshToken rawRefreshToken now) := by
  refine (Prog.Leaves.query SameGuessing.refl _).bind fun _ => (Prog.Leaves.expect _ _).bind fun _ =>
    (Prog.Leaves.require _ _).bind fun _ => (Prog.Leaves.require _ _).bind fun _ =>
    (Prog.Leaves.queryUnder SameGuessing.refl fun s l hl => ?_).bind fun _ =>
    (Prog.Leaves.require _ _).bind fun _ => .transaction ?_
  · rw [sessionsOf] at hl
    split at hl
    · rw [List.mem_singleton.mp hl]
      rfl
    · exact absurd hl List.not_mem_nil
  · refine .bind (.claim SameGuessing.refl rfl fun _ => ⟨rfl, rfl⟩) fun _ =>
      .writeUnless (by simp [guessing]) (same_succeed _)

theorem leaves_changePersonSuspensionAtomically
    {params : Backoffice.BackOfficeRepository.ChangePersonSuspensionParams} :
    LeavesGuesses hash (changePersonSuspensionAtomically params now) := by
  refine .transaction ?_
  refine (leaves_onCommunity _).bind fun _ => (Prog.Leaves.require _ _).bind fun _ =>
    (Prog.Leaves.query SameGuessing.refl _).bind fun _ =>
    (Prog.Leaves.query SameGuessing.refl _).bind fun _ => (Prog.Leaves.expect _ _).bind fun _ =>
    (Prog.Leaves.expect _ _).bind fun _ => (Prog.Leaves.require _ _).bind fun _ =>
    (leaves_onCommunity _).bind fun _ =>
    .bind (.claim SameGuessing.refl rfl fun _ => ⟨rfl, rfl⟩) fun _ => ?_
  split
  · refine (Prog.Leaves.queryUnder SameGuessing.refl fun s l hl => ?_).bind fun _ =>
      .updateEach SameGuessing.refl (fun _ => rfl) fun _ _ => ⟨rfl, rfl⟩
    rw [sessionsOf] at hl
    split at hl
    · rw [List.mem_singleton.mp hl]
      rfl
    · exact absurd hl List.not_mem_nil
  · trivial

/-! ### Calls that are about a request -/

theorem guarded_createOtpRequest {params : OtpParams} {f : PUnit → Call PUnit}
    (h : ∀ last, (f ⟨⟩).Guarded (guessing hash) (Prog.Guarded.AtEnd (guessing hash)) last [] id) :
    (createOtpRequest params now >>= f).Guarded (guessing hash)
      (Prog.Guarded.AtEnd (guessing hash)) last [] id := by
  rw [createOtpRequest, Prog.transaction]
  simp only [Prog.bind_assoc]
  refine .write fun s₁ _ _ _ => .commitAll fun s hs _ _ _ _ => ?_
  refine (commits_issued hs rfl).conclude (fun l hl => hl.elim) ⟨fun l hl => ?_, h _⟩
  exact absurd hl.choose_spec List.not_mem_nil

theorem mem_of_findLatestActiveOtp {phone : String} {purpose : OtpPurpose} {r : OtpRequest}
    (h : findLatestActiveOtp phone purpose s = some r) :
    r ∈ s.otpRequests ∧ r.phone = phone ∧ r.purpose = purpose ∧ r.consumedAt = none := by
  have hmem := List.mem_of_mem_head? h
  rw [List.mem_insertionSort, activeOtps, List.mem_filter] at hmem
  exact ⟨hmem.1, by simpa using hmem.2⟩

theorem claimOtp_attempts {params : ClaimOtpParams} {r : OtpRequest}
    (h : params.matches_ r = true) : r.attempts = params.attempts ∧ r.consumedAt = none := by
  simp only [ClaimOtpParams.matches_, decide_eq_true_eq] at h
  exact ⟨h.2.2.2.1, h.2.2.2.2.1⟩

/-- Who holds nothing but the row of a request is at work on no guess. -/
theorem counted_of_owns_row {id : ℕ} {l : Lock} {s₀ : Store}
    (hl : Owns [(.otpRequest id, .exclusive, s₀)] l) : counted hash l s := by
  obtain ⟨s₁, hs₁⟩ := hl
  have hl : l = .otpRequest id := congrArg Prod.fst (List.mem_singleton.mp hs₁)
  rw [hl]
  trivial

/-- The request is claimed while it has the attempts that the caller saw. -/
theorem guarded_claimOtp {params : ClaimOtpParams} {t : Tally}
    (ht : tally hash params.id last = some t) (hattempts : params.attempts < t.maxAttempts) :
    (claimOtp params).Guarded (guessing hash) (fun _ _ notes pending => notes = [] ∧ pending = id)
      last [] id := by
  rw [claimOtp, Prog.transaction, Prog.claim]
  simp only [Prog.bind_assoc]
  refine .query fun s₀ _ hlast₀ _ => .require (fun _ => givesBack_nil) fun _ => ?_
  refine .writeIf (fun _ _ _ _ _ _ _ _ _ _ => counted_of_owns_row) fun s₁ _ hlast₁ _ hmatched => ?_
  obtain ⟨r, hr, hmatches⟩ := (Option.any_eq_true _ _).mp hmatched
  obtain ⟨hseen, hfree⟩ := claimOtp_attempts hmatches
  have hr : s₁.otpRequests.find? params.id = some r := hr
  obtain ⟨attempts, wrong, ht₁, -⟩ := later_tally (hlast₀.trans hlast₁) ht
  rw [tally_of_find? hr] at ht₁
  have hmax : r.maxAttempts = t.maxAttempts := congrArg Tally.maxAttempts (Option.some.inj ht₁)
  refine .commitAll fun s hs _ hknows _ _ => ?_
  -- nobody else has written the row since it was matched
  have hr' : s.otpRequests.find? params.id = some r :=
    hknows _ (List.mem_singleton_self (Lock.otpRequest params.id, Mode.exclusive, s₁)) r hr
  refine (commits_claimed hs hr' hfree (by omega)).conclude (fun l hl => ?_)
    ⟨fun l => counted_of_owns_row, rfl, rfl⟩
  rw [hl]
  exact ⟨s₁, List.mem_singleton_self _⟩

/-- The wrong guess is counted, and given back. -/
theorem guarded_incrementOtpAttempts {requestId : ℕ} {t : Tally} {e : Failure}
    (ht : tally hash requestId last = some t) (hwrong : t.wrong ≤ t.attempts + 1) :
    (incrementOtpAttempts requestId >>= fun _ => .fail e).Guarded (guessing hash)
      (fun (_ : PUnit) _ notes pending => notes = [] ∧ pending = id) last
      [(.guesses requestId, .exclusive, last)] id := by
  rw [incrementOtpAttempts, Prog.transaction]
  simp only [Prog.bind_assoc]
  refine .writeIf (fun s₁ _ _ hknows hmissing => ?_) fun s₁ _ _ _ _ =>
    .commitAll fun s hs _ hknows _ _ => ?_
  · -- the request is still there
    have ht₁ : tally hash requestId s₁ = some t := hknows _ List.mem_cons_self t ht
    obtain ⟨r, hr, -⟩ := Option.map_eq_some_iff.mp ht₁
    have hr : (s₁.otpRequests.find? requestId).isSome = true := by rw [hr]; rfl
    exact absurd (hmissing.symm.trans hr) Bool.false_ne_true
  · have ht' : tally hash requestId s = some t := hknows _ List.mem_cons_self t ht
    refine (commits_counted hs).conclude (fun l hl => ?_) ⟨fun l hl => ?_, givesBack_nil⟩
    · rcases hl with rfl | rfl
      · exact ⟨_, List.mem_cons_self⟩
      · exact ⟨_, List.mem_cons_of_mem _ (List.mem_singleton_self _)⟩
    · obtain ⟨s₀, hs₀⟩ := hl
      rcases List.mem_cons.mp hs₀ with hl | hl
      · have hl : l = .guesses requestId := congrArg Prod.fst hl
        rw [hl]
        refine counted_iff.mpr fun t' ht'' => ?_
        rw [id, tally_counted, ht', Option.map_some] at ht''
        obtain rfl := Option.some.inj ht''
        simpa using hwrong
      · have hl : l = .otpRequest requestId := congrArg Prod.fst (List.mem_singleton.mp hl)
        rw [hl]
        trivial

/-- A wrong code is compared while the request has attempts left, and counted. -/
theorem guarded_wrongCode {requestId : ℕ} {code : String} {t : Tally} {e : Failure}
    (ht : tally hash requestId last = some t) (hcounted : t.wrong ≤ t.attempts)
    (hattempts : t.attempts < t.maxAttempts) (hcode : verifyCode hash code t.codeHash = false) :
    (compareCode requestId code >>= fun _ => incrementOtpAttempts requestId >>= fun _ =>
      .fail e).Guarded (guessing hash) (fun (_ : PUnit) _ notes pending => notes = [] ∧ pending = id)
      last [(.guesses requestId, .exclusive, last)] id := by
  rw [compareCode]
  simp only [Prog.bind_assoc]
  refine .write fun s₁ _ _ _ => .commitKeeping fun s hs _ hknows _ _ => ?_
  have ht' : tally hash requestId s = some t := hknows _ List.mem_cons_self t ht
  have hless : ∀ t', tally hash requestId s = some t' → verifyCode hash code t'.codeHash = false →
      t'.wrong < t'.maxAttempts := by
    intro t' ht'' _
    obtain rfl : t = t' := Option.some.inj (ht'.symm.trans ht'')
    omega
  refine (commits_compared hs (find?_isSome_of_tally ht') hless).conclude (fun l hl => ?_)
    ⟨fun l hl hkeep => ?_, ?_⟩
  · rw [hl.1]
    exact ⟨_, List.mem_cons_self⟩
  · obtain ⟨s₀, hs₀⟩ := hl
    have hl : l = .guesses requestId := congrArg Prod.fst (List.mem_singleton.mp hs₀)
    exact absurd (List.mem_singleton.mpr hl) hkeep
  · have hnotes : ReadCommitted.refreshed [.guesses requestId]
        ([(.guesses requestId, .exclusive, last)] ++ (guessing hash).taken [] s₁)
        (s.record (.compared requestId code)) =
        [(.guesses requestId, .exclusive, s.record (.compared requestId code))] := by
      simp [ReadCommitted.refreshed]
    rw [id, hnotes]
    refine guarded_incrementOtpAttempts (t := { t with wrong := t.wrong + 1 }) ?_ ?_
    · rw [tally_compared, ht', Option.map_some, if_pos ⟨rfl, hcode⟩]
    · exact Nat.succ_le_succ hcounted

/-- The right code is compared, and the request is claimed. -/
theorem guarded_rightCode {requestId : ℕ} {code : String} {params : ClaimOtpParams} {t : Tally}
    (ht : tally hash requestId last = some t) (hparams : params.id = requestId)
    (hattempts : params.attempts < t.maxAttempts) (hcode : verifyCode hash code t.codeHash = true) :
    (compareCode requestId code >>= fun _ => claimOtp params).Guarded (guessing hash)
      (fun _ _ notes pending => notes = [] ∧ pending = id) last [] id := by
  subst hparams
  rw [compareCode]
  simp only [Prog.bind_assoc]
  refine .write fun s₁ _ hlast₁ _ => .commitKeeping fun s hs hlast _ _ _ => ?_
  obtain ⟨attempts, wrong, ht', -⟩ := later_tally (hlast₁.trans hlast) ht
  have hright : ∀ t', tally hash params.id s = some t' → verifyCode hash code t'.codeHash ≠ false := by
    intro t' ht'' hfalse
    obtain rfl := Option.some.inj (ht'.symm.trans ht'')
    exact Bool.false_ne_true (hfalse.symm.trans hcode)
  refine (commits_compared hs (find?_isSome_of_tally ht') fun t' ht'' hfalse =>
    absurd hfalse (hright t' ht'')).conclude (fun l hl => ?_) ⟨fun l hl => ?_, ?_⟩
  · obtain ⟨-, t', ht'', hfalse⟩ := hl
    exact absurd hfalse (hright t' ht'')
  · exact absurd hl.choose_spec List.not_mem_nil
  · refine guarded_claimOtp (t := { t with attempts, wrong }) ?_ hattempts
    rw [id, tally_compared, ht', Option.map_some, if_neg fun h => hright _ ht' h.2]
    rfl

/-- A login that sees a request with attempts left is at work on it when its code is wrong. -/
theorem guarded_acceptCode {dto : VerifyOtpDto} :
    (acceptCode hash dto now).Guarded (guessing hash) (fun _ _ notes pending => notes = [] ∧ pending = id)
      last [] id := by
  rw [acceptCode]
  refine .queryUnder fun s₀ _ _ _ hguard => ?_
  simp only [id_eq] at hguard ⊢
  cases hfound : findLatestActiveOtp dto.phone dto.purpose s₀ with
  | none =>
    rw [guessLock, hfound]
    exact .expect (fun _ => givesBack_nil) fun r hr => by cases hr
  | some r =>
    obtain ⟨hmem, -, -, hfree⟩ := mem_of_findLatestActiveOtp hfound
    have ht : tally hash r.id s₀ = some (tallyOf hash s₀ r) := tally_of_find? (Table.find?_of_mem hmem)
    rw [guessLock, hfound] at hguard ⊢
    simp only [OtpPolicy.assertNotExpired, OtpPolicy.assertAttemptsRemaining, Prog.bind_assoc] at hguard ⊢
    by_cases hguess : compares now r = true ∧ verifyCode hash dto.code r.codeHash = false
    case pos =>
      rw [if_pos hguess] at hguard ⊢
      obtain ⟨hcompares, hwrong⟩ := hguess
      obtain ⟨hexpires, hattempts⟩ : now ≤ r.expiresAt ∧ r.attempts < r.maxAttempts := by
        simpa [compares] using hcompares
      refine .expect (fun hnone => by cases hnone) fun r' hr' => ?_
      obtain rfl : r = r' := Option.some.inj hr'
      refine .require (fun h => absurd hfree h) fun _ => .require (fun h => absurd hexpires h)
        fun _ => .require (fun h => absurd hattempts h) fun _ => ?_
      rw [if_neg (by simp [hwrong])]
      -- every wrong guess before this one has been counted
      have hcounted := (hguard (.guesses r.id) (List.mem_singleton_self _) rfl).resolve_right
        fun h => absurd h.choose_spec List.not_mem_nil
      exact guarded_wrongCode ht (counted_iff.mp hcounted _ ht) hattempts hwrong
    case neg =>
      rw [if_neg hguess]
      refine .expect (fun hnone => by cases hnone) fun r' hr' => ?_
      obtain rfl : r = r' := Option.some.inj hr'
      refine .require (fun _ => givesBack_nil) fun _ => .require (fun _ => givesBack_nil)
        fun hexpires => .require (fun _ => givesBack_nil) fun hattempts => ?_
      have hright : verifyCode hash dto.code r.codeHash = true := by
        by_contra hwrong
        exact hguess ⟨by simpa [compares] using ⟨hexpires, hattempts⟩, by simpa using hwrong⟩
      rw [if_pos hright]
      exact guarded_rightCode ht rfl hattempts hright

theorem SessionCall.guarded (c : SessionCall) (last : Store) :
    (c.call hash config).Guarded (guessing hash) (Prog.Guarded.AtEnd (guessing hash)) last [] id := by
  cases c with
  | requestOtp dto code delivered now =>
    exact guarded_createOtpRequest fun last => guarded_of_leaves (Prog.Leaves.require _ _)
  | verifyOtp dto rawRefreshToken now =>
    refine guarded_acceptCode.bind fun _ last notes pending hend => ?_
    obtain ⟨rfl, rfl⟩ := hend
    exact guarded_of_leaves leaves_issueTokens
  | refresh refreshToken rawRefreshToken now => exact guarded_of_leaves leaves_refresh
  | changePersonSuspensionAtomically params now =>
    exact guarded_of_leaves leaves_changePersonSuspensionAtomically

/-! ### Runs -/

/-- The event counts every wrong guess before the next one at the request sees it, and cuts off no
wrong guess that has been compared and not counted. -/
abbrev Counted {ι α : Type} [DecidableEq ι] (hash : String → String) (d : Sessions ι α)
    (e : Event ι Failure) : Prop :=
  d.Permitted Lock.enforced (guessing hash) e

/-- No more wrong codes were compared with the hash of a request than it allows, it was claimed once
at most, and not since its attempts were used up. -/
structure GuessesBounded (hash : String → String) (requestId : ℕ) (s s' : Store) : Prop where
  wrong : ∀ t, tally hash requestId s' = some t → t.wrong ≤ t.maxAttempts
  claimed : claims requestId s' ≤ 1
  exhausted : ∀ t, tally hash requestId s = some t → t.maxAttempts ≤ t.attempts →
    claims requestId s' = claims requestId s

theorem Bounded.claims_le_one (hs : Bounded hash s) (requestId : ℕ) : claims requestId s ≤ 1 := by
  cases hr : s.otpRequests.find? requestId with
  | none =>
    refine (List.count_eq_zero.mpr fun hmem => ?_).le.trans (Nat.zero_le _)
    have hknown := hs.known _ hmem requestId rfl
    rw [hr] at hknown
    cases hknown
  | some r =>
    refine (hs.claimed requestId r hr).trans ?_
    split <;> omega

/-- Any number of calls, statement by statement in any order: the guesses at every request are
bounded, as long as every wrong guess is counted before the next one sees the request. -/
theorem guessing_of_counted {ι : Type} [DecidableEq ι] (hs : Bounded hash s)
    (hcounted : ∀ requestId t, tally hash requestId s = some t → t.wrong ≤ t.attempts)
    (calls : ι → SessionCall) {es : List (Event ι Failure)}
    (hes : EachStep (Database.next Lock.enforced) (Counted hash)
      (Database.start s fun i => (calls i).call hash config) es) :
    ∀ es', es' <+: es → ∀ requestId,
      GuessesBounded hash requestId (runCalls s (fun i => (calls i).call hash config) es').store
        (runCalls s (fun i => (calls i).call hash config) es).store := by
  rintro es' ⟨rest, rfl⟩ requestId
  have hguard : ∀ l, (guessing hash).kept l = true → (guessing hash).guard l s := by
    intro l _
    cases l with
    | guesses id => exact counted_iff.mpr (hcounted id)
    | _ => trivial
  have hstart : (Database.start s fun i => (calls i).call hash config).Guarded (guessing hash) :=
    Database.guarded_start hs hguard fun i => (calls i).guarded s
  obtain ⟨hbefore, hafter⟩ := eachStep_append.mp hes
  obtain ⟨hguarded, hlater⟩ := Database.guarded_run (Database.guarded_run hstart hbefore).1 hafter
  rw [runCalls, runCalls, runFrom_append]
  refine ⟨hguarded.inv.wrong requestId, hguarded.inv.claims_le_one requestId, fun t ht hspent => ?_⟩
  -- the attempts stay used up, so that no commit claims the request
  have hkept := hlater.keeps (P := fun s' => claims requestId s' = claims requestId
      (runFrom (Database.next Lock.enforced)
        (Database.start s fun i => (calls i).call hash config) es').store ∧
      ∃ t', tally hash requestId s' = some t' ∧ t'.maxAttempts ≤ t'.attempts)
    (fun s₁ s₂ hcommit hs₁ => ?_) ⟨rfl, t, ht, hspent⟩
  · exact hkept.1
  · obtain ⟨hclaims, t', ht', hspent'⟩ := hs₁
    obtain ⟨attempts, wrong, ht'', hle, hsame⟩ := hcommit requestId t' ht'
    exact ⟨(hsame hspent').trans hclaims, _, ht'', hspent'.trans hle⟩

/-! ### Six guesses at once -/

/-- A code was requested for a phone. -/
def requested : Store where
  communityStore := Community.Store.empty
  otpRequests := Table.empty.create fun id =>
    { id, phone := "+989120000001", purpose := .login, codeHash := "123456", expiresAt := 120,
      createdAt := 0 }
  devices := .empty
  refreshTokens := .empty
  history := []

theorem bounded_requested : Bounded id requested := by
  refine ⟨fun id t ht => ?_, fun id r hr => Nat.zero_le _, fun h hh => absurd hh List.not_mem_nil⟩
  obtain ⟨r, hr, rfl⟩ := Option.map_eq_some_iff.mp ht
  exact Nat.zero_le _

/-- Everybody guesses the same wrong code. -/
def guess (_ : Fin 6) : SessionCall :=
  .verifyOtp { phone := "+989120000001", code := "000000", deviceToken := "device-abc-123",
               platform := "android" } "a" 1

/-- Two guesses, one after the other. -/
def guessedInTurn : List (Event (Fin 6) Failure) :=
  List.replicate 5 (Event.step 0) ++ List.replicate 5 (Event.step 1)

/-- The guesses are counted. -/
theorem guessing_of_counted_guessedInTurn :
    tally id 0 (runCalls requested (fun i => (guess i).call id settings) guessedInTurn).store =
      some { codeHash := "123456", maxAttempts := 5, attempts := 2, wrong := 2 } ∧
    ∀ es', es' <+: guessedInTurn → ∀ requestId, GuessesBounded id requestId
      (runCalls requested (fun i => (guess i).call id settings) es').store
      (runCalls requested (fun i => (guess i).call id settings) guessedInTurn).store := by
  refine ⟨by decide +kernel, guessing_of_counted bounded_requested (fun requestId t ht => ?_) guess
    (by decide +kernel)⟩
  obtain ⟨r, hr, rfl⟩ := Option.map_eq_some_iff.mp ht
  exact Nat.zero_le _

/-- Everybody sees the request before anybody's guess is counted. -/
def guessedAtOnce : List (Event (Fin 6) Failure) :=
  (List.finRange 6).map .step ++ (List.finRange 6).flatMap fun i => List.replicate 4 (.step i)

/-- Six wrong codes are compared, where five are allowed. -/
theorem not_bounded_guessedAtOnce : ¬ GuessesBounded id 0 requested
    (runCalls requested (fun i => (guess i).call id settings) guessedAtOnce).store := by
  intro h
  have htally : tally id 0 (runCalls requested (fun i => (guess i).call id settings)
      guessedAtOnce).store =
        some { codeHash := "123456", maxAttempts := 5, attempts := 6, wrong := 6 } := by
    decide +kernel
  exact absurd (h.wrong _ htally) (by decide)

end VielHome.Auth
