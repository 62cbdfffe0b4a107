import VielHome.Auth.GuessCalls
import VielHome.Relational.OrderBy

/-!
# The latest code

A login looks for the newest request for its phone and purpose among those that have not been
consumed. So it claims the newest request that nobody has claimed (`newestUnclaimed_of_calls`), and
an older code is good again once every newer one has been used (`not_newest_usedTwice`).

The calls run one after the other here.
-/

namespace VielHome.Auth

open Relational Community
open Relational.ReadCommitted (Prog)
open AuthRepository AuthService OtpDomainService

variable {s s' : Store} {hash : String → String} {config : Config}

/-! ### Which requests are claimed -/

/-- How often the rows say that the request was claimed. -/
def consumptions (requestId : ℕ) (s : Store) : ℕ :=
  if (s.otpRequests.find? requestId).any (fun r => r.consumedAt.isSome) then 1 else 0

/-- The rows say the same about claims as the history. -/
def Recorded (s : Store) : Prop := ∀ id, claims id s = consumptions id s

/-- No request is claimed. -/
def ClaimsNothing (s s' : Store) : Prop :=
  ∀ id, claims id s' = claims id s ∧ consumptions id s' = consumptions id s

theorem ClaimsNothing.refl (s : Store) : ClaimsNothing s s := fun _ => ⟨rfl, rfl⟩

theorem ClaimsNothing.trans {s'' : Store} (h : ClaimsNothing s s') (h' : ClaimsNothing s' s'') :
    ClaimsNothing s s'' :=
  fun id => ⟨(h' id).1.trans (h id).1, (h' id).2.trans (h id).2⟩

theorem ClaimsNothing.recorded (h : ClaimsNothing s s') (hs : Recorded s) : Recorded s' := by
  intro id
  rw [(h id).1, (h id).2]
  exact hs id

theorem SameGuessing.claimsNothing (h : SameGuessing s s') : ClaimsNothing s s' :=
  fun id => ⟨h.claims id, by rw [consumptions, consumptions, h.otpRequests]⟩

/-- The store after the request was claimed. -/
def claimedStore (r : OtpRequest) (now : Time) (s : Store) : Store :=
  (s.onOtpRequests (·.modify r.id (otpConsumed now) (otpConsumed_id now))).record (.claimed r.id)

theorem claims_claimedStore {r : OtpRequest} {now : Time} (id : ℕ) :
    claims id (claimedStore r now s) = claims id s + if r.id = id then 1 else 0 := by
  simp [claims, claimedStore, Store.record, List.count_append, List.count_cons]

theorem consumptions_claimedStore {r : OtpRequest} {now : Time} (hr : r ∈ s.otpRequests)
    (hfree : r.consumedAt = none) (id : ℕ) : consumptions id (claimedStore r now s) =
      consumptions id s + if r.id = id then 1 else 0 := by
  rw [consumptions, consumptions, claimedStore, Store.record_otpRequests,
    Store.onOtpRequests_otpRequests, Table.find?_modify_eq_map]
  by_cases hid : r.id = id
  · have hfind : s.otpRequests.find? id = some r := Table.find?_eq_some_iff.mpr ⟨hr, hid⟩
    simp [hfind, hid, otpConsumed, hfree]
  · simp [Ne.symm hid, hid]

/-! ### What one call claims -/

section VerifyOtp

variable (hash : String → String) (dto : VerifyOtpDto) (now : Time) (s : Store)

theorem solo_claimOtp {params : ClaimOtpParams} {s : Store} :
    (claimOtp params).solo s s =
      if (s.otpRequests.find? params.id).any params.matches_ = true then
        (.ok ⟨⟩, (s.onOtpRequests (·.modify params.id (otpConsumed params.now)
            (otpConsumed_id params.now))).record (.claimed params.id),
          (s.onOtpRequests (·.modify params.id (otpConsumed params.now)
            (otpConsumed_id params.now))).record (.claimed params.id))
      else (.error (.authorization "This code has already been used or is no longer valid."), s, s) := by
  rw [claimOtp, Prog.transaction, Prog.solo_claim_bind]
  rfl

/-- Counting a wrong guess claims nothing. -/
theorem claimsNothing_attempted (requestId : ℕ) (s : Store) :
    ClaimsNothing s (s.onOtpRequests (·.modify requestId attempted attempted_id)) := by
  intro id
  refine ⟨rfl, ?_⟩
  rw [consumptions, consumptions, Store.onOtpRequests_otpRequests, Table.find?_modify_eq_map,
    Option.any_map]
  have hrow : ∀ r : OtpRequest, (if id = requestId then attempted r else r).consumedAt = r.consumedAt := by
    intro r
    split <;> rfl
  simp [hrow]

theorem claimsNothing_compared {requestId : ℕ} {code : String} {s : Store} :
    ClaimsNothing s (s.record (.compared requestId code)) :=
  fun id => ⟨by simp [claims, Store.record], rfl⟩

/-- The code of a login is refused, and nothing is claimed; or the newest request that has not been
consumed is claimed. -/
theorem solo_acceptCode :
    (∃ e s', (acceptCode hash dto now).solo s s = (.error e, s', s') ∧ ClaimsNothing s s') ∨
    ∃ r, findLatestActiveOtp dto.phone dto.purpose s = some r ∧
      verifyCode hash dto.code r.codeHash = true ∧ now < r.expiresAt ∧
      (acceptCode hash dto now).solo s s =
        (.ok ⟨⟩, claimedStore r now (s.record (.compared r.id dto.code)),
          claimedStore r now (s.record (.compared r.id dto.code))) := by
  rw [acceptCode, Prog.queryUnder_bind, Prog.solo_stmt, id]
  cases hfound : findLatestActiveOtp dto.phone dto.purpose s with
  | none => exact Or.inl ⟨_, s, rfl, .refl s⟩
  | some r =>
    obtain ⟨hmem, hphone, hpurpose, hfree⟩ := mem_of_findLatestActiveOtp hfound
    have hfind : s.otpRequests.find? r.id = some r := Table.find?_of_mem hmem
    rw [Prog.solo_expect_bind]
    dsimp only
    rw [OtpPolicy.assertNotExpired, Prog.bind_assoc, Prog.require_bind, if_pos hfree,
      Prog.require_bind]
    by_cases hexpired : now ≤ r.expiresAt
    case neg =>
      rw [if_neg hexpired]
      exact Or.inl ⟨_, s, rfl, .refl s⟩
    rw [if_pos hexpired, OtpPolicy.assertAttemptsRemaining, Prog.require_bind]
    by_cases hattempts : r.attempts < r.maxAttempts
    case neg =>
      rw [if_neg hattempts]
      exact Or.inl ⟨_, s, rfl, .refl s⟩
    rw [if_pos hattempts, compareCode, Prog.bind_assoc, Prog.write_bind, Prog.solo_stmt,
      Prog.commitKeeping_bind, Prog.solo_commit, Prog.solo_ite]
    by_cases hcode : verifyCode hash dto.code r.codeHash = true
    case neg =>
      -- the wrong guess is counted
      have hthere : ((s.record (.compared r.id dto.code)).otpRequests.find? r.id).isSome = true :=
        Option.isSome_of_mem hfind
      rw [if_neg hcode, incrementOtpAttempts, Prog.solo_transaction_bind, Prog.solo_writeIf,
        if_pos hthere]
      exact Or.inl ⟨_, _, rfl, claimsNothing_compared.trans (claimsNothing_attempted r.id _)⟩
    rw [if_pos hcode, solo_claimOtp]
    split
    case isTrue hmatches =>
      rw [Store.record_otpRequests, hfind, Option.any_some] at hmatches
      simp only [ClaimOtpParams.matches_, decide_eq_true_eq] at hmatches
      exact Or.inr ⟨r, rfl, hcode, hmatches.2.2.2.2.2, rfl⟩
    case isFalse => exact Or.inl ⟨_, _, rfl, claimsNothing_compared⟩

/-- A login claims nothing, or the newest request that has not been consumed. -/
theorem exec_verifyOtp (config : Config) (rawRefreshToken : String) :
    ClaimsNothing s ((verifyOtp hash config dto rawRefreshToken now).exec s) ∨
    ∃ r, findLatestActiveOtp dto.phone dto.purpose s = some r ∧
      verifyCode hash dto.code r.codeHash = true ∧ now < r.expiresAt ∧
      ClaimsNothing (claimedStore r now (s.record (.compared r.id dto.code)))
        ((verifyOtp hash config dto rawRefreshToken now).exec s) := by
  rw [verifyOtp, Prog.exec, Prog.solo_bind]
  rcases solo_acceptCode hash dto now s with
    ⟨e, s', hsolo, hclaims⟩ | ⟨r, hfound, hcode, hexpires, hsolo⟩
  · rw [hsolo]
    exact Or.inl hclaims
  · refine Or.inr ⟨r, hfound, hcode, hexpires, ?_⟩
    rw [hsolo]
    exact (leaves_issueTokens.solo SameGuessing.trans (.refl _) (.refl _)).1.claimsNothing

end VerifyOtp

theorem exec_requestOtp (hash : String → String) (config : Config) (dto : RequestOtpDto)
    (code : String) (delivered : Bool) (now : Time) (s : Store) :
    ClaimsNothing s ((requestOtp hash config dto code delivered now).exec s) := by
  have hexec : ∃ params : OtpParams, (requestOtp hash config dto code delivered now).exec s =
      s.onOtpRequests (·.create (params.row now) fun _ => rfl) := by
    refine ⟨⟨dto.phone, dto.purpose, hash code, now + config.otpTtl, config.otpMaxAttempts⟩, ?_⟩
    rw [requestOtp, createOtpRequest, Prog.exec_transaction_bind]
    change (Prog.require _ _).exec _ = _
    rw [Prog.require]
    split <;> rfl
  obtain ⟨params, hexec⟩ := hexec
  intro id
  rw [hexec]
  refine ⟨rfl, ?_⟩
  rw [consumptions, consumptions, Store.onOtpRequests_otpRequests,
    Table.find?_create (h := fun _ => rfl)]
  by_cases hid : id = s.otpRequests.next
  · rw [if_pos hid, Table.find?_of_next_le hid.ge]
    rfl
  · rw [if_neg hid]

/-! ### Runs -/

/-- A call that issues a code, or takes one. -/
inductive OtpCall
  | requestOtp (dto : RequestOtpDto) (code : String) (delivered : Bool) (now : Time)
  | verifyOtp (dto : VerifyOtpDto) (rawRefreshToken : String) (now : Time)

/-- The method of the service that the call is made to. -/
def OtpCall.call (hash : String → String) (config : Config) : OtpCall → Call PUnit
  | requestOtp dto code delivered now => AuthService.requestOtp hash config dto code delivered now
  | verifyOtp dto rawRefreshToken now => AuthService.verifyOtp hash config dto rawRefreshToken now

/-- One call after the other. -/
def runOtpCalls (hash : String → String) (config : Config) (s : Store) (calls : List OtpCall) : Store :=
  Relational.runFrom (fun s c => (OtpCall.call hash config c).exec s) s calls

/-- The request is the newest one for its phone and purpose. -/
def Newest (r : OtpRequest) (s : Store) : Prop :=
  ∀ r' ∈ s.otpRequests, r'.phone = r.phone → r'.purpose = r.purpose → r'.createdAt ≤ r.createdAt

/-- The request is the newest one for its phone and purpose that nobody has claimed. -/
def NewestUnclaimed (r : OtpRequest) (s : Store) : Prop :=
  ∀ r' ∈ s.otpRequests, r'.phone = r.phone → r'.purpose = r.purpose → claims r'.id s = 0 →
    r'.createdAt ≤ r.createdAt

/-- The call may claim the request: it is a login with the code of the request, which is there for
the phone and the purpose of the login, has not expired, and was never claimed before. -/
def OtpCall.Accepts (hash : String → String) (r : OtpRequest) (s : Store) : OtpCall → Prop
  | requestOtp _ _ _ _ => False
  | verifyOtp dto _ now => r ∈ s.otpRequests ∧ r.phone = dto.phone ∧ r.purpose = dto.purpose ∧
      verifyCode hash dto.code r.codeHash = true ∧ now < r.expiresAt ∧ claims r.id s = 0

/-- Whenever one of the calls claims a request, the call may claim it, and it is the newest one in
the given sense. -/
def ClaimsOnly (hash : String → String) (config : Config) (newest : OtpRequest → Store → Prop)
    (s : Store) (calls : List OtpCall) : Prop :=
  ∀ pre c post, calls = pre ++ c :: post → ∀ id,
    claims id (runOtpCalls hash config s (pre ++ [c])) ≠ claims id (runOtpCalls hash config s pre) →
    ∃ r, r.id = id ∧ c.Accepts hash r (runOtpCalls hash config s pre) ∧
      newest r (runOtpCalls hash config s pre)

theorem runOtpCalls_append {calls calls' : List OtpCall} :
    runOtpCalls hash config s (calls ++ calls') =
      runOtpCalls hash config (runOtpCalls hash config s calls) calls' :=
  Relational.runFrom_append _ s calls calls'

theorem runOtpCalls_singleton {c : OtpCall} :
    runOtpCalls hash config s [c] = (c.call hash config).exec s := rfl

/-- A request that has not been consumed was never claimed. -/
theorem Recorded.claims_eq_zero (hs : Recorded s) {r : OtpRequest} (hr : r ∈ s.otpRequests) :
    claims r.id s = 0 ↔ r.consumedAt = none := by
  rw [hs r.id, consumptions, Table.find?_of_mem hr, Option.any_some]
  cases r.consumedAt <;> simp

theorem Recorded.claimed {r : OtpRequest} {now : Time} (hs : Recorded s) (hr : r ∈ s.otpRequests)
    (hfree : r.consumedAt = none) : Recorded (claimedStore r now s) := by
  intro id
  rw [claims_claimedStore, consumptions_claimedStore hr hfree, hs id]

/-- The request that a login looks up is the newest one that nobody has claimed. -/
theorem Recorded.newestUnclaimed (hs : Recorded s) {phone : String} {purpose : OtpPurpose}
    {r : OtpRequest} (h : findLatestActiveOtp phone purpose s = some r) : NewestUnclaimed r s := by
  intro r' hr' hphone hpurpose hclaims
  obtain ⟨-, hrphone, hrpurpose, -⟩ := mem_of_findLatestActiveOtp h
  have hactive : r' ∈ activeOtps phone purpose s := by
    rw [activeOtps, List.mem_filter]
    refine ⟨hr', ?_⟩
    simp [hphone, hpurpose, hrphone, hrpurpose, (hs.claims_eq_zero hr').mp hclaims]
  exact rel_of_head?_insertionSort (r := fun a b : OtpRequest => b.createdAt ≤ a.createdAt)
    (fun a b => le_total b.createdAt a.createdAt) (fun _ _ _ hab hbc => le_trans hbc hab) h hactive

/-- One call keeps the rows and the history in step, and claims the newest request that nobody has
claimed, if any. -/
theorem Recorded.next (hs : Recorded s) (c : OtpCall) :
    Recorded ((c.call hash config).exec s) ∧
    ∀ id, claims id ((c.call hash config).exec s) ≠ claims id s →
      ∃ r, r.id = id ∧ c.Accepts hash r s ∧ NewestUnclaimed r s := by
  cases c with
  | requestOtp dto code delivered now =>
    have hnothing := exec_requestOtp hash config dto code delivered now s
    exact ⟨hnothing.recorded hs, fun id hne => absurd (hnothing id).1 hne⟩
  | verifyOtp dto rawRefreshToken now =>
    rcases exec_verifyOtp hash dto now s config rawRefreshToken with
      hnothing | ⟨r, hfound, hcode, hexpires, hclaimed⟩
    · exact ⟨hnothing.recorded hs, fun id hne => absurd (hnothing id).1 hne⟩
    · obtain ⟨hmem, hphone, hpurpose, hfree⟩ := mem_of_findLatestActiveOtp hfound
      have hs' : Recorded (s.record (.compared r.id dto.code)) := claimsNothing_compared.recorded hs
      refine ⟨hclaimed.recorded (hs'.claimed hmem hfree), fun id hne => ⟨r, ?_, ⟨hmem, hphone,
        hpurpose, hcode, hexpires, (hs.claims_eq_zero hmem).mpr hfree⟩, hs.newestUnclaimed hfound⟩⟩
      by_contra hid
      refine hne ((hclaimed id).1.trans ?_)
      rw [claims_claimedStore, if_neg hid, (claimsNothing_compared id).1, Nat.add_zero]

/-- Any calls, one after the other: whatever is claimed is the newest request that nobody has
claimed before, has not expired, and is claimed for the first time. -/
theorem newestUnclaimed_of_calls (hs : Recorded s) (calls : List OtpCall) :
    ClaimsOnly hash config NewestUnclaimed s calls := by
  have hrecorded : ∀ calls, Recorded (runOtpCalls hash config s calls) := fun calls =>
    Relational.runFrom_induction (fun _ c h => (h.next c).1) hs calls
  intro pre c post _ id hne
  rw [runOtpCalls_append, runOtpCalls_singleton] at hne
  exact ((hrecorded pre).next c).2 id hne

/-! ### Two codes -/

/-- Two codes are requested for a phone. The second one is used, and then the first one. -/
def usedTwice : List OtpCall :=
  [.requestOtp { phone := "+989120000001" } "111111" true 1,
   .requestOtp { phone := "+989120000001" } "222222" true 2,
   .verifyOtp { phone := "+989120000001", code := "222222", deviceToken := "device-abc-123",
                platform := "android" } "a" 3,
   .verifyOtp { phone := "+989120000001", code := "111111", deviceToken := "device-abc-123",
                platform := "android" } "b" 4]

/-- Both logins claim the newest request that has not been claimed. -/
theorem newestUnclaimed_of_calls_usedTwice :
    claims 0 (runOtpCalls id settings Store.empty usedTwice) = 1 ∧
    ClaimsOnly id settings NewestUnclaimed Store.empty usedTwice :=
  ⟨by decide +kernel, newestUnclaimed_of_calls (fun _ => rfl) usedTwice⟩

/-- The second login claims a request that is not the newest one. -/
theorem not_newest_usedTwice : ¬ ClaimsOnly id settings Newest Store.empty usedTwice := by
  intro h
  obtain ⟨r, hid, haccepts, hnewest⟩ := h (usedTwice.take 3) _ [] rfl 0 (by decide +kernel)
  have hfirst : ∀ r ∈ (runOtpCalls id settings Store.empty (usedTwice.take 3)).otpRequests,
      r.id = 0 → r.phone = "+989120000001" ∧ r.purpose = .login ∧ r.createdAt = 1 := by
    decide +kernel
  have hsecond : ∃ r ∈ (runOtpCalls id settings Store.empty (usedTwice.take 3)).otpRequests,
      r.phone = "+989120000001" ∧ r.purpose = .login ∧ r.createdAt = 2 := by
    decide +kernel
  obtain ⟨hphone, hpurpose, hcreated⟩ := hfirst r haccepts.1 hid
  obtain ⟨r', hr', hphone', hpurpose', hcreated'⟩ := hsecond
  have hle := hnewest r' hr' (hphone'.trans hphone.symm) (hpurpose'.trans hpurpose.symm)
  rw [hcreated, hcreated'] at hle
  exact absurd hle (by decide)

end VielHome.Auth
