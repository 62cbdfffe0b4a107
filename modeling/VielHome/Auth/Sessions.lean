import VielHome.Auth.SessionCalls

/-!
# Runs of logins, refreshes and suspensions

However the calls interleave, the tokens of a login stay one chain (`linear_of_calls`). A suspension
ends every session of a person only when no login and no refresh of the person is between its look
at the person and its commit while the tokens are revoked (`ended_of_ordered`): a refresh that the
revocation waits for leaves a successor that the revocation does not see.
-/

namespace VielHome.Auth

open Relational Community
open Relational.ReadCommitted (Database Event)
open AuthRepository BackOfficeRepository

variable {s last : Store} {ordered : Bool} {hash : String → String} {config : Config}

/-- A token that was revoked has the successor it had then, or none. -/
theorem rotated_of_revoked {a b : ℕ} (hlast : (sessions ordered).Later last s)
    (hl : Linear last) (hs : Linear s) (hrevoked : Revoked last a) (hrotated : Rotated s a b) :
    Rotated last a b := by
  obtain ⟨t, ht, hne⟩ := hrevoked
  have hkept : ∃ t', s.refreshTokens.find? a = some t' ∧ t'.revokedAt ≠ none ∧
      t'.replacedBy = t.replacedBy := by
    refine hlast.keeps (P := fun s => ∃ t', s.refreshTokens.find? a = some t' ∧
      t'.revokedAt ≠ none ∧ t'.replacedBy = t.replacedBy) (fun s s' hcommit hs => ?_)
      ⟨t, ht, hne, rfl⟩
    obtain ⟨t', ht', hne', hsame⟩ := hs
    obtain ⟨revokedAt, replacedBy, ht'', hkept⟩ := hcommit.1.token a t' ht'
    exact ⟨_, ht'', (hkept hne').1, (hkept hne').2.trans hsame⟩
  obtain ⟨t', ht', -, hsame⟩ := hkept
  obtain ⟨t'', ht'', hb⟩ := (hs.rotated a b).mp hrotated
  obtain rfl : t' = t'' := Option.some.inj (ht'.symm.trans ht'')
  exact (hl.rotated a b).mpr ⟨t, ht, hsame ▸ hb⟩

/-- The tokens rotate linearly from one store to a later one: a token has one successor at most,
and gets none once it is revoked; a successor is of the same person and device; and of all tokens
that descend from one token, such as that of a login, at most one has not been revoked. -/
structure RotateLinearly (s s' : Store) : Prop where
  successor : ∀ a b c, Rotated s' a b → Rotated s' a c → b = c
  revoked : ∀ a b, Revoked s a → Rotated s' a b → Rotated s a b
  owner : ∀ a b, Rotated s' a b → ∃ t t', s'.refreshTokens.find? a = some t ∧
    s'.refreshTokens.find? b = some t' ∧ t'.personId = t.personId ∧ t'.deviceId = t.deviceId
  unrevoked : ∀ a b c, Descends s' a b → Descends s' a c → Unrevoked s' b → Unrevoked s' c → b = c

/-- Any number of calls, statement by statement in any order: the tokens rotate linearly. -/
theorem linear_of_calls {ι : Type} [DecidableEq ι] (hs : Consistent s) (calls : ι → SessionCall)
    (es : List (Event ι Failure)) :
    ∀ es', es' <+: es →
      RotateLinearly (runCalls s (fun i => (calls i).call hash config) es').store
        (runCalls s (fun i => (calls i).call hash config) es).store := by
  rintro es' ⟨rest, rfl⟩
  have hstart : (Database.start s fun i => (calls i).call hash config).Sound (sessions false) :=
    Database.sound_start hs fun i => (calls i).safe s
  have horderly : ∀ es : List (Event ι Failure), EachStep (Database.next Lock.enforced)
      (Database.Orderly Lock.enforced (sessions false).kept)
      (Database.start s fun i => (calls i).call hash config) es := by
    refine Database.eachStep_orderly_of_enforced (fun l hl => ?_) _
    cases l with
    | community l => exact hl
    | guesses id => cases hl
    | sessions phone => cases hl
    | _ => rfl
  obtain ⟨-, hafter⟩ := eachStep_append.mp (horderly (es' ++ rest))
  have hbefore := (Database.sound_run hstart (horderly es')).1
  obtain ⟨hsound, hlater⟩ := Database.sound_run hbefore hafter
  rw [runCalls, runCalls, runFrom_append]
  have hlinear := hsound.inv.linear
  refine ⟨fun a b c => hlinear.successor_unique, fun a b hrevoked hrotated =>
    rotated_of_revoked hlater hbefore.inv.linear hlinear hrevoked hrotated, fun a b hrotated => ?_,
    fun a b c => hlinear.unrevoked_unique⟩
  obtain ⟨t, ht, hb⟩ := (hlinear.rotated a b).mp hrotated
  obtain ⟨-, t', ht', hsame⟩ := hlinear.successor a t b ht hb
  exact ⟨t, t', ht, ht', hsame⟩

/-- The event keeps logins, refreshes and revocations of one person apart. -/
abbrev Apart {ι α : Type} [DecidableEq ι] (d : Sessions ι α) (e : Event ι Failure) : Prop :=
  d.Orderly Lock.enforced (sessions true).kept e

/-- Any number of calls, statement by statement in any order: whoever is suspended, and was not
before, has no token left, as long as no login and no refresh of the person is between its look at
the person and its commit while a suspension revokes the tokens. -/
theorem ended_of_ordered {ι : Type} [DecidableEq ι] (hs : Consistent s) (calls : ι → SessionCall)
    {es : List (Event ι Failure)}
    (hes : EachStep (Database.next Lock.enforced) Apart
      (Database.start s fun i => (calls i).call hash config) es) :
    ∀ es', es' <+: es → ∀ personId,
      ¬ Suspended personId (runCalls s (fun i => (calls i).call hash config) es').store →
      Ended personId (runCalls s (fun i => (calls i).call hash config) es).store := by
  rintro es' ⟨rest, rfl⟩ personId hfree
  have hstart : (Database.start s fun i => (calls i).call hash config).Sound (sessions true) :=
    Database.sound_start hs fun i => (calls i).safe s
  obtain ⟨hbefore, hafter⟩ := eachStep_append.mp hes
  obtain ⟨-, hlater⟩ := Database.sound_run (Database.sound_run hstart hbefore).1 hafter
  rw [runCalls, runFrom_append]
  refine hlater.keeps (P := Ended personId) (fun s s' hcommit => ?_)
    fun hsuspended => absurd hsuspended hfree
  exact hcommit.2 rfl personId

/-! ### A refresh and a suspension -/

theorem consistent_of_fresh (htokens : ∀ t ∈ s.refreshTokens, t.replacedBy = none)
    (hhistory : s.history = []) (hphones : ∀ r ∈ s.persons, ∀ r' ∈ s.persons,
      r.phone = r'.phone → r = r') : Consistent s := by
  refine ⟨⟨fun id t n ht hn => ?_, fun a b => ?_⟩, hphones⟩
  · rw [htokens t (Table.mem_of_find? ht)] at hn
    cases hn
  · rw [Rotated, hhistory]
    refine iff_of_false List.not_mem_nil ?_
    rintro ⟨t, ht, hb⟩
    rw [htokens t (Table.mem_of_find? ht)] at hb
    cases hb

/-- A person who is signed in on a device, and a member of the staff. -/
def signedIn : Store where
  communityStore := { Community.Store.empty with
    persons := (Table.empty.create fun id => { id, phone := "+989120000001" }).create fun id =>
      { id, phone := "+989120000002" }
    platformStaff := Table.empty.create fun id => { id, personId := 1, role := .platformAdmin } }
  otpRequests := .empty
  devices := Table.empty.create fun id =>
    { id, personId := 0, deviceToken := "device-abc-123", platform := "android", lastSeenAt := 0 }
  refreshTokens := Table.empty.create fun id =>
    { id, personId := 0, deviceId := 0, tokenHash := "a", expiresAt := 100 }
  history := []

theorem consistent_signedIn : Consistent signedIn :=
  consistent_of_fresh (by decide +kernel) rfl (by decide +kernel)

/-- The settings of the runs below. -/
def settings : Config where
  otpTtl := 120
  otpMaxAttempts := 5
  refreshExpiresIn := 100

/-- The person refreshes the token twice, and the staff suspends the person. -/
def refreshedTwice : Fin 3 → SessionCall
  | 0 => .refresh "a" "b" 1
  | 1 => .refresh "a" "c" 1
  | _ => .changePersonSuspensionAtomically
    { targetPersonId := 0, actorPersonId := 1, suspend := true } 2

/-- Both refreshes find the token unrevoked before either replaces it. -/
def bothRefresh : List (Event (Fin 3) Failure) :=
  List.replicate 3 (Event.step 0) ++ List.replicate 3 (Event.step 1) ++ List.replicate 3 (Event.step 0) ++
    List.replicate 3 (Event.step 1)

/-- One of them replaces the token. -/
theorem linear_of_calls_bothRefresh :
    (runCalls signedIn (fun i => (refreshedTwice i).call id settings) bothRefresh).store.history =
      [.rotated 0 1] ∧
    ∀ es', es' <+: bothRefresh →
      RotateLinearly (runCalls signedIn (fun i => (refreshedTwice i).call id settings) es').store
        (runCalls signedIn (fun i => (refreshedTwice i).call id settings) bothRefresh).store :=
  ⟨by decide +kernel, linear_of_calls consistent_signedIn refreshedTwice bothRefresh⟩

/-- The refresh is done before the staff suspends the person. -/
def refreshFirst : List (Event (Fin 3) Failure) :=
  List.replicate 6 (Event.step 0) ++ List.replicate 10 (Event.step 2)

theorem not_suspended_signedIn : ¬ Suspended 0 signedIn := by
  rintro ⟨r, hr, hsuspended⟩
  have hall : ∀ r ∈ signedIn.persons, r.isSuspended = false := by decide +kernel
  exact absurd hsuspended (by simp [hall r (Table.mem_of_find? hr)])

/-- The person loses both tokens. -/
theorem ended_of_ordered_refreshFirst :
    Ended 0
      (runCalls signedIn (fun i => (refreshedTwice i).call id settings) refreshFirst).store :=
  ended_of_ordered consistent_signedIn refreshedTwice (by decide +kernel) [] List.nil_prefix 0
    not_suspended_signedIn

/-- The revocation sees the token that is being replaced, and waits for it. -/
def refreshMeanwhile : List (Event (Fin 3) Failure) :=
  List.replicate 4 (Event.step 0) ++ List.replicate 6 (Event.step 2) ++ List.replicate 2 (Event.step 0) ++
    List.replicate 2 (Event.step 2)

/-- When the refresh and the suspension have ended, the successor of the token is left. -/
theorem not_ended_refreshMeanwhile :
    ¬ Suspended 0 signedIn ∧
    (∀ i : Fin 3, i ≠ 1 → ((runCalls signedIn (fun i => (refreshedTwice i).call id settings)
      refreshMeanwhile).session i).rest.ended = true) ∧
    ¬ Ended 0 (runCalls signedIn (fun i => (refreshedTwice i).call id settings)
      refreshMeanwhile).store := by
  refine ⟨not_suspended_signedIn, by decide +kernel, fun h => ?_⟩
  refine h ⟨{ id := 0, phone := "+989120000001", isSuspended := true }, by decide +kernel, rfl⟩ 1
    ⟨{ id := 1, personId := 0, deviceId := 0, tokenHash := "b", expiresAt := 101 }, ?_, rfl⟩
  decide +kernel

end VielHome.Auth
