import Mathlib.Logic.Function.Basic
import VielHome.Common.Text
import VielHome.Relational.Run

/-!
# The dispatch of a notification delivery

One delivery and the calls that work on it: the job that `notify` adds, and any number of resends,
each of which adds a job of its own. The attempts of one job follow each other; those of different
jobs, and the resends, overlap at every step. An attempt makes one request, or one for each device of
the recipient; these overlap too, since each waits for an access token of its own, and the attempt
goes on when all are answered.

A resend reads that the delivery has failed, and writes `PENDING` in a later step. As long as the
status is still `FAILED` at that step, and no attempt makes a request for a device after it has had
one accepted for another (`Current`), a delivery is only marked as sent after a request that
succeeded, and after such a request there is no further one. Two resends that both read `FAILED` make
two jobs, and two requests that succeed.
-/

namespace VielHome.Notifications

open Relational

/-- How somebody is notified. -/
inductive NotificationChannel
  | inApp
  | push
  | email
  | sms
  deriving DecidableEq

/-- How far a delivery has come. -/
inductive NotificationDeliveryStatus
  | pending
  | sent
  | delivered
  | failed
  deriving DecidableEq

/-- Why a delivery has failed. -/
inductive FailureReason
  | providerNotConfigured
  | providerDisabled
  | noDestination
  | noEligibleDevice
  | providerRequestFailed
  | dispatchFailed
  deriving DecidableEq

/-- A delivery of a notification. -/
structure NotificationDelivery where
  channel : NotificationChannel
  status : NotificationDeliveryStatus
  failureReason : Option FailureReason

/-! ### The repository -/

namespace NotificationDelivery

/-- `markDeliverySent`. -/
def markDeliverySent (d : NotificationDelivery) : NotificationDelivery :=
  { d with status := .sent }

/-- `markDeliveryFailed`. -/
def markDeliveryFailed (reason : FailureReason) (d : NotificationDelivery) : NotificationDelivery :=
  { d with status := .failed, failureReason := some reason }

/-- `resetDeliveryForResend`. -/
def resetDeliveryForResend (d : NotificationDelivery) : NotificationDelivery :=
  { d with status := .pending, failureReason := none }

end NotificationDelivery

/-! ### One attempt -/

/-- What a provider throws. -/
inductive ProviderError
  | providerHttpError (status : Option ℕ)
  | other
  deriving DecidableEq

/-- `isRetryable`: a request is made again unless the provider has refused it for good. -/
def isRetryable : ProviderError → Bool
  | .providerHttpError (some status) =>
    !(decide (400 ≤ status ∧ status < 500) && status != 408 && status != 429)
  | _ => true

/-- The recipient, with the push tokens of the devices. -/
structure Recipient where
  email : Option String
  phone : Option String
  pushTokens : List (Option String)

/-- What an attempt finds: the provider and the recipient. -/
structure Surroundings where
  isConfigured : Bool
  isEnabled : Bool
  recipient : Recipient

/-- There is nothing to send to. -/
def isBlank (s : Option String) : Bool := s.all fun t => trim t == ""

/-- Why no request is made. -/
def refusal (channel : NotificationChannel) (around : Surroundings) : Option FailureReason :=
  if !around.isConfigured then some .providerNotConfigured
  else if !around.isEnabled then some .providerDisabled
  else match channel with
    | .push => if around.recipient.pushTokens.all isBlank then some .noEligibleDevice else none
    | .email => if isBlank around.recipient.email then some .noDestination else none
    | _ => if isBlank around.recipient.phone then some .noDestination else none

/-- How many requests an attempt makes: one for each device with a push token, or a single one. -/
def requestCount (channel : NotificationChannel) (recipient : Recipient) : ℕ :=
  match channel with
  | .push => (recipient.pushTokens.filter fun token => !isBlank token).length
  | _ => 1

/-- How far a request has come; `none` is the answer of success. -/
inductive Request
  | ready
  | sent
  | answered (result : Option ProviderError)
  deriving DecidableEq

namespace Request

/-- The provider has answered. -/
def isAnswered : Request → Bool
  | answered _ => true
  | _ => false

/-- The provider has taken the notification. -/
def isFulfilled : Request → Bool
  | answered none => true
  | _ => false

/-- The answer is an error after which the request is made again. -/
def isRetryable : Request → Bool
  | answered (some e) => Notifications.isRetryable e
  | _ => false

/-- A request that was sent is answered; one that was not can still fail before it is made. -/
def answer : Request → Option ProviderError → Option Request
  | sent, result => some (answered result)
  | ready, some e => some (answered (some e))
  | _, _ => none

end Request

/-! ### The calls -/

/-- How far a resend or a job has come. -/
inductive Phase
  | idle
  | accepted
  | reset
  | waiting (attemptsMade : ℕ)
  | sending (attemptsMade : ℕ) (requests : List Request)
  | succeeded
  | failing (reason : FailureReason)
  | done
  deriving DecidableEq

/-- The attempts of a job. -/
def attempts : ℕ := 3

/-- After an attempt that threw: the next one, or `onFailed`. -/
def retried (attemptsMade : ℕ) (reason : FailureReason) : Phase :=
  if attemptsMade + 1 < attempts then .waiting (attemptsMade + 1) else .failing reason

/-- The request is the next one of the attempt to be made. -/
def Phase.isReady (k : ℕ) : Phase → Bool
  | .sending _ requests => requests[k]? == some .ready
  | _ => false

/-- A request of the attempt has succeeded, and the status is still to be written. -/
def Phase.hasSucceeded : Phase → Bool
  | .sending _ requests => requests.any Request.isFulfilled
  | .succeeded => true
  | _ => false

/-- After no request has succeeded. -/
def providerFailed (attemptsMade : ℕ) (requests : List Request) : Phase :=
  if requests.any Request.isRetryable then retried attemptsMade .providerRequestFailed
  else .failing .providerRequestFailed

/-- After all requests have been answered. -/
def settled (attemptsMade : ℕ) (requests : List Request) : Phase :=
  if requests.any Request.isFulfilled then .succeeded else providerFailed attemptsMade requests

/-- After `process` has read the delivery. -/
def processed (d : NotificationDelivery) (attemptsMade : ℕ) (around : Surroundings) : Phase :=
  if d.status ≠ .pending then .done
  else if d.channel = .inApp then .succeeded
  else (refusal d.channel around).elim
    (.sending attemptsMade (List.replicate (requestCount d.channel around.recipient) .ready)) .failing

/-- Whether a request has succeeded, the status has become `FAILED` afterwards, and a resend has
been accepted after that. -/
inductive History
  | clear
  | succeeded
  | failedSince
  deriving DecidableEq

/-- A failure is noted after a success. -/
def History.fail : History → History
  | .succeeded => .failedSince
  | h => h

/-- A reset forgets what was noted. -/
def History.accept : History → History
  | .failedSince => .clear
  | h => h

/-- The delivery and the calls, with whether a request has succeeded since the delivery was created
or last reset. -/
structure State (ι : Type) where
  delivery : NotificationDelivery
  phase : ι → Phase
  succeeded : Bool
  history : History

/-- A call goes on, its attempt throws before a request, makes its `k`-th request, or gets the answer
to it. -/
inductive Event (ι : Type)
  | step (i : ι) (around : Surroundings)
  | throw (i : ι)
  | request (i : ι) (k : ℕ)
  | answer (i : ι) (k : ℕ) (result : Option ProviderError)

namespace State

variable {ι : Type} [DecidableEq ι]

/-- The delivery that `notify` has created, with its job `i`; the other calls are resends. -/
def created (channel : NotificationChannel) (i : ι) : State ι where
  delivery := { channel, status := .pending, failureReason := none }
  phase := Function.update (fun _ => .idle) i (.waiting 0)
  succeeded := false
  history := .clear

/-- The state after attempt `i` has gone on. -/
def goOn (i : ι) (p : Phase) (s : State ι) : State ι :=
  { s with phase := Function.update s.phase i p }

/-- The state after one event. -/
def next (s : State ι) : Event ι → State ι
  | .throw i =>
    match s.phase i with
    | .waiting attemptsMade => s.goOn i (retried attemptsMade .dispatchFailed)
    | _ => s
  | .step i around =>
    match s.phase i with
    | .idle =>
      if s.delivery.status = .failed then
        { s.goOn i .accepted with history := s.history.accept }
      else s.goOn i .done
    | .accepted =>
      { s.goOn i .reset with delivery := s.delivery.resetDeliveryForResend, succeeded := false }
    | .reset => s.goOn i (.waiting 0)
    | .waiting attemptsMade => s.goOn i (processed s.delivery attemptsMade around)
    | .sending attemptsMade requests =>
      -- `Promise.allSettled` waits for every answer
      if requests.all Request.isAnswered then s.goOn i (settled attemptsMade requests) else s
    | .succeeded => { s.goOn i .done with delivery := s.delivery.markDeliverySent }
    | .failing reason =>
      { s.goOn i .done with
        delivery := s.delivery.markDeliveryFailed reason
        history := s.history.fail }
    | .done => s
  | .request i k =>
    match s.phase i with
    | .sending attemptsMade requests =>
      if requests[k]? = some .ready then s.goOn i (.sending attemptsMade (requests.set k .sent)) else s
    | _ => s
  | .answer i k result =>
    match s.phase i with
    | .sending attemptsMade requests =>
      match requests[k]?.bind fun request => request.answer result with
      | some request =>
        let s' := s.goOn i (.sending attemptsMade (requests.set k request))
        if result = none then { s' with succeeded := true, history := .succeeded } else s'
      | none => s
    | _ => s

/-! ### What every run keeps -/

variable {s : State ι}

/-- The delivery is only marked as sent after a request that succeeded. -/
def Backed (s : State ι) : Prop := s.delivery.status = .sent → s.succeeded = true

/-- A request is only made where none has succeeded, or the status has become `FAILED` afterwards
and a resend was accepted after that. -/
def Permitted (s : State ι) : Event ι → Prop
  | .request i k => (s.phase i).isReady k = true → s.history = .clear
  | _ => True

/-- The resend that resets the delivery finds the status that it has read, and the attempt that
makes a request has had none accepted yet. -/
def Current (s : State ι) : Event ι → Prop
  | .step i _ => s.phase i = .accepted → s.delivery.status = .failed
  | .request i k => (s.phase i).isReady k = true → (s.phase i).hasSucceeded = false
  | _ => True

instance : Decidable s.Backed := inferInstanceAs (Decidable (_ → _))

instance : DecidableRel (Permitted : State ι → Event ι → Prop)
  | s, .request i k =>
    inferInstanceAs (Decidable ((s.phase i).isReady k = true → s.history = .clear))
  | _, .step _ _ | _, .throw _ | _, .answer _ _ _ => inferInstanceAs (Decidable True)

instance : DecidableRel (Current : State ι → Event ι → Prop)
  | s, .step i _ => inferInstanceAs (Decidable (s.phase i = .accepted → _))
  | s, .request i k => inferInstanceAs
      (Decidable ((s.phase i).isReady k = true → (s.phase i).hasSucceeded = false))
  | _, .throw _ | _, .answer _ _ _ => inferInstanceAs (Decidable True)

end State

/-- The job is there, or will be, and has still to come to an end. -/
def Phase.Live : Phase → Prop
  | .idle | .accepted | .done => False
  | _ => True

theorem Phase.Live.of_hasSucceeded {p : Phase} (h : p.hasSucceeded = true) : p.Live := by
  cases p <;> trivial

theorem hasSucceeded_retried {attemptsMade : ℕ} {reason : FailureReason} :
    (retried attemptsMade reason).hasSucceeded = false := by
  unfold retried
  split <;> rfl

/-- An attempt that ends has succeeded when one of its requests has. -/
theorem hasSucceeded_settled {attemptsMade : ℕ} {requests : List Request} :
    (settled attemptsMade requests).hasSucceeded = requests.any Request.isFulfilled := by
  unfold settled
  split
  case isTrue h => rw [h]; rfl
  case isFalse h =>
    rw [eq_false_of_ne_true h, providerFailed]
    split
    · exact hasSucceeded_retried
    · rfl

theorem any_replicate_ready (n : ℕ) :
    (List.replicate n Request.ready).any Request.isFulfilled = false := by
  rw [List.any_eq_false]
  intro request h
  rw [List.eq_of_mem_replicate h]
  exact Bool.false_ne_true

theorem hasSucceeded_processed {d : NotificationDelivery} {attemptsMade : ℕ} {around : Surroundings}
    (h : d.channel ≠ .inApp) : (processed d attemptsMade around).hasSucceeded = false := by
  unfold processed
  rw [if_neg h]
  split
  · rfl
  · cases refusal d.channel around with
    | none => exact any_replicate_ready _
    | some reason => rfl

/-- Another state of a request that has not succeeded does not change whether one has. -/
theorem any_set_of_not_isFulfilled {requests : List Request} {k : ℕ} {request request' : Request}
    (hk : requests[k]? = some request) (hold : request.isFulfilled = false)
    (hnew : request'.isFulfilled = false) :
    (requests.set k request').any Request.isFulfilled = requests.any Request.isFulfilled := by
  induction requests generalizing k with
  | nil => rfl
  | cons first rest ih =>
    cases k with
    | zero =>
      obtain rfl : first = request := by simpa using hk
      simp [hold, hnew]
    | succ k =>
      have hrest := ih (k := k) (by simpa using hk)
      simp [hrest]

namespace State

variable {ι : Type} [DecidableEq ι] {s : State ι} {i : ι} {p : Phase}

@[simp] theorem phase_goOn_self : (s.goOn i p).phase i = p := Function.update_self _ _ _

theorem phase_goOn_of_ne {j : ι} (h : j ≠ i) : (s.goOn i p).phase j = s.phase j :=
  Function.update_of_ne h _ _

/-- At most one job is live, and only while the delivery is pending. -/
structure Inv (s : State ι) : Prop where
  external : s.delivery.channel ≠ .inApp
  single : ∀ i j, (s.phase i).Live → (s.phase j).Live → i = j
  pending : ∀ i, (s.phase i).Live → s.delivery.status = .pending
  backed : s.Backed
  succeeded : ∀ i, (s.phase i).hasSucceeded = true → s.succeeded = true
  history : s.history ≠ .clear →
    s.delivery.status = .sent ∨ ∃ i, (s.phase i).hasSucceeded = true

theorem Inv.created {channel : NotificationChannel} (h : channel ≠ .inApp) (i : ι) :
    (State.created channel i).Inv := by
  have hself : (State.created channel i).phase i = .waiting 0 := by
    simp [State.created]
  have hother : ∀ j, j ≠ i → (State.created channel i).phase j = .idle := by
    intro j hj
    simp [State.created, hj]
  have hlive : ∀ j, ((State.created channel i).phase j).Live → j = i := by
    intro j hj
    by_contra hne
    rw [hother j hne] at hj
    exact hj
  refine ⟨h, fun a b ha hb => (hlive a ha).trans (hlive b hb).symm, fun _ _ => rfl, ?_, ?_, ?_⟩
  · intro hsent
    cases hsent
  · intro j hj
    have hji := hlive j (Phase.Live.of_hasSucceeded hj)
    rw [hji, hself] at hj
    cases hj
  · exact fun hne => absurd rfl hne

/-- The phases of the others are what they were. -/
theorem live_goOn {j : ι} (hp : p.Live → (s.phase i).Live) (h : ((s.goOn i p).phase j).Live) :
    (s.phase j).Live := by
  by_cases hji : j = i
  · subst hji
    rw [phase_goOn_self] at h
    exact hp h
  · rwa [phase_goOn_of_ne hji] at h

theorem Inv.goOn (hs : s.Inv) (hp : p.Live → (s.phase i).Live)
    (hkeep : p.hasSucceeded = (s.phase i).hasSucceeded) : (s.goOn i p).Inv where
  external := hs.external
  single a b ha hb := hs.single a b (live_goOn hp ha) (live_goOn hp hb)
  pending a ha := hs.pending a (live_goOn hp ha)
  backed := hs.backed
  succeeded a ha := by
    by_cases hai : a = i
    · subst hai
      rw [phase_goOn_self, hkeep] at ha
      exact hs.succeeded a ha
    · rw [phase_goOn_of_ne hai] at ha
      exact hs.succeeded a ha
  history h := by
    refine (hs.history h).imp_right ?_
    rintro ⟨a, ha⟩
    refine ⟨a, ?_⟩
    by_cases hai : a = i
    · subst hai
      rw [phase_goOn_self, hkeep, ha]
    · rw [phase_goOn_of_ne hai, ha]

omit [DecidableEq ι] in
theorem Inv.not_live (hs : s.Inv) (h : s.delivery.status ≠ .pending) (j : ι) :
    ¬(s.phase j).Live := fun hj => h (hs.pending j hj)

omit [DecidableEq ι] in
/-- Where the delivery is not marked as sent, and nobody has still to do so, no request has
succeeded. -/
theorem Inv.clear (hs : s.Inv) (hsent : s.delivery.status ≠ .sent)
    (h : ∀ j, (s.phase j).hasSucceeded = false) : s.history = .clear := by
  by_contra hne
  rcases hs.history hne with hst | ⟨j, hj⟩
  · exact hsent hst
  · rw [h j] at hj
    cases hj

omit [DecidableEq ι] in
/-- While a job is live that has had no request accepted, no request has succeeded. -/
theorem Inv.clear_of_live (hs : s.Inv) (hi : (s.phase i).Live)
    (hnot : (s.phase i).hasSucceeded = false) : s.history = .clear := by
  refine hs.clear (by rw [hs.pending i hi]; decide) fun j => ?_
  by_contra hj
  rw [Bool.not_eq_false] at hj
  obtain rfl : j = i := hs.single j i (Phase.Live.of_hasSucceeded hj) hi
  rw [hnot] at hj
  cases hj

omit [DecidableEq ι] in
theorem Inv.clear_of_failed (hs : s.Inv) (h : s.delivery.status = .failed) :
    s.history = .clear := by
  refine hs.clear (by rw [h]; decide) fun j => ?_
  by_contra hj
  rw [Bool.not_eq_false] at hj
  exact hs.not_live (by rw [h]; decide) j (Phase.Live.of_hasSucceeded hj)

theorem Inv.not_live_done (hs : s.Inv) (hi : (s.phase i).Live) (j : ι) :
    ¬((s.goOn i .done).phase j).Live := by
  intro hj
  by_cases hji : j = i
  · subst hji
    rw [phase_goOn_self] at hj
    exact hj
  · rw [phase_goOn_of_ne hji] at hj
    exact hji (hs.single j i hj hi)

/-! ### The steps -/

omit [DecidableEq ι] in
theorem Inv.accept (hs : s.Inv) (h : s.history = .clear) :
    ({ s with history := s.history.accept } : State ι).Inv where
  external := hs.external
  single := hs.single
  pending := hs.pending
  backed := hs.backed
  succeeded := hs.succeeded
  history hne := absurd (by rw [h]; rfl) hne

theorem Inv.reset (hs : s.Inv) (h : s.delivery.status = .failed) :
    ({ s.goOn i .reset with
        delivery := s.delivery.resetDeliveryForResend, succeeded := false } : State ι).Inv := by
  have hnobody : ∀ j, ¬(s.phase j).Live := hs.not_live (by rw [h]; decide)
  have hlive : ∀ j, ((s.goOn i .reset).phase j).Live → j = i := by
    intro j hj
    by_contra hne
    rw [phase_goOn_of_ne hne] at hj
    exact hnobody j hj
  refine ⟨hs.external, fun a b ha hb => (hlive a ha).trans (hlive b hb).symm, fun _ _ => rfl, ?_,
    ?_, fun hne => absurd (hs.clear_of_failed h) hne⟩
  · intro hsent
    cases hsent
  · intro j hj
    obtain rfl : j = i := hlive j (Phase.Live.of_hasSucceeded hj)
    have hself : (s.goOn j .reset).phase j = .reset := phase_goOn_self
    rw [show ({ s.goOn j .reset with
        delivery := s.delivery.resetDeliveryForResend, succeeded := false } : State ι).phase j =
      .reset from hself] at hj
    cases hj

theorem Inv.succeed (hs : s.Inv) (hi : (s.phase i).Live) (hp : p.hasSucceeded = true) :
    ({ s.goOn i p with succeeded := true, history := .succeeded } : State ι).Inv where
  external := hs.external
  single a b ha hb := hs.single a b (live_goOn (fun _ => hi) ha) (live_goOn (fun _ => hi) hb)
  pending a ha := hs.pending a (live_goOn (fun _ => hi) ha)
  backed _ := rfl
  succeeded _ _ := rfl
  history _ := .inr ⟨i, (congrArg Phase.hasSucceeded phase_goOn_self).trans hp⟩

theorem not_hasSucceeded_of_not_live {q : Phase} (h : ¬q.Live) (hq : q.hasSucceeded = true) :
    False := h (Phase.Live.of_hasSucceeded hq)

theorem Inv.sent (hs : s.Inv) (hi : s.phase i = .succeeded) :
    ({ s.goOn i .done with delivery := s.delivery.markDeliverySent } : State ι).Inv := by
  have hnobody := hs.not_live_done (i := i) (by rw [hi]; trivial)
  have hdone : s.succeeded = true := hs.succeeded i (by rw [hi]; rfl)
  exact ⟨hs.external, fun a _ ha => absurd ha (hnobody a), fun a ha => absurd ha (hnobody a),
    fun _ => hdone, fun _ _ => hdone, fun _ => .inl rfl⟩

theorem Inv.fail (hs : s.Inv) {reason : FailureReason} (hi : s.phase i = .failing reason) :
    ({ s.goOn i .done with
        delivery := s.delivery.markDeliveryFailed reason
        history := s.history.fail } : State ι).Inv := by
  have hlive : (s.phase i).Live := by rw [hi]; trivial
  have hnobody := hs.not_live_done hlive
  have hclear : s.history = .clear := hs.clear_of_live hlive (by rw [hi]; rfl)
  refine ⟨hs.external, fun a _ ha => absurd ha (hnobody a), fun a ha => absurd ha (hnobody a), ?_,
    fun a ha => (not_hasSucceeded_of_not_live (hnobody a) ha).elim,
    fun hne => absurd (by rw [hclear]; rfl) hne⟩
  intro hsent
  cases hsent

/-- A step of a resend or of a job. -/
theorem Inv.next_step (hs : s.Inv) {around : Surroundings}
    (he : s.phase i = .accepted → s.delivery.status = .failed) :
    (s.next (.step i around)).Inv := by
  simp only [State.next]
  split
  case h_1 h =>
    split
    case isTrue hfailed =>
      exact (hs.goOn (p := .accepted) (fun hp => hp.elim) (by rw [h]; rfl)).accept
        (hs.clear_of_failed hfailed)
    case isFalse => exact hs.goOn (fun hp => hp.elim) (by rw [h]; rfl)
  case h_2 h => exact hs.reset (he h)
  case h_3 h => exact hs.goOn (fun _ => by rw [h]; trivial) (by rw [h]; rfl)
  case h_4 attemptsMade h =>
    exact hs.goOn (fun _ => by rw [h]; trivial)
      (by rw [h, hasSucceeded_processed hs.external]; rfl)
  case h_5 attemptsMade requests h =>
    split
    case isTrue =>
      exact hs.goOn (fun _ => by rw [h]; trivial) (by rw [h, hasSucceeded_settled]; rfl)
    case isFalse => exact hs
  case h_6 h => exact hs.sent h
  case h_7 reason h => exact hs.fail h
  case h_8 => exact hs

/-- A request of an attempt. -/
theorem Inv.next_request (hs : s.Inv) (k : ℕ) : (s.next (.request i k)).Inv := by
  simp only [State.next]
  split
  case h_1 attemptsMade requests h =>
    split
    case isTrue hready =>
      refine hs.goOn (fun _ => by rw [h]; trivial) ?_
      rw [h]
      exact any_set_of_not_isFulfilled hready rfl rfl
    case isFalse => exact hs
  case h_2 => exact hs

/-- The answer to a request. -/
theorem Inv.next_answer (hs : s.Inv) (k : ℕ) (result : Option ProviderError) :
    (s.next (.answer i k result)).Inv := by
  simp only [State.next]
  split
  case h_1 attemptsMade requests h =>
    split
    case h_1 request hrequest =>
      obtain ⟨old, hk, hanswer⟩ := Option.bind_eq_some_iff.mp hrequest
      have hlive : (s.phase i).Live := by rw [h]; trivial
      split
      case isTrue hresult =>
        refine hs.succeed hlive ?_
        obtain rfl : request = .answered none := by
          subst hresult
          cases old with
          | sent => exact (Option.some.inj hanswer).symm
          | ready => cases hanswer
          | answered => cases hanswer
        exact List.any_eq_true.mpr ⟨.answered none, List.mem_set (List.getElem?_eq_some_iff.mp hk).1 _,
          rfl⟩
      case isFalse hresult =>
        -- neither the request that is answered nor the answer is a success
        obtain ⟨hold, hnew⟩ : old.isFulfilled = false ∧ request.isFulfilled = false := by
          obtain ⟨e, rfl⟩ := Option.ne_none_iff_exists'.mp hresult
          cases old with
          | answered => cases hanswer
          | _ =>
            obtain rfl := Option.some.inj hanswer
            exact ⟨rfl, rfl⟩
        refine hs.goOn (fun _ => hlive) ?_
        rw [h]
        exact any_set_of_not_isFulfilled hk hold hnew
    case h_2 => exact hs
  case h_2 => exact hs

theorem Inv.next (hs : s.Inv) (e : Event ι) (he : s.Current e) : (s.next e).Inv := by
  cases e with
  | step i around => exact hs.next_step he
  | throw i =>
    simp only [State.next]
    split
    case h_1 attemptsMade h =>
      exact hs.goOn (fun _ => by rw [h]; trivial) (by rw [h, hasSucceeded_retried]; rfl)
    case h_2 => exact hs
  | request i k => exact hs.next_request k
  | answer i k result => exact hs.next_answer k result

omit [DecidableEq ι] in
theorem Inv.permitted (hs : s.Inv) (e : Event ι) (he : s.Current e) : s.Permitted e := by
  cases e with
  | request i k =>
    intro hready
    have hlive : (s.phase i).Live := by
      cases h : s.phase i with
      | sending => trivial
      | _ =>
        rw [h] at hready
        cases hready
    exact hs.clear_of_live hlive (he hready)
  | _ => trivial

end State

/-! ### Runs -/

/-- A resend resets the delivery while its status is still what it has read, and an attempt makes all
its requests before one of them succeeds: a delivery that is marked as sent has had a request that
succeeded, and after one there is no further request. -/
theorem backed_of_current {ι : Type} [DecidableEq ι] {channel : NotificationChannel}
    (hchannel : channel ≠ .inApp) (i : ι) (es : List (Event ι))
    (hes : EachStep State.next State.Current (State.created channel i) es) :
    (runFrom State.next (State.created channel i) es).Backed ∧
      EachStep State.next State.Permitted (State.created channel i) es := by
  have hstart : (State.created channel i).Inv := State.Inv.created hchannel i
  have hnext : ∀ (s : State ι) e, s.Inv → s.Current e → (s.next e).Inv :=
    fun _ e hs he => hs.next e he
  exact ⟨(runFrom_induction_of_eachStep hnext hstart hes).backed,
    EachStep.of_invariant hnext (fun _ e hs he => hs.permitted e he) hstart hes⟩

/-- A step of a call, for a recipient with an address and two devices. -/
def turn (i : ℕ) : Event ℕ :=
  .step i
    { isConfigured := true
      isEnabled := true
      recipient := { email := some "a@b.ir", phone := none, pushTokens := [some "a", some "b"] } }

/-- An attempt that makes one request and gets its answer. -/
def attempt (i : ℕ) (result : Option ProviderError) : List (Event ℕ) :=
  [turn i, .request i 0, .answer i 0 result, turn i]

/-- The first job fails for good, and two resends read that. -/
def bothAccepted : List (Event ℕ) :=
  attempt 0 (some (.providerHttpError (some 400))) ++ [turn 0, turn 1, turn 2]

/-- The second resend resets the delivery after the request of the first has succeeded, before or
after the delivery is marked as sent. And a device is sent a request after that of another device has
succeeded. -/
theorem not_backed_bothAccepted :
    (¬ ∀ es : List (Event ℕ), (runFrom State.next (State.created .email 0) es).Backed) ∧
      (¬ ∀ es : List (Event ℕ), EachStep State.next State.Permitted (State.created .email 0) es) ∧
      ¬ ∀ es : List (Event ℕ), EachStep State.next State.Permitted (State.created .push 0) es := by
  refine ⟨fun h => ?_, fun h => ?_, fun h => ?_⟩
  · have hbacked := h (bothAccepted ++ [turn 1, turn 1] ++ attempt 1 none ++ [turn 2, turn 1])
    revert hbacked
    decide +kernel
  · have hpermitted := h (bothAccepted ++ [turn 1, turn 1] ++ attempt 1 none ++
      [turn 1, turn 2, turn 2] ++ attempt 2 none)
    revert hpermitted
    decide +kernel
  · have hpermitted := h [turn 0, .request 0 0, .answer 0 0 none, .request 0 1]
    revert hpermitted
    decide +kernel

/-- The second resend comes after the delivery is marked as sent. -/
def inTurn : List (Event ℕ) :=
  attempt 0 (some (.providerHttpError (some 400))) ++ [turn 0, turn 1, turn 1, turn 1] ++
    attempt 1 none ++ [turn 1, turn 2, turn 2]

/-- Both devices are sent their requests before one of them succeeds. -/
def bothDevices : List (Event ℕ) :=
  [turn 0, .request 0 0, .request 0 1, .answer 0 1 none, .answer 0 0 (some .other), turn 0, turn 0]

theorem backed_of_current_inTurn :
    ((runFrom State.next (State.created .email 0) inTurn).Backed ∧
      EachStep State.next State.Permitted (State.created .email 0) inTurn) ∧
    ((runFrom State.next (State.created .push 0) bothDevices).Backed ∧
      EachStep State.next State.Permitted (State.created .push 0) bothDevices) :=
  ⟨backed_of_current (by decide) 0 inTurn (by decide +kernel),
    backed_of_current (by decide) 0 bothDevices (by decide +kernel)⟩

end VielHome.Notifications
