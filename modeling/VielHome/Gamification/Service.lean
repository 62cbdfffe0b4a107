import VielHome.Gamification.Repository

/-!
# `GamificationService` and its callers

An award is three transactions in a row: the XP, the achievement of a first occurrence, and
the score of the building. The listener turns the events of other modules into awards, the
administration lets the staff correct what was awarded. Audit records and emitted events are
left out.
-/

namespace VielHome.Gamification

open Relational.ReadCommitted

namespace GamificationService

/-- What an award is made from. Only an award with a reference is given once. -/
structure AwardXpInput where
  personId : ℕ
  buildingId : Option ℕ := none
  reason : XpReason
  sourceEvent : Option String := none
  referenceType : Option String := none
  referenceId : Option ℕ := none

/-- What is asked of the repository. -/
def AwardXpInput.params (input : AwardXpInput) : GamificationRepository.AwardXpParams :=
  { personId := input.personId, buildingId := input.buildingId, reason := input.reason,
    amount := (xpCatalog input.reason).amount, sourceEvent := input.sourceEvent,
    referenceType := input.referenceType, referenceId := input.referenceId }

/-- The achievement of a first occurrence. -/
def unlockOnFirstOccurrence (input : AwardXpInput) (isFirstOccurrence : Bool) : Call PUnit :=
  match isFirstOccurrence, (xpCatalog input.reason).achievementCode with
  | true, some code => do
    let _ ← GamificationRepository.unlockAchievement input.personId code input.buildingId
    pure ⟨⟩
  | _, _ => pure ⟨⟩

/-- The score of a building is changed. -/
def applyBuildingScoreDelta (buildingId : ℕ) (delta : ℤ) (reason : XpReason)
    (sourceEvent : Option String) : Call PUnit := do
  let _ ← GamificationRepository.applyBuildingScoreDelta buildingId delta reason sourceEvent
  pure ⟨⟩

/-- The building gets its share of an award. -/
def scoreBuilding (input : AwardXpInput) : Call PUnit :=
  match input.buildingId with
  | some buildingId =>
    if (xpCatalog input.reason).buildingScoreDelta ≠ 0 then
      applyBuildingScoreDelta buildingId (xpCatalog input.reason).buildingScoreDelta input.reason
        input.sourceEvent
    else pure ⟨⟩
  | none => pure ⟨⟩

/-- What follows an award that was not a duplicate. -/
def afterAward (input : AwardXpInput) : GamificationRepository.AwardXpResult → Call PUnit
  | .duplicate => pure ⟨⟩
  | .awarded isFirstOccurrence => do
    unlockOnFirstOccurrence input isFirstOccurrence
    scoreBuilding input

/-- `awardXp`: the XP first, and the rest only when it was no duplicate. -/
def awardXp (input : AwardXpInput) : Call PUnit := do
  let result ← GamificationRepository.awardXp input.params
  afterAward input result

/-- The award that takes another one back. -/
def clawback (original : XpTransaction) (paymentId : ℕ) (sourceEvent : Option String) : AwardXpInput :=
  { personId := original.personId, buildingId := original.buildingId, reason := .chargePaidReversed,
    sourceEvent, referenceType := some "PAYMENT", referenceId := some paymentId }

/-- `clawbackChargePaidXp`: what was awarded for a payment is taken back once. -/
def clawbackChargePaidXp (paymentId : ℕ) (sourceEvent : Option String) : Call PUnit := do
  let original ← Prog.query (·.transactionOf "PAYMENT" paymentId .chargePaid)
  match original with
  | none => pure ⟨⟩
  | some original =>
    let alreadyClawedBack ← Prog.query (·.transactionOf "PAYMENT" paymentId .chargePaidReversed)
    if alreadyClawedBack.isSome then pure ⟨⟩
    else awardXp (clawback original paymentId sourceEvent)

/-- A correction that the repository calls a duplicate is refused. -/
def requireAwarded : GamificationRepository.AwardXpResult → Call PUnit
  | .awarded _ => pure ⟨⟩
  | .duplicate => .fail (.unexpected
    ("ADMIN_CORRECTION award unexpectedly suppressed as a duplicate — this should be " ++
      "structurally impossible (ADMIN_CORRECTION never sets referenceType/referenceId)."))

/-- A correction by the staff, which has no reference and so is no duplicate. -/
def adjustXp (personId : ℕ) (buildingId : Option ℕ) (amount : ℤ) : Call PUnit := do
  let result ← GamificationRepository.awardXp
    { personId, buildingId, reason := .adminCorrection, amount,
      sourceEvent := some "GamificationAdministrationService.adjustXp" }
  requireAwarded result

/-- A correction of a score by the staff. -/
def adjustBuildingScore (buildingId : ℕ) (delta : ℤ) : Call PUnit :=
  applyBuildingScoreDelta buildingId delta .adminCorrection
    (some "GamificationAdministrationService.adjustBuildingScore")

/-- The achievement is granted, or is held already. -/
def grantAchievement (personId : ℕ) (code : AchievementCode) (buildingId : Option ℕ) :
    Call String := do
  let unlocked ← GamificationRepository.unlockAchievement personId code buildingId
  Prog.expect unlocked (.duplicate "This person already holds this achievement.")

/-- The achievement is revoked, or is not held. -/
def revokeAchievement (personId : ℕ) (code : AchievementCode) (actorPersonId : ℕ) (now : Time) :
    Call String := do
  let revoked ← GamificationRepository.revokeAchievement personId code actorPersonId now
  Prog.expect revoked (.notFound "This person does not currently hold this achievement.")

end GamificationService

namespace GamificationAdministrationService

/-- The person is there, or `404`. -/
def assertPersonExists (personId : ℕ) : Call PUnit := do
  let found ← Prog.query fun s => (s.persons.find? personId).isSome
  Prog.require (found = true) (.notFound "Person not found.")

/-- The building is there, or `404`. -/
def assertBuildingExists (buildingId : ℕ) : Call PUnit := do
  let found ← Prog.query fun s => (s.buildings.find? buildingId).isSome
  Prog.require (found = true) (.notFound "Building not found.")

/-- The building is looked for when one is named. -/
def assertNamedBuildingExists : Option ℕ → Call PUnit
  | some buildingId => assertBuildingExists buildingId
  | none => pure ⟨⟩

/-- `adjustXp`, of somebody who is there. -/
def adjustXp (personId : ℕ) (buildingId : Option ℕ) (amount : ℤ) : Call PUnit := do
  assertPersonExists personId
  assertNamedBuildingExists buildingId
  GamificationService.adjustXp personId buildingId amount

/-- `adjustBuildingScore`, of a building that is there. -/
def adjustBuildingScore (buildingId : ℕ) (delta : ℤ) : Call PUnit := do
  assertBuildingExists buildingId
  GamificationService.adjustBuildingScore buildingId delta

/-- `grantAchievement`, to somebody who is there. -/
def grantAchievement (personId : ℕ) (code : AchievementCode) (buildingId : Option ℕ) :
    Call String := do
  assertPersonExists personId
  assertNamedBuildingExists buildingId
  GamificationService.grantAchievement personId code buildingId

/-- `revokeAchievement`, from somebody who is there. -/
def revokeAchievement (personId : ℕ) (code : AchievementCode) (actorPersonId : ℕ) (now : Time) :
    Call String := do
  assertPersonExists personId
  GamificationService.revokeAchievement personId code actorPersonId now

end GamificationAdministrationService

namespace GamificationEventListener

/-- A building was created. -/
structure BuildingCreatedEvent where
  buildingId : ℕ
  createdById : ℕ

/-- Somebody has signed in. -/
structure PersonAuthenticatedEvent where
  personId : ℕ
  isNewPerson : Bool

/-- A payment was approved. -/
structure PaymentApprovedEvent where
  paymentId : ℕ
  buildingId : ℕ
  payerId : ℕ

/-- An approved payment was reversed. -/
structure PaymentReversedEvent where
  paymentId : ℕ

/-- A part of a payment was refunded, or all of it. -/
structure PaymentRefundedEvent where
  paymentId : ℕ
  isFullRefund : Bool := false

/-- Somebody has voted. -/
structure BallotCastEvent where
  buildingId : ℕ
  voterPersonId : ℕ

/-- A case that has got the status `RESOLVED`, or another one. -/
structure CaseStatusChangedEvent where
  caseId : ℕ
  buildingId : ℕ
  resolved : Bool
  actorPersonId : ℕ

/-- Who creates a building has set it up. -/
def onBuildingCreated (event : BuildingCreatedEvent) : Call PUnit :=
  GamificationService.awardXp
    { personId := event.createdById, buildingId := some event.buildingId,
      reason := .buildingSetupCompleted, sourceEvent := some "BuildingCreated" }

/-- A profile is awarded at the first sign-in. -/
def onPersonAuthenticated (event : PersonAuthenticatedEvent) : Call PUnit :=
  if event.isNewPerson then
    GamificationService.awardXp
      { personId := event.personId, reason := .profileCreated,
        sourceEvent := some "PersonAuthenticated" }
  else pure ⟨⟩

/-- The payer is awarded once for a payment. -/
def onPaymentApproved (event : PaymentApprovedEvent) : Call PUnit :=
  GamificationService.awardXp
    { personId := event.payerId, buildingId := some event.buildingId, reason := .chargePaid,
      sourceEvent := some "PaymentApproved", referenceType := some "PAYMENT",
      referenceId := some event.paymentId }

/-- The award for the payment is taken back. -/
def onPaymentReversed (event : PaymentReversedEvent) : Call PUnit :=
  GamificationService.clawbackChargePaidXp event.paymentId (some "PaymentReversed")

/-- Only a full refund takes the award back. -/
def onPaymentRefunded (event : PaymentRefundedEvent) : Call PUnit :=
  if event.isFullRefund then
    GamificationService.clawbackChargePaidXp event.paymentId (some "PaymentRefunded")
  else pure ⟨⟩

/-- Every ballot is awarded. -/
def onBallotCast (event : BallotCastEvent) : Call PUnit :=
  GamificationService.awardXp
    { personId := event.voterPersonId, buildingId := some event.buildingId,
      reason := .voteParticipated, sourceEvent := some "BallotCast" }

/-- Who resolves a case is awarded once for it. -/
def onCaseStatusChanged (event : CaseStatusChangedEvent) : Call PUnit :=
  if event.resolved then
    GamificationService.awardXp
      { personId := event.actorPersonId, buildingId := some event.buildingId,
        reason := .caseResolved, sourceEvent := some "CaseStatusChanged",
        referenceType := some "CASE", referenceId := some event.caseId }
  else pure ⟨⟩

/-- An event that the listener is subscribed to. -/
inductive Event
  | buildingCreated (event : BuildingCreatedEvent)
  | personAuthenticated (event : PersonAuthenticatedEvent)
  | paymentApproved (event : PaymentApprovedEvent)
  | paymentReversed (event : PaymentReversedEvent)
  | paymentRefunded (event : PaymentRefundedEvent)
  | ballotCast (event : BallotCastEvent)
  | caseStatusChanged (event : CaseStatusChangedEvent)

/-- The handler of the event. -/
def on : Event → Call PUnit
  | .buildingCreated event => onBuildingCreated event
  | .personAuthenticated event => onPersonAuthenticated event
  | .paymentApproved event => onPaymentApproved event
  | .paymentReversed event => onPaymentReversed event
  | .paymentRefunded event => onPaymentRefunded event
  | .ballotCast event => onBallotCast event
  | .caseStatusChanged event => onCaseStatusChanged event

end GamificationEventListener

end VielHome.Gamification
