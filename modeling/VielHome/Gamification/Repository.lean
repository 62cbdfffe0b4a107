import VielHome.Gamification.Policies
import VielHome.Common.AppError
import VielHome.Relational.ReadCommitted
import Mathlib.Tactic.Simps.Basic

/-!
# `GamificationRepository`

The statements of the repository, one by one. The database enforces the lock of an updated
row and the entry of a unique index that an insertion makes. The last lock is enforced by
nobody: it names the score of a building, which the repository reads in order to write it
back.

The columns `xpBalance` and `BuildingScore.score` are integers of 32 bits; here they have no bound,
and an update that would leave their range is not refused.
-/

namespace VielHome.Gamification

open Relational
open Relational.ReadCommitted
open Prog (query queryUnder write writeIf writeUnless insertIfAbsent transaction)

/-! ### Calls and their locks -/

/-- The tables whose rows are updated. -/
inductive TableName
  | person
  | personAchievement
  | buildingScore
  deriving DecidableEq

/-- What a statement locks. -/
inductive Lock
  /-- A row that is updated. -/
  | row (table : TableName) (id : ℕ)
  /-- The entry of a unique index that an insertion makes. -/
  | referenceKey (referenceType : String) (referenceId : ℕ) (reason : XpReason)
  | heldKey (personId definitionId : ℕ)
  | scoreKey (buildingId : ℕ)
  /-- What a new score is computed from, with no lock behind it. -/
  | score (buildingId : ℕ)
  deriving DecidableEq

/-- The database makes a statement wait for the lock. -/
def Lock.enforced : Lock → Bool
  | score _ => false
  | _ => true

/-- A program of statements on the tables. -/
abbrev Call (α : Type) : Type := Prog Store Lock Failure α

/-- The tables, the sessions that run a call each, and the locks they hold. -/
abbrev Sessions (ι α : Type) : Type := Database ι Store Lock Failure α

/-- The sessions after some events, each call about to start on the store. -/
def runCalls {ι α : Type} [DecidableEq ι] (s : Store) (calls : ι → Call α)
    (es : List (Event ι Failure)) : Sessions ι α :=
  Relational.runFrom (Database.next Lock.enforced) (Database.start s calls) es

/-! ### Writes to one table -/

namespace Store

/-- A change of the people. -/
@[simps]
def onPersons (f : Table Person Person.id → Table Person Person.id) (s : Store) : Store :=
  { s with persons := f s.persons }

/-- A change of the ledger. -/
@[simps]
def onXpTransactions (f : Table XpTransaction XpTransaction.id → Table XpTransaction XpTransaction.id)
    (s : Store) : Store :=
  { s with xpTransactions := f s.xpTransactions }

/-- A change of the achievements. -/
@[simps]
def onPersonAchievements
    (f : Table PersonAchievement PersonAchievement.id → Table PersonAchievement PersonAchievement.id)
    (s : Store) : Store :=
  { s with personAchievements := f s.personAchievements }

/-- A change of the scores. -/
@[simps]
def onBuildingScores (f : Table BuildingScore BuildingScore.id → Table BuildingScore BuildingScore.id)
    (s : Store) : Store :=
  { s with buildingScores := f s.buildingScores }

/-- A change of the history of the scores. -/
@[simps]
def onBuildingScoreEvents
    (f : Table BuildingScoreEvent BuildingScoreEvent.id →
      Table BuildingScoreEvent BuildingScoreEvent.id) (s : Store) : Store :=
  { s with buildingScoreEvents := f s.buildingScoreEvents }

end Store

/-! ### Statements on one table -/

/-- The entry of the unique index on the reference, which leaves rows without one alone. -/
def referenceKeys (t : XpTransaction) : List (Lock × Mode) :=
  match t.referenceType, t.referenceId with
  | some referenceType, some referenceId =>
    [(.referenceKey referenceType referenceId t.reason, .exclusive)]
  | _, _ => []

/-- Another row carries the reference of the transaction, for its reason. -/
def referenceTaken (t : XpTransaction) (s : Store) : Bool :=
  match t.referenceType, t.referenceId with
  | some referenceType, some referenceId =>
    (s.transactionOf referenceType referenceId t.reason).isSome
  | _, _ => false

/-- An optional reference to a building that is there. -/
def refersToBuilding (buildingId : Option ℕ) (s : Store) : Bool :=
  buildingId.all fun id => (s.buildings.find? id).isSome

/-- `xpTransaction.create`. -/
def insertXpTransaction (mk : ℕ → XpTransaction)
    (h : ∀ id, (mk id).id = id := by intro _; exact rfl) : Call PUnit :=
  writeUnless (referenceKeys (mk 0))
    (fun s =>
      if referenceTaken (mk 0) s then some .uniqueConstraint
      else if (s.persons.find? (mk 0).personId).isSome && refersToBuilding (mk 0).buildingId s then
        none
      else some .foreignKey)
    (Store.onXpTransactions (·.create mk h))

/-- A balance is raised by an amount, which may be negative. -/
def Person.earned (amount : ℤ) (p : Person) : Person := { p with xpBalance := p.xpBalance + amount }

theorem Person.earned_id (amount : ℤ) (p : Person) : (p.earned amount).id = p.id := rfl

/-- `person.update` with an `increment` of the balance. -/
def incrementXpBalance (personId : ℕ) (amount : ℤ) : Call PUnit :=
  writeIf [(.row .person personId, .exclusive)] (fun s => (s.persons.find? personId).isSome)
    .recordNotFound
    (Store.onPersons (·.modify personId (Person.earned amount) (Person.earned_id amount)))

/-- A new grant of an achievement. -/
def granted (personId definitionId : ℕ) (buildingId : Option ℕ) (id : ℕ) : PersonAchievement :=
  { id, personId, definitionId, buildingId }

theorem granted_id (personId definitionId : ℕ) (buildingId : Option ℕ) (id : ℕ) :
    (granted personId definitionId buildingId id).id = id := rfl

/-- `personAchievement.create`, under the partial unique index on grants that are not revoked. -/
def insertPersonAchievement (personId definitionId : ℕ) (buildingId : Option ℕ) : Call PUnit :=
  writeUnless [(.heldKey personId definitionId, .exclusive)]
    (fun s =>
      if (s.heldAchievement personId definitionId).isSome then some .uniqueConstraint
      else if (s.persons.find? personId).isSome &&
          (s.achievementDefinitions.find? definitionId).isSome && refersToBuilding buildingId s then
        none
      else some .foreignKey)
    (Store.onPersonAchievements
      (·.create (granted personId definitionId buildingId)
        (granted_id personId definitionId buildingId)))

/-- The grant is closed. -/
def PersonAchievement.revoked (actorPersonId : ℕ) (now : Time) (a : PersonAchievement) :
    PersonAchievement :=
  { a with revokedById := some actorPersonId, revokedAt := some now }

theorem PersonAchievement.revoked_id (actorPersonId : ℕ) (now : Time) (a : PersonAchievement) :
    (a.revoked actorPersonId now).id = a.id := rfl

/-- `personAchievement.update` of a grant. It leaves the partial unique index, where an
insertion has to wait for it. -/
def revokePersonAchievement (a : PersonAchievement) (actorPersonId : ℕ) (now : Time) : Call PUnit :=
  writeIf
    [(.row .personAchievement a.id, .exclusive), (.heldKey a.personId a.definitionId, .exclusive)]
    (fun s => (s.personAchievements.find? a.id).isSome) .recordNotFound
    (Store.onPersonAchievements
      (·.modify a.id (PersonAchievement.revoked actorPersonId now)
        (PersonAchievement.revoked_id actorPersonId now)))

/-- The first score of a building. -/
def firstScore (buildingId id : ℕ) : BuildingScore := { id, buildingId, score := 0, leagueTier := .bronze }

theorem firstScore_id (buildingId id : ℕ) : (firstScore buildingId id).id = id := rfl

/-- `buildingScore.upsert` with an empty update. -/
def ensureBuildingScore (buildingId : ℕ) : Call PUnit :=
  insertIfAbsent (.scoreKey buildingId) (fun s => (s.scoreOf buildingId).isNone)
    (fun s => if (s.buildings.find? buildingId).isSome then none else some .foreignKey)
    (Store.onBuildingScores (·.create (firstScore buildingId) (firstScore_id buildingId)))

/-- The score is set, whatever it was. -/
def BuildingScore.scored (score : ℤ) (leagueTier : LeagueTier) (r : BuildingScore) : BuildingScore :=
  { r with score, leagueTier }

theorem BuildingScore.scored_id (score : ℤ) (leagueTier : LeagueTier) (r : BuildingScore) :
    (r.scored score leagueTier).id = r.id := rfl

/-- Write the score of a building; the row is found by its building. -/
def setScore (buildingId : ℕ) (score : ℤ) (leagueTier : LeagueTier) (s : Store) : Store :=
  match s.scoreOf buildingId with
  | some r => s.onBuildingScores
    (·.modify r.id (BuildingScore.scored score leagueTier) (BuildingScore.scored_id score leagueTier))
  | none => s

/-- `buildingScore.update` by building. -/
def updateBuildingScore (before : BuildingScore) (score : ℤ) (leagueTier : LeagueTier) : Call PUnit :=
  writeIf [(.row .buildingScore before.id, .exclusive)]
    (fun s => (s.scoreOf before.buildingId).isSome) .recordNotFound
    (setScore before.buildingId score leagueTier)

/-- A line of the history of a building's score. -/
structure ScoreChange where
  delta : ℤ
  reason : XpReason
  sourceEvent : Option String
  previousTier : LeagueTier
  newTier : LeagueTier

/-- The line of the history for a change. -/
def ScoreChange.event (c : ScoreChange) (buildingScoreId id : ℕ) : BuildingScoreEvent :=
  { id, buildingScoreId, delta := c.delta, reason := c.reason, sourceEvent := c.sourceEvent,
    previousTier := c.previousTier, newTier := c.newTier }

theorem ScoreChange.event_id (c : ScoreChange) (buildingScoreId id : ℕ) :
    (c.event buildingScoreId id).id = id := rfl

/-- Write a line of the history under the score of a building. -/
def addScoreEvent (buildingId : ℕ) (c : ScoreChange) (s : Store) : Store :=
  match s.scoreOf buildingId with
  | some r => s.onBuildingScoreEvents (·.create (c.event r.id) (c.event_id r.id))
  | none => s

/-- `buildingScoreEvent.create`. -/
def insertBuildingScoreEvent (before : BuildingScore) (c : ScoreChange) : Call PUnit :=
  write [] (addScoreEvent before.buildingId c)

namespace GamificationRepository

/-! ### XP -/

/-- What an award is made from. -/
structure AwardXpParams where
  personId : ℕ
  buildingId : Option ℕ := none
  reason : XpReason
  amount : ℤ
  sourceEvent : Option String := none
  referenceType : Option String := none
  referenceId : Option ℕ := none

/-- `AwardXpResult`. -/
inductive AwardXpResult
  | awarded (isFirstOccurrence : Bool)
  | duplicate

/-- The row of the ledger that an award writes. -/
def AwardXpParams.transaction (params : AwardXpParams) (id : ℕ) : XpTransaction :=
  { id, personId := params.personId, buildingId := params.buildingId, reason := params.reason,
    amount := params.amount, sourceEvent := params.sourceEvent,
    referenceType := params.referenceType, referenceId := params.referenceId }

theorem AwardXpParams.transaction_id (params : AwardXpParams) (id : ℕ) :
    (params.transaction id).id = id := rfl

/-- A duplicate is no error. -/
def suppressDuplicate : Failure → Call AwardXpResult
  | .uniqueConstraint => pure .duplicate
  | e => .fail e

/-- `awardXp`: the line of the ledger and the increment, unless the reference is taken. -/
def awardXp (params : AwardXpParams) : Call AwardXpResult :=
  (transaction do
    let priorCount ← query fun s => s.countTransactions params.personId params.reason
    insertXpTransaction params.transaction params.transaction_id
    incrementXpBalance params.personId params.amount
    pure (.awarded (priorCount == 0))).tryCatch suppressDuplicate

/-! ### Achievements -/

/-- The bonus of an achievement, when it has one. -/
def addBonus (personId : ℕ) (xpBonus : ℤ) : Call PUnit :=
  if xpBonus > 0 then incrementXpBalance personId xpBonus else pure ⟨⟩

/-- Grant an achievement; `none` when it is not defined or already held. -/
def unlockAchievement (personId : ℕ) (code : AchievementCode) (buildingId : Option ℕ) :
    Call (Option String) := do
  let definition ← query (·.definitionOf code)
  match definition with
  | none => pure none
  | some definition =>
    let existing ← query fun s => s.heldAchievement personId definition.id
    if existing.isSome then pure none
    else transaction do
      insertPersonAchievement personId definition.id buildingId
      addBonus personId definition.xpBonus
      pure (some definition.title)

/-- Close the grant of an achievement; `none` when it is not defined or not held. -/
def revokeAchievement (personId : ℕ) (code : AchievementCode) (actorPersonId : ℕ) (now : Time) :
    Call (Option String) := do
  let definition ← query (·.definitionOf code)
  match definition with
  | none => pure none
  | some definition =>
    let active ← query fun s => s.heldAchievement personId definition.id
    match active with
    | none => pure none
    | some active => transaction do
      revokePersonAchievement active actorPersonId now
      pure (some definition.title)

/-! ### Scores -/

/-- A score that has disappeared is no error. -/
def skipMissing : Failure → Call (Option ScoreChange)
  | .recordNotFound => pure none
  | e => .fail e

/-- Add to the score of a building: it is read, and written back as a new value. -/
def applyBuildingScoreDelta (buildingId : ℕ) (delta : ℤ) (reason : XpReason)
    (sourceEvent : Option String) : Call (Option ScoreChange) :=
  (transaction do
    ensureBuildingScore buildingId
    let found ← queryUnder (fun _ => [(.score buildingId, .exclusive)]) (·.scoreOf buildingId)
    let before ← Prog.expect found .recordNotFound
    let newScore := before.score + delta
    let newTier := GamificationPolicy.computeLeagueTier newScore
    updateBuildingScore before newScore newTier
    let change := { delta, reason, sourceEvent, previousTier := before.leagueTier, newTier }
    insertBuildingScoreEvent before change
    pure (some change)).tryCatch skipMissing

end GamificationRepository

end VielHome.Gamification
