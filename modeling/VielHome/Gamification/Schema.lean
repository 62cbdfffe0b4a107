import VielHome.Relational.Table

/-!
# The tables of the gamification module

People with their XP balance and the ledger of XP transactions behind it, achievements and
who holds them, and the score of each building with its history. Row ids are natural numbers
handed out by the tables. The reason of a score event is a string in the schema; only names
of XP reasons are ever written to it, so it is one here. Columns that no modelled operation
reads or writes are left out.
-/

namespace VielHome.Gamification

open Relational

/-- An instant, in milliseconds. -/
abbrev Time := ℤ

/-- What XP is awarded for. -/
inductive XpReason
  | profileCreated
  | buildingSetupCompleted
  | chargePaid
  | voteParticipated
  | caseResolved
  | chargePaidReversed
  | adminCorrection
  deriving DecidableEq

/-- What may be achieved. -/
inductive AchievementCode
  | firstSteps
  | buildingFounder
  | firstPayment
  | firstVote
  | communityHelper
  deriving DecidableEq

/-- The leagues of the buildings. -/
inductive LeagueTier
  | bronze
  | silver
  | gold
  | platinum
  | diamond
  deriving DecidableEq

/-- Somebody, with a balance of XP. -/
structure Person where
  id : ℕ
  xpBalance : ℤ := 0
  deriving DecidableEq

/-- A building. -/
structure Building where
  id : ℕ
  deriving DecidableEq

/-- A line of the ledger. -/
structure XpTransaction where
  id : ℕ
  personId : ℕ
  buildingId : Option ℕ := none
  reason : XpReason
  amount : ℤ
  sourceEvent : Option String := none
  referenceType : Option String := none
  referenceId : Option ℕ := none
  deriving DecidableEq

/-- What may be achieved, and what it is worth. -/
structure AchievementDefinition where
  id : ℕ
  code : AchievementCode
  title : String
  xpBonus : ℤ := 0
  deriving DecidableEq

/-- Somebody has achieved something. -/
structure PersonAchievement where
  id : ℕ
  personId : ℕ
  definitionId : ℕ
  buildingId : Option ℕ := none
  revokedById : Option ℕ := none
  revokedAt : Option Time := none
  deriving DecidableEq

/-- The score of a building. -/
structure BuildingScore where
  id : ℕ
  buildingId : ℕ
  score : ℤ := 0
  leagueTier : LeagueTier := .bronze
  deriving DecidableEq

/-- A line of the history of a score. -/
structure BuildingScoreEvent where
  id : ℕ
  buildingScoreId : ℕ
  delta : ℤ
  reason : XpReason
  sourceEvent : Option String := none
  previousTier : LeagueTier
  newTier : LeagueTier
  deriving DecidableEq

/-- The tables of the module. -/
structure Store where
  persons : Table Person Person.id
  buildings : Table Building Building.id
  xpTransactions : Table XpTransaction XpTransaction.id
  achievementDefinitions : Table AchievementDefinition AchievementDefinition.id
  personAchievements : Table PersonAchievement PersonAchievement.id
  buildingScores : Table BuildingScore BuildingScore.id
  buildingScoreEvents : Table BuildingScoreEvent BuildingScoreEvent.id

/-- No rows at all. -/
def Store.empty : Store := ⟨.empty, .empty, .empty, .empty, .empty, .empty, .empty⟩

/-! ### Conditions on a row -/

/-- The transaction carries the reference, for the reason. -/
def XpTransaction.Refers (t : XpTransaction) (referenceType : String) (referenceId : ℕ)
    (reason : XpReason) : Prop :=
  t.referenceType = some referenceType ∧ t.referenceId = some referenceId ∧ t.reason = reason

instance (t : XpTransaction) (referenceType : String) (referenceId : ℕ) (reason : XpReason) :
    Decidable (t.Refers referenceType referenceId reason) :=
  inferInstanceAs (Decidable (_ ∧ _))

/-- The person holds the achievement: the grant was not revoked. -/
def PersonAchievement.IsHeld (a : PersonAchievement) (personId definitionId : ℕ) : Prop :=
  a.personId = personId ∧ a.definitionId = definitionId ∧ a.revokedAt = none

instance (a : PersonAchievement) (personId definitionId : ℕ) :
    Decidable (a.IsHeld personId definitionId) :=
  inferInstanceAs (Decidable (_ ∧ _))

/-! ### Selections -/

namespace Store

variable (s : Store)

/-- `xpTransaction.count` for a person and a reason. -/
def countTransactions (personId : ℕ) (reason : XpReason) : ℕ :=
  (s.xpTransactions.rows.filter fun t => t.personId = personId ∧ t.reason = reason).length

/-- `findXpTransactionByReference`. -/
def transactionOf (referenceType : String) (referenceId : ℕ) (reason : XpReason) :
    Option XpTransaction :=
  s.xpTransactions.rows.find? fun t => t.Refers referenceType referenceId reason

/-- `achievementDefinition.findUnique` by code. -/
def definitionOf (code : AchievementCode) : Option AchievementDefinition :=
  s.achievementDefinitions.rows.find? fun d => d.code = code

/-- The grant of an achievement that a person holds. -/
def heldAchievement (personId definitionId : ℕ) : Option PersonAchievement :=
  s.personAchievements.rows.find? fun a => a.IsHeld personId definitionId

/-- `buildingScore.findUnique` by building. -/
def scoreOf (buildingId : ℕ) : Option BuildingScore :=
  s.buildingScores.rows.find? fun r => r.buildingId = buildingId

/-- What the ledger says a person has earned. -/
def ledgerXp (personId : ℕ) : ℤ :=
  s.xpTransactions.sum fun t => if t.personId = personId then t.amount else 0

/-- The bonus of an achievement. -/
def bonusOf (definitionId : ℕ) : ℤ :=
  ((s.achievementDefinitions.find? definitionId).map AchievementDefinition.xpBonus).getD 0

/-- What the achievements ever granted to a person have added. -/
def achievementXp (personId : ℕ) : ℤ :=
  s.personAchievements.sum fun a => if a.personId = personId then s.bonusOf a.definitionId else 0

/-- What the history says a building has scored. -/
def historicScore (buildingScoreId : ℕ) : ℤ :=
  s.buildingScoreEvents.sum fun e => if e.buildingScoreId = buildingScoreId then e.delta else 0

end Store

end VielHome.Gamification
