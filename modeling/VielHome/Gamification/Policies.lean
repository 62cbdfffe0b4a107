import VielHome.Gamification.Schema

/-!
# What is awarded, and the leagues

`XP_CATALOG` says what each reason is worth, `ACHIEVEMENT_SEED_DATA` which achievements
exist, and `GamificationPolicy` which league a score belongs to.
-/

namespace VielHome.Gamification

open Relational

/-- What a reason is worth. -/
structure XpCatalogEntry where
  amount : ℤ
  buildingScoreDelta : ℤ
  achievementCode : Option AchievementCode := none

/-- `CHARGE_PAID_AMOUNT`. -/
def chargePaidAmount : ℤ := 20

/-- `CHARGE_PAID_BUILDING_SCORE_DELTA`. -/
def chargePaidBuildingScoreDelta : ℤ := 3

/-- `XP_CATALOG`. -/
def xpCatalog : XpReason → XpCatalogEntry
  | .profileCreated => { amount := 10, buildingScoreDelta := 0, achievementCode := some .firstSteps }
  | .buildingSetupCompleted =>
    { amount := 50, buildingScoreDelta := 10, achievementCode := some .buildingFounder }
  | .chargePaid =>
    { amount := chargePaidAmount, buildingScoreDelta := chargePaidBuildingScoreDelta,
      achievementCode := some .firstPayment }
  | .voteParticipated => { amount := 15, buildingScoreDelta := 2, achievementCode := some .firstVote }
  | .caseResolved =>
    { amount := 25, buildingScoreDelta := 4, achievementCode := some .communityHelper }
  | .chargePaidReversed =>
    { amount := -chargePaidAmount, buildingScoreDelta := -chargePaidBuildingScoreDelta }
  | .adminCorrection => { amount := 0, buildingScoreDelta := 0 }

/-- What the seed script knows of an achievement. -/
structure AchievementSeed where
  code : AchievementCode
  title : String
  xpBonus : ℤ

/-- `ACHIEVEMENT_SEED_DATA`. -/
def achievementSeedData : List AchievementSeed :=
  [{ code := .firstSteps, title := "اولین قدم‌ها", xpBonus := 0 },
    { code := .buildingFounder, title := "بنیان‌گذار ساختمان", xpBonus := 0 },
    { code := .firstPayment, title := "اولین پرداخت", xpBonus := 0 },
    { code := .firstVote, title := "اولین رأی", xpBonus := 0 },
    { code := .communityHelper, title := "یاور جامعه", xpBonus := 0 }]

/-- The definition as it is stored. -/
def AchievementSeed.definition (a : AchievementSeed) (id : ℕ) : AchievementDefinition :=
  { id, code := a.code, title := a.title, xpBonus := a.xpBonus }

theorem AchievementSeed.definition_id (a : AchievementSeed) (id : ℕ) : (a.definition id).id = id := rfl

/-- What the seed script writes; no module writes to these rows. -/
def seededDefinitions : Table AchievementDefinition AchievementDefinition.id :=
  Table.empty.createMany achievementSeedData AchievementSeed.definition AchievementSeed.definition_id

theorem xpBonus_seededDefinitions : ∀ d ∈ seededDefinitions, d.xpBonus = 0 := by decide

namespace GamificationPolicy

/-- `LEAGUE_THRESHOLDS`, highest first. -/
def leagueThresholds : List (LeagueTier × ℤ) :=
  [(.diamond, 1500), (.platinum, 700), (.gold, 300), (.silver, 100), (.bronze, 0)]

/-- The highest league whose threshold the score reaches, and never less than bronze. -/
def computeLeagueTier (score : ℤ) : LeagueTier :=
  match leagueThresholds.find? fun t => score ≥ t.2 with
  | some t => t.1
  | none => .bronze

end GamificationPolicy

end VielHome.Gamification
