import VielHome.Gamification.Service
import VielHome.Relational.Discipline

/-!
# Balances, ledgers and scores

Three totals are kept twice: the XP balance of a person, which the ledger and the
achievements explain, the score of a building, which its history explains, and the league,
which follows from the score. The balance is raised by increments, so that it agrees with
the ledger whatever the order of the statements. The score is read and written back, and
agrees with its history as long as nobody reads it while somebody else who has read it has
still to commit.
-/

namespace VielHome.Gamification

open Relational
open Relational.ReadCommitted (Database Discipline Event Free Mode Prog not_free_of_exclusive)
open GamificationPolicy (computeLeagueTier)

/-! ### What is claimed of a store -/

/-- What the unique indexes and the foreign keys say. -/
structure Constraints (s : Store) : Prop where
  reference : ∀ t ∈ s.xpTransactions, ∀ t' ∈ s.xpTransactions, ∀ referenceType referenceId reason,
    t.Refers referenceType referenceId reason → t'.Refers referenceType referenceId reason → t = t'
  held : ∀ a ∈ s.personAchievements, ∀ a' ∈ s.personAchievements, ∀ personId definitionId,
    a.IsHeld personId definitionId → a'.IsHeld personId definitionId → a = a'
  score : ∀ r ∈ s.buildingScores, ∀ r' ∈ s.buildingScores, r.buildingId = r'.buildingId → r = r'
  event : ∀ e ∈ s.buildingScoreEvents, (s.buildingScores.find? e.buildingScoreId).isSome = true

/-- Every balance is what the ledger and the achievements add up to; no achievement takes
anything away. -/
structure XpAgrees (s : Store) : Prop where
  bonus : ∀ d ∈ s.achievementDefinitions, 0 ≤ d.xpBonus
  balance : ∀ p ∈ s.persons, p.xpBalance = s.ledgerXp p.id + s.achievementXp p.id

/-- Every score is what its history adds up to, in the league it belongs to. -/
def ScoresAgree (s : Store) : Prop :=
  ∀ r ∈ s.buildingScores,
    r.score = s.historicScore r.id ∧ r.leagueTier = computeLeagueTier r.score

/-! ### What the sessions rely on -/

/-- What every commit keeps: people and buildings stay, the achievements are what they were,
and a score stays that of its building. -/
structure Keeps (s s' : Store) : Prop where
  person : ∀ id, (s.persons.find? id).isSome = true → (s'.persons.find? id).isSome = true
  building : s'.buildings = s.buildings
  definition : s'.achievementDefinitions = s.achievementDefinitions
  score : ∀ id buildingId,
    (s.buildingScores.find? id).map BuildingScore.buildingId = some buildingId →
      (s'.buildingScores.find? id).map BuildingScore.buildingId = some buildingId

/-- A commit that changes nothing keeps all this. -/
theorem Keeps.refl (s : Store) : Keeps s s := ⟨fun _ h => h, rfl, rfl, fun _ _ h => h⟩

/-- So do two commits in a row. -/
theorem Keeps.trans {s s' s'' : Store} (h : Keeps s s') (h' : Keeps s' s'') : Keeps s s'' where
  person id hid := h'.person id (h.person id hid)
  building := h'.building.trans h.building
  definition := h'.definition.trans h.definition
  score id buildingId hid := h'.score id buildingId (h.score id buildingId hid)

/-- What the holder of a lock may rely on: the place that is locked is not taken. -/
def sameFor : Lock → Store → Store → Prop
  | .referenceKey referenceType referenceId reason, s, s' =>
    ∀ t ∈ s'.xpTransactions, t.Refers referenceType referenceId reason → t ∈ s.xpTransactions
  | .heldKey personId definitionId, s, s' =>
    ∀ a ∈ s'.personAchievements, a.IsHeld personId definitionId → a ∈ s.personAchievements
  | .score buildingId, s, s' =>
    ∀ r ∈ s'.buildingScores, r.buildingId = buildingId → r ∈ s.buildingScores
  | _, _, _ => True

/-- A store is the same as itself, for every lock. -/
theorem sameFor_refl (l : Lock) (s : Store) : sameFor l s s := by
  unfold sameFor
  split
  · exact fun _ h _ => h
  · exact fun _ h _ => h
  · exact fun _ h _ => h
  · trivial

/-- What is the same twice in a row is the same. -/
theorem sameFor_trans {l : Lock} {s s' s'' : Store} (h : sameFor l s s') (h' : sameFor l s' s'') :
    sameFor l s s'' := by
  unfold sameFor at *
  split
  · exact fun t ht href => h t (h' t ht href) href
  · exact fun a ha hheld => h a (h' a ha hheld) hheld
  · exact fun r hr hbuilding => h r (h' r hr hbuilding) hbuilding
  · trivial

/-- The constraints, and on demand the agreement of the balances and that of the scores. The
scores need the lock that nobody enforces. -/
def awardDiscipline (xp scores : Bool) : Discipline Store Lock where
  inv s := Constraints s ∧ (xp = true → XpAgrees s) ∧ (scores = true → ScoresAgree s)
  commits := Keeps
  kept l := scores || l.enforced
  same l _ s s' := (scores || l.enforced) = true → sameFor l s s'
  same_refl l _ s _ := sameFor_refl l s
  same_trans _ _ _ _ _ h h' hkept := sameFor_trans (h hkept) (h' hkept)

variable {xp scores : Bool} {s s' : Store} {disturbed : Lock → Prop}

/-- Any number of commits keeps what one keeps. -/
theorem keeps_of_later (h : (awardDiscipline xp scores).Later s s') : Keeps s s' := by
  induction h with
  | refl => exact Keeps.refl s
  | tail _ hlast ih => exact ih.trans hlast

/-- What a commit has to keep, with the locks that it may disturb. -/
def Commits (xp scores : Bool) (disturbed : Lock → Prop) (s s' : Store) : Prop :=
  (awardDiscipline xp scores).inv s' ∧ Keeps s s' ∧ ∀ l, ¬ disturbed l → sameFor l s s'

/-! ### A commit that awards XP -/

/-- The keys of a transaction are that of its reference, when it has one. -/
theorem mem_referenceKeys {t : XpTransaction} {l : Lock} {m : Mode} :
    (l, m) ∈ referenceKeys t ↔
      ∃ referenceType referenceId, t.Refers referenceType referenceId t.reason ∧
        l = .referenceKey referenceType referenceId t.reason ∧ m = .exclusive := by
  unfold referenceKeys
  split
  case h_1 referenceType referenceId htype hid =>
    constructor
    · intro h
      obtain ⟨rfl, rfl⟩ := Prod.mk.inj (List.mem_singleton.mp h)
      exact ⟨referenceType, referenceId, ⟨htype, hid, rfl⟩, rfl, rfl⟩
    · rintro ⟨_, _, ⟨htype', hid', -⟩, rfl, rfl⟩
      obtain rfl := Option.some.inj (htype.symm.trans htype')
      obtain rfl := Option.some.inj (hid.symm.trans hid')
      exact List.mem_singleton.mpr rfl
  case h_2 hnone =>
    refine ⟨fun h => absurd h List.not_mem_nil, ?_⟩
    rintro ⟨referenceType, referenceId, ⟨htype, hid, -⟩, -, -⟩
    exact (hnone _ _ htype hid).elim

/-- No row carries the reference of the transaction. -/
theorem referenceTaken_eq_false {t : XpTransaction} :
    referenceTaken t s = false ↔
      ∀ t' ∈ s.xpTransactions, ∀ referenceType referenceId,
        t.Refers referenceType referenceId t.reason →
          ¬ t'.Refers referenceType referenceId t.reason := by
  unfold referenceTaken
  split
  case h_1 referenceType referenceId htype hid =>
    rw [Option.isSome_eq_false_iff, Option.isNone_iff_eq_none, Store.transactionOf,
      List.find?_eq_none]
    constructor
    · rintro h t' ht' _ _ ⟨htype', hid', -⟩
      obtain rfl := Option.some.inj (htype.symm.trans htype')
      obtain rfl := Option.some.inj (hid.symm.trans hid')
      simpa using h t' ht'
    · intro h t' ht'
      simpa using h t' ht' referenceType referenceId ⟨htype, hid, rfl⟩
  case h_2 hnone =>
    refine ⟨fun _ _ _ _ _ ⟨htype, hid, _⟩ => (hnone _ _ htype hid).elim, fun _ => rfl⟩

/-- The balance of one person is raised. -/
def raised (personId : ℕ) (amount : ℤ) (s : Store) : Store :=
  s.onPersons (·.modify personId (Person.earned amount) (Person.earned_id amount))

/-- A line of the ledger and the balance it belongs to. -/
def awarded (params : GamificationRepository.AwardXpParams) (s : Store) : Store :=
  raised params.personId params.amount
    (s.onXpTransactions (·.create params.transaction params.transaction_id))

/-- A raise keeps people, buildings and achievements. -/
theorem keeps_raised (personId : ℕ) (amount : ℤ) (s : Store) :
    Keeps s (raised personId amount s) where
  person id hid := by
    obtain ⟨p, hp⟩ := Option.isSome_iff_exists.mp hid
    obtain ⟨p', hp', -⟩ := Table.exists_find?_modify (k := personId) (f := Person.earned amount)
      (h := Person.earned_id amount) (π := Person.id) (fun _ => rfl) hp
    exact Option.isSome_iff_exists.mpr ⟨p', hp'⟩
  building := rfl
  definition := rfl
  score _ _ h := h

/-- So does an award. -/
theorem keeps_awarded (params : GamificationRepository.AwardXpParams) (s : Store) :
    Keeps s (awarded params s) := by
  have hledger : Keeps s (s.onXpTransactions
      (·.create params.transaction params.transaction_id)) :=
    ⟨fun _ h => h, rfl, rfl, fun _ _ h => h⟩
  exact hledger.trans (keeps_raised _ _ _)

/-- Balances agree after a raise that the rest of the store explains. -/
theorem balance_raised {personId : ℕ} {amount : ℤ}
    (h : ∀ p ∈ s.persons, p.xpBalance + (if personId = p.id then amount else 0) =
      s.ledgerXp p.id + s.achievementXp p.id) :
    ∀ p ∈ (raised personId amount s).persons, p.xpBalance =
      (raised personId amount s).ledgerXp p.id + (raised personId amount s).achievementXp p.id := by
  intro p hp
  obtain ⟨p₀, hp₀, rfl⟩ := (Table.mem_modify (h := Person.earned_id amount)).mp hp
  have hbalance := h p₀ hp₀
  split
  case isTrue hid =>
    rw [if_pos hid.symm] at hbalance
    exact hbalance
  case isFalse hid =>
    rw [if_neg (Ne.symm hid), add_zero] at hbalance
    exact hbalance

/-- An award whose reference is free keeps the constraints and the balances, and disturbs only that
reference. -/
theorem award_commit (params : GamificationRepository.AwardXpParams)
    (hs : (awardDiscipline xp scores).inv s)
    (hfree : referenceTaken (params.transaction 0) s = false) :
    Commits xp scores (fun l => (l, .exclusive) ∈ referenceKeys (params.transaction 0)) s
      (awarded params s) := by
  have hfree' := referenceTaken_eq_false.mp hfree
  have hmem : ∀ t ∈ (awarded params s).xpTransactions,
      t ∈ s.xpTransactions ∨ t = params.transaction s.xpTransactions.next :=
    fun t ht => (Table.mem_create (h := params.transaction_id)).mp ht
  -- the new row is the only one with its reference
  have hnew : ∀ t ∈ s.xpTransactions, ∀ referenceType referenceId reason,
      t.Refers referenceType referenceId reason →
        ¬ (params.transaction s.xpTransactions.next).Refers referenceType referenceId reason := by
    rintro t ht referenceType referenceId reason hold ⟨htype, hid, rfl⟩
    exact hfree' t ht referenceType referenceId ⟨htype, hid, rfl⟩ hold
  refine ⟨⟨{ hs.1 with reference := ?_ }, fun hxp => ⟨(hs.2.1 hxp).bonus, ?_⟩, hs.2.2⟩,
    keeps_awarded params s, ?_⟩
  · intro t ht t' ht' referenceType referenceId reason href href'
    rcases hmem t ht with hold | rfl <;> rcases hmem t' ht' with hold' | rfl
    · exact hs.1.reference t hold t' hold' _ _ _ href href'
    · exact absurd href' (hnew t hold _ _ _ href)
    · exact absurd href (hnew t' hold' _ _ _ href')
    · rfl
  · refine balance_raised fun p hp => ?_
    have hledger : (s.onXpTransactions (·.create params.transaction params.transaction_id)).ledgerXp
        p.id = s.ledgerXp p.id + if params.personId = p.id then params.amount else 0 :=
      Table.sum_create _ params.transaction params.transaction_id _
    have hachievements : (s.onXpTransactions
        (·.create params.transaction params.transaction_id)).achievementXp p.id =
          s.achievementXp p.id := rfl
    have hbalance := (hs.2.1 hxp).balance p hp
    rw [hledger, hachievements, hbalance]
    ring
  · intro l hl
    cases l with
    | referenceKey referenceType referenceId reason =>
      intro t ht href
      refine (hmem t ht).resolve_right ?_
      rintro rfl
      refine hl (mem_referenceKeys.mpr ⟨referenceType, referenceId, ?_, ?_, rfl⟩)
      · exact ⟨href.1, href.2.1, rfl⟩
      · rw [← href.2.2]
        rfl
    | heldKey personId definitionId => exact fun _ h _ => h
    | score buildingId => exact fun _ h _ => h
    | row table id => trivial
    | scoreKey buildingId => trivial

/-! ### A commit that grants or revokes an achievement -/

/-- A raise by nothing is none. -/
theorem raised_zero {personId : ℕ} : raised personId 0 s = s := by
  have hpersons : s.persons.modify personId (Person.earned 0) (Person.earned_id 0) = s.persons :=
    Table.modify_eq_self (h := Person.earned_id 0) fun p _ _ => by rw [Person.earned, add_zero]
  rw [raised, Store.onPersons, hpersons]

/-- The bonus of a grant, when there is one. -/
def rewarded (personId : ℕ) (xpBonus : ℤ) (s : Store) : Store :=
  if xpBonus > 0 then raised personId xpBonus s else s

/-- A bonus that is not negative is a raise, also when it is zero. -/
theorem rewarded_eq {personId : ℕ} {xpBonus : ℤ} (h : 0 ≤ xpBonus) :
    rewarded personId xpBonus s = raised personId xpBonus s := by
  rw [rewarded]
  split
  case isTrue => rfl
  case isFalse hnone =>
    obtain rfl : xpBonus = 0 := by omega
    exact raised_zero.symm

/-- A grant with its bonus. -/
def unlocked (personId : ℕ) (definition : AchievementDefinition) (buildingId : Option ℕ)
    (s : Store) : Store :=
  rewarded personId definition.xpBonus
    (s.onPersonAchievements
      (·.create (granted personId definition.id buildingId)
        (granted_id personId definition.id buildingId)))

/-- A grant keeps people, buildings and definitions. -/
theorem keeps_unlocked (personId : ℕ) (definition : AchievementDefinition) (buildingId : Option ℕ)
    (s : Store) : Keeps s (unlocked personId definition buildingId s) := by
  have hgrant : Keeps s (s.onPersonAchievements
      (·.create (granted personId definition.id buildingId)
        (granted_id personId definition.id buildingId))) :=
    ⟨fun _ h => h, rfl, rfl, fun _ _ h => h⟩
  rw [unlocked, rewarded]
  split
  · exact hgrant.trans (keeps_raised _ _ _)
  · exact hgrant

/-- A bonus changes nothing but balances. -/
theorem rewarded_tables (personId : ℕ) (xpBonus : ℤ) (s : Store) :
    (rewarded personId xpBonus s).xpTransactions = s.xpTransactions ∧
      (rewarded personId xpBonus s).personAchievements = s.personAchievements ∧
      (rewarded personId xpBonus s).buildingScores = s.buildingScores ∧
      (rewarded personId xpBonus s).buildingScoreEvents = s.buildingScoreEvents := by
  rw [rewarded]
  split <;> exact ⟨rfl, rfl, rfl, rfl⟩

/-- The bonus of an achievement is that of its definition. -/
theorem bonusOf_definition {definition : AchievementDefinition}
    (h : definition ∈ s.achievementDefinitions) : s.bonusOf definition.id = definition.xpBonus := by
  rw [Store.bonusOf, Table.find?_of_mem h]
  rfl

/-- A grant of what is not held keeps the constraints and the balances, and disturbs only its key.
-/
theorem unlock_commit (personId : ℕ) {definition : AchievementDefinition} (buildingId : Option ℕ)
    (hs : (awardDiscipline xp scores).inv s) (hdefinition : definition ∈ s.achievementDefinitions)
    (hfree : s.heldAchievement personId definition.id = none) :
    Commits xp scores (· = .heldKey personId definition.id) s
      (unlocked personId definition buildingId s) := by
  obtain ⟨hledger, hachievements, hscores, hevents⟩ := rewarded_tables personId
    definition.xpBonus (s.onPersonAchievements
      (·.create (granted personId definition.id buildingId)
        (granted_id personId definition.id buildingId)))
  have hmem : ∀ a ∈ (unlocked personId definition buildingId s).personAchievements,
      a ∈ s.personAchievements ∨
        a = granted personId definition.id buildingId s.personAchievements.next := by
    intro a ha
    rw [unlocked, hachievements] at ha
    exact (Table.mem_create (h := granted_id personId definition.id buildingId)).mp ha
  -- nobody holds what is granted
  have hnew : ∀ a ∈ s.personAchievements, ∀ personId' definitionId,
      a.IsHeld personId' definitionId →
        ¬ (granted personId definition.id buildingId s.personAchievements.next).IsHeld personId'
          definitionId := by
    rintro a ha _ _ hold ⟨rfl, rfl, -⟩
    have hnone := List.find?_eq_none.mp hfree a ha
    exact hnone (decide_eq_true hold)
  refine ⟨⟨⟨?_, ?_, ?_, ?_⟩, fun hxp => ?_, fun hagree r hr => ?_⟩,
    keeps_unlocked personId definition buildingId s, ?_⟩
  · rw [unlocked, hledger]
    exact hs.1.reference
  · intro a ha a' ha' personId' definitionId hheld hheld'
    rcases hmem a ha with hold | rfl <;> rcases hmem a' ha' with hold' | rfl
    · exact hs.1.held a hold a' hold' _ _ hheld hheld'
    · exact absurd hheld' (hnew a hold _ _ hheld)
    · exact absurd hheld (hnew a' hold' _ _ hheld')
    · rfl
  · rw [unlocked, hscores]
    exact hs.1.score
  · rw [unlocked, hscores, hevents]
    exact hs.1.event
  · have hbonus := (hs.2.1 hxp).bonus
    rw [unlocked, rewarded_eq (hbonus definition hdefinition)]
    refine ⟨hbonus, balance_raised fun p hp => ?_⟩
    have hgranted : (s.onPersonAchievements
        (·.create (granted personId definition.id buildingId)
          (granted_id personId definition.id buildingId))).achievementXp p.id =
        s.achievementXp p.id +
          if personId = p.id then s.bonusOf definition.id else 0 :=
      Table.sum_create _ (granted personId definition.id buildingId)
        (granted_id personId definition.id buildingId) _
    have hbalance := (hs.2.1 hxp).balance p hp
    rw [hgranted, bonusOf_definition hdefinition, hbalance, add_assoc]
    rfl
  · rw [unlocked, hscores] at hr
    rw [Store.historicScore, unlocked, hevents]
    exact hs.2.2 hagree r hr
  · intro l hl
    cases l with
    | referenceKey referenceType referenceId reason =>
      intro t ht _
      rw [unlocked, hledger] at ht
      exact ht
    | heldKey personId' definitionId =>
      intro a ha hheld
      refine (hmem a ha).resolve_right ?_
      rintro rfl
      obtain ⟨rfl, rfl, -⟩ := hheld
      exact hl rfl
    | score buildingId' =>
      intro r hr _
      rw [unlocked, hscores] at hr
      exact hr
    | row table id => trivial
    | scoreKey buildingId => trivial

/-- The end of a grant. -/
def revocation (id actorPersonId : ℕ) (now : Time) (s : Store) : Store :=
  s.onPersonAchievements
    (·.modify id (PersonAchievement.revoked actorPersonId now)
      (PersonAchievement.revoked_id actorPersonId now))

/-- A revocation keeps all, and disturbs nobody: it only makes places free. -/
theorem revoke_commit (id actorPersonId : ℕ) (now : Time)
    (hs : (awardDiscipline xp scores).inv s) :
    Commits xp scores disturbed s (revocation id actorPersonId now s) := by
  -- whoever holds an achievement afterwards held it before
  have hmem : ∀ a ∈ (revocation id actorPersonId now s).personAchievements,
      ∀ personId definitionId, a.IsHeld personId definitionId → a ∈ s.personAchievements := by
    intro a ha personId definitionId hheld
    obtain ⟨a₀, ha₀, rfl⟩ :=
      (Table.mem_modify (h := PersonAchievement.revoked_id actorPersonId now)).mp ha
    split at hheld
    case isTrue => exact absurd hheld.2.2 (Option.some_ne_none _)
    case isFalse hid =>
      rw [if_neg hid]
      exact ha₀
  refine ⟨⟨{ hs.1 with held := fun a ha a' ha' p d hheld hheld' => ?_ }, fun hxp =>
    ⟨(hs.2.1 hxp).bonus, fun p hp => ?_⟩, hs.2.2⟩, ⟨fun _ h => h, rfl, rfl, fun _ _ h => h⟩, ?_⟩
  · exact hs.1.held a (hmem a ha p d hheld) a' (hmem a' ha' p d hheld') p d hheld hheld'
  · rw [(hs.2.1 hxp).balance p hp]
    -- a revoked achievement still counts
    have hcounted : (revocation id actorPersonId now s).achievementXp p.id =
        s.achievementXp p.id :=
      Table.sum_modify_eq (h := PersonAchievement.revoked_id actorPersonId now) fun _ => rfl
    rw [hcounted]
    rfl
  · intro l _
    cases l with
    | heldKey personId definitionId => exact fun a ha hheld => hmem a ha _ _ hheld
    | referenceKey referenceType referenceId reason => exact fun _ h _ => h
    | score buildingId => exact fun _ h _ => h
    | row table id => trivial
    | scoreKey buildingId => trivial

/-! ### A commit that changes a score -/

/-- The building has a score. -/
def ensured (buildingId : ℕ) (s : Store) : Store :=
  if (s.scoreOf buildingId).isNone then
    s.onBuildingScores (·.create (firstScore buildingId) (firstScore_id buildingId))
  else s

/-- The score that is found is that of the building. -/
theorem scoreOf_eq_some {buildingId : ℕ} {r : BuildingScore} (h : s.scoreOf buildingId = some r) :
    r ∈ s.buildingScores ∧ r.buildingId = buildingId :=
  ⟨List.mem_of_find?_eq_some h, by simpa using List.find?_some h⟩

/-- No score is found where the building has none. -/
theorem scoreOf_eq_none {buildingId : ℕ} :
    s.scoreOf buildingId = none ↔ ∀ r ∈ s.buildingScores, r.buildingId ≠ buildingId := by
  simp [Store.scoreOf, List.find?_eq_none, Table.mem_rows]

/-- The score that a building has afterwards: its own, or a first one. -/
theorem scoreOf_ensured (buildingId : ℕ) (s : Store) :
    (ensured buildingId s).scoreOf buildingId =
      some ((s.scoreOf buildingId).getD (firstScore buildingId s.buildingScores.next)) := by
  rw [ensured]
  cases hscore : s.scoreOf buildingId with
  | some r => exact hscore
  | none =>
    have hrows := List.find?_eq_none.mp hscore
    change (s.buildingScores.rows ++ [firstScore buildingId s.buildingScores.next]).find? _ = _
    rw [List.find?_append, List.find?_eq_none.mpr hrows]
    simp [firstScore]

/-- Only the scores get a row. -/
theorem ensured_tables (buildingId : ℕ) (s : Store) :
    (ensured buildingId s).xpTransactions = s.xpTransactions ∧
      (ensured buildingId s).buildingScoreEvents = s.buildingScoreEvents ∧
      (ensured buildingId s).persons = s.persons ∧
      (ensured buildingId s).buildings = s.buildings ∧
      (ensured buildingId s).achievementDefinitions = s.achievementDefinitions := by
  rw [ensured]
  split <;> exact ⟨rfl, rfl, rfl, rfl, rfl⟩

/-- The scores afterwards are those before, and a first one where there was none. -/
theorem mem_ensured {buildingId : ℕ} {r : BuildingScore} :
    r ∈ (ensured buildingId s).buildingScores ↔
      r ∈ s.buildingScores ∨
        s.scoreOf buildingId = none ∧ r = firstScore buildingId s.buildingScores.next := by
  rw [ensured]
  cases hscore : s.scoreOf buildingId with
  | some r' => simp
  | none => simp

/-- A score that is not there has no history. -/
theorem historicScore_of_absent (hs : Constraints s) {id : ℕ} (h : s.buildingScores.find? id = none) :
    s.historicScore id = 0 := by
  refine Table.sum_eq_zero fun e he => if_neg ?_
  rintro rfl
  have hscore := hs.event e he
  rw [h] at hscore
  exact Bool.false_ne_true hscore

/-- Two writes of one commit are one. -/
theorem Commits.trans {s'' : Store} (h : Commits xp scores disturbed s s')
    (h' : Commits xp scores disturbed s' s'') : Commits xp scores disturbed s s'' :=
  ⟨h'.1, h.2.1.trans h'.2.1, fun l hl => sameFor_trans (h.2.2 l hl) (h'.2.2 l hl)⟩

/-- The first score of a building agrees with its history, which is empty. -/
theorem ensure_commit (buildingId : ℕ) (hs : (awardDiscipline xp scores).inv s) :
    Commits xp scores (· = .score buildingId) s (ensured buildingId s) := by
  have hmem := @mem_ensured s buildingId
  unfold ensured at *
  split
  -- the building has a score already
  case isFalse => exact ⟨hs, Keeps.refl s, fun l _ => sameFor_refl l s⟩
  case isTrue hnone =>
    rw [if_pos hnone] at hmem
    have hnone := scoreOf_eq_none.mp (Option.isNone_iff_eq_none.mp hnone)
    have hkept : ∀ {id r}, s.buildingScores.find? id = some r → (s.buildingScores.create
        (firstScore buildingId) (firstScore_id buildingId)).find? id = some r :=
      fun h => Table.find?_create_of_find? (h := firstScore_id buildingId) h
    refine ⟨⟨{ hs.1 with score := fun r hr r' hr' hbuilding => ?_, event := fun e he => ?_ },
      fun hxp => ⟨(hs.2.1 hxp).bonus, (hs.2.1 hxp).balance⟩, fun hagree r hr => ?_⟩,
      ⟨fun _ h => h, rfl, rfl, fun id buildingId' hid => ?_⟩, fun l hl => ?_⟩
    · rcases hmem.mp hr with hr | ⟨-, rfl⟩ <;> rcases hmem.mp hr' with hr' | ⟨-, rfl⟩
      · exact hs.1.score r hr r' hr' hbuilding
      · exact absurd hbuilding (hnone r hr)
      · exact absurd hbuilding.symm (hnone r' hr')
      · rfl
    · obtain ⟨r, hr⟩ := Option.isSome_iff_exists.mp (hs.1.event e he)
      exact Option.isSome_iff_exists.mpr ⟨r, hkept hr⟩
    · rcases hmem.mp hr with hr | ⟨-, rfl⟩
      · exact hs.2.2 hagree r hr
      · -- a first score has no history
        refine ⟨(historicScore_of_absent hs.1 ?_).symm, rfl⟩
        exact Table.find?_of_next_le le_rfl
    · obtain ⟨r, hr, rfl⟩ := Option.map_eq_some_iff.mp hid
      exact Option.map_eq_some_iff.mpr ⟨r, hkept hr, rfl⟩
    · cases l with
      | score buildingId' =>
        rintro r hr rfl
        refine (hmem.mp hr).resolve_right ?_
        rintro ⟨-, rfl⟩
        exact hl rfl
      | referenceKey referenceType referenceId reason => exact fun _ h _ => h
      | heldKey personId definitionId => exact fun _ h _ => h
      | row table id => trivial
      | scoreKey buildingId => trivial

/-- A score is rewritten, and a line of the history says by how much. -/
def changed (r : BuildingScore) (newScore : ℤ) (newTier : LeagueTier) (c : ScoreChange)
    (s : Store) : Store :=
  (s.onBuildingScores (·.modify r.id (BuildingScore.scored newScore newTier)
    (BuildingScore.scored_id newScore newTier))).onBuildingScoreEvents
      (·.create (c.event r.id) (c.event_id r.id))

/-- A change adds its line to the history of its score, and to no other one. -/
theorem historicScore_changed {r : BuildingScore} {newScore : ℤ} {newTier : LeagueTier}
    {c : ScoreChange} (id : ℕ) :
    (changed r newScore newTier c s).historicScore id =
      s.historicScore id + if r.id = id then c.delta else 0 :=
  Table.sum_create _ (c.event r.id) (c.event_id r.id) _

/-- A change that starts from the stored score keeps the agreement of the scores. -/
theorem change_commit {r : BuildingScore} {newScore : ℤ} {c : ScoreChange}
    (hs : (awardDiscipline xp scores).inv s) (hr : r ∈ s.buildingScores)
    (hscore : scores = true → newScore = r.score + c.delta) :
    Commits xp scores (· = .score r.buildingId) s
      (changed r newScore (computeLeagueTier newScore) c s) := by
  -- the changed score is the only new row of the table
  have hmem : ∀ r' ∈ (changed r newScore (computeLeagueTier newScore) c s).buildingScores,
      r' = r.scored newScore (computeLeagueTier newScore) ∨
        r' ∈ s.buildingScores ∧ r'.id ≠ r.id := by
    intro r' hr'
    obtain ⟨r₀, hr₀, rfl⟩ := (Table.mem_modify
      (h := BuildingScore.scored_id newScore (computeLeagueTier newScore))).mp hr'
    split
    case isTrue hid =>
      rw [Table.eq_of_key_eq hr₀ hr hid]
      exact Or.inl rfl
    case isFalse hid => exact Or.inr ⟨hr₀, hid⟩
  have hkept : ∀ {id r'}, s.buildingScores.find? id = some r' → ∃ r'',
      (changed r newScore (computeLeagueTier newScore) c s).buildingScores.find? id = some r'' ∧
        r''.buildingId = r'.buildingId :=
    fun h => Table.exists_find?_modify (f := BuildingScore.scored newScore _)
      (h := BuildingScore.scored_id newScore _) (π := BuildingScore.buildingId) (fun _ => rfl) h
  refine ⟨⟨{ hs.1 with score := fun r₁ hr₁ r₂ hr₂ hbuilding => ?_, event := fun e he => ?_ },
    fun hxp => ⟨(hs.2.1 hxp).bonus, (hs.2.1 hxp).balance⟩, fun hagree r' hr' => ?_⟩,
    ⟨fun _ h => h, rfl, rfl, fun id buildingId' hid => ?_⟩, fun l hl => ?_⟩
  · rcases hmem r₁ hr₁ with rfl | ⟨hr₁, hne₁⟩ <;> rcases hmem r₂ hr₂ with rfl | ⟨hr₂, hne₂⟩
    · rfl
    · exact absurd (congrArg BuildingScore.id (hs.1.score r hr r₂ hr₂ hbuilding)).symm hne₂
    · exact absurd (congrArg BuildingScore.id (hs.1.score r₁ hr₁ r hr hbuilding)) hne₁
    · exact hs.1.score r₁ hr₁ r₂ hr₂ hbuilding
  · rcases (Table.mem_create (h := c.event_id r.id)).mp he with he | rfl
    · obtain ⟨r', hr'⟩ := Option.isSome_iff_exists.mp (hs.1.event e he)
      obtain ⟨r'', hr'', -⟩ := hkept hr'
      exact Option.isSome_iff_exists.mpr ⟨r'', hr''⟩
    · obtain ⟨r'', hr'', -⟩ := hkept (Table.find?_of_mem hr)
      exact Option.isSome_iff_exists.mpr ⟨r'', hr''⟩
  · rw [historicScore_changed]
    rcases hmem r' hr' with rfl | ⟨hr', hne⟩
    · refine ⟨?_, rfl⟩
      have hsum := (hs.2.2 hagree r hr).1
      change newScore = s.historicScore r.id + if r.id = r.id then c.delta else 0
      rw [if_pos rfl, hscore hagree, hsum]
    · rw [if_neg (Ne.symm hne), add_zero]
      exact hs.2.2 hagree r' hr'
  · obtain ⟨r', hr', rfl⟩ := Option.map_eq_some_iff.mp hid
    obtain ⟨r'', hr'', hbuilding⟩ := hkept hr'
    exact Option.map_eq_some_iff.mpr ⟨r'', hr'', hbuilding⟩
  · cases l with
    | score buildingId' =>
      rintro r' hr' rfl
      rcases hmem r' hr' with rfl | ⟨hr', -⟩
      · exact absurd rfl hl
      · exact hr'
    | referenceKey referenceType referenceId reason => exact fun _ h _ => h
    | heldKey personId definitionId => exact fun _ h _ => h
    | row table id => trivial
    | scoreKey buildingId => trivial

/-- A score is written and explained by a line of the history. -/
def scored (buildingId : ℕ) (newScore : ℤ) (newTier : LeagueTier) (c : ScoreChange) (s : Store) :
    Store :=
  addScoreEvent buildingId c (setScore buildingId newScore newTier (ensured buildingId s))

/-- The row is found where it was, with its new score. -/
theorem scoreOf_modify {buildingId : ℕ} {r : BuildingScore} {newScore : ℤ} {newTier : LeagueTier}
    (h : s.scoreOf buildingId = some r) :
    (s.onBuildingScores (·.modify r.id (BuildingScore.scored newScore newTier)
      (BuildingScore.scored_id newScore newTier))).scoreOf buildingId =
        some (r.scored newScore newTier) := by
  have hsame : ∀ r' : BuildingScore, (if (fun r' => decide (r'.id = r.id)) r' = true then
      r'.scored newScore newTier else r').buildingId = r'.buildingId := by
    intro r'
    split <;> rfl
  refine (List.find?_map ..).trans ?_
  simp only [Function.comp_def, hsame]
  rw [show s.buildingScores.rows.find? (fun r' => decide (r'.buildingId = buildingId)) = some r
    from h]
  simp

/-- What a scored building is left with. -/
theorem scored_eq {buildingId : ℕ} {newScore : ℤ} {newTier : LeagueTier} {c : ScoreChange}
    {r : BuildingScore} (h : (ensured buildingId s).scoreOf buildingId = some r) :
    scored buildingId newScore newTier c s =
      changed r newScore newTier c (ensured buildingId s) := by
  rw [scored, setScore, h]
  dsimp only
  rw [addScoreEvent, scoreOf_modify h]
  rfl

/-- The score that was read is still the one of the building. -/
theorem score_commit {buildingId : ℕ} {newScore : ℤ} {c : ScoreChange}
    (hs : (awardDiscipline xp scores).inv s)
    (hscore : scores = true → newScore =
      ((s.scoreOf buildingId).getD (firstScore buildingId s.buildingScores.next)).score + c.delta) :
    Commits xp scores (· = .score buildingId) s
      (scored buildingId newScore (computeLeagueTier newScore) c s) := by
  have hensured := scoreOf_ensured buildingId s
  obtain ⟨hmem, hbuilding⟩ := scoreOf_eq_some hensured
  have hfirst := ensure_commit buildingId hs
  have hchange := change_commit hfirst.1 hmem hscore
  rw [hbuilding] at hchange
  rw [scored_eq hensured]
  exact hfirst.trans hchange

/-! ### Calls -/

variable {α β : Type} {last : Store} {notes : List (Lock × Mode × Store)} {pending : Store → Store}
  {post : β → Store → List (Lock × Mode × Store) → (Store → Store) → Prop}

/-- A commit that disturbs nothing but locks of the session. -/
theorem Commits.conclude {P : Prop} (h : Commits xp scores disturbed s s')
    (hheld : ∀ l m, Free notes l m → (scores || l.enforced) = true → ¬ disturbed l) (hrest : P) :
    (awardDiscipline xp scores).inv s' ∧ (awardDiscipline xp scores).commits s s' ∧
      (∀ l m, Free notes l m → (awardDiscipline xp scores).same l m s s') ∧ P :=
  ⟨h.1, h.2.1, fun l m hl hkept => h.2.2 l (hheld l m hl hkept), hrest⟩

/-- A lock that the database enforces is kept. -/
theorem kept_of_enforced {l : Lock} (h : l.enforced = true) :
    (awardDiscipline xp scores).kept l = true := by
  change (scores || l.enforced) = true
  rw [h, Bool.or_true]

/-- What a note about a lock still says. -/
theorem sameFor_of_knows {l : Lock} {m : Mode} {s₀ : Store}
    (hknows : (awardDiscipline xp scores).Knows notes s) (hnote : (l, m, s₀) ∈ notes)
    (hkept : (awardDiscipline xp scores).kept l = true) : sameFor l s₀ s :=
  hknows _ hnote hkept

/-- `GamificationRepository.awardXp` keeps the discipline. -/
theorem safe_awardXp (params : GamificationRepository.AwardXpParams) :
    (GamificationRepository.awardXp params).Safe (awardDiscipline xp scores) Prog.Safe.Clean last
      [] id := by
  rw [GamificationRepository.awardXp]
  refine Prog.Safe.tryCatch ?_ fun e last => ?_
  · rw [Prog.transaction]
    simp only [Prog.bind_assoc]
    refine Prog.Safe.query fun _ _ _ _ => ?_
    rw [insertXpTransaction]
    refine Prog.Safe.writeUnless fun s₀ _ _ _ hrefused => ?_
    have hfree₀ : referenceTaken (params.transaction 0) s₀ = false := by
      by_contra htaken
      rw [if_pos (Bool.not_eq_false _ ▸ htaken)] at hrefused
      exact Option.some_ne_none _ hrefused
    rw [incrementXpBalance]
    refine Prog.Safe.writeIf fun s₁ _ _ _ _ => ?_
    rw [Prog.pure_eq, Prog.done_bind]
    refine Prog.Safe.commitAll fun s hs _ hknows => ?_
    have hnote : ∀ {l}, (l, .exclusive) ∈ referenceKeys (params.transaction 0) →
        (l, .exclusive, s₀) ∈ [] ++ (awardDiscipline xp scores).taken
          (referenceKeys (params.transaction 0)) s₀ ++
            (awardDiscipline xp scores).taken [(.row .person params.personId, .exclusive)] s₁ := by
      intro l hl
      obtain ⟨_, _, -, rfl, -⟩ := mem_referenceKeys.mp hl
      exact List.mem_append_left _ (Discipline.mem_taken hl (kept_of_enforced rfl))
    -- the entry of the index that was free is still free
    have hfree : referenceTaken (params.transaction 0) s = false := by
      refine referenceTaken_eq_false.mpr fun t ht referenceType referenceId href href' => ?_
      have hkey : (Lock.referenceKey referenceType referenceId (params.transaction 0).reason,
          Mode.exclusive) ∈ referenceKeys (params.transaction 0) :=
        mem_referenceKeys.mpr ⟨_, _, href, rfl, rfl⟩
      have hold := sameFor_of_knows hknows (hnote hkey) (kept_of_enforced rfl) t ht href'
      exact referenceTaken_eq_false.mp hfree₀ t hold _ _ href href'
    exact (award_commit params hs hfree).conclude
      (fun l m hl _ hkey => not_free_of_exclusive (hnote hkey) hl) ⟨rfl, rfl⟩
  · cases e with
    | uniqueConstraint => exact ⟨rfl, rfl⟩
    | app error => trivial
    | foreignKey => trivial
    | recordNotFound => trivial
    | checkConstraint => trivial
    | invalidArgument => trivial

/-- So does what follows the bonus of a grant. -/
theorem safe_addBonus {personId : ℕ} {xpBonus : ℤ} {f : PUnit → Call β}
    (h : ∀ last' notes', (awardDiscipline xp scores).Later last last' → (∀ n ∈ notes, n ∈ notes') →
      (f ⟨⟩).Safe (awardDiscipline xp scores) post last' notes'
        fun s => rewarded personId xpBonus (pending s)) :
    (GamificationRepository.addBonus personId xpBonus >>= f).Safe (awardDiscipline xp scores) post
      last notes pending := by
  rw [GamificationRepository.addBonus, Prog.ite_bind]
  unfold rewarded at h
  split
  case isTrue hbonus =>
    simp only [if_pos hbonus] at h
    rw [incrementXpBalance]
    exact Prog.Safe.writeIf fun s _ hlater _ _ => h s _ hlater fun _ hn => List.mem_append_left _ hn
  case isFalse hbonus =>
    simp only [if_neg hbonus] at h
    exact h last notes (Discipline.Later.refl last) fun _ hn => hn

/-- `GamificationRepository.unlockAchievement` keeps the discipline. -/
theorem safe_unlockAchievement (personId : ℕ) (code : AchievementCode) (buildingId : Option ℕ) :
    (GamificationRepository.unlockAchievement personId code buildingId).Safe
      (awardDiscipline xp scores) Prog.Safe.Clean last [] id := by
  rw [GamificationRepository.unlockAchievement]
  refine Prog.Safe.query fun s₀ _ _ _ => ?_
  rw [id_eq]
  cases hfound : s₀.definitionOf code with
  | none => exact ⟨rfl, rfl⟩
  | some definition =>
    have hmem₀ : definition ∈ s₀.achievementDefinitions := List.mem_of_find?_eq_some hfound
    refine Prog.Safe.query fun s₁ _ hlater₁ _ => ?_
    split
    · exact ⟨rfl, rfl⟩
    rw [Prog.transaction]
    simp only [Prog.bind_assoc]
    rw [insertPersonAchievement]
    refine Prog.Safe.writeUnless fun s₂ _ hlater₂ _ hrefused => ?_
    have hfree₂ : s₂.heldAchievement personId definition.id = none := by
      by_contra hheld
      rw [id_eq, if_pos (Option.isSome_iff_ne_none.mpr hheld)] at hrefused
      exact Option.some_ne_none _ hrefused
    have hnote : (Lock.heldKey personId definition.id, Mode.exclusive, s₂) ∈
        [] ++ (awardDiscipline xp scores).taken [(.heldKey personId definition.id, .exclusive)] s₂ :=
      List.mem_append_right _
        (Discipline.mem_taken (List.mem_singleton.mpr rfl) (kept_of_enforced rfl))
    refine safe_addBonus fun last₃ notes hlater₃ hnotes => ?_
    rw [Prog.pure_eq, Prog.done_bind]
    refine Prog.Safe.commitAll fun s hs hlater hknows => ?_
    have hmem : definition ∈ s.achievementDefinitions := by
      have hkeeps := keeps_of_later (((hlater₁.trans hlater₂).trans hlater₃).trans hlater)
      rw [hkeeps.definition]
      exact hmem₀
    have hfree : s.heldAchievement personId definition.id = none := by
      refine List.find?_eq_none.mpr fun a ha hheld => ?_
      have hold := sameFor_of_knows hknows (hnotes _ hnote) (kept_of_enforced rfl) a ha
        (of_decide_eq_true hheld)
      exact List.find?_eq_none.mp hfree₂ a hold hheld
    refine (unlock_commit personId buildingId hs hmem hfree).conclude (fun l m hl _ => ?_) ⟨rfl, rfl⟩
    rintro rfl
    exact not_free_of_exclusive (hnotes _ hnote) hl

/-- `GamificationRepository.revokeAchievement` keeps the discipline. -/
theorem safe_revokeAchievement (personId : ℕ) (code : AchievementCode) (actorPersonId : ℕ)
    (now : Time) :
    (GamificationRepository.revokeAchievement personId code actorPersonId now).Safe
      (awardDiscipline xp scores) Prog.Safe.Clean last [] id := by
  rw [GamificationRepository.revokeAchievement]
  refine Prog.Safe.query fun s₀ _ _ _ => ?_
  cases (id s₀).definitionOf code with
  | none => exact ⟨rfl, rfl⟩
  | some definition =>
    refine Prog.Safe.query fun s₁ _ _ _ => ?_
    cases (id s₁).heldAchievement personId definition.id with
    | none => exact ⟨rfl, rfl⟩
    | some active =>
      dsimp only
      rw [Prog.transaction]
      simp only [Prog.bind_assoc]
      rw [revokePersonAchievement]
      refine Prog.Safe.writeIf fun s₂ _ _ _ _ => ?_
      rw [Prog.pure_eq, Prog.done_bind]
      refine Prog.Safe.commitAll fun s hs _ _ => ?_
      exact Commits.conclude (revoke_commit active.id actorPersonId now hs)
        (fun _ _ _ _ => not_false) ⟨rfl, rfl⟩

/-- The score that a session reads is the one it finds when it commits. -/
theorem score_of_knows {buildingId : ℕ} {s₀ : Store} {m : Mode} (hs₀ : Constraints s₀)
    (hkeeps : Keeps s₀ s) (hknows : (awardDiscipline xp scores).Knows notes s)
    (hnote : (.score buildingId, m, s₀) ∈ notes) (hscores : scores = true) :
    ((s.scoreOf buildingId).getD (firstScore buildingId s.buildingScores.next)).score =
      ((s₀.scoreOf buildingId).getD (firstScore buildingId s₀.buildingScores.next)).score := by
  have hsame : sameFor (.score buildingId) s₀ s :=
    sameFor_of_knows hknows hnote (by rw [hscores]; rfl)
  cases hfound : s.scoreOf buildingId with
  | some r =>
    obtain ⟨hmem, hbuilding⟩ := scoreOf_eq_some hfound
    have hmem₀ := hsame r hmem hbuilding
    cases hfound₀ : s₀.scoreOf buildingId with
    | some r₀ =>
      obtain ⟨hmem₀', hbuilding₀⟩ := scoreOf_eq_some hfound₀
      rw [hs₀.score r hmem₀ r₀ hmem₀' (hbuilding.trans hbuilding₀.symm)]
      rfl
    | none => exact absurd hbuilding (scoreOf_eq_none.mp hfound₀ r hmem₀)
  | none =>
    cases hfound₀ : s₀.scoreOf buildingId with
    | some r₀ =>
      -- a score does not disappear
      obtain ⟨hmem₀, hbuilding₀⟩ := scoreOf_eq_some hfound₀
      have hstays := hkeeps.score r₀.id buildingId
        (by rw [Table.find?_of_mem hmem₀, Option.map_some, hbuilding₀])
      obtain ⟨r, hr, hbuilding⟩ := Option.map_eq_some_iff.mp hstays
      exact absurd hbuilding (scoreOf_eq_none.mp hfound r (Table.mem_of_find? hr))
    | none => rfl

/-- `GamificationRepository.applyBuildingScoreDelta` keeps the discipline. -/
theorem safe_applyBuildingScoreDelta (buildingId : ℕ) (delta : ℤ) (reason : XpReason)
    (sourceEvent : Option String) :
    (GamificationRepository.applyBuildingScoreDelta buildingId delta reason sourceEvent).Safe
      (awardDiscipline xp scores) Prog.Safe.Clean last [] id := by
  rw [GamificationRepository.applyBuildingScoreDelta]
  refine Prog.Safe.tryCatch ?_ fun e last => ?_
  · rw [Prog.transaction]
    simp only [Prog.bind_assoc]
    rw [ensureBuildingScore]
    refine Prog.Safe.insertIfAbsent fun s₀ _ _ _ taken => ?_
    refine Prog.Safe.queryUnder fun s₁ hs₁ _ _ => Prog.Safe.expect fun before hbefore => ?_
    have hensured := scoreOf_ensured buildingId s₁
    obtain rfl := Option.some.inj (hensured.symm.trans hbefore)
    obtain ⟨-, hbuilding⟩ := scoreOf_eq_some hensured
    -- where the lock is enforced, the score is locked from its read to the commit
    have hnote : scores = true → (Lock.score buildingId, Mode.exclusive, s₁) ∈ [] ++ taken ++
        (awardDiscipline xp scores).taken [(.score buildingId, .exclusive)] s₁ := fun hscores =>
      List.mem_append_right _
        (Discipline.mem_taken (List.mem_singleton.mpr rfl) (by rw [hscores]; rfl))
    rw [updateBuildingScore, insertBuildingScoreEvent, hbuilding]
    refine Prog.Safe.writeIf fun s₂ _ hlater₂ _ _ => Prog.Safe.write fun s₃ _ hlater₃ _ => ?_
    rw [Prog.pure_eq, Prog.done_bind]
    refine Prog.Safe.commitAll fun s hs hlater hknows => ?_
    have hkeeps := keeps_of_later ((hlater₂.trans hlater₃).trans hlater)
    have hstays : ∀ {n} {taken₂ taken₃ : List (Lock × Mode × Store)},
        n ∈ [] ++ taken ++ (awardDiscipline xp scores).taken [(.score buildingId, .exclusive)] s₁ →
          n ∈ [] ++ taken ++
            (awardDiscipline xp scores).taken [(.score buildingId, .exclusive)] s₁ ++ taken₂ ++
              taken₃ :=
      fun hn => List.mem_append_left _ (List.mem_append_left _ hn)
    refine (score_commit hs fun hscores => ?_).conclude (fun l m hl hkept => ?_) ⟨rfl, rfl⟩
    · rw [score_of_knows hs₁.1 hkeeps hknows (hstays (hnote hscores)) hscores]
    · rintro rfl
      have hscores : scores = true := by
        rw [Lock.enforced, Bool.or_false] at hkept
        exact hkept
      exact not_free_of_exclusive (hstays (hnote hscores)) hl
  · cases e with
    | recordNotFound => exact ⟨rfl, rfl⟩
    | app error => trivial
    | foreignKey => trivial
    | uniqueConstraint => trivial
    | checkConstraint => trivial
    | invalidArgument => trivial

/-! ### Calls of the service -/

/-- The achievement of an award keeps the discipline. -/
theorem safe_unlockOnFirstOccurrence (input : GamificationService.AwardXpInput)
    (isFirstOccurrence : Bool) :
    (GamificationService.unlockOnFirstOccurrence input isFirstOccurrence).Safe
      (awardDiscipline xp scores) Prog.Safe.Clean last [] id := by
  unfold GamificationService.unlockOnFirstOccurrence
  split
  · exact (safe_unlockAchievement _ _ _).bind_clean fun _ _ => ⟨rfl, rfl⟩
  · exact ⟨rfl, rfl⟩

/-- So does a change of a score. -/
theorem safe_scoreDelta (buildingId : ℕ) (delta : ℤ) (reason : XpReason)
    (sourceEvent : Option String) :
    (GamificationService.applyBuildingScoreDelta buildingId delta reason sourceEvent).Safe
      (awardDiscipline xp scores) Prog.Safe.Clean last [] id :=
  (safe_applyBuildingScoreDelta _ _ _ _).bind_clean fun _ _ => ⟨rfl, rfl⟩

/-- So does the share of the building. -/
theorem safe_scoreBuilding (input : GamificationService.AwardXpInput) :
    (GamificationService.scoreBuilding input).Safe (awardDiscipline xp scores) Prog.Safe.Clean last
      [] id := by
  unfold GamificationService.scoreBuilding
  split
  · split
    · exact safe_scoreDelta _ _ _ _
    · exact ⟨rfl, rfl⟩
  · exact ⟨rfl, rfl⟩

/-- `awardXp`: three transactions in a row. -/
theorem safe_award (input : GamificationService.AwardXpInput) :
    (GamificationService.awardXp input).Safe (awardDiscipline xp scores) Prog.Safe.Clean last
      [] id := by
  refine (safe_awardXp input.params).bind_clean fun result last => ?_
  cases result with
  | duplicate => exact ⟨rfl, rfl⟩
  | awarded isFirstOccurrence =>
    exact (safe_unlockOnFirstOccurrence input isFirstOccurrence).bind_clean fun _ _ =>
      safe_scoreBuilding input

/-- What takes an award back is an award, or nothing. -/
theorem safe_clawbackChargePaidXp (paymentId : ℕ) (sourceEvent : Option String) :
    (GamificationService.clawbackChargePaidXp paymentId sourceEvent).Safe
      (awardDiscipline xp scores) Prog.Safe.Clean last [] id := by
  rw [GamificationService.clawbackChargePaidXp]
  refine Prog.Safe.query fun s₀ _ _ _ => ?_
  cases (id s₀).transactionOf "PAYMENT" paymentId .chargePaid with
  | none => exact ⟨rfl, rfl⟩
  | some original =>
    refine Prog.Safe.query fun s₁ _ _ _ => ?_
    split
    · exact ⟨rfl, rfl⟩
    · exact safe_award _

/-- A call that first looks for the person. -/
theorem safe_assertPersonExists {personId : ℕ} {f : PUnit → Call β}
    (h : ∀ last, (f ⟨⟩).Safe (awardDiscipline xp scores) post last [] id) :
    (GamificationAdministrationService.assertPersonExists personId >>= f).Safe
      (awardDiscipline xp scores) post last [] id := by
  rw [GamificationAdministrationService.assertPersonExists, Prog.bind_assoc]
  exact Prog.Safe.query fun s _ _ _ => Prog.Safe.require fun _ => h s

/-- A call that first looks for the building. -/
theorem safe_assertBuildingExists {buildingId : ℕ} {f : PUnit → Call β}
    (h : ∀ last, (f ⟨⟩).Safe (awardDiscipline xp scores) post last [] id) :
    (GamificationAdministrationService.assertBuildingExists buildingId >>= f).Safe
      (awardDiscipline xp scores) post last [] id := by
  rw [GamificationAdministrationService.assertBuildingExists, Prog.bind_assoc]
  exact Prog.Safe.query fun s _ _ _ => Prog.Safe.require fun _ => h s

/-- A call that first looks for a building, when one is named. -/
theorem safe_assertNamedBuildingExists {buildingId : Option ℕ} {f : PUnit → Call β}
    (h : ∀ last, (f ⟨⟩).Safe (awardDiscipline xp scores) post last [] id) :
    (GamificationAdministrationService.assertNamedBuildingExists buildingId >>= f).Safe
      (awardDiscipline xp scores) post last [] id := by
  cases buildingId with
  | none => exact h last
  | some buildingId => exact safe_assertBuildingExists h

/-- Every handler of the listener awards, takes an award back, or does nothing. -/
theorem safe_on (event : GamificationEventListener.Event) :
    (GamificationEventListener.on event).Safe (awardDiscipline xp scores) Prog.Safe.Clean last
      [] id := by
  cases event with
  | buildingCreated event => exact safe_award _
  | personAuthenticated event =>
    rw [GamificationEventListener.on, GamificationEventListener.onPersonAuthenticated]
    split
    · exact safe_award _
    · exact ⟨rfl, rfl⟩
  | paymentApproved event => exact safe_award _
  | paymentReversed event => exact safe_clawbackChargePaidXp _ _
  | paymentRefunded event =>
    rw [GamificationEventListener.on, GamificationEventListener.onPaymentRefunded]
    split
    · exact safe_clawbackChargePaidXp _ _
    · exact ⟨rfl, rfl⟩
  | ballotCast event => exact safe_award _
  | caseStatusChanged event =>
    rw [GamificationEventListener.on, GamificationEventListener.onCaseStatusChanged]
    split
    · exact safe_award _
    · exact ⟨rfl, rfl⟩

/-- A call that writes to the tables of the module: a delivered event, a request of the staff, or
one of the parts that these consist of. -/
inductive GamificationCall
  | handle (event : GamificationEventListener.Event)
  | awardXp (input : GamificationService.AwardXpInput)
  | clawbackChargePaidXp (paymentId : ℕ) (sourceEvent : Option String)
  | adjustXp (personId : ℕ) (buildingId : Option ℕ) (amount : ℤ)
  | adjustBuildingScore (buildingId : ℕ) (delta : ℤ)
  | grantAchievement (personId : ℕ) (code : AchievementCode) (buildingId : Option ℕ)
  | revokeAchievement (personId : ℕ) (code : AchievementCode) (actorPersonId : ℕ) (now : Time)
  | unlockAchievement (personId : ℕ) (code : AchievementCode) (buildingId : Option ℕ)
  | applyBuildingScoreDelta (buildingId : ℕ) (delta : ℤ) (reason : XpReason)
      (sourceEvent : Option String)

/-- The result of the call is dropped. -/
def ignore {α : Type} (p : Call α) : Call PUnit := do
  let _ ← p
  pure ⟨⟩

/-- What the call runs. -/
def GamificationCall.call : GamificationCall → Call PUnit
  | handle event => GamificationEventListener.on event
  | awardXp input => GamificationService.awardXp input
  | clawbackChargePaidXp paymentId sourceEvent =>
    GamificationService.clawbackChargePaidXp paymentId sourceEvent
  | adjustXp personId buildingId amount =>
    GamificationAdministrationService.adjustXp personId buildingId amount
  | adjustBuildingScore buildingId delta =>
    GamificationAdministrationService.adjustBuildingScore buildingId delta
  | grantAchievement personId code buildingId =>
    ignore (GamificationAdministrationService.grantAchievement personId code buildingId)
  | revokeAchievement personId code actorPersonId now =>
    ignore (GamificationAdministrationService.revokeAchievement personId code actorPersonId now)
  | unlockAchievement personId code buildingId =>
    ignore (GamificationRepository.unlockAchievement personId code buildingId)
  | applyBuildingScoreDelta buildingId delta reason sourceEvent =>
    ignore (GamificationRepository.applyBuildingScoreDelta buildingId delta reason sourceEvent)

/-- A call whose result is dropped. -/
theorem safe_ignore {p : Call α}
    (h : p.Safe (awardDiscipline xp scores) Prog.Safe.Clean last [] id) :
    (ignore p).Safe (awardDiscipline xp scores) Prog.Safe.Clean last [] id :=
  h.bind_clean fun _ _ => ⟨rfl, rfl⟩

/-- An outcome that has to be there. -/
theorem safe_expect {o : Option α} {e : Failure} :
    (Prog.expect o e : Call α).Safe (awardDiscipline xp scores) Prog.Safe.Clean last [] id := by
  cases o with
  | none => trivial
  | some a => exact ⟨rfl, rfl⟩

/-- Every call keeps the discipline, whatever is claimed of balances and scores. -/
theorem GamificationCall.safe (c : GamificationCall) :
    c.call.Safe (awardDiscipline xp scores) Prog.Safe.Clean s [] id := by
  cases c with
  | handle event => exact safe_on event
  | awardXp input => exact safe_award input
  | clawbackChargePaidXp paymentId sourceEvent =>
    exact safe_clawbackChargePaidXp paymentId sourceEvent
  | adjustXp personId buildingId amount =>
    refine safe_assertPersonExists fun _ => safe_assertNamedBuildingExists fun last => ?_
    refine (safe_awardXp _).bind_clean fun result _ => ?_
    cases result with
    | awarded isFirstOccurrence => exact ⟨rfl, rfl⟩
    | duplicate => trivial
  | adjustBuildingScore buildingId delta =>
    exact safe_assertBuildingExists fun last => safe_scoreDelta _ _ _ _
  | grantAchievement personId code buildingId =>
    refine safe_ignore (safe_assertPersonExists fun _ => safe_assertNamedBuildingExists fun _ => ?_)
    exact (safe_unlockAchievement _ _ _).bind_clean fun _ _ => safe_expect
  | revokeAchievement personId code actorPersonId now =>
    refine safe_ignore (safe_assertPersonExists fun _ => ?_)
    exact (safe_revokeAchievement _ _ _ _).bind_clean fun _ _ => safe_expect
  | unlockAchievement personId code buildingId => exact safe_ignore (safe_unlockAchievement _ _ _)
  | applyBuildingScoreDelta buildingId delta reason sourceEvent =>
    exact safe_ignore (safe_applyBuildingScoreDelta _ _ _ _)

/-- The same, with nothing said about how the call ends. -/
theorem GamificationCall.sound (c : GamificationCall) :
    c.call.Safe (awardDiscipline xp scores) (fun _ _ _ _ => True) s [] id :=
  c.safe.mono fun _ _ _ _ _ => trivial

/-! ### Runs -/

/-- The balances agree with the ledger after any run: whatever the order of the statements of
any number of calls, which calls are repeated and where a call is cut off. -/
theorem balances_agree {ι : Type} [DecidableEq ι] (hs : Constraints s) (hxp : XpAgrees s)
    (calls : ι → GamificationCall) (es : List (Event ι Failure)) :
    let s' := (runCalls s (fun i => (calls i).call) es).store
    (∀ p ∈ s'.persons, p.xpBalance = s'.ledgerXp p.id + s'.achievementXp p.id) ∧
      (∀ t ∈ s'.xpTransactions, ∀ t' ∈ s'.xpTransactions, ∀ referenceType referenceId reason,
        t.Refers referenceType referenceId reason → t'.Refers referenceType referenceId reason →
          t = t') ∧
      ∀ a ∈ s'.personAchievements, ∀ a' ∈ s'.personAchievements, ∀ personId definitionId,
        a.IsHeld personId definitionId → a'.IsHeld personId definitionId → a = a' := by
  have hsafe := (Database.safe_run (D := awardDiscipline true false)
    ⟨hs, fun _ => hxp, fun h => absurd h Bool.false_ne_true⟩
    (fun i => (calls i).sound)
    (Database.eachStep_orderly_of_enforced (fun l hl => hl) _ es)).1
  exact ⟨(hsafe.2.1 rfl).balance, hsafe.1.reference, hsafe.1.held⟩

/-- A building with a score and two people. -/
def seededHome : Store :=
  { Store.empty with
    persons := (Table.empty.create fun id => { id }).create fun id => { id }
    buildings := Table.empty.create fun id => { id }
    achievementDefinitions := seededDefinitions
    buildingScores := Table.empty.create fun id => { id, buildingId := 0 } }

/-- The store that the runs start from keeps the constraints. -/
theorem constraints_seededHome : Constraints seededHome where
  reference _ ht := absurd ht Table.not_mem_empty
  held _ ha := absurd ha Table.not_mem_empty
  score := by decide
  event _ he := absurd he Table.not_mem_empty

/-- Its balances agree with its ledger, which is empty. -/
theorem xpAgrees_seededHome : XpAgrees seededHome where
  bonus d hd := (xpBonus_seededDefinitions d hd).ge
  balance := by decide

/-- Both people vote, and the first of them pays. -/
def threeAwards (i : Fin 3) : GamificationCall :=
  .awardXp
    (if i = 2 then
      { personId := 0, buildingId := some 0, reason := .chargePaid, referenceType := some "PAYMENT",
        referenceId := some 7 }
    else { personId := i, buildingId := some 0, reason := .voteParticipated })

/-- The statements of the three awards take turns. -/
theorem balances_agree_threeAwards :
    let s' := (runCalls seededHome (fun i => (threeAwards i).call)
      (List.replicate 20 [Event.step 0, Event.step 1, Event.step 2]).flatten).store
    (∀ p ∈ s'.persons, p.xpBalance = s'.ledgerXp p.id + s'.achievementXp p.id) ∧
      (∀ t ∈ s'.xpTransactions, ∀ t' ∈ s'.xpTransactions, ∀ referenceType referenceId reason,
        t.Refers referenceType referenceId reason → t'.Refers referenceType referenceId reason →
          t = t') ∧
      ∀ a ∈ s'.personAchievements, ∀ a' ∈ s'.personAchievements, ∀ personId definitionId,
        a.IsHeld personId definitionId → a'.IsHeld personId definitionId → a = a' :=
  balances_agree constraints_seededHome xpAgrees_seededHome threeAwards _

/-- The event is no read of a score while somebody else who has read it has still to commit. -/
abbrev Unhurried {ι α : Type} [DecidableEq ι] (d : Sessions ι α) (e : Event ι Failure) : Prop :=
  d.Orderly Lock.enforced (fun _ => true) e

/-- The scores agree with their history as long as no session reads the score of a building
between the read and the commit of another one. -/
theorem scoresAgree_of_unhurried {ι : Type} [DecidableEq ι] (hs : Constraints s)
    (hscores : ScoresAgree s) (calls : ι → GamificationCall) {es : List (Event ι Failure)}
    (hes : EachStep (Database.next Lock.enforced) Unhurried
      (Database.start s fun i => (calls i).call) es) :
    ScoresAgree (runCalls s (fun i => (calls i).call) es).store := by
  have hsafe := (Database.safe_run (D := awardDiscipline false true)
    ⟨hs, fun h => absurd h Bool.false_ne_true, fun _ => hscores⟩
    (fun i => (calls i).sound) hes).1
  exact hsafe.2.2 rfl

/-- Its score agrees with its history, which is empty. -/
theorem scoresAgree_seededHome : ScoresAgree seededHome := by
  intro r hr
  rcases Table.mem_create.mp hr with hr | rfl
  · exact absurd hr Table.not_mem_empty
  · exact ⟨rfl, rfl⟩

/-- A vote and a payment in the building. -/
def twoDeltas (i : Fin 2) : GamificationCall :=
  .applyBuildingScoreDelta 0 (if i = 0 then 2 else 3)
    (if i = 0 then .voteParticipated else .chargePaid) none

/-- The second change starts when the first one is through. -/
theorem scoresAgree_of_unhurried_twoDeltas :
    ScoresAgree (runCalls seededHome (fun i => (twoDeltas i).call)
      (List.replicate 6 (Event.step 0) ++ List.replicate 6 (Event.step 1))).store :=
  scoresAgree_of_unhurried constraints_seededHome scoresAgree_seededHome twoDeltas
    (by decide +kernel)

/-- Both read the score before either has written it: the vote is lost. -/
theorem vote_lost :
    ¬ ScoresAgree (runCalls seededHome (fun i => (twoDeltas i).call)
      (List.replicate 2 (Event.step 0) ++ List.replicate 2 (Event.step 1) ++ List.replicate 4 (Event.step 0) ++
        List.replicate 4 (Event.step 1))).store :=
  fun h => absurd (h ⟨0, 0, 3, .bronze⟩ (Table.mem_of_find? (k := 0) (by decide +kernel))).1
    (by decide +kernel)

end VielHome.Gamification
