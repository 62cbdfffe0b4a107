import VielHome.Gamification.Agreement

/-!
# What a reversed payment leaves behind

The listener hears of the approval and of the reversal of a payment, in any order and any
number of times. An approval is awarded once, a clawback is made once, but a clawback looks
for the award it takes back and does nothing when there is none yet. So the payment earns
nothing exactly when some reversal comes after the first approval.
-/

namespace VielHome.Gamification

open Relational
open Relational.ReadCommitted (Prog)
open GamificationEventListener (PaymentApprovedEvent onPaymentApproved onPaymentReversed)
open GamificationPolicy (computeLeagueTier)

variable {s t : Store}

/-! ### Calls that run alone -/

/-- An increment alone: the person has to be there. -/
theorem solo_incrementXpBalance_bind {β : Type} {personId : ℕ} {amount : ℤ} {f : PUnit → Call β}
    {c w : Store} :
    (incrementXpBalance personId amount >>= f).solo c w =
      if (w.persons.find? personId).isSome = true then (f ⟨⟩).solo c (raised personId amount w)
      else (.error .recordNotFound, c, c) :=
  Prog.solo_writeIf_bind

/-- An award alone: a duplicate changes nothing, anything else is a line of the ledger. -/
theorem solo_awardXp (params : GamificationRepository.AwardXpParams)
    (hperson : (s.persons.find? params.personId).isSome = true)
    (hbuilding : refersToBuilding params.buildingId s = true) :
    (GamificationRepository.awardXp params).solo s s =
      if referenceTaken (params.transaction 0) s then (.ok .duplicate, s, s)
      else (.ok (.awarded (s.countTransactions params.personId params.reason == 0)),
        awarded params s, awarded params s) := by
  have hpresent : ((s.persons.find? (params.transaction 0).personId).isSome &&
      refersToBuilding (params.transaction 0).buildingId s) = true := by
    rw [Bool.and_eq_true]
    exact ⟨hperson, hbuilding⟩
  rw [GamificationRepository.awardXp, Prog.solo_tryCatch, Prog.solo_transaction, Prog.query_bind,
    Prog.solo_stmt, insertXpTransaction, Prog.solo_writeUnless_bind, id]
  by_cases htaken : referenceTaken (params.transaction 0) s = true
  · rw [if_pos htaken, if_pos htaken]
    rfl
  · rw [if_neg htaken, if_neg htaken, if_pos hpresent]
    dsimp only
    rw [solo_incrementXpBalance_bind, if_pos]
    · rfl
    · exact hperson

/-- What an award leaves alone when it gives no bonus. -/
structure Unrewarded (s t : Store) : Prop where
  persons : t.persons = s.persons
  buildings : t.buildings = s.buildings
  xpTransactions : t.xpTransactions = s.xpTransactions
  definitions : t.achievementDefinitions = s.achievementDefinitions
  scores : t.buildingScores = s.buildingScores

/-- What changes nothing rewards nobody. -/
theorem Unrewarded.refl (s : Store) : Unrewarded s s := ⟨rfl, rfl, rfl, rfl, rfl⟩

/-- An achievement without bonus, granted alone. -/
theorem solo_unlockAchievement (personId : ℕ) (code : AchievementCode) (buildingId : Option ℕ)
    (hperson : (s.persons.find? personId).isSome = true)
    (hbuilding : refersToBuilding buildingId s = true)
    (hbonus : ∀ d ∈ s.achievementDefinitions, d.code = code → d.xpBonus ≤ 0) :
    ∃ o t, (GamificationRepository.unlockAchievement personId code buildingId).solo s s =
      (.ok o, t, t) ∧ Unrewarded s t := by
  rw [GamificationRepository.unlockAchievement, Prog.query_bind, Prog.solo_stmt, id]
  cases hfound : s.definitionOf code with
  | none => exact ⟨none, s, rfl, Unrewarded.refl s⟩
  | some definition =>
    have hmem : definition ∈ s.achievementDefinitions := List.mem_of_find?_eq_some hfound
    have hcode : definition.code = code := by simpa using List.find?_some hfound
    dsimp only
    rw [Prog.query_bind, Prog.solo_stmt, id, Prog.solo_ite]
    by_cases hheld : (s.heldAchievement personId definition.id).isSome = true
    · rw [if_pos hheld]
      exact ⟨none, s, rfl, Unrewarded.refl s⟩
    · have hpresent : ((s.persons.find? personId).isSome &&
          (s.achievementDefinitions.find? definition.id).isSome && refersToBuilding buildingId s) =
            true := by
        rw [Table.find?_of_mem hmem, hperson, hbuilding]
        rfl
      have hnone : ¬ definition.xpBonus > 0 := not_lt.mpr (hbonus definition hmem hcode)
      rw [if_neg hheld, Prog.solo_transaction, insertPersonAchievement, Prog.solo_writeUnless_bind,
        if_neg hheld, if_pos hpresent]
      dsimp only
      rw [GamificationRepository.addBonus, if_neg hnone]
      exact ⟨_, _, rfl, ⟨rfl, rfl, rfl, rfl, rfl⟩⟩

/-- A score changed alone. -/
theorem solo_applyBuildingScoreDelta (buildingId : ℕ) (delta : ℤ) (reason : XpReason)
    (sourceEvent : Option String) (hbuilding : (s.buildings.find? buildingId).isSome = true) :
    ∃ r c, (ensured buildingId s).scoreOf buildingId = some r ∧ c.delta = delta ∧
      (GamificationRepository.applyBuildingScoreDelta buildingId delta reason sourceEvent).solo s s =
        (.ok (some c),
          changed r (r.score + delta) (computeLeagueTier (r.score + delta)) c (ensured buildingId s),
          changed r (r.score + delta) (computeLeagueTier (r.score + delta)) c
            (ensured buildingId s)) := by
  have hensured := scoreOf_ensured buildingId s
  generalize (s.scoreOf buildingId).getD (firstScore buildingId s.buildingScores.next) = r at hensured
  obtain ⟨-, hrow⟩ := scoreOf_eq_some hensured
  refine ⟨r, ⟨delta, reason, sourceEvent, r.leagueTier, computeLeagueTier (r.score + delta)⟩,
    hensured, rfl, ?_⟩
  have hpresent : (if (s.scoreOf buildingId).isNone = true then
      if (s.buildings.find? buildingId).isSome = true then none else some Failure.foreignKey
    else none) = none := by
    rw [if_pos hbuilding]
    split <;> rfl
  rw [GamificationRepository.applyBuildingScoreDelta, Prog.solo_tryCatch, Prog.solo_transaction,
    ensureBuildingScore, Prog.solo_insertIfAbsent_bind, hpresent]
  have hview : (if (s.scoreOf buildingId).isNone = true then s.onBuildingScores
      (·.create (firstScore buildingId) (firstScore_id buildingId)) else s) =
        ensured buildingId s := rfl
  dsimp only
  rw [hview, Prog.queryUnder_bind, Prog.solo_stmt, id, hensured, Prog.solo_expect_bind]
  dsimp only
  rw [updateBuildingScore, hrow, Prog.solo_writeIf_bind, if_pos (by rw [hensured]; rfl),
    insertBuildingScoreEvent, hrow, Prog.write_bind, Prog.solo_stmt]
  rw [← scored_eq hensured]
  rfl

/-! ### The two totals -/

/-- The XP balance of a person. -/
def xpBalanceOf (personId : ℕ) (s : Store) : ℤ :=
  ((s.persons.find? personId).map Person.xpBalance).getD 0

/-- The score of a building, which is nothing at first. -/
def scoreValue (buildingId : ℕ) (s : Store) : ℤ :=
  ((s.scoreOf buildingId).map BuildingScore.score).getD 0

/-- The first score of a building is zero. -/
theorem scoreValue_of_ensured {buildingId : ℕ} {r : BuildingScore}
    (h : (ensured buildingId s).scoreOf buildingId = some r) : scoreValue buildingId s = r.score := by
  rw [scoreOf_ensured] at h
  obtain rfl := Option.some.inj h
  rw [scoreValue]
  cases s.scoreOf buildingId <;> rfl

/-- The score is the new one. -/
theorem scoreValue_changed {buildingId : ℕ} {r : BuildingScore} {newScore : ℤ} {newTier : LeagueTier}
    {c : ScoreChange} (h : s.scoreOf buildingId = some r) :
    scoreValue buildingId (changed r newScore newTier c s) = newScore := by
  have hscore : (changed r newScore newTier c s).scoreOf buildingId =
      some (r.scored newScore newTier) := scoreOf_modify h
  rw [scoreValue, hscore]
  rfl

/-- The balance of who is awarded grows by the amount. -/
theorem xpBalanceOf_awarded (params : GamificationRepository.AwardXpParams)
    (h : (s.persons.find? params.personId).isSome = true) :
    xpBalanceOf params.personId (awarded params s) =
      xpBalanceOf params.personId s + params.amount := by
  obtain ⟨p, hp⟩ := Option.isSome_iff_exists.mp h
  have hp' : (awarded params s).persons.find? params.personId = some (p.earned params.amount) :=
    Table.find?_modify_self (h := Person.earned_id params.amount) hp
  rw [xpBalanceOf, xpBalanceOf, hp, hp']
  rfl

/-- An award gives a person and a building what the catalogue says, and is in the ledger. -/
structure Earned (input : GamificationService.AwardXpInput) (buildingId : ℕ) (s t : Store) :
    Prop where
  balance : xpBalanceOf input.personId t = xpBalanceOf input.personId s + (xpCatalog input.reason).amount
  score : scoreValue buildingId t =
    scoreValue buildingId s + (xpCatalog input.reason).buildingScoreDelta
  ledger : t.xpTransactions =
    s.xpTransactions.create input.params.transaction input.params.transaction_id
  persons : ∀ id, (s.persons.find? id).isSome = true → (t.persons.find? id).isSome = true
  buildings : t.buildings = s.buildings
  definitions : t.achievementDefinitions = s.achievementDefinitions

/-- The achievement of a first occurrence gives no bonus. -/
def NoBonus (reason : XpReason) (s : Store) : Prop :=
  ∀ d ∈ s.achievementDefinitions, some d.code = (xpCatalog reason).achievementCode → d.xpBonus ≤ 0

/-- Without a bonus an achievement changes no balance. -/
theorem solo_unlockOnFirstOccurrence {input : GamificationService.AwardXpInput}
    (isFirstOccurrence : Bool) (hperson : (s.persons.find? input.personId).isSome = true)
    (hbuilding : refersToBuilding input.buildingId s = true) (hbonus : NoBonus input.reason s) :
    ∃ t, (GamificationService.unlockOnFirstOccurrence input isFirstOccurrence).solo s s =
      (.ok ⟨⟩, t, t) ∧ Unrewarded s t := by
  unfold GamificationService.unlockOnFirstOccurrence
  split
  case h_1 code hcode =>
    obtain ⟨o, t, hsolo, ht⟩ := solo_unlockAchievement input.personId code input.buildingId hperson
      hbuilding fun d hd hd' => hbonus d hd (by rw [hcode, hd'])
    refine ⟨t, ?_, ht⟩
    rw [Prog.solo_bind, hsolo]
    rfl
  case h_2 => exact ⟨s, rfl, Unrewarded.refl s⟩

/-- The building gets the share of the reason. -/
theorem solo_scoreBuilding {input : GamificationService.AwardXpInput} {buildingId : ℕ}
    (hinput : input.buildingId = some buildingId)
    (hdelta : (xpCatalog input.reason).buildingScoreDelta ≠ 0)
    (hbuilding : (s.buildings.find? buildingId).isSome = true) :
    ∃ r c, (ensured buildingId s).scoreOf buildingId = some r ∧
      (GamificationService.scoreBuilding input).exec s =
        changed r (r.score + (xpCatalog input.reason).buildingScoreDelta)
          (computeLeagueTier (r.score + (xpCatalog input.reason).buildingScoreDelta)) c
          (ensured buildingId s) := by
  obtain ⟨r, c, hr, -, hsolo⟩ := solo_applyBuildingScoreDelta buildingId
    (xpCatalog input.reason).buildingScoreDelta input.reason input.sourceEvent hbuilding
  refine ⟨r, c, hr, ?_⟩
  rw [GamificationService.scoreBuilding, hinput]
  dsimp only
  rw [if_pos hdelta, GamificationService.applyBuildingScoreDelta, Prog.exec, Prog.solo_bind, hsolo]
  rfl

/-- An award alone: nothing if its reference has one already, or all that the catalogue says. -/
theorem exec_award (input : GamificationService.AwardXpInput) {buildingId : ℕ}
    (hinput : input.buildingId = some buildingId)
    (hdelta : (xpCatalog input.reason).buildingScoreDelta ≠ 0)
    (hperson : (s.persons.find? input.personId).isSome = true)
    (hbuilding : (s.buildings.find? buildingId).isSome = true) (hbonus : NoBonus input.reason s) :
    if referenceTaken (input.params.transaction 0) s then
      (GamificationService.awardXp input).exec s = s
    else Earned input buildingId s ((GamificationService.awardXp input).exec s) := by
  have hrefers : refersToBuilding input.buildingId s = true := by
    rw [hinput]
    exact hbuilding
  rw [GamificationService.awardXp, Prog.exec, Prog.solo_bind,
    solo_awardXp input.params hperson hrefers]
  split
  case isTrue htaken => rfl
  case isFalse hfree =>
    dsimp only
    have hkeeps := keeps_awarded input.params s
    have hperson' := hkeeps.person input.personId hperson
    obtain ⟨t, hunlock, ht⟩ := solo_unlockOnFirstOccurrence
      (s.countTransactions input.params.personId input.params.reason == 0)
      (s := awarded input.params s) hperson' hrefers hbonus
    have hbuilding' : (t.buildings.find? buildingId).isSome = true := by
      rw [ht.buildings]
      exact hbuilding
    obtain ⟨r, c, hr, hexec⟩ := solo_scoreBuilding hinput hdelta hbuilding'
    rw [Prog.exec] at hexec
    rw [GamificationService.afterAward, Prog.solo_bind, hunlock]
    dsimp only
    rw [hexec]
    obtain ⟨hledger, -, hpersons, hbuildings, hdefinitions⟩ := ensured_tables buildingId t
    have hscore : scoreValue buildingId t = scoreValue buildingId s := by
      rw [scoreValue, Store.scoreOf, ht.scores]
      rfl
    refine ⟨?_, ?_, ?_, fun id hid => ?_, ?_, ?_⟩
    · have hbalance := xpBalanceOf_awarded input.params hperson
      rw [xpBalanceOf] at hbalance ⊢
      change ((Table.find? (ensured buildingId t).persons input.personId).map _).getD 0 = _
      rw [hpersons, ht.persons]
      exact hbalance
    · rw [scoreValue_changed hr, ← hscore, scoreValue_of_ensured hr]
    · exact hledger.trans ht.xpTransactions
    · change ((ensured buildingId t).persons.find? id).isSome = true
      rw [hpersons, ht.persons]
      exact hkeeps.person id hid
    · exact hbuildings.trans ht.buildings
    · exact hdefinitions.trans ht.definitions

/-! ### Deliveries -/

/-- The two events of a payment. -/
inductive PaymentDelivery
  | approved
  | reversed
  deriving DecidableEq

/-- The handler of the event that is delivered. -/
def PaymentDelivery.handle (event : PaymentApprovedEvent) : PaymentDelivery → Call PUnit
  | approved => onPaymentApproved event
  | reversed => onPaymentReversed ⟨event.paymentId⟩

/-- The listener handles one event of the payment. -/
def deliver (event : PaymentApprovedEvent) (s : Store) (d : PaymentDelivery) : Store :=
  (d.handle event).exec s

/-- How far the module has come with a payment. -/
inductive PaymentStage
  | unheard
  | awarded
  | clawedBack
  deriving DecidableEq

namespace PaymentStage

/-- What has become of the award after a delivery. -/
def next : PaymentStage → PaymentDelivery → PaymentStage
  | unheard, .approved => awarded
  | awarded, .reversed => clawedBack
  | stage, _ => stage

/-- What the payment has earned the payer so far. -/
def xp : PaymentStage → ℤ
  | awarded => chargePaidAmount
  | _ => 0

/-- What the payment has earned the building so far. -/
def score : PaymentStage → ℤ
  | awarded => chargePaidBuildingScoreDelta
  | _ => 0

/-- What the ledger says of the payment. -/
def Recorded (event : PaymentApprovedEvent) (s : Store) : PaymentStage → Prop
  | unheard =>
    s.transactionOf "PAYMENT" event.paymentId .chargePaid = none ∧
      s.transactionOf "PAYMENT" event.paymentId .chargePaidReversed = none
  | awarded =>
    (∃ t, s.transactionOf "PAYMENT" event.paymentId .chargePaid = some t ∧
      t.personId = event.payerId ∧ t.buildingId = some event.buildingId) ∧
      s.transactionOf "PAYMENT" event.paymentId .chargePaidReversed = none
  | clawedBack =>
    (s.transactionOf "PAYMENT" event.paymentId .chargePaid).isSome = true ∧
      (s.transactionOf "PAYMENT" event.paymentId .chargePaidReversed).isSome = true

end PaymentStage

/-- The payment is at a stage, and has earned what belongs to it since `s₀`. -/
structure At (event : PaymentApprovedEvent) (s₀ : Store) (stage : PaymentStage) (s : Store) :
    Prop where
  payer : (s.persons.find? event.payerId).isSome = true
  building : (s.buildings.find? event.buildingId).isSome = true
  bonus : NoBonus .chargePaid s
  recorded : stage.Recorded event s
  balance : xpBalanceOf event.payerId s = xpBalanceOf event.payerId s₀ + stage.xp
  score : scoreValue event.buildingId s = scoreValue event.buildingId s₀ + stage.score

/-- A new line is found when nothing with its reference was. -/
theorem transactionOf_create (referenceType : String) (referenceId : ℕ) (reason : XpReason)
    {mk : ℕ → XpTransaction} {h : ∀ id, (mk id).id = id}
    (ht : t.xpTransactions = s.xpTransactions.create mk h) :
    t.transactionOf referenceType referenceId reason =
      (s.transactionOf referenceType referenceId reason).or
        (if (mk s.xpTransactions.next).Refers referenceType referenceId reason then
          some (mk s.xpTransactions.next) else none) := by
  rw [Store.transactionOf, ht]
  change (s.xpTransactions.rows ++ [mk s.xpTransactions.next]).find? _ = _
  rw [List.find?_append, List.find?_singleton]
  simp only [decide_eq_true_eq]
  rfl

/-- The award for a payment. -/
def paymentAward (event : PaymentApprovedEvent) : GamificationService.AwardXpInput :=
  { personId := event.payerId, buildingId := some event.buildingId, reason := .chargePaid,
    sourceEvent := some "PaymentApproved", referenceType := some "PAYMENT",
    referenceId := some event.paymentId }

/-- What takes an award back unlocks nothing. -/
theorem noBonus_chargePaidReversed : NoBonus .chargePaidReversed s :=
  fun _ _ h => absurd h (Option.some_ne_none _)

/-- The bonuses only depend on the definitions. -/
theorem NoBonus.of_definitions {reason : XpReason} (h : NoBonus reason s)
    (ht : t.achievementDefinitions = s.achievementDefinitions) : NoBonus reason t :=
  fun d hd => h d (ht ▸ hd)

/-- A payment counts for the building. -/
theorem chargePaidBuildingScoreDelta_ne_zero : chargePaidBuildingScoreDelta ≠ 0 := by decide

/-- The approval is handled. -/
theorem At.approved {event : PaymentApprovedEvent} {s₀ : Store} {stage : PaymentStage}
    (h : At event s₀ stage s) : At event s₀ (stage.next .approved) (deliver event s .approved) := by
  have hexec := exec_award (paymentAward event) rfl chargePaidBuildingScoreDelta_ne_zero
    h.payer h.building h.bonus
  -- an award that was made is not made again
  have htaken : (s.transactionOf "PAYMENT" event.paymentId .chargePaid).isSome = true →
      deliver event s .approved = s := by
    intro htaken
    have htaken : referenceTaken ((paymentAward event).params.transaction 0) s = true := htaken
    rw [if_pos htaken] at hexec
    exact hexec
  have hrecorded := h.recorded
  cases stage with
  | unheard =>
    have hfree : ¬ referenceTaken ((paymentAward event).params.transaction 0) s = true := by
      change ¬ (s.transactionOf "PAYMENT" event.paymentId .chargePaid).isSome = true
      rw [hrecorded.1]
      exact Bool.false_ne_true
    rw [if_neg hfree] at hexec
    have hpaid := transactionOf_create "PAYMENT" event.paymentId .chargePaid hexec.ledger
    have hreversed :=
      transactionOf_create "PAYMENT" event.paymentId .chargePaidReversed hexec.ledger
    rw [hrecorded.1, if_pos ⟨rfl, rfl, rfl⟩] at hpaid
    rw [hrecorded.2, if_neg fun href => XpReason.noConfusion href.2.2] at hreversed
    refine ⟨hexec.persons _ h.payer, hexec.buildings ▸ h.building,
      h.bonus.of_definitions hexec.definitions, ⟨⟨_, hpaid, rfl, rfl⟩, hreversed⟩, ?_, ?_⟩
    · refine hexec.balance.trans (congrArg (· + chargePaidAmount) h.balance) |>.trans ?_
      exact congrArg (· + chargePaidAmount) (add_zero _)
    · refine hexec.score.trans (congrArg (· + chargePaidBuildingScoreDelta) h.score) |>.trans ?_
      exact congrArg (· + chargePaidBuildingScoreDelta) (add_zero _)
  | awarded =>
    obtain ⟨⟨t, ht, -⟩, -⟩ := hrecorded
    rw [htaken (by rw [ht]; rfl)]
    exact h
  | clawedBack =>
    rw [htaken hrecorded.1]
    exact h

/-- An award is taken back once. -/
theorem exec_clawback {event : PaymentApprovedEvent} {original : XpTransaction}
    (hpaid : s.transactionOf "PAYMENT" event.paymentId .chargePaid = some original)
    (hreversed : s.transactionOf "PAYMENT" event.paymentId .chargePaidReversed = none) :
    deliver event s .reversed = (GamificationService.awardXp
      (GamificationService.clawback original event.paymentId (some "PaymentReversed"))).exec s := by
  rw [deliver, PaymentDelivery.handle, onPaymentReversed, GamificationService.clawbackChargePaidXp,
    Prog.exec_query_bind, hpaid]
  dsimp only
  rw [Prog.exec_query_bind, hreversed]
  rfl

/-- The reversal is handled. -/
theorem At.reversed {event : PaymentApprovedEvent} {s₀ : Store} {stage : PaymentStage}
    (h : At event s₀ stage s) : At event s₀ (stage.next .reversed) (deliver event s .reversed) := by
  have hrecorded := h.recorded
  cases stage with
  | unheard =>
    -- there is nothing to take back yet
    have hexec : deliver event s .reversed = s := by
      rw [deliver, PaymentDelivery.handle, onPaymentReversed,
        GamificationService.clawbackChargePaidXp, Prog.exec_query_bind, hrecorded.1]
      rfl
    rw [hexec]
    exact h
  | awarded =>
    obtain ⟨⟨original, hpaid, hpayer, hbuilding⟩, hreversed⟩ := hrecorded
    have hperson : (s.persons.find? (GamificationService.clawback original event.paymentId
        (some "PaymentReversed")).personId).isSome = true := by
      rw [← h.payer, ← hpayer]
      rfl
    have hexec := exec_award (GamificationService.clawback original event.paymentId
      (some "PaymentReversed")) hbuilding (neg_ne_zero.mpr chargePaidBuildingScoreDelta_ne_zero)
      hperson h.building noBonus_chargePaidReversed
    rw [if_neg, ← exec_clawback hpaid hreversed] at hexec
    · have hpaid' := transactionOf_create "PAYMENT" event.paymentId .chargePaid hexec.ledger
      have hreversed' :=
        transactionOf_create "PAYMENT" event.paymentId .chargePaidReversed hexec.ledger
      rw [hpaid, Option.some_or] at hpaid'
      rw [hreversed, if_pos ⟨rfl, rfl, rfl⟩] at hreversed'
      have hbalance := hexec.balance
      rw [show (GamificationService.clawback original event.paymentId
        (some "PaymentReversed")).personId = event.payerId from hpayer, h.balance] at hbalance
      refine ⟨hexec.persons _ h.payer, hexec.buildings ▸ h.building,
        h.bonus.of_definitions hexec.definitions, ⟨?_, ?_⟩, ?_, ?_⟩
      · rw [hpaid']
        rfl
      · rw [hreversed']
        rfl
      · exact hbalance.trans (add_neg_cancel_right _ _ |>.trans (add_zero _).symm)
      · have hscore := hexec.score
        rw [h.score] at hscore
        exact hscore.trans (add_neg_cancel_right _ _ |>.trans (add_zero _).symm)
    · change ¬ (s.transactionOf "PAYMENT" event.paymentId .chargePaidReversed).isSome = true
      rw [hreversed]
      exact Bool.false_ne_true
  | clawedBack =>
    obtain ⟨original, hpaid⟩ := Option.isSome_iff_exists.mp hrecorded.1
    have hexec : deliver event s .reversed = s := by
      rw [deliver, PaymentDelivery.handle, onPaymentReversed,
        GamificationService.clawbackChargePaidXp, Prog.exec_query_bind, hpaid]
      dsimp only
      rw [Prog.exec_query_bind, if_pos hrecorded.2]
      rfl
    rw [hexec]
    exact h

/-- A delivery leads to the next stage. -/
theorem At.deliver {event : PaymentApprovedEvent} {s₀ : Store} {stage : PaymentStage}
    (h : At event s₀ stage s) (d : PaymentDelivery) :
    At event s₀ (stage.next d) (deliver event s d) := by
  cases d with
  | approved => exact h.approved
  | reversed => exact h.reversed

/-! ### Runs of deliveries -/

/-- The payment moves on with every delivery. -/
theorem At.runFrom {event : PaymentApprovedEvent} {s₀ : Store} {stage : PaymentStage}
    (h : At event s₀ stage s) (ds : List PaymentDelivery) :
    At event s₀ (ds.foldl PaymentStage.next stage) (runFrom (Gamification.deliver event) s ds) := by
  induction ds generalizing stage s with
  | nil => exact h
  | cons d ds ih => exact ih (h.deliver d)

end VielHome.Gamification
