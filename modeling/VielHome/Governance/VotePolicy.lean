import Mathlib.Algebra.Order.Ring.Int
import VielHome.Relational.Plurality

/-!
# The result of a vote

`VotePolicy.calculateResult` counts the ballots of a vote that closes. Abstentions count
for the quorum and for nothing else. The winner is the option with strictly more ballots
than every other option, so the result does not depend on the order of the ballots.
-/

namespace VielHome.Governance

open Plurality

/-- The id of an option. Ids are generated, and none is empty. -/
structure OptionId where
  value : String
  nonempty : value ≠ ""
  deriving DecidableEq

/-- How a vote has ended. -/
inductive VoteResultStatus
  | passed
  | notPassed
  | quorumNotMet
  deriving DecidableEq

/-- What `calculateResult` reads of a ballot: the option, and the value of the option. -/
structure Ballot where
  selectedOptionId : OptionId
  optionValue : String
  deriving DecidableEq

/-- How a vote has ended, with its numbers. -/
structure VoteResult where
  totalEligibleCount : ℕ
  totalBallotCount : ℕ
  quorumMet : Bool
  winningOptionId : Option OptionId
  resultStatus : VoteResultStatus
  deriving DecidableEq

namespace VotePolicy

/-- Quorum is a percentage of the eligible units that must have cast a ballot. -/
def isQuorumMet (quorumPercent : Option ℤ) (totalEligibleCount totalBallotCount : ℕ) : Bool :=
  match quorumPercent with
  | none => true
  | some percent =>
    if totalEligibleCount = 0 then false
    else decide ((totalBallotCount : ℤ) * 100 ≥ percent * totalEligibleCount)

/-- The options of the ballots that are counted: an abstention is skipped. -/
def counted (ballots : List Ballot) : List OptionId :=
  (ballots.filter fun ballot => ballot.optionValue ≠ "ABSTAIN").map Ballot.selectedOptionId

/-- Whether a nullable id is truthy: it is neither null nor the empty string. -/
def truthy (id : Option OptionId) : Bool := id.any fun id => id.value ≠ ""

/-- `calculateResult`: the quorum, the tally, and the option that has most. -/
def calculateResult (quorumPercent : Option ℤ) (totalEligibleCount : ℕ) (ballots : List Ballot) :
    VoteResult :=
  let totalBallotCount := ballots.length
  let quorumMet := isQuorumMet quorumPercent totalEligibleCount totalBallotCount
  let tally := ballots.foldl (fun tally ballot =>
    if ballot.optionValue = "ABSTAIN" then tally else bump tally ballot.selectedOptionId) []
  let winningOptionId := (tally.foldl Lead.next {}).outright
  let resultStatus : VoteResultStatus :=
    if !quorumMet then .quorumNotMet
    else if truthy winningOptionId then .passed
    else .notPassed
  { totalEligibleCount, totalBallotCount, quorumMet, winningOptionId, resultStatus }

theorem truthy_eq_isSome (id : Option OptionId) : truthy id = id.isSome := by
  cases id with
  | none => rfl
  | some id => exact decide_eq_true id.nonempty

/-- The loop over the ballots counts those that are no abstentions. -/
theorem foldl_tally (ballots : List Ballot) (entries : List (OptionId × ℕ)) :
    ballots.foldl (fun tally ballot =>
        if ballot.optionValue = "ABSTAIN" then tally else bump tally ballot.selectedOptionId) entries =
      (counted ballots).foldl bump entries := by
  induction ballots generalizing entries with
  | nil => rfl
  | cons ballot ballots ih =>
    rw [List.foldl_cons, ih]
    by_cases habstain : ballot.optionValue = "ABSTAIN" <;> simp [counted, habstain]

/-- An option wins when it has more of the counted ballots than any other. -/
theorem winningOptionId_eq_some_iff {quorumPercent : Option ℤ} {totalEligibleCount : ℕ}
    {ballots : List Ballot} {o : OptionId} :
    (calculateResult quorumPercent totalEligibleCount ballots).winningOptionId = some o ↔
      Wins (counted ballots) o := by
  simp only [calculateResult, foldl_tally]
  exact Lead.outright_eq_some_iff (counts_tally _)

theorem wins_perm {l l' : List OptionId} (h : l.Perm l') (o : OptionId) : Wins l o ↔ Wins l' o := by
  simp only [Wins, h.count_eq]

theorem counted_perm {ballots ballots' : List Ballot} (h : ballots.Perm ballots') :
    (counted ballots).Perm (counted ballots') :=
  (h.filter _).map _

/-- The number of ballots for an option that are no abstentions. -/
def votes (ballots : List Ballot) (o : OptionId) : ℕ :=
  ballots.countP fun ballot => ballot.selectedOptionId = o ∧ ballot.optionValue ≠ "ABSTAIN"

theorem count_counted (ballots : List Ballot) (o : OptionId) :
    (counted ballots).count o = votes ballots o := by
  rw [counted, List.count, List.countP_map, List.countP_filter, votes]
  refine List.countP_congr fun ballot _ => ?_
  simp

/-- The result of a vote: the winner is the option with at least one ballot and more ballots
than every other, without counting abstentions; the status is decided by the quorum and by
whether there is a winner; and neither depends on the order of the ballots. Abstentions only
count for the number of ballots, and through it for the quorum. -/
theorem calculateResult_correct (quorumPercent : Option ℤ) (totalEligibleCount : ℕ)
    (ballots : List Ballot) :
    let result := calculateResult quorumPercent totalEligibleCount ballots
    (∀ o, result.winningOptionId = some o ↔
      0 < votes ballots o ∧ ∀ o', o' ≠ o → votes ballots o' < votes ballots o) ∧
    result.totalEligibleCount = totalEligibleCount ∧
    result.totalBallotCount = ballots.length ∧
    result.quorumMet = isQuorumMet quorumPercent totalEligibleCount ballots.length ∧
    (result.resultStatus = .quorumNotMet ↔ result.quorumMet = false) ∧
    (result.resultStatus = .passed ↔ result.quorumMet = true ∧ result.winningOptionId.isSome) ∧
    (result.resultStatus = .notPassed ↔
      result.quorumMet = true ∧ result.winningOptionId = none) ∧
    (∀ ballots', ballots.Perm ballots' →
      calculateResult quorumPercent totalEligibleCount ballots' = result) ∧
    result.winningOptionId = (calculateResult quorumPercent totalEligibleCount
      (ballots.filter fun ballot => ballot.optionValue ≠ "ABSTAIN")).winningOptionId := by
  intro result
  have hwinner : ∀ o, result.winningOptionId = some o ↔
      0 < votes ballots o ∧ ∀ o', o' ≠ o → votes ballots o' < votes ballots o := by
    intro o
    rw [winningOptionId_eq_some_iff, Wins]
    simp only [count_counted]
  have hstatus : result.resultStatus =
      if !result.quorumMet then .quorumNotMet
      else if result.winningOptionId.isSome then .passed
      else .notPassed := by
    rw [← truthy_eq_isSome]
    rfl
  refine ⟨hwinner, rfl, rfl, rfl, ?_, ?_, ?_, fun ballots' hperm => ?_, ?_⟩
  · rw [hstatus]
    cases result.quorumMet <;> cases result.winningOptionId <;> simp
  · rw [hstatus]
    cases result.quorumMet <;> cases result.winningOptionId <;> simp
  · rw [hstatus]
    cases result.quorumMet <;> cases result.winningOptionId <;> simp
  · -- the winner is found from the counts, and the rest from the number of ballots
    have hsame : (calculateResult quorumPercent totalEligibleCount ballots').winningOptionId =
        result.winningOptionId := by
      refine Option.ext fun o => ?_
      rw [winningOptionId_eq_some_iff, winningOptionId_eq_some_iff,
        wins_perm (counted_perm hperm)]
    have hlength : ballots'.length = ballots.length := hperm.length_eq.symm
    simp only [calculateResult, hlength] at hsame ⊢
    rw [hsame]
    rfl
  · refine Option.ext fun o => ?_
    rw [winningOptionId_eq_some_iff, winningOptionId_eq_some_iff]
    simp [counted]

end VotePolicy

end VielHome.Governance
