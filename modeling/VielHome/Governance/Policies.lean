import VielHome.Building.Policies
import VielHome.Governance.VotePolicy

/-!
# Policies of the governance module

The rules that the services check before they write: the window and the scope of a vote, the
candidates of an election, when a vote can be published, cast on, closed or cancelled, and who may
appoint or revoke a proxy. `VotePolicy.calculateResult` is in a module of its own.
-/

namespace VielHome.Governance

open Community
open Relational.ReadCommitted.Prog (require expect)

/-! ### `VotePolicy` -/

namespace VotePolicy

/-- A vote ends after it begins, and not in the past. -/
def assertValidVoteWindow (startAt endAt now : Time) : Call PUnit := do
  require (¬ endAt ≤ startAt)
    (.businessRuleViolation "A vote's end date must be after its start date.")
  require (¬ endAt ≤ now) (.businessRuleViolation "A vote's end date must be in the future.")

/-- A draft with two options is published. -/
def assertPublishable (status : VoteStatus) (optionCount : ℕ) : Call PUnit := do
  require (status = .draft) (.businessRuleViolation "Only a DRAFT vote can be published.")
  require (¬ optionCount < 2)
    (.businessRuleViolation
      "A vote needs at least two options before it can be published.")

/-- An election has candidates, each of them once. -/
def assertValidElectionOptions (candidatePersonIds : List String) : Call PUnit := do
  require (candidatePersonIds ≠ [])
    (.businessRuleViolation "A manager-election vote needs at least one candidate option.")
  require candidatePersonIds.Nodup
    (.businessRuleViolation "A manager-election vote cannot list the same candidate twice.")

/-- The vote is open. -/
def assertOpenForBallots (status : VoteStatus) (endAt now : Time) : Call PUnit := do
  require (status = .active)
    (.businessRuleViolation "This vote is not currently open for ballots.")
  require (¬ endAt < now)
    (.businessRuleViolation "This vote's voting window has closed.")

/-- The caller votes for the unit, or in place of who does. -/
def assertEligibleToCastBallot (isDirectMatch isProxyMatch : Bool) : Call PUnit :=
  require (isDirectMatch = true ∨ isProxyMatch = true)
    (.authorization "You are not the eligible voter for this unit on this vote.")

/-- A candidate does not vote. -/
def assertNotVotingOnOwnCandidacy (isManagerElection : Bool) (voterPersonId : String)
    (candidatePersonIds : List String) : Call PUnit :=
  require (¬ (isManagerElection = true ∧ voterPersonId ∈ candidatePersonIds))
    (.businessRuleViolation "A candidate cannot vote in their own election.")

/-- Only an open vote is closed. -/
def assertClosable (status : VoteStatus) : Call PUnit :=
  require (status = .active) (.businessRuleViolation "Only an ACTIVE vote can be closed.")

/-- The name of a status, as the messages have it. -/
def statusName : VoteStatus → String
  | .draft => "DRAFT"
  | .active => "ACTIVE"
  | .closed => "CLOSED"
  | .cancelled => "CANCELLED"

/-- A vote that is over is not called off. -/
def assertCancellable (status : VoteStatus) : Call PUnit :=
  require (status ≠ .closed ∧ status ≠ .cancelled)
    (.businessRuleViolation s!"A {statusName status} vote cannot be cancelled.")

/-- A scope with the one field that goes with it, and no other. -/
def assertValidScope (scopeType : VoteScopeType) (scopeBlockId : Option ℕ)
    (scopeUnitType : Option UnitType) (scopeUnitIds : List ℕ) : Call PUnit := do
  require (¬ (scopeType = .block ∧ scopeBlockId = none))
    (.businessRuleViolation "A BLOCK-scoped vote requires scopeBlockId.")
  require (¬ (scopeType = .propertyType ∧ scopeUnitType = none))
    (.businessRuleViolation "A PROPERTY_TYPE-scoped vote requires scopeUnitType.")
  require (¬ (scopeType = .selectedUnits ∧ scopeUnitIds = []))
    (.businessRuleViolation
      "A SELECTED_UNITS-scoped vote requires at least one scopeUnitIds entry.")
  require (¬ (scopeType ≠ .block ∧ scopeBlockId ≠ none))
    (.businessRuleViolation "scopeBlockId is only valid when scopeType is BLOCK.")
  require (¬ (scopeType ≠ .propertyType ∧ scopeUnitType ≠ none))
    (.businessRuleViolation "scopeUnitType is only valid when scopeType is PROPERTY_TYPE.")
  require (¬ (scopeType ≠ .selectedUnits ∧ scopeUnitIds ≠ []))
    (.businessRuleViolation "scopeUnitIds is only valid when scopeType is SELECTED_UNITS.")

end VotePolicy

/-! ### `VoteProxyPolicy` -/

namespace VoteProxyPolicy

/-- Only who votes for the unit appoints a proxy. -/
def assertCallerIsEligibleVoter (isEligibleVoter : Bool) : Call PUnit :=
  require (isEligibleVoter = true)
    (.authorization "Only this unit's current eligible voter may appoint a proxy.")

/-- Nobody is their own proxy. -/
def assertNotSelfProxy (granterPersonId proxyPersonId : ℕ) : Call PUnit :=
  require (granterPersonId ≠ proxyPersonId)
    (.businessRuleViolation "You cannot appoint yourself as your own proxy.")

/-- A proxy is a member of the building. -/
def assertProxyIsMember (isMember : Bool) : Call PUnit :=
  require (isMember = true)
    (.businessRuleViolation "A proxy must be a current member of this building.")

/-- Only who has granted a proxy revokes it. -/
def assertCallerIsGranter (isGranter : Bool) : Call PUnit :=
  require (isGranter = true)
    (.authorization "Only the person who granted a proxy may revoke it.")

/-- The current proxy, or the error that there is none. -/
def assertHasCurrentProxy (existing : Option VoteProxy) : Call VoteProxy :=
  expect existing
    (.businessRuleViolation "This unit has no current proxy to revoke.")

end VoteProxyPolicy

end VielHome.Governance
