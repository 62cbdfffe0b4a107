import VielHome.Building.Service
import VielHome.Governance.Repository

/-!
# `VotingService` and `VoteProxyService`

The calls of the two services. Between two statements any other call may commit. What a call records
for the audit and which events it emits is left out. The winner of a manager election is handed to
`BuildingService.changeManager`, and the vote stays closed whether or not the hand-over succeeds.
-/

namespace VielHome.Governance

open Relational Community Building
open Relational.ReadCommitted.Prog (query require expect tryCatch forEach)

/-- The person whose id is written like this. -/
def personIdOf (value : String) : Option ℕ :=
  let id := Nat.ofDigitChars 10 value.toList 0
  if toString id = value then some id else none

/-! ### `VotingService` -/

namespace VotingService

/-- An option of a new vote. -/
structure VoteOptionInputDto where
  label : String
  value : String
  deriving DecidableEq

/-- A new vote. -/
structure CreateVoteDto where
  title : String
  isManagerElection : Option Bool := none
  quorumPercent : Option ℤ := none
  options : Option (List VoteOptionInputDto) := none
  startAt : Time
  endAt : Time
  meetingId : Option ℕ := none
  scopeType : Option VoteScopeType := none
  scopeBlockId : Option ℕ := none
  scopeUnitType : Option UnitType := none
  scopeUnitIds : Option (List ℕ) := none

/-- Yes, no, and neither. -/
def DEFAULT_REFERENDUM_OPTIONS : List VoteOptionInputDto :=
  [{ label := "موافق", value := "YES" }, { label := "مخالف", value := "NO" },
    { label := "ممتنع", value := "ABSTAIN" }]

/-- The options of the request, or the default ones when it has none. -/
def CreateVoteDto.rawOptions (dto : CreateVoteDto) : List VoteOptionInputDto :=
  match dto.options with
  | some (o :: os) => o :: os
  | _ => DEFAULT_REFERENDUM_OPTIONS

/-- What the repository is asked for. -/
def CreateVoteDto.params (dto : CreateVoteDto) (buildingId actorPersonId : ℕ) :
    VotingRepository.CreateVoteParams where
  buildingId := buildingId
  title := dto.title
  isManagerElection := dto.isManagerElection.getD false
  quorumPercent := dto.quorumPercent
  startAt := dto.startAt
  endAt := dto.endAt
  createdById := actorPersonId
  scopeType := dto.scopeType.getD .entireBuilding
  scopeBlockId := dto.scopeBlockId
  scopeUnitType := dto.scopeUnitType
  scopeUnitIds := dto.scopeUnitIds.getD []
  options := dto.rawOptions.zipIdx.map fun o =>
    { label := o.1.label, value := o.1.value, sortOrder := o.2 }

/-- Whether the person with this id has a role in the building. -/
def hasRoles (buildingId : ℕ) (value : String) (s : Store) : Bool :=
  s.memberships.rows.any fun m =>
    toString m.personId = value ∧ m.buildingId = buildingId ∧ m.isCurrent = true

/-- The candidates without a role in the building, each looked up by a statement. -/
def ineligibleCandidates (buildingId : ℕ) : List String → Call (List String)
  | [] => pure []
  | candidate :: rest => do
    let isMember ← query (hasRoles buildingId candidate)
    let ineligible ← ineligibleCandidates buildingId rest
    pure (if isMember then ineligible else candidate :: ineligible)

/-- The candidates of an election may all be managers. -/
def assertCandidates (buildingId : ℕ) (candidatePersonIds : List String) : Call PUnit := do
  VotePolicy.assertValidElectionOptions candidatePersonIds
  let ineligible ← ineligibleCandidates buildingId candidatePersonIds
  require (ineligible = [])
    (.app ⟨.businessRuleViolation,
      "Every candidate in a manager-election vote must be a current member of this building.",
      ineligible.map fun candidate => ("ineligiblePersonIds", candidate)⟩)

/-- The lookup of the meeting is given by its answer: the building of the meeting, if there is
one. -/
def assertMeeting (buildingId : ℕ) (meetingId : Option ℕ) (found : Option ℕ) : Call PUnit :=
  match meetingId with
  | none => pure ⟨⟩
  | some _ => require (found = some buildingId)
      (.businessRuleViolation "The referenced meeting does not exist in this building.")

/-- The block of a vote is one of the building. -/
def assertScopeBlock (buildingId : ℕ) (scopeType : VoteScopeType) (scopeBlockId : Option ℕ) :
    Call PUnit :=
  match scopeType, scopeBlockId with
  | .block, some blockId => do
    let block ← query fun s => s.blocks.find? blockId
    require (block.any fun b => b.buildingId = buildingId)
      (.businessRuleViolation "scopeBlockId does not refer to a Block in this building.")
  | _, _ => pure ⟨⟩

/-- The units that are found are counted, so a repeated id is refused as well. -/
def assertScopeUnits (buildingId : ℕ) (scopeType : VoteScopeType) (scopeUnitIds : List ℕ) :
    Call PUnit :=
  if scopeType = .selectedUnits ∧ scopeUnitIds ≠ [] then do
    let matchCount ← query fun s =>
      (s.units.rows.filter fun u => u.buildingId = buildingId ∧ u.id ∈ scopeUnitIds).length
    require (matchCount = scopeUnitIds.length)
      (.businessRuleViolation "scopeUnitIds must all refer to Units in this building.")
  else pure ⟨⟩

/-- `createVote`: the checks, and then the draft. -/
def createVote (buildingId : ℕ) (dto : CreateVoteDto) (meeting : Option ℕ) (actorPersonId : ℕ)
    (now : Time) : Call PUnit := do
  let building ← query fun s => s.buildings.find? buildingId
  let _ ← expect building (.notFound "Building not found.")
  VotePolicy.assertValidVoteWindow dto.startAt dto.endAt now
  let isManagerElection := dto.isManagerElection.getD false
  require (¬ (isManagerElection = true ∧ dto.options.getD [] = []))
    (.businessRuleViolation "A manager-election vote requires explicit candidate options.")
  if isManagerElection then
    assertCandidates buildingId (dto.rawOptions.map VoteOptionInputDto.value)
  else pure ⟨⟩
  assertMeeting buildingId dto.meetingId meeting
  VotePolicy.assertValidScope (dto.scopeType.getD .entireBuilding) dto.scopeBlockId
    dto.scopeUnitType (dto.scopeUnitIds.getD [])
  assertScopeBlock buildingId (dto.scopeType.getD .entireBuilding) dto.scopeBlockId
  assertScopeUnits buildingId (dto.scopeType.getD .entireBuilding) (dto.scopeUnitIds.getD [])
  VotingRepository.createVote (dto.params buildingId actorPersonId)

/-- The vote, when it is of the building. -/
def getVote (buildingId voteId : ℕ) : Call VoteDetail := do
  let detail ← query (VotingRepository.findVoteById voteId)
  let detail ← expect detail (.notFound "Vote not found.")
  require (detail.vote.buildingId = buildingId) (.notFound "Vote not found.")
  pure detail

/-- `publishVote`, of the draft that was read. -/
def publishVote (buildingId voteId : ℕ) (now : Time) : Call PUnit := do
  let detail ← getVote buildingId voteId
  VotePolicy.assertPublishable detail.vote.status detail.options.length
  let allowTenantVoting ← query fun s => s.allowTenantVoting buildingId
  VotingRepository.publishVote voteId buildingId allowTenantVoting now

/-- What somebody votes for a unit. -/
structure CastBallotDto where
  unitId : ℕ
  selectedOptionId : ℕ
  deriving DecidableEq

/-- A proxy is looked for when the caller is not the eligible person. -/
def proxyMatch (eligiblePersonId actorPersonId : ℕ) : Call Bool :=
  if eligiblePersonId = actorPersonId then pure false
  else query (VoteProxyRepository.isCurrentProxyFor eligiblePersonId actorPersonId)

/-- A ballot that lost the race for the unit is reported as one that came too late. -/
def createBallot (params : VotingRepository.BallotParams) (now : Time) : Call PUnit :=
  tryCatch (VotingRepository.createBallot params now) fun e =>
    .fail (if e = .uniqueConstraint then .duplicate "This unit has already voted on this vote."
      else e)

/-- `castBallot`: the checks on what was read, and then the ballot. -/
def castBallot (buildingId voteId : ℕ) (dto : CastBallotDto) (actorPersonId : ℕ) (now : Time) :
    Call PUnit := do
  let detail ← getVote buildingId voteId
  VotePolicy.assertOpenForBallots detail.vote.status detail.vote.endAt now
  let unit ← query fun s => s.units.find? dto.unitId
  let unit ← expect unit (.notFound "Unit not found.")
  require (unit.buildingId = buildingId) (.notFound "Unit not found.")
  let snapshot ← query (VotingRepository.findEligibilitySnapshotForUnit voteId dto.unitId)
  let snapshot ← expect snapshot
    (.businessRuleViolation "This unit is not eligible to vote on this vote.")
  let isProxyMatch ← proxyMatch snapshot.eligiblePersonId actorPersonId
  VotePolicy.assertEligibleToCastBallot (snapshot.eligiblePersonId = actorPersonId) isProxyMatch
  let existing ← query (VotingRepository.findBallotForUnit voteId dto.unitId)
  require (existing = none) (.duplicate "This unit has already voted on this vote.")
  require (detail.options.any fun o => o.id = dto.selectedOptionId)
    (.notFound "Vote option not found.")
  -- the candidate of the unit's own vote, whoever casts it
  VotePolicy.assertNotVotingOnOwnCandidacy detail.vote.isManagerElection
    (toString snapshot.eligiblePersonId) (detail.options.map VoteOption.value)
  createBallot
    { voteId, unitId := dto.unitId, voterPersonId := actorPersonId,
      selectedOptionId := dto.selectedOptionId } now

/-- The candidate with this id takes over. A value that is no id has no role in the building, and
the hand-over fails as for a person who is no member. -/
def electManager (buildingId : ℕ) (value : String) (assignedById : Option ℕ) (now : Time) :
    Call PUnit :=
  match personIdOf value with
  | some newManagerPersonId =>
    BuildingService.changeManager
      { buildingId, newManagerPersonId, assignmentType := .elected, assignedById } now
  | none => ManagerAssignmentPolicy.assertCandidateIsMember false

/-- The option that a closed vote hands the building to. -/
def elected (detail : VoteDetail) (result : ResultParams) : Option VoteOption :=
  if detail.vote.isManagerElection = true ∧ result.resultStatus = .passed then
    result.winningOptionId.bind fun id => detail.options.find? fun o => o.id = id
  else none

/-- Whatever goes wrong with the hand-over is only logged. -/
def handOver (buildingId : ℕ) (winningOption : Option VoteOption) (assignedById : Option ℕ)
    (now : Time) : Call PUnit :=
  match winningOption with
  | some o => tryCatch (electManager buildingId o.value assignedById now) fun _ => pure ⟨⟩
  | none => pure ⟨⟩

/-- `closeVote`: the result, and the hand-over to who was elected. -/
def closeVote (buildingId voteId : ℕ) (actorPersonId : Option ℕ) (now : Time) : Call PUnit := do
  let detail ← getVote buildingId voteId
  VotePolicy.assertClosable detail.vote.status
  let result ← VotingRepository.closeVote voteId detail.vote.quorumPercent now
  handOver buildingId (elected detail result) actorPersonId now

/-- `cancelVote`, of a vote that is not over. -/
def cancelVote (buildingId voteId : ℕ) (reason : Option String) (now : Time) : Call PUnit := do
  let detail ← getVote buildingId voteId
  VotePolicy.assertCancellable detail.vote.status
  VotingRepository.cancelVote voteId detail.vote.status reason now

/-- One vote that fails does not stop the others. -/
def runAutoPublish (now : Time) : Call PUnit := do
  let due ← query (VotingRepository.findVotesDueForAutoPublish now)
  forEach due fun v => tryCatch (publishVote v.buildingId v.id now) fun _ => pure ⟨⟩

/-- `runAutoClose`: every vote whose time is over, one after the other. -/
def runAutoClose (now : Time) : Call PUnit := do
  let due ← query (VotingRepository.findVotesDueForAutoClose now)
  forEach due fun v => tryCatch (closeVote v.buildingId v.id none now) fun _ => pure ⟨⟩

end VotingService

/-! ### `VoteProxyService` -/

namespace VoteProxyService

/-- The unit, when it is of the building. -/
def getOwnUnit (buildingId unitId : ℕ) : Call BuildingUnit := do
  let unit ← query fun s => s.units.find? unitId
  let unit ← expect unit (.notFound "Unit not found.")
  require (unit.buildingId = buildingId) (.notFound "Unit not found.")
  pure unit

/-- The tenants are read when tenants vote in the building. -/
def votingTenants (unitId : ℕ) (allowTenantVoting : Bool) : Call (List ℕ) :=
  if allowTenantVoting then query fun s => VotingRepository.tenantsOf s unitId else pure []

/-- The only tenant, or else the only owner, who is looked for after the tenants. -/
def soleVoter (unitId : ℕ) (tenants : List ℕ) : Call (Option (ℕ × VoteEligibilityType)) :=
  match tenants with
  | [tenant] => pure (some (tenant, .tenant))
  | _ => do
    let owners ← query fun s => VotingRepository.ownersOf s unitId
    pure (VotingRepository.eligibleVoter false [] owners)

/-- Who would vote for the unit now. -/
def findLiveEligibleVoterForUnit (unitId : ℕ) (allowTenantVoting : Bool) :
    Call (Option (ℕ × VoteEligibilityType)) := do
  let tenants ← votingTenants unitId allowTenantVoting
  soleVoter unitId tenants

/-- `grant`, by who votes for the unit. -/
def grant (buildingId unitId proxyPersonId actorPersonId : ℕ) (now : Time) : Call PUnit := do
  let _ ← getOwnUnit buildingId unitId
  let allowTenantVoting ← query fun s => s.allowTenantVoting buildingId
  let eligibleVoter ← findLiveEligibleVoterForUnit unitId allowTenantVoting
  VoteProxyPolicy.assertCallerIsEligibleVoter (eligibleVoter.any fun v => v.1 = actorPersonId)
  VoteProxyPolicy.assertNotSelfProxy actorPersonId proxyPersonId
  let proxyRoles ← query fun s => s.roles proxyPersonId buildingId
  VoteProxyPolicy.assertProxyIsMember (!proxyRoles.isEmpty)
  VoteProxyRepository.grant { unitId, buildingId, granterPersonId := actorPersonId, proxyPersonId }
    now

/-- `revoke`, by who has granted the proxy. -/
def revoke (buildingId unitId actorPersonId : ℕ) (now : Time) : Call PUnit := do
  let _ ← getOwnUnit buildingId unitId
  let current ← query (VoteProxyRepository.findCurrentForUnit unitId)
  let current ← VoteProxyPolicy.assertHasCurrentProxy current
  VoteProxyPolicy.assertCallerIsGranter (current.granterPersonId = actorPersonId)
  VoteProxyRepository.revoke current.id now

end VoteProxyService

end VielHome.Governance
