import VielHome.Relational.OrderBy
import VielHome.Building.Repository
import VielHome.Governance.Policies

/-!
# `VotingRepository` and `VoteProxyRepository`

The statements of the two repositories. The status of a vote is moved by an `updateMany` that the
row has to match, once when the statement starts and once when the row is free. A ballot is inserted
after a read of the vote's status that locks nothing; the lock `tally` names what it would have had
to lock. The replacement of a proxy runs at `Serializable` and is retried, so it is one statement
here. The id of an option is a row id, and `VotePolicy` sees it as it is written.
-/

namespace VielHome.Governance

open Relational Community
open Relational.ReadCommitted.Prog (query queryUnder write writeIf writeUnless require expect
  transaction)

/-! ### Selections -/

section Selections

variable (s : Store)

/-- The options of a vote. -/
def optionsOf (voteId : ℕ) : List VoteOption :=
  s.voteOptions.rows.filter fun o => o.voteId = voteId

/-- Who may vote, for each unit in the scope of a vote. -/
def snapshotsOf (voteId : ℕ) : List VoteEligibilitySnapshot :=
  s.snapshots.rows.filter fun e => e.voteId = voteId

/-- The ballots of a vote. -/
def ballotsOf (voteId : ℕ) : List Community.Ballot :=
  s.ballots.rows.filter fun b => b.voteId = voteId

/-- The results of a vote: none, or one. -/
def resultsOf (voteId : ℕ) : List Community.VoteResult :=
  s.voteResults.rows.filter fun r => r.voteId = voteId

end Selections

/-- A vote with its options. -/
structure VoteDetail where
  vote : Vote
  options : List VoteOption
  deriving DecidableEq

/-! ### The columns of a result -/

/-- An id as it is written. -/
def optionId (id : ℕ) : OptionId where
  value := toString id
  nonempty h := by
    have hlength : (Nat.toDigits 10 id).length = 0 := by
      have hdigits : String.ofList (Nat.toDigits 10 id) = "" := h
      rw [String.ofList_eq_empty_iff.mp hdigits]
      rfl
    exact absurd hlength (by simp)

/-- The status as it is stored. -/
def VoteResultStatus.column : VoteResultStatus → Community.VoteResultStatus
  | passed => .passed
  | notPassed => .notPassed
  | quorumNotMet => .quorumNotMet

/-- The option of a ballot with this id. -/
def rowId (ballots : List Community.Ballot) (o : OptionId) : Option ℕ :=
  (ballots.map Community.Ballot.selectedOptionId).find? fun id => optionId id = o

/-- What a result says, without its own id. -/
structure ResultParams where
  voteId : ℕ
  totalEligibleCount : ℕ
  totalBallotCount : ℕ
  quorumMet : Bool
  winningOptionId : Option ℕ
  resultStatus : Community.VoteResultStatus
  deriving DecidableEq

/-- The result as it is stored. -/
def ResultParams.row (params : ResultParams) (now : Time) (id : ℕ) : Community.VoteResult where
  id := id
  voteId := params.voteId
  totalEligibleCount := params.totalEligibleCount
  totalBallotCount := params.totalBallotCount
  quorumMet := params.quorumMet
  winningOptionId := params.winningOptionId
  resultStatus := params.resultStatus
  publishedAt := some now

/-- The result has the id that it is given. -/
theorem ResultParams.row_id (params : ResultParams) (now : Time) (id : ℕ) :
    (params.row now id).id = id := rfl

/-- The result of these ballots, each with the value of its option. -/
def computedResult (voteId : ℕ) (quorumPercent : Option ℤ) (totalEligibleCount : ℕ)
    (optionValue : ℕ → String) (ballots : List Community.Ballot) : ResultParams :=
  let computed := VotePolicy.calculateResult quorumPercent totalEligibleCount
    (ballots.map fun b =>
      { selectedOptionId := optionId b.selectedOptionId
        optionValue := optionValue b.selectedOptionId })
  { voteId
    totalEligibleCount := computed.totalEligibleCount
    totalBallotCount := computed.totalBallotCount
    quorumMet := computed.quorumMet
    winningOptionId := computed.winningOptionId.bind (rowId ballots)
    resultStatus := computed.resultStatus.column }

/-! ### `VotingRepository` -/

namespace VotingRepository

/-- What an option is made from. -/
structure OptionParams where
  label : String
  value : String
  sortOrder : ℕ

/-- What a vote is made from, with its options. -/
structure CreateVoteParams where
  buildingId : ℕ
  title : String
  isManagerElection : Bool
  quorumPercent : Option ℤ
  startAt : Time
  endAt : Time
  createdById : ℕ
  scopeType : VoteScopeType
  scopeBlockId : Option ℕ
  scopeUnitType : Option UnitType
  scopeUnitIds : List ℕ
  options : List OptionParams

/-- The vote as it is stored, a draft. -/
def CreateVoteParams.row (params : CreateVoteParams) (id : ℕ) : Vote where
  id := id
  buildingId := params.buildingId
  title := params.title
  isManagerElection := params.isManagerElection
  quorumPercent := params.quorumPercent
  startAt := params.startAt
  endAt := params.endAt
  createdById := params.createdById
  scopeType := params.scopeType
  scopeBlockId := params.scopeBlockId
  scopeUnitType := params.scopeUnitType
  scopeUnitIds := params.scopeUnitIds

/-- The vote has the id that it is given. -/
theorem CreateVoteParams.row_id (params : CreateVoteParams) (id : ℕ) : (params.row id).id = id := rfl

/-- An option of the vote, as it is stored. -/
def OptionParams.row (voteId : ℕ) (params : OptionParams) (id : ℕ) : VoteOption where
  id := id
  voteId := voteId
  label := params.label
  value := params.value
  sortOrder := params.sortOrder

/-- The option has the id that it is given. -/
theorem OptionParams.row_id (voteId : ℕ) (params : OptionParams) (id : ℕ) :
    (params.row voteId id).id = id := rfl

/-- The vote, and its options under the id of the vote. -/
def created (params : CreateVoteParams) (s : Store) : Store :=
  (s.onVotes (·.create params.row params.row_id)).onVoteOptions
    (·.createMany params.options (OptionParams.row s.votes.next) (OptionParams.row_id s.votes.next))

/-- `createVote`: the vote and its options. The foreign keys are checked. -/
def createVote (params : CreateVoteParams) : Call PUnit := transaction do
  writeUnless []
    (unlessReferences fun s =>
      (s.buildings.find? params.buildingId).isSome && (s.persons.find? params.createdById).isSome &&
        params.scopeBlockId.all fun blockId => (s.blocks.find? blockId).isSome)
    (created params)

/-- `findVoteById`: the vote with its options in their order. -/
def findVoteById (id : ℕ) (s : Store) : Option VoteDetail :=
  (s.votes.find? id).map fun vote =>
    { vote
      options := (optionsOf s id).insertionSort fun o o' => o.sortOrder ≤ o'.sortOrder }

/-- An `updateMany` of one vote in an expected status. The update waits for everybody who has
locked what the status says about the ballots, if anybody does. -/
def moveVote (id : ℕ) (expectedStatus : VoteStatus) (error : Failure) (f : Vote → Vote)
    (h : ∀ v, (f v).id = v.id) : Call PUnit := do
  let found ← query fun s => (s.votes.find? id).any fun v => v.status = expectedStatus
  require (found = true) error
  writeIf [(.row .vote id, .exclusive), (.tally id, .exclusive)]
    (fun s => (s.votes.find? id).any fun v => v.status = expectedStatus) error
    (Store.onVotes (·.modify id f h))

/-- The vote is open from now on. -/
def published (now : Time) (v : Vote) : Vote :=
  { v with status := .active, publishedAt := some now }

/-- Opening a vote keeps its id. -/
theorem published_id (now : Time) (v : Vote) : (published now v).id = v.id := rfl

/-- The units of a vote, as its scope narrows them. -/
def inScope (vote : Vote) (unit : BuildingUnit) : Bool :=
  match vote.scopeType with
  | .entireBuilding => true
  | .block => vote.scopeBlockId.all fun blockId => unit.blockId = some blockId
  | .propertyType => vote.scopeUnitType.all fun unitType => unit.type = unitType
  | .selectedUnits => vote.scopeUnitIds.isEmpty || unit.id ∈ vote.scopeUnitIds

/-- Who votes for a unit: its only tenant if tenants vote in the building, or else its only
owner. -/
def eligibleVoter (allowTenantVoting : Bool) (tenants owners : List ℕ) :
    Option (ℕ × VoteEligibilityType) :=
  match allowTenantVoting, tenants, owners with
  | true, [tenant], _ => some (tenant, .tenant)
  | _, _, [owner] => some (owner, .owner)
  | _, _, _ => none

/-- A unit with the person who votes for it. -/
structure EligibleUnit where
  unitId : ℕ
  eligiblePersonId : ℕ
  eligibilityType : VoteEligibilityType
  deriving DecidableEq

/-- The line of the snapshot for a unit. -/
def EligibleUnit.row (voteId : ℕ) (e : EligibleUnit) (id : ℕ) : VoteEligibilitySnapshot where
  id := id
  voteId := voteId
  unitId := e.unitId
  eligiblePersonId := e.eligiblePersonId
  eligibilityType := e.eligibilityType

/-- The line has the id that it is given. -/
theorem EligibleUnit.row_id (voteId : ℕ) (e : EligibleUnit) (id : ℕ) : (e.row voteId id).id = id :=
  rfl

/-- The units of the building that the vote is about. -/
def unitsInScope (vote : Vote) (buildingId : ℕ) (s : Store) : List BuildingUnit :=
  s.units.rows.filter fun u => u.buildingId = buildingId && inScope vote u

/-- The current owners of a unit. -/
def ownersOf (s : Store) (unitId : ℕ) : List ℕ := (s.ownershipsOf unitId).map Ownership.personId

/-- The current tenants of a unit. -/
def tenantsOf (s : Store) (unitId : ℕ) : List ℕ := (s.tenanciesOf unitId).map Tenancy.personId

/-- The units that have somebody to vote for them. -/
def electorate (allowTenantVoting : Bool) (owners tenants : ℕ → List ℕ)
    (units : List BuildingUnit) : List EligibleUnit :=
  units.filterMap fun u =>
    (eligibleVoter allowTenantVoting (tenants u.id) (owners u.id)).map fun voter =>
      { unitId := u.id, eligiblePersonId := voter.1, eligibilityType := voter.2 }

/-- `createMany` of the snapshot. -/
def createSnapshots (voteId : ℕ) (eligible : List EligibleUnit) : Store → Store :=
  Store.onSnapshots (·.createMany eligible (EligibleUnit.row voteId) (EligibleUnit.row_id voteId))

/-- `publishVote`: the draft is opened by a compare-and-set, and who may vote is written down. -/
def publishVote (voteId buildingId : ℕ) (allowTenantVoting : Bool) (now : Time) : Call PUnit :=
  transaction do
    moveVote voteId .draft
      (.conflict
        "This vote is no longer DRAFT (it may have just been published or cancelled). Reload and retry.")
      (published now) (published_id now)
    let vote ← query fun s => s.votes.find? voteId
    let vote ← expect vote .recordNotFound
    let units ← query (unitsInScope vote buildingId)
    let owners ← query ownersOf
    let tenants ← query tenantsOf
    let eligible := electorate allowTenantVoting owners tenants units
    writeUnless (eligible.map fun e => (.snapshotKey voteId e.unitId, .exclusive))
      (fun s => if eligible.any fun e => (snapshotsOf s voteId).any fun e' => e'.unitId = e.unitId
        then some .uniqueConstraint else none)
      (createSnapshots voteId eligible)

/-- `findEligibilitySnapshotForUnit`. -/
def findEligibilitySnapshotForUnit (voteId unitId : ℕ) (s : Store) :
    Option VoteEligibilitySnapshot :=
  (snapshotsOf s voteId).find? fun e => e.unitId = unitId

/-- `findBallotForUnit`: the ballot that a unit has cast. -/
def findBallotForUnit (voteId unitId : ℕ) (s : Store) : Option Community.Ballot :=
  (ballotsOf s voteId).find? fun b => b.unitId = unitId

/-- What a ballot is made from. -/
structure BallotParams where
  voteId : ℕ
  unitId : ℕ
  voterPersonId : ℕ
  selectedOptionId : ℕ
  deriving DecidableEq

/-- The ballot as it is stored. -/
def BallotParams.row (params : BallotParams) (id : ℕ) : Community.Ballot where
  id := id
  voteId := params.voteId
  unitId := params.unitId
  voterPersonId := params.voterPersonId
  selectedOptionId := params.selectedOptionId

/-- The ballot has the id that it is given. -/
theorem BallotParams.row_id (params : BallotParams) (id : ℕ) : (params.row id).id = id := rfl

/-- The error of the database, if it refuses the row. -/
def BallotParams.refused (params : BallotParams) (s : Store) : Option Failure :=
  if (findBallotForUnit params.voteId params.unitId s).isSome then some .uniqueConstraint
  else unlessReferences (fun s =>
    (s.votes.find? params.voteId).isSome && (s.units.find? params.unitId).isSome &&
      (s.persons.find? params.voterPersonId).isSome &&
        (s.voteOptions.find? params.selectedOptionId).isSome) s

/-- The status is read again, in the transaction of the insertion, and not locked. -/
def createBallot (params : BallotParams) (now : Time) : Call PUnit := transaction do
  let vote ← queryUnder (fun _ => [(.tally params.voteId, .shared)]) fun s =>
    s.votes.find? params.voteId
  let vote ← expect vote (.businessRuleViolation "This vote is not currently open for ballots.")
  require (vote.status = .active ∧ ¬ vote.endAt < now)
    (.businessRuleViolation "This vote is not currently open for ballots.")
  writeUnless [(.ballotKey params.voteId params.unitId, .exclusive)] params.refused
    (Store.onBallots (·.create params.row params.row_id))

/-- The vote is closed from now on. -/
def closed (now : Time) (v : Vote) : Vote := { v with status := .closed, closedAt := some now }

/-- Closing a vote keeps its id. -/
theorem closed_id (now : Time) (v : Vote) : (closed now v).id = v.id := rfl

/-- The value of an option, as a ballot is read together with it. -/
def optionValue (s : Store) (id : ℕ) : String := (s.voteOptions.find? id).elim "" VoteOption.value

/-- `create` of the result. -/
def createResult (params : ResultParams) (now : Time) : Store → Store :=
  Store.onVoteResults (·.create (params.row now) (params.row_id now))

/-- The snapshots and the ballots are read after the status has moved, each by a statement. -/
def closeVote (voteId : ℕ) (quorumPercent : Option ℤ) (now : Time) : Call ResultParams :=
  transaction do
    moveVote voteId .active
      (.conflict
        "This vote is no longer ACTIVE (it may have just been closed or cancelled). Reload and retry.")
      (closed now) (closed_id now)
    let snapshots ← query fun s => snapshotsOf s voteId
    let computed ← query fun s =>
      computedResult voteId quorumPercent snapshots.length (optionValue s) (ballotsOf s voteId)
    let vote ← query fun s => s.votes.find? voteId
    let _ ← expect vote .recordNotFound
    writeUnless [(.resultKey voteId, .exclusive)]
      (fun s => if resultsOf s voteId = [] then none else some .uniqueConstraint)
      (createResult computed now)
    pure computed

/-- The vote is called off. Without a reason the column stays as it is. -/
def cancelled (now : Time) (reason : Option String) (v : Vote) : Vote :=
  { v with status := .cancelled, cancelledAt := some now, cancelReason := reason.or v.cancelReason }

/-- Calling a vote off keeps its id. -/
theorem cancelled_id (now : Time) (reason : Option String) (v : Vote) :
    (cancelled now reason v).id = v.id := rfl

/-- The updated row is read back by another statement. -/
def cancelVote (id : ℕ) (expectedStatus : VoteStatus) (reason : Option String) (now : Time) :
    Call PUnit := do
  transaction (moveVote id expectedStatus
    (.conflict
      "This vote is no longer in the expected state (it may have just been closed or cancelled). Reload and retry.")
    (cancelled now reason) (cancelled_id now reason))
  let vote ← query fun s => s.votes.find? id
  let _ ← expect vote .recordNotFound

/-- `findVotesDueForAutoPublish`: the drafts whose time has come. -/
def findVotesDueForAutoPublish (now : Time) (s : Store) : List Vote :=
  s.votes.rows.filter fun v => v.status = .draft ∧ v.startAt ≤ now

/-- `findVotesDueForAutoClose`: the open votes whose time is over. -/
def findVotesDueForAutoClose (now : Time) (s : Store) : List Vote :=
  s.votes.rows.filter fun v => v.status = .active ∧ v.endAt ≤ now

end VotingRepository

/-! ### `VoteProxyRepository` -/

namespace VoteProxyRepository

/-- `findCurrentForUnit`: the proxy of a unit that has not been revoked. -/
def findCurrentForUnit (unitId : ℕ) (s : Store) : Option VoteProxy :=
  s.voteProxies.rows.find? fun p => p.unitId = unitId ∧ p.isCurrent = true

/-- What a proxy is made from. -/
structure GrantParams where
  unitId : ℕ
  buildingId : ℕ
  granterPersonId : ℕ
  proxyPersonId : ℕ
  deriving DecidableEq

/-- The proxy counts no longer. -/
def revoked (now : Time) (p : VoteProxy) : VoteProxy :=
  { p with isCurrent := false, revokedAt := some now }

/-- Revoking a proxy keeps its id. -/
theorem revoked_id (now : Time) (p : VoteProxy) : (revoked now p).id = p.id := rfl

/-- The proxy as it is stored, current. -/
def GrantParams.row (params : GrantParams) (now : Time) (id : ℕ) : VoteProxy where
  id := id
  unitId := params.unitId
  buildingId := params.buildingId
  granterPersonId := params.granterPersonId
  proxyPersonId := params.proxyPersonId
  grantedAt := now

/-- The proxy has the id that it is given. -/
theorem GrantParams.row_id (params : GrantParams) (now : Time) (id : ℕ) :
    (params.row now id).id = id := rfl

/-- The current proxy of the unit ends, and another one begins. -/
def granted (params : GrantParams) (now : Time) (s : Store) : Store :=
  (s.onVoteProxies (·.updateMany (fun p => p.unitId = params.unitId ∧ p.isCurrent = true)
    (revoked now) (revoked_id now))).onVoteProxies (·.create (params.row now) (params.row_id now))

/-- `grant`: the current proxies of the unit are revoked, and the new one is inserted. -/
def grant (params : GrantParams) (now : Time) : Call PUnit := transaction do
  writeUnless []
    (unlessReferences fun s =>
      (s.units.find? params.unitId).isSome && (s.buildings.find? params.buildingId).isSome &&
        (s.persons.find? params.granterPersonId).isSome &&
          (s.persons.find? params.proxyPersonId).isSome)
    (granted params now)

/-- `revoke`: an update by the id. -/
def revoke (id : ℕ) (now : Time) : Call PUnit := transaction do
  writeIf [(.row .voteProxy id, .exclusive)] (fun s => (s.voteProxies.find? id).isSome)
    .recordNotFound (Store.onVoteProxies (·.modify id (revoked now) (revoked_id now)))

/-- Whether somebody is a proxy of the granter, for whichever unit. -/
def isCurrentProxyFor (granterPersonId proxyPersonId : ℕ) (s : Store) : Bool :=
  s.voteProxies.rows.any fun p =>
    p.granterPersonId = granterPersonId ∧ p.proxyPersonId = proxyPersonId ∧ p.isCurrent = true

end VoteProxyRepository

end VielHome.Governance
