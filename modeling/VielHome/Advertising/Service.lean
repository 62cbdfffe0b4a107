import VielHome.Advertising.Schema

/-!
# `AdCampaignService`

The staff creates campaigns, edits them and moves them through their lifecycle. Activating a
campaign and editing an active one look for another active campaign with the same slot, the same
building and an overlapping schedule; the write that follows updates the campaign by its id,
whatever has happened since. What the object storage answers about an image is an input of the
call, and removing images from it is left out, as are the audit and what a call returns.
-/

namespace VielHome.Advertising

open Relational
open Relational.ReadCommitted (Logged Prog)
open Relational.ReadCommitted.Prog (expect fail read require send)
open Community (Time)

/-- What a campaign is made from. -/
structure CreateAdCampaignInput where
  name : String
  source : AdCampaignSource
  placement : AdPlacement
  priority : Option ℤ := none
  startsAt : Time
  endsAt : Time
  title : String
  description : Option String := none
  imageUrl : String
  ctaLabel : Option String := none
  ctaUrl : Option String := none
  targetCountry : Option String := none
  targetCity : Option String := none
  buildingId : Option String := none
  adSlotId : String
  deriving DecidableEq

/-- A field that is not sent is kept; one that can be `null` can also be cleared. -/
structure UpdateAdCampaignInput where
  name : Option String := none
  source : Option AdCampaignSource := none
  placement : Option AdPlacement := none
  priority : Option ℤ := none
  startsAt : Option Time := none
  endsAt : Option Time := none
  title : Option String := none
  description : Option (Option String) := none
  imageUrl : Option String := none
  ctaLabel : Option (Option String) := none
  ctaUrl : Option (Option String) := none
  targetCountry : Option (Option String) := none
  targetCity : Option (Option String) := none
  buildingId : Option (Option String) := none
  adSlotId : Option String := none
  deriving DecidableEq

/-- The string, unless it is empty. -/
def truthy (value : Option String) : Option String := value.filter (· ≠ "")

/-! ### The repository -/

namespace AdCampaignRepository

/-- The campaign as it is stored, a draft. -/
def newCampaign (input : CreateAdCampaignInput) (createdById id : ℕ) : AdCampaign where
  id := id
  name := input.name
  source := input.source
  placement := input.placement
  adSlotId := some input.adSlotId
  priority := input.priority.getD 0
  startsAt := input.startsAt
  endsAt := input.endsAt
  title := input.title
  description := input.description
  imageUrl := input.imageUrl
  ctaLabel := input.ctaLabel
  ctaUrl := input.ctaUrl
  targetCountry := input.targetCountry
  targetCity := input.targetCity
  buildingId := truthy input.buildingId
  createdById := some createdById

theorem newCampaign_id (input : CreateAdCampaignInput) (createdById id : ℕ) :
    (newCampaign input createdById id).id = id := rfl

/-- `create`. -/
def create (input : CreateAdCampaignInput) (createdById : ℕ) (s : Store) : Store :=
  { s with
    campaigns := s.campaigns.create (newCampaign input createdById)
      (newCampaign_id input createdById) }

/-- `findUnique` by the id. -/
def findById (id : ℕ) (s : Store) : Option AdCampaign := s.campaigns.find? id

/-- `findSlotById`. -/
def findSlotById (id : String) (s : Store) : Option AdSlot := s.slots.find? fun slot => slot.id = id

/-- The campaign with the values of an edit. -/
def edited (merged : CreateAdCampaignInput) (c : AdCampaign) : AdCampaign :=
  { c with
    name := merged.name
    source := merged.source
    placement := merged.placement
    priority := merged.priority.getD c.priority
    startsAt := merged.startsAt
    endsAt := merged.endsAt
    title := merged.title
    description := merged.description
    imageUrl := merged.imageUrl
    ctaLabel := merged.ctaLabel
    ctaUrl := merged.ctaUrl
    targetCountry := merged.targetCountry
    targetCity := merged.targetCity
    buildingId := truthy merged.buildingId
    adSlotId := some merged.adSlotId }

theorem edited_id (merged : CreateAdCampaignInput) (c : AdCampaign) : (edited merged c).id = c.id :=
  rfl

/-- `update` with all values, by the id alone. -/
def update (id : ℕ) (merged : CreateAdCampaignInput) (s : Store) : Store :=
  { s with campaigns := s.campaigns.modify id (edited merged) (edited_id merged) }

/-- The campaign with another status. -/
def withStatus (status : AdCampaignStatus) (c : AdCampaign) : AdCampaign := { c with status }

theorem withStatus_id (status : AdCampaignStatus) (c : AdCampaign) : (withStatus status c).id = c.id :=
  rfl

/-- `updateStatus`, by the id alone. -/
def updateStatus (id : ℕ) (status : AdCampaignStatus) (s : Store) : Store :=
  { s with campaigns := s.campaigns.modify id (withStatus status) (withStatus_id status) }

/-- Another active campaign with the slot and the building of the campaign, at the same time. -/
def findObviousSlotConflict (campaign : AdCampaign) (s : Store) : Option ℕ :=
  (s.campaigns.rows.find? fun c => c.id ≠ campaign.id ∧ c.adSlotId = campaign.adSlotId ∧
    c.buildingId = campaign.buildingId ∧ c.status = .active ∧ c.startsAt < campaign.endsAt ∧
    campaign.startsAt < c.endsAt).map AdCampaign.id

/-- There is a building with the id. -/
def buildingExists (buildingId : String) (s : Store) : Bool := buildingId ∈ s.buildings

end AdCampaignRepository

/-- A write of a call, with what the call has read before it: the campaign, and the conflict that it
was told of, if it has asked. -/
inductive Write
  | create (input : CreateAdCampaignInput) (createdById : ℕ)
  | updateStatus (campaign : AdCampaign) (conflict : Option ℕ) (status : AdCampaignStatus)
  | update (campaign : AdCampaign) (conflict : Option ℕ) (merged : CreateAdCampaignInput)
  deriving DecidableEq

/-- What a write does to the tables. -/
def Write.apply : Write → Store → Store
  | create input createdById => AdCampaignRepository.create input createdById
  | updateStatus campaign _ status => AdCampaignRepository.updateStatus campaign.id status
  | update campaign _ merged => AdCampaignRepository.update campaign.id merged

/-- A call: reads and writes of the store, one after the other. -/
abbrev Call := Prog (Logged Store Write) Empty Failure

/-! ### The service -/

namespace AdCampaignService

/-- The sources that are known. -/
def SOURCES : List AdCampaignSource := [.direct, .marketplace, .external]

/-- The placements that are known. -/
def PLACEMENTS : List AdPlacement :=
  [.homeServicesCarousel, .homeTodayOffers, .homeContentCarousel, .homeFeaturedLarge,
    .homeInterstitial, .paymentEntryInterstitial]

/-- Where a campaign may go from each status. From `ENDED` nothing leads on. -/
def ALLOWED_TRANSITIONS : AdCampaignStatus → List AdCampaignStatus
  | .draft => [.active, .ended]
  | .active => [.paused, .ended]
  | .paused => [.active, .ended]
  | .ended => []

/-- The zone that a placement asks of its slot. -/
def SLOT_ZONE_BY_PLACEMENT : AdPlacement → Option String
  | .homeTodayOffers => some "N"
  | .homeFeaturedLarge => some "S"
  | _ => none

/-- The placements that fill the screen. -/
def INTERSTITIAL_PLACEMENTS : List AdPlacement := [.homeInterstitial, .paymentEntryInterstitial]

/-! #### Images -/

/-- What comes of reading the first bytes of an image: there may be no storage, and the read may
fail. -/
inductive StorageAnswer
  | unavailable
  | failed
  | bytes (content : List UInt8)
  deriving DecidableEq

/-- The content begins as a JPEG does. -/
def isJpeg (content : List UInt8) : Bool := content.take 3 = [0xff, 0xd8, 0xff]

/-- The content begins as a PNG does. -/
def isPng (content : List UInt8) : Bool :=
  content.take 8 = [0x89, 0x50, 0x4e, 0x47, 0x0d, 0x0a, 0x1a, 0x0a]

/-- `RIFF`, and `WEBP` from the ninth byte on. -/
def isWebp (content : List UInt8) : Bool :=
  content.take 4 = [0x52, 0x49, 0x46, 0x46] ∧ (content.drop 8).take 4 = [0x57, 0x45, 0x42, 0x50]

/-- The image is one that was uploaded here. -/
def isStored (imageUrl : String) : Bool :=
  "advertising/campaigns/".toList.isPrefixOf imageUrl.toList

/-- An image that was uploaded here is read and looked at. -/
def assertValidCampaignImage (imageUrl : String) (storage : StorageAnswer) : Call PUnit :=
  if isStored imageUrl then
    match storage with
    | .unavailable => fail (.validation "Campaign image storage is unavailable.")
    | .failed => fail (.validation "Campaign image could not be validated.")
    | .bytes content =>
      require (isJpeg content ∨ isPng content ∨ isWebp content)
        (.validation "Campaign image content is not a valid JPEG, PNG, or WebP file.")
  else pure ⟨⟩

/-! #### Checks of a campaign -/

/-- A placement that fills the screen, and any other one, in a slot of its kind. -/
def assertInterstitial (input : CreateAdCampaignInput) (slot : AdSlot) : Call PUnit :=
  if input.placement ∈ INTERSTITIAL_PLACEMENTS then do
    require (slot.presentationFormat = .fullScreen)
      (.validation "Interstitial campaigns require a FULL_SCREEN slot.")
    require (input.source = .direct)
      (.validation "FULL_SCREEN slots accept DIRECT campaigns only.")
  else pure ⟨⟩

/-- The building that a campaign is for is there, when one is named. -/
def assertBuilding (buildingId : Option String) : Call PUnit :=
  match truthy buildingId with
  | none => pure ⟨⟩
  | some buildingId => do
    let building ← read (AdCampaignRepository.buildingExists buildingId)
    require (building = true) (.notFound "Targeted building not found.")

/-- The checks of a campaign, in their order. -/
def assertValidCampaignInput (input : CreateAdCampaignInput) : Call PUnit := do
  require (input.source ∈ SOURCES)
    (.validation s!"Unknown campaign source: {input.source.name}.")
  require (input.placement ∈ PLACEMENTS)
    (.validation s!"Unknown campaign placement: {input.placement.name}.")
  require (input.startsAt < input.endsAt) (.validation "endsAt must be after startsAt.")
  require (∀ priority ∈ input.priority, 0 ≤ priority)
    (.validation "priority must not be negative.")
  let found ← read (AdCampaignRepository.findSlotById input.adSlotId)
  let slot ← expect found (.validation "Unknown advertising slot.")
  require (slot.isActive = true) (.businessRuleViolation "Advertising slot is inactive.")
  assertInterstitial input slot
  require (slot.placement = input.placement)
    (.validation "Advertising slot is not compatible with campaign placement.")
  require (∀ zone ∈ SLOT_ZONE_BY_PLACEMENT input.placement, slot.page = "HOME" ∧ slot.zone = zone)
    (.validation "Advertising slot is not compatible with campaign placement.")
  assertBuilding input.buildingId

/-! #### Calls -/

/-- The campaign, or `404`. -/
def getCampaign (id : ℕ) : Call AdCampaign := do
  let campaign ← read (AdCampaignRepository.findById id)
  expect campaign (.notFound "Campaign not found.")

/-- `createCampaign`: the checks, and then the row. -/
def createCampaign (input : CreateAdCampaignInput) (actorId : ℕ) (storage : StorageAnswer) :
    Call PUnit := do
  assertValidCampaignInput input
  assertValidCampaignImage input.imageUrl storage
  send Write.apply (.create input actorId)

/-- What the call is told of a conflict: it asks only when the campaign is to be active. -/
def findConflict (status : AdCampaignStatus) (campaign : AdCampaign) : Call (Option ℕ) :=
  if status = .active then read (AdCampaignRepository.findObviousSlotConflict campaign)
  else pure none

/-- No other active campaign was found. -/
def assertNoConflict (conflict : Option ℕ) : Call PUnit :=
  require (conflict = none) (.businessRuleViolation
    "Another active campaign targets this slot, building scope, and overlapping schedule.")

/-- `transitionStatus`: the checks of the status that was read, and then the update. -/
def transitionStatus (id : ℕ) (targetStatus : AdCampaignStatus) : Call PUnit := do
  let campaign ← getCampaign id
  require (targetStatus ∈ ALLOWED_TRANSITIONS campaign.status) (.businessRuleViolation
    s!"Cannot transition campaign from {campaign.status.name} to {targetStatus.name}.")
  require (targetStatus = .active → (truthy campaign.adSlotId).isSome)
    (.validation "Campaign must reference an ad slot.")
  let conflict ← findConflict targetStatus campaign
  assertNoConflict conflict
  send Write.apply (.updateStatus campaign conflict targetStatus)

/-- The campaign as an update wants it. -/
def merge (input : UpdateAdCampaignInput) (current : AdCampaign) : CreateAdCampaignInput where
  name := input.name.getD current.name
  source := input.source.getD current.source
  placement := input.placement.getD current.placement
  priority := some (input.priority.getD current.priority)
  startsAt := input.startsAt.getD current.startsAt
  endsAt := input.endsAt.getD current.endsAt
  title := input.title.getD current.title
  description := input.description.getD current.description
  imageUrl := input.imageUrl.getD current.imageUrl
  ctaLabel := input.ctaLabel.getD current.ctaLabel
  ctaUrl := input.ctaUrl.getD current.ctaUrl
  targetCountry := input.targetCountry.getD current.targetCountry
  targetCity := input.targetCity.getD current.targetCity
  buildingId := input.buildingId.getD current.buildingId
  adSlotId := (input.adSlotId.or current.adSlotId).getD ""

/-- What an edit of an active campaign looks for a conflict with. -/
def moved (merged : CreateAdCampaignInput) (current : AdCampaign) : AdCampaign :=
  { current with
    adSlotId := some merged.adSlotId
    buildingId := merged.buildingId
    startsAt := merged.startsAt
    endsAt := merged.endsAt }

/-- An image is looked at when it is another one. -/
def assertReplacedImage (imageUrl : Option String) (current : AdCampaign)
    (storage : StorageAnswer) : Call PUnit :=
  match imageUrl with
  | none => pure ⟨⟩
  | some imageUrl =>
    if imageUrl ≠ current.imageUrl then assertValidCampaignImage imageUrl storage else pure ⟨⟩

/-- `updateCampaign`: the checks of the merged values, and then the update. -/
def updateCampaign (id : ℕ) (input : UpdateAdCampaignInput) (storage : StorageAnswer) :
    Call PUnit := do
  let current ← getCampaign id
  let merged := merge input current
  assertValidCampaignInput merged
  assertReplacedImage input.imageUrl current storage
  let conflict ← findConflict current.status (moved merged current)
  assertNoConflict conflict
  send Write.apply (.update current conflict merged)

end AdCampaignService

/-- The calls on campaigns. -/
inductive CampaignCall
  | create (input : CreateAdCampaignInput) (actorId : ℕ)
      (storage : AdCampaignService.StorageAnswer)
  | transitionStatus (id : ℕ) (targetStatus : AdCampaignStatus)
  | update (id : ℕ) (input : UpdateAdCampaignInput) (storage : AdCampaignService.StorageAnswer)

/-- The method of the service that the call is made to. -/
def CampaignCall.call : CampaignCall → Call PUnit
  | create input actorId storage => AdCampaignService.createCampaign input actorId storage
  | transitionStatus id targetStatus => AdCampaignService.transitionStatus id targetStatus
  | update id input storage => AdCampaignService.updateCampaign id input storage

end VielHome.Advertising
