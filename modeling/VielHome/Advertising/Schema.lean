import VielHome.Common.AppError
import VielHome.Community.Schema
import VielHome.Relational.Optimistic

/-!
# The advertising campaigns

A campaign runs in one advertising slot, for one building or for all of them, between two dates.
The ids of slots and buildings are strings, since an update tells an empty id from none. Columns
that no modelled operation reads or writes are left out.
-/

namespace VielHome.Advertising

open Relational
open Community (Time)

/-- Whose campaign it is. -/
inductive AdCampaignSource
  | direct
  | marketplace
  | external
  deriving DecidableEq

/-- The source as it stands in a text. -/
def AdCampaignSource.name : AdCampaignSource → String
  | direct => "DIRECT"
  | marketplace => "MARKETPLACE"
  | external => "EXTERNAL"

/-- How far a campaign has come. -/
inductive AdCampaignStatus
  | draft
  | active
  | paused
  | ended
  deriving DecidableEq

/-- The name of a status, as the messages have it. -/
def AdCampaignStatus.name : AdCampaignStatus → String
  | draft => "DRAFT"
  | active => "ACTIVE"
  | paused => "PAUSED"
  | ended => "ENDED"

/-- Where a campaign is shown. -/
inductive AdPlacement
  | homeServicesCarousel
  | homeTodayOffers
  | homeContentCarousel
  | homeFeaturedLarge
  | homeInterstitial
  | paymentEntryInterstitial
  deriving DecidableEq

/-- The placement as it stands in a text. -/
def AdPlacement.name : AdPlacement → String
  | homeServicesCarousel => "HOME_SERVICES_CAROUSEL"
  | homeTodayOffers => "HOME_TODAY_OFFERS"
  | homeContentCarousel => "HOME_CONTENT_CAROUSEL"
  | homeFeaturedLarge => "HOME_FEATURED_LARGE"
  | homeInterstitial => "HOME_INTERSTITIAL"
  | paymentEntryInterstitial => "PAYMENT_ENTRY_INTERSTITIAL"

/-- Whether a slot fills the screen. -/
inductive AdPresentationFormat
  | inline
  | fullScreen
  deriving DecidableEq

/-- What a slot is filled with. -/
inductive AdSlotFillStrategy
  | directOnly
  | externalOnly
  | directThenExternal
  deriving DecidableEq

/-- Who fills a slot from outside. -/
inductive AdExternalProvider
  | none
  | admob
  deriving DecidableEq

/-- A place for campaigns. -/
structure AdSlot where
  id : String
  code : String
  page : String
  zone : String
  position : ℤ
  placement : AdPlacement
  presentationFormat : AdPresentationFormat := .inline
  minimumDisplaySeconds : Option ℤ := none
  skippable : Option Bool := none
  maxPerSession : Option ℤ := none
  fillStrategy : AdSlotFillStrategy := .directOnly
  externalProvider : AdExternalProvider := .none
  androidAdUnitId : Option String := none
  iosAdUnitId : Option String := none
  isActive : Bool := true
  deriving DecidableEq

/-- A campaign. -/
structure AdCampaign where
  id : ℕ
  name : String
  status : AdCampaignStatus := .draft
  source : AdCampaignSource
  placement : AdPlacement
  adSlotId : Option String
  priority : ℤ := 0
  startsAt : Time
  endsAt : Time
  title : String
  description : Option String := none
  imageUrl : String
  ctaLabel : Option String := none
  ctaUrl : Option String := none
  targetCountry : Option String := none
  targetCity : Option String := none
  buildingId : Option String := none
  createdById : Option ℕ := none
  deriving DecidableEq

/-- The tables. The calls on campaigns leave slots and buildings as they are. -/
structure Store where
  slots : List AdSlot
  buildings : List String
  campaigns : Table AdCampaign AdCampaign.id

end VielHome.Advertising
