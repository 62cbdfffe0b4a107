import VielHome.Advertising.Service
import VielHome.Relational.OrderBy

/-!
# The delivery of campaigns

`getPlacementInventory` answers which campaigns a building is shown in a placement, and, for a
placement with a zone, which one each active slot of the zone shows. One query reads the candidates
of all slots, in the order of the slots and at most `MAX_PLACEMENT_ITEMS` of them, so the slots in
front can leave a slot without the campaign that it has.
-/

namespace VielHome.Advertising

open Relational
open Community (Time)

/-- The store, with the columns that only the delivery reads: when a campaign was created, and where
a building is. -/
structure Delivery extends Store where
  createdAt : ℕ → Time
  country : String → String
  city : String → String

/-- A campaign, read with its slot. -/
structure AdCampaignWithSlot where
  campaign : AdCampaign
  adSlot : AdSlot
  deriving DecidableEq

/-- Where and when a campaign is to be shown. -/
structure EligibilityContext where
  now : Time
  placement : AdPlacement
  country : Option String
  city : Option String
  buildingId : Option String

/-- A campaign as it is shown. -/
structure PlacementInventoryItem where
  id : ℕ
  source : AdCampaignSource
  title : String
  description : Option String
  imageUrl : String
  ctaLabel : Option String
  ctaUrl : Option String
  slot : AdSlot
  deriving DecidableEq

/-- A slot with what is shown in it. -/
structure SlotInventory where
  slot : AdSlot
  campaign : Option PlacementInventoryItem

/-- What there is to show for a placement. -/
structure PlacementInventoryResponse where
  placement : AdPlacement
  items : List PlacementInventoryItem
  slots : List SlotInventory

/-! ### The repository -/

namespace AdCampaignRepository

/-- What campaigns are looked for. -/
structure EligibleCampaignQuery where
  placement : AdPlacement
  now : Time
  buildingId : String
  country : String
  city : String
  limit : ℕ

/-- The rows that the query selects. -/
def EligibleCampaignQuery.Selects (query : EligibleCampaignQuery) (c : AdCampaign) : Prop :=
  c.placement = query.placement ∧ c.adSlotId ≠ none ∧ c.status = .active ∧
  c.startsAt ≤ query.now ∧ query.now ≤ c.endsAt ∧
  (c.targetCountry = none ∨ c.targetCountry = some query.country) ∧
  (c.targetCity = none ∨ c.targetCity = some query.city) ∧
  (c.buildingId = none ∨ c.buildingId = some query.buildingId)

instance (query : EligibleCampaignQuery) : DecidablePred query.Selects := fun c => by
  unfold EligibleCampaignQuery.Selects
  infer_instance

/-- `orderBy`: the position and the code of the slot, and then the age of the campaign. -/
def eligibleOrder (createdAt : ℕ → Time) : AdCampaignWithSlot → AdCampaignWithSlot → Prop :=
  ThenBy (fun a b => a.adSlot.position ≤ b.adSlot.position)
    (ThenBy (fun a b => a.adSlot.code ≤ b.adSlot.code)
      (ThenBy (fun a b => createdAt a.campaign.id ≤ createdAt b.campaign.id)
        fun a b => a.campaign.id ≤ b.campaign.id))

instance (createdAt : ℕ → Time) : DecidableRel (eligibleOrder createdAt) := by
  unfold eligibleOrder
  infer_instance

/-- `include: { adSlot: true }`. -/
def withAdSlot (s : Store) (c : AdCampaign) : Option AdCampaignWithSlot :=
  (c.adSlotId.bind fun id => findSlotById id s).map fun adSlot => ⟨c, adSlot⟩

/-- All rows that the query selects, in no order. -/
def selected (d : Delivery) (query : EligibleCampaignQuery) : List AdCampaignWithSlot :=
  (d.campaigns.rows.filter query.Selects).filterMap (withAdSlot d.toStore)

/-- `findEligibleForPlacement`: the first of those that are selected, in their order. -/
def findEligibleForPlacement (d : Delivery) (query : EligibleCampaignQuery) :
    List AdCampaignWithSlot :=
  ((selected d query).insertionSort (eligibleOrder d.createdAt)).take query.limit

/-- By the position, and then by the code. -/
def slotOrder : AdSlot → AdSlot → Prop :=
  ThenBy (fun a b => a.position ≤ b.position) fun a b => a.code ≤ b.code

instance : DecidableRel slotOrder := by
  unfold slotOrder
  infer_instance

/-- `findActiveSlots`: the active slots of a zone, in their order. -/
def findActiveSlots (page zone : String) (s : Store) : List AdSlot :=
  (s.slots.filter fun slot => slot.page = page ∧ slot.zone = zone ∧ slot.isActive).insertionSort
    slotOrder

/-- The country and the city of a building. -/
def findBuildingGeography (d : Delivery) (buildingId : String) : Option (String × String) :=
  if buildingExists buildingId d.toStore then some (d.country buildingId, d.city buildingId)
  else none

end AdCampaignRepository

/-! ### The service -/

namespace AdCampaignService

/-- How many campaigns are looked at. -/
def MAX_PLACEMENT_ITEMS : ℕ := 10

/-- A target that is set, if only to the empty string, restricts a campaign in the query; an empty
one does not here. -/
def isEligibleNow (campaign : AdCampaign) (ctx : EligibilityContext) : Bool :=
  campaign.status = .active ∧ campaign.placement = ctx.placement ∧
  campaign.startsAt ≤ ctx.now ∧ ctx.now ≤ campaign.endsAt ∧
  (∀ country ∈ truthy campaign.targetCountry, some country = ctx.country) ∧
  (∀ city ∈ truthy campaign.targetCity, some city = ctx.city) ∧
  ∀ buildingId ∈ truthy campaign.buildingId, some buildingId = ctx.buildingId

/-- One item; `resolveCampaignImageUrl` is what the storage makes of a key. -/
def inventoryItem (resolveCampaignImageUrl : String → String) (c : AdCampaignWithSlot) :
    PlacementInventoryItem where
  id := c.campaign.id
  source := c.campaign.source
  title := c.campaign.title
  description := c.campaign.description
  imageUrl := resolveCampaignImageUrl c.campaign.imageUrl
  ctaLabel := c.campaign.ctaLabel
  ctaUrl := c.campaign.ctaUrl
  slot := c.adSlot

/-- `new Map(items.map((item) => [item.slot.id, item])).get(slotId)`: the last item of the slot. -/
def campaignBySlot (items : List PlacementInventoryItem) (slotId : String) :
    Option PlacementInventoryItem :=
  items.reverse.find? fun item => item.slot.id = slotId

/-- The query of `getPlacementInventory`. -/
def eligibleQuery (d : Delivery) (buildingId : String) (placement : AdPlacement) (now : Time) :
    AdCampaignRepository.EligibleCampaignQuery where
  placement := placement
  now := now
  buildingId := buildingId
  country := d.country buildingId
  city := d.city buildingId
  limit := MAX_PLACEMENT_ITEMS

/-- The context of a request, from the building that it is for. -/
def eligibilityContext (d : Delivery) (buildingId : String) (placement : AdPlacement)
    (now : Time) : EligibilityContext where
  now := now
  placement := placement
  country := some (d.country buildingId)
  city := some (d.city buildingId)
  buildingId := some buildingId

/-- The campaigns that are shown, as they are shown. -/
def inventoryItems (resolveCampaignImageUrl : String → String) (d : Delivery) (buildingId : String)
    (placement : AdPlacement) (now : Time) : List PlacementInventoryItem :=
  ((AdCampaignRepository.findEligibleForPlacement d
      (eligibleQuery d buildingId placement now)).filter fun c =>
    isEligibleNow c.campaign (eligibilityContext d buildingId placement now)).map
      (inventoryItem resolveCampaignImageUrl)

/-- `getPlacementInventory`: the campaigns of a placement, and its slots. -/
def getPlacementInventory (resolveCampaignImageUrl : String → String) (d : Delivery)
    (buildingId : String) (placement : AdPlacement) (now : Time) :
    Except Failure PlacementInventoryResponse :=
  match AdCampaignRepository.findBuildingGeography d buildingId with
  | none => .error (.notFound "Building not found.")
  | some _ =>
    let items := inventoryItems resolveCampaignImageUrl d buildingId placement now
    let slots := match SLOT_ZONE_BY_PLACEMENT placement with
      | some zone => AdCampaignRepository.findActiveSlots "HOME" zone d.toStore
      | none => []
    .ok
      { placement, items
        slots := slots.map fun slot => { slot, campaign := campaignBySlot items slot.id } }

end AdCampaignService

/-! ### What is shown -/

open AdCampaignService AdCampaignRepository

variable {d : Delivery} {query : EligibleCampaignQuery} {a b c : AdCampaignWithSlot}
  {slotId buildingId zone : String} {placement : AdPlacement} {now : Time}
  {resolveCampaignImageUrl : String → String} {item : PlacementInventoryItem}

theorem eligibleOrder_total (createdAt : ℕ → Time) (a b : AdCampaignWithSlot) :
    eligibleOrder createdAt a b ∨ eligibleOrder createdAt b a := by
  refine ThenBy.total ?_ (ThenBy.total ?_ (ThenBy.total ?_ ?_)) a b
  · exact fun _ _ => le_total _ _
  · exact fun _ _ => String.le_total _ _
  · exact fun _ _ => le_total _ _
  · exact fun _ _ => le_total _ _

theorem eligibleOrder_trans (createdAt : ℕ → Time) (a b c : AdCampaignWithSlot) :
    eligibleOrder createdAt a b → eligibleOrder createdAt b c → eligibleOrder createdAt a c := by
  refine ThenBy.trans ?_ (ThenBy.trans ?_ (ThenBy.trans ?_ ?_)) a b c
  · exact fun _ _ _ => le_trans
  · exact fun _ _ _ => String.le_trans
  · exact fun _ _ _ => le_trans
  · exact fun _ _ _ => le_trans

theorem mem_selected : c ∈ selected d query ↔
    c.campaign ∈ d.campaigns ∧ query.Selects c.campaign ∧
      ∃ id, c.campaign.adSlotId = some id ∧ findSlotById id d.toStore = some c.adSlot := by
  rw [selected, List.mem_filterMap]
  constructor
  · rintro ⟨campaign, hcampaign, hslot⟩
    obtain ⟨hmem, hselects⟩ := List.mem_filter.mp hcampaign
    obtain ⟨adSlot, hfound, rfl⟩ := Option.map_eq_some_iff.mp hslot
    exact ⟨hmem, of_decide_eq_true hselects, Option.bind_eq_some_iff.mp hfound⟩
  · rintro ⟨hmem, hselects, hslot⟩
    refine ⟨c.campaign, List.mem_filter.mpr ⟨hmem, decide_eq_true hselects⟩, ?_⟩
    rw [withAdSlot, Option.bind_eq_some_iff.mpr hslot]
    rfl

/-- A campaign is read with one slot. -/
theorem eq_of_campaign_eq (ha : a ∈ selected d query) (hb : b ∈ selected d query)
    (h : a.campaign.id = b.campaign.id) : a = b := by
  obtain ⟨hamem, -, id, haid, haslot⟩ := mem_selected.mp ha
  obtain ⟨hbmem, -, id', hbid, hbslot⟩ := mem_selected.mp hb
  have hcampaign : a.campaign = b.campaign := Table.eq_of_key_eq hamem hbmem h
  rw [hcampaign, hbid, Option.some_inj] at haid
  subst haid
  have hslot : a.adSlot = b.adSlot := Option.some.inj (haslot.symm.trans hbslot)
  obtain ⟨_, _⟩ := a
  obtain ⟨_, _⟩ := b
  exact congrArg₂ AdCampaignWithSlot.mk hcampaign hslot

theorem nodup_selected : (selected d query).Nodup := by
  refine List.Nodup.filterMap ?_ ((List.Nodup.of_map _ d.campaigns.nodup).filter _)
  intro a a' row ha ha'
  obtain ⟨_, -, rfl⟩ := Option.map_eq_some_iff.mp ha
  obtain ⟨_, -, heq⟩ := Option.map_eq_some_iff.mp ha'
  exact (congrArg AdCampaignWithSlot.campaign heq).symm

/-- A campaign is shown when fewer than `MAX_PLACEMENT_ITEMS` of the campaigns that the query selects
come before it. -/
theorem mem_inventoryItems :
    item ∈ inventoryItems resolveCampaignImageUrl d buildingId placement now ↔
      ∃ c ∈ selected d (eligibleQuery d buildingId placement now),
        (selected d (eligibleQuery d buildingId placement now)).countP
          (fun b => ¬ eligibleOrder d.createdAt c b) < MAX_PLACEMENT_ITEMS ∧
        isEligibleNow c.campaign (eligibilityContext d buildingId placement now) ∧
        inventoryItem resolveCampaignImageUrl c = item := by
  have hties : ∀ a ∈ selected d (eligibleQuery d buildingId placement now),
      ∀ b ∈ selected d (eligibleQuery d buildingId placement now),
        eligibleOrder d.createdAt a b → eligibleOrder d.createdAt b a → a = b := by
    intro a ha b hb hab hba
    have hids := (hab.ties hba).1.ties (hab.ties hba).2
    exact eq_of_campaign_eq ha hb (le_antisymm (hids.1.ties hids.2).1 (hids.1.ties hids.2).2)
  rw [inventoryItems, List.mem_map]
  refine exists_congr fun c => ?_
  rw [List.mem_filter, findEligibleForPlacement,
    mem_take_insertionSort (eligibleOrder_total _) (eligibleOrder_trans _) nodup_selected hties]
  tauto

theorem campaignBySlot_isSome {items : List PlacementInventoryItem} :
    (campaignBySlot items slotId).isSome ↔ ∃ item ∈ items, item.slot.id = slotId := by
  rw [campaignBySlot, List.find?_isSome]
  simp

/-- What is shown for a slot is assigned to it. -/
theorem adSlotId_of_mem (hc : c ∈ selected d query) : c.campaign.adSlotId = some c.adSlot.id := by
  obtain ⟨-, -, id, hid, hslot⟩ := mem_selected.mp hc
  rw [findSlotById] at hslot
  have hfound := List.find?_some hslot
  rw [hid, of_decide_eq_true hfound]

/-- A campaign of the slot is eligible now. -/
def HasEligible (d : Delivery) (buildingId : String) (placement : AdPlacement) (now : Time)
    (slotId : String) : Prop :=
  ∃ c ∈ d.campaigns, c.adSlotId = some slotId ∧
    isEligibleNow c (eligibilityContext d buildingId placement now)

/-- An eligible campaign of the slot is selected by the query, and fewer than `MAX_PLACEMENT_ITEMS`
of the campaigns it selects, of whatever slot, come before it. -/
def HasServed (d : Delivery) (buildingId : String) (placement : AdPlacement) (now : Time)
    (slotId : String) : Prop :=
  ∃ c ∈ selected d (eligibleQuery d buildingId placement now), c.adSlot.id = slotId ∧
    isEligibleNow c.campaign (eligibilityContext d buildingId placement now) ∧
    (selected d (eligibleQuery d buildingId placement now)).countP
      (fun b => ¬ eligibleOrder d.createdAt c b) < MAX_PLACEMENT_ITEMS

theorem campaignBySlot_inventoryItems :
    (campaignBySlot (inventoryItems resolveCampaignImageUrl d buildingId placement now)
      slotId).isSome ↔ HasServed d buildingId placement now slotId := by
  rw [campaignBySlot_isSome]
  constructor
  · rintro ⟨item, hitem, hslot⟩
    obtain ⟨c, hc, hfirst, heligible, rfl⟩ := mem_inventoryItems.mp hitem
    exact ⟨c, hc, hslot, heligible, hfirst⟩
  · rintro ⟨c, hc, hslot, heligible, hfirst⟩
    exact ⟨_, mem_inventoryItems.mpr ⟨c, hc, hfirst, heligible, rfl⟩, hslot⟩

theorem HasServed.hasEligible (h : HasServed d buildingId placement now slotId) :
    HasEligible d buildingId placement now slotId := by
  obtain ⟨c, hc, hslot, heligible, -⟩ := h
  exact ⟨c.campaign, (mem_selected.mp hc).1, hslot ▸ adSlotId_of_mem hc, heligible⟩

/-- For a placement with a zone, every active slot of the zone shows a campaign if and only if one
that is assigned to it is eligible, and shows such a one, and every item is eligible, if and only
if the limit of the query leaves out no active slot of the zone that has an eligible campaign. -/
theorem getPlacementInventory_fills_iff (hzone : SLOT_ZONE_BY_PLACEMENT placement = some zone)
    {response : PlacementInventoryResponse}
    (h : getPlacementInventory resolveCampaignImageUrl d buildingId placement now =
      .ok response) :
    (response.slots.map SlotInventory.slot = findActiveSlots "HOME" zone d.toStore ∧
      (∀ entry ∈ response.slots, entry.campaign.isSome ↔
        HasEligible d buildingId placement now entry.slot.id) ∧
      (∀ entry ∈ response.slots, ∀ item ∈ entry.campaign,
        ∃ c ∈ d.campaigns, c.id = item.id ∧ c.adSlotId = some entry.slot.id ∧
          isEligibleNow c (eligibilityContext d buildingId placement now)) ∧
      ∀ item ∈ response.items, ∃ c ∈ d.campaigns, c.id = item.id ∧
        isEligibleNow c (eligibilityContext d buildingId placement now)) ↔
    ∀ slot ∈ findActiveSlots "HOME" zone d.toStore,
      HasEligible d buildingId placement now slot.id →
        HasServed d buildingId placement now slot.id := by
  rw [getPlacementInventory] at h
  split at h
  case h_1 => cases h
  case h_2 =>
    obtain rfl := Except.ok.inj h
    rw [hzone]
    set items := inventoryItems resolveCampaignImageUrl d buildingId placement now with hitems
    have hshown : ∀ item ∈ items, ∃ c ∈ d.campaigns, c.id = item.id ∧
        c.adSlotId = some item.slot.id ∧
        isEligibleNow c (eligibilityContext d buildingId placement now) := by
      intro item hitem
      obtain ⟨c, hc, -, heligible, rfl⟩ := mem_inventoryItems.mp hitem
      exact ⟨c.campaign, (mem_selected.mp hc).1, rfl, adSlotId_of_mem hc, heligible⟩
    have hentries : ∀ {P : SlotInventory → Prop}, (∀ entry ∈
          (findActiveSlots "HOME" zone d.toStore).map fun slot =>
            ({ slot, campaign := campaignBySlot items slot.id } : SlotInventory), P entry) ↔
        ∀ slot ∈ findActiveSlots "HOME" zone d.toStore,
          P { slot, campaign := campaignBySlot items slot.id } := List.forall_mem_map
    refine ⟨fun ⟨_, hfilled, _⟩ slot hslot heligible => ?_, fun hserved => ⟨?_, ?_, ?_, ?_⟩⟩
    · exact campaignBySlot_inventoryItems.mp ((hentries.mp hfilled slot hslot).mpr heligible)
    · rw [List.map_map]
      exact List.map_id _
    · refine hentries.mpr fun slot hslot => ?_
      exact ⟨fun hshows => (campaignBySlot_inventoryItems.mp hshows).hasEligible,
        fun heligible => campaignBySlot_inventoryItems.mpr (hserved slot hslot heligible)⟩
    · refine hentries.mpr fun slot _ item hitem => ?_
      have hfound := List.find?_some hitem
      obtain ⟨c, hc, hid, hslotId, heligible⟩ :=
        hshown item (List.mem_reverse.mp (List.mem_of_find?_eq_some hitem))
      rw [show item.slot.id = slot.id from of_decide_eq_true hfound] at hslotId
      exact ⟨c, hc, hid, hslotId, heligible⟩
    · intro item hitem
      obtain ⟨c, hc, hid, -, heligible⟩ := hshown item hitem
      exact ⟨c, hc, hid, heligible⟩

/-! ### A zone with six slots -/

/-- The slots of a zone, in the order of their positions. -/
def northSlots : List AdSlot :=
  ["N1", "N2", "N3", "N4", "N5", "N6"].zipIdx.map fun slot =>
    { id := slot.1, code := slot.1, page := "HOME", zone := "N", position := slot.2,
      placement := .homeTodayOffers }

/-- One active campaign for each pair of a slot and a target, created in this order. -/
def northCampaigns (assigned : List (String × Option String)) : Delivery where
  slots := northSlots
  buildings := ["b1"]
  campaigns := Table.empty.createMany assigned fun pair id =>
    { id, name := pair.1, status := .active, source := .direct, placement := .homeTodayOffers,
      adSlotId := some pair.1, startsAt := 0, endsAt := 10, title := pair.1, imageUrl := pair.1,
      buildingId := pair.2 }
  createdAt := fun id => id
  country := fun _ => "Iran"
  city := fun _ => "Tehran"

/-- With one campaign in all, every slot shows what it has. -/
theorem getPlacementInventory_fills_one : ∃ response,
    getPlacementInventory id (northCampaigns [("N6", none)]) "b1" .homeTodayOffers 5 =
      .ok response ∧
    ∀ entry ∈ response.slots, entry.campaign.isSome ↔
      HasEligible (northCampaigns [("N6", none)]) "b1" .homeTodayOffers 5 entry.slot.id := by
  have hzone : SLOT_ZONE_BY_PLACEMENT .homeTodayOffers = some "N" := rfl
  refine ⟨_, rfl, ((getPlacementInventory_fills_iff hzone rfl).mpr ?_).2.1⟩
  rintro slot - ⟨c, hc, hslot, heligible⟩
  obtain rfl := List.mem_singleton.mp hc
  have hid : slot.id = "N6" := (Option.some.inj hslot).symm
  rw [hid]
  refine ⟨⟨_, _⟩, mem_selected.mpr ⟨hc, by decide +kernel, "N6", rfl, rfl⟩, rfl, heligible, ?_⟩
  decide +kernel

/-- Each of the first five slots has a campaign for all buildings and one for this building: the
campaign of the sixth slot is not among the first ten. -/
theorem getPlacementInventory_starves :
    let d := northCampaigns (["N1", "N2", "N3", "N4", "N5"].flatMap (fun slot =>
      [(slot, none), (slot, some "b1")]) ++ [("N6", none)])
    ((getPlacementInventory id d "b1" .homeTodayOffers 5).toOption.map fun response =>
        response.slots.map fun entry => (entry.slot.id, entry.campaign.isSome)) =
      some [("N1", true), ("N2", true), ("N3", true), ("N4", true), ("N5", true),
        ("N6", false)] ∧
    HasEligible d "b1" .homeTodayOffers 5 "N6" := by
  refine ⟨by decide +kernel, ?_⟩
  exact ⟨_, (List.mem_of_getElem? (i := 10) rfl), rfl, by decide +kernel⟩

end VielHome.Advertising
