import VielHome.Finance.Effect.ChargeItems
import VielHome.Relational.Apportionment

/-!
# Dividing a total by area

`allocateByArea` is the method of largest remainders. The amounts it gives add up to the total,
each of them is the exact share rounded down or one more, a share that is a whole number is
given exactly, and a larger unit never gets less than a smaller one.
-/

namespace VielHome.Finance

open Relational Apportionment Numeric

theorem AreaShare.byRemainderDesc_iff {a b : AreaShare} : a.byRemainderDesc b ↔
    b.fraction < a.fraction ∨ a.fraction = b.fraction ∧ a.index ≤ b.index := by
  rw [byRemainderDesc]
  by_cases heq : a.fraction = b.fraction <;> simp [heq]

instance : Std.Total AreaShare.byRemainderDesc where
  total a b := by
    simp only [AreaShare.byRemainderDesc_iff]
    rcases lt_trichotomy a.fraction b.fraction with hlt | heq | hgt
    · exact Or.inr (Or.inl hlt)
    · rcases le_total a.index b.index with hle | hle
      · exact Or.inl (Or.inr ⟨heq, hle⟩)
      · exact Or.inr (Or.inr ⟨heq.symm, hle⟩)
    · exact Or.inl (Or.inl hgt)

instance : IsTrans AreaShare AreaShare.byRemainderDesc where
  trans a b c := by
    simp only [AreaShare.byRemainderDesc_iff]
    rintro (hab | ⟨hab, hle⟩) (hbc | ⟨hbc, hle'⟩)
    · exact Or.inl (hbc.trans hab)
    · exact Or.inl (hbc ▸ hab)
    · exact Or.inl (hab ▸ hbc)
    · exact Or.inr ⟨hab.trans hbc, hle.trans hle'⟩

/-- The exact share of a total that belongs to an area. -/
def exactShare (totalAmount : ℤ) (units : List (ℕ × ℚ)) (area : ℚ) : ℚ :=
  totalAmount * area / (units.map Prod.snd).sum

section Shares

variable {fl : ℚ → ℚ} {totalAmount : ℤ} {units : List (ℕ × ℚ)}

variable (fl totalAmount units) in
/-- The share of a total that belongs to an area, each operation rounded. -/
def areaShare (area : ℚ) : ℚ := roundedShare fl totalAmount (units.map Prod.snd) area

variable (fl totalAmount units) in
/-- The shares that `allocateByArea` computes. -/
def areaShares : List AreaShare :=
  units.mapIdx fun index u =>
    { unitId := u.1, index, floorAmount := ⌊areaShare fl totalAmount units u.2⌋,
      fraction := fl (areaShare fl totalAmount units u.2 -
        ⌊areaShare fl totalAmount units u.2⌋) }

variable (fl totalAmount units) in
/-- What the rounded shares leave of the total. -/
def leftover : ℤ :=
  totalAmount - ((areaShares fl totalAmount units).map AreaShare.floorAmount).sum

variable (fl totalAmount units) in
/-- The shares by what was dropped from them. -/
def byRemainder : List AreaShare :=
  (areaShares fl totalAmount units).insertionSort AreaShare.byRemainderDesc

variable (fl totalAmount units) in
/-- The units that get one more. -/
def bonusUnitIds : List ℕ :=
  (slice (byRemainder fl totalAmount units) (leftover fl totalAmount units)).map AreaShare.unitId

theorem allocateByArea_eq :
    allocateByArea fl totalAmount units = (areaShares fl totalAmount units).map fun s =>
      { unitId := s.unitId
        amount := s.floorAmount + if s.unitId ∈ bonusUnitIds fl totalAmount units then 1 else 0 } := by
  rw [allocateByArea, foldl_area_eq]
  rfl

theorem map_unitId_areaShares :
    (areaShares fl totalAmount units).map AreaShare.unitId = units.map Prod.fst := by
  refine List.ext_getElem (by simp [areaShares]) fun k hk hk' => ?_
  simp [areaShares]

theorem map_floorAmount_areaShares :
    (areaShares fl totalAmount units).map AreaShare.floorAmount =
      (units.map Prod.snd).map fun area => ⌊areaShare fl totalAmount units area⌋ := by
  refine List.ext_getElem (by simp [areaShares]) fun k hk hk' => ?_
  simp [areaShares]

theorem perm_byRemainder :
    (byRemainder fl totalAmount units).Perm (areaShares fl totalAmount units) :=
  List.perm_insertionSort _ _

theorem pairwise_byRemainder :
    (byRemainder fl totalAmount units).Pairwise AreaShare.byRemainderDesc :=
  List.pairwise_insertionSort _ _

theorem length_byRemainder : (byRemainder fl totalAmount units).length = units.length := by
  rw [perm_byRemainder.length_eq, areaShares, List.length_mapIdx]

theorem slice_of_nonneg {α : Type} {l : List α} {stop : ℤ} (h : 0 ≤ stop) :
    slice l stop = l.take stop.toNat := by
  rw [slice, if_neg (not_lt.mpr h)]

theorem length_bonusUnitIds (hnonneg : 0 ≤ leftover fl totalAmount units)
    (hle : leftover fl totalAmount units ≤ units.length) :
    ((bonusUnitIds fl totalAmount units).length : ℤ) = leftover fl totalAmount units := by
  rw [bonusUnitIds, slice_of_nonneg hnonneg, List.length_map, List.length_take, length_byRemainder]
  omega

/-- The rounded shares, and one for each unit of the bonus, are the whole total, as long as the
leftover is between nothing and one for each unit. -/
theorem sum_allocateByArea_of_leftover (hids : (units.map Prod.fst).Nodup)
    (hnonneg : 0 ≤ leftover fl totalAmount units)
    (hle : leftover fl totalAmount units ≤ units.length) :
    ((allocateByArea fl totalAmount units).map ChargeItemInput.amount).sum = totalAmount := by
  have hperm : ((areaShares fl totalAmount units).map AreaShare.unitId).Perm
      (bonusUnitIds fl totalAmount units ++ ((byRemainder fl totalAmount units).drop
        (leftover fl totalAmount units).toNat).map AreaShare.unitId) := by
    rw [bonusUnitIds, slice_of_nonneg hnonneg, ← List.map_append, List.take_append_drop]
    exact perm_byRemainder.symm.map _
  have hbonus := sum_ite_mem (by rwa [map_unitId_areaShares]) hperm
  rw [length_bonusUnitIds hnonneg hle] at hbonus
  calc ((allocateByArea fl totalAmount units).map ChargeItemInput.amount).sum
      = ((areaShares fl totalAmount units).map fun s => s.floorAmount +
          if s.unitId ∈ bonusUnitIds fl totalAmount units then 1 else 0).sum := by
        simp only [allocateByArea_eq, List.map_map]
        rfl
    _ = ((areaShares fl totalAmount units).map AreaShare.floorAmount).sum +
          leftover fl totalAmount units := by
        rw [List.sum_map_add, ← hbonus, List.map_map]
        rfl
    _ = totalAmount := by
        rw [leftover]
        ring

/-- A unit gets one more when its share is among the first. -/
theorem mem_take_of_mem_bonusUnitIds (hnonneg : 0 ≤ leftover fl totalAmount units)
    (hids : (units.map Prod.fst).Nodup) {s : AreaShare}
    (hs : s ∈ areaShares fl totalAmount units)
    (hbonus : s.unitId ∈ bonusUnitIds fl totalAmount units) :
    s ∈ (byRemainder fl totalAmount units).take (leftover fl totalAmount units).toNat := by
  rw [bonusUnitIds, slice_of_nonneg hnonneg] at hbonus
  obtain ⟨s', hs', heq⟩ := List.mem_map.mp hbonus
  have hshares : (areaShares fl totalAmount units).map AreaShare.unitId = units.map Prod.fst :=
    map_unitId_areaShares
  rw [← hshares] at hids
  have hmem : s' ∈ areaShares fl totalAmount units :=
    perm_byRemainder.mem_iff.mp (List.mem_of_mem_take hs')
  obtain rfl := List.inj_on_of_nodup_map hids hmem hs heq
  exact hs'

end Shares

theorem sum_areas_pos {units : List (ℕ × ℚ)} (hne : units ≠ []) (hareas : ∀ u ∈ units, 0 < u.2) :
    0 < (units.map Prod.snd).sum := by
  refine List.sum_pos _ (fun x hx => ?_) (by simpa using hne)
  obtain ⟨u, hu, rfl⟩ := List.mem_map.mp hx
  exact hareas u hu

/-! ### Doubles -/

/-- The errors of dividing the total among `n` areas stay below one. -/
def FewUnits (totalAmount : ℤ) (n : ℕ) : Prop := (n + 3) * (totalAmount + 1) ≤ 2 ^ 53

instance (totalAmount : ℤ) (n : ℕ) : Decidable (FewUnits totalAmount n) :=
  inferInstanceAs (Decidable (_ ≤ _))

/-- Divided with doubles among few units, the total is given out. -/
theorem sum_allocateByArea_binary64 {totalAmount : ℤ} (htotal : 0 < totalAmount)
    {units : List (ℕ × ℚ)} (hne : units ≠ []) (hids : (units.map Prod.fst).Nodup)
    (hareas : ∀ u ∈ units, 0 < u.2) (hfew : FewUnits totalAmount units.length) :
    ((allocateByArea binary64 totalAmount units).map ChargeItemInput.amount).sum = totalAmount := by
  have hweights : ∀ w ∈ units.map Prod.snd, 0 < w := fun w hw => by
    obtain ⟨e, he, rfl⟩ := List.mem_map.mp hw
    exact hareas e he
  have hsmall : (((units.map Prod.snd).length : ℚ) + 3) * (totalAmount + 1) * (1 / 2 ^ 53) ≤ 1 := by
    have hcast : ((units.length : ℚ) + 3) * (totalAmount + 1) ≤ 2 ^ 53 := by exact_mod_cast hfew
    rw [List.length_map, mul_one_div, div_le_one (by norm_num)]
    exact hcast
  have hbounds := binary64_roundsWithin.total_sub_floors (by norm_num) (by norm_num) htotal
    hweights (by simpa using hne) hsmall
  rw [List.length_map] at hbounds
  have hleftover : leftover binary64 totalAmount units = totalAmount -
      ((units.map Prod.snd).map fun w =>
        ⌊roundedShare binary64 (totalAmount : ℚ) (units.map Prod.snd) w⌋).sum := by
    rw [leftover, map_floorAmount_areaShares]
    rfl
  exact sum_allocateByArea_of_leftover hids (hleftover ▸ hbounds.1) (hleftover ▸ hbounds.2)

/-- Doubles drop a little more from the shares of the small units than from that of the large one,
so that in exact arithmetic the last `1` would go to the large one. -/
example : (allocateByArea binary64 1000000 [(1, 80), (2, 20), (3, 20)]).map ChargeItemInput.amount =
      [666666, 166667, 166667] ∧
    (allocateByArea id 1000000 [(1, 80), (2, 20), (3, 20)]).map ChargeItemInput.amount =
      [666667, 166667, 166666] := by
  decide +kernel

/-! ### Exact arithmetic -/

section Exact

variable {totalAmount : ℤ} {units : List (ℕ × ℚ)}

theorem areaShare_id (area : ℚ) :
    areaShare id totalAmount units area = exactShare totalAmount units area :=
  roundedShare_id _ _ _

theorem mem_areaShares {s : AreaShare} (hs : s ∈ areaShares id totalAmount units) :
    ∃ u ∈ units, s.unitId = u.1 ∧ s.floorAmount = ⌊exactShare totalAmount units u.2⌋ ∧
      s.fraction = Int.fract (exactShare totalAmount units u.2) := by
  obtain ⟨k, hk, rfl⟩ := List.mem_mapIdx.mp hs
  refine ⟨units[k], List.getElem_mem hk, rfl, ?_, ?_⟩
  · rw [areaShare_id]
  · rw [areaShare_id]
    rfl

theorem fraction_lt_one {s : AreaShare} (hs : s ∈ byRemainder id totalAmount units) :
    s.fraction < 1 := by
  obtain ⟨u, -, -, -, hfraction⟩ := mem_areaShares (perm_byRemainder.mem_iff.mp hs)
  rw [hfraction]
  exact Int.fract_lt_one _

theorem fraction_nonneg {s : AreaShare} (hs : s ∈ byRemainder id totalAmount units) :
    0 ≤ s.fraction := by
  obtain ⟨u, -, -, -, hfraction⟩ := mem_areaShares (perm_byRemainder.mem_iff.mp hs)
  rw [hfraction]
  exact Int.fract_nonneg _

/-- The exact shares add up to the total, so what was dropped adds up to the leftover. -/
theorem sum_fraction (harea : (units.map Prod.snd).sum ≠ 0) :
    ((byRemainder id totalAmount units).map AreaShare.fraction).sum = leftover id totalAmount units := by
  have hexact : (units.map fun u => exactShare totalAmount units u.2).sum = totalAmount := by
    have hfactor : ∀ l : List (ℕ × ℚ), (l.map fun u => exactShare totalAmount units u.2).sum =
        totalAmount * (l.map Prod.snd).sum / (units.map Prod.snd).sum := by
      intro l
      induction l with
      | nil => simp
      | cons u l ih =>
        rw [List.map_cons, List.sum_cons, ih, List.map_cons, List.sum_cons, exactShare]
        ring
    rw [hfactor, mul_div_assoc, div_self harea, mul_one]
  have hsplit : ((areaShares id totalAmount units).map AreaShare.fraction).sum +
      (((areaShares id totalAmount units).map AreaShare.floorAmount).sum : ℤ) =
        (units.map fun u => exactShare totalAmount units u.2).sum := by
    have hrows : ∀ (l : List (ℕ × ℚ)) (g : ℕ → ℕ × ℚ → AreaShare),
        (∀ k u, (g k u).fraction + (g k u).floorAmount = exactShare totalAmount units u.2) →
        ((l.mapIdx g).map AreaShare.fraction).sum +
          (((l.mapIdx g).map AreaShare.floorAmount).sum : ℤ) =
            (l.map fun u => exactShare totalAmount units u.2).sum := by
      intro l
      induction l with
      | nil => simp
      | cons u l ih =>
        intro g hg
        have hrest := ih (fun k => g (k + 1)) fun k u => hg (k + 1) u
        rw [List.mapIdx_cons]
        simp only [List.map_cons, List.sum_cons, Int.cast_add]
        rw [← hrest, ← hg 0 u]
        ring
    refine hrows units _ fun k u => ?_
    simp only [areaShare_id]
    exact Int.fract_add_floor _
  rw [(perm_byRemainder.map _).sum_eq, leftover, Int.cast_sub, ← hexact, ← hsplit]
  ring

theorem leftover_nonneg (harea : (units.map Prod.snd).sum ≠ 0) :
    0 ≤ leftover id totalAmount units := by
  have hsum : (0 : ℚ) ≤ ((byRemainder id totalAmount units).map AreaShare.fraction).sum := by
    refine List.sum_nonneg fun x hx => ?_
    obtain ⟨s, hs, rfl⟩ := List.mem_map.mp hx
    exact fraction_nonneg hs
  rw [sum_fraction harea] at hsum
  exact_mod_cast hsum

theorem leftover_le (harea : (units.map Prod.snd).sum ≠ 0) :
    (leftover id totalAmount units).toNat ≤ (byRemainder id totalAmount units).length := by
  cases hl : byRemainder id totalAmount units with
  | nil =>
    have hzero : ((byRemainder id totalAmount units).map AreaShare.fraction).sum =
        leftover id totalAmount units := sum_fraction harea
    rw [hl, List.map_nil, List.sum_nil] at hzero
    have hleft : leftover id totalAmount units = 0 := by exact_mod_cast hzero.symm
    simp [hleft]
  | cons s l =>
    have hlt : ((byRemainder id totalAmount units).map AreaShare.fraction).sum <
        (byRemainder id totalAmount units).length :=
      sum_lt_length (fun s hs => fraction_lt_one hs) (by simp [hl])
    rw [sum_fraction harea, hl] at hlt
    have : leftover id totalAmount units < ((s :: l).length : ℤ) := by exact_mod_cast hlt
    omega

end Exact

/-- In exact arithmetic the total is always given out. -/
theorem sum_allocateByArea (totalAmount : ℤ) {units : List (ℕ × ℚ)} (hne : units ≠ [])
    (hids : (units.map Prod.fst).Nodup) (hareas : ∀ u ∈ units, 0 < u.2) :
    ((allocateByArea id totalAmount units).map ChargeItemInput.amount).sum = totalAmount := by
  have harea := (sum_areas_pos hne hareas).ne'
  have hle : (leftover id totalAmount units).toNat ≤ (byRemainder id totalAmount units).length :=
    leftover_le harea
  rw [length_byRemainder] at hle
  exact sum_allocateByArea_of_leftover hids (leftover_nonneg harea) (by omega)

/-- The method of largest remainders, for every positive total and every list of different
units with positive areas. -/
theorem allocateByArea_largestRemainder {totalAmount : ℤ} (htotal : 0 < totalAmount)
    {units : List (ℕ × ℚ)} (hne : units ≠ []) (hids : (units.map Prod.fst).Nodup)
    (hareas : ∀ u ∈ units, 0 < u.2) :
    let items := allocateByArea id totalAmount units
    items.map ChargeItemInput.unitId = units.map Prod.fst ∧
    (∀ i ∈ items, 0 ≤ i.amount) ∧
    (items.map ChargeItemInput.amount).sum = totalAmount ∧
    (∀ e ∈ units.zip items,
      (e.2.amount = ⌊exactShare totalAmount units e.1.2⌋ ∨
        e.2.amount = ⌊exactShare totalAmount units e.1.2⌋ + 1) ∧
      (exactShare totalAmount units e.1.2 = ⌊exactShare totalAmount units e.1.2⌋ →
        (e.2.amount : ℚ) = exactShare totalAmount units e.1.2)) ∧
    ∀ e ∈ units.zip items, ∀ e' ∈ units.zip items, e.1.2 < e'.1.2 → e.2.amount ≤ e'.2.amount := by
  intro items
  have harea := sum_areas_pos hne hareas
  -- every pair comes from a share
  have hzip : ∀ e ∈ units.zip items, ∃ s ∈ areaShares id totalAmount units,
      s.floorAmount = ⌊exactShare totalAmount units e.1.2⌋ ∧
      s.fraction = Int.fract (exactShare totalAmount units e.1.2) ∧
      e.2.amount =
        s.floorAmount + if s.unitId ∈ bonusUnitIds id totalAmount units then 1 else 0 := by
    intro e he
    obtain ⟨k, hk, rfl⟩ := List.mem_iff_getElem.mp he
    have hk' : k < units.length := by
      rw [List.length_zip] at hk
      omega
    have hks : k < (areaShares id totalAmount units).length := by simpa [areaShares] using hk'
    refine ⟨(areaShares id totalAmount units)[k], List.getElem_mem hks, ?_⟩
    simp [items, allocateByArea_eq, areaShares, areaShare_id]
  refine ⟨?_, fun i hi => (allocateByArea_spec roundsWithin_id zero_le_one htotal.le hareas hi).1,
    sum_allocateByArea totalAmount hne hids hareas, ?_, ?_⟩
  · have hshares : (areaShares id totalAmount units).map AreaShare.unitId = units.map Prod.fst :=
      map_unitId_areaShares
    rw [← hshares]
    simp only [items, allocateByArea_eq, List.map_map]
    rfl
  · intro e he
    obtain ⟨s, hs, hfloor, hfraction, hamount⟩ := hzip e he
    refine ⟨?_, fun hwhole => ?_⟩
    · rw [hamount, hfloor]
      split <;> simp
    · have hnot : s.unitId ∉ bonusUnitIds id totalAmount units := by
        intro hbonus
        have hpos := pos_of_mem_take (fun s hs => fraction_lt_one hs)
          (pairwise_byRemainder.imp fun {a b} h => by
            rcases AreaShare.byRemainderDesc_iff.mp h with h | h
            · exact h.le
            · exact h.1.ge)
          (k := (leftover id totalAmount units).toNat)
          ((sum_fraction harea.ne').trans (by
            exact_mod_cast (Int.toNat_of_nonneg (leftover_nonneg harea.ne')).symm))
          (mem_take_of_mem_bonusUnitIds (leftover_nonneg harea.ne') hids hs hbonus)
        rw [hfraction, Int.fract, hwhole, Int.floor_intCast, sub_self] at hpos
        exact lt_irrefl _ hpos
      rw [hamount, hfloor, if_neg hnot, add_zero]
      exact hwhole.symm
  · intro e he e' he' hlt
    obtain ⟨s, hs, hfloor, hfraction, hamount⟩ := hzip e he
    obtain ⟨s', hs', hfloor', hfraction', hamount'⟩ := hzip e' he'
    have hexact : exactShare totalAmount units e.1.2 < exactShare totalAmount units e'.1.2 :=
      div_lt_div_of_pos_right (mul_lt_mul_of_pos_left hlt (by exact_mod_cast htotal)) harea
    have hle : s.floorAmount ≤ s'.floorAmount := by
      rw [hfloor, hfloor']
      exact Int.floor_le_floor hexact.le
    rw [hamount, hamount']
    rcases hle.lt_or_eq with hless | hsame
    · split <;> split <;> omega
    · -- with equal floors the larger share dropped more, so it comes first
      have hdropped : s.fraction < s'.fraction := by
        rw [hfraction, hfraction', Int.fract, Int.fract, ← hfloor, ← hfloor', hsame]
        linarith
      have hbonus : s.unitId ∈ bonusUnitIds id totalAmount units →
          s'.unitId ∈ bonusUnitIds id totalAmount units := by
        intro hbonus
        rw [bonusUnitIds, slice_of_nonneg (leftover_nonneg harea.ne')]
        refine List.mem_map_of_mem (mem_take_of_before pairwise_byRemainder
          (mem_take_of_mem_bonusUnitIds (leftover_nonneg harea.ne') hids hs hbonus) (perm_byRemainder.mem_iff.mpr hs') ?_)
        rw [AreaShare.byRemainderDesc_iff]
        rintro (h | ⟨h, -⟩)
        · exact lt_asymm h hdropped
        · exact hdropped.ne h
      split
      case isTrue h => rw [if_pos (hbonus h), hsame]
      case isFalse => split <;> omega

/-- Ten, divided by areas of one, two and four. -/
theorem allocateByArea_largestRemainder_ten :
    (allocateByArea id 10 [(1, 1), (2, 2), (3, 4)]).map ChargeItemInput.unitId = [1, 2, 3] ∧
    ((allocateByArea id 10 [(1, 1), (2, 2), (3, 4)]).map ChargeItemInput.amount).sum = 10 :=
  have h := allocateByArea_largestRemainder (show 0 < (10 : ℤ) by decide)
    (show [((1 : ℕ), (1 : ℚ)), (2, 2), (3, 4)] ≠ [] by decide) (by decide) (by decide)
  ⟨h.1, h.2.2.1⟩

end VielHome.Finance
