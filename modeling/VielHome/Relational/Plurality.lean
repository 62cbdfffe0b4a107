import Mathlib.Data.List.Count
import Mathlib.Data.List.Induction
import Mathlib.Data.List.Nodup
import Mathlib.Tactic.Common

/-!
# Counting and leading

Counting a list into an association list that keeps the order of first occurrence, and the
loop over such a list that remembers the highest count so far, who has it, and whether
somebody else has it too. The loop finds the element that occurs strictly more often than
every other one, whatever the order in which the elements came.
-/

universe u

namespace Plurality

variable {α : Type u} [DecidableEq α]

/-- The element that occurs, and strictly more often than every other one. -/
def Wins (l : List α) (o : α) : Prop := 0 < l.count o ∧ ∀ o', o' ≠ o → l.count o' < l.count o

/-! ### Counting -/

/-- Add one to the count of a key; a new key comes last. -/
def bump : List (α × ℕ) → α → List (α × ℕ)
  | [], a => [(a, 1)]
  | (b, n) :: entries, a => if b = a then (b, n + 1) :: entries else (b, n) :: bump entries a

/-- The counts of a list. -/
def tally (l : List α) : List (α × ℕ) := l.foldl bump []

/-- The entries of `counts` are the elements of `l` with their counts. -/
structure Counts (entries : List (α × ℕ)) (l : List α) : Prop where
  nodup : (entries.map Prod.fst).Nodup
  mem_iff : ∀ e, e ∈ entries ↔ 0 < e.2 ∧ e.2 = l.count e.1

theorem mem_keys_bump {entries : List (α × ℕ)} {a b : α} :
    b ∈ (bump entries a).map Prod.fst ↔ b = a ∨ b ∈ entries.map Prod.fst := by
  induction entries with
  | nil => simp [bump]
  | cons e entries ih =>
    obtain ⟨c, n⟩ := e
    rw [bump]
    split
    case isTrue hc =>
      subst hc
      simp only [List.map_cons, List.mem_cons]
      tauto
    case isFalse =>
      simp only [List.map_cons, List.mem_cons, ih]
      tauto

theorem nodup_keys_bump {entries : List (α × ℕ)} (h : (entries.map Prod.fst).Nodup) (a : α) :
    ((bump entries a).map Prod.fst).Nodup := by
  induction entries with
  | nil => exact List.nodup_singleton a
  | cons e entries ih =>
    obtain ⟨c, n⟩ := e
    obtain ⟨hc, hrest⟩ := List.nodup_cons.mp h
    rw [bump]
    split
    case isTrue => exact h
    case isFalse hne =>
      refine List.nodup_cons.mpr ⟨fun hmem => ?_, ih hrest⟩
      rcases mem_keys_bump.mp hmem with heq | hmem
      · exact hne heq
      · exact hc hmem

/-- A key has one more after it was counted, and every other key what it had. -/
theorem mem_bump {entries : List (α × ℕ)} (h : (entries.map Prod.fst).Nodup) {a : α} {e : α × ℕ} :
    e ∈ bump entries a ↔ (e.1 ≠ a ∧ e ∈ entries) ∨
      (e.1 = a ∧ ((a ∉ entries.map Prod.fst ∧ e.2 = 1) ∨ ∃ n, (a, n) ∈ entries ∧ e.2 = n + 1)) := by
  obtain ⟨b, m⟩ := e
  induction entries with
  | nil =>
    simp only [bump, List.mem_singleton, Prod.mk.injEq, List.not_mem_nil, List.map_nil]
    tauto
  | cons e entries ih =>
    obtain ⟨c, n⟩ := e
    obtain ⟨hc, hrest⟩ := List.nodup_cons.mp h
    have hother : ∀ k, (c, k) ∉ entries := fun k hk => hc (List.mem_map.mpr ⟨(c, k), hk, rfl⟩)
    rw [bump]
    split
    case isTrue heq =>
      subst heq
      by_cases hb : b = c
      · subst hb
        have hm : (b, m) ∉ entries := hother m
        simp [hm, hother]
      · simp [hb]
    case isFalse hne =>
      rw [List.mem_cons, ih hrest]
      by_cases hb : b = a
      · subst hb
        simp [Ne.symm hne]
      · simp [hb]

theorem counts_bump {entries : List (α × ℕ)} {l : List α} (h : Counts entries l) (a : α) :
    Counts (bump entries a) (l ++ [a]) where
  nodup := nodup_keys_bump h.nodup a
  mem_iff := by
    rintro ⟨b, m⟩
    have hkey : ∀ c, c ∈ entries.map Prod.fst ↔ 0 < l.count c := by
      intro c
      constructor
      · intro hc
        obtain ⟨e, he, rfl⟩ := List.mem_map.mp hc
        exact ((h.mem_iff e).mp he).2 ▸ ((h.mem_iff e).mp he).1
      · exact fun hc => List.mem_map.mpr ⟨(c, l.count c), (h.mem_iff _).mpr ⟨hc, rfl⟩, rfl⟩
    rw [mem_bump h.nodup, List.count_append, List.count_singleton]
    by_cases hb : b = a
    · subst hb
      simp only [ne_eq, not_true_eq_false, false_and, true_and, false_or, hkey, h.mem_iff,
        beq_self_eq_true, if_true]
      constructor
      · rintro (⟨hzero, rfl⟩ | ⟨n, ⟨-, rfl⟩, rfl⟩) <;> omega
      · rintro ⟨-, rfl⟩
        by_cases hzero : 0 < l.count b
        · exact Or.inr ⟨l.count b, ⟨hzero, rfl⟩, rfl⟩
        · exact Or.inl ⟨hzero, by omega⟩
    · simp [hb, h.mem_iff, Ne.symm hb]

theorem counts_tally (l : List α) : Counts (tally l) l := by
  induction l using List.reverseRecOn with
  | nil =>
    refine ⟨List.nodup_nil, fun e => ?_⟩
    simp only [tally, List.foldl_nil, List.not_mem_nil, List.count_nil, false_iff]
    omega
  | append_singleton l a ih =>
    rw [tally, List.foldl_append]
    exact counts_bump ih a

/-! ### Leading -/

/-- What the loop remembers. -/
structure Lead (α : Type u) where
  winner : Option α := none
  topCount : ℕ := 0
  tie : Bool := false

namespace Lead

variable {entries : List (α × ℕ)}

/-- One round of the loop. -/
def next (lead : Lead α) (e : α × ℕ) : Lead α :=
  if e.2 > lead.topCount then { winner := some e.1, topCount := e.2, tie := false }
  else if e.2 = lead.topCount ∧ e.2 > 0 then { lead with tie := true }
  else lead

/-- What the loop knows about the entries it has seen: nobody has more than the highest
count, the winner has it, and there is a tie when somebody else has it too. -/
structure Knows (lead : Lead α) (entries : List (α × ℕ)) : Prop where
  le_top : ∀ e ∈ entries, e.2 ≤ lead.topCount
  of_none : lead.winner = none → lead.topCount = 0 ∧ lead.tie = false
  of_some : ∀ o, lead.winner = some o → 0 < lead.topCount ∧ (o, lead.topCount) ∈ entries
  tie_iff : ∀ o, lead.winner = some o →
    (lead.tie = true ↔ ∃ e ∈ entries, e.1 ≠ o ∧ e.2 = lead.topCount)

omit [DecidableEq α] in
theorem knows_nil : Knows ({} : Lead α) [] where
  le_top := fun _ he => absurd he List.not_mem_nil
  of_none := fun _ => ⟨rfl, rfl⟩
  of_some := fun _ h => nomatch h
  tie_iff := fun _ h => nomatch h

omit [DecidableEq α] in
theorem Knows.next {lead : Lead α} (h : lead.Knows entries) {e : α × ℕ}
    (hnew : e.1 ∉ entries.map Prod.fst) : (lead.next e).Knows (entries ++ [e]) := by
  have hother : ∀ e' ∈ entries, e'.1 ≠ e.1 := fun e' he' heq =>
    hnew (heq ▸ List.mem_map_of_mem (f := Prod.fst) he')
  rw [Lead.next]
  split_ifs with hmore hsame
  · -- a new leader, whom nobody before has reached
    have hless : ∀ e' ∈ entries, e'.2 < e.2 := fun e' he' => Nat.lt_of_le_of_lt (h.le_top e' he') hmore
    refine ⟨fun e' he' => ?_, fun hnone => (nomatch hnone), fun o ho => ?_, fun o ho => ?_⟩
    · rcases List.mem_append.mp he' with he' | he'
      · exact Nat.le_of_lt (hless e' he')
      · exact Nat.le_of_eq (congrArg Prod.snd (List.mem_singleton.mp he'))
    · obtain rfl := Option.some.inj ho
      exact ⟨by simp only; omega, List.mem_append_right _ (List.mem_singleton_self _)⟩
    · obtain rfl := Option.some.inj ho
      simp only [Bool.false_eq_true, false_iff, not_exists, not_and]
      intro e' he' hne heq
      rcases List.mem_append.mp he' with he' | he'
      · have := hless e' he'
        omega
      · exact hne (by rw [List.mem_singleton.mp he'])
  · -- somebody reaches the leader
    refine ⟨fun e' he' => ?_, fun hnone => ?_, fun o ho => ?_, fun o ho => ?_⟩
    · rcases List.mem_append.mp he' with he' | he'
      · exact h.le_top e' he'
      · rw [List.mem_singleton.mp he']
        exact Nat.le_of_eq hsame.1
    · have := h.of_none hnone
      omega
    · exact ⟨(h.of_some o ho).1, List.mem_append_left _ (h.of_some o ho).2⟩
    · refine ⟨fun _ => ⟨e, List.mem_append_right _ (List.mem_singleton_self e), ?_, hsame.1⟩,
        fun _ => rfl⟩
      exact (hother _ (h.of_some o ho).2).symm
  · -- the entry stays below the leader
    have hless : e.2 < lead.topCount ∨ e.2 = 0 ∧ lead.topCount = 0 := by omega
    refine ⟨fun e' he' => ?_, h.of_none, fun o ho => ?_, fun o ho => ?_⟩
    · rcases List.mem_append.mp he' with he' | he'
      · exact h.le_top e' he'
      · rw [List.mem_singleton.mp he']
        omega
    · exact ⟨(h.of_some o ho).1, List.mem_append_left _ (h.of_some o ho).2⟩
    · have hpos := (h.of_some o ho).1
      rw [h.tie_iff o ho]
      constructor
      · rintro ⟨e', he', hne, heq⟩
        exact ⟨e', List.mem_append_left _ he', hne, heq⟩
      · rintro ⟨e', he', hne, heq⟩
        rcases List.mem_append.mp he' with he' | he'
        · exact ⟨e', he', hne, heq⟩
        · rw [List.mem_singleton.mp he'] at heq
          omega

omit [DecidableEq α] in
theorem knows_foldl (h : (entries.map Prod.fst).Nodup) :
    (entries.foldl Lead.next ({} : Lead α)).Knows entries := by
  induction entries using List.reverseRecOn with
  | nil => exact knows_nil
  | append_singleton entries e ih =>
    rw [List.map_append, List.nodup_append] at h
    rw [List.foldl_append]
    exact (ih h.1).next fun hmem => h.2.2 e.1 hmem e.1 (by simp) rfl

/-- The winner, unless there is a tie. -/
def outright (lead : Lead α) : Option α := if lead.tie then none else lead.winner

/-- The loop over the counts of a list finds the element that wins the list. -/
theorem outright_eq_some_iff {l : List α} (h : Counts entries l) {o : α} :
    (entries.foldl Lead.next ({} : Lead α)).outright = some o ↔ Wins l o := by
  have hknows := knows_foldl h.nodup
  generalize entries.foldl Lead.next ({} : Lead α) = lead at hknows
  have hcount : ∀ o', l.count o' ≤ lead.topCount := by
    intro o'
    rcases Nat.eq_zero_or_pos (l.count o') with hzero | hpos
    · omega
    · exact hknows.le_top (o', l.count o') ((h.mem_iff _).mpr ⟨hpos, rfl⟩)
  rw [outright]
  constructor
  · intro hout
    obtain ⟨htie, hwinner⟩ : lead.tie = false ∧ lead.winner = some o := by
      split at hout
      · exact absurd hout (by simp)
      · exact ⟨Bool.eq_false_iff.mpr ‹_›, hout⟩
    obtain ⟨hpos, hmem⟩ := hknows.of_some o hwinner
    have htop : lead.topCount = l.count o := ((h.mem_iff _).mp hmem).2
    refine ⟨htop ▸ hpos, fun o' hne => ?_⟩
    by_contra hle
    have heq : l.count o' = lead.topCount := by
      have := hcount o'
      omega
    have hother : lead.tie = true := (hknows.tie_iff o hwinner).mpr
      ⟨(o', l.count o'), (h.mem_iff _).mpr ⟨by simp only; omega, rfl⟩, hne, heq⟩
    rw [htie] at hother
    exact absurd hother (by simp)
  · rintro ⟨hpos, hmost⟩
    have hle := hcount o
    cases hwinner : lead.winner with
    | none =>
      have := (hknows.of_none hwinner).1
      omega
    | some o' =>
      obtain ⟨-, hmem⟩ := hknows.of_some o' hwinner
      have htop : lead.topCount = l.count o' := ((h.mem_iff _).mp hmem).2
      obtain rfl : o' = o := by
        by_contra hne
        have := hmost o' hne
        omega
      rw [if_neg]
      intro htie
      obtain ⟨e, he, hne, heq⟩ := (hknows.tie_iff o' hwinner).mp htie
      have := hmost e.1 hne
      have := ((h.mem_iff e).mp he).2
      omega

end Lead

end Plurality
