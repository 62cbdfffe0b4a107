import Mathlib.Data.Fintype.Basic
import VielHome.Gamification.Agreement
import VielHome.Relational.Debts

/-!
# Awards that reach the building

An award of XP in a building and the change of the building's score are two transactions,
with the achievement of a first occurrence in between. So between its first and its last
commit a call owes the building a line of its history. It pays unless it is cut off, or the
unique index refuses the achievement because another call has granted it in the meantime.
-/

namespace VielHome.Gamification

open Relational
open Relational.ReadCommitted (Database Discipline Event Mode Prog)
open GamificationPolicy (computeLeagueTier)

/-! ### Awards and the history -/

/-- What an award and the line of the history that belongs to it have in common. -/
structure AwardKey where
  buildingId : ℕ
  reason : XpReason
  sourceEvent : Option String
  deriving DecidableEq

/-- The award is one of the key. -/
def XpTransaction.IsFor (t : XpTransaction) (k : AwardKey) : Prop :=
  t.buildingId = some k.buildingId ∧ t.reason = k.reason ∧ t.sourceEvent = k.sourceEvent

instance (t : XpTransaction) (k : AwardKey) : Decidable (t.IsFor k) :=
  inferInstanceAs (Decidable (_ ∧ _))

/-- The line of the history gives the building of the key what the catalogue says. -/
def BuildingScoreEvent.IsFor (e : BuildingScoreEvent) (k : AwardKey) (s : Store) : Prop :=
  (s.buildingScores.find? e.buildingScoreId).map BuildingScore.buildingId = some k.buildingId ∧
    e.delta = (xpCatalog k.reason).buildingScoreDelta ∧ e.reason = k.reason ∧
      e.sourceEvent = k.sourceEvent

instance (e : BuildingScoreEvent) (k : AwardKey) (s : Store) : Decidable (e.IsFor k s) :=
  inferInstanceAs (Decidable (_ ∧ _))

/-- The number of awards with the key. -/
def awardsOf (k : AwardKey) (s : Store) : ℤ :=
  s.xpTransactions.sum fun t => if t.IsFor k then 1 else 0

/-- The number of lines of the history with the key. -/
def scoreEventsOf (k : AwardKey) (s : Store) : ℤ :=
  s.buildingScoreEvents.sum fun e => if e.IsFor k s then 1 else 0

/-- How many awards with the key have no line of the history yet. -/
def unmatched (s : Store) (k : AwardKey) : ℤ :=
  if (xpCatalog k.reason).buildingScoreDelta ≠ 0 then awardsOf k s - scoreEventsOf k s else 0

/-- What an insertion needs that locks an entry of the index on the achievements held: nobody
has made it yet. -/
def Lock.Vacant (s : Store) : Lock → Prop
  | .heldKey personId definitionId => s.heldAchievement personId definitionId = none
  | _ => True

instance (s : Store) : (l : Lock) → Decidable (l.Vacant s)
  | .heldKey personId definitionId =>
    inferInstanceAs (Decidable (s.heldAchievement personId definitionId = none))
  | .row _ _ => inferInstanceAs (Decidable True)
  | .referenceKey _ _ _ => inferInstanceAs (Decidable True)
  | .scoreKey _ => inferInstanceAs (Decidable True)
  | .score _ => inferInstanceAs (Decidable True)

/-- The statement finds its entries of the index on the achievements held vacant. -/
def Unrefused (s : Store) (locks : List (Lock × Mode)) : Prop := ∀ l ∈ locks, l.1.Vacant s

instance (s : Store) (locks : List (Lock × Mode)) : Decidable (Unrefused s locks) :=
  inferInstanceAs (Decidable (∀ l ∈ locks, l.1.Vacant s))

/-- The constraints alone, and no lock but those of the database. -/
abbrev base : Discipline Store Lock := awardDiscipline false false

/-- The person and the building of an award are there. -/
def Present (input : GamificationService.AwardXpInput) (s : Store) : Prop :=
  (s.persons.find? input.personId).isSome = true ∧ refersToBuilding input.buildingId s = true

theorem Present.later {input : GamificationService.AwardXpInput} {s s' : Store}
    (h : Present input s) (hlater : base.Later s s') : Present input s' := by
  have hkeeps := keeps_of_later hlater
  refine ⟨hkeeps.person _ h.1, ?_⟩
  rw [refersToBuilding, hkeeps.building]
  exact h.2

/-- What `Prog.Settles` is about here. -/
abbrev Settles {α : Type} (post : α → (AwardKey → ℤ) → Store → (Store → Store) → Prop)
    (debt : AwardKey → ℤ) (last : Store) (pending : Store → Store) (p : Call α) : Prop :=
  p.Settles base unmatched Unrefused post debt last pending

variable {last : Store} {debt : AwardKey → ℤ} {input : GamificationService.AwardXpInput}

/-- The event is a step of a call, and no insertion of an achievement that the unique index
refuses. -/
abbrev Undisturbed {ι α : Type} (d : Sessions ι α) (e : Event ι Failure) : Prop :=
  d.Admitted Unrefused e

/-- A vote of the person in the building. -/
def vote (personId : ℕ) : GamificationService.AwardXpInput :=
  { personId, buildingId := some 0, reason := .voteParticipated, sourceEvent := some "BallotCast" }

end VielHome.Gamification
