import Mathlib.Order.Lattice
import Mathlib.Data.List.Basic

/-!
The first minimum of a list: an eligible item whose measure no eligible item
undercuts, and that every eligible item before it exceeds. An item is a position
of the list, so equal items at two places are told apart. A scan from the left
keeps a candidate and replaces it only by a strictly smaller one.
-/

namespace ReverseHttp.FirstMin

universe u v
variable {Item : Type u} {Measure : Type v} [LinearOrder Measure]

/-- `chosen` is the first of the eligible items with the smallest measure. -/
def IsFirstMin (eligible : Item → Prop) (measure : Item → Measure) (items : List Item)
    (chosen : Item) : Prop :=
  ∃ front back, items = front ++ chosen :: back ∧ eligible chosen ∧
    (∀ item ∈ front, eligible item → measure chosen < measure item) ∧
    ∀ item ∈ back, eligible item → measure chosen ≤ measure item

variable {eligible : Item → Prop} {measure : Item → Measure} {items : List Item}
  {chosen item : Item}

theorem IsFirstMin.mem (first : IsFirstMin eligible measure items chosen) : chosen ∈ items := by
  obtain ⟨front, back, rfl, _⟩ := first
  exact List.mem_append_right front List.mem_cons_self

theorem IsFirstMin.fits (first : IsFirstMin eligible measure items chosen) :
    eligible chosen := by
  obtain ⟨front, back, _, fit, _⟩ := first
  exact fit

theorem IsFirstMin.le (first : IsFirstMin eligible measure items chosen) (member : item ∈ items)
    (fit : eligible item) : measure chosen ≤ measure item := by
  obtain ⟨front, back, rfl, _, before, after⟩ := first
  rcases List.mem_append.mp member with early | late
  · exact le_of_lt (before item early fit)
  · rcases List.mem_cons.mp late with rfl | late
    · exact le_refl _
    · exact after item late fit

/-- The first eligible item. -/
theorem isFirstMin_only (absent : ∀ item ∈ items, ¬ eligible item) (fit : eligible item) :
    IsFirstMin eligible measure (items ++ [item]) item :=
  ⟨items, [], rfl, fit, fun other member fits => absurd fits (absent other member), by simp⟩

/-- A later item that is not eligible or not smaller changes nothing. -/
theorem IsFirstMin.keep (first : IsFirstMin eligible measure items chosen)
    (larger : eligible item → measure chosen ≤ measure item) :
    IsFirstMin eligible measure (items ++ [item]) chosen := by
  obtain ⟨front, back, rfl, fit, before, after⟩ := first
  refine ⟨front, back ++ [item], by simp, fit, before, ?_⟩
  intro other member fits
  rcases List.mem_append.mp member with old | new
  · exact after other old fits
  · rw [List.mem_singleton.mp new] at fits ⊢
    exact larger fits

/-- A strictly smaller one takes over. -/
theorem IsFirstMin.replace (first : IsFirstMin eligible measure items chosen)
    (fit : eligible item) (smaller : measure item < measure chosen) :
    IsFirstMin eligible measure (items ++ [item]) item := by
  refine ⟨items, [], rfl, fit, ?_, by simp⟩
  intro other member fits
  exact lt_of_lt_of_le smaller (first.le member fits)

end ReverseHttp.FirstMin
