import Mathlib.Data.List.Nodup
import Mathlib.Data.List.Perm.Basic
import Mathlib.Logic.Function.Basic

/-!
Custody of pooled items. An item that was ever drawn is in the pool or held at
one place, never both and never twice. The operations are drawing an item,
making a new one, and giving items back.
-/

namespace ReverseHttp.Custody

variable {Item Place : Type}

structure Owned (known : Item → Prop) (pool : List Item) (held : Place → List Item) : Prop where
  pooled : pool.Nodup
  single : ∀ place, (held place).Nodup
  free : ∀ place, ∀ item ∈ held place, item ∉ pool
  apart : ∀ place other item, item ∈ held place → item ∈ held other → place = other
  covered : ∀ item, known item ↔ item ∈ pool ∨ ∃ place, item ∈ held place

variable {known : Item → Prop} {pool : List Item} {held : Place → List Item}

theorem owned_new : Owned (fun _ : Item => False) [] (fun _ : Place => []) :=
  ⟨List.nodup_nil, fun _ => List.nodup_nil, by simp, by simp, by simp⟩

theorem Owned.known_of_held (owned : Owned known pool held) {place : Place} {item : Item}
    (member : item ∈ held place) : known item :=
  (owned.covered item).mpr (Or.inr ⟨place, member⟩)

theorem Owned.known_of_pooled (owned : Owned known pool held) {item : Item}
    (member : item ∈ pool) : known item :=
  (owned.covered item).mpr (Or.inl member)

theorem Owned.congr {other : Item → Prop} (owned : Owned known pool held)
    (same : ∀ item, known item ↔ other item) : Owned other pool held :=
  ⟨owned.pooled, owned.single, owned.free, owned.apart, fun item =>
    (same item).symm.trans (owned.covered item)⟩

section Update

variable [DecidableEq Place]

theorem mem_update {place other : Place} {items : List Item} {item : Item} :
    item ∈ Function.update held place items other ↔
      (other = place ∧ item ∈ items) ∨ (other ≠ place ∧ item ∈ held other) := by
  by_cases same : other = place
  · subst same
    simp
  · simp [same]

theorem nodup_update {place : Place} {items : List Item} (single : ∀ other, (held other).Nodup)
    (once : items.Nodup) : ∀ other, (Function.update held place items other).Nodup :=
  (Function.forall_update_iff held fun _ items => items.Nodup).mpr
    ⟨once, fun other _ => single other⟩

/-- Part of what a place holds goes back to the pool; what it keeps may be
held in another order. -/
theorem Owned.giveBack (owned : Owned known pool held) {place : Place} {back kept : List Item}
    (split : (held place).Perm (back ++ kept)) :
    Owned known (pool ++ back) (Function.update held place kept) := by
  have unique := split.nodup_iff.mp (owned.single place)
  obtain ⟨backOnce, keptOnce, disjoint⟩ := List.nodup_append.mp unique
  have source : ∀ item, item ∈ held place ↔ item ∈ back ∨ item ∈ kept := by
    intro item
    rw [split.mem_iff, List.mem_append]
  constructor
  · rw [List.nodup_append]
    refine ⟨owned.pooled, backOnce, fun item inPool other inBack same => ?_⟩
    subst same
    exact owned.free place item ((source item).mpr (Or.inl inBack)) inPool
  · exact nodup_update owned.single keptOnce
  · intro other item member
    rw [mem_update] at member
    rw [List.mem_append, not_or]
    rcases member with ⟨rfl, inKept⟩ | ⟨different, elsewhere⟩
    · refine ⟨owned.free other item ((source item).mpr (Or.inr inKept)), fun inBack => ?_⟩
      exact disjoint item inBack item inKept rfl
    · refine ⟨owned.free other item elsewhere, fun inBack => different ?_⟩
      exact owned.apart other place item elsewhere ((source item).mpr (Or.inl inBack))
  · intro first second item inFirst inSecond
    have before : ∀ other, item ∈ Function.update held place kept other → item ∈ held other := by
      intro other member
      rcases mem_update.mp member with ⟨rfl, inKept⟩ | ⟨-, elsewhere⟩
      · exact (source item).mpr (Or.inr inKept)
      · exact elsewhere
    exact owned.apart first second item (before first inFirst) (before second inSecond)
  · intro item
    rw [owned.covered item, List.mem_append]
    constructor
    · rintro (inPool | ⟨other, member⟩)
      · exact Or.inl (Or.inl inPool)
      · by_cases same : other = place
        · subst same
          rcases (source item).mp member with inBack | inKept
          · exact Or.inl (Or.inr inBack)
          · exact Or.inr ⟨other, mem_update.mpr (Or.inl ⟨rfl, inKept⟩)⟩
        · exact Or.inr ⟨other, mem_update.mpr (Or.inr ⟨same, member⟩)⟩
    · rintro ((inPool | inBack) | ⟨other, member⟩)
      · exact Or.inl inPool
      · exact Or.inr ⟨place, (source item).mpr (Or.inl inBack)⟩
      · rcases mem_update.mp member with ⟨rfl, inKept⟩ | ⟨-, elsewhere⟩
        · exact Or.inr ⟨other, (source item).mpr (Or.inr inKept)⟩
        · exact Or.inr ⟨other, elsewhere⟩

/-- A place takes an item that is neither held nor in the pool. -/
theorem Owned.take (owned : Owned known pool held) (place : Place) {item : Item}
    (unknown : ¬ known item) :
    Owned (fun other => known other ∨ other = item) pool
      (Function.update held place (held place ++ [item])) := by
  have unheld : ∀ other, item ∉ held other := fun other member =>
    unknown (owned.known_of_held member)
  have inside : ∀ other x, x ∈ Function.update held place (held place ++ [item]) other ↔
      x ∈ held other ∨ (other = place ∧ x = item) := by
    intro other x
    rw [mem_update]
    by_cases same : other = place
    · subst same
      simp
    · simp [same]
  constructor
  · exact owned.pooled
  · apply nodup_update owned.single
    rw [List.nodup_append]
    refine ⟨owned.single place, List.nodup_singleton item, fun x member y single equal => ?_⟩
    rw [List.mem_singleton] at single
    exact unheld place (single ▸ equal ▸ member)
  · intro other x member
    rcases (inside other x).mp member with old | ⟨-, rfl⟩
    · exact owned.free other x old
    · exact fun inPool => unknown (owned.known_of_pooled inPool)
  · intro first second x inFirst inSecond
    rcases (inside first x).mp inFirst with old | ⟨rfl, rfl⟩
    · rcases (inside second x).mp inSecond with other | ⟨-, rfl⟩
      · exact owned.apart first second x old other
      · exact absurd old (unheld first)
    · rcases (inside second x).mp inSecond with other | ⟨rfl, -⟩
      · exact absurd other (unheld second)
      · rfl
  · intro x
    rw [owned.covered x]
    constructor
    · rintro ((inPool | ⟨other, member⟩) | rfl)
      · exact Or.inl inPool
      · exact Or.inr ⟨other, (inside other x).mpr (Or.inl member)⟩
      · exact Or.inr ⟨place, (inside place x).mpr (Or.inr ⟨rfl, rfl⟩)⟩
    · rintro (inPool | ⟨other, member⟩)
      · exact Or.inl (Or.inl inPool)
      · rcases (inside other x).mp member with old | ⟨-, rfl⟩
        · exact Or.inl (Or.inr ⟨other, old⟩)
        · exact Or.inr rfl

end Update

variable [DecidableEq Item]

/-- Taken out of the pool and not yet held, an item is unknown. -/
theorem Owned.withdraw (owned : Owned known pool held) {item : Item} (member : item ∈ pool) :
    Owned (fun other => known other ∧ other ≠ item) (pool.erase item) held := by
  constructor
  · exact owned.pooled.erase item
  · exact owned.single
  · intro place x inside inPool
    exact owned.free place x inside (List.mem_of_mem_erase inPool)
  · exact owned.apart
  · intro x
    rw [owned.covered x, owned.pooled.mem_erase_iff]
    constructor
    · rintro ⟨inPool | inside, different⟩
      · exact Or.inl ⟨different, inPool⟩
      · exact Or.inr inside
    · rintro (⟨different, inPool⟩ | ⟨place, inside⟩)
      · exact ⟨Or.inl inPool, different⟩
      · refine ⟨Or.inr ⟨place, inside⟩, ?_⟩
        rintro rfl
        exact owned.free place x inside member

end ReverseHttp.Custody
