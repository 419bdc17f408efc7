import Mathlib.Tactic.Common

/-!
A function with a table of answers: a hit is read from the table, a miss is
computed and stored. The table may be seeded with answers from elsewhere.
-/

namespace ReverseHttp.Memo

variable {Key Value : Type}

abbrev Table (Key Value : Type) := List (Key × Value)

/-- Every answer in the table is the one that would be computed. -/
def Sound (compute : Key → Value) (table : Table Key Value) : Prop :=
  ∀ entry ∈ table, entry.2 = compute entry.1

instance [DecidableEq Value] (compute : Key → Value) (table : Table Key Value) :
    Decidable (Sound compute table) :=
  inferInstanceAs (Decidable (∀ entry ∈ table, entry.2 = compute entry.1))

variable [DecidableEq Key]

/-- The answer for a key, and the table afterwards. -/
def fetch (compute : Key → Value) (table : Table Key Value) (key : Key) :
    Value × Table Key Value :=
  match table.lookup key with
  | some value => (value, table)
  | none => (compute key, (key, compute key) :: table)

variable {compute : Key → Value} {table : Table Key Value}

theorem fetch_value (sound : Sound compute table) (key : Key) :
    (fetch compute table key).1 = compute key := by
  unfold fetch
  split
  · rename_i value found
    obtain ⟨before, after, rfl, -⟩ := List.lookup_eq_some_iff.mp found
    exact sound (key, value) (by simp)
  · rfl

theorem fetch_sound (sound : Sound compute table) (key : Key) :
    Sound compute (fetch compute table key).2 := by
  unfold fetch
  split
  · exact sound
  · intro entry member
    rcases List.mem_cons.mp member with rfl | old
    · rfl
    · exact sound entry old

end ReverseHttp.Memo
