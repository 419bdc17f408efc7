import Mathlib.Data.List.Infix
import Mathlib.Tactic.Common

/-!
Logs that grow at the end. A property of an entry may look at everything that
was logged before it.
-/

namespace ReverseHttp.History

variable {Entry : Type}

/-- Every entry of the log has the property, with what precedes it. -/
def Each (holds : List Entry → Entry → Prop) (log : List Entry) : Prop :=
  ∀ front entry, front ++ [entry] <+: log → holds front entry

variable {holds : List Entry → Entry → Prop} {log : List Entry}

theorem each_nil : Each holds [] := by
  intro front entry initial
  have short := initial.length_le
  simp at short

theorem each_snoc {entry : Entry} (each : Each holds log) (last : holds log entry) :
    Each holds (log ++ [entry]) := by
  intro front other initial
  rcases List.prefix_concat_iff.mp initial with whole | inside
  · obtain ⟨rfl, same⟩ := List.append_inj' whole rfl
    obtain rfl := List.singleton_inj.mp same
    exact last
  · exact each front other inside

/-- Several entries at once, each seen after those before it. -/
theorem each_append (more : List Entry) (each : Each holds log)
    (later : ∀ front entry back, more = front ++ entry :: back → holds (log ++ front) entry) :
    Each holds (log ++ more) := by
  induction more generalizing log with
  | nil => simpa using each
  | cons entry rest ih =>
      have first : holds log entry := by simpa using later [] entry rest rfl
      have tail := ih (each_snoc each first) fun front other back same => by
        simpa using later (entry :: front) other back (by simp [same])
      simpa using tail

end ReverseHttp.History
