import Mathlib.Algebra.GroupWithZero.Nat
import Mathlib.Data.List.Infix
import Mathlib.Tactic.Common

/-!
A reader behind a log that grows at the end. It takes the entries in order and turns each
into the events it stands for; `consumed` is everything the entries taken so far stand for.
-/

namespace ReverseHttp.Relay

variable {Entry Event : Type} (events : Entry → List Event)

def consumed (log : List Entry) (taken : Nat) : List Event := (log.take taken).flatMap events

/-- What is added behind the reader does not change what it has read. -/
theorem consumed_append {log more : List Entry} {taken : Nat} (inside : taken ≤ log.length) :
    consumed events (log ++ more) taken = consumed events log taken := by
  rw [consumed, List.take_append_of_le_length inside, consumed]

theorem consumed_succ {log : List Entry} {taken : Nat} {entry : Entry}
    (found : log[taken]? = some entry) :
    consumed events log (taken + 1) = consumed events log taken ++ events entry := by
  simp [consumed, List.take_add_one, found]

/-- The reader is never ahead, also of a longer log. -/
theorem consumed_within {log whole : List Entry} (grown : log <+: whole) (taken : Nat) :
    consumed events log taken <+: whole.flatMap events := by
  obtain ⟨rest, same⟩ := (List.take_prefix taken log).trans grown
  rw [← same, List.flatMap_append]
  exact List.prefix_append _ _

end ReverseHttp.Relay
