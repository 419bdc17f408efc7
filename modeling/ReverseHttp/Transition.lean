import Mathlib.Logic.Function.Iterate
import Mathlib.Data.List.Basic

/-!
Partial step functions and their finite runs. An action carries every choice
the schedule makes, so a nondeterministic system is a function that is
undefined where the action is not enabled. Ghost history belongs to the
state; a run is then an ordinary fold. A deterministic machine is the iterate
of a total step function.
-/

namespace ReverseHttp.Transition

universe u v
variable {State : Type u} {Action : Type v}

def run (step : State → Action → Option State) : State → List Action → Option State
  | state, [] => some state
  | state, action :: rest => (step state action).bind fun next => run step next rest

/-- Every step of the run is taken in a state that meets `guard`. -/
def Guarded (step : State → Action → Option State) (guard : State → Action → Prop) :
    State → List Action → Prop
  | _, [] => True
  | state, action :: rest => guard state action ∧
      match step state action with
      | none => True
      | some next => Guarded step guard next rest

instance decidableGuarded (step : State → Action → Option State)
    (guard : State → Action → Prop) [decide : ∀ state action, Decidable (guard state action)] :
    (state : State) → (trace : List Action) → Decidable (Guarded step guard state trace)
  | _, [] => isTrue trivial
  | state, action :: rest =>
      @instDecidableAnd _ _ (decide state action)
        (match step state action with
        | none => isTrue trivial
        | some next => decidableGuarded step guard next rest)

variable {step : State → Action → Option State} {guard : State → Action → Prop}

/-- What a step with an enabling condition tells once it has been taken. -/
theorem enabled {condition : Prop} [Decidable condition] {result next : State}
    (stepped : (if condition then some result else none) = some next) :
    condition ∧ result = next := by
  split at stepped
  · exact ⟨‹_›, Option.some.inj stepped⟩
  · cases stepped

theorem run_cons {state last : State} {action : Action} {rest : List Action}
    (ran : run step state (action :: rest) = some last) :
    ∃ next, step state action = some next ∧ run step next rest = some last := by
  exact Option.bind_eq_some_iff.mp ran

theorem run_append (state : State) (front back : List Action) :
    run step state (front ++ back) =
      (run step state front).bind fun middle => run step middle back := by
  induction front generalizing state with
  | nil => rfl
  | cons action rest ih =>
      simp only [List.cons_append, run, Option.bind_assoc]
      congr 1
      funext next
      exact ih next

theorem run_trans {state middle last : State} {front back : List Action}
    (first : run step state front = some middle) (second : run step middle back = some last) :
    run step state (front ++ back) = some last := by
  rw [run_append, first]
  exact second

theorem guarded_tail {state next : State} {action : Action} {rest : List Action}
    (safe : Guarded step guard state (action :: rest))
    (stepped : step state action = some next) : Guarded step guard next rest := by
  have tail := safe.2
  rwa [stepped] at tail

/-- The one induction behind every safety result: what holds at the start and
is kept by each admitted step holds wherever a run arrives. -/
theorem run_invariant {holds : State → Prop}
    (keeps : ∀ state action next, holds state → guard state action →
      step state action = some next → holds next)
    {state last : State} {trace : List Action} (start : holds state)
    (safe : Guarded step guard state trace) (ran : run step state trace = some last) :
    holds last := by
  induction trace generalizing state with
  | nil =>
      cases ran
      exact start
  | cons action rest ih =>
      obtain ⟨next, stepped, tail⟩ := run_cons ran
      exact ih (keeps state action next start safe.1 stepped) (guarded_tail safe stepped) tail

/-- Without a guard every run is admitted. -/
theorem guarded_true (state : State) (trace : List Action) :
    Guarded step (fun _ _ => True) state trace := by
  induction trace generalizing state with
  | nil => trivial
  | cons action rest ih =>
      refine ⟨trivial, ?_⟩
      cases stepped : step state action with
      | none => trivial
      | some next => exact ih next

/-- A guard that looks at the actions only. -/
theorem guarded_of_all {allowed : Action → Prop} (state : State) {trace : List Action}
    (all : ∀ action ∈ trace, allowed action) :
    Guarded step (fun _ => allowed) state trace := by
  induction trace generalizing state with
  | nil => trivial
  | cons action rest ih =>
      refine ⟨all action (by simp), ?_⟩
      cases stepped : step state action with
      | none => trivial
      | some next => exact ih next fun other member => all other (List.mem_cons_of_mem _ member)

theorem run_invariant_all {holds : State → Prop}
    (keeps : ∀ state action next, holds state → step state action = some next → holds next)
    {state last : State} {trace : List Action} (start : holds state)
    (ran : run step state trace = some last) : holds last :=
  run_invariant (fun state action next valid _ => keeps state action next valid) start
    (guarded_true state trace) ran

/-- An invariant may be assumed at every step of a guarded run. -/
theorem guarded_invariant {holds : State → Prop}
    (keeps : ∀ state action next, holds state → guard state action →
      step state action = some next → holds next)
    {state : State} {trace : List Action} (start : holds state)
    (safe : Guarded step guard state trace) :
    Guarded step (fun state action => holds state ∧ guard state action) state trace := by
  induction trace generalizing state with
  | nil => trivial
  | cons action rest ih =>
      refine ⟨⟨start, safe.1⟩, ?_⟩
      cases stepped : step state action with
      | none => trivial
      | some next =>
          exact ih (keeps state action next start safe.1 stepped) (guarded_tail safe stepped)

/-- Two runs of which one leaves out the silent actions: they stay related by `view` if
a silent step does not show in it and every other step is taken on the view as well. -/
theorem run_erase {View : Type*} {shown : View → Action → Option View} {view : State → View}
    {silent : Action → Bool}
    (hidden : ∀ state action next, silent action = true → guard state action →
      step state action = some next → view next = view state)
    (visible : ∀ state action next, silent action = false → guard state action →
      step state action = some next → shown (view state) action = some (view next))
    {state last : State} {trace : List Action} (safe : Guarded step guard state trace)
    (ran : run step state trace = some last) :
    run shown (view state) (trace.filter fun action => !silent action) = some (view last) := by
  induction trace generalizing state with
  | nil =>
      cases ran
      rfl
  | cons action rest ih =>
      obtain ⟨next, stepped, tail⟩ := run_cons ran
      have later := ih (guarded_tail safe stepped) tail
      cases kind : silent action with
      | true =>
          rw [List.filter_cons_of_neg (by simp [kind])]
          rwa [hidden state action next kind safe.1 stepped] at later
      | false =>
          rw [List.filter_cons_of_pos (by simp [kind]), run,
            visible state action next kind safe.1 stepped]
          exact later

/-- A machine whose weight drops with every step before it is done gets there. -/
theorem iterate_reaches (next : State → State) (start : State) (done : State → Prop)
    (weight : State → Nat)
    (drops : ∀ count, ¬ done (next^[count] start) →
      weight (next^[count + 1] start) < weight (next^[count] start)) :
    ∃ count, done (next^[count] start) := by
  by_contra never
  rw [not_exists] at never
  -- the first `count` steps have used up `count` of the weight
  have spent : ∀ count, weight (next^[count] start) + count ≤ weight start := by
    intro count
    induction count with
    | zero => exact Nat.le_refl _
    | succ count ih =>
        have less := drops count (never count)
        omega
  have := spent (weight start + 1)
  omega

section Reach

variable {allowed : Action → Prop} {goal : State → Prop}

/-- Some run of allowed actions gets from `state` to the goal. -/
def CanReach (step : State → Action → Option State) (allowed : Action → Prop) (state : State)
    (goal : State → Prop) : Prop :=
  ∃ trace last, (∀ action ∈ trace, allowed action) ∧ run step state trace = some last ∧ goal last

theorem CanReach.now {state : State} (here : goal state) : CanReach step allowed state goal :=
  ⟨[], state, by simp, rfl, here⟩

theorem CanReach.next {state next : State} {action : Action}
    (stepped : step state action = some next) (ok : allowed action)
    (rest : CanReach step allowed next goal) : CanReach step allowed state goal := by
  obtain ⟨trace, last, others, ran, reached⟩ := rest
  refine ⟨action :: trace, last, ?_, ?_, reached⟩
  · intro other member
    rcases List.mem_cons.mp member with rfl | later
    · exact ok
    · exact others other later
  · rw [run, stepped]
    exact ran

theorem CanReach.trans {state : State} {middle : State → Prop}
    (first : CanReach step allowed state middle)
    (second : ∀ state, middle state → CanReach step allowed state goal) :
    CanReach step allowed state goal := by
  obtain ⟨front, between, ok, ran, there⟩ := first
  obtain ⟨back, last, others, rest, reached⟩ := second between there
  refine ⟨front ++ back, last, ?_, run_trans ran rest, reached⟩
  intro action member
  rcases List.mem_append.mp member with earlier | later
  · exact ok action earlier
  · exact others action later

/-- What every step towards the goal brings down gets there, and keeps its invariant. -/
theorem canReach_of_measure {holds : State → Prop} (measure : State → Nat)
    (advance : ∀ state, holds state → ¬ goal state → ∃ action next, allowed action ∧
      step state action = some next ∧ holds next ∧ measure next < measure state)
    {state : State} (start : holds state) :
    CanReach step allowed state fun last => holds last ∧ goal last := by
  induction work : measure state using Nat.strongRecOn generalizing state with
  | ind _ ih =>
    by_cases there : goal state
    · exact .now ⟨start, there⟩
    · obtain ⟨action, next, ok, stepped, kept, less⟩ := advance state start there
      exact .next stepped ok (ih _ (work ▸ less) kept rfl)

end Reach

end ReverseHttp.Transition
