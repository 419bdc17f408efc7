import ReverseHttp.StreamRegistry
import ReverseHttp.FirstMin

/-!
The default selector, and what a forward makes of its choice. The counts of each
worker are fixed while the selector looks at the list. `saturated` compares the
number of registered streams as a `uint32`; the registry has stream ids for keys,
so there are never enough of them for the conversion to wrap.
-/

namespace ReverseHttp.Selector

open FirstMin
open StreamRegistry (uint32)

/-- What selectors and `openStream` read of a `Worker`. -/
structure Worker where
  inFlight : Int
  streams : Finset Nat
  peerMaxStreams : Nat
  draining : Bool
  ids : streams ⊆ Finset.Icc 1 4294967295

def Worker.saturated (w : Worker) : Bool := w.peerMaxStreams ≤ uint32 w.streams.card

/-- The body of both loops, over `best` and `bestN`. -/
def consider (skip : Worker → Bool) (acc : Option Worker × Int) (w : Worker) :
    Option Worker × Int :=
  if skip w then acc
  else if acc.1.isNone ∨ w.inFlight < acc.2 then (some w, w.inFlight)
  else acc

def leastInFlightPick (workers : List Worker) : Option Worker :=
  match workers with
  | [] => none
  | _ :: _ =>
      let first := workers.foldl (consider Worker.saturated) (none, -1)
      match first.1 with
      | some best => some best
      | none => (workers.foldl (consider fun _ => false) first).1

def availableWorkers (workers : List Worker) : List Worker := workers.filter (!·.draining)

inductive Refusal where
  | noWorker
  | tunnelDraining
  | tunnelSaturated
  deriving DecidableEq, Repr

/-- The checks of `openStream`. -/
def Worker.refusal (w : Worker) : Option Refusal :=
  if w.draining then some .tunnelDraining
  else if w.peerMaxStreams ≤ uint32 w.streams.card then some .tunnelSaturated
  else none

/-- `forward` with the default selector, up to the open stream. -/
def forward (workers : List Worker) : Except Refusal Worker :=
  match leastInFlightPick (availableWorkers workers) with
  | none => .error .noWorker
  | some w =>
      match w.refusal with
      | some refusal => .error refusal
      | none => .ok w

/-- There is room for one more stream. -/
def Worker.BelowLimit (w : Worker) : Prop := w.streams.card < w.peerMaxStreams

theorem Worker.card_exact (w : Worker) : uint32 w.streams.card = w.streams.card := by
  have few : w.streams.card ≤ 4294967295 := by
    have bound := Finset.card_le_card w.ids
    simpa using bound
  exact Nat.mod_eq_of_lt (by omega)

theorem Worker.saturated_eq_false (w : Worker) : w.saturated = false ↔ w.BelowLimit := by
  simp [Worker.saturated, Worker.BelowLimit, w.card_exact]

/-- The loop variables after the workers in `seen`. -/
def Scanned (eligible : Worker → Prop) (seen : List Worker) (acc : Option Worker × Int) : Prop :=
  match acc.1 with
  | none => ∀ w ∈ seen, ¬ eligible w
  | some best => acc.2 = best.inFlight ∧ IsFirstMin eligible Worker.inFlight seen best

section Scan

variable {skip : Worker → Bool} {eligible : Worker → Prop}

theorem consider_scanned (fits : ∀ w, skip w = false ↔ eligible w) {seen : List Worker}
    {acc : Option Worker × Int} (scanned : Scanned eligible seen acc) (w : Worker) :
    Scanned eligible (seen ++ [w]) (consider skip acc w) := by
  obtain ⟨best, bestN⟩ := acc
  cases skipped : skip w with
  | true =>
      have unfit : ¬ eligible w := by
        rw [← fits w, skipped]
        simp
      simp only [consider, skipped, ↓reduceIte]
      cases best with
      | none =>
          intro other member
          rcases List.mem_append.mp member with old | new
          · exact scanned other old
          · exact List.mem_singleton.mp new ▸ unfit
      | some best => exact ⟨scanned.1, scanned.2.keep fun fit => absurd fit unfit⟩
  | false =>
      have fit := (fits w).mp skipped
      cases best with
      | none =>
          simp only [consider, skipped, Bool.false_eq_true, Option.isNone_none, true_or,
            ↓reduceIte]
          exact ⟨rfl, isFirstMin_only scanned fit⟩
      | some best =>
          obtain ⟨same, first⟩ := scanned
          simp only at same
          subst same
          by_cases smaller : w.inFlight < best.inFlight
          · simp only [consider, skipped, Bool.false_eq_true, smaller, or_true, ↓reduceIte]
            exact ⟨rfl, first.replace fit smaller⟩
          · simp only [consider, skipped, Bool.false_eq_true, smaller, Option.isNone_some,
              or_self, ↓reduceIte]
            exact ⟨rfl, first.keep fun _ => Int.not_lt.mp smaller⟩

/-- A whole pass, whatever the loop variables were left at by the pass before. -/
theorem pass_scanned (fits : ∀ w, skip w = false ↔ eligible w) (workers : List Worker)
    {seen : List Worker} {acc : Option Worker × Int} (scanned : Scanned eligible seen acc) :
    Scanned eligible (seen ++ workers) (workers.foldl (consider skip) acc) := by
  induction workers generalizing seen acc with
  | nil => simpa using scanned
  | cons w rest ih =>
      have next := ih (consider_scanned fits scanned w)
      rwa [List.append_assoc, List.singleton_append] at next

end Scan

/-- `best` is nil after the first pass exactly when every worker is saturated. -/
theorem first_pass (workers : List Worker) :
    Scanned Worker.BelowLimit workers
      (workers.foldl (consider Worker.saturated) (none, -1)) := by
  have start : Scanned Worker.BelowLimit [] (none, -1) := by
    intro w member
    cases member
  simpa using pass_scanned Worker.saturated_eq_false workers start

theorem second_pass (workers : List Worker) (bestN : Int) :
    Scanned (fun _ => True) workers
      (workers.foldl (consider fun _ => false) (none, bestN)) := by
  have start : Scanned (fun _ => True) [] (none, bestN) := by
    intro w member
    cases member
  simpa using pass_scanned (fun _ => by simp) workers start

/-- The two passes, by what the first one finds. -/
theorem pick_cases (workers : List Worker) :
    (workers = [] ∧ leastInFlightPick workers = none) ∨
    (∃ best, leastInFlightPick workers = some best ∧
      IsFirstMin Worker.BelowLimit Worker.inFlight workers best) ∨
    (∃ best, leastInFlightPick workers = some best ∧ (∀ w ∈ workers, ¬ w.BelowLimit) ∧
      IsFirstMin (fun _ => True) Worker.inFlight workers best) := by
  cases workers with
  | nil => exact .inl ⟨rfl, rfl⟩
  | cons w rest =>
      have first := first_pass (w :: rest)
      unfold leastInFlightPick
      generalize (w :: rest).foldl (consider Worker.saturated) (none, -1) = acc at first
      obtain ⟨best, bestN⟩ := acc
      cases best with
      | some best => exact .inr (.inl ⟨best, rfl, first.2⟩)
      | none =>
          have second := second_pass (w :: rest) bestN
          simp only
          generalize (w :: rest).foldl (consider fun _ => false) (none, bestN) = acc at second
          obtain ⟨best, bestN⟩ := acc
          cases best with
          | none => exact absurd trivial (second w List.mem_cons_self)
          | some best => exact .inr (.inr ⟨best, rfl, first, second.2⟩)

theorem pick_none (workers : List Worker) : leastInFlightPick workers = none ↔ workers = [] := by
  rcases pick_cases workers with ⟨empty, picked⟩ | ⟨best, picked, first⟩ | ⟨best, picked, -, first⟩
  · exact ⟨fun _ => empty, fun _ => picked⟩
  · simp [picked, List.ne_nil_of_mem first.mem]
  · simp [picked, List.ne_nil_of_mem first.mem]

theorem pick_below {workers : List Worker} (room : ∃ w ∈ workers, w.BelowLimit) :
    ∃ best, leastInFlightPick workers = some best ∧
      IsFirstMin Worker.BelowLimit Worker.inFlight workers best := by
  obtain ⟨w, member, below⟩ := room
  rcases pick_cases workers with ⟨empty, -⟩ | found | ⟨best, -, full, -⟩
  · subst empty
    cases member
  · exact found
  · exact absurd below (full w member)

theorem pick_full {workers : List Worker} (some_worker : workers ≠ [])
    (full : ∀ w ∈ workers, ¬ w.BelowLimit) :
    ∃ best, leastInFlightPick workers = some best ∧
      IsFirstMin (fun _ => True) Worker.inFlight workers best := by
  rcases pick_cases workers with ⟨empty, -⟩ | ⟨best, -, first⟩ | ⟨best, picked, -, first⟩
  · exact absurd empty some_worker
  · exact absurd first.fits (full best first.mem)
  · exact ⟨best, picked, first⟩

theorem refusal_saturated {w : Worker} (refused : w.refusal = some .tunnelSaturated) :
    ¬ w.BelowLimit := by
  unfold Worker.refusal at refused
  rw [w.card_exact] at refused
  split at refused
  · cases refused
  · split at refused
    · exact Nat.not_lt.mpr ‹_›
    · cases refused

/-- A saturated choice means that the first pass found no worker at all. -/
theorem forward_saturated {workers : List Worker}
    (refused : forward workers = .error .tunnelSaturated) :
    ∀ w ∈ availableWorkers workers, ¬ w.BelowLimit := by
  unfold forward at refused
  rcases pick_cases (availableWorkers workers) with
    ⟨-, picked⟩ | ⟨best, picked, first⟩ | ⟨best, -, full, -⟩
  · simp [picked] at refused
  · simp only [picked] at refused
    split at refused
    next refusal found =>
      cases refused
      exact absurd first.fits (refusal_saturated found)
    next => cases refused
  · exact full

/-- The selector is the first argmin of the in-flight counts, among the workers below
their limit if there are any; and a forward refused for saturation had no available
worker with room. -/
theorem leastInFlightPick_argmin (workers : List Worker) :
    (leastInFlightPick workers = none ↔ workers = []) ∧
    ((∃ w ∈ workers, w.BelowLimit) →
      ∃ best, leastInFlightPick workers = some best ∧
        IsFirstMin Worker.BelowLimit Worker.inFlight workers best) ∧
    (workers ≠ [] → (∀ w ∈ workers, ¬ w.BelowLimit) →
      ∃ best, leastInFlightPick workers = some best ∧
        IsFirstMin (fun _ => True) Worker.inFlight workers best) ∧
    (forward workers = .error .tunnelSaturated →
      ∀ w ∈ availableWorkers workers, ¬ w.BelowLimit) :=
  ⟨pick_none workers, pick_below, pick_full, forward_saturated⟩

/-- A worker at its limit with one request in flight. -/
def fullWorker : Worker where
  inFlight := 1
  streams := {1}
  peerMaxStreams := 1
  draining := false
  ids := by simp

/-- A busier worker with room. -/
def freeWorker : Worker where
  inFlight := 2
  streams := {1}
  peerMaxStreams := 100
  draining := false
  ids := by simp

theorem fullWorker_full : ∀ w ∈ [fullWorker], ¬ w.BelowLimit := by
  intro w member
  rw [List.mem_singleton.mp member]
  unfold Worker.BelowLimit
  decide

theorem leastInFlightPick_full_and_free :
    (∃ best, leastInFlightPick [fullWorker, freeWorker] = some best ∧
      IsFirstMin Worker.BelowLimit Worker.inFlight [fullWorker, freeWorker] best) ∧
    (∃ best, leastInFlightPick [fullWorker] = some best ∧
      IsFirstMin (fun _ => True) Worker.inFlight [fullWorker] best) ∧
    ∀ w ∈ availableWorkers [fullWorker], ¬ w.BelowLimit := by
  have room : ∃ w ∈ [fullWorker, freeWorker], w.BelowLimit := by
    refine ⟨freeWorker, by simp, ?_⟩
    unfold Worker.BelowLimit
    decide
  obtain ⟨-, below, -, -⟩ := leastInFlightPick_argmin [fullWorker, freeWorker]
  obtain ⟨-, -, full, refused⟩ := leastInFlightPick_argmin [fullWorker]
  exact ⟨below room, full (by simp) fullWorker_full, refused rfl⟩

end ReverseHttp.Selector
