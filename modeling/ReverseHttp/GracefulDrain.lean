import ReverseHttp.Transition
import ReverseHttp.Wire
import Mathlib.Tactic.Common

/-!
Graceful drain of one connection: `AddStream`, `RemoveStream`, `openStream`,
`dispatchInboundHeaders` and `BeginDrain` of any number of goroutines. Each
lock section, each load or store of `draining` and each body of a `sync.Once`
is one step; a call in progress is kept in `calls` at the point it has reached.

The worker's own lock, which `openStream` holds throughout, only orders such
calls among themselves; it is left out, so more interleavings are covered. An
`openStream` that stops at the peer's stream limit changes nothing, and one
whose HEADERS cannot be sent goes on as a `RemoveStream`.
-/

namespace ReverseHttp.GracefulDrain

open Transition Wire

inductive Call where
  | checked (id : StreamID)
  | removed (left : Nat)
  | finishing
  | stored
  | started
  | counted (left : Nat)
  | returned
  deriving DecidableEq

structure State where
  streams : List StreamID
  draining : Bool
  drainStarted : Bool
  drainDone : Bool
  calls : List Call
  deriving DecidableEq

def State.new : State := ⟨[], false, false, false, []⟩

inductive Action where
  | addStream (id : StreamID)
  | openStream (id : StreamID)
  | removeStream (id : StreamID)
  | beginDrain
  | advance (index : Nat)
  deriving DecidableEq

def addStream (st : State) (id : StreamID) : State :=
  { st with streams := st.streams.insert id }

/-- `Draining()` is asked first; `AddStream` follows as a step of its own. -/
def openStream (st : State) (id : StreamID) : State :=
  if st.draining then st else { st with calls := st.calls ++ [.checked id] }

/-- The lock section: delete the entry, then count what is left. -/
def removeStream (st : State) (id : StreamID) : State :=
  let streams := st.streams.filter (· ≠ id)
  { st with streams := streams, calls := st.calls ++ [.removed streams.length] }

def beginDrain (st : State) : State :=
  { st with draining := true, calls := st.calls ++ [.stored] }

def State.resume (st : State) (index : Nat) (call : Call) : State :=
  { st with calls := st.calls.set index call }

/-- The body of `drainDoneOnce`. -/
def finishDrain (st : State) : State := { st with drainDone := true }

def advance (st : State) (index : Nat) : Call → Option State
  | .checked id => some ((addStream st id).resume index .returned)
  | .removed left =>
      if left = 0 ∧ st.draining = true then some (st.resume index .finishing)
      else some (st.resume index .returned)
  | .finishing => some ((finishDrain st).resume index .returned)
  | .stored => some ({ st with drainStarted := true }.resume index .started)
  | .started => some (st.resume index (.counted st.streams.length))
  | .counted left =>
      if left = 0 then some ((finishDrain st).resume index .returned)
      else some (st.resume index .returned)
  | .returned => none

def step (st : State) : Action → Option State
  | .addStream id => some (addStream st id)
  | .openStream id => some (openStream st id)
  | .removeStream id => some (removeStream st id)
  | .beginDrain => some (beginDrain st)
  | .advance index => st.calls[index]?.bind (advance st index)

/-- A `RemoveStream` or `BeginDrain` that has yet to decide on `finishDrain`. A
`BeginDrain` counts from its store on. -/
def Call.undecided : Call → Bool
  | .removed _ | .finishing | .stored | .started | .counted _ => true
  | .checked _ | .returned => false

/-- A finished drain never sees a registered stream. -/
def Safe (st : State) : Prop := st.drainDone = true → st.draining = true ∧ st.streams = []

/-- A drained registry with nobody left to notice it has been noticed. -/
def NoLostCompletion (st : State) : Prop :=
  st.draining = true → st.streams = [] → (∀ call ∈ st.calls, call.undecided = false) →
    st.drainDone = true

/-- An `openStream` past its check registers next. -/
def Call.registers : Call → Bool
  | .checked _ => true
  | .removed _ | .finishing | .stored | .started | .counted _ | .returned => false

/-- Streams are registered only before the drain is announced, and it is not
announced while a stale zero count is outstanding. -/
def Orderly (st : State) : Action → Prop
  | .addStream _ => st.draining = false
  | .advance index => st.calls[index]?.any Call.registers = true → st.draining = false
  | .beginDrain => Call.removed 0 ∈ st.calls → st.streams = []
  | .openStream _ | .removeStream _ => True

instance (st : State) (action : Action) : Decidable (Orderly st action) := by
  unfold Orderly
  split <;> infer_instance

/-! Nothing is lost: whenever a draining registry is empty, the drain is done or
some call still has it in hand. This needs no condition on the run. -/

def Call.holds : Call → Bool
  | .removed left | .counted left => left == 0
  | .finishing | .stored | .started => true
  | .checked _ | .returned => false

theorem undecided_of_holds {call : Call} (holds : call.holds = true) :
    call.undecided = true := by
  cases call <;> simp_all [Call.holds, Call.undecided]

def InHand (st : State) : Prop :=
  st.draining = true → st.streams = [] → st.drainDone = true ∨ ∃ call ∈ st.calls, call.holds = true

theorem mem_set_of_ne {calls : List Call} {index : Nat} {old new call : Call}
    (present : calls[index]? = some old) (member : call ∈ calls) (different : call ≠ old) :
    call ∈ calls.set index new := by
  obtain ⟨place, found⟩ := List.mem_iff_getElem?.mp member
  refine List.mem_iff_getElem?.mpr ⟨place, ?_⟩
  have apart : index ≠ place := by
    rintro rfl
    rw [present] at found
    exact different (Option.some.inj found).symm
  rw [List.getElem?_set_ne apart, found]

theorem mem_set_self {calls : List Call} {index : Nat} {old new : Call}
    (present : calls[index]? = some old) : new ∈ calls.set index new := by
  have inside : index < calls.length := (List.getElem?_eq_some_iff.mp present).1
  exact List.mem_iff_getElem?.mpr ⟨index, by simp [inside]⟩

/-- A call that does not have the drain in hand may move on freely. -/
theorem inHand_resume {st : State} (inHand : InHand st) {index : Nat} {old new : Call}
    (present : st.calls[index]? = some old) (bystander : old.holds = false) :
    InHand (st.resume index new) := by
  intro draining empty
  rcases inHand draining empty with done | ⟨call, member, holds⟩
  · exact Or.inl done
  · refine Or.inr ⟨call, mem_set_of_ne present member ?_, holds⟩
    rintro rfl
    simp [bystander] at holds

/-- A call that takes the drain over, or keeps it. -/
theorem inHand_holds {st : State} {index : Nat} {old new : Call}
    (present : st.calls[index]? = some old) (holds : new.holds = true) :
    InHand (st.resume index new) :=
  fun _ _ => Or.inr ⟨new, mem_set_self present, holds⟩

theorem advance_inHand {st next : State} {index : Nat} {call : Call} (inHand : InHand st)
    (present : st.calls[index]? = some call) (stepped : advance st index call = some next) :
    InHand next := by
  cases call with
  | checked id =>
      obtain rfl := Option.some.inj stepped
      -- the registry is not empty any more
      intro _ empty
      have member : id ∈ st.streams.insert id := List.mem_insert_self
      simp only [State.resume, addStream] at empty
      simp [empty] at member
  | removed left =>
      simp only [advance] at stepped
      split at stepped
      · obtain rfl := Option.some.inj stepped
        exact inHand_holds present rfl
      · rename_i passed
        obtain rfl := Option.some.inj stepped
        by_cases zero : left = 0
        · intro draining
          exact absurd ⟨zero, draining⟩ passed
        · exact inHand_resume inHand present (by simp [Call.holds, zero])
  | finishing =>
      obtain rfl := Option.some.inj stepped
      exact fun _ _ => Or.inl rfl
  | stored =>
      obtain rfl := Option.some.inj stepped
      exact fun _ _ => Or.inr ⟨.started, mem_set_self present, rfl⟩
  | started =>
      obtain rfl := Option.some.inj stepped
      intro _ empty
      refine Or.inr ⟨.counted st.streams.length, mem_set_self present, ?_⟩
      simpa [Call.holds, State.resume] using empty
  | counted left =>
      simp only [advance] at stepped
      split at stepped
      · obtain rfl := Option.some.inj stepped
        exact fun _ _ => Or.inl rfl
      · rename_i more
        obtain rfl := Option.some.inj stepped
        exact inHand_resume inHand present (by simp [Call.holds, more])
  | returned => simp [advance] at stepped

theorem step_inHand {st next : State} {action : Action} (inHand : InHand st)
    (stepped : step st action = some next) : InHand next := by
  cases action with
  | addStream id =>
      obtain rfl := Option.some.inj stepped
      intro _ empty
      have member : id ∈ st.streams.insert id := List.mem_insert_self
      simp only [addStream] at empty
      simp [empty] at member
  | openStream id =>
      obtain rfl := Option.some.inj stepped
      unfold openStream
      split
      · exact inHand
      · rename_i serving
        exact fun draining => absurd draining serving
  | removeStream id =>
      obtain rfl := Option.some.inj stepped
      intro _ empty
      refine Or.inr ⟨.removed _, List.mem_append_right _ List.mem_cons_self, ?_⟩
      simpa [Call.holds, removeStream] using empty
  | beginDrain =>
      obtain rfl := Option.some.inj stepped
      exact fun _ _ => Or.inr ⟨.stored, by simp [beginDrain], rfl⟩
  | advance index =>
      obtain ⟨call, present, moved⟩ := Option.bind_eq_some_iff.mp stepped
      exact advance_inHand inHand present moved

theorem noLostCompletion_of_inHand {st : State} (inHand : InHand st) : NoLostCompletion st := by
  intro draining empty quiet
  rcases inHand draining empty with done | ⟨call, member, holds⟩
  · exact done
  · have decided := quiet call member
    rw [undecided_of_holds holds] at decided
    simp at decided

/-! Safety, in orderly runs. Once the drain is announced the registry only
shrinks, so an empty registry stays empty. -/

def Drained (st : State) : Prop := st.draining = true ∧ st.streams = []

structure Settled (st : State) : Prop where
  done : st.drainDone = true → Drained st
  zero : st.draining = true → Call.removed 0 ∈ st.calls → st.streams = []
  finishing : Call.finishing ∈ st.calls → Drained st
  announced : Call.stored ∈ st.calls ∨ Call.started ∈ st.calls → st.draining = true
  counted : Call.counted 0 ∈ st.calls → Drained st

theorem settled_new : Settled State.new := by
  constructor <;> simp [State.new]

/-- Before the announcement no call is in a state the invariant speaks of,
except a stale count. -/
theorem settled_serving {st : State} (serving : st.draining = false) (settled : Settled st)
    (streams : List StreamID) : Settled { st with streams := streams } := by
  have never : ¬ Drained st := fun drained => by simp [drained.1] at serving
  constructor
  · exact fun done => absurd (settled.done done) never
  · exact fun draining => absurd draining (by simp [serving])
  · exact fun member => absurd (settled.finishing member) never
  · exact settled.announced
  · exact fun member => absurd (settled.counted member) never

/-- A call moves on to a point that is covered on its own. -/
theorem settled_resume {st : State} (settled : Settled st) (index : Nat) (call : Call)
    (zero : call = .removed 0 → st.draining = true → st.streams = [])
    (finishing : call = .finishing → Drained st)
    (announced : call = .stored ∨ call = .started → st.draining = true)
    (counted : call = .counted 0 → Drained st) : Settled (st.resume index call) := by
  have source : ∀ other, other ∈ st.calls.set index call → other ∈ st.calls ∨ call = other :=
    fun other member => (List.mem_or_eq_of_mem_set member).imp id Eq.symm
  constructor
  · exact settled.done
  · intro draining member
    rcases source _ member with old | new
    · exact settled.zero draining old
    · exact zero new draining
  · intro member
    rcases source _ member with old | new
    · exact settled.finishing old
    · exact finishing new
  · rintro (member | member)
    · rcases source _ member with old | new
      · exact settled.announced (Or.inl old)
      · exact announced (Or.inl new)
    · rcases source _ member with old | new
      · exact settled.announced (Or.inr old)
      · exact announced (Or.inr new)
  · intro member
    rcases source _ member with old | new
    · exact settled.counted old
    · exact counted new

theorem settled_returned {st : State} (settled : Settled st) (index : Nat) :
    Settled (st.resume index .returned) := by
  apply settled_resume settled <;> simp

theorem settled_finished {st : State} (settled : Settled st) (drained : Drained st) :
    Settled (finishDrain st) :=
  ⟨fun _ => drained, settled.zero, settled.finishing, settled.announced, settled.counted⟩

theorem advance_settled {st next : State} {index : Nat} {call : Call} (settled : Settled st)
    (present : st.calls[index]? = some call)
    (orderly : call.registers = true → st.draining = false)
    (stepped : advance st index call = some next) : Settled next := by
  have member : call ∈ st.calls := List.mem_iff_getElem?.mpr ⟨index, present⟩
  cases call with
  | checked id =>
      obtain rfl := Option.some.inj stepped
      exact settled_returned (settled_serving (orderly rfl) settled _) index
  | removed left =>
      simp only [advance] at stepped
      split at stepped
      · rename_i last
        obtain ⟨rfl, draining⟩ := last
        obtain rfl := Option.some.inj stepped
        -- the count was taken before the flag was read; it still stands
        have drained : Drained st := ⟨draining, settled.zero draining member⟩
        apply settled_resume settled <;> simp [drained]
      · obtain rfl := Option.some.inj stepped
        exact settled_returned settled index
  | finishing =>
      obtain rfl := Option.some.inj stepped
      exact settled_returned (settled_finished settled (settled.finishing member)) index
  | stored =>
      obtain rfl := Option.some.inj stepped
      have draining := settled.announced (Or.inl member)
      have opened : Settled { st with drainStarted := true } :=
        ⟨settled.done, settled.zero, settled.finishing, settled.announced, settled.counted⟩
      apply settled_resume opened <;> simp [draining]
  | started =>
      obtain rfl := Option.some.inj stepped
      have draining := settled.announced (Or.inr member)
      apply settled_resume settled
      · simp
      · simp
      · simp
      · intro zero
        refine ⟨draining, ?_⟩
        simpa using zero
  | counted left =>
      simp only [advance] at stepped
      split at stepped
      · rename_i zero
        subst zero
        obtain rfl := Option.some.inj stepped
        exact settled_returned (settled_finished settled (settled.counted member)) index
      · obtain rfl := Option.some.inj stepped
        exact settled_returned settled index
  | returned => simp [advance] at stepped

theorem step_settled {st next : State} {action : Action} (settled : Settled st)
    (orderly : Orderly st action) (stepped : step st action = some next) : Settled next := by
  cases action with
  | addStream id =>
      obtain rfl := Option.some.inj stepped
      exact settled_serving orderly settled _
  | openStream id =>
      obtain rfl := Option.some.inj stepped
      unfold openStream
      split
      · exact settled
      · constructor
        · exact settled.done
        · intro draining member
          exact settled.zero draining (by simpa using member)
        · exact fun member => settled.finishing (by simpa using member)
        · exact fun member => settled.announced (by simpa using member)
        · exact fun member => settled.counted (by simpa using member)
  | removeStream id =>
      obtain rfl := Option.some.inj stepped
      have shrinks : Drained st → Drained (removeStream st id) :=
        fun drained => ⟨drained.1, by simp [removeStream, drained.2]⟩
      constructor
      · exact fun done => shrinks (settled.done done)
      · intro draining member
        simp only [removeStream, List.mem_append, List.mem_singleton, Call.removed.injEq] at member
        rcases member with old | last
        · exact (shrinks ⟨draining, settled.zero draining old⟩).2
        · exact List.length_eq_zero_iff.mp last.symm
      · exact fun member => shrinks (settled.finishing (by simpa [removeStream] using member))
      · exact fun member => settled.announced (by simpa [removeStream] using member)
      · exact fun member => shrinks (settled.counted (by simpa [removeStream] using member))
  | beginDrain =>
      obtain rfl := Option.some.inj stepped
      have keeps : Drained st → Drained (beginDrain st) := fun drained => ⟨rfl, drained.2⟩
      constructor
      · exact fun done => keeps (settled.done done)
      · intro _ member
        -- a zero counted before the announcement must not be stale now
        exact orderly (by simpa [beginDrain] using member)
      · exact fun member => keeps (settled.finishing (by simpa [beginDrain] using member))
      · exact fun _ => rfl
      · exact fun member => keeps (settled.counted (by simpa [beginDrain] using member))
  | advance index =>
      obtain ⟨call, present, moved⟩ := Option.bind_eq_some_iff.mp stepped
      refine advance_settled settled present (fun registers => orderly ?_) moved
      rw [present]
      exact registers

/-- In every orderly run a finished drain has an empty registry for good; and
no completion is ever lost. -/
theorem drain_completes_exactly (trace : List Action) (last : State)
    (orderly : Guarded step Orderly State.new trace)
    (ran : run step State.new trace = some last) : Safe last ∧ NoLostCompletion last := by
  constructor
  · have settled := run_invariant
      (fun _ _ _ settled orderly stepped => step_settled settled orderly stepped)
      settled_new orderly ran
    exact settled.done
  · have start : InHand State.new := fun draining => by simp [State.new] at draining
    exact noLostCompletion_of_inHand
      (run_invariant_all (fun _ _ _ inHand stepped => step_inHand inHand stepped) start ran)

/-- `openStream` passes its check, the drain is announced and finished, and only
then does the stream get registered. -/
def lateOpenTrace : List Action :=
  [.openStream 1, .beginDrain, .advance 1, .advance 1, .advance 1, .advance 0]

/-- The other way: the last `RemoveStream` counts zero, a new stream is opened,
the drain is announced, and the stale count finishes it. -/
def staleCountTrace : List Action :=
  [.openStream 1, .advance 0, .removeStream 1, .openStream 3, .advance 2, .beginDrain, .advance 1,
    .advance 1]

example : (run step State.new staleCountTrace).map (fun st => (st.drainDone, st.streams)) =
    some (true, [3]) := by decide

theorem drain_finishes_with_live_stream :
    ¬ ∀ trace last, run step State.new trace = some last → Safe last ∧ NoLostCompletion last := by
  intro claim
  obtain ⟨last, ran⟩ : ∃ last, run step State.new lateOpenTrace = some last :=
    Option.isSome_iff_exists.mp (by decide)
  have outcome : (run step State.new lateOpenTrace).map (fun st => (st.drainDone, st.streams)) =
      some (true, [1]) := by decide
  rw [ran] at outcome
  simp only [Option.map_some, Option.some.injEq, Prod.mk.injEq] at outcome
  have empty := ((claim lateOpenTrace last ran).1 outcome.1).2
  simp [outcome.2] at empty

/-- One request in flight when the drain is announced. -/
def lastRequestTrace : List Action :=
  [.openStream 1, .advance 0, .beginDrain, .openStream 3, .advance 1, .advance 1, .advance 1,
    .removeStream 1, .advance 2, .advance 2]

theorem drain_completes_exactly_last_request : ∃ last,
    run step State.new lastRequestTrace = some last ∧
      Guarded step Orderly State.new lastRequestTrace ∧ Safe last ∧ NoLostCompletion last := by
  obtain ⟨last, ran⟩ : ∃ last, run step State.new lastRequestTrace = some last :=
    Option.isSome_iff_exists.mp (by decide)
  have orderly : Guarded step Orderly State.new lastRequestTrace := by decide
  exact ⟨last, ran, orderly, drain_completes_exactly lastRequestTrace last orderly ran⟩

end ReverseHttp.GracefulDrain
