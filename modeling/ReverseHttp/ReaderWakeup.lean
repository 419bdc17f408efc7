import ReverseHttp.Transition
import ReverseHttp.Wire

/-!
Waking a frame reader. The loop of `serve` (worker) and `serveTunnel` (proxy)
tests `shutdownCh` and `DrainComplete`, arms the idle deadline and parks in
`ReadFrame`; before that it waits for SETTINGS with `ReadFrame` alone. A waker
closes its channel and sets the read deadline to now: `Shutdown` on the
connections in its snapshot, `finishDrain` on its own. Both run under a
`sync.Once`, so each acts at most once on a connection.

A worker's loop starts before `registerConn`; a proxy's starts after `attach`,
which tests the proxy's `shutdownCh` before it appends to `workers`.
-/

namespace ReverseHttp.ReaderWakeup

open Transition
open Wire (Role)

/-- The read deadline of the transport; `idle` is a time still to come. -/
inductive Deadline where
  | none
  | idle
  | expired
  deriving DecidableEq, Repr

/-- The next statement of the loop. The two `retest` points and `pinging` follow a
read timeout, `handling` a frame. -/
inductive Loop where
  | unstarted
  | handshake
  | testShutdown
  | testDrain
  | setDeadline
  | reading
  | handling
  | retestShutdown
  | retestDrain
  | pinging
  | returned
  deriving DecidableEq, Repr

/-- `Shutdown`: close, snapshot, poke. `known`: whether the connection is in the
snapshot. -/
inductive ShutdownWaker where
  | idle
  | closed
  | snapshotted (known : Bool)
  | completed
  deriving DecidableEq, Repr

inductive DrainWaker where
  | idle
  | closed
  | completed
  deriving DecidableEq, Repr

structure State where
  loop : Loop
  deadline : Deadline
  shutdown : Bool
  draining : Bool
  drainDone : Bool
  /-- `attach` has seen `shutdownCh` open -/
  attaching : Bool
  registered : Bool
  shutdownWaker : ShutdownWaker
  drainWaker : DrainWaker
  deriving DecidableEq, Repr

def State.new : State :=
  { loop := .unstarted, deadline := .none, shutdown := false, draining := false
    drainDone := false, attaching := false, registered := false, shutdownWaker := .idle
    drainWaker := .idle }

inductive Action where
  | attachTest
  | register
  | start
  | settings
  | frame
  | handled
  | beginDrain
  | timeout
  | fails
  | testShutdown
  | testDrain
  | setIdleDeadline
  | ping
  | tick
  | closeShutdown
  | snapshot
  | pokeShutdown
  | closeDrain
  | pokeDrain
  deriving DecidableEq, Repr

def mayRegister (role : Role) (st : State) : Bool :=
  match role with
  | .worker => st.loop ≠ .unstarted
  | .proxy => st.attaching

def mayStart (role : Role) (st : State) : Bool :=
  match role with
  | .worker => true
  | .proxy => st.registered

/-- A read timeout: an error in the handshake, a look at the flags later on. -/
def afterTimeout : Loop → Option Loop
  | .handshake => some .returned
  | .reading => some .retestShutdown
  | _ => none

/-- `select { case <-shutdownCh: return; default: }`, at the top or after a timeout. -/
def afterShutdownTest (shutdown : Bool) : Loop → Option Loop
  | .testShutdown => some (if shutdown then .returned else .testDrain)
  | .retestShutdown => some (if shutdown then .returned else .retestDrain)
  | _ => none

def afterDrainTest (drainDone : Bool) : Loop → Option Loop
  | .testDrain => some (if drainDone then .returned else .setDeadline)
  | .retestDrain => some (if drainDone then .returned else .pinging)
  | _ => none

def step (role : Role) (st : State) : Action → Option State
  | .attachTest =>
      if role = .proxy ∧ st.shutdown = false then some { st with attaching := true } else none
  | .register => if mayRegister role st then some { st with registered := true } else none
  | .start =>
      if st.loop = .unstarted ∧ mayStart role st then some { st with loop := .handshake } else none
  | .settings => if st.loop = .handshake then some { st with loop := .testShutdown } else none
  | .frame => if st.loop = .reading then some { st with loop := .handling } else none
  | .handled => if st.loop = .handling then some { st with loop := .testShutdown } else none
  | .beginDrain => if st.loop = .handling then some { st with draining := true } else none
  | .timeout =>
      if st.deadline = .expired then
        (afterTimeout st.loop).map fun loop => { st with loop := loop }
      else none
  -- a connection error, a frame that ends the loop, a missing PING ack
  | .fails => if st.loop ≠ .unstarted then some { st with loop := .returned } else none
  | .testShutdown =>
      (afterShutdownTest st.shutdown st.loop).map fun loop => { st with loop := loop }
  | .testDrain => (afterDrainTest st.drainDone st.loop).map fun loop => { st with loop := loop }
  -- overwrites a deadline that a waker has set to now
  | .setIdleDeadline =>
      if st.loop = .setDeadline then some { st with loop := .reading, deadline := .idle } else none
  | .ping => if st.loop = .pinging then some { st with loop := .testShutdown } else none
  | .tick => if st.deadline = .idle then some { st with deadline := .expired } else none
  | .closeShutdown =>
      if st.shutdownWaker = .idle then
        some { st with shutdown := true, shutdownWaker := .closed }
      else none
  | .snapshot =>
      if st.shutdownWaker = .closed then
        some { st with shutdownWaker := .snapshotted st.registered }
      else none
  | .pokeShutdown =>
      match st.shutdownWaker with
      -- only the connections in the snapshot are poked
      | .snapshotted known =>
          some { st with
            deadline := if known then .expired else st.deadline
            shutdownWaker := .completed }
      | _ => none
  | .closeDrain =>
      if st.draining = true ∧ st.drainWaker = .idle then
        some { st with drainDone := true, drainWaker := .closed }
      else none
  | .pokeDrain =>
      if st.drainWaker = .closed then
        some { st with deadline := .expired, drainWaker := .completed }
      else none

def State.parked (st : State) : Bool := st.loop = .handshake || st.loop = .reading

/-- Once a waker has completed, a parked reader's deadline has expired. -/
def Woken (st : State) : Prop :=
  st.shutdownWaker = .completed ∨ st.drainWaker = .completed → st.parked = true →
    st.deadline = .expired

instance (st : State) : Decidable (Woken st) :=
  inferInstanceAs (Decidable (_ ∨ _ → _ → _))

/-- The snapshot is taken with the connection registered, or with `attach` still to
come; the deadline is poked while the loop is not between seeing the waker's flag
open and arming the idle deadline. -/
def Timely (role : Role) (st : State) : Action → Prop
  | .snapshot => st.registered = true ∨ (role = .proxy ∧ st.attaching = false)
  | .pokeShutdown => st.loop ≠ .testDrain ∧ st.loop ≠ .setDeadline
  | .pokeDrain => st.loop ≠ .setDeadline
  | _ => True

instance (role : Role) (st : State) (action : Action) : Decidable (Timely role st action) := by
  unfold Timely
  split <;> infer_instance

/-- A proxy connection that `attach` will refuse. -/
def Refused (role : Role) (st : State) : Prop :=
  role = .proxy ∧ st.attaching = false ∧ st.registered = false ∧ st.loop = .unstarted

structure Valid (role : Role) (st : State) : Prop where
  attached : role = .proxy → (st.registered = true → st.attaching = true) ∧
    (st.loop ≠ .unstarted → st.registered = true)
  shutdown : st.shutdownWaker ≠ .idle → st.shutdown = true
  drained : st.drainWaker ≠ .idle → st.drainDone = true ∧ st.draining = true
  draining : st.draining = true → st.loop ≠ .unstarted ∧ st.loop ≠ .handshake
  snapshotted : ∀ known, st.shutdownWaker = .snapshotted known → known = true ∨ Refused role st
  shutdownWoke : st.shutdownWaker = .completed → Refused role st ∨
    (st.loop ≠ .testDrain ∧ st.loop ≠ .setDeadline ∧
      (st.loop = .unstarted ∨ st.parked = true → st.deadline = .expired))
  drainWoke : st.drainWaker = .completed →
    st.loop ≠ .setDeadline ∧ (st.loop = .reading → st.deadline = .expired)

theorem valid_new (role : Role) : Valid role State.new := by
  constructor <;> simp [State.new]

section Steps

variable {role : Role} {st next : State}

/-- The loop moves on. It may pass a flag test or arm the deadline only while the
waker of that flag has not completed. -/
theorem goto_valid (valid : Valid role st) (loop : Loop) (deadline : Deadline)
    (started : st.loop ≠ .unstarted) (later : loop ≠ .unstarted ∧ loop ≠ .handshake)
    (passed : loop = .testDrain ∨ loop = .setDeadline ∨ loop = .reading →
      st.shutdownWaker ≠ .completed)
    (passedDrain : loop = .setDeadline ∨ loop = .reading → st.drainWaker ≠ .completed) :
    Valid role { st with loop := loop, deadline := deadline } := by
  have begun : ¬ Refused role st := fun refused => started refused.2.2.2
  refine ⟨fun proxy => ⟨(valid.attached proxy).1, fun _ => (valid.attached proxy).2 started⟩,
    valid.shutdown, valid.drained, fun _ => later, ?_, ?_, ?_⟩
  · exact fun known taken => Or.inl ((valid.snapshotted known taken).resolve_right begun)
  · intro completed
    refine Or.inr ⟨?_, ?_, ?_⟩
    · exact fun here => passed (Or.inl here) completed
    · exact fun here => passed (Or.inr (Or.inl here)) completed
    · rintro (unstarted | parked)
      · exact absurd unstarted later.1
      · have reading : loop = .reading := by
          simpa [State.parked, later.2] using parked
        exact absurd completed (passed (Or.inr (Or.inr reading)))
  · intro completed
    exact ⟨fun here => passedDrain (Or.inl here) completed,
      fun here => absurd completed (passedDrain (Or.inr here))⟩

/-- The points at which no completed waker can be missed. -/
def Loop.resting : Loop → Bool
  | .testShutdown | .handling | .retestShutdown | .retestDrain | .pinging | .returned => true
  | _ => false

theorem rest_valid (valid : Valid role st) {loop : Loop} (deadline : Deadline)
    (started : st.loop ≠ .unstarted) (resting : loop.resting = true) :
    Valid role { st with loop := loop, deadline := deadline } := by
  refine goto_valid valid loop deadline started ⟨?_, ?_⟩ ?_ ?_
  · rintro rfl
    cases resting
  · rintro rfl
    cases resting
  · rintro (rfl | rfl | rfl) <;> cases resting
  · rintro (rfl | rfl) <;> cases resting

/-- The deadline passes, or is set to now. -/
theorem expire_valid (valid : Valid role st) : Valid role { st with deadline := .expired } := by
  refine ⟨valid.attached, valid.shutdown, valid.drained, valid.draining, valid.snapshotted,
    ?_, fun completed => ⟨(valid.drainWoke completed).1, fun _ => rfl⟩⟩
  intro completed
  rcases valid.shutdownWoke completed with refused | ⟨first, second, _⟩
  · exact Or.inl refused
  · exact Or.inr ⟨first, second, fun _ => rfl⟩

theorem snapshot_valid (valid : Valid role st) (timely : Timely role st .snapshot)
    (stepped : step role st .snapshot = some next) : Valid role next := by
  obtain ⟨closed, rfl⟩ := enabled stepped
  refine ⟨valid.attached, fun _ => valid.shutdown (by simp [closed]), valid.drained,
    valid.draining, ?_, nofun, valid.drainWoke⟩
  rintro known ⟨⟩
  rcases timely with registered | ⟨proxy, notAttaching⟩
  · exact Or.inl registered
  · -- `attach` will find `shutdownCh` closed
    obtain ⟨attached, started⟩ := valid.attached proxy
    have unregistered : st.registered = false := by
      cases registered : st.registered with
      | false => rfl
      | true => exact absurd ((attached registered).symm.trans notAttaching) (by simp)
    refine Or.inr ⟨proxy, notAttaching, unregistered, ?_⟩
    by_contra running
    exact absurd ((started running).symm.trans unregistered) (by simp)

theorem pokeShutdown_valid (valid : Valid role st) (timely : Timely role st .pokeShutdown)
    (stepped : step role st .pokeShutdown = some next) : Valid role next := by
  simp only [step] at stepped
  split at stepped
  case h_2 => cases stepped
  rename_i known taken
  cases stepped
  refine ⟨valid.attached, fun _ => valid.shutdown (by simp [taken]), valid.drained,
    valid.draining, nofun, ?_, ?_⟩
  · intro _
    rcases valid.snapshotted known taken with rfl | refused
    · exact Or.inr ⟨timely.1, timely.2, fun _ => rfl⟩
    · exact Or.inl refused
  · intro completed
    refine ⟨(valid.drainWoke completed).1, fun reading => ?_⟩
    dsimp only
    split
    · rfl
    · exact (valid.drainWoke completed).2 reading

theorem pokeDrain_valid (valid : Valid role st) (timely : Timely role st .pokeDrain)
    (stepped : step role st .pokeDrain = some next) : Valid role next := by
  obtain ⟨closed, rfl⟩ := enabled stepped
  have expired := expire_valid valid
  exact ⟨valid.attached, valid.shutdown, fun _ => valid.drained (by simp [closed]),
    valid.draining, valid.snapshotted, expired.shutdownWoke, fun _ => ⟨timely, fun _ => rfl⟩⟩

theorem start_valid (valid : Valid role st) (stepped : step role st .start = some next) :
    Valid role next := by
  obtain ⟨⟨unstarted, may⟩, rfl⟩ := enabled stepped
  have registered : role = .proxy → st.registered = true := by
    rintro rfl
    exact may
  have begun : ¬ Refused role st := by
    rintro ⟨proxy, _, unregistered, _⟩
    exact absurd ((registered proxy).symm.trans unregistered) (by simp)
  refine ⟨fun proxy => ⟨(valid.attached proxy).1, fun _ => registered proxy⟩, valid.shutdown,
    valid.drained, ?_, ?_, ?_, ?_⟩
  · exact fun draining => absurd unstarted (valid.draining draining).1
  · exact fun known taken => Or.inl ((valid.snapshotted known taken).resolve_right begun)
  · intro completed
    obtain ⟨_, _, expired⟩ := (valid.shutdownWoke completed).resolve_left begun
    exact Or.inr ⟨nofun, nofun, fun _ => expired (Or.inl unstarted)⟩
  · exact fun _ => ⟨nofun, nofun⟩

theorem testShutdown_valid (valid : Valid role st)
    (stepped : step role st .testShutdown = some next) : Valid role next := by
  obtain ⟨loop, tested, rfl⟩ := Option.map_eq_some_iff.mp stepped
  have unclosed : st.shutdown = false → st.shutdownWaker ≠ .completed := by
    intro notClosed completed
    exact absurd ((valid.shutdown (by simp [completed])).symm.trans notClosed) (by simp)
  cases here : st.loop with
  | testShutdown =>
      simp only [afterShutdownTest, here, Option.some.injEq] at tested
      subst tested
      split
      · exact rest_valid valid _ (by simp [here]) rfl
      · rename_i notClosed
        exact goto_valid valid _ _ (by simp [here]) (by simp)
          (fun _ => unclosed (by simpa using notClosed)) (by simp)
  | retestShutdown =>
      simp only [afterShutdownTest, here, Option.some.injEq] at tested
      subst tested
      split <;> exact rest_valid valid _ (by simp [here]) rfl
  | _ => simp [afterShutdownTest, here] at tested

theorem testDrain_valid (valid : Valid role st)
    (stepped : step role st .testDrain = some next) : Valid role next := by
  obtain ⟨loop, tested, rfl⟩ := Option.map_eq_some_iff.mp stepped
  cases here : st.loop with
  | testDrain =>
      -- a completed shutdown waker does not find the loop at this point
      have alive : st.shutdownWaker ≠ .completed := by
        intro completed
        rcases valid.shutdownWoke completed with refused | ⟨away, _, _⟩
        · exact absurd (here.symm.trans refused.2.2.2) (by simp)
        · exact away here
      simp only [afterDrainTest, here, Option.some.injEq] at tested
      subst tested
      split
      · exact rest_valid valid _ (by simp [here]) rfl
      · rename_i notDone
        refine goto_valid valid _ _ (by simp [here]) (by simp) (fun _ => alive) ?_
        intro _ completed
        exact notDone (valid.drained (by simp [completed])).1
  | retestDrain =>
      simp only [afterDrainTest, here, Option.some.injEq] at tested
      subst tested
      split <;> exact rest_valid valid _ (by simp [here]) rfl
  | _ => simp [afterDrainTest, here] at tested

theorem setIdleDeadline_valid (valid : Valid role st)
    (stepped : step role st .setIdleDeadline = some next) : Valid role next := by
  obtain ⟨here, rfl⟩ := enabled stepped
  refine goto_valid valid _ _ (by simp [here]) (by simp) ?_ ?_
  · intro _ completed
    rcases valid.shutdownWoke completed with refused | ⟨_, away, _⟩
    · exact absurd (here.symm.trans refused.2.2.2) (by simp)
    · exact away here
  · exact fun _ completed => (valid.drainWoke completed).1 here

theorem step_valid {action : Action} (valid : Valid role st) (timely : Timely role st action)
    (stepped : step role st action = some next) : Valid role next := by
  cases action with
  | attachTest =>
      obtain ⟨⟨_, notClosed⟩, rfl⟩ := enabled stepped
      have early : st.shutdownWaker = .idle := by
        by_contra begun
        exact absurd ((valid.shutdown begun).symm.trans notClosed) (by simp)
      refine ⟨fun proxy => ⟨fun _ => rfl, (valid.attached proxy).2⟩, valid.shutdown, valid.drained,
        valid.draining, ?_, ?_, valid.drainWoke⟩
      · exact fun known taken => absurd (early.symm.trans taken) (by simp)
      · exact fun completed => absurd (early.symm.trans completed) (by simp)
  | register =>
      obtain ⟨may, rfl⟩ := enabled stepped
      have begun : ¬ Refused role st := by
        rintro ⟨rfl, notAttaching, _, _⟩
        exact absurd (notAttaching.symm.trans may) (by simp)
      refine ⟨?_, valid.shutdown, valid.drained, valid.draining, ?_, ?_, valid.drainWoke⟩
      · rintro rfl
        exact ⟨fun _ => may, fun _ => rfl⟩
      · exact fun known taken => Or.inl ((valid.snapshotted known taken).resolve_right begun)
      · exact fun completed => Or.inr ((valid.shutdownWoke completed).resolve_left begun)
  | start => exact start_valid valid stepped
  | settings | frame | handled | ping =>
      obtain ⟨here, rfl⟩ := enabled stepped
      exact rest_valid valid _ (by simp [here]) rfl
  | beginDrain =>
      obtain ⟨here, rfl⟩ := enabled stepped
      refine ⟨valid.attached, valid.shutdown, fun begun => ⟨(valid.drained begun).1, rfl⟩, ?_,
        valid.snapshotted, valid.shutdownWoke, valid.drainWoke⟩
      exact fun _ => by simp [here]
  | timeout =>
      simp only [step] at stepped
      split at stepped
      case isFalse => cases stepped
      obtain ⟨loop, moved, rfl⟩ := Option.map_eq_some_iff.mp stepped
      cases here : st.loop with
      | handshake =>
          cases (congrArg afterTimeout here).symm.trans moved
          exact rest_valid valid _ (by simp [here]) rfl
      | reading =>
          cases (congrArg afterTimeout here).symm.trans moved
          exact rest_valid valid _ (by simp [here]) rfl
      | _ => simp [afterTimeout, here] at moved
  | fails =>
      obtain ⟨started, rfl⟩ := enabled stepped
      exact rest_valid valid _ started rfl
  | testShutdown => exact testShutdown_valid valid stepped
  | testDrain => exact testDrain_valid valid stepped
  | setIdleDeadline => exact setIdleDeadline_valid valid stepped
  | tick =>
      obtain ⟨_, rfl⟩ := enabled stepped
      exact expire_valid valid
  | closeShutdown =>
      obtain ⟨_, rfl⟩ := enabled stepped
      exact ⟨valid.attached, fun _ => rfl, valid.drained, valid.draining, nofun, nofun,
        valid.drainWoke⟩
  | snapshot => exact snapshot_valid valid timely stepped
  | pokeShutdown => exact pokeShutdown_valid valid timely stepped
  | closeDrain =>
      obtain ⟨⟨draining, _⟩, rfl⟩ := enabled stepped
      exact ⟨valid.attached, valid.shutdown, fun _ => ⟨rfl, draining⟩, valid.draining,
        valid.snapshotted, valid.shutdownWoke, nofun⟩
  | pokeDrain => exact pokeDrain_valid valid timely stepped

end Steps

/-- A waker that pokes at the right time is not missed: in every state after it
the reader is parked only with an expired deadline. -/
theorem completed_waker_is_seen {role : Role} {trace : List Action} {last : State}
    (timely : Guarded (step role) (Timely role) State.new trace)
    (ran : run (step role) State.new trace = some last) : Woken last := by
  have valid : Valid role last :=
    run_invariant (fun _ _ _ valid timely stepped => step_valid valid timely stepped)
      (valid_new role) timely ran
  rintro (shutdown | drain) parked
  · rcases valid.shutdownWoke shutdown with refused | ⟨_, _, expired⟩
    · exact absurd parked (by simp [State.parked, refused.2.2.2])
    · exact expired (Or.inr parked)
  · have past := valid.draining (valid.drained (by simp [drain])).2
    have reading : last.loop = .reading := by simpa [State.parked, past.2] using parked
    exact (valid.drainWoke drain).2 reading

/-- The loop has found both flags clear when the waker acts; its idle deadline then
overwrites the expired one. -/
def overwritten : List Action :=
  [.start, .register, .settings, .testShutdown, .testDrain, .closeShutdown, .snapshot,
    .pokeShutdown, .setIdleDeadline]

/-- The connection registers after the snapshot and waits for SETTINGS, without
any deadline. -/
def unknown : List Action :=
  [.start, .closeShutdown, .snapshot, .pokeShutdown, .register]

/-- The last stream leaves a draining connection in the same gap. -/
def overwrittenDrain : List Action :=
  [.attachTest, .register, .start, .settings, .testShutdown, .testDrain, .setIdleDeadline, .frame,
    .beginDrain, .handled, .testShutdown, .testDrain, .closeDrain, .pokeDrain, .setIdleDeadline]

theorem waker_is_missed :
    (¬ ∀ trace last, run (step .worker) State.new trace = some last → Woken last) ∧
      ¬ ∀ trace last, run (step .proxy) State.new trace = some last → Woken last := by
  constructor
  · intro always
    have ran : (run (step .worker) State.new overwritten).map (fun last => decide (Woken last)) =
        some false := by
      decide
    obtain ⟨last, reached, missed⟩ := Option.map_eq_some_iff.mp ran
    exact absurd (always _ last reached) (of_decide_eq_false missed)
  · intro always
    have ran : (run (step .proxy) State.new overwrittenDrain).map
        (fun last => decide (Woken last)) = some false := by
      decide
    obtain ⟨last, reached, missed⟩ := Option.map_eq_some_iff.mp ran
    exact absurd (always _ last reached) (of_decide_eq_false missed)

/-- The same for a connection that the snapshot does not have. -/
example : (run (step .worker) State.new unknown).map (fun last => decide (Woken last)) =
    some false := by
  decide

/-- Both wakers find the reader parked, one after the other. -/
def wakenTwice : List Action :=
  [.start, .register, .settings, .testShutdown, .testDrain, .setIdleDeadline, .frame, .beginDrain,
    .handled, .testShutdown, .testDrain, .setIdleDeadline, .closeDrain, .closeShutdown, .snapshot,
    .pokeDrain, .pokeShutdown]

theorem completed_waker_is_seen_twice :
    ∃ last, run (step .worker) State.new wakenTwice = some last ∧
      Guarded (step .worker) (Timely .worker) State.new wakenTwice ∧ last.parked = true ∧
      last.shutdownWaker = .completed ∧ Woken last := by
  have ran : (run (step .worker) State.new wakenTwice).map
      (fun last => (last.parked, last.shutdownWaker)) = some (true, .completed) := by
    decide
  obtain ⟨last, reached, shape⟩ := Option.map_eq_some_iff.mp ran
  have timely : Guarded (step .worker) (Timely .worker) State.new wakenTwice := by decide
  rw [Prod.mk.injEq] at shape
  exact ⟨last, reached, timely, shape.1, shape.2, completed_waker_is_seen timely reached⟩

end ReverseHttp.ReaderWakeup
