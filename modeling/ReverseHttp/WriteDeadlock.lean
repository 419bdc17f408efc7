import ReverseHttp.Transition
import ReverseHttp.Wire
import Mathlib.Algebra.BigOperators.Group.List.Basic
import Mathlib.Algebra.GroupWithZero.Nat
import Mathlib.Tactic.Common

/-!
The two halves of a tunnel and the bounded buffers between them. Each half has a
frame reader, a write queue of `writeQSize` places, a writer and any number of
goroutines that submit a frame and wait for its result; on the proxy `openStream`
holds `streamsMu` from before its HEADERS are submitted until they are written. The
transport towards the peer holds `capacity` frames. A frame is its type; what a
reader submits in answer depends on more than that, so the schedule picks one of
the possible answers. Whoever waits for a place in a queue, for the transport or
for the mutex is a step that is not enabled.

Both peers stay alive. Flow control is left out: it only takes runs away, and the run
given below sends fewer than 200 bytes each way.
-/

namespace ReverseHttp.WriteDeadlock

open Transition
open Wire (Role writeQSize)

inductive Frame where
  | settings
  | settingsAck
  | windowUpdate
  | ping
  | pingAck
  | rstStream
  | headers
  | data
  deriving DecidableEq, Repr

inductive Submitter where
  | nobody
  | writer (index : Nat)
  | openStream
  deriving DecidableEq, Repr

/-- A write intent; without a frame it is the encoder's new table size. -/
structure Intent where
  frame : Option Frame
  submitter : Submitter
  deriving DecidableEq, Repr

/-- `submitting` holds what the reader has still to submit; with nothing left it
reads on. `locking` is `getStream` on the proxy. -/
inductive Reader where
  | submitting (answers : List (Option Frame))
  | locking (answers : List (Option Frame))
  deriving DecidableEq, Repr

/-- One half: `hand` is the intent its writer is processing, `outgoing` the transport
towards the peer, `waiting` who waits for a result. -/
structure Half where
  queue : List Intent
  hand : Option Intent
  outgoing : List Frame
  reader : Reader
  waiting : Nat → Bool

/-- `Worker.streamsMu` by where `openStream` stands. -/
inductive Mutex where
  | free
  | held
  | sending
  | sent
  deriving DecidableEq, Repr

structure State where
  worker : Half
  proxy : Half
  streamsMu : Mutex

/-- `h2.New` writes the first SETTINGS before there is a writer. -/
def Half.new : Half :=
  { queue := [], hand := none, outgoing := [.settings], reader := .submitting []
    waiting := fun _ => false }

def State.new : State := { worker := Half.new, proxy := Half.new, streamsMu := .free }

def State.half (st : State) : Role → Half
  | .worker => st.worker
  | .proxy => st.proxy

def State.put (st : State) (side : Role) (half : Half) : State :=
  match side with
  | .worker => { st with worker := half }
  | .proxy => { st with proxy := half }

@[simp] theorem half_put (st : State) (side : Role) (half : Half) :
    (st.put side half).half side = half := by
  cases side <;> rfl

@[simp] theorem half_put_other (st : State) (side : Role) (half : Half) :
    (st.put side half).half side.other = st.half side.other := by
  cases side <;> rfl

@[simp] theorem half_other_put (st : State) (side : Role) (half : Half) :
    (st.put side.other half).half side = st.half side := by
  cases side <;> rfl

@[simp] theorem put_put (st : State) (side : Role) (first second : Half) :
    (st.put side first).put side second = st.put side second := by
  cases side <;> rfl

/-- The answers of a frame loop to a frame: DATA has none without payload, and
RST_STREAM in place of the second WINDOW_UPDATE for an unknown stream. -/
def answers : Role → Frame → List (List (Option Frame))
  | _, .settings => [[some .settingsAck], [none, some .settingsAck]]
  | _, .data =>
      [[], [some .windowUpdate, some .windowUpdate], [some .windowUpdate, some .rstStream]]
  | _, .ping => [[some .pingAck]]
  | .proxy, .headers => [[], [some .rstStream]]
  | _, _ => [[]]

/-- The proxy's loop looks a response or a reset up in `Worker.streams`. -/
def looksUp : Role → Frame → Bool
  | .proxy, .headers | .proxy, .rstStream => true
  | _, _ => false

/-- What handlers and body pumps submit and wait for. -/
def writes : Role → Frame → Bool
  | .worker, .headers | _, .data => true
  | _, _ => false

inductive Action where
  | submit (side : Role) (writer : Nat) (frame : Frame)
  | sendRST (side : Role)
  | take (side : Role)
  | write (side : Role)
  | read (side : Role) (chosen : List (Option Frame))
  | getStream
  | answer (side : Role)
  | idlePing (side : Role)
  | lockStreams
  | refuse
  | sendHeaders
  | unlockStreams
  deriving DecidableEq, Repr

def Half.full (half : Half) : Bool := writeQSize ≤ half.queue.length

def Half.push (half : Half) (frame : Option Frame) (submitter : Submitter) : Half :=
  { half with queue := half.queue ++ [{ frame := frame, submitter := submitter }] }

def Half.submitted (half : Half) (w : Nat) (frame : Frame) : Half :=
  { half.push (some frame) (.writer w) with waiting := Function.update half.waiting w true }

def Half.taken (half : Half) (intent : Intent) (rest : List Intent) : Half :=
  { half with hand := some intent, queue := rest }

def Half.sent (half : Half) (frame : Frame) : Half :=
  { half with hand := none, outgoing := half.outgoing ++ [frame] }

def Half.heard (half : Half) (w : Nat) : Half :=
  { half with waiting := Function.update half.waiting w false }

def Half.withReader (half : Half) (reader : Reader) : Half := { half with reader := reader }

/-- The intent has been processed and its submitter hears of it. -/
def State.answered (st : State) (side : Role) : Submitter → State
  | .nobody => st
  | .writer w => st.put side ((st.half side).heard w)
  | .openStream => { st with streamsMu := .sent }

def step (capacity : Role → Nat) (st : State) : Action → Option State
  | .submit side w frame =>
      let half := st.half side
      if writes side frame ∧ half.waiting w = false ∧ half.full = false then
        some (st.put side (half.submitted w frame))
      else none
  | .sendRST side =>
      if (st.half side).full = false then
        some (st.put side ((st.half side).push (some .rstStream) .nobody))
      else none
  | .take side =>
      match (st.half side).hand, (st.half side).queue with
      | none, intent :: rest =>
          some (st.put side ((st.half side).taken intent rest))
      | _, _ => none
  | .write side =>
      let half := st.half side
      match half.hand with
      | none => none
      -- `SetMaxDynamicTableSize` writes nothing
      | some { frame := none, submitter } =>
          some ((st.put side { half with hand := none }).answered side submitter)
      | some { frame := some frame, submitter } =>
          if half.outgoing.length < capacity side then
            some ((st.put side (half.sent frame)).answered side submitter)
          else none
  | .read side chosen =>
      let peer := st.half side.other
      match (st.half side).reader, peer.outgoing with
      | .submitting [], frame :: rest =>
          if chosen ∈ answers side frame then
            let read := st.put side.other { peer with outgoing := rest }
            some (read.put side ((read.half side).withReader
              (if looksUp side frame then .locking chosen else .submitting chosen)))
          else none
      | _, _ => none
  | .getStream =>
      match st.proxy.reader with
      | .locking chosen =>
          if st.streamsMu = .free then
            some (st.put .proxy (st.proxy.withReader (.submitting chosen)))
          else none
      | _ => none
  -- `submitAsync`: blocked while the queue is full
  | .answer side =>
      match (st.half side).reader with
      | .submitting (frame :: rest) =>
          if (st.half side).full = false then
            some (st.put side
              (((st.half side).push frame .nobody).withReader (.submitting rest)))
          else none
      | _ => none
  -- the idle check runs in the reader, between two frames
  | .idlePing side =>
      if (st.half side).reader = .submitting [] then
        some (st.put side ((st.half side).withReader (.submitting [some .ping])))
      else none
  | .lockStreams =>
      if st.streamsMu = .free then some { st with streamsMu := .held } else none
  | .refuse =>
      if st.streamsMu = .held then some { st with streamsMu := .free } else none
  | .sendHeaders =>
      if st.streamsMu = .held ∧ st.proxy.full = false then
        some { st.put .proxy (st.proxy.push (some .headers) .openStream) with
          streamsMu := .sending }
      else none
  | .unlockStreams =>
      if st.streamsMu = .sent then some { st with streamsMu := .free } else none

/-- The frame reader waits in `submitAsync` for a place, or for `streamsMu`. -/
def State.readerBlocked (st : State) (side : Role) : Bool :=
  match (st.half side).reader with
  | .submitting [] => false
  | .submitting (_ :: _) => (st.half side).full
  | .locking _ => st.streamsMu ≠ .free

def State.writerBlocked (capacity : Role → Nat) (st : State) (side : Role) : Bool :=
  match (st.half side).hand with
  | some { frame := some _, .. } => capacity side ≤ (st.half side).outgoing.length
  | _ => false

def Deadlocked (capacity : Role → Nat) (st : State) : Prop :=
  ∀ side, st.readerBlocked side = true ∧ st.writerBlocked capacity side = true

/-! The worker's load: what is in its queue, and what the frames on their way to it may
yet make its reader submit. -/

def Frame.cost : Frame → Nat
  | .settings | .data => 2
  | .ping => 1
  | _ => 0

def Intent.cost (intent : Intent) : Nat := (intent.frame.map Frame.cost).getD 0

def Reader.pending : Reader → List (Option Frame)
  | .submitting chosen | .locking chosen => chosen

def Reader.cost (reader : Reader) : Nat :=
  (reader.pending.map fun frame => (frame.map Frame.cost).getD 0).sum

/-- What of the proxy's own frames is on its way. -/
def Half.owing (half : Half) : Nat :=
  (half.queue.map Intent.cost).sum + (half.hand.map Intent.cost).getD 0 +
    (half.outgoing.map Frame.cost).sum + half.reader.cost

def State.load (st : State) : Nat :=
  st.worker.queue.length + st.worker.reader.pending.length + st.proxy.owing

/-- New work for the worker's queue is taken up only with room for it there. -/
def Paced (st : State) : Action → Prop
  | .submit .worker _ _ | .sendRST .worker | .idlePing .worker | .idlePing .proxy =>
      st.load + 1 ≤ writeQSize
  | .submit .proxy _ frame => st.load + frame.cost ≤ writeQSize
  | _ => True

instance (st : State) (action : Action) : Decidable (Paced st action) := by
  unfold Paced
  split <;> infer_instance

structure Valid (st : State) : Prop where
  light : st.load ≤ writeQSize
  reading : ∃ chosen, st.worker.reader = .submitting chosen

theorem valid_new : Valid State.new := ⟨by decide, [], rfl⟩

theorem worker_answers {frame : Frame} {chosen : List (Option Frame)}
    (possible : chosen ∈ answers .worker frame) : chosen.length ≤ frame.cost := by
  cases frame <;> simp [answers] at possible <;> rcases possible with rfl | rfl | rfl <;> decide

/-- The proxy's answers make the worker's reader submit nothing. -/
theorem proxy_answers {frame : Frame} {chosen : List (Option Frame)}
    (possible : chosen ∈ answers .proxy frame) :
    (chosen.map fun frame => (frame.map Frame.cost).getD 0).sum = 0 := by
  cases frame <;> simp [answers] at possible <;> rcases possible with rfl | rfl | rfl <;> rfl

section Steps

variable {capacity : Role → Nat} {st next : State} {side : Role} {half : Half}

theorem worker_valid
    (light : half.queue.length + half.reader.pending.length + st.proxy.owing ≤ writeQSize)
    (reading : ∃ chosen, half.reader = .submitting chosen) : Valid (st.put .worker half) :=
  ⟨light, reading⟩

theorem proxy_valid (valid : Valid st)
    (light : st.worker.queue.length + st.worker.reader.pending.length + half.owing ≤ writeQSize) :
    Valid (st.put .proxy half) :=
  ⟨light, valid.reading⟩

theorem answered_valid (valid : Valid st) (submitter : Submitter) :
    Valid (st.answered side submitter) := by
  cases submitter with
  | nobody => exact valid
  | writer w => cases side <;> exact ⟨valid.light, valid.reading⟩
  | openStream => exact ⟨valid.light, valid.reading⟩

theorem mutex_valid (valid : Valid st) (mutex : Mutex) : Valid { st with streamsMu := mutex } :=
  ⟨valid.light, valid.reading⟩

theorem length_push (half : Half) (frame : Option Frame) (submitter : Submitter) :
    (half.push frame submitter).queue.length = half.queue.length + 1 := by
  simp [Half.push]

theorem owing_push (half : Half) (frame : Option Frame) (submitter : Submitter) :
    (half.push frame submitter).owing = half.owing + (frame.map Frame.cost).getD 0 := by
  simp only [Half.push, Half.owing, Intent.cost, List.map_append, List.map_cons, List.map_nil,
    List.sum_append, List.sum_cons, List.sum_nil]
  omega

theorem owing_reader (half : Half) (place : Reader) :
    (half.withReader place).owing + half.reader.cost = half.owing + place.cost := by
  simp only [Half.owing, Half.withReader]
  omega

theorem submit_valid {w : Nat} {frame : Frame} (valid : Valid st)
    (paced : Paced st (.submit side w frame))
    (stepped : step capacity st (.submit side w frame) = some next) : Valid next := by
  obtain ⟨_, rfl⟩ := enabled stepped
  cases side with
  | worker =>
      refine worker_valid ?_ valid.reading
      simp only [Paced, State.load] at paced
      have longer := length_push st.worker (some frame) (.writer w)
      simp only [State.half, Half.submitted, Half.push] at longer ⊢
      omega
  | proxy =>
      refine proxy_valid valid ?_
      simp only [Paced, State.load] at paced
      have heavier := owing_push st.proxy (some frame) (.writer w)
      simp only [Option.map_some, Option.getD_some] at heavier
      change _ + (st.proxy.push (some frame) (.writer w)).owing ≤ _
      omega

theorem sendRST_valid (valid : Valid st) (paced : Paced st (.sendRST side))
    (stepped : step capacity st (.sendRST side) = some next) : Valid next := by
  have light := valid.light
  obtain ⟨_, rfl⟩ := enabled stepped
  cases side with
  | worker =>
      refine worker_valid ?_ valid.reading
      simp only [Paced, State.load] at paced
      rw [length_push]
      simp only [State.half, Half.push]
      omega
  | proxy =>
      refine proxy_valid valid ?_
      rw [owing_push]
      exact light

theorem take_valid (valid : Valid st) (stepped : step capacity st (.take side) = some next) :
    Valid next := by
  have light := valid.light
  simp only [step] at stepped
  split at stepped
  next intent rest empty queue =>
    obtain rfl := Option.some.inj stepped
    cases side with
    | worker =>
        refine worker_valid ?_ valid.reading
        simp only [State.half] at queue
        simp only [State.load, queue, List.length_cons] at light
        simp only [State.half, Half.taken]
        omega
    | proxy =>
        refine proxy_valid valid ?_
        simp only [State.half] at queue empty
        simp only [State.load, Half.owing, queue, empty, List.map_cons, List.sum_cons,
          Option.map_none, Option.getD_none] at light
        simp only [State.half, Half.owing, Half.taken, Option.map_some, Option.getD_some]
        omega
  next => cases stepped

theorem write_valid (valid : Valid st) (stepped : step capacity st (.write side) = some next) :
    Valid next := by
  have light := valid.light
  simp only [step] at stepped
  split at stepped
  next => cases stepped
  next submitter hand =>
    obtain rfl := Option.some.inj stepped
    refine answered_valid ?_ submitter
    cases side with
    | worker => exact worker_valid light valid.reading
    | proxy =>
        refine proxy_valid valid ?_
        simp only [State.half] at hand ⊢
        simpa [State.load, Half.owing, hand, Intent.cost] using light
  next frame submitter hand =>
    obtain ⟨_, rfl⟩ := enabled stepped
    refine answered_valid ?_ submitter
    cases side with
    | worker => exact worker_valid light valid.reading
    | proxy =>
        refine proxy_valid valid ?_
        simp only [State.half] at hand ⊢
        simp only [State.load, Half.owing, hand, Intent.cost, Option.map_some, Option.getD_some]
          at light
        simp only [Half.owing, Half.sent, List.map_append, List.map_cons, List.map_nil,
          List.sum_append, List.sum_cons, List.sum_nil, Option.map_none, Option.getD_none]
        omega

theorem read_valid {chosen : List (Option Frame)} (valid : Valid st)
    (stepped : step capacity st (.read side chosen) = some next) : Valid next := by
  have light := valid.light
  simp only [step] at stepped
  split at stepped
  next frame rest reader arrived =>
    obtain ⟨possible, rfl⟩ := enabled stepped
    cases side with
    | worker =>
        have few := worker_answers possible
        simp only [State.half, Role.other] at reader arrived
        refine worker_valid ?_ ⟨chosen, rfl⟩
        simp only [State.load, Half.owing, reader, arrived, Reader.pending, List.length_nil,
          List.map_cons, List.sum_cons] at light
        simp only [State.put, State.half, Role.other, Half.owing, Half.withReader, looksUp,
          Reader.pending, Bool.false_eq_true, if_false]
        omega
    | proxy =>
        have free := proxy_answers possible
        simp only [State.half, Role.other] at reader arrived
        have cheap : ∀ place : Reader, place.pending = chosen →
            (st.proxy.withReader place).owing ≤ st.proxy.owing := by
          intro place pending
          have moved := owing_reader st.proxy place
          have nothing : place.cost = 0 := by rw [Reader.cost, pending, free]
          omega
        have lighter := cheap (if looksUp .proxy frame then .locking chosen else .submitting chosen)
          (by split <;> rfl)
        exact ⟨Nat.le_trans (Nat.add_le_add_left lighter _) light, valid.reading⟩
  next => cases stepped

theorem getStream_valid (valid : Valid st) (stepped : step capacity st .getStream = some next) :
    Valid next := by
  have light := valid.light
  simp only [step] at stepped
  split at stepped
  next chosen reader =>
    obtain ⟨_, rfl⟩ := enabled stepped
    refine proxy_valid valid ?_
    have moved := owing_reader st.proxy (.submitting chosen)
    have same : st.proxy.reader.cost = (Reader.submitting chosen).cost := by
      simp only [reader, Reader.cost, Reader.pending]
    simp only [State.load] at light
    omega
  next => cases stepped

theorem answer_valid (valid : Valid st) (stepped : step capacity st (.answer side) = some next) :
    Valid next := by
  have light := valid.light
  simp only [step] at stepped
  split at stepped
  next frame rest reader =>
    obtain ⟨_, rfl⟩ := enabled stepped
    cases side with
    | worker =>
        refine worker_valid ?_ ⟨rest, rfl⟩
        simp only [State.half] at reader ⊢
        simp only [State.load, reader, Reader.pending, List.length_cons] at light
        simp only [Half.withReader, length_push, Reader.pending]
        omega
    | proxy =>
        refine proxy_valid valid ?_
        simp only [State.half] at reader ⊢
        have moved := owing_reader (st.proxy.push frame .nobody) (.submitting rest)
        have pushed := owing_push st.proxy frame .nobody
        have spent : (st.proxy.push frame .nobody).reader.cost =
            (frame.map Frame.cost).getD 0 + (Reader.submitting rest).cost := by
          simp only [Half.push, reader, Reader.cost, Reader.pending, List.map_cons, List.sum_cons]
        simp only [State.load] at light
        omega
  next => cases stepped

theorem idlePing_valid (valid : Valid st) (paced : Paced st (.idlePing side))
    (stepped : step capacity st (.idlePing side) = some next) : Valid next := by
  obtain ⟨idle, rfl⟩ := enabled stepped
  cases side with
  | worker =>
      refine worker_valid ?_ ⟨[some .ping], rfl⟩
      simp only [Paced, State.load] at paced
      simp only [State.half] at idle ⊢
      simp only [idle, Reader.pending, List.length_nil] at paced
      simp only [Half.withReader, Reader.pending, List.length_cons, List.length_nil]
      omega
  | proxy =>
      refine proxy_valid valid ?_
      simp only [Paced, State.load] at paced
      have moved := owing_reader st.proxy (.submitting [some .ping])
      have one : (Reader.submitting [some .ping]).cost = 1 := rfl
      simp only [State.half]
      omega

theorem sendHeaders_valid (valid : Valid st)
    (stepped : step capacity st .sendHeaders = some next) : Valid next := by
  have light := valid.light
  obtain ⟨_, rfl⟩ := enabled stepped
  refine mutex_valid (proxy_valid valid ?_) .sending
  rw [owing_push]
  exact light

/-- Every paced step leaves room in the worker's queue for what its reader may submit. -/
theorem step_valid {action : Action} (valid : Valid st) (paced : Paced st action)
    (stepped : step capacity st action = some next) : Valid next := by
  cases action with
  | submit side w frame => exact submit_valid valid paced stepped
  | sendRST side => exact sendRST_valid valid paced stepped
  | take side => exact take_valid valid stepped
  | write side => exact write_valid valid stepped
  | read side chosen => exact read_valid valid stepped
  | getStream => exact getStream_valid valid stepped
  | answer side => exact answer_valid valid stepped
  | idlePing side => exact idlePing_valid valid paced stepped
  | sendHeaders => exact sendHeaders_valid valid stepped
  | lockStreams | refuse | unlockStreams =>
      obtain ⟨_, rfl⟩ := enabled stepped
      exact mutex_valid valid _

end Steps

/-- A worker reader with an answer left finds a place for it. -/
theorem Valid.free {st : State} (valid : Valid st) : st.readerBlocked .worker = false := by
  obtain ⟨chosen, reader⟩ := valid.reading
  have light := valid.light
  cases chosen with
  | nil => simp [State.readerBlocked, State.half, reader]
  | cons first rest =>
      simp only [State.load, reader, Reader.pending, List.length_cons] at light
      simp only [State.readerBlocked, State.half, reader, Half.full]
      exact decide_eq_false (by omega)

/-- In every run that takes up new work for the worker's queue only with room for the
answers, the tunnel is never deadlocked, whatever the transports hold. -/
theorem paced_tunnel_never_deadlocks {capacity : Role → Nat} {trace : List Action} {last : State}
    (guarded : Guarded (step capacity) Paced State.new trace)
    (ran : run (step capacity) State.new trace = some last) : ¬ Deadlocked capacity last := by
  intro jammed
  have valid := run_invariant
    (fun _ _ _ valid paced stepped => step_valid valid paced stepped) valid_new guarded ran
  have blocked := (jammed .worker).1
  rw [valid.free] at blocked
  cases blocked

/-- A request body towards the worker, credited over transports of one frame. -/
def pacedExchange : List Action :=
  [.read .worker [some .settingsAck], .answer .worker, .lockStreams, .sendHeaders, .take .proxy,
    .read .proxy [some .settingsAck], .write .proxy, .unlockStreams, .read .worker [],
    .submit .proxy 0 .data, .take .proxy, .write .proxy,
    .read .worker [some .windowUpdate, some .windowUpdate], .answer .worker, .answer .worker]

theorem paced_exchange_never_deadlocks :
    ∃ last, run (step fun _ => 1) State.new pacedExchange = some last ∧
      Guarded (step fun _ => 1) Paced State.new pacedExchange ∧
      last.worker.queue.length = 3 ∧ ¬ Deadlocked (fun _ => 1) last := by
  have guarded : Guarded (step fun _ => 1) Paced State.new pacedExchange := by decide
  have ran : (run (step fun _ => 1) State.new pacedExchange).map (·.worker.queue.length) =
      some 3 := by
    decide
  obtain ⟨last, ran, queued⟩ := Option.map_eq_some_iff.mp ran
  exact ⟨last, ran, guarded, queued, paced_tunnel_never_deadlocks guarded ran⟩

/-! Once both readers are left with an answer they cannot submit, nothing moves. -/

structure Jammed (capacity : Role → Nat) (st : State) : Prop where
  deadlocked : Deadlocked capacity st
  submitting : ∀ side, ∃ frame rest, (st.half side).reader = .submitting (frame :: rest)

section Jam

variable {capacity : Role → Nat} {st next : State} {side : Role}

theorem Jammed.full (jammed : Jammed capacity st) (side : Role) : (st.half side).full = true := by
  obtain ⟨frame, rest, reader⟩ := jammed.submitting side
  have blocked := (jammed.deadlocked side).1
  simpa only [State.readerBlocked, reader] using blocked

theorem Jammed.hand (jammed : Jammed capacity st) (side : Role) :
    ∃ frame submitter, (st.half side).hand = some { frame := some frame, submitter := submitter } ∧
      capacity side ≤ (st.half side).outgoing.length := by
  have blocked := (jammed.deadlocked side).2
  simp only [State.writerBlocked] at blocked
  split at blocked
  next frame submitter hand => exact ⟨frame, submitter, hand, of_decide_eq_true blocked⟩
  next => cases blocked

/-- The mutex is all that can still change. -/
theorem Jammed.mutex (jammed : Jammed capacity st) (mutex : Mutex) :
    Jammed capacity { st with streamsMu := mutex } := by
  have same : ∀ side, ({ st with streamsMu := mutex } : State).half side = st.half side := by
    intro side
    cases side <;> rfl
  constructor
  · intro side
    obtain ⟨frame, rest, reader⟩ := jammed.submitting side
    have blocked := jammed.deadlocked side
    simpa only [State.readerBlocked, State.writerBlocked, same, reader] using blocked
  · intro side
    rw [same]
    exact jammed.submitting side

theorem jam_stays {action : Action} (jammed : Jammed capacity st)
    (stepped : step capacity st action = some next) : Jammed capacity next := by
  cases action with
  | submit side w frame =>
      have room := (enabled stepped).1.2.2
      rw [jammed.full side] at room
      cases room
  | sendRST side =>
      have room := (enabled stepped).1
      rw [jammed.full side] at room
      cases room
  | take side =>
      obtain ⟨frame, submitter, hand, _⟩ := jammed.hand side
      simp only [step, hand] at stepped
      cases stepped
  | write side =>
      obtain ⟨frame, submitter, hand, packed⟩ := jammed.hand side
      simp only [step, hand] at stepped
      have room := (enabled stepped).1
      omega
  | read side chosen =>
      obtain ⟨frame, rest, reader⟩ := jammed.submitting side
      simp only [step, reader] at stepped
      cases stepped
  | getStream =>
      obtain ⟨frame, rest, reader⟩ := jammed.submitting .proxy
      simp only [State.half] at reader
      simp only [step, reader] at stepped
      cases stepped
  | answer side =>
      obtain ⟨frame, rest, reader⟩ := jammed.submitting side
      simp only [step, reader] at stepped
      have room := (enabled stepped).1
      rw [jammed.full side] at room
      cases room
  | idlePing side =>
      obtain ⟨frame, rest, reader⟩ := jammed.submitting side
      have idle := (enabled stepped).1
      rw [reader] at idle
      cases idle
  | sendHeaders =>
      have room := (enabled stepped).1.2
      rw [show st.proxy.full = true from jammed.full .proxy] at room
      cases room
  | lockStreams | refuse | unlockStreams =>
      obtain ⟨_, rfl⟩ := enabled stepped
      exact jammed.mutex _

end Jam

/-! How a run gets there: with a transport of one frame and 100 writers on each side, every
DATA frame that is read leaves two answers in the queue and makes room for one more. -/

def oneFrame : Role → Nat := fun _ => 1

def dataOf (w : Nat) : Intent := { frame := some .data, submitter := .writer w }

/-- One half while DATA is exchanged: the frame of `w` is in the writer's hand, those of
the writers after it are first in the queue, and `n` places are taken. -/
structure Pumping (reader : Reader) (outgoing : List Frame) (w n : Nat) (half : Half) : Prop where
  reads : half.reader = reader
  sent : half.outgoing = outgoing
  hand : half.hand = some (dataOf w)
  length : half.queue.length = n
  queued : (List.range' (w + 1) (99 - w)).map dataOf <+: half.queue

def credits : List (Option Frame) := [some .windowUpdate, some .windowUpdate]

/-- The writer writes the frame in its hand, takes the next one, and the submitter of the
first has another. -/
def refill (side : Role) (w : Nat) : List Action :=
  [.write side, .take side, .submit side w .data]

def exchange (side : Role) (w : Nat) : List Action :=
  .read side credits :: .answer side :: .answer side :: refill side.other w

/-- The last exchange, after which there is no place for the second answer. -/
def finish (side : Role) (w : Nat) : List Action :=
  .read side credits :: .answer side :: refill side.other w

section Pump

variable {st : State} {side : Role} {reader : Reader} {outgoing : List Frame} {v w n m : Nat}

theorem read_runs (mine : Pumping (.submitting []) outgoing v n (st.half side))
    (peers : Pumping reader [.data] w m (st.half side.other)) :
    ∃ next, step oneFrame st (.read side credits) = some next ∧
      Pumping (.submitting credits) outgoing v n (next.half side) ∧
      Pumping reader [] w m (next.half side.other) := by
  refine ⟨_, by simp only [step, mine.reads, peers.sent]; exact if_pos (by cases side <;> decide),
    ?_, ?_⟩
  · rw [half_put, half_other_put]
    exact ⟨by cases side <;> rfl, mine.sent, mine.hand, mine.length, mine.queued⟩
  · rw [half_put_other, half_put]
    exact ⟨peers.reads, rfl, peers.hand, peers.length, peers.queued⟩

theorem answer_runs {frame : Option Frame} {rest : List (Option Frame)}
    (mine : Pumping (.submitting (frame :: rest)) outgoing v n (st.half side))
    (room : n < writeQSize) :
    ∃ next, step oneFrame st (.answer side) = some next ∧
      Pumping (.submitting rest) outgoing v (n + 1) (next.half side) ∧
      next.half side.other = st.half side.other := by
  have place : (st.half side).full = false := by
    simp only [Half.full, mine.length]
    exact decide_eq_false (by omega)
  refine ⟨_, by simp only [step, mine.reads]; exact if_pos place, ?_, half_put_other _ _ _⟩
  rw [half_put]
  exact ⟨rfl, mine.sent, mine.hand, by simp [Half.withReader, length_push, mine.length],
    mine.queued.trans (List.prefix_append _ _)⟩

theorem Pumping.first {half : Half} (mine : Pumping reader outgoing w n half) (few : w < 99) :
    ∃ later, half.queue = dataOf (w + 1) :: later ∧ later.length + 1 = n ∧
      (List.range' (w + 1 + 1) (99 - (w + 1))).map dataOf <+: later := by
  obtain ⟨rest, queue⟩ := mine.queued
  rw [show 99 - w = 99 - (w + 1) + 1 by omega, List.range'_succ, List.map_cons,
    List.cons_append] at queue
  have length := mine.length
  rw [← queue] at length
  exact ⟨_, queue.symm, length, List.prefix_append _ _⟩

theorem refill_runs (mine : Pumping reader [] w n (st.half side)) (few : w < 99)
    (room : n ≤ writeQSize) :
    ∃ next, run (step oneFrame) st (refill side w) = some next ∧
      Pumping reader [.data] (w + 1) n (next.half side) ∧
      next.half side.other = st.half side.other := by
  obtain ⟨later, queue, length, queued⟩ := mine.first few
  have write : step oneFrame st (.write side) =
      some (st.put side (((st.half side).sent .data).heard w)) := by
    simp only [step, mine.hand, dataOf, mine.sent, State.answered, half_put, put_put]
    rfl
  generalize written : ((st.half side).sent .data).heard w = half at write
  have take : step oneFrame (st.put side half) (.take side) =
      some (st.put side (half.taken (dataOf (w + 1)) later)) := by
    have empty : half.hand = none := by rw [← written]; rfl
    have front : half.queue = dataOf (w + 1) :: later := by rw [← written]; exact queue
    simp only [step, half_put, put_put, empty, front]
  have submit : step oneFrame (st.put side (half.taken (dataOf (w + 1)) later))
      (.submit side w .data) =
        some (st.put side ((half.taken (dataOf (w + 1)) later).submitted w .data)) := by
    simp only [step, half_put, put_put]
    refine if_pos ⟨by cases side <;> rfl, ?_, decide_eq_false ?_⟩
    · rw [← written]
      exact Function.update_self ..
    · simp only [Half.taken]
      omega
  have ran : run (step oneFrame) st (refill side w) =
      some (st.put side ((half.taken (dataOf (w + 1)) later).submitted w .data)) := by
    simp only [refill, run, write, take, submit, Option.bind_some]
  refine ⟨_, ran, ?_, half_put_other _ _ _⟩
  rw [half_put, ← written]
  refine ⟨mine.reads, ?_, rfl, ?_, queued.trans (List.prefix_append _ _)⟩
  · simp only [Half.submitted, Half.push, Half.taken, Half.heard, Half.sent, mine.sent]
    rfl
  · simpa only [Half.submitted, Half.push, Half.taken, List.length_append,
      List.length_singleton] using length

theorem exchange_runs (mine : Pumping (.submitting []) outgoing v n (st.half side))
    (peers : Pumping reader [.data] w m (st.half side.other)) (few : w < 99)
    (room : n + 2 ≤ writeQSize) (peersRoom : m ≤ writeQSize) :
    ∃ next, run (step oneFrame) st (exchange side w) = some next ∧
      Pumping (.submitting []) outgoing v (n + 2) (next.half side) ∧
      Pumping reader [.data] (w + 1) m (next.half side.other) := by
  obtain ⟨first, read, mine, peers⟩ := read_runs mine peers
  obtain ⟨second, answered, mine, same⟩ := answer_runs mine (by omega)
  obtain ⟨third, again, mine, still⟩ := answer_runs mine (by omega)
  rw [← same, ← still] at peers
  obtain ⟨next, refilled, peers, kept⟩ := refill_runs peers few peersRoom
  rw [Role.other_other] at kept
  refine ⟨next, ?_, kept ▸ mine, peers⟩
  simp only [exchange, run, read, answered, again, Option.bind_some]
  exact refilled

theorem finish_runs (mine : Pumping (.submitting []) outgoing v n (st.half side))
    (peers : Pumping reader [.data] w m (st.half side.other)) (few : w < 99)
    (room : n + 1 ≤ writeQSize) (peersRoom : m ≤ writeQSize) :
    ∃ next, run (step oneFrame) st (finish side w) = some next ∧
      Pumping (.submitting [some .windowUpdate]) outgoing v (n + 1) (next.half side) ∧
      Pumping reader [.data] (w + 1) m (next.half side.other) := by
  obtain ⟨first, read, mine, peers⟩ := read_runs mine peers
  obtain ⟨second, answered, mine, same⟩ := answer_runs mine room
  rw [← same] at peers
  obtain ⟨next, refilled, peers, kept⟩ := refill_runs peers few peersRoom
  rw [Role.other_other] at kept
  refine ⟨next, ?_, kept ▸ mine, peers⟩
  simp only [finish, run, read, answered, Option.bind_some]
  exact refilled

end Pump

/-- Both sides answer the first SETTINGS, and 100 writers on each side submit DATA. -/
def opening : List Action :=
  [.read .worker [some .settingsAck], .answer .worker, .take .worker,
    .read .proxy [some .settingsAck], .answer .proxy, .take .proxy,
    .write .worker, .write .proxy, .read .worker [], .read .proxy []] ++
    (List.range 100).map (.submit .worker · .data) ++ .take .worker :: refill .worker 0 ++
    (List.range 100).map (.submit .proxy · .data) ++ .take .proxy :: refill .proxy 0

def rounds (count : Nat) : List Action :=
  (List.range count).flatMap fun r => exchange .worker (r + 1) ++ exchange .proxy (r + 1)

def Half.shape (half : Half) : Reader × List Frame × Option Intent × List Intent :=
  (half.reader, half.outgoing, half.hand, half.queue)

theorem opening_runs :
    ∃ st, run (step oneFrame) State.new opening = some st ∧
      ∀ side, Pumping (.submitting []) [.data] 1 99 (st.half side) := by
  have opened : (run (step oneFrame) State.new opening).map
      (fun st => [st.worker.shape, st.proxy.shape]) =
        some (List.replicate 2 (.submitting [], [.data], some (dataOf 1),
          (List.range' 2 98).map dataOf ++ [dataOf 0])) := by
    decide +kernel
  obtain ⟨st, ran, shapes⟩ := Option.map_eq_some_iff.mp opened
  refine ⟨st, ran, fun side => ?_⟩
  have shape : (st.half side).shape = (.submitting [], [.data], some (dataOf 1),
      (List.range' 2 98).map dataOf ++ [dataOf 0]) := by
    have member : (st.half side).shape ∈ [st.worker.shape, st.proxy.shape] := by
      cases side <;> simp [State.half]
    rw [shapes] at member
    exact List.eq_of_mem_replicate member
  simp only [Half.shape, Prod.mk.injEq] at shape
  obtain ⟨reads, sent, hand, queue⟩ := shape
  exact ⟨reads, sent, hand, by simp [queue], queue ▸ List.prefix_append _ _⟩

/-- Each round adds two places on either side. -/
theorem rounds_run {count : Nat} (few : count ≤ 78) :
    ∃ st, run (step oneFrame) State.new (opening ++ rounds count) = some st ∧
      ∀ side, Pumping (.submitting []) [.data] (count + 1) (99 + 2 * count) (st.half side) := by
  induction count with
  | zero => simpa [rounds] using opening_runs
  | succ count ih =>
      obtain ⟨st, ran, both⟩ := ih (by omega)
      have small : 99 + 2 * count + 2 ≤ writeQSize := by
        simp only [writeQSize]
        omega
      obtain ⟨middle, first, worker, proxy⟩ := exchange_runs (both .worker) (both .proxy)
        (by omega) small (by omega)
      obtain ⟨last, second, proxy, worker⟩ := exchange_runs proxy worker (by omega) small small
      refine ⟨last, ?_, ?_⟩
      · rw [rounds, List.range_succ, List.flatMap_append, List.flatMap_singleton,
          ← List.append_assoc]
        exact run_trans ran (run_trans first second)
      · intro side
        cases side with
        | worker => exact worker
        | proxy => exact proxy

def jam : List Action := opening ++ rounds 78 ++ (finish .worker 79 ++ finish .proxy 79)

theorem Pumping.jammed {st : State} {w : Nat} {frame : Option Frame}
    (both : ∀ side, Pumping (.submitting [frame]) [.data] w writeQSize (st.half side)) :
    Jammed oneFrame st := by
  constructor
  · intro side
    have shape := both side
    constructor
    · simp only [State.readerBlocked, shape.reads, Half.full, shape.length]
      rfl
    · simp only [State.writerBlocked, shape.hand, dataOf, shape.sent]
      rfl
  · intro side
    exact ⟨frame, [], (both side).reads⟩

theorem jam_runs :
    ∃ last, run (step oneFrame) State.new jam = some last ∧ Jammed oneFrame last := by
  obtain ⟨st, ran, both⟩ := rounds_run (Nat.le_refl 78)
  obtain ⟨middle, first, worker, proxy⟩ := finish_runs (both .worker) (both .proxy)
    (by decide) (by decide) (by decide)
  obtain ⟨last, second, proxy, worker⟩ := finish_runs proxy worker
    (by decide) (by decide) (by decide)
  have shapes : ∀ side,
      Pumping (.submitting [some .windowUpdate]) [.data] 80 writeQSize (last.half side) := by
    intro side
    cases side with
    | worker => exact worker
    | proxy => exact proxy
  exact ⟨last, run_trans ran (run_trans first second), Pumping.jammed shapes⟩

/-- With transports of one frame the tunnel gets into a deadlock that no later step ends. -/
theorem exchanged_data_deadlocks :
    (∀ side, 0 < oneFrame side) ∧
      ∃ last, run (step oneFrame) State.new jam = some last ∧ Deadlocked oneFrame last ∧
        ∀ later after, run (step oneFrame) last later = some after →
          Deadlocked oneFrame after := by
  obtain ⟨last, ran, jammed⟩ := jam_runs
  refine ⟨fun _ => Nat.one_pos, last, ran, jammed.deadlocked, ?_⟩
  intro later after stays
  have still : Jammed oneFrame after :=
    run_invariant_all (fun _ _ _ jammed stepped => jam_stays jammed stepped) jammed stays
  exact still.deadlocked

end ReverseHttp.WriteDeadlock
