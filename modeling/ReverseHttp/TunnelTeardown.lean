import ReverseHttp.Transition
import Mathlib.Tactic.Common

/-!
The deferred teardown of `serveTunnel` against any number of `Proxy.forward`
calls, each with its request-body pump and context watcher. `failAllStreams`
and `Conn.FailAllStreams` go through their registries one entry at a time with
the registry's mutex held; the frame reader delivers nothing any more once the
teardown has begun, being the same goroutine.

The four kinds of waits: the `select` for response headers, `cond.Wait` in
`bodyReader.Read` and in `Send.Reserve` (`parked`), and the two selects of
`submit` (`Submit`). Whether `Reserve` finds credit, whether the queue has room
and what the writer answers are choices of the schedule. A chunk read in several
pieces waits only for its first one, so only that one is a step here. `touch`
is a frame reader of some tunnel that still points to the call's object.
-/

namespace ReverseHttp.TunnelTeardown

open Transition

/-- An intent: `writeQ <- intent`, then `<-done`. -/
inductive Submit where
  | offering
  | queued
  | answered (ok : Bool)
  deriving DecidableEq, Repr

inductive Phase where
  | idle
  | locking
  | checking
  | adding
  | registering
  | sending (submit : Submit)
  | deleting
  | unadding
  | waiting
  | waitReset (submit : Submit)
  | reading (parked : Bool)
  | writing
  | copyReset (submit : Submit)
  | joining
  | removing
  | deregistering
  | returned
  deriving DecidableEq, Repr

inductive Pump where
  | absent
  | reading
  | reserving (parked : Bool)
  | submitting (submit : Submit) (last : Bool)
  | resetting (submit : Submit)
  | finished
  deriving DecidableEq, Repr

inductive Watcher where
  | absent
  | watching
  | resetting (submit : Submit)
  | finished
  deriving DecidableEq, Repr

/-- `respClosed`, `respErr`: `respCh` is closed, and by `fail`. `queued`,
`dataDone`: the body queue of the call's stream. -/
structure Call where
  phase : Phase
  pump : Pump
  watcher : Watcher
  cancelled : Bool
  copied : Bool
  respClosed : Bool
  respErr : Bool
  queued : Nat
  dataDone : Bool
  deriving DecidableEq, Repr

def Call.new : Call :=
  { phase := .idle, pump := .absent, watcher := .absent, cancelled := false, copied := false
    respClosed := false, respErr := false, queued := 0, dataDone := false }

/-- The frame loop's goroutine: `serving`, then the statements of the defer. -/
inductive Teardown where
  | serving
  | dead
  | failing (remaining : List Nat)
  | failed
  | failingConn (remaining : List Nat)
  | failedConn
  | goneAway
  | stopping
  | stopped
  | detached
  deriving DecidableEq, Repr

inductive Holder where
  | call (call : Nat)
  | teardown
  deriving DecidableEq, Repr

/-- `streams` and `conn` list the calls with an entry in `Worker.streams` and in
`Conn.streams`; `mutex` is `Worker.streamsMu`. -/
structure State where
  calls : Nat → Call
  streams : List Nat
  conn : List Nat
  mutex : Option Holder
  writeDead : Bool
  teardown : Teardown

def State.new : State :=
  { calls := fun _ => Call.new, streams := [], conn := [], mutex := none, writeDead := false
    teardown := .serving }

/-- `sc.dead` -/
def Teardown.isDead (t : Teardown) : Bool := t ≠ .serving

/-- `Worker.shutdownCh` is closed. -/
def Teardown.isDetached (t : Teardown) : Bool := t = .detached

/-- `Conn.streamsMu` is held by `FailAllStreams`. -/
def Teardown.locksConn : Teardown → Bool
  | .failingConn _ => true
  | _ => false

def State.put (st : State) (f : Nat) (c : Call) : State :=
  { st with calls := Function.update st.calls f c }

/-- `cond.Broadcast` of the stream's body queue. -/
def Phase.wake : Phase → Phase
  | .reading _ => .reading false
  | phase => phase

/-- `sc.cond.Broadcast` -/
def Pump.wake : Pump → Pump
  | .reserving _ => .reserving false
  | pump => pump

def Call.pushData (c : Call) : Call := { c with queued := c.queued + 1, phase := c.phase.wake }

/-- `CloseData` and `FailBody`; which error `Read` returns does not matter here. -/
def Call.closeData (c : Call) : Call := { c with dataDone := true, phase := c.phase.wake }

/-- `clientStream.fail`; `respOnce` keeps the first outcome. -/
def Call.fail (c : Call) : Call :=
  if c.respClosed then c.closeData else { c.closeData with respClosed := true, respErr := true }

def Call.deliverHeaders (c : Call) : Call :=
  if c.respClosed then c else { c with respClosed := true }

/-- Steps of a `forward` goroutine. -/
inductive ForwardStep where
  | start
  | lock
  | refuse
  | acquire
  | addStream
  | register
  | headersSent (body : Bool)
  | headersFailed
  | deleteStream
  | unaddStream
  | responded
  | headPanics
  | waitCancelled
  | waitDetached
  | read
  | written
  | writeFails
  | resetSent
  | join
  | removeStream
  | deregisterStream
  deriving DecidableEq, Repr

/-- `submit` has an outcome; the writer's answer wins over its death. -/
def Submit.failed (submit : Submit) (writeDead : Bool) : Bool :=
  match submit with
  | .answered ok => !ok
  | _ => writeDead

/-- `submitAsync` has returned. -/
def Submit.accepted (submit : Submit) (writeDead : Bool) : Bool :=
  submit ≠ .offering || writeDead

def Pump.stopped (pump : Pump) : Bool := pump = .absent || pump = .finished

def forwardStep (st : State) (f : Nat) : ForwardStep → Option State
  | .start =>
      if (st.calls f).phase = .idle then some (st.put f { st.calls f with phase := .locking })
      else none
  | .lock =>
      if (st.calls f).phase = .locking ∧ st.mutex = none then
        some { st.put f { st.calls f with phase := .checking } with mutex := some (.call f) }
      else none
  -- draining or saturated
  | .refuse =>
      if (st.calls f).phase = .checking then
        some { st.put f { st.calls f with phase := .returned } with mutex := none }
      else none
  -- `Acquire` starts the stream afresh
  | .acquire =>
      if (st.calls f).phase = .checking then
        some (st.put f { st.calls f with phase := .adding, queued := 0, dataDone := false })
      else none
  -- `Conn.FailAllStreams` keeps the lock of the registry for its whole walk
  | .addStream =>
      if (st.calls f).phase = .adding ∧ st.teardown.locksConn = false then
        some { st.put f { st.calls f with phase := .registering } with conn := f :: st.conn }
      else none
  | .register =>
      if (st.calls f).phase = .registering then
        some { st.put f { st.calls f with
            phase := .sending .offering, respClosed := false, respErr := false } with
          streams := f :: st.streams }
      else none
  | .headersSent body =>
      if (st.calls f).phase = .sending (.answered true) then
        some { st.put f { st.calls f with
          phase := .waiting, pump := if body then .reading else .absent } with mutex := none }
      else none
  -- the roll-back happens with `streamsMu` still held
  | .headersFailed =>
      match (st.calls f).phase with
      | .sending submit =>
          if submit.failed st.writeDead then
            some (st.put f { st.calls f with phase := .deleting })
          else none
      | _ => none
  | .deleteStream =>
      if (st.calls f).phase = .deleting then
        some { st.put f { st.calls f with phase := .unadding } with
          streams := st.streams.filter (· ≠ f) }
      else none
  | .unaddStream =>
      if (st.calls f).phase = .unadding ∧ st.teardown.locksConn = false then
        some { st.put f { st.calls f with phase := .returned } with
          conn := st.conn.filter (· ≠ f), mutex := none }
      else none
  | .responded =>
      if (st.calls f).phase = .waiting ∧ (st.calls f).respClosed then
        if (st.calls f).respErr then some (st.put f { st.calls f with phase := .joining })
        else some (st.put f { st.calls f with phase := .reading false, watcher := .watching })
      else none
  | .headPanics =>
      if (st.calls f).phase = .waiting ∧ (st.calls f).respClosed ∧ (st.calls f).respErr = false then
        some (st.put f { st.calls f with phase := .removing })
      else none
  | .waitCancelled =>
      if (st.calls f).phase = .waiting ∧ (st.calls f).cancelled then
        some (st.put f { st.calls f with phase := .waitReset .offering })
      else none
  | .waitDetached =>
      if (st.calls f).phase = .waiting ∧ st.teardown.isDetached then
        some (st.put f { st.calls f with phase := .joining })
      else none
  | .read =>
      if (st.calls f).phase = .reading false then
        if 0 < (st.calls f).queued then
          some (st.put f { st.calls f with phase := .writing, queued := (st.calls f).queued - 1 })
        else if (st.calls f).dataDone then
          some (st.put f { st.calls f with phase := .joining, copied := true })
        -- `cond.Wait`
        else some (st.put f { st.calls f with phase := .reading true })
      else none
  | .written =>
      if (st.calls f).phase = .writing then
        some (st.put f { st.calls f with phase := .reading false })
      else none
  | .writeFails =>
      if (st.calls f).phase = .writing then
        some (st.put f { st.calls f with phase := .copyReset .offering })
      else none
  -- a reset is submitted without waiting for its result
  | .resetSent =>
      match (st.calls f).phase with
      | .waitReset submit =>
          if submit.accepted st.writeDead then
            some (st.put f { st.calls f with phase := .joining })
          else none
      | .copyReset submit =>
          if submit.accepted st.writeDead then
            some (st.put f { st.calls f with phase := .joining, copied := true })
          else none
      | _ => none
  | .join =>
      if (st.calls f).phase = .joining ∧ (st.calls f).pump.stopped then
        some (st.put f { st.calls f with phase := .removing })
      else none
  | .removeStream =>
      if (st.calls f).phase = .removing ∧ st.teardown.locksConn = false then
        some { st.put f { st.calls f with phase := .deregistering } with
          conn := st.conn.filter (· ≠ f) }
      else none
  | .deregisterStream =>
      if (st.calls f).phase = .deregistering ∧ st.mutex = none then
        some { st.put f { st.calls f with phase := .returned } with
          streams := st.streams.filter (· ≠ f) }
      else none

/-- Steps of `streamRequestBody`. `bodyRead` got bytes, `bodyEnd` EOF, `bodyFails`
another error; after a submitted chunk the pump reserves for the rest of the
buffer or reads again. -/
inductive PumpStep where
  | bodyRead
  | bodyEnd
  | bodyFails
  | bodyDetached
  | reserve (credit : Bool)
  | dataSent (rest : Bool)
  | dataFailed
  | resetSent
  deriving DecidableEq, Repr

def pumpStep (st : State) (f : Nat) : PumpStep → Option State
  | .bodyRead =>
      if (st.calls f).pump = .reading then
        some (st.put f { st.calls f with pump := .reserving false })
      else none
  | .bodyEnd =>
      if (st.calls f).pump = .reading then
        some (st.put f { st.calls f with pump := .submitting .offering true })
      else none
  | .bodyFails =>
      if (st.calls f).pump = .reading then
        some (st.put f { st.calls f with pump := .resetting .offering })
      else none
  -- `streamRequestBody` looks at `shutdownCh` between reads
  | .bodyDetached =>
      if (st.calls f).pump = .reading ∧ st.teardown.isDetached then
        some (st.put f { st.calls f with pump := .finished })
      else none
  | .reserve credit =>
      if (st.calls f).pump = .reserving false then
        if st.teardown.isDead then some (st.put f { st.calls f with pump := .finished })
        else if credit then
          some (st.put f { st.calls f with pump := .submitting .offering false })
        else some (st.put f { st.calls f with pump := .reserving true })
      else none
  | .dataSent rest =>
      match (st.calls f).pump with
      | .submitting (.answered true) last =>
          some (st.put f { st.calls f with
            pump := if last then .finished else if rest then .reserving false else .reading })
      | _ => none
  | .dataFailed =>
      match (st.calls f).pump with
      | .submitting submit _ =>
          if submit.failed st.writeDead then
            some (st.put f { st.calls f with pump := .finished })
          else none
      | _ => none
  | .resetSent =>
      match (st.calls f).pump with
      | .resetting submit =>
          if submit.accepted st.writeDead then
            some (st.put f { st.calls f with pump := .finished })
          else none
      | _ => none

inductive WatcherStep where
  | cancelled
  | copied
  | resetSent
  deriving DecidableEq, Repr

def watcherStep (st : State) (f : Nat) : WatcherStep → Option State
  | .cancelled =>
      if (st.calls f).watcher = .watching ∧ (st.calls f).cancelled then
        some (st.put f { st.calls f with watcher := .resetting .offering })
      else none
  | .copied =>
      if (st.calls f).watcher = .watching ∧ (st.calls f).copied then
        some (st.put f { st.calls f with watcher := .finished })
      else none
  | .resetSent =>
      match (st.calls f).watcher with
      | .resetting submit =>
          if submit.accepted st.writeDead then
            some (st.put f { st.calls f with watcher := .finished })
          else none
      | _ => none

inductive Actor where
  | forward
  | pump
  | watcher
  deriving DecidableEq, Repr

/-- The intent an actor is submitting moves on. -/
def Call.moveSubmit (c : Call) (old new : Submit) : Actor → Option Call
  | .forward =>
      if c.phase = .sending old then some { c with phase := .sending new }
      else if c.phase = .waitReset old then some { c with phase := .waitReset new }
      else if c.phase = .copyReset old then some { c with phase := .copyReset new }
      else none
  | .pump =>
      match c.pump with
      | .submitting submit last =>
          if submit = old then some { c with pump := .submitting new last } else none
      | .resetting submit => if submit = old then some { c with pump := .resetting new } else none
      | _ => none
  | .watcher =>
      if c.watcher = .resetting old then some { c with watcher := .resetting new } else none

/-- Frames for a registered stream, and credit for the connection or a stream. -/
inductive ReaderStep where
  | deliverHeaders (call : Nat)
  | pushData (call : Nat)
  | closeData (call : Nat)
  | rstStream (call : Nat)
  | credit
  deriving DecidableEq, Repr

def State.wakePumps (st : State) : State :=
  { st with calls := fun f => { st.calls f with pump := (st.calls f).pump.wake } }

def readerStep (st : State) : ReaderStep → Option State
  | .deliverHeaders f =>
      if st.teardown = .serving ∧ f ∈ st.streams then
        some (st.put f (st.calls f).deliverHeaders)
      else none
  | .pushData f =>
      if st.teardown = .serving ∧ f ∈ st.conn then some (st.put f (st.calls f).pushData) else none
  | .closeData f =>
      if st.teardown = .serving ∧ f ∈ st.conn then some (st.put f (st.calls f).closeData) else none
  | .rstStream f =>
      if st.teardown = .serving ∧ f ∈ st.streams then some (st.put f (st.calls f).fail) else none
  | .credit => if st.teardown = .serving then some st.wakePumps else none

inductive TeardownStep where
  | markDead
  | lockStreams
  | failNext
  | unlockStreams
  | lockConn
  | failConnNext
  | unlockConn
  | sendGoAway
  | closeShutdown
  | writerGone
  | detach
  deriving DecidableEq, Repr

def teardownStep (st : State) : TeardownStep → Option State
  | .markDead =>
      if st.teardown = .serving then some { st.wakePumps with teardown := .dead } else none
  | .lockStreams =>
      if st.teardown = .dead ∧ st.mutex = none then
        some { st with teardown := .failing st.streams, mutex := some .teardown }
      else none
  | .failNext =>
      match st.teardown with
      | .failing (f :: rest) =>
          some { st.put f (st.calls f).fail with teardown := .failing rest }
      | _ => none
  | .unlockStreams =>
      if st.teardown = .failing [] then some { st with teardown := .failed, mutex := none }
      else none
  | .lockConn =>
      if st.teardown = .failed then some { st with teardown := .failingConn st.conn } else none
  | .failConnNext =>
      match st.teardown with
      | .failingConn (f :: rest) =>
          some { st.put f (st.calls f).closeData with teardown := .failingConn rest }
      | _ => none
  | .unlockConn =>
      if st.teardown = .failingConn [] then some { st with teardown := .failedConn } else none
  | .sendGoAway =>
      if st.teardown = .failedConn then some { st with teardown := .goneAway } else none
  | .closeShutdown =>
      if st.teardown = .goneAway then some { st with teardown := .stopping } else none
  | .writerGone =>
      if st.teardown = .stopping ∧ st.writeDead then some { st with teardown := .stopped } else none
  | .detach => if st.teardown = .stopped then some { st with teardown := .detached } else none

/-- `accept` and `answer` are the write queue and the writer, `writerExits` its end
for whatever reason. -/
inductive Action where
  | forward (call : Nat) (move : ForwardStep)
  | pump (call : Nat) (move : PumpStep)
  | watcher (call : Nat) (move : WatcherStep)
  | reader (move : ReaderStep)
  | teardown (move : TeardownStep)
  | cancel (call : Nat)
  | accept (call : Nat) (actor : Actor)
  | answer (call : Nat) (actor : Actor) (ok : Bool)
  | writerExits
  | touch (call : Nat) (push : Bool)
  deriving DecidableEq, Repr

def step (st : State) : Action → Option State
  | .forward f move => forwardStep st f move
  | .pump f move => pumpStep st f move
  | .watcher f move => watcherStep st f move
  | .reader move => readerStep st move
  | .teardown move => teardownStep st move
  | .cancel f => some (st.put f { st.calls f with cancelled := true })
  | .accept f actor => ((st.calls f).moveSubmit .offering .queued actor).map (st.put f)
  | .answer f actor ok => ((st.calls f).moveSubmit .queued (.answered ok) actor).map (st.put f)
  | .writerExits => some { st with writeDead := true }
  | .touch f push =>
      some (st.put f (if push then (st.calls f).pushData else (st.calls f).closeData))

/-! The property: what an actor waits for, and whether the wait is over. -/

inductive Wait where
  | headers
  | body
  | credit
  | submit
  deriving DecidableEq, Repr

/-- The wait on the tunnel an actor is in. -/
def Call.wait (c : Call) : Actor → Option Wait
  | .forward =>
      match c.phase with
      | .waiting => some .headers
      | .reading _ => some .body
      | .sending _ | .waitReset _ | .copyReset _ => some .submit
      | _ => none
  | .pump =>
      match c.pump with
      | .reserving _ => some .credit
      | .submitting _ _ | .resetting _ => some .submit
      | _ => none
  | .watcher =>
      match c.watcher with
      | .resetting _ => some .submit
      | _ => none

/-- A step of the waiting goroutine itself. -/
def Action.own (f : Nat) : Actor → Action → Prop
  | .forward, .forward call _ => call = f
  | .pump, .pump call _ => call = f
  | .watcher, .watcher call _ => call = f
  | _, _ => False

/-- The wait is over: the goroutine has a step of its own that leaves it. -/
def Released (st : State) (f : Nat) (actor : Actor) : Prop :=
  ∃ action next, action.own f actor ∧ step st action = some next ∧
    (next.calls f).wait actor ≠ (st.calls f).wait actor

/-- No wait on the tunnel blocks, and whoever holds `streamsMu` can go on. -/
structure Unstuck (st : State) : Prop where
  waits : ∀ f actor, (st.calls f).wait actor ≠ none → Released st f actor
  mutex : ∀ holder, st.mutex = some holder → ∃ f move next, holder = .call f ∧
    step st (.forward f move) = some next

/-! The invariant. -/

/-- The stream is in `Worker.streams` and its body may still be read. -/
def Phase.attached : Phase → Bool
  | .sending _ | .waiting | .reading _ | .writing => true
  | _ => false

def Phase.copies : Phase → Bool
  | .reading _ | .writing => true
  | _ => false

/-- The call owns `streamsMu`. -/
def Phase.holds : Phase → Bool
  | .checking | .adding | .registering | .sending _ | .deleting | .unadding => true
  | _ => false

/-- How far the teardown has closed the body of a stream with a response. -/
def Teardown.Covers (f : Nat) (dataDone : Bool) : Teardown → Prop
  | .serving | .dead => True
  | .failing remaining => f ∈ remaining ∨ dataDone = true
  | _ => dataDone = true

structure CallOk (t : Teardown) (streams : List Nat) (f : Nat) (c : Call) : Prop where
  read : c.phase = .reading true → c.queued = 0 ∧ c.dataDone = false
  reserve : c.pump = .reserving true → t = .serving
  listed : c.phase.attached = true → f ∈ streams
  responded : c.phase.copies = true → c.respClosed = true ∧ c.respErr = false
  covered : c.phase.attached = true → c.respClosed = true → c.respErr = false →
    t.Covers f c.dataDone

structure Valid (st : State) : Prop where
  calls : ∀ f, CallOk st.teardown st.streams f (st.calls f)
  writer : st.teardown = .stopped ∨ st.teardown = .detached → st.writeDead = true
  mutex : ∀ holder, st.mutex = some holder →
    match holder with
    | .call g => (st.calls g).phase.holds = true
    | .teardown => ∃ remaining, st.teardown = .failing remaining

theorem valid_new : Valid State.new := by
  refine ⟨fun f => ⟨nofun, nofun, nofun, nofun, nofun⟩, ?_, nofun⟩
  rintro (stopped | detached)
  · cases stopped
  · cases detached

section CallOk

variable {t : Teardown} {streams : List Nat} {f : Nat} {c moved : Call}

theorem copies_attached {phase : Phase} (copies : phase.copies = true) :
    phase.attached = true := by
  cases phase <;> first | rfl | cases copies

/-- Out of the attached phases nothing is left to hold of the stream. -/
theorem CallOk.leave {others : List Nat} (ok : CallOk t streams f c) (pump : moved.pump = c.pump)
    (away : moved.phase.attached = false) : CallOk t others f moved := by
  have no : moved.phase.attached ≠ true := by simp [away]
  constructor
  · intro reading
    exact absurd (by rw [reading]; rfl) no
  · rw [pump]
    exact ok.reserve
  · exact fun attached => absurd attached no
  · exact fun copies => absurd (copies_attached copies) no
  · exact fun attached => absurd attached no

/-- A move between attached phases that leaves the response and `dataDone`. -/
theorem CallOk.stay (ok : CallOk t streams f c) (attached : c.phase.attached = true)
    (pump : moved.pump = c.pump ∨ moved.pump ≠ .reserving true)
    (closed : moved.respClosed = c.respClosed) (err : moved.respErr = c.respErr)
    (done : moved.dataDone = c.dataDone)
    (read : moved.phase = .reading true → moved.queued = 0 ∧ moved.dataDone = false)
    (responded : moved.phase.copies = true → c.respClosed = true ∧ c.respErr = false) :
    CallOk t streams f moved := by
  constructor
  · exact read
  · intro parked
    rcases pump with same | other
    · exact ok.reserve (same ▸ parked)
    · exact absurd parked other
  · exact fun _ => ok.listed attached
  · rw [closed, err]
    exact responded
  · rw [closed, err, done]
    exact fun _ => ok.covered attached

/-- A step of the pump or the watcher. -/
theorem CallOk.beside (ok : CallOk t streams f c) (pump : Pump) (watcher : Watcher)
    (cancelled : Bool) (reserve : pump = .reserving true → t = .serving) :
    CallOk t streams f { c with pump := pump, watcher := watcher, cancelled := cancelled } :=
  ⟨ok.read, reserve, ok.listed, ok.responded, ok.covered⟩

theorem wake_attached (phase : Phase) : phase.wake.attached = phase.attached := by
  cases phase <;> rfl

theorem wake_copies (phase : Phase) : phase.wake.copies = phase.copies := by
  cases phase <;> rfl

theorem wake_unparked (phase : Phase) : phase.wake ≠ .reading true := by
  cases phase <;> simp [Phase.wake]

theorem covers_done (t : Teardown) (f : Nat) : t.Covers f true := by
  cases t <;> simp [Teardown.Covers]

theorem CallOk.pushData (ok : CallOk t streams f c) : CallOk t streams f c.pushData := by
  refine ⟨fun parked => absurd parked (wake_unparked _), ok.reserve, ?_, ?_, ?_⟩
  · exact fun attached => ok.listed ((wake_attached c.phase).symm.trans attached)
  · exact fun copies => ok.responded ((wake_copies c.phase).symm.trans copies)
  · exact fun attached => ok.covered ((wake_attached c.phase).symm.trans attached)

theorem CallOk.closeData (ok : CallOk t streams f c) : CallOk t streams f c.closeData := by
  refine ⟨fun parked => absurd parked (wake_unparked _), ok.reserve, ?_, ?_, ?_⟩
  · exact fun attached => ok.listed ((wake_attached c.phase).symm.trans attached)
  · exact fun copies => ok.responded ((wake_copies c.phase).symm.trans copies)
  · exact fun _ _ _ => covers_done t f

theorem fail_done (c : Call) : c.fail.dataDone = true := by
  unfold Call.fail
  split <;> rfl

theorem CallOk.fail (ok : CallOk t streams f c) : CallOk t streams f c.fail := by
  unfold Call.fail
  split
  · exact ok.closeData
  · rename_i fresh
    have closed := ok.closeData
    refine ⟨closed.read, closed.reserve, closed.listed, ?_, fun _ _ _ => covers_done t f⟩
    intro copies
    exact absurd (closed.responded copies).1 fresh

/-- The frame reader delivers only before the teardown. -/
theorem CallOk.deliverHeaders (ok : CallOk .serving streams f c) :
    CallOk .serving streams f c.deliverHeaders := by
  unfold Call.deliverHeaders
  split
  · exact ok
  · rename_i fresh
    refine ⟨ok.read, ok.reserve, ok.listed, ?_, fun _ _ _ => trivial⟩
    intro copies
    exact absurd (ok.responded copies).1 fresh

end CallOk

/-- A step of one call: the others keep their entries, and the mutex is with the
call or where it was. -/
theorem call_valid {st : State} (valid : Valid st) {f : Nat} {c : Call} (streams conn : List Nat)
    (mutex : Option Holder) (kept : ∀ g, g ≠ f → g ∈ st.streams → g ∈ streams)
    (ok : CallOk st.teardown streams f c)
    (held : ∀ holder, mutex = some holder →
      (holder = .call f ∧ c.phase.holds = true) ∨ (holder ≠ .call f ∧ st.mutex = some holder)) :
    Valid { st with
      calls := Function.update st.calls f c
      streams := streams
      conn := conn
      mutex := mutex } := by
  refine ⟨?_, valid.writer, ?_⟩
  · apply (Function.forall_update_iff st.calls fun g c => CallOk st.teardown streams g c).mpr
    refine ⟨ok, fun g other => ?_⟩
    have before := valid.calls g
    exact ⟨before.read, before.reserve, fun attached => kept g other (before.listed attached),
      before.responded, before.covered⟩
  · intro holder holds
    rcases held holder holds with ⟨rfl, own⟩ | ⟨other, before⟩
    · simpa using own
    · have was := valid.mutex holder before
      cases holder with
      | teardown => exact was
      | call g =>
          have apart : g ≠ f := fun same => other (congrArg Holder.call same)
          simpa [Function.update_of_ne apart] using was

theorem put_valid {st : State} (valid : Valid st) {f : Nat} {c : Call}
    (ok : CallOk st.teardown st.streams f c)
    (holds : (st.calls f).phase.holds = true → c.phase.holds = true) : Valid (st.put f c) := by
  apply call_valid valid st.streams st.conn st.mutex (fun _ _ member => member) ok
  intro holder before
  by_cases own : holder = .call f
  · subst own
    exact Or.inl ⟨rfl, holds (valid.mutex _ before)⟩
  · exact Or.inr ⟨own, before⟩

/-- A move that does not concern the mutex. -/
theorem move_valid {st : State} (valid : Valid st) {f : Nat} {c : Call} {phase : Phase}
    (stands : (st.calls f).phase = phase) (outside : phase.holds = false)
    (ok : CallOk st.teardown st.streams f c) : Valid (st.put f c) := by
  apply put_valid valid ok
  rw [stands, outside]
  exact nofun

/-- A step of `openStream` with the mutex in hand. -/
theorem hold_valid {st : State} (valid : Valid st) {f : Nat} {c : Call} (streams : List Nat)
    (kept : ∀ g, g ≠ f → g ∈ st.streams → g ∈ streams)
    (ok : CallOk st.teardown streams f c) (holds : c.phase.holds = true) :
    Valid { st.put f c with streams := streams } := by
  apply call_valid valid streams st.conn st.mutex kept ok
  intro holder before
  by_cases own : holder = .call f
  · exact Or.inl ⟨own, holds⟩
  · exact Or.inr ⟨own, before⟩

/-- The invariant does not speak of `Conn.streams`. -/
theorem conn_valid {st : State} (valid : Valid st) (conn : List Nat) :
    Valid { st with conn := conn } :=
  ⟨valid.calls, valid.writer, valid.mutex⟩

theorem mem_filter_ne {streams : List Nat} {f g : Nat} (other : g ≠ f) (member : g ∈ streams) :
    g ∈ streams.filter (· ≠ f) :=
  List.mem_filter.mpr ⟨member, by simpa using other⟩

/-- `bodyReader.Read`: a chunk, the end of the body, or `cond.Wait`. -/
theorem read_valid {st next : State} {f : Nat} (valid : Valid st)
    (stepped : forwardStep st f .read = some next) : Valid next := by
  have ok := valid.calls f
  simp only [forwardStep] at stepped
  split at stepped
  case isFalse => cases stepped
  rename_i reading
  have attached : (st.calls f).phase.attached = true := by rw [reading]; rfl
  have responded := ok.responded (by rw [reading]; rfl)
  split at stepped
  · cases stepped
    apply move_valid valid reading rfl
    exact ok.stay attached (Or.inl rfl) rfl rfl rfl nofun (fun _ => responded)
  · rename_i empty
    split at stepped
    · cases stepped
      exact move_valid valid reading rfl (ok.leave rfl rfl)
    · rename_i undone
      cases stepped
      apply move_valid valid reading rfl
      refine ok.stay attached (Or.inl rfl) rfl rfl rfl ?_ (fun _ => responded)
      intro _
      exact ⟨Nat.eq_zero_of_not_pos empty, by simpa using undone⟩

theorem forwardStep_valid {st next : State} {f : Nat} {move : ForwardStep} (valid : Valid st)
    (stepped : forwardStep st f move = some next) : Valid next := by
  have ok := valid.calls f
  cases move with
  | start =>
      obtain ⟨idle, rfl⟩ := enabled stepped
      exact move_valid valid idle rfl (ok.leave rfl rfl)
  | lock =>
      obtain ⟨⟨locking, free⟩, rfl⟩ := enabled stepped
      apply call_valid valid st.streams st.conn _ (fun _ _ member => member)
      · exact ok.leave rfl rfl
      · rintro _ ⟨⟩
        exact Or.inl ⟨rfl, rfl⟩
  | refuse =>
      obtain ⟨checking, rfl⟩ := enabled stepped
      exact call_valid valid st.streams st.conn none (fun _ _ member => member)
        (ok.leave rfl rfl) nofun
  | acquire =>
      obtain ⟨checking, rfl⟩ := enabled stepped
      exact put_valid valid (ok.leave rfl rfl) (fun _ => rfl)
  | addStream =>
      obtain ⟨⟨adding, _⟩, rfl⟩ := enabled stepped
      have moved : Valid (st.put f { st.calls f with phase := .registering }) :=
        put_valid valid (ok.leave rfl rfl) (fun _ => rfl)
      exact conn_valid moved _
  | register =>
      obtain ⟨registering, rfl⟩ := enabled stepped
      refine hold_valid valid _ (fun _ _ member => List.mem_cons_of_mem f member) ?_ rfl
      exact ⟨nofun, ok.reserve, fun _ => List.mem_cons_self, nofun, nofun⟩
  | headersSent body =>
      obtain ⟨sending, rfl⟩ := enabled stepped
      apply call_valid valid st.streams st.conn none (fun _ _ member => member) _ nofun
      refine ok.stay (by rw [sending]; rfl) (Or.inr ?_) rfl rfl rfl nofun nofun
      cases body <;> simp
  | headersFailed =>
      simp only [forwardStep] at stepped
      split at stepped
      case h_2 => cases stepped
      obtain ⟨_, rfl⟩ := enabled stepped
      exact put_valid valid (ok.leave rfl rfl) (fun _ => rfl)
  | deleteStream =>
      obtain ⟨deleting, rfl⟩ := enabled stepped
      exact hold_valid valid _ (fun _ other => mem_filter_ne other) (ok.leave rfl rfl) rfl
  | unaddStream =>
      obtain ⟨⟨unadding, _⟩, rfl⟩ := enabled stepped
      exact call_valid valid st.streams _ none (fun _ _ member => member) (ok.leave rfl rfl) nofun
  | responded =>
      simp only [forwardStep] at stepped
      split at stepped
      case isFalse => cases stepped
      rename_i ready
      split at stepped
      · cases stepped
        exact move_valid valid ready.1 rfl (ok.leave rfl rfl)
      · rename_i fine
        cases stepped
        apply move_valid valid ready.1 rfl
        exact ok.stay (by rw [ready.1]; rfl) (Or.inl rfl) rfl rfl rfl nofun
          (fun _ => ⟨ready.2, by simpa using fine⟩)
  | headPanics | waitCancelled | waitDetached =>
      obtain ⟨⟨waiting, _⟩, rfl⟩ := enabled stepped
      exact move_valid valid waiting rfl (ok.leave rfl rfl)
  | read => exact read_valid valid stepped
  | written =>
      obtain ⟨writing, rfl⟩ := enabled stepped
      apply move_valid valid writing rfl
      exact ok.stay (by rw [writing]; rfl) (Or.inl rfl) rfl rfl rfl nofun
        (fun _ => ok.responded (by rw [writing]; rfl))
  | writeFails =>
      obtain ⟨writing, rfl⟩ := enabled stepped
      exact move_valid valid writing rfl (ok.leave rfl rfl)
  | resetSent =>
      simp only [forwardStep] at stepped
      split at stepped
      case h_3 => cases stepped
      · rename_i resetting
        obtain ⟨_, rfl⟩ := enabled stepped
        exact move_valid valid resetting rfl (ok.leave rfl rfl)
      · rename_i resetting
        obtain ⟨_, rfl⟩ := enabled stepped
        exact move_valid valid resetting rfl (ok.leave rfl rfl)
  | join =>
      obtain ⟨⟨joining, _⟩, rfl⟩ := enabled stepped
      exact move_valid valid joining rfl (ok.leave rfl rfl)
  | removeStream =>
      obtain ⟨⟨removing, _⟩, rfl⟩ := enabled stepped
      have moved : Valid (st.put f { st.calls f with phase := .deregistering }) :=
        move_valid valid removing rfl (ok.leave rfl rfl)
      exact conn_valid moved _
  | deregisterStream =>
      obtain ⟨⟨deregistering, free⟩, rfl⟩ := enabled stepped
      apply call_valid valid _ st.conn st.mutex (fun _ other => mem_filter_ne other)
      · exact ok.leave rfl rfl
      · intro holder before
        exact absurd (free.symm.trans before) (by simp)

/-- The pump, the watcher or the request context of a call changes. -/
theorem beside_valid {st : State} (valid : Valid st) (f : Nat) (pump : Pump) (watcher : Watcher)
    (cancelled : Bool) (reserve : pump = .reserving true → st.teardown = .serving) :
    Valid (st.put f { st.calls f with
      pump := pump, watcher := watcher, cancelled := cancelled }) :=
  put_valid valid ((valid.calls f).beside pump watcher cancelled reserve) id

theorem pumpStep_valid {st next : State} {f : Nat} {move : PumpStep} (valid : Valid st)
    (stepped : pumpStep st f move = some next) : Valid next := by
  cases move with
  | bodyRead | bodyEnd | bodyFails | bodyDetached =>
      obtain ⟨_, rfl⟩ := enabled stepped
      exact beside_valid valid f _ _ _ nofun
  | reserve credit =>
      simp only [pumpStep] at stepped
      split at stepped
      case isFalse => cases stepped
      split at stepped
      · cases stepped
        exact beside_valid valid f _ _ _ nofun
      · rename_i alive
        split at stepped
        · cases stepped
          exact beside_valid valid f _ _ _ nofun
        · -- the only place where a pump parks: the connection is not dead
          cases stepped
          exact beside_valid valid f _ _ _ (fun _ => by simpa [Teardown.isDead] using alive)
  | dataSent rest =>
      simp only [pumpStep] at stepped
      split at stepped
      case h_2 => cases stepped
      rename_i last _
      cases stepped
      apply beside_valid valid f _ _ _
      cases last <;> cases rest <;> exact nofun
  | dataFailed | resetSent =>
      simp only [pumpStep] at stepped
      split at stepped
      case h_2 => cases stepped
      obtain ⟨_, rfl⟩ := enabled stepped
      exact beside_valid valid f _ _ _ nofun

theorem watcherStep_valid {st next : State} {f : Nat} {move : WatcherStep} (valid : Valid st)
    (stepped : watcherStep st f move = some next) : Valid next := by
  have reserve := (valid.calls f).reserve
  cases move with
  | cancelled | copied =>
      obtain ⟨_, rfl⟩ := enabled stepped
      exact beside_valid valid f _ _ _ reserve
  | resetSent =>
      simp only [watcherStep] at stepped
      split at stepped
      case h_2 => cases stepped
      obtain ⟨_, rfl⟩ := enabled stepped
      exact beside_valid valid f _ _ _ reserve

theorem moveSubmit_valid {st next : State} {f : Nat} {old new : Submit} {actor : Actor}
    (valid : Valid st)
    (stepped : ((st.calls f).moveSubmit old new actor).map (st.put f) = some next) :
    Valid next := by
  obtain ⟨c, moved, rfl⟩ := Option.map_eq_some_iff.mp stepped
  have ok := valid.calls f
  cases actor with
  | forward =>
      simp only [Call.moveSubmit] at moved
      split at moved
      · rename_i sending
        cases moved
        refine put_valid valid ?_ (fun _ => rfl)
        exact ok.stay (by rw [sending]; rfl) (Or.inl rfl) rfl rfl rfl nofun nofun
      · split at moved
        · rename_i resetting
          cases moved
          exact move_valid valid resetting rfl (ok.leave rfl rfl)
        · obtain ⟨resetting, rfl⟩ := enabled moved
          exact move_valid valid resetting rfl (ok.leave rfl rfl)
  | pump =>
      simp only [Call.moveSubmit] at moved
      split at moved
      case h_3 => cases moved
      all_goals
        obtain ⟨_, rfl⟩ := enabled moved
        exact beside_valid valid f _ _ _ nofun
  | watcher =>
      obtain ⟨_, rfl⟩ := enabled moved
      exact beside_valid valid f _ _ _ ok.reserve

theorem wake_holds (phase : Phase) : phase.wake.holds = phase.holds := by
  cases phase <;> rfl

theorem fail_holds (c : Call) : c.fail.phase.holds = c.phase.holds := by
  unfold Call.fail
  split <;> exact wake_holds c.phase

theorem deliver_holds (c : Call) : c.deliverHeaders.phase.holds = c.phase.holds := by
  unfold Call.deliverHeaders
  split <;> rfl

theorem wake_pump (pump : Pump) : pump.wake ≠ .reserving true := by
  cases pump <;> simp [Pump.wake]

theorem pushData_valid {st : State} (valid : Valid st) (f : Nat) :
    Valid (st.put f (st.calls f).pushData) :=
  put_valid valid (valid.calls f).pushData (fun held => (wake_holds _).trans held)

theorem closeData_valid {st : State} (valid : Valid st) (f : Nat) :
    Valid (st.put f (st.calls f).closeData) :=
  put_valid valid (valid.calls f).closeData (fun held => (wake_holds _).trans held)

theorem readerStep_valid {st next : State} {move : ReaderStep} (valid : Valid st)
    (stepped : readerStep st move = some next) : Valid next := by
  cases move with
  | deliverHeaders f =>
      obtain ⟨⟨serving, _⟩, rfl⟩ := enabled stepped
      have ok := valid.calls f
      rw [serving] at ok
      refine put_valid valid ?_ (fun held => (deliver_holds _).trans held)
      rw [serving]
      exact ok.deliverHeaders
  | pushData f =>
      obtain ⟨_, rfl⟩ := enabled stepped
      exact pushData_valid valid f
  | closeData f =>
      obtain ⟨_, rfl⟩ := enabled stepped
      exact closeData_valid valid f
  | rstStream f =>
      obtain ⟨_, rfl⟩ := enabled stepped
      exact put_valid valid (valid.calls f).fail (fun held => (fail_holds _).trans held)
  | credit =>
      obtain ⟨_, rfl⟩ := enabled stepped
      refine ⟨fun f => ?_, valid.writer, valid.mutex⟩
      exact (valid.calls f).beside _ _ _ (fun parked => absurd parked (wake_pump _))

/-- The teardown moves on without touching a call. -/
theorem teardown_valid {st : State} (valid : Valid st) (t : Teardown) (mutex : Option Holder)
    (dead : st.teardown ≠ .serving)
    (covers : ∀ f, (st.calls f).phase.attached = true → (st.calls f).respClosed = true →
      (st.calls f).respErr = false → t.Covers f (st.calls f).dataDone)
    (writer : t = .stopped ∨ t = .detached → st.writeDead = true)
    (held : ∀ holder, mutex = some holder →
      (holder = .teardown ∧ ∃ remaining, t = .failing remaining) ∨
        (holder ≠ .teardown ∧ st.mutex = some holder)) :
    Valid { st with teardown := t, mutex := mutex } := by
  refine ⟨fun f => ?_, writer, ?_⟩
  · have ok := valid.calls f
    exact ⟨ok.read, fun parked => absurd (ok.reserve parked) dead, ok.listed, ok.responded,
      covers f⟩
  · intro holder now
    rcases held holder now with ⟨rfl, failing⟩ | ⟨call, before⟩
    · exact failing
    · cases holder with
      | teardown => exact absurd rfl call
      | call g => exact valid.mutex _ before

/-- `failAllStreams` is behind. -/
def Teardown.late : Teardown → Bool
  | .serving | .dead | .failing _ => false
  | _ => true

theorem covers_late {t : Teardown} (late : t.late = true) (f : Nat) (dataDone : Bool) :
    t.Covers f dataDone ↔ dataDone = true := by
  cases t <;> first | rfl | cases late

theorem late_valid {st : State} (valid : Valid st) (t : Teardown) (before : st.teardown.late = true)
    (after : t.late = true) (writer : t = .stopped ∨ t = .detached → st.writeDead = true) :
    Valid { st with teardown := t } := by
  apply teardown_valid valid t st.mutex
  · intro serving
    simp [serving, Teardown.late] at before
  · intro f attached closed fine
    rw [covers_late after]
    exact (covers_late before f _).mp ((valid.calls f).covered attached closed fine)
  · exact writer
  · intro holder held
    refine Or.inr ⟨?_, held⟩
    rintro rfl
    obtain ⟨remaining, failing⟩ := valid.mutex _ held
    simp [failing, Teardown.late] at before

/-- One entry of a registry is failed: `change` closes its body. -/
theorem failOne_valid {st : State} (valid : Valid st) {f : Nat} (c : Call) (t : Teardown)
    (dead : st.teardown ≠ .serving) (ok : CallOk st.teardown st.streams f c)
    (done : c.dataDone = true) (holds : c.phase.holds = (st.calls f).phase.holds)
    (covers : ∀ g, g ≠ f → ∀ done, st.teardown.Covers g done → t.Covers g done)
    (writer : t ≠ .stopped ∧ t ≠ .detached)
    (mutex : (∃ remaining, st.teardown = .failing remaining) →
      ∃ remaining, t = .failing remaining) :
    Valid { st.put f c with teardown := t } := by
  have moved := put_valid valid ok (fun held => holds.trans held)
  refine ⟨?_, ?_, ?_⟩
  · apply (Function.forall_update_iff st.calls fun g c => CallOk t st.streams g c).mpr
    constructor
    · refine ⟨ok.read, fun parked => absurd (ok.reserve parked) dead, ok.listed, ok.responded, ?_⟩
      intro _ _ _
      rw [done]
      exact covers_done t f
    · intro g other
      have before := valid.calls g
      refine ⟨before.read, fun parked => absurd (before.reserve parked) dead, before.listed,
        before.responded, ?_⟩
      intro attached closed fine
      exact covers g other _ (before.covered attached closed fine)
  · rintro (stopped | detached)
    · exact absurd stopped writer.1
    · exact absurd detached writer.2
  · intro holder held
    have was := moved.mutex holder held
    cases holder with
    | call g => exact was
    | teardown => exact mutex was

theorem teardownStep_valid {st next : State} {move : TeardownStep} (valid : Valid st)
    (stepped : teardownStep st move = some next) : Valid next := by
  cases move with
  | markDead =>
      obtain ⟨serving, rfl⟩ := enabled stepped
      refine ⟨fun f => ?_, nofun, ?_⟩
      · have woken := (valid.calls f).beside (st.calls f).pump.wake (st.calls f).watcher
          (st.calls f).cancelled (fun parked => absurd parked (wake_pump _))
        exact ⟨woken.read, fun parked => absurd parked (wake_pump _), woken.listed,
          woken.responded, fun _ _ _ => trivial⟩
      · intro holder held
        have was := valid.mutex holder held
        cases holder with
        | call g => exact was
        | teardown =>
            obtain ⟨remaining, failing⟩ := was
            cases serving.symm.trans failing
  | lockStreams =>
      obtain ⟨⟨dead, _⟩, rfl⟩ := enabled stepped
      apply teardown_valid valid
      · simp [dead]
      · -- every stream with a response is in the registry at this point
        exact fun f attached _ _ => Or.inl ((valid.calls f).listed attached)
      · exact nofun
      · rintro _ ⟨⟩
        exact Or.inl ⟨rfl, _, rfl⟩
  | failNext =>
      simp only [teardownStep] at stepped
      split at stepped
      case h_2 => cases stepped
      rename_i f rest failing
      cases stepped
      apply failOne_valid valid
      · simp [failing]
      · exact (valid.calls f).fail
      · exact fail_done _
      · exact fail_holds _
      · intro g other done covered
        rw [failing] at covered
        rcases covered with member | closed
        · exact Or.inl ((List.mem_cons.mp member).resolve_left other)
        · exact Or.inr closed
      · simp
      · exact fun _ => ⟨rest, rfl⟩
  | unlockStreams =>
      obtain ⟨failing, rfl⟩ := enabled stepped
      apply teardown_valid valid
      · simp [failing]
      · intro f attached closed fine
        have covered := (valid.calls f).covered attached closed fine
        rw [failing] at covered
        exact covered.resolve_left List.not_mem_nil
      · exact nofun
      · exact nofun
  | failConnNext =>
      simp only [teardownStep] at stepped
      split at stepped
      case h_2 => cases stepped
      rename_i f rest failing
      cases stepped
      apply failOne_valid valid
      · simp [failing]
      · exact (valid.calls f).closeData
      · rfl
      · exact wake_holds _
      · intro g _ done covered
        rwa [failing] at covered
      · simp
      · rintro ⟨remaining, other⟩
        cases failing.symm.trans other
  | lockConn | unlockConn | sendGoAway | closeShutdown =>
      obtain ⟨stands, rfl⟩ := enabled stepped
      exact late_valid valid _ (by rw [stands]; rfl) rfl nofun
  | writerGone =>
      obtain ⟨⟨stopping, dead⟩, rfl⟩ := enabled stepped
      exact late_valid valid _ (by rw [stopping]; rfl) rfl (fun _ => dead)
  | detach =>
      obtain ⟨stopped, rfl⟩ := enabled stepped
      exact late_valid valid _ (by rw [stopped]; rfl) rfl (fun _ => valid.writer (Or.inl stopped))

theorem step_valid {st next : State} {action : Action} (valid : Valid st)
    (stepped : step st action = some next) : Valid next := by
  cases action with
  | forward f move => exact forwardStep_valid valid stepped
  | pump f move => exact pumpStep_valid valid stepped
  | watcher f move => exact watcherStep_valid valid stepped
  | reader move => exact readerStep_valid valid stepped
  | teardown move => exact teardownStep_valid valid stepped
  | cancel f =>
      cases stepped
      exact beside_valid valid f _ _ _ (valid.calls f).reserve
  | accept f actor => exact moveSubmit_valid valid stepped
  | answer f actor ok => exact moveSubmit_valid valid stepped
  | writerExits =>
      cases stepped
      exact ⟨valid.calls, fun _ => rfl, valid.mutex⟩
  | touch f push =>
      cases stepped
      cases push with
      | true => exact pushData_valid valid f
      | false => exact closeData_valid valid f

section Detached

variable {st : State} {f : Nat}

theorem put_self (st : State) (f : Nat) (c : Call) : (st.put f c).calls f = c :=
  Function.update_self ..

theorem forward_leaves (move : ForwardStep) (c : Call)
    (stepped : forwardStep st f move = some (st.put f c))
    (left : c.wait .forward ≠ (st.calls f).wait .forward) : Released st f .forward :=
  ⟨.forward f move, st.put f c, rfl, stepped, (put_self st f c).symm ▸ left⟩

theorem pump_leaves (move : PumpStep) (c : Call)
    (stepped : pumpStep st f move = some (st.put f c))
    (left : c.wait .pump ≠ (st.calls f).wait .pump) : Released st f .pump :=
  ⟨.pump f move, st.put f c, rfl, stepped, (put_self st f c).symm ▸ left⟩

/-- With the writer dead, `submit` has its answer or fails. -/
theorem submit_returns (submit : Submit) : submit = .answered true ∨ submit.failed true = true := by
  rcases submit with _ | _ | ok
  · exact Or.inr rfl
  · exact Or.inr rfl
  · cases ok
    · exact Or.inr rfl
    · exact Or.inl rfl

theorem accepted_dead (submit : Submit) : submit.accepted true = true := by
  simp [Submit.accepted]

theorem sending_released (dead : st.writeDead = true) {submit : Submit}
    (sending : (st.calls f).phase = .sending submit) :
    ∃ move next, step st (.forward f move) = some next ∧
      (next.calls f).wait .forward ≠ some .submit := by
  rcases submit_returns submit with rfl | failed
  · refine ⟨.headersSent false, _, if_pos sending, ?_⟩
    simp [State.put, Call.wait]
  · refine ⟨.headersFailed, st.put f { st.calls f with phase := .deleting }, ?_, ?_⟩
    · simp [step, forwardStep, sending, dead, failed]
    · simp [State.put, Call.wait]

theorem reading_released {c : Call} (same : st.calls f = c) (reading : c.phase = .reading false)
    (done : c.dataDone = true) : Released st f .forward := by
  by_cases more : 0 < c.queued
  · apply forward_leaves .read { c with phase := .writing, queued := c.queued - 1 }
    · simp [forwardStep, same, reading, more]
    · simp [same, Call.wait, reading]
  · apply forward_leaves .read { c with phase := .joining, copied := true }
    · simp [forwardStep, same, reading, more, done]
    · simp [same, Call.wait, reading]

theorem forward_released (valid : Valid st) (detached : st.teardown = .detached)
    (waits : (st.calls f).wait .forward ≠ none) : Released st f .forward := by
  have dead := valid.writer (Or.inr detached)
  have ok := valid.calls f
  cases phase : (st.calls f).phase with
  | waiting =>
      apply forward_leaves .waitDetached { st.calls f with phase := .joining }
      · simp [forwardStep, phase, detached, Teardown.isDetached]
      · simp [Call.wait, phase]
  | reading parked =>
      -- the response came before the teardown, so `failAllStreams` has closed the body
      obtain ⟨closed, fine⟩ := ok.responded (by rw [phase]; rfl)
      have done : (st.calls f).dataDone = true := by
        have covered := ok.covered (by rw [phase]; rfl) closed fine
        rwa [detached] at covered
      cases parked with
      | false => exact reading_released rfl phase done
      | true => exact absurd ((ok.read phase).2.symm.trans done) (by simp)
  | sending submit =>
      obtain ⟨move, next, stepped, left⟩ := sending_released dead phase
      exact ⟨.forward f move, next, rfl, stepped, by simpa [Call.wait, phase] using left⟩
  | waitReset submit =>
      apply forward_leaves .resetSent { st.calls f with phase := .joining }
      · simp [forwardStep, phase, dead, accepted_dead]
      · simp [Call.wait, phase]
  | copyReset submit =>
      apply forward_leaves .resetSent { st.calls f with phase := .joining, copied := true }
      · simp [forwardStep, phase, dead, accepted_dead]
      · simp [Call.wait, phase]
  | _ => simp [Call.wait, phase] at waits

theorem pump_released (valid : Valid st) (detached : st.teardown = .detached)
    (waits : (st.calls f).wait .pump ≠ none) : Released st f .pump := by
  have dead := valid.writer (Or.inr detached)
  cases pump : (st.calls f).pump with
  | reserving parked =>
      cases parked with
      | true => cases detached.symm.trans ((valid.calls f).reserve pump)
      | false =>
          apply pump_leaves (.reserve false) { st.calls f with pump := .finished }
          · simp [pumpStep, pump, detached, Teardown.isDead]
          · simp [Call.wait, pump]
  | submitting submit last =>
      rcases submit_returns submit with rfl | failed
      · apply pump_leaves (.dataSent false)
          { st.calls f with pump := if last then .finished else .reading }
        · simp [pumpStep, pump]
        · cases last <;> simp [Call.wait, pump]
      · apply pump_leaves .dataFailed { st.calls f with pump := .finished }
        · simp [pumpStep, pump, dead, failed]
        · simp [Call.wait, pump]
  | resetting submit =>
      apply pump_leaves .resetSent { st.calls f with pump := .finished }
      · simp [pumpStep, pump, dead, accepted_dead]
      · simp [Call.wait, pump]
  | _ => simp [Call.wait, pump] at waits

theorem watcher_released (valid : Valid st) (detached : st.teardown = .detached)
    (waits : (st.calls f).wait .watcher ≠ none) : Released st f .watcher := by
  have dead := valid.writer (Or.inr detached)
  cases watcher : (st.calls f).watcher with
  | resetting submit =>
      refine ⟨.watcher f .resetSent, st.put f { st.calls f with watcher := .finished }, rfl, ?_, ?_⟩
      · simp [step, watcherStep, watcher, dead, accepted_dead]
      · simp [put_self, Call.wait, watcher]
  | _ => simp [Call.wait, watcher] at waits

theorem holder_moves (valid : Valid st) (detached : st.teardown = .detached) {holder : Holder}
    (held : st.mutex = some holder) :
    ∃ f move next, holder = .call f ∧ step st (.forward f move) = some next := by
  have dead := valid.writer (Or.inr detached)
  have unlocked : st.teardown.locksConn = false := by rw [detached]; rfl
  have holds := valid.mutex holder held
  cases holder with
  | teardown =>
      obtain ⟨remaining, failing⟩ := holds
      cases detached.symm.trans failing
  | call f =>
      cases phase : (st.calls f).phase with
      | checking => exact ⟨f, .refuse, _, rfl, if_pos phase⟩
      | adding => exact ⟨f, .addStream, _, rfl, if_pos ⟨phase, unlocked⟩⟩
      | registering => exact ⟨f, .register, _, rfl, if_pos phase⟩
      | sending submit =>
          obtain ⟨move, next, stepped, _⟩ := sending_released dead phase
          exact ⟨f, move, next, rfl, stepped⟩
      | deleting => exact ⟨f, .deleteStream, _, rfl, if_pos phase⟩
      | unadding => exact ⟨f, .unaddStream, _, rfl, if_pos ⟨phase, unlocked⟩⟩
      | _ => simp [phase, Phase.holds] at holds

end Detached

/-- Once `shutdownCh` is closed, in every state of every run, no goroutine of any
forward is held up by the tunnel. -/
theorem detached_tunnel_releases_forwards {trace : List Action} {last : State}
    (ran : run step State.new trace = some last) (detached : last.teardown = .detached) :
    Unstuck last := by
  have valid : Valid last :=
    run_invariant_all (fun _ _ _ valid stepped => step_valid valid stepped) valid_new ran
  constructor
  · intro f actor waits
    cases actor with
    | forward => exact forward_released valid detached waits
    | pump => exact pump_released valid detached waits
    | watcher => exact watcher_released valid detached waits
  · intro holder held
    exact holder_moves valid detached held

/-- Call 0 is parked in `Read`, its pump in `Reserve`; call 1 waits for headers and
call 2 opens its stream between `failAllStreams` and the end of the writer. -/
def midflight : List Action :=
  [.forward 0 .start, .forward 0 .lock, .forward 0 .acquire, .forward 0 .addStream,
    .forward 0 .register, .accept 0 .forward, .answer 0 .forward true,
    .forward 0 (.headersSent true), .reader (.deliverHeaders 0), .forward 0 .responded,
    .forward 0 .read, .pump 0 .bodyRead, .pump 0 (.reserve false),
    .forward 1 .start, .forward 1 .lock, .forward 1 .acquire, .forward 1 .addStream,
    .forward 1 .register, .accept 1 .forward, .answer 1 .forward true,
    .forward 1 (.headersSent false),
    .teardown .markDead, .teardown .lockStreams, .teardown .failNext, .teardown .failNext,
    .teardown .unlockStreams, .teardown .lockConn, .teardown .failConnNext,
    .teardown .failConnNext, .teardown .unlockConn,
    .forward 2 .start, .forward 2 .lock, .forward 2 .acquire, .forward 2 .addStream,
    .forward 2 .register, .accept 2 .forward,
    .teardown .sendGoAway, .teardown .closeShutdown, .writerExits, .teardown .writerGone,
    .teardown .detach]

theorem detached_tunnel_releases_forwards_midflight :
    ∃ last, run step State.new midflight = some last ∧ last.teardown = .detached ∧
      (last.calls 0).wait .forward = some .body ∧ (last.calls 0).wait .pump = some .credit ∧
      (last.calls 2).wait .forward = some .submit ∧ Unstuck last := by
  have ran : (run step State.new midflight).map (fun last => (last.teardown,
      (last.calls 0).wait .forward, (last.calls 0).wait .pump, (last.calls 2).wait .forward)) =
      some (.detached, some .body, some .credit, some .submit) := by
    decide
  obtain ⟨last, reached, shape⟩ := Option.map_eq_some_iff.mp ran
  simp only [Prod.mk.injEq] at shape
  exact ⟨last, reached, shape.1, shape.2.1, shape.2.2.1, shape.2.2.2,
    detached_tunnel_releases_forwards reached shape.1⟩

end ReverseHttp.TunnelTeardown
