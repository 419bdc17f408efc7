import ReverseHttp.Transition
import ReverseHttp.Wire
import Mathlib.Tactic.Common

/-!
`Pool.Shutdown` with streams in flight. Any number of connections, each with its
serve loop, its write queue and writer, and the streams registered on it. After
`shutdownCh` is closed the loop returns at its next look at it and runs its
deferred teardown: `MarkDead`, `FailAllStreams` (which cancels the contexts), a
GOAWAY submitted like any other intent, `ShutdownWriter`, `Close`. It returns as
well once `drainDone` is closed, which `RemoveStream` and `BeginDrain` do on a
count that may be an old one, and on any error. `Shutdown` returns nil when every
loop has returned; it does not wait for handlers.

A response is completed by one intent, `complete`: END_STREAM, for which the
handler's goroutine waits, or RST_STREAM, for which it does not. A client's
RST_STREAM cancels the context, and the handler's goroutine still ends the
response, so it is no step here. `marked` is ghost: the streams registered on a
live connection when `Shutdown` was called.
-/

namespace ReverseHttp.ShutdownDrain

open Transition
open Wire (writeQSize)

inductive Intent where
  | complete (stream : Nat)
  | goAway
  | other
  deriving DecidableEq, Repr

inductive Phase where
  | absent
  | running
  | ending
  | removing
  | removed
  deriving DecidableEq, Repr

/-- `written`: the completing frame is on the wire; `cancelled`: the teardown
cancelled the handler's context. -/
structure Stream where
  conn : Nat
  phase : Phase
  written : Bool
  cancelled : Bool
  marked : Bool
  deriving DecidableEq, Repr

def Stream.new : Stream :=
  { conn := 0, phase := .absent, written := false, cancelled := false, marked := false }

/-- The serve loop: its reads, then the statements of its defer. -/
inductive Loop where
  | absent
  | serving
  | leaving
  | dead
  | failing (remaining : List Nat)
  | failed
  | goingAway
  | goneAway
  | stopping
  | returned
  deriving DecidableEq, Repr

/-- `counted` are the sizes of the registry that `RemoveStream` or `BeginDrain` has
read and not acted on yet. -/
structure Conn where
  loop : Loop
  lost : Bool
  registry : List Nat
  draining : Bool
  counted : List Nat
  drainDone : Bool
  queue : List Intent
  goAwayWritten : Bool
  writeDead : Bool
  deriving DecidableEq, Repr

def Conn.new : Conn :=
  { loop := .absent, lost := false, registry := [], draining := false, counted := []
    drainDone := false, queue := [], goAwayWritten := false, writeDead := false }

/-- `started` are the connections whose loop was ever started. -/
structure State where
  streams : Nat → Stream
  conns : Nat → Conn
  started : List Nat
  called : Bool
  returned : Bool

def State.new : State :=
  { streams := fun _ => Stream.new, conns := fun _ => Conn.new, started := [], called := false
    returned := false }

def State.putStream (st : State) (s : Nat) (stream : Stream) : State :=
  { st with streams := Function.update st.streams s stream }

def State.putConn (st : State) (c : Nat) (conn : Conn) : State :=
  { st with conns := Function.update st.conns c conn }

/-- `loopFails` is an error of the loop, `connectionLost` the end of the transport,
`writerFails` an error of the writer; `abort` a handler that finds the connection
dead; `submitOther` any other frame. -/
inductive Action where
  | dial (conn : Nat)
  | accept (conn stream : Nat)
  | endStream (stream : Nat)
  | endWritten (stream : Nat)
  | resetStream (stream : Nat)
  | abort (stream : Nat)
  | removeStream (stream : Nat)
  | submitOther (conn : Nat)
  | write (conn : Nat)
  | beginDrain (conn : Nat)
  | countStreams (conn : Nat)
  | finishDrain (conn count : Nat)
  | loopFails (conn : Nat)
  | connectionLost (conn : Nat)
  | writerFails (conn : Nat)
  | callShutdown
  | seeShutdown (conn : Nat)
  | seeDrained (conn : Nat)
  | markDead (conn : Nat)
  | failAllStreams (conn : Nat)
  | failNext (conn : Nat)
  | failedAll (conn : Nat)
  | sendGoAway (conn : Nat)
  | goAwayDone (conn : Nat)
  | shutdownWriter (conn : Nat)
  | writerExits (conn : Nat)
  | returnShutdown
  deriving DecidableEq, Repr

def Conn.submit (conn : Conn) (intent : Intent) : Option Conn :=
  if conn.queue.length < writeQSize ∧ conn.writeDead = false then
    some { conn with queue := conn.queue ++ [intent] }
  else none

def State.connOf (st : State) (s : Nat) : Conn := st.conns (st.streams s).conn

/-- Every stream still registered on a live connection. -/
def State.mark (st : State) : State :=
  { st with streams := fun s =>
      if (st.connOf s).loop = .serving ∧ s ∈ (st.connOf s).registry then
        { st.streams s with marked := true }
      else st.streams s }

def step (st : State) : Action → Option State
  | .dial c =>
      if (st.conns c).loop = .absent then
        some { st.putConn c { st.conns c with loop := .serving } with started := c :: st.started }
      else none
  | .accept c s =>
      if (st.conns c).loop = .serving ∧ (st.streams s).phase = .absent then
        some ((st.putConn c { st.conns c with registry := s :: (st.conns c).registry }).putStream s
          { Stream.new with conn := c, phase := .running })
      else none
  | .endStream s =>
      if (st.streams s).phase = .running then
        ((st.connOf s).submit (.complete s)).map fun conn =>
          (st.putConn (st.streams s).conn conn).putStream s { st.streams s with phase := .ending }
      else none
  -- `submit` returns the writer's answer, or its error once it is dead
  | .endWritten s =>
      if (st.streams s).phase = .ending ∧ ((st.streams s).written ∨ (st.connOf s).writeDead) then
        some (st.putStream s { st.streams s with phase := .removing })
      else none
  | .resetStream s =>
      if (st.streams s).phase = .running then
        ((st.connOf s).submit (.complete s)).map fun conn =>
          (st.putConn (st.streams s).conn conn).putStream s { st.streams s with phase := .removing }
      else none
  -- on a connection being torn down, or without a writer, the handler's writes fail
  | .abort s =>
      if (st.streams s).phase = .running ∧
          ((st.connOf s).loop ≠ .serving ∨ (st.connOf s).writeDead) then
        some (st.putStream s { st.streams s with phase := .removing })
      else none
  | .removeStream s =>
      if (st.streams s).phase = .removing then
        let registry := (st.connOf s).registry.filter (· ≠ s)
        some ((st.putConn (st.streams s).conn { st.connOf s with
          registry := registry
          counted := registry.length :: (st.connOf s).counted }).putStream s
          { st.streams s with phase := .removed })
      else none
  | .submitOther c => ((st.conns c).submit .other).map (st.putConn c)
  | .write c =>
      if (st.conns c).writeDead then none
      else
        match (st.conns c).queue with
        | [] => none
        | .complete s :: rest =>
            some ((st.putConn c { st.conns c with queue := rest }).putStream s
              { st.streams s with written := true })
        | .goAway :: rest =>
            some (st.putConn c { st.conns c with queue := rest, goAwayWritten := true })
        | .other :: rest => some (st.putConn c { st.conns c with queue := rest })
  | .beginDrain c =>
      if (st.conns c).loop = .serving then some (st.putConn c { st.conns c with draining := true })
      else none
  | .countStreams c =>
      if (st.conns c).loop = .serving ∧ (st.conns c).draining then
        some (st.putConn c { st.conns c with
          counted := (st.conns c).registry.length :: (st.conns c).counted })
      else none
  | .finishDrain c count =>
      if count ∈ (st.conns c).counted then
        some (st.putConn c { st.conns c with
          counted := (st.conns c).counted.erase count
          drainDone := (st.conns c).drainDone || (count = 0 && (st.conns c).draining) })
      else none
  | .loopFails c =>
      if (st.conns c).loop = .serving then
        some (st.putConn c { st.conns c with loop := .leaving })
      else none
  | .connectionLost c =>
      if (st.conns c).loop = .serving then
        some (st.putConn c { st.conns c with loop := .leaving, lost := true })
      else none
  | .writerFails c => some (st.putConn c { st.conns c with writeDead := true })
  | .callShutdown => if st.called then none else some { st.mark with called := true }
  -- whatever is still registered
  | .seeShutdown c =>
      if (st.conns c).loop = .serving ∧ st.called then
        some (st.putConn c { st.conns c with loop := .leaving })
      else none
  -- `DrainComplete`, whatever is registered by now
  | .seeDrained c =>
      if (st.conns c).loop = .serving ∧ (st.conns c).drainDone then
        some (st.putConn c { st.conns c with loop := .leaving })
      else none
  | .markDead c =>
      if (st.conns c).loop = .leaving then some (st.putConn c { st.conns c with loop := .dead })
      else none
  | .failAllStreams c =>
      if (st.conns c).loop = .dead then
        some (st.putConn c { st.conns c with loop := .failing (st.conns c).registry })
      else none
  | .failNext c =>
      match (st.conns c).loop with
      | .failing (s :: rest) =>
          some ((st.putConn c { st.conns c with loop := .failing rest }).putStream s
            { st.streams s with cancelled := true })
      | _ => none
  | .failedAll c =>
      if (st.conns c).loop = .failing [] then
        some (st.putConn c { st.conns c with loop := .failed })
      else none
  | .sendGoAway c =>
      if (st.conns c).loop = .failed then
        if (st.conns c).writeDead then some (st.putConn c { st.conns c with loop := .goneAway })
        else ((st.conns c).submit .goAway).map fun conn =>
          st.putConn c { conn with loop := .goingAway }
      else none
  | .goAwayDone c =>
      if (st.conns c).loop = .goingAway ∧ ((st.conns c).goAwayWritten ∨ (st.conns c).writeDead) then
        some (st.putConn c { st.conns c with loop := .goneAway })
      else none
  | .shutdownWriter c =>
      if (st.conns c).loop = .goneAway then
        some (st.putConn c { st.conns c with loop := .stopping })
      else none
  -- what is still queued is answered with an error
  | .writerExits c =>
      if (st.conns c).loop = .stopping then
        some (st.putConn c { st.conns c with loop := .returned, writeDead := true })
      else none
  -- `maintainers.Wait`: the serve loops, not the handlers
  | .returnShutdown =>
      if st.called ∧ ∀ c ∈ st.started, (st.conns c).loop = .returned then
        some { st with returned := true }
      else none

/-- A stream in flight at the call has its response on the wire before its writer is
stopped, and so has every one, with its context kept, when `Shutdown` has returned. -/
structure Drained (st : State) : Prop where
  flushed : ∀ s, (st.streams s).marked = true → (st.connOf s).loop = .stopping →
    (st.streams s).written = true
  completed : st.returned = true → ∀ s, (st.streams s).marked = true →
    (st.streams s).written = true ∧ (st.streams s).cancelled = false

def Stream.inFlight (stream : Stream) : Bool :=
  stream.phase = .running || stream.phase = .ending || stream.phase = .removing

/-- After the call a loop returns only with its stream registry empty and no
connection is lost; a writer fails only on a lost connection. -/
def Emptied (st : State) : Action → Prop
  | .seeShutdown c | .seeDrained c | .loopFails c => st.called = true → (st.conns c).registry = []
  | .connectionLost _ => st.called = false
  | .writerFails c => (st.conns c).lost = true
  | _ => True

instance (st : State) (action : Action) : Decidable (Emptied st action) := by
  unfold Emptied
  split <;> infer_instance

/-- `SendGoAway` is still to come. -/
def Loop.open : Loop → Bool
  | .goingAway | .goneAway | .stopping | .returned => false
  | _ => true

def Loop.tearing : Loop → Bool
  | .absent | .serving | .returned => false
  | _ => true

/-- The completing frame is queued, and ahead of the GOAWAY if there is one. -/
def Pending (conn : Conn) (s : Nat) : Prop :=
  match conn.loop with
  | .goneAway | .stopping | .returned => False
  | .goingAway => conn.goAwayWritten = false ∧
      ∃ front back, conn.queue = front ++ .goAway :: back ∧ .complete s ∈ front ∧ .goAway ∉ front
  | _ => .complete s ∈ conn.queue

/-- `Shutdown` found the stream in flight, or would find it so. -/
def Watched (conn : Conn) (stream : Stream) : Prop :=
  stream.marked = true ∨ (stream.inFlight = true ∧ conn.loop = .serving)

/-- What holds of a watched stream and its connection. -/
structure WatchedOk (conn : Conn) (stream : Stream) (s : Nat) : Prop where
  present : stream.phase ≠ .absent
  kept : stream.cancelled = false
  live : stream.inFlight = true → conn.loop = .serving
  sound : conn.lost = false ∧ conn.loop ≠ .absent
  submitted : stream.phase ≠ .running → stream.written = true ∨ Pending conn s

/-- What holds of a stream `FailAllStreams` of connection `c` has still to cancel. -/
structure Doomed (stream : Stream) (c : Nat) : Prop where
  present : stream.phase ≠ .absent
  conn : stream.conn = c
  unmarked : stream.marked = false

/-- What holds of a connection by itself. -/
structure Conn.Sound (conn : Conn) : Prop where
  quiet : conn.loop.open = true → conn.goAwayWritten = false ∧ .goAway ∉ conn.queue
  dead : conn.writeDead = true → conn.lost = true ∨ conn.loop = .returned
  early : conn.loop = .absent ∨ conn.loop = .serving → conn.lost = false

structure Valid (st : State) : Prop where
  owner : ∀ c s, s ∈ (st.conns c).registry → (st.streams s).conn = c ∧
    (st.streams s).inFlight = true ∧ (st.conns c).loop ≠ .absent
  registered : ∀ s, (st.streams s).inFlight = true → s ∈ (st.connOf s).registry
  early : st.called = false → ∀ s, (st.streams s).marked = false
  watched : ∀ s, Watched (st.connOf s) (st.streams s) → WatchedOk (st.connOf s) (st.streams s) s
  started : ∀ c, (st.conns c).loop ≠ .absent → c ∈ st.started
  conns : ∀ c, (st.conns c).Sound
  failing : ∀ c remaining, (st.conns c).loop = .failing remaining →
    ∀ s ∈ remaining, Doomed (st.streams s) c
  late : st.returned = true → st.called = true
  returned : st.returned = true → ∀ s, (st.streams s).marked = true →
    (st.connOf s).loop = .returned

theorem valid_new : Valid State.new := by
  constructor <;>
    simp [State.new, Conn.new, Stream.new, Stream.inFlight, State.connOf, Watched]
  exact ⟨by simp, nofun, fun _ => rfl⟩

section Steps

variable {st next : State} {c s : Nat}

/-- The connection changes, its registry apart; `kept` is what its watched streams need. -/
theorem conn_valid (valid : Valid st) (conn : Conn)
    (started : conn.loop ≠ .absent → c ∈ st.started)
    (registry : conn.registry = (st.conns c).registry)
    (there : (st.conns c).loop ≠ .absent → conn.loop ≠ .absent)
    (back : conn.loop = .serving → (st.conns c).loop = .serving ∨ (st.conns c).loop = .absent)
    (kept : ∀ s, (st.streams s).conn = c → Watched conn (st.streams s) →
      WatchedOk (st.conns c) (st.streams s) s → WatchedOk conn (st.streams s) s)
    (sound : conn.Sound)
    (failing : ∀ remaining, conn.loop = .failing remaining →
      ∀ s ∈ remaining, Doomed (st.streams s) c)
    (ended : (st.conns c).loop = .returned → conn.loop = .returned) :
    Valid (st.putConn c conn) := by
  constructor
  · refine (Function.forall_update_iff st.conns fun other conn => ∀ s, s ∈ conn.registry →
      (st.streams s).conn = other ∧ (st.streams s).inFlight = true ∧ conn.loop ≠ .absent).mpr
      ⟨fun s member => ?_, fun other _ => valid.owner other⟩
    obtain ⟨place, flight, began⟩ := valid.owner c s (registry ▸ member)
    exact ⟨place, flight, there began⟩
  · intro s flight
    have before := valid.registered s flight
    by_cases same : (st.streams s).conn = c
    · simp only [State.connOf, State.putConn, same, Function.update_self] at before ⊢
      rwa [registry]
    · simpa only [State.connOf, State.putConn, Function.update_of_ne same] using before
  · exact valid.early
  · intro s watched
    by_cases same : (st.streams s).conn = c
    · have place : st.connOf s = st.conns c := congrArg st.conns same
      simp only [State.connOf, State.putConn, same, Function.update_self] at watched ⊢
      refine kept s same watched (place ▸ valid.watched s ?_)
      rw [place]
      refine watched.imp_right fun ⟨flight, serving⟩ => ⟨flight, (back serving).resolve_right ?_⟩
      exact (valid.owner c s (place ▸ valid.registered s flight)).2.2
    · simp only [State.connOf, State.putConn, Function.update_of_ne same] at watched ⊢
      exact valid.watched s watched
  · exact (Function.forall_update_iff st.conns fun other conn =>
      conn.loop ≠ .absent → other ∈ st.started).mpr
      ⟨started, fun other _ => valid.started other⟩
  · exact (Function.forall_update_iff st.conns fun _ conn => conn.Sound).mpr
      ⟨sound, fun other _ => valid.conns other⟩
  · exact (Function.forall_update_iff st.conns fun other conn => ∀ remaining,
      conn.loop = .failing remaining → ∀ s ∈ remaining, Doomed (st.streams s) other).mpr
      ⟨failing, fun other _ => valid.failing other⟩
  · exact valid.late
  · intro returned s marked
    have before := valid.returned returned s marked
    by_cases same : (st.streams s).conn = c
    · simp only [State.connOf, State.putConn, same, Function.update_self] at before ⊢
      exact ended before
    · simpa only [State.connOf, State.putConn, Function.update_of_ne same] using before

theorem putStream_field {α : Type} (field : Stream → α) {stream : Stream}
    (same : field stream = field (st.streams s)) (other : Nat) :
    field ((st.putStream s stream).streams other) = field (st.streams other) := by
  by_cases here : other = s
  · subst here
    simpa [State.putStream] using same
  · simp [State.putStream, Function.update_of_ne here]

theorem Doomed.congr {stream other : Stream} (doomed : Doomed stream c)
    (present : stream.phase ≠ .absent → other.phase ≠ .absent) (conn : other.conn = stream.conn)
    (marked : other.marked = stream.marked) : Doomed other c :=
  ⟨present doomed.present, conn.trans doomed.conn, marked.trans doomed.unmarked⟩

/-- A stream changes without entering or leaving a registry. -/
theorem stream_valid (valid : Valid st) (stream : Stream)
    (conn : stream.conn = (st.streams s).conn)
    (flight : stream.inFlight = (st.streams s).inFlight)
    (marked : stream.marked = (st.streams s).marked)
    (present : (st.streams s).phase ≠ .absent → stream.phase ≠ .absent)
    (ok : Watched (st.connOf s) stream → WatchedOk (st.connOf s) stream s) :
    Valid (st.putStream s stream) := by
  have conns := putStream_field Stream.conn conn
  have flights := putStream_field Stream.inFlight flight
  have marks := putStream_field Stream.marked marked
  have places : ∀ other, (st.putStream s stream).connOf other = st.connOf other := by
    intro other
    rw [State.connOf, conns]
    rfl
  constructor
  · intro c other member
    rw [conns, flights]
    exact valid.owner c other member
  · intro other
    rw [flights, places]
    exact valid.registered other
  · intro early other
    rw [marks]
    exact valid.early early other
  · intro other
    rw [places]
    by_cases same : other = s
    · subst same
      simpa [State.putStream] using ok
    · simpa [State.putStream, Function.update_of_ne same] using valid.watched other
  · exact valid.started
  · exact valid.conns
  · intro c remaining failing other member
    have doomed := valid.failing c remaining failing other member
    refine doomed.congr (fun there => ?_) (conns other) (marks other)
    by_cases same : other = s
    · subst same
      simpa [State.putStream] using present there
    · simpa [State.putStream, Function.update_of_ne same] using there
  · exact valid.late
  · intro returned other
    rw [marks, places]
    exact valid.returned returned other

theorem present_of_flight {stream : Stream} (flight : stream.inFlight = true) :
    stream.phase ≠ .absent := by
  intro absent
  simp [Stream.inFlight, absent] at flight

theorem WatchedOk.congr {conn other : Conn} {stream : Stream} (ok : WatchedOk conn stream s)
    (loop : other.loop = conn.loop) (lost : other.lost = conn.lost)
    (queue : other.queue = conn.queue) (written : other.goAwayWritten = conn.goAwayWritten) :
    WatchedOk other stream s := by
  refine ⟨ok.present, ok.kept, ?_, ?_, ?_⟩
  · rw [loop]
    exact ok.live
  · rw [loop, lost]
    exact ok.sound
  · unfold Pending
    rw [loop, queue, written]
    exact ok.submitted

/-- What it takes for stream `s` to enter or leave the registry of connection `c`. -/
structure Roster (st : State) (c s : Nat) (registry : List Nat) (stream : Stream) : Prop where
  there : (st.conns c).loop ≠ .absent
  conn : stream.conn = c
  home : (st.streams s).phase ≠ .absent → (st.streams s).conn = c
  others : ∀ other, other ≠ s → (other ∈ registry ↔ other ∈ (st.conns c).registry)
  self : s ∈ registry ↔ stream.inFlight = true
  marked : stream.marked = (st.streams s).marked
  present : stream.phase ≠ .absent

section Roster

variable {registry counted : List Nat} {stream : Stream}

def State.enroll (st : State) (c s : Nat) (registry counted : List Nat) (stream : Stream) : State :=
  (st.putConn c { st.conns c with registry := registry, counted := counted }).putStream s stream

theorem enroll_stream : (st.enroll c s registry counted stream).streams s = stream :=
  Function.update_self ..

theorem enroll_other {other : Nat} (apart : other ≠ s) :
    (st.enroll c s registry counted stream).streams other = st.streams other :=
  Function.update_of_ne apart ..

theorem enroll_conn :
    (st.enroll c s registry counted stream).conns c =
      { st.conns c with registry := registry, counted := counted } :=
  Function.update_self ..

theorem enroll_elsewhere {place : Nat} (apart : place ≠ c) :
    (st.enroll c s registry counted stream).conns place = st.conns place :=
  Function.update_of_ne apart ..

theorem enroll_loop (place : Nat) :
    ((st.enroll c s registry counted stream).conns place).loop = (st.conns place).loop := by
  by_cases here : place = c
  · rw [here, enroll_conn]
  · rw [enroll_elsewhere here]

theorem Roster.marks (roster : Roster st c s registry stream) (other : Nat) :
    ((st.enroll c s registry counted stream).streams other).marked = (st.streams other).marked :=
  putStream_field Stream.marked roster.marked other

theorem Roster.owner (roster : Roster st c s registry stream) (valid : Valid st) {place other : Nat}
    (member : other ∈ ((st.enroll c s registry counted stream).conns place).registry) :
    ((st.enroll c s registry counted stream).streams other).conn = place ∧
      ((st.enroll c s registry counted stream).streams other).inFlight = true ∧
      ((st.enroll c s registry counted stream).conns place).loop ≠ .absent := by
  rw [enroll_loop]
  by_cases here : place = c
  · subst here
    rw [enroll_conn] at member
    by_cases same : other = s
    · subst same
      rw [enroll_stream]
      exact ⟨roster.conn, roster.self.mp member, roster.there⟩
    · rw [enroll_other same]
      exact valid.owner place other ((roster.others other same).mp member)
  · rw [enroll_elsewhere here] at member
    obtain ⟨home, flight, there⟩ := valid.owner place other member
    by_cases same : other = s
    · subst same
      exact absurd (home.symm.trans (roster.home (present_of_flight flight))) here
    · rw [enroll_other same]
      exact ⟨home, flight, there⟩

theorem Roster.registered (roster : Roster st c s registry stream) (valid : Valid st) {other : Nat}
    (flight : ((st.enroll c s registry counted stream).streams other).inFlight = true) :
    other ∈ ((st.enroll c s registry counted stream).connOf other).registry := by
  rw [State.connOf]
  by_cases same : other = s
  · subst same
    rw [enroll_stream] at flight ⊢
    rw [roster.conn, enroll_conn]
    exact roster.self.mpr flight
  · rw [enroll_other same] at flight ⊢
    have before := valid.registered other flight
    by_cases here : (st.streams other).conn = c
    · rw [State.connOf, here] at before
      rw [here, enroll_conn]
      exact (roster.others other same).mpr before
    · rwa [enroll_elsewhere here]

theorem Roster.watched (roster : Roster st c s registry stream) (valid : Valid st)
    (ok : Watched (st.conns c) stream → WatchedOk (st.conns c) stream s) {other : Nat}
    (watched : Watched ((st.enroll c s registry counted stream).connOf other)
      ((st.enroll c s registry counted stream).streams other)) :
    WatchedOk ((st.enroll c s registry counted stream).connOf other)
      ((st.enroll c s registry counted stream).streams other) other := by
  rw [State.connOf] at watched ⊢
  by_cases same : other = s
  · subst same
    rw [enroll_stream] at watched ⊢
    rw [roster.conn, enroll_conn] at watched ⊢
    exact (ok watched).congr rfl rfl rfl rfl
  · rw [enroll_other same] at watched ⊢
    have before := valid.watched other
    rw [State.connOf] at before
    by_cases here : (st.streams other).conn = c
    · rw [here] at before watched ⊢
      rw [enroll_conn] at watched ⊢
      exact (before watched).congr rfl rfl rfl rfl
    · rw [enroll_elsewhere here] at watched ⊢
      exact before watched

theorem Roster.failing (roster : Roster st c s registry stream) (valid : Valid st) {place : Nat}
    {remaining : List Nat}
    (failing : ((st.enroll c s registry counted stream).conns place).loop = .failing remaining)
    {other : Nat} (member : other ∈ remaining) :
    Doomed ((st.enroll c s registry counted stream).streams other) place := by
  rw [enroll_loop] at failing
  have doomed := valid.failing place remaining failing other member
  by_cases same : other = s
  · subst same
    rw [enroll_stream]
    exact doomed.congr (fun _ => roster.present)
      (roster.conn.trans (roster.home doomed.present).symm) roster.marked
  · rwa [enroll_other same]

theorem Roster.returned (roster : Roster st c s registry stream) (valid : Valid st)
    (returned : st.returned = true) {other : Nat}
    (marked : ((st.enroll c s registry counted stream).streams other).marked = true) :
    ((st.enroll c s registry counted stream).connOf other).loop = .returned := by
  rw [roster.marks] at marked
  have before := valid.returned returned other marked
  rw [State.connOf, enroll_loop]
  by_cases same : other = s
  · subst same
    rw [enroll_stream, roster.conn]
    rwa [State.connOf, roster.home (valid.watched other (.inl marked)).present] at before
  · rwa [enroll_other same]

/-- A stream enters or leaves the registry of its connection. -/
theorem roster_valid (valid : Valid st) (roster : Roster st c s registry stream)
    (ok : Watched (st.conns c) stream → WatchedOk (st.conns c) stream s) :
    Valid (st.enroll c s registry counted stream) := by
  have sound := valid.conns c
  constructor
  · exact fun place other member => roster.owner valid member
  · exact fun other flight => roster.registered valid flight
  · exact fun early other => (roster.marks other).trans (valid.early early other)
  · exact fun other watched => roster.watched valid ok watched
  · intro place
    rw [enroll_loop]
    exact valid.started place
  · exact (Function.forall_update_iff st.conns fun _ conn => conn.Sound).mpr
      ⟨⟨sound.quiet, sound.dead, sound.early⟩, fun other _ => valid.conns other⟩
  · exact fun place remaining failing other member => roster.failing valid failing member
  · exact valid.late
  · exact fun returned other marked => roster.returned valid returned marked

end Roster

/-- Past `serving` a marked stream is no longer in flight, so only its pending frame
matters to a move of the loop. -/
theorem WatchedOk.move {conn moved : Conn} {stream : Stream} (ok : WatchedOk conn stream s)
    (landed : stream.inFlight = false) (lost : moved.lost = conn.lost)
    (there : moved.loop ≠ .absent) (pending : Pending conn s → Pending moved s) :
    WatchedOk moved stream s :=
  ⟨ok.present, ok.kept, fun flight => absurd flight (landed ▸ Bool.false_ne_true),
    ⟨lost.trans ok.sound.1, there⟩, fun ended => (ok.submitted ended).imp_right pending⟩

theorem WatchedOk.landed {conn : Conn} {stream : Stream} (ok : WatchedOk conn stream s)
    (away : conn.loop ≠ .serving) : stream.inFlight = false :=
  Bool.eq_false_iff.mpr fun flight => away (ok.live flight)

theorem WatchedOk.writable {conn : Conn} {stream : Stream} (ok : WatchedOk conn stream s)
    (sound : conn.Sound) (alive : conn.loop ≠ .returned) : conn.writeDead = false := by
  refine Bool.eq_false_iff.mpr fun dead => ?_
  have lost := (sound.dead dead).resolve_right alive
  rw [ok.sound.1] at lost
  cases lost

theorem Loop.tearing_ne {loop : Loop} (tearing : loop.tearing = true) :
    loop ≠ .absent ∧ loop ≠ .serving ∧ loop ≠ .returned := by
  refine ⟨?_, ?_, ?_⟩ <;> exact fun same => by simp [same, Loop.tearing] at tearing

/-- A step of the deferred teardown moves the loop and nothing else. -/
theorem loop_valid (valid : Valid st) {loop moved : Loop} (here : (st.conns c).loop = loop)
    (tearing : loop.tearing = true) (later : moved.tearing = true)
    (pending : ∀ s, WatchedOk (st.conns c) (st.streams s) s →
      Pending (st.conns c) s → Pending { st.conns c with loop := moved } s)
    (stage : moved.open = true → loop.open = true)
    (failing : ∀ remaining, moved = .failing remaining →
      ∀ s ∈ remaining, Doomed (st.streams s) c) :
    Valid (st.putConn c { st.conns c with loop := moved }) := by
  have sound := valid.conns c
  obtain ⟨began, away, alive⟩ := here ▸ Loop.tearing_ne tearing
  obtain ⟨there, left, _⟩ := Loop.tearing_ne later
  apply conn_valid valid
  · exact fun _ => valid.started c began
  · rfl
  · exact fun _ => there
  · exact fun serving => absurd serving left
  · exact fun s _ _ ok => ok.move (ok.landed away) rfl there (pending s ok)
  · exact ⟨fun opened => sound.quiet (here ▸ stage opened),
      fun dead => .inl ((sound.dead dead).resolve_right alive),
      fun early => (early.elim there left).elim⟩
  · exact failing
  · exact fun returned => absurd returned alive

theorem pending_iff_of_open {conn : Conn} (opened : conn.loop.open = true) :
    Pending conn s ↔ .complete s ∈ conn.queue := by
  rcases conn with ⟨loop⟩
  cases loop with
  | goingAway | goneAway | stopping | returned => cases opened
  | absent | serving | leaving | dead | failing | failed => exact Iff.rfl

/-- The loop leaves its reads, after the call with no stream in flight. -/
theorem leave_valid (valid : Valid st) (serving : (st.conns c).loop = .serving)
    (empty : st.called = true → (st.conns c).registry = []) :
    Valid (st.putConn c { st.conns c with loop := .leaving }) := by
  have sound := valid.conns c
  have began : (st.conns c).loop ≠ .absent := by simp [serving]
  apply conn_valid valid
  · exact fun _ => valid.started c began
  · rfl
  · exact nofun
  · exact nofun
  · rintro s place (marked | ⟨_, impossible⟩) ok
    case inr => cases impossible
    have called : st.called = true := by
      by_contra early
      rw [valid.early (by simpa using early) s] at marked
      cases marked
    have landed : (st.streams s).inFlight = false := by
      refine Bool.eq_false_iff.mpr fun flight => ?_
      have member := valid.registered s flight
      rw [State.connOf, place, empty called] at member
      cases member
    refine ok.move landed rfl nofun fun pending => ?_
    rwa [Pending, serving] at pending
  · refine ⟨fun _ => sound.quiet (by simp [serving, Loop.open]), fun dead => .inl ?_, nofun⟩
    exact (sound.dead dead).resolve_right (by simp [serving])
  · exact nofun
  · exact fun returned => by simp [serving] at returned

theorem Pending.push {conn : Conn} (pending : Pending conn s) (intent : Intent) :
    Pending { conn with queue := conn.queue ++ [intent] } s := by
  rcases conn with ⟨loop⟩
  cases loop with
  | goneAway | stopping | returned => exact pending.elim
  | goingAway =>
      obtain ⟨unwritten, front, back, rfl, member⟩ := pending
      exact ⟨unwritten, front, back ++ [intent], by simp, member⟩
  | absent | serving | leaving | dead | failing | failed =>
      exact List.mem_append_left _ pending

/-- Anything but the GOAWAY of the teardown is appended to the queue. -/
theorem push_valid (valid : Valid st) {intent : Intent} {conn : Conn}
    (pushed : (st.conns c).submit intent = some conn) (notGoAway : .goAway ≠ intent) :
    Valid (st.putConn c conn) := by
  obtain ⟨_, rfl⟩ := enabled pushed
  have sound := valid.conns c
  apply conn_valid valid
  · exact valid.started c
  · rfl
  · exact id
  · exact .inl
  · exact fun s _ _ ok => ⟨ok.present, ok.kept, ok.live, ok.sound,
      fun ended => (ok.submitted ended).imp_right fun pending => pending.push intent⟩
  · refine ⟨fun opened => ?_, sound.dead, sound.early⟩
    obtain ⟨unwritten, absent⟩ := sound.quiet opened
    refine ⟨unwritten, fun member => ?_⟩
    rcases List.mem_append.mp member with old | new
    · exact absent old
    · exact notGoAway (List.mem_singleton.mp new)
  · exact valid.failing c
  · exact id

theorem dial_valid (valid : Valid st) (stepped : step st (.dial c) = some next) : Valid next := by
  obtain ⟨absent, rfl⟩ := enabled stepped
  have sound := valid.conns c
  have listed : Valid { st with started := c :: st.started } :=
    ⟨valid.owner, valid.registered, valid.early, valid.watched,
      fun other began => List.mem_cons_of_mem c (valid.started other began), valid.conns,
      valid.failing, valid.late, valid.returned⟩
  refine conn_valid listed { st.conns c with loop := .serving } ?_ rfl ?_ ?_ ?_ ?_ ?_ ?_
  · exact fun _ => List.mem_cons_self
  · exact fun began => absurd absent began
  · exact fun _ => .inr absent
  · exact fun s _ _ ok => absurd absent ok.sound.2
  · exact ⟨fun _ => sound.quiet (by simp [absent, Loop.open]),
      fun dead => .inl ((sound.dead dead).resolve_right (by simp [absent])),
      fun _ => sound.early (.inl absent)⟩
  · exact nofun
  · exact fun returned => by simp [absent] at returned

theorem accept_valid (valid : Valid st) (stepped : step st (.accept c s) = some next) :
    Valid next := by
  obtain ⟨⟨serving, absent⟩, rfl⟩ := enabled stepped
  have unmarked : (st.streams s).marked = false :=
    Bool.eq_false_iff.mpr fun marked => (valid.watched s (.inl marked)).present absent
  refine roster_valid valid ⟨by simp [serving], rfl, fun present => absurd absent present, ?_,
    by simp [Stream.inFlight], unmarked.symm, nofun⟩ fun _ => ?_
  · intro other different
    simp [different]
  · have live := (valid.conns c).early (.inr serving)
    exact ⟨nofun, rfl, fun _ => serving, ⟨live, by simp [serving]⟩, fun ended => absurd rfl ended⟩

theorem removeStream_valid (valid : Valid st) (stepped : step st (.removeStream s) = some next) :
    Valid next := by
  obtain ⟨removing, rfl⟩ := enabled stepped
  have flight : (st.streams s).inFlight = true := by simp [Stream.inFlight, removing]
  refine roster_valid valid ⟨(valid.owner _ s (valid.registered s flight)).2.2, rfl,
    fun _ => rfl, ?_, by simp [Stream.inFlight], rfl, nofun⟩ ?_
  · intro other different
    simp [different, State.connOf]
  · rintro (marked | ⟨landed, _⟩)
    · have ok := valid.watched s (.inl marked)
      exact ⟨nofun, ok.kept, nofun, ok.sound, fun _ => ok.submitted (by simp [removing])⟩
    · cases landed

/-- A handler's goroutine moves on while its stream stays registered. -/
theorem phase_valid (valid : Valid st) (phase : Phase)
    (flight : (st.streams s).inFlight = true)
    (still : { st.streams s with phase := phase }.inFlight = true)
    (submitted : WatchedOk (st.connOf s) (st.streams s) s →
      (st.streams s).written = true ∨ Pending (st.connOf s) s) :
    Valid (st.putStream s { st.streams s with phase := phase }) := by
  apply stream_valid valid
  · rfl
  · rw [still, flight]
  · rfl
  · exact fun _ => present_of_flight still
  · intro watched
    have ok := valid.watched s (watched.imp_right fun ⟨_, serving⟩ => ⟨flight, serving⟩)
    exact ⟨present_of_flight still, ok.kept, fun _ => ok.live flight, ok.sound,
      fun _ => submitted ok⟩

/-- A running handler submits the frame that completes its stream and moves on. -/
theorem complete_valid (valid : Valid st) {conn : Conn} {phase : Phase}
    (running : (st.streams s).phase = .running)
    (pushed : (st.connOf s).submit (.complete s) = some conn)
    (still : { st.streams s with phase := phase }.inFlight = true) :
    Valid ((st.putConn (st.streams s).conn conn).putStream s
      { st.streams s with phase := phase }) := by
  have flight : (st.streams s).inFlight = true := by simp [Stream.inFlight, running]
  refine phase_valid (push_valid valid pushed nofun) phase flight still fun ok => .inr ?_
  have serving := ok.live flight
  rw [Pending, serving]
  obtain ⟨_, rfl⟩ := enabled pushed
  simp [State.connOf, State.putConn]

theorem endStream_valid (valid : Valid st) (stepped : step st (.endStream s) = some next) :
    Valid next := by
  simp only [step, Option.ite_none_right_eq_some, Option.map_eq_some_iff] at stepped
  obtain ⟨running, conn, pushed, rfl⟩ := stepped
  exact complete_valid valid running pushed rfl

theorem resetStream_valid (valid : Valid st) (stepped : step st (.resetStream s) = some next) :
    Valid next := by
  simp only [step, Option.ite_none_right_eq_some, Option.map_eq_some_iff] at stepped
  obtain ⟨running, conn, pushed, rfl⟩ := stepped
  exact complete_valid valid running pushed rfl

theorem endWritten_valid (valid : Valid st) (stepped : step st (.endWritten s) = some next) :
    Valid next := by
  obtain ⟨⟨ending, _⟩, rfl⟩ := enabled stepped
  exact phase_valid valid .removing (by simp [Stream.inFlight, ending]) rfl
    fun ok => ok.submitted (by simp [ending])

theorem abort_valid (valid : Valid st) (stepped : step st (.abort s) = some next) :
    Valid next := by
  obtain ⟨⟨running, broken⟩, rfl⟩ := enabled stepped
  have flight : (st.streams s).inFlight = true := by simp [Stream.inFlight, running]
  refine phase_valid valid .removing flight rfl fun ok => ?_
  rcases broken with away | dead
  · exact absurd (ok.live flight) away
  · have writable := ok.writable (valid.conns _) (by simp [ok.live flight])
    cases writable.symm.trans dead

theorem submitOther_valid (valid : Valid st) (stepped : step st (.submitOther c) = some next) :
    Valid next := by
  obtain ⟨conn, pushed, rfl⟩ := Option.map_eq_some_iff.mp stepped
  exact push_valid valid pushed nofun

/-- The writer takes a frame that is not the GOAWAY off the front of the queue. -/
theorem Pending.pop {conn : Conn} {head : Intent} {rest : List Intent} (pending : Pending conn s)
    (queue : conn.queue = head :: rest) (other : head ≠ .complete s) :
    Pending { conn with queue := rest } s := by
  rcases conn with ⟨loop⟩
  cases loop with
  | goneAway | stopping | returned => exact pending.elim
  | goingAway =>
      obtain ⟨unwritten, front, back, split, member, absent⟩ := pending
      cases front with
      | nil => cases member
      | cons first front =>
          obtain ⟨rfl, rfl⟩ := List.cons.inj (queue.symm.trans split)
          refine ⟨unwritten, front, back, rfl, (List.mem_cons.mp member).resolve_left ?_, ?_⟩
          · exact other.symm
          · exact fun inner => absent (List.mem_cons_of_mem _ inner)
  | absent | serving | leaving | dead | failing | failed =>
      have member : .complete s ∈ head :: rest := queue ▸ pending
      exact (List.mem_cons.mp member).resolve_left other.symm

theorem Pending.front_ne_goAway {conn : Conn} {rest : List Intent} (pending : Pending conn s)
    (sound : conn.Sound) : conn.queue ≠ .goAway :: rest := by
  intro queue
  rcases conn with ⟨loop⟩
  cases loop with
  | goneAway | stopping | returned => exact pending
  | goingAway =>
      obtain ⟨_, front, back, split, member, absent⟩ := pending
      cases front with
      | nil => cases member
      | cons first front =>
          obtain ⟨rfl, _⟩ := List.cons.inj (queue.symm.trans split)
          exact absent List.mem_cons_self
  | absent | serving | leaving | dead | failing | failed =>
      subst queue
      exact (sound.quiet rfl).2 List.mem_cons_self

theorem pop_valid (valid : Valid st) {head : Intent} {rest : List Intent}
    (queue : (st.conns c).queue = head :: rest)
    (done : ∀ s, head = .complete s → (st.streams s).written = true) :
    Valid (st.putConn c { st.conns c with queue := rest }) := by
  have sound := valid.conns c
  apply conn_valid valid
  · exact valid.started c
  · rfl
  · exact id
  · exact .inl
  · intro s _ _ ok
    refine ⟨ok.present, ok.kept, ok.live, ok.sound, fun ended => ?_⟩
    by_cases mine : head = .complete s
    · exact .inl (done s mine)
    · exact (ok.submitted ended).imp_right fun pending => pending.pop queue mine
  · refine ⟨fun opened => ?_, sound.dead, sound.early⟩
    obtain ⟨unwritten, absent⟩ := sound.quiet opened
    exact ⟨unwritten, fun member => absent (queue ▸ List.mem_cons_of_mem head member)⟩
  · exact valid.failing c
  · exact id

theorem goAway_written_valid (valid : Valid st) {rest : List Intent}
    (queue : (st.conns c).queue = .goAway :: rest) :
    Valid (st.putConn c { st.conns c with queue := rest, goAwayWritten := true }) := by
  have sound := valid.conns c
  apply conn_valid valid
  · exact valid.started c
  · rfl
  · exact id
  · exact .inl
  · intro s _ _ ok
    refine ⟨ok.present, ok.kept, ok.live, ok.sound, fun ended => .inl ?_⟩
    exact (ok.submitted ended).resolve_right fun pending => pending.front_ne_goAway sound queue
  · refine ⟨fun opened => ?_, sound.dead, sound.early⟩
    exact absurd (queue ▸ List.mem_cons_self) (sound.quiet opened).2
  · exact valid.failing c
  · exact id

theorem written_valid (valid : Valid st) :
    Valid (st.putStream s { st.streams s with written := true }) := by
  apply stream_valid valid
  · rfl
  · rfl
  · rfl
  · exact id
  · intro watched
    have ok := valid.watched s watched
    exact ⟨ok.present, ok.kept, ok.live, ok.sound, fun _ => .inl rfl⟩

theorem write_valid (valid : Valid st) (stepped : step st (.write c) = some next) :
    Valid next := by
  simp only [step] at stepped
  split at stepped
  · cases stepped
  · split at stepped
    case h_1 => cases stepped
    case h_2 s rest queue =>
        obtain rfl := Option.some.inj stepped
        refine pop_valid (written_valid valid) queue fun other same => ?_
        obtain rfl := Intent.complete.inj same
        simp [State.putStream]
    case h_3 rest queue =>
        obtain rfl := Option.some.inj stepped
        exact goAway_written_valid valid queue
    case h_4 rest queue =>
        obtain rfl := Option.some.inj stepped
        exact pop_valid valid queue nofun

/-- A step that touches only what the drain of the connection keeps. -/
theorem drain_valid (valid : Valid st) (draining drainDone : Bool) (counted : List Nat) :
    Valid (st.putConn c { st.conns c with
      draining := draining, counted := counted, drainDone := drainDone }) := by
  have sound := valid.conns c
  apply conn_valid valid
  · exact valid.started c
  · rfl
  · exact id
  · exact .inl
  · exact fun s _ _ ok => ok.congr rfl rfl rfl rfl
  · exact ⟨sound.quiet, sound.dead, sound.early⟩
  · exact valid.failing c
  · exact id

theorem connectionLost_valid (valid : Valid st) (early : st.called = false)
    (stepped : step st (.connectionLost c) = some next) : Valid next := by
  obtain ⟨serving, rfl⟩ := enabled stepped
  have sound := valid.conns c
  apply conn_valid valid
  · exact fun _ => valid.started c (by simp [serving])
  · rfl
  · exact nofun
  · exact nofun
  · rintro s _ (marked | ⟨_, impossible⟩)
    · rw [valid.early early s] at marked
      cases marked
    · cases impossible
  · exact ⟨fun _ => sound.quiet (by simp [serving, Loop.open]), fun _ => .inl rfl, nofun⟩
  · exact nofun
  · exact fun returned => by simp [serving] at returned

theorem writerFails_valid (valid : Valid st) (lost : (st.conns c).lost = true) :
    Valid (st.putConn c { st.conns c with writeDead := true }) := by
  have sound := valid.conns c
  apply conn_valid valid
  · exact valid.started c
  · rfl
  · exact id
  · exact .inl
  · exact fun s _ _ ok => ok.congr rfl rfl rfl rfl
  · exact ⟨sound.quiet, fun _ => .inl lost, sound.early⟩
  · exact valid.failing c
  · exact id

theorem mark_cases (st : State) (s : Nat) : st.mark.streams s = st.streams s ∨
    (st.mark.streams s = { st.streams s with marked := true } ∧
      (st.connOf s).loop = .serving ∧ s ∈ (st.connOf s).registry) := by
  simp only [State.mark]
  split
  next found => exact .inr ⟨rfl, found⟩
  next => exact .inl rfl

/-- `Shutdown` marks only what was watched already. -/
theorem callShutdown_valid (valid : Valid st) (stepped : step st .callShutdown = some next) :
    Valid next := by
  obtain ⟨early, rfl⟩ : st.called = false ∧ { st.mark with called := true } = next := by
    simpa [step] using stepped
  have conns : ∀ s, (st.mark.streams s).conn = (st.streams s).conn := by
    intro s
    obtain same | ⟨same, _⟩ := mark_cases st s <;> rw [same]
  have flights : ∀ s, (st.mark.streams s).inFlight = (st.streams s).inFlight := by
    intro s
    obtain same | ⟨same, _⟩ := mark_cases st s <;> rw [same]
    rfl
  have places : ∀ s, st.mark.connOf s = st.connOf s := fun s => congrArg st.conns (conns s)
  constructor
  · intro c s member
    refine ⟨(conns s).trans (valid.owner c s member).1, ?_⟩
    exact ⟨(flights s).trans (valid.owner c s member).2.1, (valid.owner c s member).2.2⟩
  · intro s flight
    have member := valid.registered s ((flights s).symm.trans flight)
    rwa [← places s] at member
  · exact nofun
  · intro s watched
    change Watched (st.mark.connOf s) (st.mark.streams s) at watched
    change WatchedOk (st.mark.connOf s) (st.mark.streams s) s
    rw [places] at watched ⊢
    obtain same | ⟨same, serving, member⟩ := mark_cases st s
    · rw [same] at watched ⊢
      exact valid.watched s watched
    · have ok := valid.watched s (.inr ⟨(valid.owner _ s member).2.1, serving⟩)
      rw [same]
      exact ⟨ok.present, ok.kept, ok.live, ok.sound, ok.submitted⟩
  · exact valid.started
  · exact valid.conns
  · intro c remaining failing s member
    have doomed := valid.failing c remaining failing s member
    obtain same | ⟨_, serving, _⟩ := mark_cases st s
    · change Doomed (st.mark.streams s) c
      rwa [same]
    · rw [State.connOf, doomed.conn] at serving
      cases serving.symm.trans failing
  · exact fun _ => rfl
  · intro returned
    cases early.symm.trans (valid.late returned)

/-- A move of the teardown ahead of its GOAWAY. -/
theorem open_valid (valid : Valid st) {loop moved : Loop} (here : (st.conns c).loop = loop)
    (tearing : loop.tearing = true) (later : moved.tearing = true) (opened : loop.open = true)
    (still : moved.open = true)
    (failing : ∀ remaining, moved = .failing remaining →
      ∀ s ∈ remaining, Doomed (st.streams s) c) :
    Valid (st.putConn c { st.conns c with loop := moved }) := by
  refine loop_valid valid here tearing later (fun s _ pending => ?_) (fun _ => opened) failing
  have queued := (pending_iff_of_open (here ▸ opened)).mp pending
  exact (pending_iff_of_open still).mpr queued

theorem markDead_valid (valid : Valid st) (stepped : step st (.markDead c) = some next) :
    Valid next := by
  obtain ⟨leaving, rfl⟩ := enabled stepped
  exact open_valid valid leaving rfl rfl rfl rfl nofun

theorem failAllStreams_valid (valid : Valid st)
    (stepped : step st (.failAllStreams c) = some next) : Valid next := by
  obtain ⟨dead, rfl⟩ := enabled stepped
  refine open_valid valid dead rfl rfl rfl rfl ?_
  rintro remaining ⟨⟩ s member
  obtain ⟨place, flight, _⟩ := valid.owner c s member
  refine ⟨present_of_flight flight, place, Bool.eq_false_iff.mpr fun marked => ?_⟩
  have serving := (valid.watched s (.inl marked)).live flight
  rw [State.connOf, place, dead] at serving
  cases serving

theorem failNext_valid (valid : Valid st) (stepped : step st (.failNext c) = some next) :
    Valid next := by
  simp only [step] at stepped
  split at stepped
  case h_1 s rest failing =>
      obtain rfl := Option.some.inj stepped
      have doomed := valid.failing c (s :: rest) failing
      have moved : Valid (st.putConn c { st.conns c with loop := .failing rest }) := by
        refine open_valid valid failing rfl rfl rfl rfl ?_
        rintro remaining ⟨⟩ other member
        exact doomed other (List.mem_cons_of_mem s member)
      apply stream_valid moved
      · rfl
      · rfl
      · rfl
      · exact id
      · rintro (marked | ⟨_, serving⟩)
        · cases (doomed s List.mem_cons_self).unmarked.symm.trans marked
        · simp [State.connOf, State.putConn, (doomed s List.mem_cons_self).conn] at serving
  case h_2 => cases stepped

theorem failedAll_valid (valid : Valid st) (stepped : step st (.failedAll c) = some next) :
    Valid next := by
  obtain ⟨failing, rfl⟩ := enabled stepped
  exact open_valid valid failing rfl rfl rfl rfl nofun

theorem sendGoAway_valid (valid : Valid st) (stepped : step st (.sendGoAway c) = some next) :
    Valid next := by
  simp only [step, Option.ite_none_right_eq_some] at stepped
  obtain ⟨failed, stepped⟩ := stepped
  have sound := valid.conns c
  obtain ⟨unwritten, absent⟩ := sound.quiet (by rw [failed]; rfl)
  split at stepped
  next dead =>
    obtain rfl := Option.some.inj stepped
    refine loop_valid valid failed rfl rfl (fun s ok _ => ?_) nofun nofun
    cases (ok.writable sound (by simp [failed])).symm.trans dead
  next =>
    obtain ⟨conn, pushed, rfl⟩ := Option.map_eq_some_iff.mp stepped
    obtain ⟨_, rfl⟩ := enabled pushed
    apply conn_valid valid
    · exact fun _ => valid.started c (by simp [failed])
    · rfl
    · exact nofun
    · exact nofun
    · intro s _ _ ok
      refine ok.move (ok.landed (by simp [failed])) rfl nofun fun pending => ?_
      rw [Pending, failed] at pending
      exact ⟨unwritten, (st.conns c).queue, [], rfl, pending, absent⟩
    · exact ⟨nofun, fun dead => .inl ((sound.dead dead).resolve_right (by simp [failed])), nofun⟩
    · exact nofun
    · exact fun returned => by simp [failed] at returned

theorem goAwayDone_valid (valid : Valid st) (stepped : step st (.goAwayDone c) = some next) :
    Valid next := by
  obtain ⟨⟨goingAway, done⟩, rfl⟩ := enabled stepped
  refine loop_valid valid goingAway rfl rfl (fun s ok pending => ?_) nofun nofun
  rw [Pending, goingAway] at pending
  rcases done with written | dead
  · cases pending.1.symm.trans written
  · cases (ok.writable (valid.conns c) (by simp [goingAway])).symm.trans dead

theorem shutdownWriter_valid (valid : Valid st)
    (stepped : step st (.shutdownWriter c) = some next) : Valid next := by
  obtain ⟨goneAway, rfl⟩ := enabled stepped
  refine loop_valid valid goneAway rfl rfl (fun s _ pending => ?_) nofun nofun
  rwa [Pending, goneAway] at pending

theorem writerExits_valid (valid : Valid st) (stepped : step st (.writerExits c) = some next) :
    Valid next := by
  obtain ⟨stopping, rfl⟩ := enabled stepped
  apply conn_valid valid
  · exact fun _ => valid.started c (by simp [stopping])
  · rfl
  · exact nofun
  · exact nofun
  · intro s _ _ ok
    refine ok.move (ok.landed (by simp [stopping])) rfl nofun fun pending => ?_
    rwa [Pending, stopping] at pending
  · exact ⟨nofun, fun _ => .inr rfl, nofun⟩
  · exact nofun
  · exact fun _ => rfl

theorem returnShutdown_valid (valid : Valid st) (stepped : step st .returnShutdown = some next) :
    Valid next := by
  obtain ⟨⟨called, ended⟩, rfl⟩ := enabled stepped
  refine ⟨valid.owner, valid.registered, valid.early, valid.watched, valid.started, valid.conns,
    valid.failing, fun _ => called, fun _ s marked => ?_⟩
  have ok := valid.watched s (.inl marked)
  exact ended _ (valid.started _ ok.sound.2)

theorem step_valid {action : Action} (valid : Valid st) (emptied : Emptied st action)
    (stepped : step st action = some next) : Valid next := by
  cases action with
  | dial c => exact dial_valid valid stepped
  | accept c s => exact accept_valid valid stepped
  | endStream s => exact endStream_valid valid stepped
  | endWritten s => exact endWritten_valid valid stepped
  | resetStream s => exact resetStream_valid valid stepped
  | abort s => exact abort_valid valid stepped
  | removeStream s => exact removeStream_valid valid stepped
  | submitOther c => exact submitOther_valid valid stepped
  | write c => exact write_valid valid stepped
  | beginDrain c =>
      obtain ⟨_, rfl⟩ := enabled stepped
      exact drain_valid valid _ _ _
  | countStreams c =>
      obtain ⟨_, rfl⟩ := enabled stepped
      exact drain_valid valid _ _ _
  | finishDrain c count =>
      obtain ⟨_, rfl⟩ := enabled stepped
      exact drain_valid valid _ _ _
  | connectionLost c => exact connectionLost_valid valid emptied stepped
  | writerFails c =>
      obtain rfl := Option.some.inj stepped
      exact writerFails_valid valid emptied
  | callShutdown => exact callShutdown_valid valid stepped
  | loopFails c =>
      obtain ⟨serving, rfl⟩ := enabled stepped
      exact leave_valid valid serving emptied
  | seeShutdown c =>
      obtain ⟨⟨serving, _⟩, rfl⟩ := enabled stepped
      exact leave_valid valid serving emptied
  | seeDrained c =>
      obtain ⟨⟨serving, _⟩, rfl⟩ := enabled stepped
      exact leave_valid valid serving emptied
  | markDead c => exact markDead_valid valid stepped
  | failAllStreams c => exact failAllStreams_valid valid stepped
  | failNext c => exact failNext_valid valid stepped
  | failedAll c => exact failedAll_valid valid stepped
  | sendGoAway c => exact sendGoAway_valid valid stepped
  | goAwayDone c => exact goAwayDone_valid valid stepped
  | shutdownWriter c => exact shutdownWriter_valid valid stepped
  | writerExits c => exact writerExits_valid valid stepped
  | returnShutdown => exact returnShutdown_valid valid stepped

/-- Past the GOAWAY nothing of a marked stream is left to write. -/
theorem Valid.written (valid : Valid st) (marked : (st.streams s).marked = true)
    (ended : (st.connOf s).loop = .stopping ∨ (st.connOf s).loop = .returned) :
    (st.streams s).written = true := by
  have ok := valid.watched s (.inl marked)
  refine (ok.submitted fun running => ?_).resolve_right fun pending => ?_
  · have serving := ok.live (by simp [Stream.inFlight, running])
    simp [serving] at ended
  · rcases ended with ended | ended <;> rwa [Pending, ended] at pending

theorem Valid.drained (valid : Valid st) : Drained st where
  flushed _ marked stopping := valid.written marked (.inl stopping)
  completed returned s marked :=
    ⟨valid.written marked (.inr (valid.returned returned s marked)),
      (valid.watched s (.inl marked)).kept⟩

end Steps

theorem shutdown_drains_in_flight {trace : List Action} {last : State}
    (emptied : Guarded step Emptied State.new trace)
    (ran : run step State.new trace = some last) : Drained last :=
  (run_invariant (fun _ _ _ valid emptied stepped => step_valid valid emptied stepped)
    valid_new emptied ran).drained

/-- One request in flight on one connection, its handler still at work. -/
def abandoned : List Action :=
  [.dial 0, .accept 0 1, .callShutdown, .seeShutdown 0, .markDead 0, .failAllStreams 0,
    .failNext 0, .failedAll 0, .sendGoAway 0, .write 0, .goAwayDone 0, .shutdownWriter 0,
    .writerExits 0, .abort 1, .removeStream 1, .returnShutdown]

theorem shutdown_abandons_in_flight :
    ¬ ∀ trace last, run step State.new trace = some last → last.returned = true →
      Drained last := by
  intro always
  have ran : (run step State.new abandoned).map (fun last =>
      (last.returned, (last.streams 1).marked, (last.streams 1).written)) =
      some (true, true, false) := by
    decide
  obtain ⟨last, reached, shape⟩ := Option.map_eq_some_iff.mp ran
  simp only [Prod.mk.injEq] at shape
  obtain ⟨returned, marked, unwritten⟩ := shape
  have written := ((always _ last reached returned).completed returned 1 marked).1
  cases unwritten.symm.trans written

/-- Two connections; the handlers finish, one by END_STREAM and one by RST_STREAM,
before the loops look at `shutdownCh`. -/
def finishedFirst : List Action :=
  [.dial 0, .dial 1, .accept 0 1, .accept 1 2, .submitOther 0, .callShutdown, .endStream 1,
    .resetStream 2, .removeStream 2, .write 0, .write 0, .endWritten 1, .removeStream 1,
    .seeShutdown 0, .markDead 0, .failAllStreams 0, .failedAll 0, .sendGoAway 0, .write 0,
    .goAwayDone 0, .shutdownWriter 0, .writerExits 0, .seeShutdown 1, .markDead 1,
    .failAllStreams 1, .failedAll 1, .sendGoAway 1, .write 1, .write 1, .goAwayDone 1,
    .shutdownWriter 1, .writerExits 1, .returnShutdown]

theorem shutdown_drains_finished :
    ∃ last, run step State.new finishedFirst = some last ∧
      Guarded step Emptied State.new finishedFirst ∧ last.returned = true ∧
      (last.streams 1).marked = true ∧ (last.streams 2).marked = true ∧ Drained last := by
  have ran : (run step State.new finishedFirst).map (fun last =>
      (last.returned, (last.streams 1).marked, (last.streams 2).marked)) =
      some (true, true, true) := by
    decide
  obtain ⟨last, reached, shape⟩ := Option.map_eq_some_iff.mp ran
  have emptied : Guarded step Emptied State.new finishedFirst := by decide
  simp only [Prod.mk.injEq] at shape
  exact ⟨last, reached, emptied, shape.1, shape.2.1, shape.2.2,
    shutdown_drains_in_flight emptied reached⟩

end ReverseHttp.ShutdownDrain
