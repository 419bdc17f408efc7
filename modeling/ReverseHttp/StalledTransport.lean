import ReverseHttp.Transition
import ReverseHttp.Wire
import Mathlib.Logic.Function.Basic
import Mathlib.Data.List.Basic
import Mathlib.Tactic.Common

/-!
One side of a tunnel whose peer may stop reading for good: the writer then stays inside
a transport write. The frame reader runs the PING watchdog between two frames and, once
its loop ends, the deferred teardown; everybody else submits frames through the same
queue, and on the proxy `openStream` holds `streamsMu` while its HEADERS are on their
way. No write has a deadline and the transport is closed by the teardown alone.

A frame is left out but for whether the writer writes it at all, and time but for
whether the PING's deadline has passed when the watchdog looks. `MarkDead` wakes those
who wait for credit, which nobody here does.
-/

namespace ReverseHttp.StalledTransport

open Transition
open Wire (Role writeQSize)

inductive Submitter where
  | nobody
  | writer (index : Nat)
  | openStream
  | teardown
  deriving DecidableEq, Repr

/-- A write intent: `SetMaxDynTab` writes no frame, and nobody waits for it. -/
inductive Intent where
  | setMaxDynTab
  | frame (submitter : Submitter)
  deriving DecidableEq, Repr

def Intent.unawaited : Intent → Bool
  | .setMaxDynTab | .frame .nobody => true
  | _ => false

inductive Writer where
  | idle
  | processing (intent : Intent)
  | exited
  deriving DecidableEq, Repr

/-- Where the frame reader stands: in its loop up to `pinging`, in the teardown from
`lockingAll` on. `left` are the intents a frame still makes it submit. -/
inductive Reader where
  | reading
  | locking (left : List Intent)
  | answering (left : List Intent)
  | pinging
  | lockingAll
  | failing
  | offeringGoAway
  | awaitingGoAway
  | signalling
  | awaitingWriter
  | closed
  deriving DecidableEq, Repr

/-- `Worker.streamsMu` by where `openStream` stands: before its checks, in the first and
in the second `select` of `submit`, and at its deferred unlock. -/
inductive Mutex where
  | free
  | held
  | offering (stream : Nat)
  | sending (stream : Nat)
  | leaving
  deriving DecidableEq, Repr

/-- `stalled`: the peer has stopped reading. `waiting` are the handlers and body pumps
inside `submit`. `failed` has the streams that were failed: on the worker their bodies, on
the proxy their responses too; `late` has those opened on the proxy after that. -/
structure State where
  queue : List Intent
  writer : Writer
  stalled : Bool
  writeShutdown : Bool
  reader : Reader
  pingPending : Bool
  streamsMu : Mutex
  waiting : Nat → Bool
  streams : List Nat
  failed : List Nat
  late : List Nat
  transportClosed : Bool
  detached : Bool

def State.new : State :=
  { queue := [], writer := .idle, stalled := false, writeShutdown := false, reader := .reading
    pingPending := false, streamsMu := .free, waiting := fun _ => false, streams := []
    failed := [], late := [], transportClosed := false, detached := false }

inductive Action where
  | stall
  | take
  | write
  | writeFails
  | writerStops
  | submit (writer : Nat)
  | sendRST
  | lockStreams
  | refuse
  | register (stream : Nat)
  | sendHeaders
  | rollBack
  | unlockStreams
  | finish (stream : Nat)
  | read (left : List Intent) (looksUp : Bool) (opened : Option Nat)
  | pong
  | getStream
  | answer
  | idle (expired : Bool)
  | ping
  | leave
  | failAllStreams
  | failBodies
  | sendGoAway
  | goAwayDone
  | shutdownWriter
  | close
  deriving DecidableEq, Repr

def State.full (st : State) : Bool := writeQSize ≤ st.queue.length

/-- The `select` on `writeQ` and `writeDeadCh` in `submit` and `submitAsync` proceeds. -/
def State.admits (st : State) : Bool := !st.full || st.writer = .exited

/-- What is offered to a writer that has exited is dropped. -/
def State.push (st : State) (intent : Intent) : State :=
  if st.writer = .exited then st else { st with queue := st.queue ++ [intent] }

def State.withReader (st : State) (reader : Reader) : State := { st with reader := reader }

def State.withMutex (st : State) (mutex : Mutex) : State := { st with streamsMu := mutex }

/-- The deferred function of `runWriter`. -/
def State.exit (st : State) : State :=
  { st with writer := .exited, queue := [], waiting := fun _ => false }

def State.taken (st : State) (intent : Intent) (rest : List Intent) : State :=
  { st with writer := .processing intent, queue := rest }

/-- The answer on `done` lets the submitter out of the second `select` of `submit`. -/
def Mutex.answered : Mutex → Mutex
  | .sending _ => .leaving
  | mutex => mutex

def Reader.answered : Reader → Reader
  | .awaitingGoAway => .signalling
  | reader => reader

def State.processed (st : State) : Submitter → State
  | .nobody => { st with writer := .idle }
  | .writer w => { st with writer := .idle, waiting := Function.update st.waiting w false }
  | .openStream => { st with writer := .idle, streamsMu := st.streamsMu.answered }
  | .teardown => { st with writer := .idle, reader := st.reader.answered }

/-- After `MarkDead`: the proxy's `failAllStreams` takes `streamsMu` first. -/
def teardown : Role → Reader
  | .worker => .failing
  | .proxy => .lockingAll

def Reader.afterFailing : Reader → Bool
  | .offeringGoAway | .awaitingGoAway | .signalling | .awaitingWriter | .closed => true
  | _ => false

/-- The loop that fails the streams of this side is over. -/
def failedAll : Role → Reader → Bool
  | .worker, reader => reader.afterFailing
  | .proxy, reader => reader = .failing || reader.afterFailing

def State.failAll (st : State) : State := { st with failed := st.streams ++ st.failed }

def State.registered (st : State) (role : Role) (stream : Nat) : State :=
  { st with
    streams := stream :: st.streams
    late := if failedAll role st.reader then stream :: st.late else st.late
    streamsMu := .offering stream }

/-- `SendOrCheckPing`, up to the place where it may wait. -/
def State.sendOrCheckPing (st : State) (role : Role) (expired : Bool) : State :=
  if st.pingPending then
    if expired then st.withReader (teardown role) else st
  else { st with pingPending := true, reader := .pinging }

def step (role : Role) (st : State) : Action → Option State
  | .stall => some { st with stalled := true }
  | .take =>
      match st.writer, st.queue with
      | .idle, intent :: rest => some (st.taken intent rest)
      | _, _ => none
  | .write =>
      match st.writer with
      | .processing .setMaxDynTab => some (st.processed .nobody)
      | .processing (.frame submitter) =>
          if st.stalled = false ∧ st.transportClosed = false then
            some (st.processed submitter)
          else none
      | _ => none
  -- a stalled write ends when the transport is closed, not before
  | .writeFails =>
      match st.writer with
      | .processing (.frame _) =>
          if st.stalled = false ∨ st.transportClosed = true then some st.exit else none
      | _ => none
  | .writerStops =>
      if st.writer = .idle ∧ st.writeShutdown = true then some st.exit else none
  -- once the writer has exited `submit` returns its error and changes nothing
  | .submit w =>
      if st.waiting w = false ∧ st.full = false ∧ st.writer ≠ .exited then
        some { st.push (.frame (.writer w)) with waiting := Function.update st.waiting w true }
      else none
  | .sendRST => if st.admits then some (st.push (.frame .nobody)) else none
  | .lockStreams =>
      if role = .proxy ∧ st.streamsMu = .free then some (st.withMutex .held) else none
  | .refuse => if st.streamsMu = .held then some (st.withMutex .leaving) else none
  | .register stream =>
      if role = .proxy ∧ st.streamsMu = .held ∧ stream ∉ st.streams then
        some (st.registered role stream)
      else none
  | .sendHeaders =>
      match st.streamsMu with
      | .offering stream =>
          if st.full = false ∧ st.writer ≠ .exited then
            some ((st.push (.frame .openStream)).withMutex (.sending stream))
          else none
      | _ => none
  -- `submit` returns the writer's error and `openStream` takes the stream out again
  | .rollBack =>
      match st.streamsMu with
      | .offering stream | .sending stream =>
          if st.writer = .exited then
            some { st with streams := st.streams.erase stream, streamsMu := .leaving }
          else none
      | _ => none
  | .unlockStreams => if st.streamsMu = .leaving then some (st.withMutex .free) else none
  | .finish stream =>
      if st.streamsMu = .free ∨ role = .worker then
        some { st with streams := st.streams.erase stream }
      else none
  | .read left looksUp opened =>
      if st.reader = .reading ∧ ∀ intent ∈ left, intent.unawaited then
        match role, opened with
        | .proxy, _ =>
            some (st.withReader (if looksUp then .locking left else .answering left))
        | .worker, none => some (st.withReader (.answering left))
        | .worker, some stream =>
            some { st with streams := st.streams.insert stream, reader := .answering left }
      else none
  | .pong => if st.reader = .reading then some { st with pingPending := false } else none
  | .getStream =>
      match st.reader with
      | .locking left =>
          if st.streamsMu = .free then some (st.withReader (.answering left)) else none
      | _ => none
  | .answer =>
      match st.reader with
      | .answering [] => some (st.withReader .reading)
      | .answering (intent :: rest) =>
          if st.admits then some ((st.push intent).withReader (.answering rest)) else none
      | _ => none
  | .idle expired =>
      if st.reader = .reading then some (st.sendOrCheckPing role expired) else none
  | .ping =>
      if st.reader = .pinging ∧ st.admits then
        some ((st.push (.frame .nobody)).withReader .reading)
      else none
  -- the loop ends for another reason: an error, a drain, a shutdown
  | .leave => if st.reader = .reading then some (st.withReader (teardown role)) else none
  | .failAllStreams =>
      if st.reader = .lockingAll ∧ st.streamsMu = .free then
        some (st.failAll.withReader .failing)
      else none
  -- on the proxy the bodies of the streams failed above, and of later ones
  | .failBodies =>
      if st.reader = .failing then
        match role with
        | .worker => some (st.failAll.withReader .offeringGoAway)
        | .proxy => some (st.withReader .offeringGoAway)
      else none
  | .sendGoAway =>
      if st.reader = .offeringGoAway ∧ st.full = false ∧ st.writer ≠ .exited then
        some ((st.push (.frame .teardown)).withReader .awaitingGoAway)
      else none
  | .goAwayDone =>
      if (st.reader = .offeringGoAway ∨ st.reader = .awaitingGoAway) ∧ st.writer = .exited then
        some (st.withReader .signalling)
      else none
  | .shutdownWriter =>
      if st.reader = .signalling then
        some { st with writeShutdown := true, reader := .awaitingWriter }
      else none
  | .close =>
      if st.reader = .awaitingWriter ∧ st.writer = .exited then
        some { st with transportClosed := true, detached := role = .proxy, reader := .closed }
      else none

/-- The writer is inside a transport write that never ends. -/
def Stuck (st : State) : Prop :=
  st.stalled = true ∧ st.transportClosed = false ∧
    ∃ submitter, st.writer = .processing (.frame submitter)

/-- `openStream` holds `streamsMu` and waits for the writer. -/
def State.mutexWaits (st : State) : Bool :=
  match st.streamsMu with
  | .offering _ => st.full
  | .sending _ => true
  | _ => false

/-- The watchdog or the teardown is at a place that it leaves only by an act of the
writer: it takes an intent, answers one, or exits. -/
def State.readerWaits (st : State) : Bool :=
  st.writer ≠ .exited &&
    match st.reader with
    | .pinging | .offeringGoAway => st.full
    | .awaitingGoAway | .awaitingWriter => true
    | .lockingAll => st.mutexWaits
    | _ => false

/-- So is the reader's loop, and the watchdog does not get its turn. -/
def State.loopWaits (st : State) : Bool :=
  st.writer ≠ .exited &&
    match st.reader with
    | .locking _ => st.mutexWaits
    | .answering (_ :: _) => st.full
    | _ => false

structure Hung (st : State) : Prop where
  stuck : Stuck st
  waits : st.readerWaits = true ∨ st.loopWaits = true

/-! A step is one of the peer, of the writer, of the frame reader, or of somebody else:
handlers, forwards, body pumps and watchers. -/

inductive Party where
  | peer
  | writer
  | reader
  | other
  deriving DecidableEq, Repr

def Action.party : Action → Party
  | .stall => .peer
  | .take | .write | .writeFails | .writerStops => .writer
  | .submit _ | .sendRST | .lockStreams | .refuse | .register _ | .sendHeaders | .rollBack
  | .unlockStreams | .finish _ => .other
  | _ => .reader

/-- What the steps of the others leave alone; they may submit one intent. -/
structure Apart (st next : State) : Prop where
  writer : next.writer = st.writer
  stalled : next.stalled = st.stalled
  transport : next.transportClosed = st.transportClosed
  reader : next.reader = st.reader
  grows : st.queue.length ≤ next.queue.length
  byOne : next.queue.length ≤ st.queue.length + 1

section Steps

variable {role : Role} {st next last : State} {action : Action} {trace : List Action}

theorem push_apart (st : State) (intent : Intent) : Apart st (st.push intent) := by
  unfold State.push
  split
  · exact ⟨rfl, rfl, rfl, rfl, Nat.le_refl _, Nat.le_succ _⟩
  · exact ⟨rfl, rfl, rfl, rfl, by simp, by simp⟩

/-- A change of fields that others own. -/
theorem Apart.change (apart : Apart st next) {changed : State}
    (writer : changed.writer = next.writer) (stalled : changed.stalled = next.stalled)
    (transport : changed.transportClosed = next.transportClosed)
    (reader : changed.reader = next.reader) (queue : changed.queue = next.queue) :
    Apart st changed :=
  ⟨writer.trans apart.writer, stalled.trans apart.stalled, transport.trans apart.transport,
    reader.trans apart.reader, queue ▸ apart.grows, queue ▸ apart.byOne⟩

theorem sendHeaders_cases (stepped : step role st .sendHeaders = some next) :
    ∃ stream, st.streamsMu = .offering stream ∧ st.full = false ∧
      next = (st.push (.frame .openStream)).withMutex (.sending stream) := by
  simp only [step] at stepped
  split at stepped
  · rename_i stream offering
    obtain ⟨⟨room, _⟩, rfl⟩ := enabled stepped
    exact ⟨stream, offering, room, rfl⟩
  · cases stepped

theorem rollBack_cases (stepped : step role st .rollBack = some next) :
    ∃ stream, (st.streamsMu = .offering stream ∨ st.streamsMu = .sending stream) ∧
      st.writer = .exited ∧
      next = { st with streams := st.streams.erase stream, streamsMu := .leaving } := by
  simp only [step] at stepped
  split at stepped
  · rename_i stream offering
    obtain ⟨exited, rfl⟩ := enabled stepped
    exact ⟨stream, .inl offering, exited, rfl⟩
  · rename_i stream sending
    obtain ⟨exited, rfl⟩ := enabled stepped
    exact ⟨stream, .inr sending, exited, rfl⟩
  · cases stepped

theorem failBodies_cases (stepped : step role st .failBodies = some next) :
    st.reader = .failing ∧
      (role = .worker ∧ next = st.failAll.withReader .offeringGoAway ∨
        role = .proxy ∧ next = st.withReader .offeringGoAway) := by
  simp only [step] at stepped
  split at stepped
  · rename_i failing
    cases role with
    | worker => exact ⟨failing, .inl ⟨rfl, (Option.some.inj stepped).symm⟩⟩
    | proxy => exact ⟨failing, .inr ⟨rfl, (Option.some.inj stepped).symm⟩⟩
  · cases stepped

theorem apart_refl (st : State) : Apart st st :=
  ⟨rfl, rfl, rfl, rfl, Nat.le_refl _, Nat.le_succ _⟩

theorem other_apart (others : action.party = .other)
    (stepped : step role st action = some next) : Apart st next := by
  cases action with
  | submit w =>
      obtain ⟨_, rfl⟩ := enabled stepped
      exact (push_apart st _).change rfl rfl rfl rfl rfl
  | sendRST =>
      obtain ⟨_, rfl⟩ := enabled stepped
      exact push_apart st _
  | lockStreams | refuse | register stream | unlockStreams | finish stream =>
      obtain ⟨_, rfl⟩ := enabled stepped
      exact (apart_refl st).change rfl rfl rfl rfl rfl
  | sendHeaders =>
      obtain ⟨stream, _, _, rfl⟩ := sendHeaders_cases stepped
      exact (push_apart st _).change rfl rfl rfl rfl rfl
  | rollBack =>
      obtain ⟨stream, _, _, rfl⟩ := rollBack_cases stepped
      exact (apart_refl st).change rfl rfl rfl rfl rfl
  | _ => cases others

/-- What the writer does: it takes an intent, is done with one, or exits. On a stalled
transport it is done with what writes nothing only. -/
theorem writer_cases (writers : action.party = .writer)
    (stepped : step role st action = some next) :
    (∃ intent rest, st.queue = intent :: rest ∧ next = st.taken intent rest) ∨
      (∃ submitter, (st.stalled = true → submitter = .nobody) ∧
        next = st.processed submitter) ∨
      next = st.exit := by
  cases action with
  | take =>
      simp only [step] at stepped
      split at stepped
      · rename_i intent rest _ queue
        exact .inl ⟨intent, rest, queue, (Option.some.inj stepped).symm⟩
      · cases stepped
  | write =>
      simp only [step] at stepped
      split at stepped
      · exact .inr (.inl ⟨.nobody, fun _ => rfl, (Option.some.inj stepped).symm⟩)
      · obtain ⟨⟨flowing, _⟩, rfl⟩ := enabled stepped
        refine .inr (.inl ⟨_, fun stalled => ?_, rfl⟩)
        rw [flowing] at stalled
        cases stalled
      · cases stepped
  | writeFails =>
      simp only [step] at stepped
      split at stepped
      · exact .inr (.inr (enabled stepped).2.symm)
      · cases stepped
  | writerStops => exact .inr (.inr (enabled stepped).2.symm)
  | _ => cases writers

/-! A stuck writer stays stuck, since the transport is closed only after it has exited. -/

theorem Stuck.busy (stuck : Stuck st) : st.writer ≠ .idle ∧ st.writer ≠ .exited := by
  obtain ⟨_, _, submitter, busy⟩ := stuck
  rw [busy]
  exact ⟨by simp, by simp⟩

theorem stuck_writer (stuck : Stuck st) (writers : action.party = .writer) :
    step role st action = none := by
  have alive := stuck.busy
  obtain ⟨stalled, opened, submitter, busy⟩ := stuck
  cases action with
  | take => simp [step, busy]
  | write => simp [step, busy, stalled]
  | writeFails => simp [step, busy, stalled, opened]
  | writerStops => simp [step, alive.1]
  | _ => cases writers

/-- The reader is in its loop, where the watchdog is not at work. -/
def Reader.looping : Reader → Bool
  | .reading | .locking _ | .answering _ => true
  | _ => false

def Action.loops : Action → Bool
  | .read _ _ _ | .getStream | .answer | .ping => true
  | _ => false

theorem loop_step (loops : action.loops = true) (stepped : step role st action = some next) :
    next.reader.looping = true := by
  cases action with
  | read left looksUp opened =>
      simp only [step] at stepped
      split at stepped
      · split at stepped <;> obtain rfl := Option.some.inj stepped
        · cases looksUp <;> rfl
        · rfl
        · rfl
      · cases stepped
  | getStream =>
      simp only [step] at stepped
      split at stepped
      · obtain ⟨_, rfl⟩ := enabled stepped
        rfl
      · cases stepped
  | answer =>
      simp only [step] at stepped
      split at stepped
      · obtain rfl := Option.some.inj stepped
        rfl
      · obtain ⟨_, rfl⟩ := enabled stepped
        rfl
      · cases stepped
  | ping =>
      obtain ⟨_, rfl⟩ := enabled stepped
      rfl
  | _ => cases loops

/-- The teardown closes the transport of a writer that has exited. -/
structure ByReader (st next : State) : Prop where
  writer : next.writer = st.writer
  stalled : next.stalled = st.stalled
  streamsMu : next.streamsMu = st.streamsMu
  transport : next.transportClosed = st.transportClosed ∨ st.writer = .exited

theorem push_streamsMu (st : State) (intent : Intent) :
    (st.push intent).streamsMu = st.streamsMu := by
  unfold State.push
  split <;> rfl

theorem pushed_byReader (st : State) (intent : Intent) (reader : Reader) :
    ByReader st ((st.push intent).withReader reader) :=
  have apart := push_apart st intent
  ⟨apart.writer, apart.stalled, push_streamsMu st intent, .inl apart.transport⟩

theorem reader_byReader (readers : action.party = .reader)
    (stepped : step role st action = some next) : ByReader st next := by
  have same : ∀ {changed : State}, changed.writer = st.writer → changed.stalled = st.stalled →
      changed.streamsMu = st.streamsMu → changed.transportClosed = st.transportClosed →
      ByReader st changed :=
    fun writer stalled mutex transport => ⟨writer, stalled, mutex, .inl transport⟩
  cases action with
  | read left looksUp opened =>
      simp only [step] at stepped
      split at stepped
      · split at stepped <;> obtain rfl := Option.some.inj stepped <;> exact same rfl rfl rfl rfl
      · cases stepped
  | pong | leave | failAllStreams | goAwayDone | shutdownWriter =>
      obtain ⟨_, rfl⟩ := enabled stepped
      exact same rfl rfl rfl rfl
  | getStream =>
      simp only [step] at stepped
      split at stepped
      · obtain ⟨_, rfl⟩ := enabled stepped
        exact same rfl rfl rfl rfl
      · cases stepped
  | answer =>
      simp only [step] at stepped
      split at stepped
      · obtain rfl := Option.some.inj stepped
        exact same rfl rfl rfl rfl
      · obtain ⟨_, rfl⟩ := enabled stepped
        exact pushed_byReader st _ _
      · cases stepped
  | idle expired =>
      obtain ⟨_, rfl⟩ := enabled stepped
      unfold State.sendOrCheckPing
      split
      · split <;> exact same rfl rfl rfl rfl
      · exact same rfl rfl rfl rfl
  | ping | sendGoAway =>
      obtain ⟨_, rfl⟩ := enabled stepped
      exact pushed_byReader st _ _
  | failBodies =>
      obtain ⟨_, ⟨_, rfl⟩ | ⟨_, rfl⟩⟩ := failBodies_cases stepped
      · exact same rfl rfl rfl rfl
      · exact same rfl rfl rfl rfl
  | close =>
      obtain ⟨⟨_, exited⟩, rfl⟩ := enabled stepped
      exact ⟨rfl, rfl, rfl, .inr exited⟩
  | _ => cases readers

theorem Stuck.keep (stuck : Stuck st) (writer : next.writer = st.writer)
    (stalled : next.stalled = st.stalled)
    (transport : next.transportClosed = st.transportClosed) : Stuck next := by
  obtain ⟨stopped, opened, busy⟩ := stuck
  exact ⟨stalled.trans stopped, transport.trans opened, writer ▸ busy⟩

theorem stuck_step (stuck : Stuck st) (stepped : step role st action = some next) :
    Stuck next := by
  cases party : action.party with
  | peer =>
      cases action <;> cases party
      obtain rfl := Option.some.inj stepped
      exact ⟨rfl, stuck.2⟩
  | writer =>
      rw [stuck_writer stuck party] at stepped
      cases stepped
  | reader =>
      have kept := reader_byReader party stepped
      exact stuck.keep kept.writer kept.stalled (kept.transport.resolve_right stuck.busy.2)
  | other =>
      have apart := other_apart party stepped
      exact stuck.keep apart.writer apart.stalled apart.transport

/-- Whatever the others do, the transport is never closed under a stuck writer. -/
theorem stuck_forever (stuck : Stuck st) (ran : run (step role) st trace = some last) :
    Stuck last :=
  run_invariant_all (fun _ _ _ => stuck_step) stuck ran

/-! Only the writer can end the reader's wait. -/

theorem full_mono (full : st.full = true) (grows : st.queue.length ≤ next.queue.length) :
    next.full = true := by
  simp only [State.full, decide_eq_true_eq] at full ⊢
  omega

theorem mutexWaits_taken (waits : st.mutexWaits = true) : st.streamsMu ≠ .free := by
  intro free
  simp [State.mutexWaits, free] at waits

theorem waiting_reader (waits : st.readerWaits = true) (readers : action.party = .reader) :
    step role st action = none := by
  simp only [State.readerWaits, Bool.and_eq_true, decide_eq_true_eq] at waits
  obtain ⟨alive, waits⟩ := waits
  cases reader : st.reader <;> simp [reader] at waits
  case pinging =>
    cases action <;> cases readers <;> simp [step, reader, State.admits, waits, alive]
  case offeringGoAway =>
    cases action <;> cases readers <;> simp [step, reader, waits, alive]
  case lockingAll =>
    cases action <;> cases readers <;> simp [step, reader, mutexWaits_taken waits]
  case awaitingGoAway | awaitingWriter =>
    cases action <;> cases readers <;> simp [step, reader, alive]

theorem waiting_loop (waits : st.loopWaits = true) (readers : action.party = .reader) :
    step role st action = none := by
  simp only [State.loopWaits, Bool.and_eq_true, decide_eq_true_eq] at waits
  obtain ⟨alive, waits⟩ := waits
  cases reader : st.reader <;> simp [reader] at waits
  case locking left =>
    cases action <;> cases readers <;> simp [step, reader, mutexWaits_taken waits]
  case answering left =>
    cases left with
    | nil => cases waits
    | cons intent rest =>
        cases action <;> cases readers <;> simp [step, reader, State.admits, waits, alive]

theorem mutexWaits_other (alive : st.writer ≠ .exited) (others : action.party = .other)
    (waits : st.mutexWaits = true) (stepped : step role st action = some next) :
    next.mutexWaits = true := by
  have apart := other_apart others stepped
  have same (kept : next.streamsMu = st.streamsMu) : next.mutexWaits = true := by
    unfold State.mutexWaits at waits ⊢
    rw [kept]
    cases mutex : st.streamsMu <;> simp [mutex] at waits ⊢
    exact full_mono waits apart.grows
  cases action with
  | submit w | sendRST =>
      obtain ⟨_, rfl⟩ := enabled stepped
      exact same (push_streamsMu st _)
  | finish stream =>
      obtain ⟨_, rfl⟩ := enabled stepped
      exact same rfl
  | lockStreams | refuse | unlockStreams =>
      obtain ⟨condition, rfl⟩ := enabled stepped
      simp [State.mutexWaits, condition] at waits
  | register stream =>
      obtain ⟨⟨_, held, _⟩, rfl⟩ := enabled stepped
      simp [State.mutexWaits, held] at waits
  | sendHeaders =>
      obtain ⟨stream, _, _, rfl⟩ := sendHeaders_cases stepped
      rfl
  | rollBack =>
      obtain ⟨stream, _, exited, _⟩ := rollBack_cases stepped
      exact absurd exited alive
  | _ => cases others

theorem waits_other (alive : st.writer ≠ .exited) (others : action.party = .other)
    (waits : st.readerWaits = true) (stepped : step role st action = some next) :
    next.readerWaits = true := by
  have apart := other_apart others stepped
  simp only [State.readerWaits, Bool.and_eq_true, decide_eq_true_eq] at waits ⊢
  refine ⟨apart.writer ▸ alive, ?_⟩
  rw [apart.reader]
  have waits := waits.2
  cases reader : st.reader <;> simp [reader] at waits ⊢
  case pinging | offeringGoAway => exact full_mono waits apart.grows
  case lockingAll => exact mutexWaits_other alive others waits stepped

theorem loopWaits_other (alive : st.writer ≠ .exited) (others : action.party = .other)
    (waits : st.loopWaits = true) (stepped : step role st action = some next) :
    next.loopWaits = true := by
  have apart := other_apart others stepped
  simp only [State.loopWaits, Bool.and_eq_true, decide_eq_true_eq] at waits ⊢
  refine ⟨apart.writer ▸ alive, ?_⟩
  rw [apart.reader]
  have waits := waits.2
  cases reader : st.reader <;> simp [reader] at waits ⊢
  case locking left => exact mutexWaits_other alive others waits stepped
  case answering left =>
    cases left with
    | nil => cases waits
    | cons intent rest => exact full_mono waits apart.grows

theorem hung_step (hung : Hung st) (stepped : step role st action = some next) : Hung next := by
  refine ⟨stuck_step hung.stuck stepped, ?_⟩
  cases party : action.party with
  | peer =>
      cases action <;> cases party
      obtain rfl := Option.some.inj stepped
      exact hung.waits
  | writer =>
      rw [stuck_writer hung.stuck party] at stepped
      cases stepped
  | reader =>
      rcases hung.waits with waits | waits
      · rw [waiting_reader waits party] at stepped
        cases stepped
      · rw [waiting_loop waits party] at stepped
        cases stepped
  | other =>
      have alive := hung.stuck.busy.2
      exact hung.waits.imp (fun waits => waits_other alive party waits stepped)
        fun waits => loopWaits_other alive party waits stepped

/-- A reader that has come to wait for a stuck writer waits for ever. -/
theorem hung_forever (hung : Hung st) (ran : run (step role) st trace = some last) :
    Hung last :=
  run_invariant_all (fun _ _ _ => hung_step) hung ran

end Steps

/-! From a stuck writer some run leads to a reader that waits for it: the watchdog's PING
takes a place in the queue, its deadline passes, and the teardown comes to its GOAWAY,
unless the reader is stopped on the way there. -/

def Hangs (role : Role) (st : State) : Prop := CanReach (step role) (fun _ => True) st Hung

section Hanging

variable {role : Role} {st next : State} {action : Action}

theorem Hangs.before (hangs : Hangs role next) (stepped : step role st action = some next) :
    Hangs role st :=
  CanReach.next stepped trivial hangs

theorem Stuck.waits (stuck : Stuck st) (waits : st.readerWaits = true) : Hangs role st :=
  CanReach.now ⟨stuck, .inl waits⟩

theorem Stuck.loopWaits (stuck : Stuck st) (waits : st.loopWaits = true) : Hangs role st :=
  CanReach.now ⟨stuck, .inr waits⟩

theorem offeringGoAway_hangs (stuck : Stuck st) (offering : st.reader = .offeringGoAway) :
    Hangs role st := by
  have alive := stuck.busy.2
  cases room : st.full with
  | true => exact stuck.waits (by simp [State.readerWaits, offering, room, alive])
  | false =>
      have stepped : step role st .sendGoAway =
          some ((st.push (.frame .teardown)).withReader .awaitingGoAway) :=
        if_pos ⟨offering, room, alive⟩
      have after := stuck_step stuck stepped
      refine Hangs.before (after.waits ?_) stepped
      simp [State.readerWaits, State.withReader, (push_apart st _).writer, alive]

theorem failing_hangs (stuck : Stuck st) (failing : st.reader = .failing) : Hangs role st := by
  cases role with
  | worker =>
      have stepped : step .worker st .failBodies =
          some (st.failAll.withReader .offeringGoAway) := if_pos failing
      exact (offeringGoAway_hangs (stuck_step stuck stepped) rfl).before stepped
  | proxy =>
      have stepped : step .proxy st .failBodies = some (st.withReader .offeringGoAway) :=
        if_pos failing
      exact (offeringGoAway_hangs (stuck_step stuck stepped) rfl).before stepped

/-- With `streamsMu` taken, whoever waits for it waits for the writer or gets it. -/
theorem mutex_hangs (stuck : Stuck st) {reader : Reader} (here : st.reader = reader)
    (waits : ∀ {other : State}, Stuck other → other.reader = reader → other.mutexWaits = true →
      Hangs role other)
    (free : ∀ {other : State}, Stuck other → other.reader = reader → other.streamsMu = .free →
      Hangs role other) : Hangs role st := by
  have leaving : ∀ {other : State}, Stuck other → other.reader = reader →
      other.streamsMu = .leaving → Hangs role other := by
    intro other stuck here leaving
    have stepped : step role other .unlockStreams = some (other.withMutex .free) :=
      if_pos leaving
    exact (free (stuck_step stuck stepped) here rfl).before stepped
  cases mutex : st.streamsMu with
  | free => exact free stuck here mutex
  | leaving => exact leaving stuck here mutex
  | held =>
      have stepped : step role st .refuse = some (st.withMutex .leaving) := if_pos mutex
      exact (leaving (stuck_step stuck stepped) here rfl).before stepped
  | sending stream => exact waits stuck here (by simp [State.mutexWaits, mutex])
  | offering stream =>
      cases room : st.full with
      | true => exact waits stuck here (by simp [State.mutexWaits, mutex, room])
      | false =>
          have stepped : step role st .sendHeaders =
              some ((st.push (.frame .openStream)).withMutex (.sending stream)) := by
            simp [step, mutex, room, stuck.busy.2]
          have same := (other_apart rfl stepped).reader.trans here
          exact (waits (stuck_step stuck stepped) same rfl).before stepped

theorem lockingAll_hangs (stuck : Stuck st) (locking : st.reader = .lockingAll) :
    Hangs role st := by
  refine mutex_hangs stuck locking ?_ ?_
  · intro other stuck here waits
    exact stuck.waits (by simp [State.readerWaits, here, waits, stuck.busy.2])
  · intro other stuck here free
    have stepped : step role other .failAllStreams =
        some (other.failAll.withReader .failing) := if_pos ⟨here, free⟩
    exact (failing_hangs (stuck_step stuck stepped) rfl).before stepped

theorem expired_hangs (stuck : Stuck st) (reading : st.reader = .reading)
    (pending : st.pingPending = true) : Hangs role st := by
  have stepped : step role st (.idle true) = some (st.withReader (teardown role)) := by
    simp [step, reading, State.sendOrCheckPing, pending]
  refine Hangs.before ?_ stepped
  have after := stuck_step stuck stepped
  cases role with
  | worker => exact failing_hangs after rfl
  | proxy => exact lockingAll_hangs after rfl

/-- `SendPing` waits for a place in the queue or comes back to the loop. -/
theorem pinging_hangs (stuck : Stuck st) (pinging : st.reader = .pinging)
    (back : ∀ {other : State}, Stuck other → other.reader = .reading →
      other.pingPending = st.pingPending → Hangs role other) : Hangs role st := by
  cases room : st.full with
  | true => exact stuck.waits (by simp [State.readerWaits, pinging, room, stuck.busy.2])
  | false =>
      have stepped : step role st .ping =
          some ((st.push (.frame .nobody)).withReader .reading) :=
        if_pos ⟨pinging, by simp [State.admits, room]⟩
      refine Hangs.before (back (stuck_step stuck stepped) rfl ?_) stepped
      unfold State.push
      split <;> rfl

theorem reading_hangs (stuck : Stuck st) (reading : st.reader = .reading) : Hangs role st := by
  cases pending : st.pingPending with
  | true => exact expired_hangs stuck reading pending
  | false =>
      have stepped : step role st (.idle false) =
          some { st with pingPending := true, reader := .pinging } := by
        simp [step, reading, State.sendOrCheckPing, pending]
      refine Hangs.before (pinging_hangs (stuck_step stuck stepped) rfl ?_) stepped
      exact fun stuck reading pending => expired_hangs stuck reading pending

theorem answering_hangs (stuck : Stuck st) {left : List Intent}
    (answering : st.reader = .answering left) : Hangs role st := by
  induction left generalizing st with
  | nil =>
      have stepped : step role st .answer = some (st.withReader .reading) := by
        simp [step, answering]
      exact (reading_hangs (stuck_step stuck stepped) rfl).before stepped
  | cons intent rest ih =>
      cases room : st.full with
      | true =>
          exact stuck.loopWaits (by simp [State.loopWaits, answering, room, stuck.busy.2])
      | false =>
          have stepped : step role st .answer =
              some ((st.push intent).withReader (.answering rest)) := by
            simp [step, answering, State.admits, room]
          exact (ih (stuck_step stuck stepped) rfl).before stepped

theorem locking_hangs (stuck : Stuck st) {left : List Intent}
    (locking : st.reader = .locking left) : Hangs role st := by
  refine mutex_hangs stuck locking ?_ ?_
  · intro other stuck here waits
    exact stuck.loopWaits (by simp [State.loopWaits, here, waits, stuck.busy.2])
  · intro other stuck here free
    have stepped : step role other .getStream = some (other.withReader (.answering left)) := by
      simp [step, here, free]
    exact (answering_hangs (stuck_step stuck stepped) rfl).before stepped

theorem signalling_hangs (stuck : Stuck st) (signalling : st.reader = .signalling) :
    Hangs role st := by
  have stepped : step role st .shutdownWriter =
      some { st with writeShutdown := true, reader := .awaitingWriter } := if_pos signalling
  have after := stuck_step stuck stepped
  exact (after.waits (by simp [State.readerWaits, stuck.busy.2])).before stepped

/-- The reader is done only once it has closed the transport. -/
theorem closed_step (closed : st.reader = .closed → st.transportClosed = true)
    (stepped : step role st action = some next) (done : next.reader = .closed) :
    next.transportClosed = true := by
  cases party : action.party with
  | peer =>
      cases action <;> cases party
      obtain rfl := Option.some.inj stepped
      exact closed done
  | writer =>
      obtain ⟨intent, rest, _, rfl⟩ | ⟨submitter, _, rfl⟩ | rfl := writer_cases party stepped
      · exact closed done
      · cases submitter with
        | nobody | writer w | openStream => exact closed done
        | teardown =>
            cases reader : st.reader <;>
              simp [State.processed, Reader.answered, reader] at done
            exact closed reader
      · exact closed done
  | other =>
      have apart := other_apart party stepped
      rw [apart.transport]
      exact closed (apart.reader.symm.trans done)
  | reader =>
      cases action with
      | read left looksUp opened | getStream | answer | ping =>
          have looping := loop_step rfl stepped
          rw [done] at looping
          cases looping
      | pong =>
          obtain ⟨_, rfl⟩ := enabled stepped
          exact closed done
      | idle expired =>
          obtain ⟨_, rfl⟩ := enabled stepped
          unfold State.sendOrCheckPing at done ⊢
          split at done
          · split at done
            · cases role <;> cases done
            · rename_i pending patient
              simpa [pending, patient] using closed done
          · cases done
      | leave =>
          obtain ⟨_, rfl⟩ := enabled stepped
          cases role <;> cases done
      | failBodies =>
          obtain ⟨_, ⟨_, rfl⟩ | ⟨_, rfl⟩⟩ := failBodies_cases stepped <;> cases done
      | failAllStreams | sendGoAway | goAwayDone | shutdownWriter =>
          obtain ⟨_, rfl⟩ := enabled stepped
          cases done
      | close =>
          obtain ⟨_, rfl⟩ := enabled stepped
          rfl
      | _ => cases party

theorem stuck_hangs (stuck : Stuck st)
    (closed : st.reader = .closed → st.transportClosed = true) : Hangs role st := by
  have alive := stuck.busy.2
  cases reader : st.reader with
  | reading => exact reading_hangs stuck reader
  | locking left => exact locking_hangs stuck reader
  | answering left => exact answering_hangs stuck reader
  | pinging => exact pinging_hangs stuck reader fun stuck reading _ => reading_hangs stuck reading
  | lockingAll => exact lockingAll_hangs stuck reader
  | failing => exact failing_hangs stuck reader
  | offeringGoAway => exact offeringGoAway_hangs stuck reader
  | signalling => exact signalling_hangs stuck reader
  | awaitingGoAway | awaitingWriter =>
      exact stuck.waits (by simp [State.readerWaits, reader, alive])
  | closed => cases stuck.2.1.symm.trans (closed reader)

end Hanging

/-- Wherever the writer gets stuck, the reader can come to wait for it for good, and the
transport is never closed. -/
theorem stall_goes_unnoticed {role : Role} {trace : List Action} {st : State}
    (reached : run (step role) State.new trace = some st) (stuck : Stuck st) :
    (∃ more last, run (step role) st more = some last ∧ Hung last) ∧
      ∀ more last, run (step role) st more = some last → last.transportClosed = false := by
  have closed : st.reader = .closed → st.transportClosed = true :=
    run_invariant_all (fun _ _ _ closed stepped => closed_step closed stepped)
      (fun closed => by cases closed) reached
  constructor
  · have hangs : Hangs role st := stuck_hangs stuck closed
    obtain ⟨more, last, -, ran, hung⟩ := hangs
    exact ⟨more, last, ran, hung⟩
  · exact fun more last ran => (stuck_forever stuck ran).2.1

/-- One frame is being written to a peer that has stopped reading, and the write queue is
empty. The watchdog's PING is queued. -/
def stalledWorker : List Action :=
  [.read [] false (some 1), .answer, .submit 0, .take, .stall, .idle false, .ping]

theorem stall_goes_unnoticed_pinged :
    ∃ st, run (step .worker) State.new stalledWorker = some st ∧ Stuck st ∧
      st.reader = .reading ∧ ∃ more last, run (step .worker) st more = some last ∧ Hung last := by
  refine ⟨?st, ?ran, ?hung⟩
  case ran => rfl
  case hung =>
    refine ⟨⟨rfl, rfl, .writer 0, rfl⟩, rfl, ?_⟩
    have reached : run (step .worker) State.new stalledWorker = some _ := rfl
    exact (stall_goes_unnoticed reached ⟨rfl, rfl, .writer 0, rfl⟩).1

theorem stalled_teardown_waits :
    ¬ ∀ role trace last, run (step role) State.new trace = some last → Stuck last →
      last.readerWaits = false := by
  intro never
  have idle := never .worker (stalledWorker ++ [.idle true, .failBodies, .sendGoAway]) _ rfl
    ⟨rfl, rfl, .writer 0, rfl⟩
  cases idle

/-! A write that fails is another matter: once the writer has exited the teardown runs
through. -/

/-- Every stream of this side has been failed, or was opened after that. -/
def Covered (role : Role) (st : State) : Prop :=
  failedAll role st.reader = true →
    ∀ stream ∈ st.streams, stream ∈ st.failed ∨ role = .proxy ∧ stream ∈ st.late

section Covering

variable {role : Role} {st next : State} {action : Action}

theorem Covered.keep (covered : Covered role st)
    (passed : failedAll role next.reader = true → failedAll role st.reader = true)
    (streams : ∀ stream ∈ next.streams, stream ∈ st.streams)
    (failed : next.failed = st.failed) (late : next.late = st.late) : Covered role next := by
  intro ended stream member
  rw [failed, late]
  exact covered (passed ended) stream (streams stream member)

theorem covered_before (before : failedAll role next.reader = false) : Covered role next := by
  intro ended
  rw [before] at ended
  cases ended

theorem covered_after (failed : ∀ stream ∈ next.streams, stream ∈ next.failed) :
    Covered role next :=
  fun _ stream member => .inl (failed stream member)

theorem push_registries (st : State) (intent : Intent) :
    (st.push intent).streams = st.streams ∧ (st.push intent).failed = st.failed ∧
      (st.push intent).late = st.late := by
  unfold State.push
  split <;> exact ⟨rfl, rfl, rfl⟩

theorem Covered.push (covered : Covered role st) (intent : Intent)
    (next : State) (streams : next.streams = (st.push intent).streams)
    (failed : next.failed = (st.push intent).failed) (late : next.late = (st.push intent).late)
    (passed : failedAll role next.reader = true → failedAll role st.reader = true) :
    Covered role next := by
  obtain ⟨sameStreams, sameFailed, sameLate⟩ := push_registries st intent
  refine covered.keep passed ?_ (failed.trans sameFailed) (late.trans sameLate)
  intro stream member
  rwa [streams, sameStreams] at member

theorem failedAll_answered (role : Role) (reader : Reader) :
    failedAll role reader.answered = failedAll role reader := by
  cases role <;> cases reader <;> rfl

theorem teardown_before (role : Role) : failedAll role (teardown role) = false := by
  cases role <;> rfl

theorem processed_covered (covered : Covered role st) (submitter : Submitter) :
    Covered role (st.processed submitter) := by
  cases submitter with
  | nobody | writer w | openStream => exact covered.keep id (fun _ => id) rfl rfl
  | teardown =>
      refine covered.keep ?_ (fun _ => id) rfl rfl
      intro ended
      rwa [← failedAll_answered]

theorem writer_covered (covered : Covered role st) (writers : action.party = .writer)
    (stepped : step role st action = some next) : Covered role next := by
  obtain ⟨intent, rest, _, rfl⟩ | ⟨submitter, _, rfl⟩ | rfl := writer_cases writers stepped
  · exact covered.keep id (fun _ => id) rfl rfl
  · exact processed_covered covered submitter
  · exact covered.keep id (fun _ => id) rfl rfl

theorem registered_covered (covered : Covered role st) (proxied : role = .proxy) (stream : Nat) :
    Covered role (st.registered role stream) := by
  intro ended other member
  have passed : failedAll role st.reader = true := ended
  have late : (st.registered role stream).late = stream :: st.late := by
    simp [State.registered, passed]
  rw [late]
  rcases List.mem_cons.mp member with rfl | old
  · exact .inr ⟨proxied, List.mem_cons_self⟩
  · rcases covered passed other old with failed | ⟨_, opened⟩
    · exact .inl failed
    · exact .inr ⟨proxied, List.mem_cons_of_mem _ opened⟩

theorem other_covered (covered : Covered role st) (others : action.party = .other)
    (stepped : step role st action = some next) : Covered role next := by
  have reader := (other_apart others stepped).reader
  have passed : failedAll role next.reader = true → failedAll role st.reader = true :=
    fun ended => reader ▸ ended
  cases action with
  | submit w | sendRST =>
      obtain ⟨_, rfl⟩ := enabled stepped
      exact covered.push _ _ rfl rfl rfl passed
  | lockStreams | refuse | unlockStreams =>
      obtain ⟨_, rfl⟩ := enabled stepped
      exact covered.keep id (fun _ => id) rfl rfl
  | register stream =>
      obtain ⟨⟨proxied, _⟩, rfl⟩ := enabled stepped
      exact registered_covered covered proxied stream
  | sendHeaders =>
      obtain ⟨stream, _, _, rfl⟩ := sendHeaders_cases stepped
      exact covered.push _ _ rfl rfl rfl passed
  | rollBack =>
      obtain ⟨stream, _, _, rfl⟩ := rollBack_cases stepped
      exact covered.keep id (fun _ => List.mem_of_mem_erase) rfl rfl
  | finish stream =>
      obtain ⟨_, rfl⟩ := enabled stepped
      exact covered.keep id (fun _ => List.mem_of_mem_erase) rfl rfl
  | _ => cases others

theorem failAll_covered (st : State) (reader : Reader) :
    Covered role (st.failAll.withReader reader) :=
  covered_after fun _ member => List.mem_append_left _ member

theorem looping_before (role : Role) {reader : Reader} (looping : reader.looping = true) :
    failedAll role reader = false := by
  cases role <;> cases reader <;> first | rfl | cases looping

theorem reader_covered (covered : Covered role st) (readers : action.party = .reader)
    (stepped : step role st action = some next) : Covered role next := by
  cases action with
  | read left looksUp opened | getStream | answer | ping =>
      exact covered_before (looping_before role (loop_step rfl stepped))
  | pong =>
      obtain ⟨_, rfl⟩ := enabled stepped
      exact covered.keep id (fun _ => id) rfl rfl
  | idle expired =>
      obtain ⟨_, rfl⟩ := enabled stepped
      unfold State.sendOrCheckPing
      split
      · split
        · exact covered_before (teardown_before role)
        · exact covered
      · cases role <;> exact covered_before rfl
  | leave =>
      obtain ⟨_, rfl⟩ := enabled stepped
      exact covered_before (teardown_before role)
  | failAllStreams =>
      obtain ⟨_, rfl⟩ := enabled stepped
      exact failAll_covered st _
  | failBodies =>
      obtain ⟨failing, ⟨_, rfl⟩ | ⟨rfl, rfl⟩⟩ := failBodies_cases stepped
      · exact failAll_covered st _
      · refine covered.keep (fun _ => ?_) (fun _ => id) rfl rfl
        rw [failing]
        rfl
  | sendGoAway =>
      obtain ⟨⟨offering, _⟩, rfl⟩ := enabled stepped
      refine covered.push _ _ rfl rfl rfl (fun _ => ?_)
      rw [offering]
      cases role <;> rfl
  | goAwayDone =>
      obtain ⟨⟨offering | awaiting, _⟩, rfl⟩ := enabled stepped
      · refine covered.keep (fun _ => ?_) (fun _ => id) rfl rfl
        rw [offering]
        cases role <;> rfl
      · refine covered.keep (fun _ => ?_) (fun _ => id) rfl rfl
        rw [awaiting]
        cases role <;> rfl
  | shutdownWriter =>
      obtain ⟨signalling, rfl⟩ := enabled stepped
      refine covered.keep (fun _ => ?_) (fun _ => id) rfl rfl
      rw [signalling]
      cases role <;> rfl
  | close =>
      obtain ⟨⟨awaiting, _⟩, rfl⟩ := enabled stepped
      refine covered.keep (fun _ => ?_) (fun _ => id) rfl rfl
      rw [awaiting]
      cases role <;> rfl
  | _ => cases readers

theorem covered_step (covered : Covered role st) (stepped : step role st action = some next) :
    Covered role next := by
  cases party : action.party with
  | peer =>
      cases action <;> cases party
      obtain rfl := Option.some.inj stepped
      exact covered.keep id (fun _ => id) rfl rfl
  | writer => exact writer_covered covered party stepped
  | reader => exact reader_covered covered party stepped
  | other => exact other_covered covered party stepped

end Covering

def Reader.tearingDown : Reader → Bool
  | .lockingAll | .failing | .offeringGoAway | .awaitingGoAway | .signalling
  | .awaitingWriter => true
  | _ => false

/-- Without another write the transport is closed and every stream failed: a stream that
was opened late is let go by `detach`. -/
def Completes (role : Role) (st : State) : Prop :=
  ∃ more last, run (step role) st more = some last ∧ .write ∉ more ∧
    last.transportClosed = true ∧
    ∀ stream ∈ last.streams,
      stream ∈ last.failed ∨ stream ∈ last.late ∧ last.detached = true

section Completing

variable {role : Role} {st next : State} {action : Action}

theorem Completes.before (completes : Completes role next)
    (stepped : step role st action = some next) (noWrite : action ≠ .write) :
    Completes role st := by
  obtain ⟨more, last, ran, none, ended⟩ := completes
  refine ⟨action :: more, last, ?_, ?_, ended⟩
  · simp only [run, stepped, Option.bind_some]
    exact ran
  · exact List.not_mem_cons_of_ne_of_not_mem noWrite.symm none

theorem awaitingWriter_completes (covered : Covered role st) (exited : st.writer = .exited)
    (awaiting : st.reader = .awaitingWriter) : Completes role st := by
  have ended : failedAll role st.reader = true := by
    rw [awaiting]
    cases role <;> rfl
  refine ⟨[.close], _, by simp [run, step, awaiting, exited]; rfl, by simp, rfl, ?_⟩
  intro stream member
  rcases covered ended stream member with failed | ⟨proxied, late⟩
  · exact .inl failed
  · exact .inr ⟨late, decide_eq_true proxied⟩

theorem signalling_completes (covered : Covered role st) (exited : st.writer = .exited)
    (signalling : st.reader = .signalling) : Completes role st := by
  have stepped : step role st .shutdownWriter =
      some { st with writeShutdown := true, reader := .awaitingWriter } :=
    if_pos signalling
  exact (awaitingWriter_completes (covered_step covered stepped) exited rfl).before stepped
    (by simp)

theorem goAway_completes (covered : Covered role st) (exited : st.writer = .exited)
    (goAway : st.reader = .offeringGoAway ∨ st.reader = .awaitingGoAway) :
    Completes role st := by
  have stepped : step role st .goAwayDone = some (st.withReader .signalling) :=
    if_pos ⟨goAway, exited⟩
  exact (signalling_completes (covered_step covered stepped) exited rfl).before stepped
    (by simp)

theorem failing_completes (covered : Covered role st) (exited : st.writer = .exited)
    (failing : st.reader = .failing) : Completes role st := by
  cases role with
  | worker =>
      have stepped : step .worker st .failBodies =
          some (st.failAll.withReader .offeringGoAway) := if_pos failing
      exact (goAway_completes (covered_step covered stepped) exited (.inl rfl)).before stepped
        (by simp)
  | proxy =>
      have stepped : step .proxy st .failBodies = some (st.withReader .offeringGoAway) :=
        if_pos failing
      exact (goAway_completes (covered_step covered stepped) exited (.inl rfl)).before stepped
        (by simp)

theorem free_completes (covered : Covered role st) (exited : st.writer = .exited)
    (locking : st.reader = .lockingAll) (free : st.streamsMu = .free) : Completes role st := by
  have stepped : step role st .failAllStreams = some (st.failAll.withReader .failing) :=
    if_pos ⟨locking, free⟩
  exact (failing_completes (covered_step covered stepped) exited rfl).before stepped (by simp)

theorem leaving_completes (covered : Covered role st) (exited : st.writer = .exited)
    (locking : st.reader = .lockingAll) (leaving : st.streamsMu = .leaving) :
    Completes role st := by
  have stepped : step role st .unlockStreams = some (st.withMutex .free) := if_pos leaving
  exact (free_completes (covered_step covered stepped) exited locking rfl).before stepped
    (by simp)

theorem rollBack_completes (covered : Covered role st) (exited : st.writer = .exited)
    (locking : st.reader = .lockingAll) {stream : Nat}
    (sending : st.streamsMu = .offering stream ∨ st.streamsMu = .sending stream) :
    Completes role st := by
  have stepped : step role st .rollBack =
      some { st with streams := st.streams.erase stream, streamsMu := .leaving } := by
    rcases sending with mutex | mutex <;> simp [step, mutex, exited]
  exact (leaving_completes (covered_step covered stepped) exited locking rfl).before stepped
    (by simp)

theorem held_completes (covered : Covered role st) (exited : st.writer = .exited)
    (locking : st.reader = .lockingAll) (held : st.streamsMu = .held) : Completes role st := by
  have stepped : step role st .refuse = some (st.withMutex .leaving) := if_pos held
  exact (leaving_completes (covered_step covered stepped) exited locking rfl).before stepped
    (by simp)

theorem locking_completes (covered : Covered role st) (exited : st.writer = .exited)
    (locking : st.reader = .lockingAll) : Completes role st := by
  cases mutex : st.streamsMu with
  | free => exact free_completes covered exited locking mutex
  | held => exact held_completes covered exited locking mutex
  | offering stream => exact rollBack_completes covered exited locking (.inl mutex)
  | sending stream => exact rollBack_completes covered exited locking (.inr mutex)
  | leaving => exact leaving_completes covered exited locking mutex

end Completing

/-- A teardown whose writer has exited closes the transport and fails every stream. -/
theorem teardown_completes {role : Role} {trace : List Action} {st : State}
    (reached : run (step role) State.new trace = some st) (exited : st.writer = .exited)
    (tearing : st.reader.tearingDown = true) : Completes role st := by
  have covered : Covered role st := by
    refine run_invariant_all (fun _ _ _ => covered_step) ?_ reached
    intro _ stream member
    cases member
  cases reader : st.reader with
  | lockingAll => exact locking_completes covered exited reader
  | failing => exact failing_completes covered exited reader
  | offeringGoAway => exact goAway_completes covered exited (.inl reader)
  | awaitingGoAway => exact goAway_completes covered exited (.inr reader)
  | signalling => exact signalling_completes covered exited reader
  | awaitingWriter => exact awaitingWriter_completes covered exited reader
  | _ => simp [reader, Reader.tearingDown] at tearing

end ReverseHttp.StalledTransport
