import ReverseHttp.Transition
import ReverseHttp.BodyQueue

/-!
The body of one stream over whole runs. The calls on it are one machine: producers
push, close and fail, and one reader reads. A `Read` that finds nothing has not
returned, so it is a call that cannot be taken yet. Over it lies the machine with the
condition variable: a producer unlocks first and signals later, and a reader that finds
nothing waits for a signal.
-/

namespace ReverseHttp.BodyFifo

open Transition Wire BodyQueue

inductive Ending where
  | closed
  | failed (err : H2Error)
  deriving DecidableEq, Repr

/-- A stream with the history of the calls on it; `ending` is the first end. -/
structure Body where
  stream : Stream
  ending : Option Ending
  pushed : List DataChunk
  results : List ReadResult
  deriving DecidableEq

/-- The body of a stream taken from the pool, whatever its last use left behind. -/
def Body.opened (s : Stream) (id : StreamID) (conn : Nat) (window : Int32) : Body :=
  { stream := acquire s id conn window, ending := none, pushed := [], results := [] }

inductive Call where
  | pushData (chunk : DataChunk)
  | closeData
  | failBody (err : H2Error)
  | read (len : Nat)
  deriving DecidableEq

def call (b : Body) : Call → Option Body
  | .pushData chunk =>
      some { b with stream := BodyQueue.pushData b.stream chunk, pushed := b.pushed ++ [chunk] }
  | .closeData =>
      some { b with
        stream := BodyQueue.closeData b.stream, ending := b.ending.or (some .closed) }
  | .failBody err =>
      some { b with
        stream := BodyQueue.failBody b.stream err, ending := b.ending.or (some (.failed err)) }
  | .read len =>
      let done := BodyQueue.read b.stream len
      if done.1 = .parked then none
      else some { b with stream := done.2.1, results := b.results ++ [done.1] }

/-- The bytes of a result, in the destination of the `Read`. -/
def resultBytes : ReadResult → Bytes
  | .data bytes => bytes
  | _ => []

def Body.returned (b : Body) : Bytes := b.results.flatMap resultBytes

def Body.content (b : Body) : Bytes := b.pushed.flatMap DataChunk.data

/-! ## Accounting -/

/-- Every chunk pushed has been taken by the reader or is in the queue, in order; what
was taken has been returned up to the leftover. -/
structure Accounted (b : Body) : Prop where
  queueOk : QueueOk b.stream
  chunks : ∃ taken, taken ++ b.stream.queue.drop b.stream.qHead = b.pushed ∧
    b.returned ++ b.stream.body.buf = taken.flatMap DataChunk.data
  done : b.stream.dataDone = b.ending.isSome

theorem accounted_opened (s : Stream) (id : StreamID) (conn : Nat) (window : Int32) :
    Accounted (Body.opened s id conn window) :=
  ⟨⟨Nat.le_refl 0⟩, ⟨[], rfl, rfl⟩, rfl⟩

theorem Accounted.content {b : Body} (accounted : Accounted b) :
    b.returned ++ pending b.stream = b.content := by
  obtain ⟨taken, whole, served⟩ := accounted.chunks
  rw [pending, ← List.append_assoc, served, ← List.flatMap_append, whole, Body.content]

theorem Accounted.all_returned {b : Body} (accounted : Accounted b) :
    b.returned = b.content ↔ pending b.stream = [] := by
  rw [← accounted.content]
  simp

/-- What the `read` call tells: a result other than waiting, and the stream after it. -/
theorem call_read {b next : Body} {len : Nat} (called : call b (.read len) = some next) :
    ∃ result after handles, BodyQueue.read b.stream len = (result, after, handles) ∧
      result ≠ .parked ∧ next = { b with stream := after, results := b.results ++ [result] } := by
  unfold call at called
  simp only at called
  split at called
  · cases called
  · next waits =>
      cases called
      exact ⟨_, _, _, rfl, waits, rfl⟩

theorem returned_append (b : Body) (after : Stream) (result : ReadResult) :
    Body.returned { b with stream := after, results := b.results ++ [result] } =
      b.returned ++ resultBytes result := by
  simp [Body.returned]

theorem read_accounted {b next : Body} {len : Nat} (accounted : Accounted b)
    (called : call b (.read len) = some next) : Accounted next := by
  obtain ⟨result, after, handles, done, waits, rfl⟩ := call_read called
  obtain ⟨queueOk, sameDone, -, outcome⟩ := read_spec accounted.queueOk done
  refine ⟨queueOk, ?_, sameDone.trans accounted.done⟩
  obtain ⟨taken, whole, served⟩ := accounted.chunks
  rw [returned_append]
  cases result with
  | parked => exact absurd rfl waits
  | eof =>
      obtain ⟨-, rfl, -⟩ := outcome
      exact ⟨taken, whole, by simpa [resultBytes] using served⟩
  | failed err =>
      obtain ⟨-, rfl, -⟩ := outcome
      exact ⟨taken, whole, by simpa [resultBytes] using served⟩
  | data bytes =>
      obtain ⟨more, rest, handed⟩ := read_chunks accounted.queueOk done
      refine ⟨taken ++ more, ?_, ?_⟩
      · rw [List.append_assoc, rest, whole]
      · rw [List.flatMap_append, ← served, List.append_assoc, List.append_assoc, handed]
        rfl

theorem pushData_accounted {b : Body} (chunk : DataChunk) (accounted : Accounted b) :
    Accounted { b with
      stream := BodyQueue.pushData b.stream chunk, pushed := b.pushed ++ [chunk] } := by
  refine ⟨queueOk_pushData chunk accounted.queueOk, ?_, accounted.done⟩
  obtain ⟨taken, whole, served⟩ := accounted.chunks
  refine ⟨taken, ?_, served⟩
  simp only [BodyQueue.pushData]
  rw [List.drop_append_of_le_length accounted.queueOk.head, ← List.append_assoc, whole]

theorem call_accounted {b next : Body} {c : Call} (accounted : Accounted b)
    (called : call b c = some next) : Accounted next := by
  cases c with
  | pushData chunk =>
      cases called
      exact pushData_accounted chunk accounted
  | closeData =>
      cases called
      exact ⟨⟨accounted.queueOk.head⟩, accounted.chunks, by simp [BodyQueue.closeData]⟩
  | failBody err =>
      cases called
      exact ⟨⟨accounted.queueOk.head⟩, accounted.chunks, by simp [BodyQueue.failBody]⟩
  | read len => exact read_accounted accounted called

/-! ## One end -/

/-- Chunks are not empty, and nothing is pushed and no end comes after the first end. -/
def OneEnd (b : Body) : Call → Prop
  | .pushData chunk => chunk.data ≠ [] ∧ b.ending = none
  | .closeData => b.ending = none
  | .failBody _ => b.ending = none
  | .read _ => True

instance decidableOneEnd (b : Body) (c : Call) : Decidable (OneEnd b c) := by
  unfold OneEnd
  split <;> infer_instance

def Ending.err : Ending → Option H2Error
  | .closed => none
  | .failed err => some err

structure EndedOnce (b : Body) : Prop extends Accounted b where
  err : b.stream.dataErr = b.ending.bind Ending.err
  full : ∀ chunk ∈ b.pushed, chunk.data ≠ []

theorem call_endedOnce {b next : Body} {c : Call} (valid : EndedOnce b)
    (called : call b c = some next) (once : OneEnd b c) : EndedOnce next := by
  have accounted := call_accounted valid.toAccounted called
  have before := valid.err
  cases c with
  | pushData chunk =>
      cases called
      refine ⟨accounted, before, ?_⟩
      intro other member
      rcases List.mem_append.mp member with old | new
      · exact valid.full other old
      · exact List.mem_singleton.mp new ▸ once.1
  | closeData =>
      cases called
      refine ⟨accounted, ?_, valid.full⟩
      rw [show b.ending = none from once] at before ⊢
      exact before
  | failBody err =>
      cases called
      refine ⟨accounted, ?_, valid.full⟩
      simp only [BodyQueue.failBody]
      rw [show b.ending = none from once] at before ⊢
      rw [before]
      rfl
  | read len =>
      obtain ⟨result, after, handles, done, -, rfl⟩ := call_read called
      obtain ⟨-, -, sameErr, -⟩ := read_spec valid.queueOk done
      exact ⟨accounted, sameErr.trans before, valid.full⟩

/-- What the next result says about the body. The four cases exclude each other. -/
def NextRead (b : Body) : ReadResult → Prop
  | .data bytes => bytes ≠ [] ∧ b.returned ++ bytes <+: b.content
  | .parked => b.returned = b.content ∧ b.ending = none
  | .eof => b.returned = b.content ∧ b.ending = some .closed
  | .failed err => b.returned = b.content ∧ b.ending = some (.failed err)

theorem take_ne_nil {bytes : Bytes} {len : Nat} (some_byte : bytes ≠ []) (room : 0 < len) :
    bytes.take len ≠ [] := by
  rw [Ne, List.take_eq_nil_iff]
  rintro (none_asked | empty)
  · omega
  · exact some_byte empty

theorem EndedOnce.data_ne_nil {b : Body} (valid : EndedOnce b) {len : Nat} (room : 0 < len)
    {bytes : Bytes} {after : Stream} {handles : List Nat}
    (done : BodyQueue.read b.stream len = (.data bytes, after, handles)) : bytes ≠ [] := by
  rcases read_cases valid.queueOk done with
    ⟨leftover, handed, -⟩ | ⟨-, inside, handed, -⟩ | ⟨-, -, handed, -⟩
  · cases handed
    exact take_ne_nil leftover room
  · cases handed
    refine take_ne_nil (valid.full _ ?_) room
    obtain ⟨taken, whole, -⟩ := valid.chunks
    rw [← whole, ← dequeue_chunks inside]
    simp
  · exact absurd handed.symm (endResult_ne_data b.stream bytes)

/-- The ending, read back from the two flags of the stream. -/
theorem EndedOnce.ending_eq {b : Body} (valid : EndedOnce b) (done : b.stream.dataDone = true) :
    b.ending = some (match b.stream.dataErr with
      | none => .closed
      | some err => .failed err) := by
  rw [valid.err]
  rw [valid.done] at done
  obtain ⟨ending, found⟩ := Option.isSome_iff_exists.mp done
  rw [found]
  cases ending with
  | closed => rfl
  | failed err => rfl

theorem Accounted.parked {b : Body} (accounted : Accounted b) {len : Nat}
    (waits : (BodyQueue.read b.stream len).1 = .parked) :
    b.returned = b.content ∧ b.ending = none := by
  generalize done : BodyQueue.read b.stream len = outcome at waits
  obtain ⟨result, after, handles⟩ := outcome
  subst waits
  obtain ⟨-, -, -, nothing, -, unfinished⟩ := read_spec accounted.queueOk done
  rw [accounted.done] at unfinished
  exact ⟨accounted.all_returned.mpr nothing, by simpa using unfinished⟩

theorem EndedOnce.nextRead {b : Body} (valid : EndedOnce b) {len : Nat} (room : 0 < len) :
    NextRead b (BodyQueue.read b.stream len).1 := by
  generalize done : BodyQueue.read b.stream len = outcome
  obtain ⟨result, after, handles⟩ := outcome
  obtain ⟨-, -, -, outcome⟩ := read_spec valid.queueOk done
  cases result with
  | parked => exact valid.parked (by rw [done])
  | data bytes =>
      refine ⟨valid.data_ne_nil room done, pending after, ?_⟩
      rw [← valid.content, show pending b.stream = bytes ++ pending after from outcome,
        List.append_assoc]
  | eof =>
      obtain ⟨nothing, -, ended, noErr⟩ := outcome
      refine ⟨valid.all_returned.mpr nothing, ?_⟩
      rw [valid.ending_eq ended, noErr]
  | failed err =>
      obtain ⟨nothing, -, ended, failure⟩ := outcome
      refine ⟨valid.all_returned.mpr nothing, ?_⟩
      rw [valid.ending_eq ended, failure]

/-! ## Waiting and signals -/

inductive Reader where
  | idle
  | waiting (len : Nat)
  | woken (len : Nat)
  deriving DecidableEq, Repr

/-- `owed` counts the producers that have unlocked and not signalled yet. -/
structure State where
  body : Body
  reader : Reader
  owed : Nat
  deriving DecidableEq

def State.opened (s : Stream) (id : StreamID) (conn : Nat) (window : Int32) : State :=
  { body := Body.opened s id conn window, reader := .idle, owed := 0 }

inductive Action where
  | pushData (chunk : DataChunk)
  | closeData
  | failBody (err : H2Error)
  | signal
  | read (len : Nat)
  | resume
  deriving DecidableEq

/-- A producer's critical section. -/
def announce (st : State) (c : Call) : Option State :=
  (call st.body c).map fun body => { st with body := body, owed := st.owed + 1 }

/-- The reader holds the lock and tests the loop condition. -/
def attempt (st : State) (len : Nat) : State :=
  match call st.body (.read len) with
  | some body => { st with body := body, reader := .idle }
  | none => { st with reader := .waiting len }

/-- With one reader `Signal` and `Broadcast` are the same. -/
def Reader.wake : Reader → Reader
  | .waiting len => .woken len
  | reader => reader

def step (st : State) : Action → Option State
  | .pushData chunk => announce st (.pushData chunk)
  | .closeData => announce st .closeData
  | .failBody err => announce st (.failBody err)
  | .signal =>
      if 0 < st.owed then some { st with owed := st.owed - 1, reader := st.reader.wake } else none
  | .read len => if st.reader = .idle then some (attempt st len) else none
  | .resume =>
      match st.reader with
      | .woken len => some (attempt st len)
      | _ => none

/-- The call behind an action of a producer. -/
def Action.call : Action → Option Call
  | .pushData chunk => some (.pushData chunk)
  | .closeData => some .closeData
  | .failBody err => some (.failBody err)
  | _ => none

def Orderly (st : State) (action : Action) : Prop :=
  match action.call with
  | some c => OneEnd st.body c
  | none => True

instance decidableOrderly (st : State) (action : Action) : Decidable (Orderly st action) := by
  unfold Orderly
  split <;> infer_instance

structure Valid (st : State) : Prop where
  body : EndedOnce st.body
  awake : ∀ len, st.reader = .waiting len →
    (st.body.returned = st.body.content ∧ st.body.ending = none) ∨ 0 < st.owed

theorem announce_valid {st next : State} {c : Call} (valid : Valid st)
    (stepped : announce st c = some next) (once : OneEnd st.body c) : Valid next := by
  obtain ⟨body, called, rfl⟩ := Option.map_eq_some_iff.mp stepped
  exact ⟨call_endedOnce valid.body called once, fun _ _ => .inr (Nat.succ_pos _)⟩

theorem attempt_valid {st : State} (valid : Valid st) (len : Nat) : Valid (attempt st len) := by
  unfold attempt
  cases called : call st.body (.read len) with
  | some body => exact ⟨call_endedOnce valid.body called trivial, fun _ waits => by cases waits⟩
  | none =>
      have waits : (BodyQueue.read st.body.stream len).1 = .parked := by
        simpa [call] using called
      exact ⟨valid.body, fun _ _ => .inl (valid.body.parked waits)⟩

theorem step_valid {st next : State} {action : Action} (valid : Valid st)
    (orderly : Orderly st action) (stepped : step st action = some next) : Valid next := by
  cases action with
  | pushData chunk => exact announce_valid valid stepped orderly
  | closeData => exact announce_valid valid stepped orderly
  | failBody err => exact announce_valid valid stepped orderly
  | signal =>
      obtain ⟨-, rfl⟩ := enabled stepped
      refine ⟨valid.body, fun len waits => ?_⟩
      -- the signal has woken the reader, whoever sent it
      cases reader : st.reader <;> simp [reader, Reader.wake] at waits
  | read len =>
      obtain ⟨-, rfl⟩ := enabled stepped
      exact attempt_valid valid len
  | resume =>
      simp only [step] at stepped
      split at stepped
      · cases stepped
        exact attempt_valid valid _
      · cases stepped

/-- A lossless first-in first-out queue of bytes, as one reader sees it. -/
structure LosslessFifo (st : State) : Prop where
  delivered : st.body.returned <+: st.body.content
  head : st.body.stream.qHead ≤ st.body.stream.queue.length
  chunks : ∃ taken,
    taken ++ st.body.stream.queue.drop st.body.stream.qHead = st.body.pushed ∧
      st.body.returned ++ st.body.stream.body.buf = taken.flatMap DataChunk.data
  blocked : ∀ len, st.reader = .waiting len →
    (st.body.returned = st.body.content ∧ st.body.ending = none) ∨ 0 < st.owed
  next : ∀ len, 0 < len → NextRead st.body (BodyQueue.read st.body.stream len).1

/-- In every run with at most one end after the last push. -/
theorem body_lossless_fifo (s : Stream) (id : StreamID) (conn : Nat) (window : Int32)
    {trace : List Action} {last : State}
    (orderly : Guarded step Orderly (State.opened s id conn window) trace)
    (ran : run step (State.opened s id conn window) trace = some last) : LosslessFifo last := by
  have fresh : Valid (State.opened s id conn window) :=
    ⟨⟨accounted_opened s id conn window, rfl, by simp [State.opened, Body.opened]⟩,
      fun _ waits => by cases waits⟩
  have valid : Valid last :=
    run_invariant (fun _ _ _ valid once stepped => step_valid valid once stepped) fresh orderly ran
  exact
    { delivered := ⟨_, valid.body.content⟩
      head := valid.body.queueOk.head
      chunks := valid.body.chunks
      blocked := valid.awake
      next := fun _ room => valid.body.nextRead room }

/-- A reader that waits first, two chunks, the end, and everything read in small pieces. -/
def waitThenDrain : List Action :=
  [.read 2, .pushData ⟨some 7, [1, 2, 3]⟩, .signal, .resume, .pushData ⟨none, [4]⟩, .read 2,
    .closeData, .read 2, .read 2]

theorem body_lossless_fifo_drained :
    ∃ last, run step (State.opened Stream.zero 1 0 65535) waitThenDrain = some last ∧
      last.body.results = [.data [1, 2], .data [3], .data [4], .eof] ∧ LosslessFifo last := by
  have ran : (run step (State.opened Stream.zero 1 0 65535) waitThenDrain).map
      (fun last => last.body.results) = some [.data [1, 2], .data [3], .data [4], .eof] := by
    decide
  obtain ⟨last, ran, results⟩ := Option.map_eq_some_iff.mp ran
  exact ⟨last, ran, results, body_lossless_fifo Stream.zero 1 0 65535 (by decide) ran⟩

end ReverseHttp.BodyFifo
