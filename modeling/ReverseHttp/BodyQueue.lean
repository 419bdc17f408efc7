import ReverseHttp.Wire
import Mathlib.Algebra.BigOperators.Group.List.Basic

/-!
The pooled `Stream` of internal/h2/stream.go and its body reader. Each method
body runs under `Stream.mu`, so each is one atomic step. `bp` is the address
of a pooled buffer; functions that call `PutDataSlice` return the addresses
they put back. `ctx` is `none` while `Cancel` is nil, otherwise whether the
stream's context has been cancelled.
-/

namespace ReverseHttp.BodyQueue

open Wire

structure DataChunk where
  bp : Option Nat
  data : Bytes
  deriving DecidableEq, Repr

def DataChunk.empty : DataChunk := ⟨none, []⟩

structure BodyReader where
  bp : Option Nat
  buf : Bytes
  deriving DecidableEq, Repr

structure Stream where
  id : StreamID
  conn : Option Nat
  ctx : Option Bool
  dataErr : Option H2Error
  dataDone : Bool
  queue : List DataChunk
  qHead : Nat
  sendWindow : Int32
  body : BodyReader
  deriving DecidableEq

/-- What `streamPool.New` allocates. -/
def Stream.zero : Stream :=
  { id := 0, conn := none, ctx := none, dataErr := none, dataDone := false
    queue := [], qHead := 0, sendWindow := 0, body := ⟨none, []⟩ }

def acquire (s : Stream) (id : StreamID) (conn : Nat) (initialWindow : Int32) : Stream :=
  { s with
    id := id
    conn := some conn
    queue := []
    qHead := 0
    dataDone := false
    dataErr := none
    sendWindow := initialWindow
    ctx := some false
    body := ⟨none, []⟩ }

def returnBuf (r : BodyReader) : BodyReader × List Nat :=
  ({ r with bp := none }, r.bp.toList)

/-- The handles of the queued chunks that have not been read. -/
def queuedHandles (s : Stream) : List Nat :=
  (s.queue.drop s.qHead).flatMap fun chunk => chunk.bp.toList

def release (s : Stream) : Stream × List Nat :=
  let returned := returnBuf s.body
  ({ s with
    ctx := none
    body := returned.1
    queue := []
    qHead := 0
    conn := none
    dataErr := none }, returned.2 ++ queuedHandles s)

def pushData (s : Stream) (chunk : DataChunk) : Stream :=
  { s with queue := s.queue ++ [chunk] }

/-- The tail of `HandleInboundData`: an empty payload is not queued. -/
def receiveData (s : Stream) (bp : Option Nat) (payload : Bytes) : Stream :=
  if payload = [] then s else pushData s ⟨bp, payload⟩

def closeData (s : Stream) : Stream := { s with dataDone := true }

def failBody (s : Stream) (err : H2Error) : Stream :=
  { s with
    dataErr := s.dataErr.or (some err)
    dataDone := true
    ctx := s.ctx.map fun _ => true }

inductive ReadResult where
  | parked
  | data (bytes : Bytes)
  | eof
  | failed (err : H2Error)
  deriving DecidableEq, Repr

/-- Lazy compaction: drop the consumed prefix once it is more than eight
chunks and at least half of the slice. -/
def compact (s : Stream) : Stream :=
  if 8 < s.qHead ∧ s.queue.length ≤ s.qHead * 2 then
    { s with queue := s.queue.drop s.qHead, qHead := 0 }
  else s

/-- Take the chunk at `qHead` out of the queue. -/
def dequeue (s : Stream) : DataChunk × Stream :=
  (s.queue.getD s.qHead DataChunk.empty,
    compact { s with
      queue := s.queue.set s.qHead DataChunk.empty
      qHead := s.qHead + 1 })

/-- `bodyReader.Read` with a destination of `len` bytes. -/
def read (s : Stream) (len : Nat) : ReadResult × Stream × List Nat :=
  if s.body.buf ≠ [] then
    let rest := { s.body with buf := s.body.buf.drop len }
    if rest.buf = [] then
      (.data (s.body.buf.take len), { s with body := (returnBuf rest).1 }, (returnBuf rest).2)
    else (.data (s.body.buf.take len), { s with body := rest }, [])
  else if s.qHead = s.queue.length then
    if s.dataDone then
      match s.dataErr with
      | some err => (.failed err, s, [])
      | none => (.eof, s, [])
    else (.parked, s, [])
  else
    let chunk := (dequeue s).1
    let rest := (dequeue s).2
    let r := { rest.body with bp := chunk.bp }
    if len < chunk.data.length then
      (.data (chunk.data.take len), { rest with body := { r with buf := chunk.data.drop len } }, [])
    else
      (.data (chunk.data.take len), { rest with body := (returnBuf r).1 }, (returnBuf r).2)

/-! The queue read as bytes. -/

structure QueueOk (s : Stream) : Prop where
  head : s.qHead ≤ s.queue.length

/-- The bytes pushed and not yet returned by `read`, in order. -/
def pending (s : Stream) : Bytes :=
  s.body.buf ++ (s.queue.drop s.qHead).flatMap DataChunk.data

@[simp]
theorem pending_acquire (s : Stream) (id : StreamID) (conn : Nat) (window : Int32) :
    pending (acquire s id conn window) = [] := rfl

theorem pending_pushData (s : Stream) (chunk : DataChunk) (ok : QueueOk s) :
    pending (pushData s chunk) = pending s ++ chunk.data := by
  simp [pending, pushData, List.drop_append_of_le_length ok.head]

theorem queueOk_pushData {s : Stream} (chunk : DataChunk) (ok : QueueOk s) :
    QueueOk (pushData s chunk) := by
  have bound := ok.head
  exact ⟨by simp only [pushData, List.length_append, List.length_singleton]; omega⟩

theorem receiveData_spec {s : Stream} (bp : Option Nat) (payload : Bytes) (ok : QueueOk s) :
    QueueOk (receiveData s bp payload) ∧
      pending (receiveData s bp payload) = pending s ++ payload ∧
      (receiveData s bp payload).dataDone = s.dataDone := by
  unfold receiveData
  split
  · rename_i nothing
    exact ⟨ok, by simp [nothing], rfl⟩
  · exact ⟨queueOk_pushData _ ok, pending_pushData _ _ ok, rfl⟩

theorem compact_spec {s : Stream} (ok : QueueOk s) :
    QueueOk (compact s) ∧ pending (compact s) = pending s ∧ (compact s).body = s.body ∧
      (compact s).dataDone = s.dataDone ∧ (compact s).dataErr = s.dataErr := by
  unfold compact
  split
  · exact ⟨⟨Nat.zero_le _⟩, rfl, rfl, rfl, rfl⟩
  · exact ⟨ok, rfl, rfl, rfl, rfl⟩

/-- Taking out the head chunk leaves exactly the later chunks, compacted or not. -/
theorem dequeue_chunks {s : Stream} (inside : s.qHead < s.queue.length) :
    (dequeue s).1 :: (dequeue s).2.queue.drop (dequeue s).2.qHead = s.queue.drop s.qHead := by
  have head : (dequeue s).1 = s.queue[s.qHead] := by
    simp [dequeue, List.getElem?_eq_getElem inside]
  have rest : (dequeue s).2.queue.drop (dequeue s).2.qHead = s.queue.drop (s.qHead + 1) := by
    unfold dequeue compact
    split
    · simp [List.drop_set_of_lt]
    · simp [List.drop_set_of_lt]
  rw [head, rest, ← List.drop_eq_getElem_cons inside]

theorem dequeue_spec {s : Stream} (ok : QueueOk s) (present : s.qHead ≠ s.queue.length) :
    QueueOk (dequeue s).2 ∧
      (dequeue s).1.data ++ ((dequeue s).2.queue.drop (dequeue s).2.qHead).flatMap DataChunk.data =
        (s.queue.drop s.qHead).flatMap DataChunk.data ∧
      (dequeue s).2.body = s.body ∧ (dequeue s).2.dataDone = s.dataDone ∧
      (dequeue s).2.dataErr = s.dataErr := by
  have inside : s.qHead < s.queue.length := lt_of_le_of_ne ok.head present
  have moved : QueueOk { s with
      queue := s.queue.set s.qHead DataChunk.empty, qHead := s.qHead + 1 } :=
    ⟨by simpa using Nat.succ_le_of_lt inside⟩
  obtain ⟨queueOk, -, body, done, err⟩ := compact_spec moved
  refine ⟨queueOk, ?_, body, done, err⟩
  rw [← dequeue_chunks inside, List.flatMap_cons]

/-- What a `Read` that finds nothing reports. -/
def endResult (s : Stream) : ReadResult :=
  if s.dataDone then
    match s.dataErr with
    | some err => .failed err
    | none => .eof
  else .parked

theorem endResult_ne_data (s : Stream) (bytes : Bytes) : endResult s ≠ .data bytes := by
  unfold endResult
  split
  · split <;> simp
  · simp

/-- Everything one `Read` can do: serve what is left of the chunk taken last, serve the
next chunk, or find nothing. -/
theorem read_cases {s after : Stream} {len : Nat} {result : ReadResult} {returned : List Nat}
    (ok : QueueOk s) (done : read s len = (result, after, returned)) :
    (s.body.buf ≠ [] ∧ result = .data (s.body.buf.take len) ∧
      ∃ bp, after = { s with body := ⟨bp, s.body.buf.drop len⟩ }) ∨
    (s.body.buf = [] ∧ s.qHead < s.queue.length ∧
      result = .data ((dequeue s).1.data.take len) ∧
      ∃ bp, after = { (dequeue s).2 with body := ⟨bp, (dequeue s).1.data.drop len⟩ }) ∨
    (s.body.buf = [] ∧ s.qHead = s.queue.length ∧ result = endResult s ∧ after = s) := by
  unfold read at done
  by_cases leftover : s.body.buf = []
  case neg =>
    rw [if_pos leftover] at done
    refine .inl ⟨leftover, ?_⟩
    by_cases last : s.body.buf.drop len = []
    · simp only [last, ↓reduceIte, Prod.mk.injEq] at done
      obtain ⟨rfl, rfl, -⟩ := done
      exact ⟨rfl, none, by simp [returnBuf, last]⟩
    · simp only [last, ↓reduceIte, Prod.mk.injEq] at done
      obtain ⟨rfl, rfl, -⟩ := done
      exact ⟨rfl, s.body.bp, rfl⟩
  rw [if_neg (by simpa using leftover)] at done
  by_cases drained : s.qHead = s.queue.length
  · rw [if_pos drained] at done
    refine .inr (.inr ⟨leftover, drained, ?_⟩)
    unfold endResult
    by_cases ended : s.dataDone = true
    · rw [if_pos ended] at done ⊢
      cases failure : s.dataErr with
      | none =>
          simp only [failure, Prod.mk.injEq] at done
          exact ⟨done.1.symm, done.2.1.symm⟩
      | some err =>
          simp only [failure, Prod.mk.injEq] at done
          exact ⟨done.1.symm, done.2.1.symm⟩
    · rw [if_neg ended] at done ⊢
      simp only [Prod.mk.injEq] at done
      exact ⟨done.1.symm, done.2.1.symm⟩
  · have sameBody := (dequeue_spec ok drained).2.2.1
    rw [if_neg drained] at done
    refine .inr (.inl ⟨leftover, lt_of_le_of_ne ok.head drained, ?_⟩)
    by_cases partly : len < (dequeue s).1.data.length
    · simp only [partly, ↓reduceIte, Prod.mk.injEq] at done
      obtain ⟨rfl, rfl, -⟩ := done
      exact ⟨rfl, (dequeue s).1.bp, rfl⟩
    · simp only [partly, ↓reduceIte, Prod.mk.injEq] at done
      obtain ⟨rfl, rfl, -⟩ := done
      refine ⟨rfl, none, ?_⟩
      simp [returnBuf, sameBody, leftover, List.drop_of_length_le (Nat.le_of_not_lt partly)]

/-- What a result says about the bytes before and after the call. -/
def ReadOutcome (s after : Stream) : ReadResult → Prop
  | .data bytes => pending s = bytes ++ pending after
  | .parked => pending s = [] ∧ after = s ∧ s.dataDone = false
  | .eof => pending s = [] ∧ after = s ∧ s.dataDone = true ∧ s.dataErr = none
  | .failed err => pending s = [] ∧ after = s ∧ s.dataDone = true ∧ s.dataErr = some err

/-- By bytes: a `Read` hands out a prefix of the pending bytes, or reports that nothing
is pending. -/
theorem read_spec {s after : Stream} {len : Nat} {result : ReadResult} {returned : List Nat}
    (ok : QueueOk s) (done : read s len = (result, after, returned)) :
    QueueOk after ∧ after.dataDone = s.dataDone ∧ after.dataErr = s.dataErr ∧
      ReadOutcome s after result := by
  rcases read_cases ok done with
    ⟨-, rfl, bp, rfl⟩ | ⟨leftover, inside, rfl, bp, rfl⟩ | ⟨leftover, drained, rfl, rfl⟩
  · refine ⟨⟨ok.head⟩, rfl, rfl, ?_⟩
    simp only [ReadOutcome, pending, ← List.append_assoc, List.take_append_drop]
  · obtain ⟨queueOk, split, -, sameDone, sameErr⟩ := dequeue_spec ok (Nat.ne_of_lt inside)
    refine ⟨⟨queueOk.head⟩, sameDone, sameErr, ?_⟩
    simp only [ReadOutcome, pending, leftover, List.nil_append, ← split, ← List.append_assoc,
      List.take_append_drop]
  · refine ⟨ok, rfl, rfl, ?_⟩
    have nothing : pending after = [] := by simp [pending, leftover, drained]
    unfold endResult
    by_cases ended : after.dataDone = true
    · rw [if_pos ended]
      cases failure : after.dataErr with
      | none => exact ⟨nothing, rfl, ended, failure⟩
      | some err => exact ⟨nothing, rfl, ended, failure⟩
    · rw [if_neg ended]
      exact ⟨nothing, rfl, by simpa using ended⟩

/-- By chunks: what a `Read` hands out is what is left of the chunk taken last, or the
front of the next one. -/
theorem read_chunks {s after : Stream} {len : Nat} {bytes : Bytes} {returned : List Nat}
    (ok : QueueOk s) (done : read s len = (.data bytes, after, returned)) :
    ∃ taken, taken ++ after.queue.drop after.qHead = s.queue.drop s.qHead ∧
      s.body.buf ++ taken.flatMap DataChunk.data = bytes ++ after.body.buf := by
  rcases read_cases ok done with
    ⟨-, handed, bp, rfl⟩ | ⟨leftover, inside, handed, bp, rfl⟩ | ⟨-, -, handed, -⟩
  · cases handed
    exact ⟨[], rfl, by simp⟩
  · cases handed
    exact ⟨[(dequeue s).1], dequeue_chunks inside, by simp [leftover]⟩
  · exact absurd handed.symm (endResult_ne_data s bytes)

/-- Work left for a reader: the leftover bytes, and each queued chunk with one
extra unit for taking it out. -/
def remaining (s : Stream) : Nat :=
  s.body.buf.length + ((s.queue.drop s.qHead).map fun chunk => chunk.data.length + 1).sum

theorem remaining_compact (s : Stream) : remaining (compact s) = remaining s := by
  unfold compact
  split
  · simp [remaining]
  · rfl

theorem remaining_dequeue {s : Stream} (ok : QueueOk s) (present : s.qHead ≠ s.queue.length) :
    remaining (dequeue s).2 + (dequeue s).1.data.length + 1 = remaining s := by
  have inside : s.qHead < s.queue.length := lt_of_le_of_ne ok.head present
  have head : (dequeue s).1 = s.queue[s.qHead] := by
    simp [dequeue, List.getElem?_eq_getElem inside]
  have rest : remaining (dequeue s).2 = s.body.buf.length +
      ((s.queue.drop (s.qHead + 1)).map fun chunk => chunk.data.length + 1).sum := by
    simp only [dequeue, remaining_compact]
    simp [remaining, List.drop_set_of_lt]
  have split : remaining s = s.body.buf.length + (s.queue[s.qHead].data.length + 1 +
      ((s.queue.drop (s.qHead + 1)).map fun chunk => chunk.data.length + 1).sum) := by
    rw [remaining, List.drop_eq_getElem_cons inside, List.map_cons, List.sum_cons]
  rw [head, rest, split]
  omega

/-- A read with room in its destination makes progress whenever it returns
data, so a finished body is drained after finitely many reads. -/
theorem read_progress {s after : Stream} {len : Nat} {bytes : Bytes} {returned : List Nat}
    (ok : QueueOk s) (room : 0 < len) (done : read s len = (.data bytes, after, returned)) :
    remaining after < remaining s := by
  rcases read_cases ok done with
    ⟨leftover, -, bp, rfl⟩ | ⟨leftover, inside, -, bp, rfl⟩ | ⟨-, -, handed, -⟩
  · have size : 0 < s.body.buf.length := List.length_pos_iff.mpr leftover
    simp only [remaining, List.length_drop]
    omega
  · have work := remaining_dequeue ok (Nat.ne_of_lt inside)
    have noBuf : (dequeue s).2.body.buf = [] := by
      rw [(dequeue_spec ok (Nat.ne_of_lt inside)).2.2.1, leftover]
    simp only [remaining, noBuf, List.length_nil, Nat.zero_add] at work
    simp only [remaining, List.length_drop]
    omega
  · exact absurd handed.symm (endResult_ne_data s bytes)

end ReverseHttp.BodyQueue
