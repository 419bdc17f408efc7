import ReverseHttp.Transition
import ReverseHttp.Custody
import ReverseHttp.Wire
import Mathlib.Algebra.BigOperators.Group.List.Basic

/-!
Pooled body buffers (internal/h2/stream.go, internal/h2/pools.go) down to memory.
A pool handle is a `*[]byte`: it names an array that `GetDataSlice` may replace
by a larger one. Chunks and the reader's leftover are slices into such arrays, so
what a `Read` copies depends on who has written there since. Stream objects come
from a pool of their own and are used again.

`dropped`, `payloads`, `draws`, `returns` and `log` are ghost: whether a partly
read chunk was given up by `Close` or `Release`, what was pushed on the object
since `Acquire`, how often each buffer left and entered the pool, and what each
`Read` copied.
-/

namespace ReverseHttp.BufferPool

open Transition Wire Custody

structure Slice where
  array : Nat
  offset : Nat
  length : Nat
  deriving DecidableEq

def Slice.nothing : Slice := ⟨0, 0, 0⟩

def Slice.bytes (memory : Nat → Bytes) (s : Slice) : Bytes :=
  ((memory s.array).drop s.offset).take s.length

/-- `s[n:]`. -/
def Slice.advance (s : Slice) (n : Nat) : Slice :=
  { s with offset := s.offset + n, length := s.length - n }

structure DataChunk where
  bp : Option Nat
  data : Slice
  deriving DecidableEq

def DataChunk.empty : DataChunk := ⟨none, .nothing⟩

structure BodyReader where
  bp : Option Nat
  buf : Slice
  deriving DecidableEq

def BodyReader.new : BodyReader := ⟨none, .nothing⟩

structure Stream where
  dataErr : Option H2Error
  dataDone : Bool
  queue : List DataChunk
  qHead : Nat
  body : BodyReader
  deriving DecidableEq

/-- What `streamPool.New` allocates. -/
def Stream.zero : Stream := ⟨none, false, [], 0, .new⟩

def acquire (s : Stream) : Stream :=
  { s with queue := [], qHead := 0, dataDone := false, dataErr := none, body := .new }

def returnBuf (r : BodyReader) : BodyReader × List Nat := ({ r with bp := none }, r.bp.toList)

def queuedHandles (s : Stream) : List Nat :=
  (s.queue.drop s.qHead).flatMap fun chunk => chunk.bp.toList

def release (s : Stream) : Stream × List Nat :=
  let returned := returnBuf s.body
  ({ s with body := returned.1, queue := [], qHead := 0, dataErr := none },
    returned.2 ++ queuedHandles s)

def closeBody (s : Stream) : Stream × List Nat :=
  let returned := returnBuf s.body
  ({ s with body := returned.1, queue := [], qHead := 0 }, returned.2 ++ queuedHandles s)

def pushData (s : Stream) (chunk : DataChunk) : Stream := { s with queue := s.queue ++ [chunk] }

def closeData (s : Stream) : Stream := { s with dataDone := true }

def failBody (s : Stream) (err : H2Error) : Stream :=
  { s with dataErr := s.dataErr.or (some err), dataDone := true }

/-- `data source bp`: what was copied, and the handle the reader had at that moment. -/
inductive ReadResult where
  | parked
  | data (source : Slice) (bp : Option Nat)
  | eof
  | failed (err : H2Error)
  deriving DecidableEq

def compact (s : Stream) : Stream :=
  if 8 < s.qHead ∧ s.queue.length ≤ s.qHead * 2 then
    { s with queue := s.queue.drop s.qHead, qHead := 0 }
  else s

def dequeue (s : Stream) : DataChunk × Stream :=
  (s.queue.getD s.qHead DataChunk.empty,
    compact { s with queue := s.queue.set s.qHead DataChunk.empty, qHead := s.qHead + 1 })

/-- `bodyReader.Read` with a destination of `len` bytes. -/
def read (s : Stream) (len : Nat) : ReadResult × Stream × List Nat :=
  if 0 < s.body.buf.length then
    let n := min len s.body.buf.length
    let source : Slice := { s.body.buf with length := n }
    let rest : BodyReader := { s.body with buf := s.body.buf.advance n }
    if rest.buf.length = 0 then
      (.data source s.body.bp, { s with body := (returnBuf rest).1 }, (returnBuf rest).2)
    else (.data source s.body.bp, { s with body := rest }, [])
  else if s.qHead = s.queue.length then
    if s.dataDone then
      match s.dataErr with
      | some err => (.failed err, s, [])
      | none => (.eof, s, [])
    else (.parked, s, [])
  else
    let chunk := (dequeue s).1
    let rest := (dequeue s).2
    let r : BodyReader := { rest.body with bp := chunk.bp }
    let n := min len chunk.data.length
    let source : Slice := { chunk.data with length := n }
    if n < chunk.data.length then
      (.data source r.bp, { rest with body := { r with buf := chunk.data.advance n } }, [])
    else (.data source r.bp, { rest with body := (returnBuf r).1 }, (returnBuf r).2)

structure Buffer where
  array : Nat
  cap : Nat
  deriving DecidableEq

structure Object where
  stream : Stream
  held : Bool
  dropped : Bool
  payloads : List Bytes
  deriving DecidableEq

/-- One copying `Read`: the bytes, what had been pushed on that object, and
whether the reader held the buffer it copied from. -/
structure Event where
  bytes : Bytes
  payloads : List Bytes
  current : Bool
  deriving DecidableEq

structure State where
  memory : Nat → Bytes
  arrays : Nat
  buffers : Nat → Buffer
  handles : Nat
  pool : List Nat
  objects : Nat → Object
  draws : Nat → Nat
  returns : Nat → Nat
  log : List Event

def State.new : State :=
  { memory := fun _ => []
    arrays := 0
    buffers := fun _ => ⟨0, 0⟩
    handles := 0
    pool := []
    objects := fun _ => ⟨.zero, false, false, []⟩
    draws := fun _ => 0
    returns := fun _ => 0
    log := [] }

def zeroed (n : Nat) : Bytes := List.replicate n 0

/-- `*bp = make([]byte, n)`. -/
def State.make (st : State) (handle n : Nat) : State :=
  { st with
    memory := Function.update st.memory st.arrays (zeroed n)
    arrays := st.arrays + 1
    buffers := Function.update st.buffers handle ⟨st.arrays, n⟩ }

def State.countDraw (st : State) (handle : Nat) : State :=
  { st with draws := Function.update st.draws handle (st.draws handle + 1) }

/-- `dataPool.Get`: a pooled handle, or what `New` makes. -/
def State.draw (st : State) : Option Nat → Option (Nat × State)
  | some handle =>
      if handle ∈ st.pool then
        some (handle, { st.countDraw handle with pool := st.pool.erase handle })
      else none
  | none =>
      some (st.handles,
        { (st.make st.handles 16384).countDraw st.handles with handles := st.handles + 1 })

/-- The test of `GetDataSlice` for a buffer that is too small. -/
def State.ensure (st : State) (handle n : Nat) : State :=
  if (st.buffers handle).cap < n then st.make handle n else st

/-- `copy(buf, data)`. -/
def State.fill (st : State) (handle : Nat) (payload : Bytes) : State :=
  let array := (st.buffers handle).array
  { st with
    memory := Function.update st.memory array
      (payload ++ (st.memory array).drop payload.length) }

def State.put (st : State) (i : Nat) (o : Object) : State :=
  { st with objects := Function.update st.objects i o }

/-- `PutDataSlice` on each handle. -/
def State.putDataSlices (st : State) (handles : List Nat) : State :=
  { st with
    pool := st.pool ++ handles
    returns := fun handle => st.returns handle + handles.count handle }

def State.record (st : State) (event : Event) : State := { st with log := st.log ++ [event] }

/-- Whether `bp` is the handle of the array the slice points into. -/
def State.backs (st : State) (bp : Option Nat) (source : Slice) : Bool :=
  bp.map (fun handle => (st.buffers handle).array) == some source.array

inductive Action where
  | acquire (i : Nat)
  | push (i : Nat) (drawn : Option Nat) (payload : Bytes)
  | closeData (i : Nat)
  | failBody (i : Nat) (err : H2Error)
  | read (i : Nat) (len : Nat)
  | close (i : Nat)
  | release (i : Nat)
  deriving DecidableEq

/-- `Close` or `Release` on a body with a partly read chunk. -/
def Object.drops (o : Object) : Bool := o.dropped || decide (0 < o.stream.body.buf.length)

/-- A `Read` that would wait is not enabled. -/
def step (st : State) : Action → Option State
  | .acquire i =>
      let o := st.objects i
      if o.held = false then some (st.put i ⟨acquire o.stream, true, false, []⟩) else none
  | .push i drawn payload =>
      (st.draw drawn).map fun (handle, st) =>
        let st := (st.ensure handle payload.length).fill handle payload
        let o := st.objects i
        st.put i { o with
          stream := pushData o.stream
            ⟨some handle, ⟨(st.buffers handle).array, 0, payload.length⟩⟩
          payloads := o.payloads ++ [payload] }
  | .closeData i =>
      let o := st.objects i
      some (st.put i { o with stream := closeData o.stream })
  | .failBody i err =>
      let o := st.objects i
      some (st.put i { o with stream := failBody o.stream err })
  | .read i len =>
      let o := st.objects i
      match read o.stream len with
      | (.parked, _) => none
      | (.data source bp, stream, back) =>
          let event : Event := ⟨source.bytes st.memory, o.payloads, st.backs bp source⟩
          some (((st.record event).put i { o with stream := stream }).putDataSlices back)
      | (_, stream, back) => some ((st.put i { o with stream := stream }).putDataSlices back)
  | .close i =>
      let o := st.objects i
      some ((st.put i { o with
        stream := (closeBody o.stream).1
        dropped := o.drops }).putDataSlices (closeBody o.stream).2)
  | .release i =>
      let o := st.objects i
      if o.held = true then
        some ((st.put i { o with
          stream := (release o.stream).1
          held := false
          dropped := o.drops }).putDataSlices (release o.stream).2)
      else none

/-- A body is not read after `Close` or `Release` gave up a partly read chunk of
it, and nothing is pushed on an object that is in the stream pool. -/
def Orderly (st : State) : Action → Prop
  | .read i _ => (st.objects i).dropped = false
  | .push i _ _ => (st.objects i).held = true
  | .acquire _ | .closeData _ | .failBody _ _ | .close _ | .release _ => True

instance (st : State) (action : Action) : Decidable (Orderly st action) := by
  unfold Orderly
  split <;> infer_instance

/-! Slices. -/

def Slice.Fits (memory : Nat → Bytes) (s : Slice) : Prop :=
  s.offset + s.length ≤ (memory s.array).length

theorem Slice.advance_bytes (memory : Nat → Bytes) (s : Slice) (n : Nat) :
    (s.advance n).bytes memory = (s.bytes memory).drop n := by
  simp only [Slice.advance, Slice.bytes, List.drop_take, List.drop_drop]

theorem Slice.front_bytes (memory : Nat → Bytes) (s : Slice) {n : Nat} (within : n ≤ s.length) :
    Slice.bytes memory { s with length := n } = (s.bytes memory).take n := by
  simp only [Slice.bytes, List.take_take, Nat.min_eq_left within]

theorem Slice.advance_fits {memory : Nat → Bytes} {s : Slice} {n : Nat} (fits : s.Fits memory)
    (within : n ≤ s.length) : (s.advance n).Fits memory := by
  simp only [Slice.Fits, Slice.advance] at fits ⊢
  omega

/-! What one object may hold. -/

def unread (s : Stream) : List DataChunk := s.queue.drop s.qHead

/-- The handles in an object's hands: the current chunk's, then the queued ones. -/
def handlesOf (s : Stream) : List Nat := s.body.bp.toList ++ queuedHandles s

/-- `bytes` of a payload that was pushed on this object, in the buffer of `bp`. -/
structure Backed (memory : Nat → Bytes) (buffers : Nat → Buffer) (bp : Option Nat) (s : Slice) :
    Prop where
  handle : ∃ handle, bp = some handle ∧ s.array = (buffers handle).array
  fits : s.Fits memory

structure ObjectOk (memory : Nat → Bytes) (buffers : Nat → Buffer) (o : Object) : Prop where
  head : o.stream.qHead ≤ o.stream.queue.length
  queued : ∀ chunk ∈ unread o.stream, Backed memory buffers chunk.bp chunk.data ∧
    chunk.data.bytes memory ∈ o.payloads
  done : o.dropped = false → o.stream.body.buf.length = 0 → o.stream.body.bp = none
  leftover : o.dropped = false → 0 < o.stream.body.buf.length →
    Backed memory buffers o.stream.body.bp o.stream.body.buf ∧
      ∃ payload ∈ o.payloads, o.stream.body.buf.bytes memory <:+ payload
  gone : o.dropped = true → o.stream.body.bp = none
  idle : o.held = false → handlesOf o.stream = []

theorem objectOk_fresh (memory : Nat → Bytes) (buffers : Nat → Buffer) (held : Bool) (s : Stream) :
    ObjectOk memory buffers ⟨acquire s, held, false, []⟩ := by
  constructor
  · exact Nat.zero_le _
  · simp [unread, acquire]
  · exact fun _ _ => rfl
  · simp [acquire, BodyReader.new, Slice.nothing]
  · exact fun _ => rfl
  · exact fun _ => rfl

theorem Backed.congr {memory next : Nat → Bytes} {buffers table : Nat → Buffer} {bp : Option Nat}
    {s : Slice} (backed : Backed memory buffers bp s)
    (same : ∀ handle ∈ bp.toList, table handle = buffers handle ∧
      next (buffers handle).array = memory (buffers handle).array) :
    Backed next table bp s ∧ s.bytes next = s.bytes memory := by
  obtain ⟨⟨handle, rfl, array⟩, fits⟩ := backed
  obtain ⟨buffer, cells⟩ := same handle (by simp)
  refine ⟨⟨⟨handle, rfl, by rw [array, buffer]⟩, ?_⟩, ?_⟩
  · rw [Slice.Fits, array, cells, ← array]
    exact fits
  · rw [Slice.bytes, array, cells, ← array]
    rfl

/-- Writing to arrays of other handles changes nothing for an object. -/
theorem ObjectOk.congr {memory next : Nat → Bytes} {buffers table : Nat → Buffer} {o : Object}
    (ok : ObjectOk memory buffers o)
    (same : ∀ handle ∈ handlesOf o.stream, table handle = buffers handle ∧
      next (buffers handle).array = memory (buffers handle).array) :
    ObjectOk next table o := by
  constructor
  · exact ok.head
  · intro chunk member
    obtain ⟨backed, pushed⟩ := ok.queued chunk member
    obtain ⟨kept, bytes⟩ := backed.congr fun handle named => same handle
      (List.mem_append_right _ (List.mem_flatMap.mpr ⟨chunk, member, named⟩))
    exact ⟨kept, bytes ▸ pushed⟩
  · exact ok.done
  · intro undropped left
    obtain ⟨backed, payload, pushed, rest⟩ := ok.leftover undropped left
    obtain ⟨kept, bytes⟩ := backed.congr fun handle named => same handle
      (List.mem_append_left _ named)
    exact ⟨kept, payload, pushed, bytes ▸ rest⟩
  · exact ok.gone
  · exact ok.idle

theorem unread_compact (s : Stream) : unread (compact s) = unread s := by
  unfold compact
  split
  · simp [unread]
  · rfl

theorem compact_head {s : Stream} (head : s.qHead ≤ s.queue.length) :
    (compact s).qHead ≤ (compact s).queue.length := by
  unfold compact
  split
  · exact Nat.zero_le _
  · exact head

theorem compact_body (s : Stream) : (compact s).body = s.body := by
  unfold compact
  split <;> rfl

/-- Taking out the head chunk. -/
theorem dequeue_unread {s : Stream} (head : s.qHead ≤ s.queue.length)
    (present : s.qHead ≠ s.queue.length) :
    unread s = (dequeue s).1 :: unread (dequeue s).2 ∧
      (dequeue s).2.qHead ≤ (dequeue s).2.queue.length ∧ (dequeue s).2.body = s.body := by
  have inside : s.qHead < s.queue.length := lt_of_le_of_ne head present
  refine ⟨?_, ?_, compact_body _⟩
  · have first : (dequeue s).1 = s.queue[s.qHead] := by
      simp [dequeue, List.getElem?_eq_getElem inside]
    have rest : unread (dequeue s).2 = s.queue.drop (s.qHead + 1) := by
      simp only [dequeue, unread_compact]
      simp [unread, List.drop_set_of_lt]
    rw [first, rest]
    exact List.drop_eq_getElem_cons inside
  · apply compact_head
    simpa using Nat.succ_le_of_lt inside

theorem queuedHandles_eq (s : Stream) :
    queuedHandles s = (unread s).flatMap fun chunk => chunk.bp.toList := rfl

/-- What one `Read` of a body that was not given up does with the handles and
what it copies. -/
structure ReadOk (memory : Nat → Bytes) (buffers : Nat → Buffer) (o : Object)
    (result : ReadResult) (stream : Stream) (back : List Nat) : Prop where
  handles : (handlesOf o.stream).Perm (back ++ handlesOf stream)
  object : ObjectOk memory buffers { o with stream := stream }
  copied : ∀ source bp, result = .data source bp →
    (∃ handle, bp = some handle ∧ source.array = (buffers handle).array) ∧
      ∃ payload ∈ o.payloads, source.bytes memory <:+: payload

section Read

variable {memory : Nat → Bytes} {buffers : Nat → Buffer} {o : Object}

/-- The leftover of the last chunk is served first. -/
theorem read_leftover (ok : ObjectOk memory buffers o) (undropped : o.dropped = false)
    (left : 0 < o.stream.body.buf.length) (len : Nat) :
    ReadOk memory buffers o (read o.stream len).1 (read o.stream len).2.1
      (read o.stream len).2.2 := by
  obtain ⟨backed, payload, pushed, rest⟩ := ok.leftover undropped left
  obtain ⟨handle, named, array⟩ := backed.handle
  have holding : o.held = true := by
    by_contra idle
    have empty := ok.idle (by simpa using idle)
    simp [handlesOf, named] at empty
  have within : min len o.stream.body.buf.length ≤ o.stream.body.buf.length := Nat.min_le_right _ _
  have copied : ∀ source bp, ReadResult.data { o.stream.body.buf with
      length := min len o.stream.body.buf.length } o.stream.body.bp = .data source bp →
      (∃ handle, bp = some handle ∧ source.array = (buffers handle).array) ∧
        ∃ payload ∈ o.payloads, source.bytes memory <:+: payload := by
    rintro source bp ⟨⟩
    refine ⟨⟨handle, named, array⟩, payload, pushed, ?_⟩
    rw [Slice.front_bytes memory _ within]
    exact (List.take_prefix _ _).isInfix.trans rest.isInfix
  simp only [read, if_pos left]
  split
  · rename_i last
    refine ⟨?_, ?_, copied⟩
    · simp [handlesOf, returnBuf, queuedHandles]
    · refine ⟨ok.head, ok.queued, fun _ _ => rfl, ?_, fun _ => rfl, ?_⟩
      · intro _ more
        exact absurd last (Nat.ne_of_gt more)
      · exact fun idle => absurd idle (by simp [holding])
  · rename_i more
    refine ⟨List.Perm.refl _, ?_, copied⟩
    refine ⟨ok.head, ok.queued, fun _ last => absurd last more, ?_, ?_, ?_⟩
    · intro _ _
      refine ⟨⟨⟨handle, named, array⟩, Slice.advance_fits backed.fits within⟩, payload, pushed, ?_⟩
      simp only [Slice.advance_bytes]
      exact (List.drop_suffix _ _).trans rest
    · exact fun dropped => absurd dropped (by simp [undropped])
    · exact fun idle => absurd idle (by simp [holding])

/-- A chunk leaves the queue: its buffer stays with the reader or goes back. -/
theorem read_chunk (ok : ObjectOk memory buffers o) (undropped : o.dropped = false)
    (spent : o.stream.body.buf.length = 0) (present : o.stream.qHead ≠ o.stream.queue.length)
    (len : Nat) :
    ReadOk memory buffers o (read o.stream len).1 (read o.stream len).2.1
      (read o.stream len).2.2 := by
  obtain ⟨split, head, body⟩ := dequeue_unread ok.head present
  have first := ok.queued (dequeue o.stream).1 (by simp [split])
  have later : ∀ chunk ∈ unread (dequeue o.stream).2,
      Backed memory buffers chunk.bp chunk.data ∧ chunk.data.bytes memory ∈ o.payloads :=
    fun chunk member => ok.queued chunk (by simp [split, member])
  obtain ⟨⟨⟨handle, named, array⟩, fits⟩, pushed⟩ := first
  have emptied := ok.done undropped spent
  have before : handlesOf o.stream = handle :: queuedHandles (dequeue o.stream).2 := by
    simp [handlesOf, emptied, queuedHandles_eq, split, named]
  have holding : o.held = true := by
    by_contra idle
    have empty := ok.idle (by simpa using idle)
    simp [before] at empty
  generalize chunkEq : (dequeue o.stream).1 = chunk at *
  generalize restEq : (dequeue o.stream).2 = rest at *
  have within : min len chunk.data.length ≤ chunk.data.length := Nat.min_le_right _ _
  have copied : ∀ source bp, ReadResult.data { chunk.data with
      length := min len chunk.data.length } chunk.bp = .data source bp →
      (∃ handle, bp = some handle ∧ source.array = (buffers handle).array) ∧
        ∃ payload ∈ o.payloads, source.bytes memory <:+: payload := by
    rintro source bp ⟨⟩
    refine ⟨⟨handle, named, array⟩, _, pushed, ?_⟩
    rw [Slice.front_bytes memory _ within]
    exact (List.take_prefix _ _).isInfix
  have noBuf : ¬ 0 < o.stream.body.buf.length := by omega
  simp only [read, if_neg noBuf, if_neg present, chunkEq, restEq]
  split
  · rename_i partly
    refine ⟨?_, ?_, copied⟩
    · rw [before]
      simp [handlesOf, named, queuedHandles]
    · refine ⟨head, later, ?_, ?_, ?_, ?_⟩
      · intro _ last
        simp only [Slice.advance] at last
        omega
      · intro _ _
        refine ⟨⟨⟨handle, named, array⟩, Slice.advance_fits fits within⟩, _, pushed, ?_⟩
        simp only [Slice.advance_bytes]
        exact List.drop_suffix _ _
      · exact fun dropped => absurd dropped (by simp [undropped])
      · exact fun idle => absurd idle (by simp [holding])
  · refine ⟨?_, ?_, copied⟩
    · rw [before]
      simp [handlesOf, returnBuf, named, queuedHandles]
    · refine ⟨head, later, fun _ _ => rfl, ?_, fun _ => rfl, ?_⟩
      · intro _ more
        simp only [returnBuf, body] at more
        omega
      · exact fun idle => absurd idle (by simp [holding])

theorem read_ok (ok : ObjectOk memory buffers o) (undropped : o.dropped = false) (len : Nat) :
    ReadOk memory buffers o (read o.stream len).1 (read o.stream len).2.1
      (read o.stream len).2.2 := by
  by_cases left : 0 < o.stream.body.buf.length
  · exact read_leftover ok undropped left len
  by_cases present : o.stream.qHead = o.stream.queue.length
  · -- nothing to copy
    have same : ReadOk memory buffers o .eof o.stream [] :=
      ⟨List.Perm.refl _, ok, fun _ _ data => absurd data (by simp)⟩
    simp only [read, if_neg left, if_pos present]
    split
    · split
      · exact ⟨same.handles, same.object, fun _ _ data => absurd data (by simp)⟩
      · exact same
    · exact ⟨same.handles, same.object, fun _ _ data => absurd data (by simp)⟩
  · exact read_chunk ok undropped (by omega) present len

end Read

/-! The whole system. -/

def State.held (st : State) (i : Nat) : List Nat := handlesOf (st.objects i).stream

/-- The reader held the buffer, and the bytes had been pushed on its own object. -/
def Event.Ok (event : Event) : Prop :=
  event.current = true ∧ ∃ payload ∈ event.payloads, event.bytes <:+: payload

/-- The buffers of the selected handles are laid out apart, and every object's
slices lie in buffers it holds. -/
structure Laid (st : State) (selected : Nat → Prop) : Prop where
  objects : ∀ i, ObjectOk st.memory st.buffers (st.objects i)
  arrays : ∀ handle, selected handle → (st.buffers handle).array < st.arrays
  distinct : ∀ handle other, selected handle → selected other →
    (st.buffers handle).array = (st.buffers other).array → handle = other
  room : ∀ handle, selected handle →
    (st.buffers handle).cap ≤ (st.memory (st.buffers handle).array).length

/-- Each buffer has been returned once for each time it was drawn, but for the
draw that is still out. -/
structure Counted (st : State) : Prop where
  counts : ∀ handle < st.handles,
    st.draws handle = st.returns handle + if handle ∈ st.pool then 0 else 1
  unborn : ∀ handle, st.handles ≤ handle → st.draws handle = 0 ∧ st.returns handle = 0

structure Valid (st : State) : Prop where
  owned : Owned (· < st.handles) st.pool st.held
  laid : Laid st (· < st.handles)
  counted : Counted st
  log : ∀ event ∈ st.log, event.Ok

theorem valid_new : Valid State.new := by
  refine ⟨owned_new.congr (by simp [State.new]), ?_, ?_, by simp [State.new]⟩
  · refine ⟨fun _ => objectOk_fresh _ _ false Stream.zero, ?_, ?_, ?_⟩ <;> simp [State.new]
  · exact ⟨by simp [State.new], fun _ _ => ⟨rfl, rfl⟩⟩

theorem held_put (st : State) (i : Nat) (o : Object) :
    (st.put i o).held = Function.update st.held i (handlesOf o.stream) := by
  funext j
  by_cases same : j = i
  · subst same
    simp [State.held, State.put]
  · simp [State.held, State.put, same]

theorem record_valid {st : State} (valid : Valid st) {event : Event} (ok : event.Ok) :
    Valid (st.record event) := by
  obtain ⟨owned, laid, counted, log⟩ := valid
  refine ⟨owned, ⟨laid.objects, laid.arrays, laid.distinct, laid.room⟩,
    ⟨counted.counts, counted.unborn⟩, ?_⟩
  intro other member
  rcases List.mem_append.mp member with old | new
  · exact log other old
  · rw [List.mem_singleton.mp new]
    exact ok

theorem put_laid {st : State} {selected : Nat → Prop} (laid : Laid st selected) (i : Nat) {o : Object}
    (ok : ObjectOk st.memory st.buffers o) : Laid (st.put i o) selected := by
  refine ⟨?_, laid.arrays, laid.distinct, laid.room⟩
  exact (Function.forall_update_iff st.objects fun _ o => ObjectOk st.memory st.buffers o).mpr
    ⟨ok, fun j _ => laid.objects j⟩

/-- An object changes and gives some of its handles back. -/
theorem settle_valid {st : State} (valid : Valid st) {i : Nat} {o : Object} {back : List Nat}
    (split : (st.held i).Perm (back ++ handlesOf o.stream))
    (ok : ObjectOk st.memory st.buffers o) : Valid ((st.put i o).putDataSlices back) := by
  obtain ⟨owned, laid, counted, log⟩ := valid
  have unique := split.nodup_iff.mp (owned.single i)
  have backOnce : back.Nodup := (List.nodup_append.mp unique).1
  have inHeld : ∀ handle ∈ back, handle ∈ st.held i := by
    intro handle member
    exact split.mem_iff.mpr (List.mem_append_left _ member)
  have placed := put_laid laid i ok
  refine ⟨?_, ⟨placed.objects, placed.arrays, placed.distinct, placed.room⟩, ⟨?_, ?_⟩, log⟩
  · have given := owned.giveBack split
    rwa [← held_put] at given
  · intro handle known
    have before := counted.counts handle known
    by_cases returned : handle ∈ back
    · have away := owned.free i handle (inHeld handle returned)
      have once : back.count handle = 1 := List.count_eq_one_of_mem backOnce returned
      simp only [State.putDataSlices, State.put, List.mem_append, returned, or_true, ↓reduceIte,
        once]
      rw [if_neg away] at before
      omega
    · have never : back.count handle = 0 := List.count_eq_zero_of_not_mem returned
      simpa only [State.putDataSlices, State.put, List.mem_append, returned, or_false, never,
        Nat.add_zero] using before
  · intro handle unknown
    have absent : handle ∉ back := by
      intro returned
      have known : handle < st.handles := owned.known_of_held (inHeld handle returned)
      exact absurd unknown (Nat.not_le_of_lt known)
    simpa [State.putDataSlices, State.put, List.count_eq_zero_of_not_mem absent]
      using counted.unborn handle unknown

@[simp]
theorem putDataSlices_nil (st : State) : st.putDataSlices [] = st := by
  simp [State.putDataSlices]

/-- An object changes and keeps its handles. -/
theorem keep_valid {st : State} (valid : Valid st) {i : Nat} {o : Object}
    (same : handlesOf o.stream = st.held i) (ok : ObjectOk st.memory st.buffers o) :
    Valid (st.put i o) := by
  have split : (st.held i).Perm ([] ++ handlesOf o.stream) := by rw [same, List.nil_append]
  simpa using settle_valid valid split ok

/-! Drawing a buffer. -/

/-- A new array behind a handle nobody holds. -/
theorem make_laid {st : State} {selected : Nat → Prop} (laid : Laid st selected)
    (holds : ∀ i, ∀ other ∈ st.held i, selected other) {handle : Nat} (spare : ¬ selected handle)
    (n : Nat) : Laid (st.make handle n) fun other => selected other ∨ other = handle := by
  have apart : ∀ other, selected other → other ≠ handle := by
    rintro other chosen rfl
    exact spare chosen
  have kept : ∀ other, selected other →
      (st.make handle n).buffers other = st.buffers other ∧
        (st.make handle n).memory (st.buffers other).array =
          st.memory (st.buffers other).array := by
    intro other chosen
    have below := laid.arrays other chosen
    simp [State.make, apart other chosen, Nat.ne_of_lt below]
  have own : (st.make handle n).buffers handle = ⟨st.arrays, n⟩ := by simp [State.make]
  constructor
  · intro i
    exact (laid.objects i).congr fun other member => kept other (holds i other member)
  · rintro other (chosen | rfl)
    · rw [(kept other chosen).1]
      exact Nat.lt_succ_of_lt (laid.arrays other chosen)
    · rw [own]
      exact Nat.lt_succ_self _
  · rintro first second (chosen | rfl) (other | rfl) same
    · rw [(kept first chosen).1, (kept second other).1] at same
      exact laid.distinct first second chosen other same
    · rw [(kept first chosen).1, own] at same
      exact absurd same (Nat.ne_of_lt (laid.arrays first chosen))
    · rw [(kept second other).1, own] at same
      exact absurd same.symm (Nat.ne_of_lt (laid.arrays second other))
    · rfl
  · rintro other (chosen | rfl)
    · rw [(kept other chosen).1, (kept other chosen).2]
      exact laid.room other chosen
    · rw [own]
      simp [State.make, zeroed]

/-- `handle` has been drawn and is in the hands of the frame reader. -/
structure Spare (st : State) (handle : Nat) : Prop where
  owned : Owned (fun other => other < st.handles ∧ other ≠ handle) st.pool st.held
  known : handle < st.handles
  laid : Laid st (· < st.handles)
  counted : Counted st
  log : ∀ event ∈ st.log, event.Ok

theorem Laid.mono {st : State} {selected fewer : Nat → Prop} (laid : Laid st selected)
    (smaller : ∀ handle, fewer handle → selected handle) : Laid st fewer :=
  ⟨laid.objects, fun handle chosen => laid.arrays handle (smaller handle chosen),
    fun handle other chosen also => laid.distinct handle other (smaller handle chosen)
      (smaller other also),
    fun handle chosen => laid.room handle (smaller handle chosen)⟩

theorem draw_spare {st next : State} {drawn : Option Nat} {handle : Nat} (valid : Valid st)
    (got : st.draw drawn = some (handle, next)) :
    Spare next handle ∧ next.objects = st.objects := by
  obtain ⟨owned, laid, counted, log⟩ := valid
  cases drawn with
  | some pooled =>
      simp only [State.draw, Option.ite_none_right_eq_some, Option.some.injEq, Prod.mk.injEq] at got
      obtain ⟨member, rfl, rfl⟩ := got
      have known : pooled < st.handles := owned.known_of_pooled member
      refine ⟨⟨owned.withdraw member, known, ⟨laid.objects, laid.arrays, laid.distinct, laid.room⟩,
        ⟨?_, ?_⟩, log⟩, rfl⟩
      · intro other bound
        have before := counted.counts other bound
        by_cases same : other = pooled
        · subst same
          rw [if_pos member] at before
          simp [State.countDraw, owned.pooled.mem_erase_iff, before]
        · simpa [State.countDraw, same, owned.pooled.mem_erase_iff] using before
      · intro other unknown
        have apart : other ≠ pooled := Nat.ne_of_gt (Nat.lt_of_lt_of_le known unknown)
        simpa [State.countDraw, apart] using counted.unborn other unknown
  | none =>
      simp only [State.draw, Option.some.injEq, Prod.mk.injEq] at got
      obtain ⟨rfl, rfl⟩ := got
      have unpooled : st.handles ∉ st.pool := fun member =>
        absurd (owned.known_of_pooled member) (Nat.lt_irrefl _)
      have made := make_laid laid (fun i other => owned.known_of_held) (Nat.lt_irrefl st.handles)
        16384
      refine ⟨⟨owned.congr fun other => ?_, Nat.lt_succ_self _, ?_, ⟨?_, ?_⟩, log⟩, rfl⟩
      · change _ ↔ other < st.handles + 1 ∧ other ≠ st.handles
        omega
      · refine (Laid.mono ⟨made.objects, made.arrays, made.distinct, made.room⟩ fun other bound => ?_)
        exact Nat.lt_succ_iff_lt_or_eq.mp bound
      · intro other bound
        rcases Nat.lt_succ_iff_lt_or_eq.mp bound with old | rfl
        · change Function.update st.draws st.handles _ other =
            st.returns other + if other ∈ st.pool then 0 else 1
          rw [Function.update_of_ne (Nat.ne_of_lt old)]
          exact counted.counts other old
        · simp [State.countDraw, State.make, unpooled, counted.unborn st.handles (Nat.le_refl _)]
      · intro other unknown
        have later : st.handles + 1 ≤ other := unknown
        have apart : other ≠ st.handles := by omega
        simpa [State.countDraw, State.make, apart] using counted.unborn other (by omega)

theorem ensure_spare {st : State} {handle : Nat} (spare : Spare st handle) (n : Nat) :
    Spare (st.ensure handle n) handle ∧ (st.ensure handle n).objects = st.objects ∧
      n ≤ ((st.ensure handle n).buffers handle).cap := by
  unfold State.ensure
  split
  · have made := make_laid (spare.laid.mono fun other chosen => chosen.1)
      (fun i other => spare.owned.known_of_held) (fun chosen => chosen.2 rfl) n
    refine ⟨⟨spare.owned, spare.known, ?_, ⟨spare.counted.counts, spare.counted.unborn⟩, spare.log⟩,
      rfl, ?_⟩
    · refine made.mono fun other bound => ?_
      by_cases same : other = handle
      · exact Or.inr same
      · exact Or.inl ⟨bound, same⟩
    · simp [State.make]
  · rename_i large
    exact ⟨spare, rfl, Nat.le_of_not_lt large⟩

/-- Copying into the drawn buffer touches nobody's bytes. -/
theorem fill_spare {st : State} {handle : Nat} (spare : Spare st handle) {payload : Bytes}
    (fits : payload.length ≤ (st.buffers handle).cap) :
    Spare (st.fill handle payload) handle := by
  have room := spare.laid.room handle spare.known
  have kept : ∀ other < st.handles, other ≠ handle →
      (st.fill handle payload).memory (st.buffers other).array =
        st.memory (st.buffers other).array := by
    intro other known apart
    have elsewhere : (st.buffers other).array ≠ (st.buffers handle).array := fun same =>
      apart (spare.laid.distinct other handle known spare.known same)
    simp [State.fill, elsewhere]
  refine ⟨spare.owned, spare.known, ⟨?_, spare.laid.arrays, spare.laid.distinct, ?_⟩,
    ⟨spare.counted.counts, spare.counted.unborn⟩, spare.log⟩
  · intro i
    refine (spare.laid.objects i).congr fun other member => ⟨rfl, ?_⟩
    change other ∈ st.held i at member
    obtain ⟨known, apart⟩ := spare.owned.known_of_held member
    exact kept other known apart
  · intro other known
    by_cases same : other = handle
    · subst same
      change (st.buffers other).cap ≤ _
      simp only [State.fill, Function.update_self, List.length_append, List.length_drop]
      omega
    · change (st.buffers other).cap ≤ ((st.fill handle payload).memory (st.buffers other).array).length
      rw [kept other known same]
      exact spare.laid.room other known

/-- The filled buffer is queued on an object. -/
theorem queue_valid {st : State} {handle : Nat} (spare : Spare st handle) {i : Nat}
    {payload : Bytes} (holding : (st.objects i).held = true)
    (chunk : Slice.bytes st.memory ⟨(st.buffers handle).array, 0, payload.length⟩ = payload)
    (fits : Slice.Fits st.memory ⟨(st.buffers handle).array, 0, payload.length⟩) :
    Valid (st.put i { st.objects i with
      stream := pushData (st.objects i).stream
        ⟨some handle, ⟨(st.buffers handle).array, 0, payload.length⟩⟩
      payloads := (st.objects i).payloads ++ [payload] }) := by
  have ok := spare.laid.objects i
  have queue : unread (pushData (st.objects i).stream
      ⟨some handle, ⟨(st.buffers handle).array, 0, payload.length⟩⟩) =
      unread (st.objects i).stream ++
        [⟨some handle, ⟨(st.buffers handle).array, 0, payload.length⟩⟩] := by
    simp [unread, pushData, List.drop_append_of_le_length ok.head]
  have handles : handlesOf (pushData (st.objects i).stream
      ⟨some handle, ⟨(st.buffers handle).array, 0, payload.length⟩⟩) = st.held i ++ [handle] := by
    simp only [State.held, handlesOf, queuedHandles_eq, queue]
    simp [pushData]
  refine ⟨?_, put_laid spare.laid i ?_, ⟨spare.counted.counts, spare.counted.unborn⟩, spare.log⟩
  · have inHand : ¬ (handle < st.handles ∧ handle ≠ handle) := fun chosen => chosen.2 rfl
    rw [held_put, handles]
    refine (spare.owned.take i inHand).congr fun other => ?_
    have known := spare.known
    change _ ↔ other < st.handles
    omega
  · refine ⟨?_, ?_, ok.done, ?_, ok.gone, ?_⟩
    · have head := ok.head
      simp only [pushData, List.length_append, List.length_singleton]
      omega
    · intro other member
      rw [queue] at member
      rcases List.mem_append.mp member with old | new
      · obtain ⟨backed, pushed⟩ := ok.queued other old
        exact ⟨backed, List.mem_append_left _ pushed⟩
      · rw [List.mem_singleton.mp new]
        exact ⟨⟨⟨handle, rfl, rfl⟩, fits⟩, by simp [chunk]⟩
    · intro undropped left
      obtain ⟨backed, old, pushed, rest⟩ := ok.leftover undropped left
      exact ⟨backed, old, List.mem_append_left _ pushed, rest⟩
    · exact fun idle => absurd idle (by simp [holding])

theorem push_valid {st next : State} {i : Nat} {drawn : Option Nat} {payload : Bytes}
    (valid : Valid st) (holding : (st.objects i).held = true)
    (stepped : step st (.push i drawn payload) = some next) : Valid next := by
  simp only [step, Option.map_eq_some_iff, Prod.exists] at stepped
  obtain ⟨handle, drawnState, got, rfl⟩ := stepped
  obtain ⟨spare, objects⟩ := draw_spare valid got
  obtain ⟨ensured, same, large⟩ := ensure_spare spare payload.length
  have filled := fill_spare ensured large
  refine queue_valid filled ?_ ?_ ?_
  · change ((drawnState.ensure handle payload.length).objects i).held = true
    rw [same, objects, holding]
  · simp [Slice.bytes, State.fill]
  · simp only [Slice.Fits, State.fill, Function.update_self, List.length_append]
    omega

theorem acquire_valid {st : State} {i : Nat} (valid : Valid st)
    (released : (st.objects i).held = false) :
    Valid (st.put i ⟨acquire (st.objects i).stream, true, false, []⟩) := by
  have empty := (valid.laid.objects i).idle released
  exact keep_valid valid empty.symm (objectOk_fresh _ _ true _)

/-- `Close` and `Release` empty an object's hands. -/
theorem drop_valid {st : State} {i : Nat} (valid : Valid st) {s : Stream} (held : Bool)
    (body : s.body = (returnBuf (st.objects i).stream.body).1) (queue : s.queue = [])
    (head : s.qHead = 0) :
    Valid ((st.put i { st.objects i with
      stream := s
      held := held
      dropped := (st.objects i).drops }).putDataSlices (st.held i)) := by
  have empty : handlesOf s = [] := by simp [handlesOf, queuedHandles, body, queue, returnBuf]
  have ok := valid.laid.objects i
  refine settle_valid valid (by simp [empty]) ?_
  constructor
  · simp [queue, head]
  · simp [unread, queue]
  · intro _ _
    simp [body, returnBuf]
  · intro undropped left
    simp only [Object.drops, Bool.or_eq_false_iff, decide_eq_false_iff_not] at undropped
    simp only [body, returnBuf] at left
    exact absurd left undropped.2
  · intro _
    simp [body, returnBuf]
  · exact fun _ => empty

theorem read_valid {st next : State} {i len : Nat} (valid : Valid st)
    (undropped : (st.objects i).dropped = false)
    (stepped : step st (.read i len) = some next) : Valid next := by
  have done := read_ok (valid.laid.objects i) undropped len
  simp only [step] at stepped
  generalize read (st.objects i).stream len = outcome at done stepped
  obtain ⟨result, stream, back⟩ := outcome
  obtain ⟨handles, object, copied⟩ := done
  cases result with
  | parked => cases stepped
  | data source bp =>
      obtain ⟨⟨handle, named, array⟩, payload, pushed, part⟩ := copied source bp rfl
      obtain rfl := Option.some.inj stepped
      have ok : Event.Ok ⟨source.bytes st.memory, (st.objects i).payloads, st.backs bp source⟩ := by
        refine ⟨?_, payload, pushed, part⟩
        simp [State.backs, named, array]
      exact settle_valid (record_valid valid ok) handles object
  | eof | failed err =>
      obtain rfl := Option.some.inj stepped
      exact settle_valid valid handles object

theorem step_valid {st next : State} {action : Action} (valid : Valid st)
    (orderly : Orderly st action) (stepped : step st action = some next) : Valid next := by
  cases action with
  | acquire i =>
      obtain ⟨released, rfl⟩ := enabled stepped
      exact acquire_valid valid released
  | push i drawn payload => exact push_valid valid orderly stepped
  | closeData i | failBody i err =>
      obtain rfl := Option.some.inj stepped
      have ok := valid.laid.objects i
      exact keep_valid valid rfl ⟨ok.head, ok.queued, ok.done, ok.leftover, ok.gone, ok.idle⟩
  | read i len => exact read_valid valid orderly stepped
  | close i =>
      obtain rfl := Option.some.inj stepped
      exact drop_valid valid _ rfl rfl rfl
  | release i =>
      obtain ⟨-, rfl⟩ := enabled stepped
      exact drop_valid valid _ rfl rfl rfl

inductive Holder where
  | pool
  | queue (i : Nat)
  | reader (i : Nat)
  deriving DecidableEq

def Holds (st : State) (handle : Nat) : Holder → Prop
  | .pool => handle ∈ st.pool
  | .queue i => handle ∈ queuedHandles (st.objects i).stream
  | .reader i => (st.objects i).stream.body.bp = some handle

/-- Every buffer ever drawn has one holder, was returned once for each draw that
is over, and every `Read` copied from a buffer its reader held, bytes that had
been pushed on its own stream. -/
structure OneOwner (st : State) : Prop where
  holder : ∀ handle < st.handles, ∃! holder, Holds st handle holder
  once : st.pool.Nodup ∧ ∀ i, (queuedHandles (st.objects i).stream).Nodup
  returned : ∀ handle < st.handles,
    st.draws handle = st.returns handle + if handle ∈ st.pool then 0 else 1
  reads : ∀ event ∈ st.log, event.Ok

theorem Valid.oneOwner {st : State} (valid : Valid st) : OneOwner st := by
  obtain ⟨owned, -, counted, log⟩ := valid
  have parts : ∀ i, (st.objects i).stream.body.bp.toList.Nodup ∧
      (queuedHandles (st.objects i).stream).Nodup ∧
      ∀ handle ∈ (st.objects i).stream.body.bp.toList,
        ∀ other ∈ queuedHandles (st.objects i).stream, handle ≠ other :=
    fun i => List.nodup_append.mp (owned.single i)
  have reads : ∀ {handle i}, Holds st handle (.reader i) → handle ∈ st.held i := by
    intro handle i named
    exact List.mem_append_left _ (by simp [show _ = some handle from named])
  have queues : ∀ {handle i}, Holds st handle (.queue i) → handle ∈ st.held i := fun member =>
    List.mem_append_right _ member
  refine ⟨?_, ⟨owned.pooled, fun i => (parts i).2.1⟩, counted.counts, log⟩
  intro handle known
  -- two holders would be the pool twice, one place, or two places of one object
  have unique : ∀ first second, Holds st handle first → Holds st handle second →
      first = second := by
    intro first second one two
    cases first with
    | pool =>
        cases second with
        | pool => rfl
        | queue i => exact absurd one (owned.free i handle (queues two))
        | reader i => exact absurd one (owned.free i handle (reads two))
    | queue i =>
        cases second with
        | pool => exact absurd two (owned.free i handle (queues one))
        | queue j => rw [owned.apart i j handle (queues one) (queues two)]
        | reader j =>
            obtain rfl := owned.apart i j handle (queues one) (reads two)
            have named : (st.objects i).stream.body.bp = some handle := two
            exact absurd rfl ((parts i).2.2 handle (by simp [named]) handle one)
    | reader i =>
        cases second with
        | pool => exact absurd two (owned.free i handle (reads one))
        | queue j =>
            obtain rfl := owned.apart i j handle (reads one) (queues two)
            have named : (st.objects i).stream.body.bp = some handle := one
            exact absurd rfl ((parts i).2.2 handle (by simp [named]) handle two)
        | reader j => rw [owned.apart i j handle (reads one) (reads two)]
  have located : ∃ holder, Holds st handle holder := by
    rcases (owned.covered handle).mp known with pooled | ⟨i, member⟩
    · exact ⟨.pool, pooled⟩
    · rcases List.mem_append.mp member with named | queued
      · exact ⟨.reader i, by simpa [Holds] using named⟩
      · exact ⟨.queue i, queued⟩
  obtain ⟨holder, holds⟩ := located
  exact ⟨holder, holds, fun other also => unique other holder also holds⟩

theorem buffers_have_one_owner {trace : List Action} {last : State}
    (orderly : Guarded step Orderly State.new trace) (ran : run step State.new trace = some last) :
    OneOwner last := by
  have valid : Valid last := run_invariant (fun _ _ _ valid ordered stepped =>
    step_valid valid ordered stepped) valid_new orderly ran
  exact valid.oneOwner

/-- Two requests one after the other: a chunk read in two parts, a second chunk
thrown away by `Close`, the buffers used again. -/
def orderlyTrace : List Action :=
  [.acquire 0, .push 0 none [1, 2], .push 0 none [3], .read 0 1, .read 0 1, .close 0, .release 0,
    .acquire 1, .push 1 (some 0) [8, 9], .read 1 1]

theorem buffers_have_one_owner_reused :
    ∃ last, run step State.new orderlyTrace = some last ∧
      Guarded step Orderly State.new orderlyTrace ∧
      last.log.map Event.bytes = [[1], [2], [8]] ∧ OneOwner last := by
  have ran : (run step State.new orderlyTrace).map (fun last => last.log.map Event.bytes) =
      some [[1], [2], [8]] := by
    decide +kernel
  have guarded : Guarded step Orderly State.new orderlyTrace := by decide +kernel
  obtain ⟨last, reached, bytes⟩ := Option.map_eq_some_iff.mp ran
  exact ⟨last, reached, guarded, bytes, buffers_have_one_owner guarded reached⟩

/-- A handler reads one byte of a chunk, closes the body and reads again: the
leftover still points into the buffer that `Close` returned, which by now holds
the body of another request. -/
theorem closed_body_reads_foreign_bytes :
    ¬ ∀ trace last, run step State.new trace = some last → OneOwner last := by
  intro claim
  have ran : (run step State.new [.acquire 0, .push 0 none [1, 2], .read 0 1, .close 0, .acquire 1,
      .push 1 (some 0) [8, 9], .read 0 1]).map State.log =
      some [⟨[1], [[1, 2]], true⟩, ⟨[9], [[1, 2]], false⟩] := by
    decide +kernel
  obtain ⟨last, reached, log⟩ := Option.map_eq_some_iff.mp ran
  have ok := (claim _ last reached).reads ⟨[9], [[1, 2]], false⟩ (by simp [log])
  exact Bool.false_ne_true ok.1

/-- A chunk pushed on an object that is in the stream pool: the next `Acquire`
truncates the queue, and the buffer is drawn, not returned and nobody's. -/
theorem late_push_loses_buffer :
    ∃ last, run step State.new [.acquire 0, .release 0, .push 0 none [1], .acquire 0] = some last ∧
      last.draws 0 = 1 ∧ last.returns 0 = 0 ∧ last.pool = [] ∧ last.held 0 = [] := by
  have ran : (run step State.new [.acquire 0, .release 0, .push 0 none [1], .acquire 0]).map
      (fun last => (last.draws 0, last.returns 0, last.pool, last.held 0)) = some (1, 0, [], []) := by
    decide +kernel
  obtain ⟨last, reached, fields⟩ := Option.map_eq_some_iff.mp ran
  simp only [Prod.mk.injEq] at fields
  exact ⟨last, reached, fields⟩

end ReverseHttp.BufferPool
