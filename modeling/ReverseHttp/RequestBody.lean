import ReverseHttp.Flow
import ReverseHttp.Wire
import Mathlib.Data.List.Flatten

/-!
`streamRequestBody` (internal/proxy/forward.go): the goroutine that reads a
public request body into one buffer and sends it on in chunks. What the tunnel
answers is an environment: `submit k` is the error of the `k`-th `SendData`,
`credit k` what the `k`-th `Reserve` finds, `detached k` whether `worker.done()`
is closed at the `k`-th look, `resets` whether the writer still takes the
fire-and-forget RST_STREAM. The body is the sequence of its `Read` results.
-/

namespace ReverseHttp.RequestBody

open MachineInt Flow Wire

inductive ReadErr where
  | eof
  | failed (cause : Nat)
  deriving DecidableEq

/-- One result of `body.Read(buf)` that `io.Reader` allows. The call may have
written anywhere in the buffer; the first `n` bytes are what was read. -/
structure Read (size : Nat) where
  buf : Bytes
  n : Nat
  err : Option ReadErr
  sized : buf.length = size
  within : n ≤ size

def Read.bytes {size : Nat} (r : Read size) : Bytes := r.buf.take r.n

section Reader

variable {size : Nat} (reader : Nat → Read size)

/-- Everything the first `count` reads returned. -/
def bytesRead : Nat → Bytes
  | 0 => []
  | count + 1 => bytesRead count ++ (reader count).bytes

/-- The first read that returns an error is the read `last`. -/
structure EndsWith (last : Nat) (err : ReadErr) : Prop where
  before : ∀ k < last, (reader k).err = none
  error : (reader last).err = some err

end Reader

inductive PumpErr where
  | detached
  | connDead
  | write (cause : Nat)
  | read (cause : Nat)
  deriving DecidableEq

inductive Out where
  | data (payload : Bytes) (endStream : Bool)
  | rstStream (code : ErrCode)
  deriving DecidableEq

structure Env where
  submit : Nat → Option Nat
  credit : Nat → Option Avail
  detached : Nat → Bool
  resets : Bool
  maxFrameSize : Nat

def maxFrame (env : Env) : Int32 :=
  let size := Int32.ofNat env.maxFrameSize
  if size ≤ 0 then 16384 else size

/-- `make([]byte, maxFrame)`. -/
def bufSize (env : Env) : Nat := (maxFrame env).toInt.toNat

/-- `sending n offset err`: inside the chunk loop, with `err` from the `Read`
that filled the buffer. -/
inductive Control where
  | polling
  | reading
  | sending (n offset : Nat) (err : Option ReadErr)
  | returned (err : Option PumpErr)
  deriving DecidableEq

structure Pump where
  buf : Bytes
  control : Control
  polls : Nat
  reads : Nat
  reserves : Nat
  submits : Nat
  frames : List Out
  deriving DecidableEq

def Pump.new (env : Env) : Pump :=
  { buf := List.replicate (bufSize env) 0
    control := .polling
    polls := 0
    reads := 0
    reserves := 0
    submits := 0
    frames := [] }

section Step

variable (env : Env)

/-- `SendData`, and where the goroutine is after it. -/
def sendData (m : Pump) (payload : Bytes) (endStream : Bool) (next : Control) : Pump :=
  match env.submit m.submits with
  | none =>
      { m with
        submits := m.submits + 1
        frames := m.frames ++ [.data payload endStream]
        control := next }
  | some cause =>
      { m with
        submits := m.submits + 1
        control := .returned (some (.write cause)) }

/-- One iteration of the chunk loop. -/
def sendChunk (m : Pump) (n offset : Nat) (err : Option ReadErr) : Pump :=
  let reserved := granted (Int32.ofNat (n - offset)) (env.credit m.reserves)
  let m := { m with reserves := m.reserves + 1 }
  if reserved.2 then { m with control := .returned (some .connDead) }
  else
    let got := reserved.1.toInt.toNat
    sendData env m ((m.buf.drop offset).take got) false (.sending n (offset + got) err)

/-- After the chunk loop. -/
def finish (m : Pump) : Option ReadErr → Pump
  | none => { m with control := .polling }
  | some .eof => sendData env m [] true (.returned none)
  | some (.failed cause) =>
      { m with
        frames := if env.resets then m.frames ++ [.rstStream errCodeCancel] else m.frames
        control := .returned (some (.read cause)) }

variable (reader : Nat → Read (bufSize env))

def step (m : Pump) : Pump :=
  match m.control with
  | .polling =>
      { m with
        polls := m.polls + 1
        control := if env.detached m.polls then .returned (some .detached) else .reading }
  | .reading =>
      let r := reader m.reads
      { m with buf := r.buf, reads := m.reads + 1, control := .sending r.n 0 r.err }
  | .sending n offset err =>
      if offset < n then sendChunk env m n offset err else finish env m err
  | .returned _ => m

def after (count : Nat) : Pump := (step env reader)^[count] (Pump.new env)

end Step

/-- The tunnel lives: the writer answers nil, credit arrives, nobody detaches. -/
structure Lives (env : Env) : Prop where
  submit : ∀ k, env.submit k = none
  credit : ∀ k, env.credit k ≠ none
  attached : ∀ k, env.detached k = false
  resets : env.resets = true

/-- No answer used so far was a failure. -/
structure Unbroken (env : Env) (m : Pump) : Prop where
  submit : ∀ k < m.submits, env.submit k = none
  credit : ∀ k < m.reserves, env.credit k ≠ none
  attached : ∀ k < m.polls, env.detached k = false

def Sized (size : Nat) (chunks : List Bytes) : Prop :=
  ∀ chunk ∈ chunks, 0 < chunk.length ∧ chunk.length ≤ size

theorem sized_snoc {size : Nat} {chunks : List Bytes} {chunk : Bytes} (sized : Sized size chunks)
    (nonempty : 0 < chunk.length) (fits : chunk.length ≤ size) :
    Sized size (chunks ++ [chunk]) := by
  intro other member
  rcases List.mem_append.mp member with old | new
  · exact sized other old
  · rw [List.mem_singleton.mp new]
    exact ⟨nonempty, fits⟩

theorem bufSize_lt (env : Env) : bufSize env < 2 ^ 31 := by
  have bound := (maxFrame env).toInt_lt
  unfold bufSize
  omega

/-- The conversion to `int32` keeps the length of what is left in the buffer, so
a live connection grants some of it. -/
theorem chunk_granted {env : Env} {n offset : Nat} (left : offset < n) (within : n ≤ bufSize env)
    (credit : Option Avail) :
    (credit = none ∧ granted (Int32.ofNat (n - offset)) credit = (0, true)) ∨
      ∃ got, granted (Int32.ofNat (n - offset)) credit = (got, false) ∧ 0 < got.toInt.toNat ∧
        offset + got.toInt.toNat ≤ n ∧ credit ≠ none := by
  have small := bufSize_lt env
  have kept : (Int32.ofNat (n - offset)).toInt = (n - offset : Nat) :=
    Int32.toInt_ofNat'.trans (bmod_of_representable ⟨by omega, by omega⟩)
  rcases granted_cases (by omega : 0 < (Int32.ofNat (n - offset)).toInt) credit with
    dead | ⟨got, reserved, positive, most, present⟩
  · exact Or.inl dead
  · rw [kept] at most
    exact Or.inr ⟨got, reserved, by omega, by omega, present⟩

/-! The invariant. -/

section Located

variable (env : Env) (reader : Nat → Read (bufSize env))

/-- What the frames are, by where the goroutine is. `chunks` are the payloads so
far; between two reads they are all that was read. -/
def Placed (chunks : List Bytes) (m : Pump) : Prop :=
  match m.control with
  | .polling | .reading =>
      m.frames = datas .data chunks ∧ chunks.flatten = bytesRead reader m.reads ∧
        (∀ k < m.reads, (reader k).err = none) ∧ Unbroken env m
  | .sending n offset err =>
      ∃ last, m.reads = last + 1 ∧ m.buf = (reader last).buf ∧ n = (reader last).n ∧
        err = (reader last).err ∧ offset ≤ n ∧ m.frames = datas .data chunks ∧
        chunks.flatten ++ (m.buf.take n).drop offset = bytesRead reader m.reads ∧
        (∀ k < last, (reader k).err = none) ∧ Unbroken env m
  | .returned none =>
      ∃ last, m.reads = last + 1 ∧ EndsWith reader last .eof ∧
        m.frames = datas .data chunks ++ [.data [] true] ∧
        chunks.flatten = bytesRead reader m.reads ∧ Unbroken env m
  | .returned (some (.read cause)) =>
      ∃ last, m.reads = last + 1 ∧ EndsWith reader last (.failed cause) ∧
        m.frames = datas .data chunks ++ (if env.resets then [.rstStream errCodeCancel] else []) ∧
        chunks.flatten = bytesRead reader m.reads ∧ Unbroken env m
  | .returned (some _) =>
      m.frames = datas .data chunks ∧ chunks.flatten <+: bytesRead reader m.reads ∧ ¬ Unbroken env m

def Located (m : Pump) : Prop :=
  ∃ chunks, Sized (bufSize env) chunks ∧ Placed env reader chunks m

variable {env reader}

theorem located_new : Located env reader (Pump.new env) := by
  refine ⟨[], by simp [Sized], rfl, rfl, ?_, ?_⟩
  · exact fun k bound => absurd bound (Nat.not_lt_zero k)
  · constructor <;> exact fun k bound => absurd bound (Nat.not_lt_zero k)

/-- A look at `worker.done()`. -/
theorem polling_located {m : Pump} (here : m.control = .polling) (located : Located env reader m) :
    Located env reader (step env reader m) := by
  obtain ⟨chunks, sized, placed⟩ := located
  simp only [Placed, here] at placed
  obtain ⟨frames, sent, clean, unbroken⟩ := placed
  refine ⟨chunks, sized, ?_⟩
  cases gone : env.detached m.polls with
  | true =>
      simp only [Placed, step, here, gone, ↓reduceIte]
      refine ⟨frames, sent ▸ List.prefix_rfl, fun still => ?_⟩
      have attached := still.attached m.polls (Nat.lt_succ_self _)
      exact absurd gone (by simp [attached])
  | false =>
      simp only [Placed, step, here, gone, Bool.false_eq_true, ↓reduceIte]
      exact ⟨frames, sent, clean, unbroken.submit, unbroken.credit,
        Nat.forall_lt_succ_right.mpr ⟨unbroken.attached, gone⟩⟩

/-- The buffer is filled anew once all of its bytes are sent. -/
theorem reading_located {m : Pump} (here : m.control = .reading) (located : Located env reader m) :
    Located env reader (step env reader m) := by
  obtain ⟨chunks, sized, placed⟩ := located
  simp only [Placed, here] at placed
  obtain ⟨frames, sent, clean, unbroken⟩ := placed
  refine ⟨chunks, sized, ?_⟩
  simp only [Placed, step, here]
  refine ⟨m.reads, rfl, rfl, rfl, rfl, Nat.zero_le _, frames, ?_, clean, unbroken.submit,
    unbroken.credit, unbroken.attached⟩
  rw [sent, List.drop_zero]
  rfl

/-- A refused `SendData` leaves a prefix behind. -/
theorem refused_located {m : Pump} {chunks : List Bytes} {cause : Nat}
    (sized : Sized (bufSize env) chunks) (frames : m.frames = datas .data chunks)
    (sent : chunks.flatten <+: bytesRead reader m.reads)
    (refused : env.submit m.submits = some cause) :
    Located env reader { m with
      submits := m.submits + 1
      control := .returned (some (.write cause)) } := by
  refine ⟨chunks, sized, frames, sent, fun still => ?_⟩
  have accepted := still.submit m.submits (Nat.lt_succ_self _)
  exact absurd refused (by simp [accepted])

/-- One chunk leaves the buffer, or the connection is found dead. -/
theorem sendChunk_located {m : Pump} {n offset : Nat} {err : Option ReadErr}
    (here : m.control = .sending n offset err) (left : offset < n) (located : Located env reader m) :
    Located env reader (sendChunk env m n offset err) := by
  obtain ⟨chunks, sized, placed⟩ := located
  simp only [Placed, here] at placed
  obtain ⟨last, reads, buf, rfl, rfl, -, frames, sent, clean, unbroken⟩ := placed
  have within := (reader last).within
  have sizedBuf : m.buf.length = bufSize env := buf ▸ (reader last).sized
  have sofar : chunks.flatten <+: bytesRead reader m.reads := ⟨_, sent⟩
  rcases chunk_granted left within (env.credit m.reserves) with
    ⟨dead, reserved⟩ | ⟨got, reserved, positive, most, credit⟩
  · simp only [sendChunk, reserved, ↓reduceIte]
    refine ⟨chunks, sized, frames, sofar, fun still => ?_⟩
    exact still.credit m.reserves (Nat.lt_succ_self _) dead
  · simp only [sendChunk, reserved, Bool.false_eq_true, ↓reduceIte, sendData]
    -- the chunk is the next `got` bytes of what the last read filled in
    have chunk : ((m.buf.drop offset).take got.toInt.toNat).length = got.toInt.toNat := by
      rw [List.length_take, List.length_drop]
      omega
    cases answer : env.submit m.submits with
    | some cause =>
        exact refused_located (m := { m with reserves := m.reserves + 1 }) sized frames sofar answer
    | none =>
        refine ⟨chunks ++ [(m.buf.drop offset).take got.toInt.toNat],
          sized_snoc sized (by omega) (by omega), last, reads, buf, rfl, rfl, by omega, ?_, ?_, clean,
          Nat.forall_lt_succ_right.mpr ⟨unbroken.submit, answer⟩,
          Nat.forall_lt_succ_right.mpr ⟨unbroken.credit, credit⟩, unbroken.attached⟩
        · rw [datas_append, ← frames]
          rfl
        · rw [← sent, List.flatten_concat, List.append_assoc]
          congr 1
          have split : (reader last).n - offset =
              got.toInt.toNat + ((reader last).n - (offset + got.toInt.toNat)) := by omega
          rw [List.drop_take, List.drop_take, split, List.take_add, List.drop_drop]

/-- The loop is over: another read, END_STREAM, or the reset. -/
theorem finish_located {m : Pump} {n offset : Nat} {err : Option ReadErr}
    (here : m.control = .sending n offset err) (done : ¬ offset < n)
    (located : Located env reader m) : Located env reader (finish env m err) := by
  obtain ⟨chunks, sized, placed⟩ := located
  simp only [Placed, here] at placed
  obtain ⟨last, reads, buf, rfl, error, -, frames, sent, clean, unbroken⟩ := placed
  have all : chunks.flatten = bytesRead reader m.reads := by
    have nothing : (m.buf.take (reader last).n).drop offset = [] := by
      apply List.drop_eq_nil_of_le
      rw [List.length_take]
      omega
    rw [← sent, nothing, List.append_nil]
  match err, error with
  | none, error =>
      refine ⟨chunks, sized, frames, all, ?_, unbroken.submit, unbroken.credit, unbroken.attached⟩
      simp only [finish, reads]
      exact Nat.forall_lt_succ_right.mpr ⟨clean, error.symm⟩
  | some .eof, error =>
      simp only [finish, sendData]
      cases answer : env.submit m.submits with
      | some cause => exact refused_located sized frames (all ▸ List.prefix_rfl) answer
      | none =>
          refine ⟨chunks, sized, last, reads, ⟨clean, error.symm⟩, ?_, all,
            Nat.forall_lt_succ_right.mpr ⟨unbroken.submit, answer⟩, unbroken.credit,
            unbroken.attached⟩
          rw [frames]
  | some (.failed cause), error =>
      refine ⟨chunks, sized, last, reads, ⟨clean, error.symm⟩, ?_, all, unbroken.submit,
        unbroken.credit, unbroken.attached⟩
      simp only [finish, frames]
      split <;> simp

theorem step_located {m : Pump} (located : Located env reader m) :
    Located env reader (step env reader m) := by
  cases here : m.control with
  | polling => exact polling_located here located
  | reading => exact reading_located here located
  | sending n offset err =>
      simp only [step, here]
      split
      · rename_i left
        exact sendChunk_located here left located
      · rename_i done
        exact finish_located here done located
  | returned err =>
      simp only [step, here]
      exact located

theorem after_located (count : Nat) : Located env reader (after env reader count) := by
  rw [after]
  exact Function.Iterate.rec _ located_new (fun _ => step_located) count

/-! While the tunnel lives the goroutine gets to its end. -/

/-- Reads to come, each with room for a full buffer, and the work on the current one. -/
def weight (env : Env) (last : Nat) (m : Pump) : Nat :=
  (last + 1 - m.reads) * (bufSize env + 3) +
    match m.control with
    | .polling => 2
    | .reading => 1
    | .sending n offset _ => n - offset + 3
    | .returned _ => 0

def Pump.over (m : Pump) : Prop := ∃ err, m.control = .returned err

theorem step_weight (lives : Lives env) {last : Nat} {err : ReadErr}
    (ends : EndsWith reader last err) {m : Pump} (located : Located env reader m)
    (busy : ¬ m.over) : weight env last (step env reader m) < weight env last m := by
  obtain ⟨chunks, -, placed⟩ := located
  -- a pump between two reads has not seen the last one
  have early : (∀ k < m.reads, (reader k).err = none) → m.reads ≤ last := by
    intro clean
    by_contra late
    exact absurd ends.error (by simp [clean last (by omega)])
  cases here : m.control with
  | polling => simp [weight, step, here, lives.attached]
  | reading =>
      simp only [Placed, here] at placed
      have room := early placed.2.2.1
      have within := (reader m.reads).within
      obtain ⟨more, rfl⟩ : ∃ more, last = m.reads + more := ⟨last - m.reads, by omega⟩
      simp only [weight, step, here]
      rw [show m.reads + more + 1 - (m.reads + 1) = more by omega,
        show m.reads + more + 1 - m.reads = more + 1 by omega, Nat.succ_mul]
      omega
  | sending n offset err =>
      simp only [Placed, here] at placed
      obtain ⟨read, reads, -, rfl, rfl, -⟩ := placed
      simp only [step, here]
      split
      · rename_i left
        rcases chunk_granted left (reader read).within (env.credit m.reserves) with
          ⟨dead, -⟩ | ⟨got, reserved, positive, most, -⟩
        · exact absurd dead (lives.credit m.reserves)
        · simp only [sendChunk, reserved, Bool.false_eq_true, ↓reduceIte, sendData, lives.submit,
            weight, here]
          omega
      · cases error : (reader read).err with
        | none =>
            simp only [finish, weight, here]
            omega
        | some err =>
            cases err <;> simp only [finish, sendData, lives.submit, weight, here] <;> omega
  | returned err => exact absurd ⟨err, here⟩ busy

theorem pump_ends (lives : Lives env) {last : Nat} {err : ReadErr}
    (ends : EndsWith reader last err) : ∃ n, (after env reader n).over := by
  refine Transition.iterate_reaches (step env reader) (Pump.new env) Pump.over (weight env last)
    fun count busy => ?_
  rw [Function.iterate_succ_apply']
  exact step_weight lives ends (after_located count) busy

theorem Lives.unbroken (lives : Lives env) (m : Pump) : Unbroken env m :=
  ⟨fun k _ => lives.submit k, fun k _ => lives.credit k, fun k _ => lives.attached k⟩

theorem EndsWith.unique {size : Nat} {reader : Nat → Read size} {last other : Nat}
    {err error : ReadErr} (first : EndsWith reader last err)
    (second : EndsWith reader other error) : last = other ∧ err = error := by
  have same : last = other := by
    rcases Nat.lt_trichotomy last other with less | same | more
    · exact absurd first.error (by simp [second.before last less])
    · exact same
    · exact absurd second.error (by simp [first.before other more])
  subst same
  exact ⟨rfl, Option.some.inj (first.error.symm.trans second.error)⟩

end Located

def Out.bytes : Out → Bytes
  | .data bytes _ => bytes
  | .rstStream _ => []

/-- The payload bytes of the DATA frames. -/
def payload (frames : List Out) : Bytes := frames.flatMap Out.bytes

theorem payload_datas (chunks : List Bytes) : payload (datas .data chunks) = chunks.flatten :=
  flatMap_datas (fun _ => rfl) chunks

/-- Whatever the tunnel does, what was sent is a prefix of what was read, and a
pump that met a failure has returned without END_STREAM. -/
theorem located_prefix {env : Env} {reader : Nat → Read (bufSize env)} {m : Pump}
    (located : Located env reader m) :
    payload m.frames <+: bytesRead reader m.reads ∧
      (¬ Unbroken env m → (∃ err, m.control = .returned (some err)) ∧
        ∀ bytes, .data bytes true ∉ m.frames) := by
  obtain ⟨chunks, -, placed⟩ := located
  have plain : ∀ bytes, Out.data bytes true ∉ datas .data chunks := by simp [datas]
  cases here : m.control with
  | polling | reading =>
      simp only [Placed, here] at placed
      obtain ⟨frames, sent, -, unbroken⟩ := placed
      rw [frames, payload_datas, sent]
      exact ⟨List.prefix_rfl, fun broken => absurd unbroken broken⟩
  | sending n offset err =>
      simp only [Placed, here] at placed
      obtain ⟨last, -, -, -, -, -, frames, sent, -, unbroken⟩ := placed
      rw [frames, payload_datas]
      exact ⟨⟨_, sent⟩, fun broken => absurd unbroken broken⟩
  | returned result =>
      cases result with
      | none =>
          simp only [Placed, here] at placed
          obtain ⟨last, -, -, frames, sent, unbroken⟩ := placed
          refine ⟨?_, fun broken => absurd unbroken broken⟩
          rw [frames, payload, List.flatMap_append, ← payload, payload_datas, sent]
          simp [Out.bytes]
      | some err =>
          cases err with
          | read cause =>
              simp only [Placed, here] at placed
              obtain ⟨last, -, -, frames, sent, unbroken⟩ := placed
              refine ⟨?_, fun broken => absurd unbroken broken⟩
              rw [frames, payload, List.flatMap_append, ← payload, payload_datas, sent]
              split <;> simp [Out.bytes]
          | detached | connDead | write _ =>
              simp only [Placed, here] at placed
              obtain ⟨frames, sent, -⟩ := placed
              rw [frames, payload_datas]
              exact ⟨sent, fun _ => ⟨⟨_, rfl⟩, plain⟩⟩

def result : ReadErr → Option PumpErr
  | .eof => none
  | .failed cause => some (.read cause)

def closing : ReadErr → Out
  | .eof => .data [] true
  | .failed _ => .rstStream errCodeCancel

theorem pump_completes {env : Env} {reader : Nat → Read (bufSize env)} (lives : Lives env)
    {last : Nat} {err : ReadErr} (ends : EndsWith reader last err) :
    ∃ n chunks, (after env reader n).control = .returned (result err) ∧
      (after env reader n).frames = datas .data chunks ++ [closing err] ∧
      chunks.flatten = bytesRead reader (last + 1) ∧ Sized (bufSize env) chunks := by
  obtain ⟨n, returned, here⟩ := pump_ends lives ends
  obtain ⟨chunks, sized, placed⟩ : Located env reader (after env reader n) := after_located n
  refine ⟨n, chunks, ?_⟩
  match returned with
  | none =>
      simp only [Placed, here] at placed
      obtain ⟨read, reads, ended, frames, sent, -⟩ := placed
      obtain ⟨rfl, rfl⟩ := ended.unique ends
      exact ⟨here, frames, reads ▸ sent, sized⟩
  | some (.read cause) =>
      simp only [Placed, here, lives.resets, ↓reduceIte] at placed
      obtain ⟨read, reads, ended, frames, sent, -⟩ := placed
      obtain ⟨rfl, rfl⟩ := ended.unique ends
      exact ⟨here, frames, reads ▸ sent, sized⟩
  | some .detached | some .connDead | some (.write _) =>
      simp only [Placed, here] at placed
      exact absurd (lives.unbroken _) placed.2.2

theorem request_body_forwarded (env : Env) (reader : Nat → Read (bufSize env)) :
    (∀ last, Lives env → EndsWith reader last .eof →
      ∃ n chunks, (after env reader n).control = .returned none ∧
        (after env reader n).frames = datas .data chunks ++ [.data [] true] ∧
        chunks.flatten = bytesRead reader (last + 1) ∧ Sized (bufSize env) chunks) ∧
    (∀ last cause, Lives env → EndsWith reader last (.failed cause) →
      ∃ n chunks, (after env reader n).control = .returned (some (.read cause)) ∧
        (after env reader n).frames = datas .data chunks ++ [.rstStream errCodeCancel] ∧
        chunks.flatten = bytesRead reader (last + 1) ∧ Sized (bufSize env) chunks) ∧
    ∀ n, payload (after env reader n).frames <+: bytesRead reader (after env reader n).reads ∧
      (¬ Unbroken env (after env reader n) →
        (∃ err, (after env reader n).control = .returned (some err)) ∧
          ∀ bytes, .data bytes true ∉ (after env reader n).frames) := by
  refine ⟨?_, ?_, fun n => located_prefix (after_located n)⟩
  · intro last lives ends
    exact pump_completes lives ends
  · intro last cause lives ends
    exact pump_completes lives ends

/-- A tunnel that grants nine bytes at a time. -/
def slowTunnel : Env :=
  { submit := fun _ => none
    credit := fun _ => some ⟨9, by decide⟩
    detached := fun _ => false
    resets := true
    maxFrameSize := 16384 }

theorem slowTunnel_lives : Lives slowTunnel :=
  ⟨fun _ => rfl, fun _ => Option.some_ne_none _, fun _ => rfl, rfl⟩

/-- Twenty bytes and then, with four more, the end. -/
def upload (k : Nat) : Read (bufSize slowTunnel) :=
  { buf := List.replicate (bufSize slowTunnel) 7
    n := if k = 0 then 20 else 4
    err := if k = 0 then none else some .eof
    sized := List.length_replicate
    within := by split <;> decide }

theorem request_body_forwarded_upload :
    ∃ n chunks, (after slowTunnel upload n).control = .returned none ∧
      (after slowTunnel upload n).frames = datas .data chunks ++ [.data [] true] ∧
      chunks.flatten = bytesRead upload 2 ∧ Sized (bufSize slowTunnel) chunks := by
  have ends : EndsWith upload 1 .eof := by
    refine ⟨fun k early => ?_, rfl⟩
    obtain rfl : k = 0 := by omega
    rfl
  exact (request_body_forwarded slowTunnel upload).1 1 slowTunnel_lives ends

end ReverseHttp.RequestBody
