import ReverseHttp.WorkerResponse
import Mathlib.Algebra.BigOperators.Group.List.Basic

/-!
One request on the worker: `serveStream` (stream.go) around an arbitrary handler
program, and the grammar of the frames it submits. A program is the list of
calls the handler makes, ending in a return or a panic. One step of the machine
is one call of the program, or one iteration of the loop inside `Write`.
-/

namespace ReverseHttp.ServeStream

open MachineInt Wire WorkerResponse
open NetHttp hiding bodyAllowedForStatus

structure URL where
  path : Bytes
  rawPath : Bytes
  rawQuery : Bytes
  deriving DecidableEq

def slash : UInt8 := 47
def star : UInt8 := 42
def question : UInt8 := 63

def parseRequestURI (raw : Bytes) : Option URL :=
  if raw = [] ∨ (raw.head? ≠ some slash ∧ raw ≠ [star]) then none
  else
    let path := raw.takeWhile (· ≠ question)
    let query := (raw.dropWhile (· ≠ question)).drop 1
    (pathUnescape path).map fun decoded =>
      if decoded ≠ path then ⟨decoded, path, query⟩ else ⟨path, [], query⟩

/-- `bodyDone`: the whole request body is in when the handler is over. -/
structure Request where
  method : String
  path : Bytes
  bodyDone : Bool
  deriving DecidableEq

def Request.isHead (req : Request) : Bool := req.method == "HEAD"

inductive Op where
  | edit (change : Header → Header)
  | writeHeader (statusCode : Int)
  | write (p : Bytes)
  | flush

structure Program where
  ops : List Op
  panics : Bool

inductive Control where
  | start
  | calls (ops : List Op)
  | writing (maxFrame : Int32) (p : Bytes) (total : Nat) (ops : List Op)
  | finished

/-- `results` lists what each `Write` returned. -/
structure Machine where
  rw : ResponseWriter
  control : Control
  results : List (Nat × Option WriteErr)

def Machine.new (req : Request) : Machine := ⟨ResponseWriter.new req.isHead, .start, []⟩

section Run

variable (env : Env)

/-- After the handler returned. -/
def finish (bodyDone : Bool) (rw : ResponseWriter) : ResponseWriter :=
  if rw.clViolated then reset env rw errCodeInternal
  else if rw.err = none then
    match endStream env rw with
    | (some .shortContentLength, rw) => reset env rw errCodeInternal
    | (none, rw) => if bodyDone then rw else reset env rw errCodeNo
    | (some _, rw) => rw
  else rw

/-- After the handler panicked. -/
def recover (rw : ResponseWriter) : ResponseWriter :=
  if rw.wroteHeaders = false then
    (writeHeaders env { rw with
      status := 500
      header := rw.header.del "Content-Length"
      declaredCL := -1 } true).2
  else reset env rw errCodeInternal

def call (m : Machine) (rest : List Op) : Op → Machine
  | .edit change =>
      { m with rw := { m.rw with header := change m.rw.header }, control := .calls rest }
  | .writeHeader statusCode =>
      { m with rw := writeHeader env m.rw statusCode, control := .calls rest }
  | .flush => { m with rw := flush env m.rw, control := .calls rest }
  | .write p =>
      match beginWrite env m.rw p with
      | .returned count err rw => ⟨rw, .calls rest, m.results ++ [(count, err)]⟩
      | .sending rw => { m with rw := rw, control := .writing (maxFrame env rw) p 0 rest }

variable (req : Request) (prog : Program)

def step (m : Machine) : Machine :=
  match m.control with
  | .start =>
      match parseRequestURI req.path with
      | none => { m with rw := reset env m.rw errCodeProtocol, control := .finished }
      | some _ => { m with control := .calls prog.ops }
  | .calls [] =>
      { m with
        rw := if prog.panics then recover env m.rw else finish env req.bodyDone m.rw
        control := .finished }
  | .calls (op :: rest) => call env m rest op
  | .writing maxFrame p total rest =>
      if p = [] then { m with control := .calls rest, results := m.results ++ [(total, none)] }
      else
        match sendChunk env m.rw maxFrame p with
        | .failed err rw => ⟨rw, .calls rest, m.results ++ [(total, some err)]⟩
        | .sent got rw =>
            { m with rw := rw, control := .writing maxFrame (p.drop got) (total + got) rest }
  | .finished => m

def after (count : Nat) : Machine := (step env req prog)^[count] (Machine.new req)

end Run

/-! The grammar. -/

def Interim (frame : Out) : Prop :=
  ∃ status header, frame = .headers status header false ∧ 100 ≤ status ∧ status ≤ 199 ∧
    status ≠ 101 ∧ header.has "Content-Length" = false

def Opening (frames : List Out) : Prop := ∀ frame ∈ frames, Interim frame

def FinalStatus (status : Int) : Prop := ¬ (100 ≤ status ∧ status ≤ 199)

/-- Interim blocks, final HEADERS and body so far; only where a body may be. -/
inductive Streaming (isHead : Bool) : List Out → Prop where
  | intro (interims : List Out) (status : Int) (header : Header) (chunks : List Bytes)
      (opening : Opening interims) (final : FinalStatus status) (notHead : isHead = false)
      (allowed : bodyAllowedForStatus status = true) :
      Streaming isHead
        (interims ++ .headers status header false :: chunks.map fun chunk => .data chunk false)

/-- END_STREAM has been submitted. -/
inductive Ended (isHead : Bool) : List Out → Prop where
  | headers (interims : List Out) (status : Int) (header : Header) (opening : Opening interims)
      (final : FinalStatus status) : Ended isHead (interims ++ [.headers status header true])
  | data (frames : List Out) (streaming : Streaming isHead frames) :
      Ended isHead (frames ++ [.data [] true])

inductive Matches (isHead : Bool) : List Out → Prop where
  | ended (frames : List Out) (ended : Ended isHead frames) : Matches isHead frames
  | endedEarly (frames : List Out) (ended : Ended isHead frames) :
      Matches isHead (frames ++ [.rstStream errCodeNo])
  | aborted (frames : List Out) (streaming : Streaming isHead frames) :
      Matches isHead (frames ++ [.rstStream errCodeInternal])
  | refused (frames : List Out) (code : ErrCode) (opening : Opening frames) :
      Matches isHead (frames ++ [.rstStream code])

/-- On the way to a match. -/
def Viable (isHead : Bool) (frames : List Out) : Prop :=
  Opening frames ∨ Streaming isHead frames ∨ Matches isHead frames

/-- The writer answers every submit with nil, and credit keeps coming. -/
structure Alive (env : Env) : Prop where
  submit : ∀ k, env.submit k = none
  grant : ∀ k, ∃ avail, env.grant k = some avail ∧ 0 < avail

/-- A `Write` about to be made that is neither discarded nor refused is of fewer
than 2^31 bytes. -/
def Sendable (env : Env) (m : Machine) : Prop :=
  ∀ p rest rw, m.control = .calls (.write p :: rest) → beginWrite env m.rw p = .sending rw →
    p.length < 2 ^ 31

theorem opening_snoc {frames : List Out} {frame : Out} (opening : Opening frames)
    (interim : Interim frame) : Opening (frames ++ [frame]) := by
  intro other member
  rcases List.mem_append.mp member with old | new
  · exact opening other old
  · rwa [List.mem_singleton.mp new]

theorem streaming_data {isHead : Bool} {frames : List Out} (streaming : Streaming isHead frames)
    (payload : Bytes) : Streaming isHead (frames ++ [.data payload false]) := by
  obtain ⟨interims, status, header, chunks, opening, final, notHead, allowed⟩ := streaming
  have grown := Streaming.intro interims status header (chunks ++ [payload]) opening final notHead
    allowed
  simpa using grown

/-- While the handler runs: the flags say where in the grammar the stream is. -/
structure Running (isHead : Bool) (rw : ResponseWriter) : Prop where
  head : rw.isHead = isHead
  final : FinalStatus rw.status
  shape : rw.prepared = true → rw.noBody = (isHead || !bodyAllowedForStatus rw.status)
  opening : rw.wroteHeaders = false → Opening rw.frames
  streaming : rw.wroteHeaders = true →
    rw.prepared = true ∧ rw.noBody = false ∧ Streaming isHead rw.frames
  err : rw.err = none ∨ rw.clViolated = true
  violated : rw.clViolated = true → rw.wroteHeaders = true

theorem running_new (isHead : Bool) : Running isHead (ResponseWriter.new isHead) := by
  constructor
  · rfl
  · simp [ResponseWriter.new, FinalStatus]
  · simp [ResponseWriter.new]
  · intro _ frame member
    simp [ResponseWriter.new] at member
  · simp [ResponseWriter.new]
  · exact Or.inl rfl
  · simp [ResponseWriter.new]

/-! What the loop of `Write` asks for. -/

theorem maxFrame_pos (env : Env) (rw : ResponseWriter) : 0 < (maxFrame env rw).toInt := by
  unfold maxFrame
  simp only []
  split
  · decide
  · rename_i positive
    rw [Int32.le_iff_toInt_le, Int32.toInt_zero] at positive
    omega

theorem want_pos {len : Nat} {maxFrame : Int32} (nonempty : 0 < len) (small : len < 2 ^ 31)
    (positive : 0 < maxFrame.toInt) : 0 < (minimum (Int32.ofNat len) maxFrame).toInt := by
  have kept : (Int32.ofNat len).toInt = len :=
    Int32.toInt_ofNat'.trans (bmod_of_representable ⟨by omega, by omega⟩)
  rw [minimum_toInt, kept]
  omega

/-- Past 2^31 the conversion drops at least the bit 2^31: what remains when the
asked bytes are gone is still too long. -/
theorem want_large {len : Nat} {maxFrame : Int32} (large : 2 ^ 31 ≤ len)
    (positive : 0 < (minimum (Int32.ofNat len) maxFrame).toInt) :
    2 ^ 31 + (minimum (Int32.ofNat len) maxFrame).toInt ≤ len := by
  have residue : (Int32.ofNat len).toInt = Int.bmod len (2 ^ 32) := Int32.toInt_ofNat'
  rw [minimum_toInt] at positive ⊢
  rw [Int.bmod_def] at residue
  split at residue <;> omega

section Alive

variable {env : Env} {isHead : Bool} (alive : Alive env)

include alive

theorem submit_alive (rw : ResponseWriter) (frame : Out) :
    submit env rw frame =
      (none, { rw with submits := rw.submits + 1, frames := rw.frames ++ [frame] }) := by
  simp [submit, alive.submit]

theorem reset_alive (rw : ResponseWriter) (code : ErrCode) :
    reset env rw code =
      { rw with submits := rw.submits + 1, frames := rw.frames ++ [.rstStream code] } := by
  simp [reset, submit_alive alive]

theorem writeHeader_running {rw : ResponseWriter} (running : Running isHead rw) (code : Int) :
    Running isHead (writeHeader env rw code) := by
  unfold writeHeader
  split
  · exact running
  rename_i unresolved
  have fresh : rw.wroteHeaders = false := by
    cases wrote : rw.wroteHeaders with
    | false => rfl
    | true => exact absurd (Or.inl (running.streaming wrote).1) unresolved
  split
  · rename_i informational
    split
    · unfold writeInformational
      split
      · exact running
      · rename_i notSwitching
        simp only [submit_alive alive, latch]
        constructor
        · exact running.head
        · exact running.final
        · exact running.shape
        · intro _
          refine opening_snoc (running.opening fresh) ⟨code, _, rfl, informational.1,
            informational.2, notSwitching, ?_⟩
          split
          · exact Header.has_del _ _
          · rename_i absent
            simpa using absent
        · exact fun wrote => absurd wrote (by simp [fresh])
        · exact running.err
        · exact running.violated
    · exact running
  · rename_i final
    constructor
    · exact running.head
    · exact final
    · intro prepared
      exact absurd (Or.inl prepared) unresolved
    · exact running.opening
    · exact running.streaming
    · exact running.err
    · exact running.violated

omit alive in
theorem declare_same (rw : ResponseWriter) :
    ∃ declared header, declare rw = { rw with declaredCL := declared, header := header } := by
  simp only [declare]
  split
  · exact ⟨-1, rw.header, rfl⟩
  · split
    · rename_i v _
      exact ⟨v, rw.header, rfl⟩
    · exact ⟨-1, _, rfl⟩

omit alive in
/-- The shape of a response is resolved once. -/
theorem prepare_of_prepared {rw : ResponseWriter} (ready : rw.prepared = true) : prepare rw = rw :=
  if_pos ready

omit alive in
theorem prepare_same (rw : ResponseWriter) :
    ∃ status noBody declared header, prepare rw = { rw with
      prepared := true
      status := status
      noBody := noBody
      declaredCL := declared
      header := header } ∧
      (FinalStatus rw.status → FinalStatus status) ∧
      (rw.prepared = false → noBody = (rw.isHead || !bodyAllowedForStatus status)) ∧
      (rw.prepared = true → status = rw.status ∧ noBody = rw.noBody) := by
  unfold prepare
  split
  · rename_i prepared
    refine ⟨rw.status, rw.noBody, rw.declaredCL, rw.header, ?_, id, ?_, fun _ => ⟨rfl, rfl⟩⟩
    · rw [← prepared]
    · exact fun unprepared => absurd prepared (by simp [unprepared])
  · rename_i unprepared
    simp only []
    generalize chosen : (if rw.status = 0 then 200 else rw.status) = status
    obtain ⟨declared, header, same⟩ := declare_same { rw with
      prepared := true
      status := status
      noBody := rw.isHead || !bodyAllowedForStatus status }
    refine ⟨status, _, declared, header, same, ?_, fun _ => rfl, fun prepared => ?_⟩
    · intro final
      unfold FinalStatus at final ⊢
      split at chosen <;> omega
    · exact absurd prepared unprepared

omit alive in
/-- Preparing settles the shape and nothing the grammar can see. -/
theorem prepare_running {rw : ResponseWriter} (running : Running isHead rw) :
    Running isHead (prepare rw) ∧ (prepare rw).prepared = true ∧ (prepare rw).err = rw.err := by
  obtain ⟨status, noBody, declared, header, same, final, fresh, kept⟩ := prepare_same rw
  rw [same]
  refine ⟨?_, rfl, rfl⟩
  constructor
  · exact running.head
  · exact final running.final
  · intro _
    cases prepared : rw.prepared with
    | false => exact running.head ▸ fresh prepared
    | true =>
        obtain ⟨rfl, rfl⟩ := kept prepared
        exact running.shape prepared
  · exact running.opening
  · intro wrote
    obtain ⟨prepared, body, streaming⟩ := running.streaming wrote
    exact ⟨rfl, (kept prepared).2.trans body, streaming⟩
  · exact running.err
  · exact running.violated

/-- The final HEADERS of a response with a body. -/
theorem writeHeaders_running {rw : ResponseWriter} (running : Running isHead rw)
    (prepared : rw.prepared = true) (body : rw.noBody = false) :
    (writeHeaders env rw false).1 = none ∧ Running isHead (writeHeaders env rw false).2 ∧
      (writeHeaders env rw false).2.wroteHeaders = true ∧
      (writeHeaders env rw false).2.err = rw.err := by
  unfold writeHeaders
  split
  · rename_i wrote
    exact ⟨rfl, running, wrote, rfl⟩
  · rename_i fresh
    have same : prepare rw = rw := by simp [prepare, prepared]
    have unwritten : rw.wroteHeaders = false := by simpa using fresh
    simp only [same, submit_alive alive, latch]
    refine ⟨trivial, ?_, trivial, trivial⟩
    have shape := running.shape prepared
    rw [body] at shape
    obtain ⟨notHead, allowed⟩ : isHead = false ∧ bodyAllowedForStatus rw.status = true := by
      simpa using shape.symm
    have streaming := Streaming.intro rw.frames rw.status rw.header []
      (running.opening unwritten) running.final notHead allowed
    constructor
    · exact running.head
    · exact running.final
    · exact running.shape
    · simp
    · exact fun _ => ⟨prepared, body, by simpa using streaming⟩
    · exact running.err
    · exact fun _ => rfl

omit alive in
/-- An empty or non-empty DATA frame in the middle of the body. -/
theorem data_running {rw : ResponseWriter} (running : Running isHead rw)
    (wrote : rw.wroteHeaders = true)
    (payload : Bytes) :
    Running isHead { rw with
      submits := rw.submits + 1
      frames := rw.frames ++ [.data payload false] } := by
  obtain ⟨prepared, body, streaming⟩ := running.streaming wrote
  constructor
  · exact running.head
  · exact running.final
  · exact running.shape
  · exact fun fresh => absurd fresh (by simp [wrote])
  · exact fun _ => ⟨prepared, body, streaming_data streaming payload⟩
  · exact running.err
  · exact running.violated

theorem flush_running {rw : ResponseWriter} (running : Running isHead rw) :
    Running isHead (flush env rw) := by
  unfold flush
  split
  · exact running
  · obtain ⟨ready, prepared, -⟩ := prepare_running running
    simp only []
    split
    · exact ready
    · rename_i body
      obtain ⟨sent, after, wrote, -⟩ :=
        writeHeaders_running alive ready prepared (by simpa using body)
      rw [if_neg (by simp [sent]), submit_alive alive]
      exact data_running after wrote []

/-- `Write` before its loop: it may return at once, or go on with the final
HEADERS out and no error latched. -/
theorem beginWrite_running {rw : ResponseWriter} (running : Running isHead rw) (p : Bytes) :
    (∃ count err after, beginWrite env rw p = .returned count err after ∧ Running isHead after) ∨
      ∃ after, beginWrite env rw p = .sending after ∧ Running isHead after ∧
        after.wroteHeaders = true ∧ after.err = none := by
  unfold beginWrite
  cases failed : rw.err with
  | some err => exact Or.inl ⟨0, some err, rw, rfl, running⟩
  | none =>
      obtain ⟨ready, prepared, sameErr⟩ := prepare_running running
      simp only []
      split
      · exact Or.inl ⟨_, _, _, rfl, ready⟩
      rename_i body
      obtain ⟨sent, after, wrote, keptErr⟩ :=
        writeHeaders_running alive ready prepared (by simpa using body)
      have clean : (writeHeaders env (prepare rw) false).2.err = none := by
        rw [keptErr, sameErr, failed]
      generalize outcome : writeHeaders env (prepare rw) false = result at *
      obtain ⟨result, next⟩ := result
      obtain rfl : result = none := sent
      simp only []
      split
      · exact Or.inl ⟨_, _, _, rfl, after⟩
      · split
        · refine Or.inl ⟨_, _, _, rfl, ?_⟩
          exact ⟨after.head, after.final, after.shape, after.opening, after.streaming, Or.inr rfl,
            fun _ => wrote⟩
        · exact Or.inr ⟨_, rfl, after, wrote, clean⟩

theorem reserve_alive (rw : ResponseWriter) (want : Int32) :
    ∃ got reserves, reserve env rw want = ((got, false), { rw with reserves := reserves }) ∧
      (want.toInt ≤ 0 → got.toInt = 0) ∧
      (0 < want.toInt → 0 < got.toInt ∧ got.toInt ≤ want.toInt) := by
  unfold reserve
  split
  · rename_i idle
    rw [Int32.le_iff_toInt_le, Int32.toInt_zero] at idle
    exact ⟨0, rw.reserves, rfl, fun _ => rfl, fun positive => absurd idle (by omega)⟩
  · rename_i asked
    rw [Int32.le_iff_toInt_le, Int32.toInt_zero] at asked
    obtain ⟨avail, granted, credit⟩ := alive.grant rw.reserves
    rw [Int32.lt_iff_toInt_lt, Int32.toInt_zero] at credit
    rw [granted]
    refine ⟨_, _, rfl, fun idle => absurd idle asked, fun _ => ?_⟩
    rw [smaller_toInt]
    omega

/-- An iteration of `Write` submits a frame whatever it asked for. -/
theorem sendChunk_alive (rw : ResponseWriter) (maxFrame : Int32) (p : Bytes) :
    ∃ got reserves, sendChunk env rw maxFrame p = .sent got { rw with
        reserves := reserves
        submits := rw.submits + 1
        frames := rw.frames ++ [.data (p.take got) false]
        written := int64 (rw.written + got) } ∧
      (0 < maxFrame.toInt → 0 < p.length → p.length < 2 ^ 31 → 0 < got) ∧
      (2 ^ 31 ≤ p.length → 2 ^ 31 ≤ p.length - got) := by
  obtain ⟨got, reserves, same, idle, asked⟩ :=
    reserve_alive alive rw (minimum (Int32.ofNat p.length) maxFrame)
  refine ⟨got.toInt.toNat, reserves, ?_, ?_, ?_⟩
  · simp only [sendChunk, same, submit_alive alive]
    rfl
  · intro positive nonempty small
    have := asked (want_pos nonempty small positive)
    omega
  · intro large
    by_cases any : 0 < (minimum (Int32.ofNat p.length) maxFrame).toInt
    · have := asked any
      have := want_large large any
      omega
    · have := idle (by omega)
      omega

theorem sendChunk_running {rw : ResponseWriter} (running : Running isHead rw)
    (wrote : rw.wroteHeaders = true) {maxFrame : Int32} (positive : 0 < maxFrame.toInt)
    (p : Bytes) :
    ∃ got after, sendChunk env rw maxFrame p = .sent got after ∧ Running isHead after ∧
      after.wroteHeaders = true ∧ (0 < p.length → p.length < 2 ^ 31 → 0 < got) := by
  obtain ⟨got, reserves, sent, advances, -⟩ := sendChunk_alive alive rw maxFrame p
  have streamed := data_running running wrote (p.take got)
  exact ⟨got, _, sent,
    ⟨streamed.head, streamed.final, streamed.shape, streamed.opening, streamed.streaming,
      streamed.err, streamed.violated⟩, wrote, advances positive⟩

/-! The end of the handler, either way. -/

theorem writeHeaders_ended (isHead : Bool) (rw : ResponseWriter) (opening : Opening rw.frames)
    (unwritten : rw.wroteHeaders = false) (final : FinalStatus rw.status) :
    (writeHeaders env rw true).1 = none ∧ Ended isHead (writeHeaders env rw true).2.frames := by
  obtain ⟨status, noBody, declared, header, same, keeps, -⟩ := prepare_same rw
  simp only [writeHeaders, unwritten, Bool.false_eq_true, ↓reduceIte, same, submit_alive alive,
    latch]
  exact ⟨trivial, Ended.headers rw.frames status header opening (keeps final)⟩

theorem recover_matches {rw : ResponseWriter} (running : Running isHead rw) :
    Matches isHead (recover env rw).frames := by
  unfold recover
  split
  · rename_i unwritten
    -- 500 replaces whatever status the handler had chosen
    obtain ⟨-, ended⟩ := writeHeaders_ended alive isHead { rw with
      status := 500
      header := rw.header.del "Content-Length"
      declaredCL := -1 } (running.opening unwritten) unwritten (by simp [FinalStatus])
    exact Matches.ended _ ended
  · rename_i wrote
    rw [reset_alive alive]
    exact Matches.aborted _ (running.streaming (by simpa using wrote)).2.2

/-- `endStream` refuses a body shorter than declared, before or after the
HEADERS; otherwise it ends the stream. -/
theorem endStream_ended {rw : ResponseWriter} (running : Running isHead rw) :
    ((endStream env rw).1 = some .shortContentLength ∧
      (Opening (endStream env rw).2.frames ∨ Streaming isHead (endStream env rw).2.frames)) ∨
      ((endStream env rw).1 = none ∧ Ended isHead (endStream env rw).2.frames) := by
  obtain ⟨ready, -⟩ := prepare_running running
  simp only [endStream]
  cases wrote : (prepare rw).wroteHeaders with
  | false =>
      split
      · exact Or.inl ⟨rfl, Or.inl (ready.opening wrote)⟩
      · exact Or.inr (writeHeaders_ended alive isHead _ (ready.opening wrote) wrote ready.final)
  | true =>
      have streaming := (ready.streaming wrote).2.2
      split
      · exact Or.inl ⟨rfl, Or.inr streaming⟩
      · simp only [Bool.true_eq_false, ↓reduceIte, submit_alive alive, latch]
        exact Or.inr ⟨trivial, Ended.data _ streaming⟩

theorem finish_matches {rw : ResponseWriter} (running : Running isHead rw) (bodyDone : Bool) :
    Matches isHead (finish env bodyDone rw).frames := by
  unfold finish
  split
  · rename_i violated
    rw [reset_alive alive]
    exact Matches.aborted _ (running.streaming (running.violated violated)).2.2
  · rename_i clean
    rw [if_pos (running.err.resolve_right (by simpa using clean))]
    have ended := endStream_ended alive running
    generalize endStream env rw = outcome at ended
    obtain ⟨result, next⟩ := outcome
    rcases ended with ⟨short, opening | streaming⟩ | ⟨sent, ended⟩
    · obtain rfl : result = some .shortContentLength := short
      simp only [reset_alive alive]
      exact Matches.refused _ _ opening
    · obtain rfl : result = some .shortContentLength := short
      simp only [reset_alive alive]
      exact Matches.aborted _ streaming
    · obtain rfl : result = none := sent
      cases bodyDone with
      | false =>
          simp only [Bool.false_eq_true, ↓reduceIte, reset_alive alive]
          exact Matches.endedEarly _ ended
      | true => exact Matches.ended _ ended

/-! Whole runs. -/

/-- Where the machine is in the grammar, by its control. -/
def Located (isHead : Bool) (m : Machine) : Prop :=
  match m.control with
  | .start => m.rw = ResponseWriter.new isHead
  | .calls _ => Running isHead m.rw
  | .writing maxFrame _ _ _ =>
      Running isHead m.rw ∧ m.rw.wroteHeaders = true ∧ 0 < maxFrame.toInt
  | .finished => Matches isHead m.rw.frames

theorem call_located {m : Machine} (running : Running isHead m.rw) (rest : List Op) (op : Op) :
    Located isHead (call env m rest op) := by
  cases op with
  | edit change =>
      exact ⟨running.head, running.final, running.shape, running.opening, running.streaming,
        running.err, running.violated⟩
  | writeHeader statusCode => exact writeHeader_running alive running statusCode
  | flush => exact flush_running alive running
  | write p =>
      rcases beginWrite_running alive running p with
        ⟨count, err, after, begun, kept⟩ | ⟨after, begun, kept, wrote, -⟩
      · simp only [call, begun]
        exact kept
      · simp only [call, begun]
        exact ⟨kept, wrote, maxFrame_pos env after⟩

theorem step_located (req : Request) (prog : Program) {m : Machine}
    (located : Located req.isHead m) : Located req.isHead (step env req prog m) := by
  obtain ⟨rw, control, results⟩ := m
  unfold step
  cases control with
  | start =>
      obtain rfl : rw = ResponseWriter.new req.isHead := located
      simp only []
      split
      · -- an unparsable path is answered before the handler is called
        simp only [Located, reset_alive alive]
        exact Matches.refused [] errCodeProtocol (by simp [Opening])
      · exact running_new req.isHead
  | calls ops =>
      have running : Running req.isHead rw := located
      cases ops with
      | nil =>
          simp only [Located]
          split
          · exact recover_matches alive running
          · exact finish_matches alive running req.bodyDone
      | cons op rest => exact call_located alive running rest op
  | writing maxFrame p total rest =>
      obtain ⟨running, wrote, positive⟩ := located
      simp only []
      split
      · exact running
      · obtain ⟨got, after, sent, kept, still, -⟩ :=
          sendChunk_running alive running wrote positive p
        simp only [sent]
        exact ⟨kept, still, positive⟩
  | finished => exact located

theorem after_located (req : Request) (prog : Program) (count : Nat) :
    Located req.isHead (after env req prog count) := by
  have fresh : Located req.isHead (Machine.new req) := rfl
  rw [after]
  exact Function.Iterate.rec _ fresh (fun _ => step_located alive req prog) count

omit alive in
theorem located_viable {m : Machine} (located : Located isHead m) :
    Viable isHead m.rw.frames := by
  have split : Running isHead m.rw → Viable isHead m.rw.frames := by
    intro running
    cases wrote : m.rw.wroteHeaders with
    | false => exact Or.inl (running.opening wrote)
    | true => exact Or.inr (Or.inl (running.streaming wrote).2.2)
  obtain ⟨rw, control, results⟩ := m
  cases control with
  | start =>
      obtain rfl : rw = ResponseWriter.new isHead := located
      exact split (running_new isHead)
  | calls ops => exact split located
  | writing maxFrame p total rest => exact split located.1
  | finished => exact Or.inr (Or.inr located)

/-! Termination: a `Write` short enough for its length to survive the conversion
sends at least a byte in each iteration. -/

omit alive in
theorem after_succ (req : Request) (prog : Program) (count : Nat) :
    after env req prog (count + 1) = step env req prog (after env req prog count) :=
  Function.iterate_succ_apply' _ _ _

omit alive in
theorem after_add (req : Request) (prog : Program) (count more : Nat) :
    after env req prog (count + more) = (step env req prog)^[more] (after env req prog count) := by
  rw [Nat.add_comm]
  exact Function.iterate_add_apply _ _ _ _

def opCost : Op → Nat
  | .write p => p.length + 3
  | _ => 1

def cost (ops : List Op) : Nat := (ops.map opCost).sum

def weight (prog : Program) : Control → Nat
  | .start => cost prog.ops + 2
  | .calls ops => cost ops + 1
  | .writing _ p _ ops => p.length + cost ops + 2
  | .finished => 0

def Short (m : Machine) : Prop :=
  match m.control with
  | .writing _ p _ _ => p.length < 2 ^ 31
  | _ => True

theorem call_weight (prog : Program) {m : Machine} (running : Running isHead m.rw) (rest : List Op)
    (op : Op) : weight prog (call env m rest op).control < weight prog (.calls (op :: rest)) := by
  cases op with
  | edit change => simp [call, weight, cost, opCost]
  | writeHeader statusCode => simp [call, weight, cost, opCost]
  | flush => simp [call, weight, cost, opCost]
  | write p =>
      rcases beginWrite_running alive running p with
        ⟨count, err, after, begun, -⟩ | ⟨after, begun, -⟩ <;>
      simp only [call, begun, weight, cost, opCost, List.map_cons, List.sum_cons] <;> omega

theorem step_weight (req : Request) (prog : Program) {m : Machine}
    (located : Located req.isHead m) (short : Short m) (busy : m.control ≠ .finished) :
    weight prog (step env req prog m).control < weight prog m.control := by
  obtain ⟨rw, control, results⟩ := m
  unfold step
  cases control with
  | start =>
      simp only []
      split <;> simp [weight]
  | calls ops =>
      cases ops with
      | nil => simp [weight]
      | cons op rest => exact call_weight alive prog located rest op
  | writing maxFrame p total rest =>
      obtain ⟨running, wrote, positive⟩ := located
      simp only []
      split
      · simp only [weight]
        omega
      · rename_i nonempty
        have left : 0 < p.length := List.length_pos_iff.mpr nonempty
        obtain ⟨got, after, sent, -, -, progress⟩ :=
          sendChunk_running alive running wrote positive p
        have advanced := progress left short
        simp only [sent, weight, List.length_drop]
        omega
  | finished => exact absurd rfl busy

theorem step_short (req : Request) (prog : Program) {m : Machine}
    (located : Located req.isHead m) (sendable : Sendable env m) (short : Short m) :
    Short (step env req prog m) := by
  obtain ⟨rw, control, results⟩ := m
  unfold step
  cases control with
  | start =>
      simp only []
      split <;> trivial
  | calls ops =>
      cases ops with
      | nil => trivial
      | cons op rest =>
          cases op with
          | write p =>
              rcases beginWrite_running alive located p with
                ⟨count, err, after, begun, -⟩ | ⟨after, begun, -⟩
              · simp only [call, begun]
                trivial
              · simp only [call, begun]
                exact sendable p rest after rfl begun
          | _ => trivial
  | writing maxFrame p total rest =>
      obtain ⟨running, wrote, positive⟩ := located
      simp only []
      split
      · trivial
      · obtain ⟨got, after, sent, -⟩ := sendChunk_running alive running wrote positive p
        have bound : p.length < 2 ^ 31 := short
        simp only [sent, Short, List.length_drop]
        omega
  | finished => exact short

theorem after_short (req : Request) (prog : Program)
    (sendable : ∀ n, Sendable env (after env req prog n)) (count : Nat) :
    Short (after env req prog count) := by
  induction count with
  | zero => trivial
  | succ count ih =>
      rw [after_succ]
      exact step_short alive req prog (after_located alive req prog count) (sendable count) ih

theorem finishes (req : Request) (prog : Program)
    (sendable : ∀ n, Sendable env (after env req prog n)) :
    ∃ n, (after env req prog n).control = .finished := by
  refine Transition.iterate_reaches (step env req prog) (Machine.new req)
    (·.control = .finished) (weight prog ·.control) fun count busy => ?_
  rw [Function.iterate_succ_apply']
  exact step_weight alive req prog (after_located alive req prog count)
    (after_short alive req prog sendable count) busy

/-! And a longer one never gets below 2^31 bytes. -/

def Overlong (m : Machine) : Prop :=
  match m.control with
  | .writing _ p _ _ => 2 ^ 31 ≤ p.length
  | _ => False

theorem step_overlong (req : Request) (prog : Program) {m : Machine} (overlong : Overlong m) :
    Overlong (step env req prog m) := by
  obtain ⟨rw, control, results⟩ := m
  cases control with
  | writing maxFrame p total rest =>
      have large : 2 ^ 31 ≤ p.length := overlong
      have nonempty : p ≠ [] := by
        rintro rfl
        simp at large
      obtain ⟨got, reserves, sent, -, remains⟩ := sendChunk_alive alive rw maxFrame p
      simp only [step, if_neg nonempty, sent, Overlong, List.length_drop]
      exact remains large
  | _ => exact overlong.elim

theorem overlong_forever (req : Request) (prog : Program) {m : Machine} (overlong : Overlong m)
    (more : Nat) : Overlong ((step env req prog)^[more] m) :=
  Function.Iterate.rec _ overlong (fun _ => step_overlong alive req prog) more

omit alive in
theorem finished_forever (req : Request) (prog : Program) {count : Nat}
    (finished : (after env req prog count).control = .finished) (more : Nat) :
    (after env req prog (count + more)).control = .finished := by
  induction more with
  | zero => exact finished
  | succ more ih =>
      rw [← Nat.add_assoc, after_succ]
      simp only [step, ih]

theorem never_finishes (req : Request) (prog : Program) {count : Nat}
    (unsendable : ¬ Sendable env (after env req prog count)) (n : Nat) :
    (after env req prog n).control ≠ .finished := by
  simp only [Sendable, not_forall, Nat.not_lt] at unsendable
  obtain ⟨p, rest, next, control, begun, large⟩ := unsendable
  have overlong : Overlong (after env req prog (count + 1)) := by
    rw [after_succ]
    simp only [step, control, call, begun]
    exact large
  intro finished
  -- both conditions are kept for ever, so they would meet
  have stuck := overlong_forever alive req prog overlong n
  rw [← after_add, Overlong, Nat.add_comm, finished_forever req prog finished (count + 1)] at stuck
  exact stuck

end Alive

/-! Programs of small writes need no look at the run. -/

def pending (prog : Program) : Control → List Op
  | .start => prog.ops
  | .calls ops => ops
  | .writing _ _ _ ops => ops
  | .finished => []

theorem step_pending (env : Env) (req : Request) (prog : Program) (m : Machine) :
    pending prog (step env req prog m).control ⊆ pending prog m.control := by
  obtain ⟨rw, control, results⟩ := m
  unfold step
  cases control with
  | start =>
      simp only []
      split <;> simp [pending]
  | calls ops =>
      cases ops with
      | nil => simp [pending]
      | cons op rest =>
          cases op with
          | write p =>
              simp only [call]
              split <;> simp [pending]
          | _ => simp [call, pending]
  | writing maxFrame p total rest =>
      simp only []
      split
      · simp [pending]
      · split <;> simp [pending]
  | finished => simp [pending]

theorem after_pending (env : Env) (req : Request) (prog : Program) (n : Nat) :
    pending prog (after env req prog n).control ⊆ prog.ops := by
  induction n with
  | zero => exact List.Subset.refl _
  | succ n ih =>
      rw [after_succ]
      exact List.Subset.trans (step_pending env req prog _) ih

theorem sendable_of_small {env : Env} {req : Request} {prog : Program}
    (small : ∀ p, .write p ∈ prog.ops → p.length < 2 ^ 31) (n : Nat) :
    Sendable env (after env req prog n) := by
  have kept := after_pending env req prog n
  intro p rest rw control _
  rw [control] at kept
  exact small p (kept List.mem_cons_self)

theorem response_frames_match_iff (env : Env) (req : Request) (prog : Program)
    (alive : Alive env) :
    (∀ n, Viable req.isHead (after env req prog n).rw.frames) ∧
      ((∃ n, (after env req prog n).control = .finished ∧
          Matches req.isHead (after env req prog n).rw.frames) ↔
        ∀ n, Sendable env (after env req prog n)) := by
  refine ⟨fun n => located_viable (after_located alive req prog n), ?_, ?_⟩
  · rintro ⟨n, finished, -⟩ count
    by_contra unsendable
    exact never_finishes alive req prog unsendable n finished
  · intro sendable
    obtain ⟨n, finished⟩ := finishes alive req prog sendable
    have located := after_located alive req prog n
    rw [Located, finished] at located
    exact ⟨n, finished, located⟩

/-- A connection that takes every frame and never runs out of credit. -/
def openConn : Env := ⟨fun _ => none, fun _ => some 65535, fun _ => 16384⟩

theorem openConn_alive : Alive openConn :=
  ⟨fun _ => rfl, fun _ => ⟨65535, rfl, by decide⟩⟩

theorem beginWrite_undeclared {env : Env} {rw next : ResponseWriter} {p : Bytes}
    (clean : rw.err = none) (body : (prepare rw).noBody = false)
    (sent : writeHeaders env (prepare rw) false = (none, next)) (nonempty : p ≠ [])
    (undeclared : next.declaredCL < 0) : beginWrite env rw p = .sending next := by
  simp only [beginWrite, clean, body, sent, if_neg nonempty, Bool.false_eq_true, ↓reduceIte]
  exact if_neg fun limited => absurd limited.1 (by omega)

def get : Request := ⟨"GET", [slash], true⟩

def greet : Program :=
  { ops := [.writeHeader 103, .edit fun header => header.set "X-Greeting" "yes", .write [104, 105],
      .flush]
    panics := false }

theorem response_frames_match_iff_greet :
    ∃ n, (after openConn get greet n).control = .finished ∧
      Matches get.isHead (after openConn get greet n).rw.frames := by
  refine (response_frames_match_iff openConn get greet openConn_alive).2.mpr ?_
  apply sendable_of_small
  intro p called
  obtain rfl : p = [104, 105] := by simpa [greet] using called
  decide

/-- `int32` of the length is negative, nothing is asked for, and `Write` submits
empty DATA frames without end: neither END_STREAM nor RST_STREAM is ever sent. -/
theorem huge_write_never_ends :
    ¬ ∀ env req prog, Alive env →
      ∃ n, (after env req prog n).control = .finished ∧
        Matches req.isHead (after env req prog n).rw.frames := by
  intro claim
  obtain ⟨p, size⟩ : ∃ p : Bytes, p.length = 2 ^ 31 := ⟨_, List.length_replicate (a := 0)⟩
  have nonempty : p ≠ [] := by
    rintro rfl
    simp at size
  obtain ⟨n, finished, -⟩ := claim openConn get ⟨[.write p], false⟩ openConn_alive
  refine never_finishes openConn_alive get ⟨[.write p], false⟩ (?_ : ¬ Sendable _ (after _ _ _ 1)) n
    finished
  intro sendable
  obtain ⟨next, begun⟩ : ∃ next, beginWrite openConn (ResponseWriter.new false) p = .sending next :=
    ⟨_, beginWrite_undeclared rfl rfl rfl nonempty (by decide)⟩
  have short := sendable p [] next rfl begun
  omega

end ReverseHttp.ServeStream
