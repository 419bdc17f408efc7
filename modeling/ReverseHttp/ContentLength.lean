import ReverseHttp.ResponseBody

/-!
A declared Content-Length over a whole handler on a live connection: the bytes
submitted, the field `written` that counts them, and how the stream ends.
-/

namespace ReverseHttp.ContentLength

open MachineInt Wire WorkerResponse ServeStream ResponseBody
open NetHttp hiding bodyAllowedForStatus

def frameBytes : Out → Nat
  | .data payload _ => payload.length
  | .headers .. | .rstStream .. => 0

/-- The DATA bytes submitted. -/
def dataBytes (frames : List Out) : Nat := (frames.map frameBytes).sum

@[simp]
theorem dataBytes_snoc (frames : List Out) (frame : Out) :
    dataBytes (frames ++ [frame]) = dataBytes frames + frameBytes frame := by
  simp [dataBytes]

def Ends : Out → Prop
  | .headers _ _ endStream => endStream = true
  | .data _ endStream => endStream = true
  | .rstStream _ => False

/-- The response about to be resolved may carry a body, and its Content-Length
parses to `v`. -/
structure Declares (v : Nat) (rw : ResponseWriter) : Prop where
  length : parseUint63 (rw.header.get "Content-Length") = some v
  method : rw.isHead = false
  status : bodyAllowedForStatus (if rw.status = 0 then 200 else rw.status) = true

/-- The step of the run that resolves the response shape declares `v`. -/
def Resolves (env : Env) (req : Request) (prog : Program) (v : Nat) : Prop :=
  ∃ n, (after env req prog n).rw.prepared = false ∧
    (after env req prog (n + 1)).rw.prepared = true ∧ Declares v (after env req prog n).rw

/-! When the shape is resolved. -/

section Prepared

variable (env : Env)

@[simp]
theorem submit_prepared (rw : ResponseWriter) (frame : Out) :
    (submit env rw frame).2.prepared = rw.prepared := by
  unfold submit
  split <;> rfl

@[simp]
theorem latch_prepared (result : Option WriteErr × ResponseWriter) :
    (latch result).prepared = result.2.prepared := by
  unfold latch
  split <;> rfl

@[simp]
theorem reset_prepared (rw : ResponseWriter) (code : ErrCode) :
    (reset env rw code).prepared = rw.prepared := by
  simp [reset]

@[simp]
theorem prepare_prepared (rw : ResponseWriter) : (prepare rw).prepared = true := by
  obtain ⟨status, noBody, declared, header, same, -⟩ := prepare_same rw
  rw [same]

theorem writeHeaders_prepared {rw : ResponseWriter} (endStream : Bool)
    (ready : rw.prepared = true) : (writeHeaders env rw endStream).2.prepared = true := by
  unfold writeHeaders
  split
  · exact ready
  · simp

@[simp]
theorem writeHeader_prepared (rw : ResponseWriter) (code : Int) :
    (writeHeader env rw code).prepared = rw.prepared := by
  unfold writeHeader
  split
  · rfl
  split
  · split
    · unfold writeInformational
      split <;> simp
    · rfl
  · rfl

theorem flush_prepared {rw : ResponseWriter} (clean : rw.err = none) :
    (flush env rw).prepared = true := by
  have ready := prepare_prepared rw
  simp only [flush, clean, ne_eq, not_true_eq_false, ↓reduceIte]
  split
  · exact ready
  · have sent := writeHeaders_prepared env false ready
    split
    · exact sent
    · simpa using sent

def begunWriter : Begun → ResponseWriter
  | .returned _ _ rw => rw
  | .sending rw => rw

theorem beginWrite_prepared {rw : ResponseWriter} (clean : rw.err = none) (p : Bytes) :
    (begunWriter (beginWrite env rw p)).prepared = true := by
  have ready := prepare_prepared rw
  have sent := writeHeaders_prepared env false ready
  simp only [beginWrite, clean]
  split
  · exact ready
  · generalize writeHeaders env (prepare rw) false = result at sent
    obtain ⟨err, next⟩ := result
    cases err with
    | some err => exact sent
    | none =>
        simp only []
        split
        · exact sent
        split
        · exact sent
        · exact sent

theorem endStream_prepared (rw : ResponseWriter) : (endStream env rw).2.prepared = true := by
  have ready := prepare_prepared rw
  simp only [endStream]
  split
  · exact ready
  split
  · exact writeHeaders_prepared env true ready
  · simp

theorem finish_prepared {rw : ResponseWriter} (bodyDone : Bool)
    (ready : rw.prepared = true ∨ rw.err = none ∧ rw.clViolated = false) :
    (finish env bodyDone rw).prepared = true := by
  have sent := endStream_prepared env rw
  unfold finish
  split
  · rename_i violated
    rcases ready with ready | ⟨-, unviolated⟩
    · simpa using ready
    · exact absurd violated (by simp [unviolated])
  split
  · generalize endStream env rw = result at sent
    split
    · simpa using sent
    · split
      · exact sent
      · simpa using sent
    · exact sent
  · rename_i failed
    rcases ready with ready | ⟨clean, -⟩
    · exact ready
    · exact absurd clean failed

/-- Once resolved, the shape stays. -/
theorem step_prepared {env : Env} (alive : Alive env) {req : Request} {prog : Program} {m : Machine}
    (located : Located req.isHead m) (ready : m.rw.prepared = true) :
    (step env req prog m).rw.prepared = true := by
  obtain ⟨rw, control, results⟩ := m
  change rw.prepared = true at ready
  unfold step
  cases control with
  | start =>
      simp only []
      split <;> simp [ready]
  | calls ops =>
      cases ops with
      | nil =>
          simp only []
          split
          · unfold recover
            split
            · exact writeHeaders_prepared env true ready
            · simpa using ready
          · exact finish_prepared env req.bodyDone (Or.inl ready)
      | cons op rest =>
          cases op with
          | edit change => exact ready
          | writeHeader statusCode => simpa [call] using ready
          | flush =>
              simp only [call]
              cases failed : rw.err with
              | none => exact flush_prepared env failed
              | some err => simpa [flush, failed] using ready
          | write p =>
              simp only [call]
              cases failed : rw.err with
              | none =>
                  have sent := beginWrite_prepared env failed p
                  generalize beginWrite env rw p = begun at sent
                  cases begun <;> exact sent
              | some err => simpa [beginWrite, failed] using ready
  | writing maxFrame p total rest =>
      simp only []
      split
      · exact ready
      · obtain ⟨running, wrote, positive⟩ := located
        obtain ⟨got, next, sent, after, still, -⟩ := sendChunk_running alive running wrote positive p
        simp only [sent]
        exact (after.streaming still).1
  | finished => exact ready

theorem prepared_mono {env : Env} (alive : Alive env) {req : Request} {prog : Program}
    {n : Nat} (ready : (after env req prog n).rw.prepared = true) (more : Nat) :
    (after env req prog (n + more)).rw.prepared = true := by
  induction more with
  | zero => exact ready
  | succ more ih =>
      rw [← Nat.add_assoc, after_succ]
      exact step_prepared alive (after_located alive req prog _) ih

end Prepared

/-- The shape is resolved in one step only, so any step that resolves it declares `v`. -/
theorem Resolves.declares {env : Env} (alive : Alive env) {req : Request} {prog : Program}
    {v n : Nat} (resolves : Resolves env req prog v)
    (before : (after env req prog n).rw.prepared = false)
    (next : (after env req prog (n + 1)).rw.prepared = true) :
    Declares v (after env req prog n).rw := by
  obtain ⟨r, early, late, declares⟩ := resolves
  have same : n = r := by
    rcases Nat.lt_trichotomy n r with less | same | more
    · have ready := prepared_mono alive next (r - (n + 1))
      rw [show n + 1 + (r - (n + 1)) = r by omega] at ready
      exact absurd ready (by simp [early])
    · exact same
    · have ready := prepared_mono alive late (n - (r + 1))
      rw [show r + 1 + (n - (r + 1)) = n by omega] at ready
      exact absurd ready (by simp [before])
  rw [same]
  exact declares

/-! The count. -/

/-- `written` counts the DATA bytes, which are within the declared length; the
only error a live connection latches is the refusal of an excess `Write`. -/
structure Declared (v : Nat) (rw : ResponseWriter) : Prop where
  counted : rw.written = dataBytes rw.frames
  within : dataBytes rw.frames ≤ v
  limit : rw.prepared = true → rw.declaredCL = v ∧ rw.noBody = false
  refused : rw.err = if rw.clViolated then some .contentLength else none

theorem declared_new (v : Nat) (isHead : Bool) : Declared v (ResponseWriter.new isHead) := by
  refine ⟨rfl, Nat.zero_le v, ?_, rfl⟩
  exact fun ready => absurd ready (by simp [ResponseWriter.new])

/-- Resolving the shape of a response that declares `v`. -/
theorem prepare_declared {v : Nat} {rw : ResponseWriter} (declared : Declared v rw)
    (declares : rw.prepared = false → Declares v rw) : Declared v (prepare rw) := by
  cases ready : rw.prepared with
  | true =>
      rw [prepare_of_prepared ready]
      exact declared
  | false =>
      obtain ⟨length, method, status⟩ := declares ready
      have nonempty : rw.header.get "Content-Length" ≠ "" := by
        intro empty
        have nothing : parseUint63 "" = none := by decide
        rw [empty, nothing] at length
        cases length
      have same : prepare rw = { rw with
          prepared := true
          status := if rw.status = 0 then 200 else rw.status
          noBody := false
          declaredCL := v } := by
        simp only [prepare, ready, Bool.false_eq_true, ↓reduceIte, declare, if_neg nonempty, length,
          method, status, Bool.not_true, Bool.or_self]
      rw [same]
      exact ⟨declared.counted, declared.within, fun _ => ⟨rfl, rfl⟩, declared.refused⟩

theorem prepare_kept (rw : ResponseWriter) :
    (prepare rw).clViolated = rw.clViolated ∧ (prepare rw).frames = rw.frames ∧
      (prepare rw).written = rw.written := by
  obtain ⟨status, noBody, declared, header, same, -⟩ := prepare_same rw
  rw [same]
  exact ⟨rfl, rfl, rfl⟩

/-- A frame without payload changes nothing. -/
theorem frame_declared {v : Nat} {rw : ResponseWriter} (declared : Declared v rw) {frame : Out}
    (nothing : frameBytes frame = 0) :
    Declared v { rw with submits := rw.submits + 1, frames := rw.frames ++ [frame] } := by
  refine ⟨?_, ?_, declared.limit, declared.refused⟩
  · simp [declared.counted, nothing]
  · simpa [nothing] using declared.within

section Calls

variable {env : Env} (alive : Alive env) {v : Nat} {rw : ResponseWriter}

include alive

theorem writeHeaders_declared (declared : Declared v rw) (ready : rw.prepared = true)
    (endStream : Bool) :
    ∃ next, writeHeaders env rw endStream = (none, next) ∧ Declared v next ∧
      next.prepared = true ∧ dataBytes next.frames = dataBytes rw.frames ∧
      next.clViolated = rw.clViolated := by
  unfold writeHeaders
  split
  · exact ⟨rw, rfl, declared, ready, rfl, rfl⟩
  · have same := prepare_of_prepared ready
    have kept : Declared v { rw with
        submits := rw.submits + 1
        frames := rw.frames ++ [.headers rw.status rw.header endStream] } :=
      frame_declared declared rfl
    simp only [same, submit_alive alive, latch]
    refine ⟨_, rfl, ⟨kept.counted, kept.within, kept.limit, kept.refused⟩, ready, ?_, rfl⟩
    simp [frameBytes]

theorem writeHeader_declared (declared : Declared v rw) (code : Int) :
    Declared v (writeHeader env rw code) ∧
      (writeHeader env rw code).clViolated = rw.clViolated ∧
      dataBytes (writeHeader env rw code).frames = dataBytes rw.frames := by
  unfold writeHeader
  split
  · exact ⟨declared, rfl, rfl⟩
  rename_i unresolved
  split
  · split
    · unfold writeInformational
      split
      · exact ⟨declared, rfl, rfl⟩
      · simp only [submit_alive alive, latch]
        exact ⟨frame_declared declared rfl, trivial, by simp [frameBytes]⟩
    · exact ⟨declared, rfl, rfl⟩
  · exact ⟨⟨declared.counted, declared.within, declared.limit, declared.refused⟩, rfl, rfl⟩

theorem flush_declared (declared : Declared v rw)
    (declares : rw.prepared = false → rw.err = none → Declares v rw) :
    Declared v (flush env rw) ∧ (flush env rw).clViolated = rw.clViolated ∧
      dataBytes (flush env rw).frames = dataBytes rw.frames := by
  unfold flush
  split
  · exact ⟨declared, rfl, rfl⟩
  · rename_i clean
    have resolved := prepare_declared declared fun fresh => declares fresh (by simpa using clean)
    have kept := prepare_kept rw
    obtain ⟨next, sent, after, -, bytes, violated⟩ :=
      writeHeaders_declared alive resolved (prepare_prepared rw) false
    have body := (resolved.limit (prepare_prepared rw)).2
    simp only [body, sent, Bool.false_eq_true, ↓reduceIte, ne_eq, not_true_eq_false,
      submit_alive alive, latch]
    refine ⟨frame_declared after rfl, ?_, ?_⟩
    · rw [violated, kept.1]
    · simp [frameBytes, bytes, kept.2.1]

/-- `Write` before its loop: an excess is refused, and so is everything after it. -/
theorem beginWrite_declared (declared : Declared v rw)
    (declares : rw.prepared = false → rw.err = none → Declares v rw) (p : Bytes)
    (room : dataBytes rw.frames + p.length < 2 ^ 63) :
    ∃ next, Declared v next ∧ dataBytes next.frames = dataBytes rw.frames ∧
      ((beginWrite env rw p = .returned 0 (some .contentLength) next ∧ next.clViolated = true ∧
          (rw.clViolated = true ∨ v < dataBytes rw.frames + p.length)) ∨
        (rw.clViolated = false ∧ next.clViolated = false ∧ next.prepared = true ∧
          dataBytes rw.frames + p.length ≤ v ∧
          beginWrite env rw p = if p = [] then .returned 0 none next else .sending next)) := by
  cases violated : rw.clViolated with
  | true =>
      have error : rw.err = some .contentLength := by rw [declared.refused, if_pos violated]
      refine ⟨rw, declared, rfl, Or.inl ⟨?_, violated, Or.inl rfl⟩⟩
      simp [beginWrite, error]
  | false =>
      have clean : rw.err = none := by
        rw [declared.refused, violated]
        rfl
      have resolved := prepare_declared declared fun fresh => declares fresh clean
      have kept := prepare_kept rw
      obtain ⟨next, sent, after, ready, bytes, same⟩ :=
        writeHeaders_declared alive resolved (prepare_prepared rw) false
      have limit := (after.limit ready).1
      have body := (resolved.limit (prepare_prepared rw)).2
      have within := declared.within
      have sum : int64 (next.written + p.length) = dataBytes rw.frames + p.length := by
        rw [after.counted, bytes, kept.2.1, int64]
        exact Int.bmod_eq_of_le (by omega) (by omega)
      by_cases excess : v < dataBytes rw.frames + p.length
      · have nonempty : p ≠ [] := by
          rintro rfl
          rw [List.length_nil] at excess
          omega
        have refused : 0 ≤ next.declaredCL ∧ next.declaredCL < int64 (next.written + p.length) := by
          omega
        refine ⟨{ next with clViolated := true, err := some .contentLength }, ?_, ?_,
          Or.inl ⟨?_, rfl, Or.inr excess⟩⟩
        · exact ⟨after.counted, after.within, after.limit, rfl⟩
        · rw [bytes, kept.2.1]
        · simp only [beginWrite, clean, body, sent, if_neg nonempty, if_pos refused,
            Bool.false_eq_true, ↓reduceIte]
      · have accepted : ¬ (0 ≤ next.declaredCL ∧
            next.declaredCL < int64 (next.written + p.length)) := by
          omega
        refine ⟨next, after, by rw [bytes, kept.2.1],
          Or.inr ⟨rfl, by rw [same, kept.1, violated], ready, by omega, ?_⟩⟩
        simp only [beginWrite, clean, body, sent, if_neg accepted, Bool.false_eq_true, ↓reduceIte]

/-- `endStream` on a body of full length, which a frame of its own ends, and on a
shorter one. -/
theorem endStream_declared (declared : Declared v rw)
    (declares : rw.prepared = false → Declares v rw) :
    (dataBytes rw.frames < v ∧ endStream env rw = (some .shortContentLength, prepare rw)) ∨
      (dataBytes rw.frames = v ∧ ∃ next last, endStream env rw = (none, next) ∧
        next.frames = rw.frames ++ [last] ∧ next.written = rw.written ∧ Ends last ∧
        frameBytes last = 0) := by
  have resolved := prepare_declared declared declares
  obtain ⟨limit, body⟩ := resolved.limit (prepare_prepared rw)
  obtain ⟨-, frames, written⟩ := prepare_kept rw
  have counted := declared.counted
  have within := declared.within
  by_cases short : dataBytes rw.frames < v
  · have missing : (prepare rw).noBody = false ∧ 0 ≤ (prepare rw).declaredCL ∧
        (prepare rw).written < (prepare rw).declaredCL := ⟨body, by omega, by omega⟩
    exact Or.inl ⟨short, by simp only [endStream, if_pos missing]⟩
  · have full : ¬ ((prepare rw).noBody = false ∧ 0 ≤ (prepare rw).declaredCL ∧
        (prepare rw).written < (prepare rw).declaredCL) := by omega
    refine Or.inr ⟨by omega, ?_⟩
    have again := prepare_of_prepared (prepare_prepared rw)
    simp only [endStream, if_neg full]
    cases wrote : (prepare rw).wroteHeaders with
    | false =>
        simp only [writeHeaders, wrote, again, Bool.false_eq_true, ↓reduceIte, submit_alive alive,
          latch, frames]
        exact ⟨_, _, rfl, rfl, written, rfl, rfl⟩
    | true =>
        simp only [Bool.true_eq_false, ↓reduceIte, submit_alive alive, latch, frames]
        exact ⟨_, _, rfl, rfl, written, rfl, rfl⟩

/-- How `finish` closes the stream of a response that declared `v`. -/
theorem finish_declared (declared : Declared v rw)
    (declares : rw.prepared = false → rw.err = none → Declares v rw) (bodyDone : Bool) :
    ∃ tail, (finish env bodyDone rw).frames = rw.frames ++ tail ∧
      (finish env bodyDone rw).written = rw.written ∧
      ((tail = [.rstStream errCodeInternal] ∧
          (rw.clViolated = true ∨ dataBytes rw.frames < v)) ∨
        (rw.clViolated = false ∧ dataBytes rw.frames = v ∧
          ∃ last, Ends last ∧ frameBytes last = 0 ∧
            (tail = [last] ∨ tail = [last, .rstStream errCodeNo]))) := by
  cases violated : rw.clViolated with
  | true =>
      refine ⟨[.rstStream errCodeInternal], ?_, ?_, Or.inl ⟨rfl, Or.inl rfl⟩⟩
      · simp [finish, violated, reset_alive alive]
      · simp [finish, violated, reset_alive alive]
  | false =>
      have clean : rw.err = none := by
        rw [declared.refused, violated]
        rfl
      rcases endStream_declared alive declared fun fresh => declares fresh clean with
        ⟨short, ended⟩ | ⟨full, next, last, ended, frames, written, ends, empty⟩
      · obtain ⟨-, frames, written⟩ := prepare_kept rw
        refine ⟨[.rstStream errCodeInternal], ?_, ?_, Or.inl ⟨rfl, Or.inr short⟩⟩
        · simp [finish, violated, clean, ended, reset_alive alive, frames]
        · simp [finish, violated, clean, ended, reset_alive alive, written]
      · cases bodyDone with
        | true =>
            refine ⟨[last], ?_, ?_, Or.inr ⟨rfl, full, last, ends, empty, Or.inl rfl⟩⟩
            · simp [finish, violated, clean, ended, frames]
            · simp [finish, violated, clean, ended, written]
        | false =>
            refine ⟨[last, .rstStream errCodeNo], ?_, ?_,
              Or.inr ⟨rfl, full, last, ends, empty, Or.inr rfl⟩⟩
            · simp [finish, violated, clean, ended, frames, reset_alive alive]
            · simp [finish, violated, clean, ended, written, reset_alive alive]

end Calls

/-! Whole runs. -/

def opBytes : Op → Nat
  | .write p => p.length
  | .edit _ | .writeHeader _ | .flush => 0

/-- The bytes the handler is still going to write. -/
def load (ops : List Op) : Nat := (ops.map opBytes).sum

def Refused (results : List (Nat × Option WriteErr)) : Prop :=
  ∃ result ∈ results, result.2 = some .contentLength

/-- While the handler runs, with `left` bytes to come. -/
structure Tally (v : Nat) (m : Machine) (left : Nat) : Prop where
  declared : Declared v m.rw
  refusals : m.rw.clViolated = true ↔ Refused m.results
  room : dataBytes m.rw.frames + left < 2 ^ 63

/-- After it: END_STREAM exactly for a full response, the reset otherwise. -/
structure Settled (v : Nat) (m : Machine) : Prop where
  counted : m.rw.written = dataBytes m.rw.frames
  within : dataBytes m.rw.frames ≤ v
  ends : (∃ frame ∈ m.rw.frames, Ends frame) ↔
    ¬ Refused m.results ∧ dataBytes m.rw.frames = v
  resets : .rstStream errCodeInternal ∈ m.rw.frames ↔ ¬ ∃ frame ∈ m.rw.frames, Ends frame

def Tallied (v : Nat) (prog : Program) (m : Machine) : Prop :=
  match m.control with
  | .start => Tally v m (load prog.ops)
  | .calls ops => Tally v m (load ops)
  | .writing maxFrame p _ ops =>
      Tally v m (p.length + load ops) ∧ m.rw.clViolated = false ∧
        dataBytes m.rw.frames + p.length ≤ v ∧ p.length < 2 ^ 31 ∧ 0 < maxFrame.toInt
  | .finished => Settled v m

theorem refused_snoc (results : List (Nat × Option WriteErr)) (count : Nat)
    (err : Option WriteErr) :
    Refused (results ++ [(count, err)]) ↔ Refused results ∨ err = some .contentLength := by
  simp [Refused, or_and_right, exists_or]

/-- No frame ends or resets the stream. -/
def Quiet (frames : List Out) : Prop :=
  (∀ frame ∈ frames, ¬ Ends frame) ∧ ∀ code, .rstStream code ∉ frames

theorem opening_quiet {frames : List Out} (opening : Opening frames) : Quiet frames := by
  constructor
  · intro frame member
    obtain ⟨status, header, rfl, -⟩ := opening frame member
    simp [Ends]
  · intro code member
    obtain ⟨status, header, same, -⟩ := opening _ member
    cases same

theorem streaming_quiet {isHead : Bool} {frames : List Out} (streaming : Streaming isHead frames) :
    Quiet frames := by
  obtain ⟨interims, status, header, chunks, before, -⟩ := streaming
  obtain ⟨unended, unreset⟩ := opening_quiet before
  constructor
  · intro frame member
    simp only [List.mem_append, List.mem_cons, List.mem_map] at member
    rcases member with old | rfl | ⟨chunk, -, rfl⟩
    · exact unended frame old
    · simp [Ends]
    · simp [Ends]
  · intro code member
    simp only [List.mem_append, List.mem_cons, List.mem_map, reduceCtorEq, and_false, exists_false,
      or_false] at member
    exact unreset code member

theorem running_quiet {isHead : Bool} {rw : ResponseWriter} (running : Running isHead rw) :
    Quiet rw.frames := by
  cases wrote : rw.wroteHeaders with
  | false => exact opening_quiet (running.opening wrote)
  | true => exact streaming_quiet (running.streaming wrote).2.2

/-- A reset does not end the stream. -/
theorem Quiet.reset {frames : List Out} (quiet : Quiet frames) (code : ErrCode) :
    ¬ ∃ frame ∈ frames ++ [.rstStream code], Ends frame := by
  rintro ⟨frame, member, ends⟩
  rcases List.mem_append.mp member with old | new
  · exact quiet.1 frame old ends
  · rw [List.mem_singleton.mp new] at ends
    exact ends

/-- The frame that ends the stream, with or without RST_STREAM(NO_ERROR) after it. -/
theorem Quiet.closing {frames tail : List Out} (quiet : Quiet frames) {last : Out}
    (ends : Ends last) (closing : tail = [last] ∨ tail = [last, .rstStream errCodeNo]) :
    (∃ frame ∈ frames ++ tail, Ends frame) ∧ .rstStream errCodeInternal ∉ frames ++ tail := by
  constructor
  · refine ⟨last, List.mem_append_right frames ?_, ends⟩
    rcases closing with rfl | rfl <;> simp
  · intro member
    have notLast : last ≠ .rstStream errCodeInternal := by
      rintro rfl
      exact ends
    rcases List.mem_append.mp member with old | new
    · exact quiet.2 _ old
    rcases closing with rfl | rfl
    · exact notLast (List.mem_singleton.mp new).symm
    · rcases List.mem_cons.mp new with first | second
      · exact notLast first.symm
      · exact absurd (List.mem_singleton.mp second) (by decide)

section Run

variable {env : Env} (alive : Alive env) {req : Request} {prog : Program} {v : Nat}

include alive

theorem finish_settled {rw : ResponseWriter} {results : List (Nat × Option WriteErr)}
    (declared : Declared v rw) (refusals : rw.clViolated = true ↔ Refused results)
    (running : Running req.isHead rw)
    (declares : rw.prepared = false → rw.err = none → Declares v rw) :
    Settled v ⟨finish env req.bodyDone rw, .finished, results⟩ := by
  have quiet := running_quiet running
  obtain ⟨tail, frames, written, shape⟩ := finish_declared alive declared declares req.bodyDone
  have counted := declared.counted
  have within := declared.within
  rcases shape with ⟨rfl, short⟩ | ⟨clean, full, last, ends, empty, closing⟩
  · have same : dataBytes (finish env req.bodyDone rw).frames = dataBytes rw.frames := by
      simp [frames, frameBytes]
    have unended : ¬ ∃ frame ∈ (finish env req.bodyDone rw).frames, Ends frame := by
      rw [frames]
      exact quiet.reset _
    constructor
    · simp only [written, counted, same]
    · simp only [same, within]
    · rw [← refusals]
      simp only [same]
      constructor
      · exact fun ended => absurd ended unended
      · rintro ⟨unrefused, full⟩
        rcases short with violated | short
        · exact absurd violated unrefused
        · omega
    · simp only [unended, not_false_eq_true, iff_true]
      rw [frames]
      simp
  · have same : dataBytes (finish env req.bodyDone rw).frames = dataBytes rw.frames := by
      have reset : frameBytes (.rstStream errCodeNo) = 0 := rfl
      rcases closing with rfl | rfl <;> simp [frames, dataBytes, empty, reset]
    obtain ⟨ended, unreset⟩ := quiet.closing ends closing
    rw [← frames] at ended unreset
    constructor
    · simp only [written, counted, same]
    · simp only [same, within]
    · rw [← refusals]
      simp only [same, full, clean]
      simpa using ended
    · simp only [ended, not_true_eq_false, iff_false]
      exact unreset

/-- A call of `Write` that resolves the shape declares `v`. -/
theorem write_begins {m : Machine} {p : Bytes} {rest : List Op}
    (tally : Tally v m (load (.write p :: rest)))
    (declares : m.rw.prepared = false → (call env m rest (.write p)).rw.prepared = true →
      Declares v m.rw) :
    ∃ next, Declared v next ∧ dataBytes next.frames = dataBytes m.rw.frames ∧
      ((beginWrite env m.rw p = .returned 0 (some .contentLength) next ∧ next.clViolated = true ∧
          (m.rw.clViolated = true ∨ v < dataBytes m.rw.frames + p.length)) ∨
        (m.rw.clViolated = false ∧ next.clViolated = false ∧ next.prepared = true ∧
          dataBytes m.rw.frames + p.length ≤ v ∧
          beginWrite env m.rw p = if p = [] then .returned 0 none next else .sending next)) := by
  have room := tally.room
  simp only [load, List.map_cons, List.sum_cons, opBytes] at room
  refine beginWrite_declared alive tally.declared (fun fresh clean => ?_) p (by omega)
  apply declares fresh
  have ready := beginWrite_prepared env clean p
  simp only [call]
  generalize beginWrite env m.rw p = begun at ready
  cases begun <;> exact ready

theorem call_tallied {m : Machine} {op : Op} {rest : List Op}
    (tally : Tally v m (load (op :: rest)))
    (declares : m.rw.prepared = false → (call env m rest op).rw.prepared = true → Declares v m.rw)
    (small : ∀ p, op = .write p → p.length < 2 ^ 31) :
    Tallied v prog (call env m rest op) := by
  obtain ⟨declared, refusals, room⟩ := tally
  have loaded : load (op :: rest) = opBytes op + load rest := by simp [load]
  cases op with
  | edit change =>
      refine ⟨?_, refusals, ?_⟩
      · exact ⟨declared.counted, declared.within, declared.limit, declared.refused⟩
      · simpa [call, loaded, opBytes] using room
  | writeHeader statusCode =>
      obtain ⟨kept, violated, bytes⟩ := writeHeader_declared alive declared statusCode
      refine ⟨kept, ?_, ?_⟩
      · simpa only [call, violated] using refusals
      · simpa [call, bytes, loaded, opBytes] using room
  | flush =>
      obtain ⟨kept, violated, bytes⟩ := flush_declared alive declared fun fresh clean =>
        declares fresh (flush_prepared env clean)
      refine ⟨kept, ?_, ?_⟩
      · simpa only [call, violated] using refusals
      · simpa [call, bytes, loaded, opBytes] using room
  | write p =>
      obtain ⟨next, kept, bytes, outcome⟩ :=
        write_begins alive ⟨declared, refusals, room⟩ declares
      have total : dataBytes m.rw.frames + p.length + load rest < 2 ^ 63 := by
        simp only [loaded, opBytes] at room
        omega
      rcases outcome with ⟨begun, violated, -⟩ | ⟨clean, unviolated, -, fits, begun⟩
      · -- refused, now or before
        simp only [call, begun]
        refine ⟨kept, ?_, by simp only [bytes]; omega⟩
        simp [violated, refused_snoc]
      · have unrefused : ¬ Refused m.results := by
          rw [← refusals, clean]
          exact Bool.false_ne_true
        by_cases empty : p = []
        · rw [if_pos empty] at begun
          simp only [call, begun]
          refine ⟨kept, ?_, by simp only [bytes]; omega⟩
          simp [unviolated, refused_snoc, unrefused]
        · rw [if_neg empty] at begun
          simp only [call, begun]
          refine ⟨⟨kept, ?_, by simp only [bytes]; omega⟩, unviolated, by simp only [bytes, fits],
            small p rfl, maxFrame_pos env next⟩
          simp [unviolated, unrefused]

/-- One iteration of the loop of an accepted `Write`. -/
theorem writing_tallied {rw : ResponseWriter} {maxFrame : Int32} {p : Bytes} {total : Nat}
    {ops : List Op} {results : List (Nat × Option WriteErr)}
    (tallied : Tallied v prog ⟨rw, .writing maxFrame p total ops, results⟩) :
    Tallied v prog (step env req prog ⟨rw, .writing maxFrame p total ops, results⟩) := by
  obtain ⟨⟨declared, refusals, room⟩, clean, fits, short, positive⟩ := tallied
  dsimp only at declared refusals room clean fits
  have unrefused : ¬ Refused results := by
    rw [← refusals, clean]
    exact Bool.false_ne_true
  by_cases empty : p = []
  · subst empty
    simp only [step, ↓reduceIte]
    refine ⟨declared, ?_, by simpa using room⟩
    simp [clean, refused_snoc, unrefused]
  · have nonempty : 0 < p.length := List.length_pos_iff.mpr empty
    rcases sendChunk_cases (credits_of_alive alive) rw positive nonempty short with
      ⟨err, next, -, -, -, dead⟩ | ⟨got, reserves, next, sent, rfl, advances, most, -⟩
    · exact absurd alive dead
    · have size : (p.take got).length = got := by
        rw [List.length_take]
        omega
      have left : (p.drop got).length = p.length - got := List.length_drop
      have counted := declared.counted
      have sum : int64 (rw.written + got) = (dataBytes rw.frames + got : Nat) := by
        rw [counted, int64]
        push_cast
        exact Int.bmod_eq_of_le (by omega) (by omega)
      simp only [step, if_neg empty, sent]
      refine ⟨⟨⟨?_, ?_, declared.limit, declared.refused⟩, refusals, ?_⟩, clean, ?_, ?_, positive⟩
      · simp only [sum, dataBytes_snoc, frameBytes, size]
      · simp only [dataBytes_snoc, frameBytes, size]
        omega
      · simp only [dataBytes_snoc, frameBytes, size, left]
        omega
      · simp only [dataBytes_snoc, frameBytes, size, left]
        omega
      · omega

theorem step_tallied (normal : prog.panics = false) (routed : parseRequestURI req.path ≠ none)
    {m : Machine} (located : Located req.isHead m) (tallied : Tallied v prog m)
    (declares : m.rw.prepared = false → (step env req prog m).rw.prepared = true → Declares v m.rw)
    (small : ∀ p, .write p ∈ pending prog m.control → p.length < 2 ^ 31) :
    Tallied v prog (step env req prog m) := by
  obtain ⟨rw, control, results⟩ := m
  cases control with
  | start =>
      simp only [step]
      split
      · rename_i refused
        exact absurd refused routed
      · exact ⟨tallied.declared, tallied.refusals, tallied.room⟩
  | calls ops =>
      cases ops with
      | nil =>
          simp only [step, normal, Bool.false_eq_true, ↓reduceIte]
          refine finish_settled alive tallied.declared tallied.refusals located
            fun fresh clean => ?_
          apply declares fresh
          simp only [step, normal, Bool.false_eq_true, ↓reduceIte]
          refine finish_prepared env req.bodyDone (Or.inr ⟨clean, ?_⟩)
          have refused := tallied.declared.refused
          rw [clean] at refused
          by_contra violated
          simp [violated] at refused
      | cons op rest =>
          refine call_tallied alive tallied declares fun p written => small p ?_
          simp [pending, written]
  | writing maxFrame p total rest => exact writing_tallied alive tallied
  | finished => exact tallied

theorem after_tallied (normal : prog.panics = false) (routed : parseRequestURI req.path ≠ none)
    (small : ∀ p, .write p ∈ prog.ops → p.length < 2 ^ 31) (total : load prog.ops < 2 ^ 63)
    (resolves : Resolves env req prog v) (n : Nat) : Tallied v prog (after env req prog n) := by
  induction n with
  | zero =>
      refine ⟨declared_new v req.isHead, ?_, ?_⟩
      · simp [Machine.new, ResponseWriter.new, Refused, after]
      · simpa [Machine.new, ResponseWriter.new, dataBytes, after] using total
  | succ n ih =>
      rw [after_succ]
      refine step_tallied alive normal routed (after_located alive req prog n) ih ?_ ?_
      · intro fresh ready
        rw [← after_succ] at ready
        exact resolves.declares alive fresh ready
      · exact fun p member => small p (after_pending env req prog n member)

omit alive in
/-- A request whose path does not parse never resolves a response. -/
theorem Resolves.routed (resolves : Resolves env req prog v) :
    parseRequestURI req.path ≠ none := by
  intro refused
  obtain ⟨n, -, ready, -⟩ := resolves
  have opened : after env req prog 1 =
      ⟨reset env (ResponseWriter.new req.isHead) errCodeProtocol, .finished, []⟩ := by
    simp [after, step, Machine.new, refused]
  have settled : after env req prog (1 + n) = after env req prog 1 := by
    rw [after, Nat.add_comm, Function.iterate_add_apply, ← after, opened]
    exact Function.iterate_fixed rfl n
  rw [Nat.add_comm, settled, opened] at ready
  simp [ResponseWriter.new] at ready

omit alive in
theorem Tallied.counts {m : Machine} (tallied : Tallied v prog m) :
    dataBytes m.rw.frames ≤ v ∧ m.rw.written = dataBytes m.rw.frames := by
  obtain ⟨rw, control, results⟩ := m
  cases control with
  | start => exact ⟨tallied.declared.within, tallied.declared.counted⟩
  | calls ops => exact ⟨tallied.declared.within, tallied.declared.counted⟩
  | writing maxFrame p total ops =>
      exact ⟨tallied.1.declared.within, tallied.1.declared.counted⟩
  | finished =>
      have settled : Settled v _ := tallied
      exact ⟨settled.within, settled.counted⟩

omit alive in
/-- Behind a latched error no DATA is submitted. -/
theorem step_latched_bytes (normal : prog.panics = false) {err : WriteErr} {m : Machine}
    (latched : Latched err m) :
    dataBytes (step env req prog m).rw.frames = dataBytes m.rw.frames := by
  rcases latched with ⟨⟨ops, here⟩, error⟩ | here
  · cases ops with
    | nil =>
        simp only [step, here, normal, Bool.false_eq_true, ↓reduceIte, finish, error, reduceCtorEq]
        split
        · simp only [reset, submit]
          split
          · rw [dataBytes_snoc]
            rfl
          · rfl
        · rfl
    | cons op rest =>
        cases op with
        | edit change => simp [step, here, call]
        | writeHeader statusCode => simp [step, here, call, writeHeader, error]
        | flush => simp [step, here, call, flush, error]
        | write p => simp [step, here, call, beginWrite, error]
  · simp only [step, here]

omit alive in
theorem latched_bytes (normal : prog.panics = false) {err : WriteErr} {m : Machine}
    (latched : Latched err m) (more : Nat) :
    dataBytes ((step env req prog)^[more] m).rw.frames = dataBytes m.rw.frames := by
  induction more generalizing m with
  | zero => rfl
  | succ more ih =>
      rw [Function.iterate_succ_apply, ih (step_latched env req prog latched).1,
        step_latched_bytes normal latched]

end Run

theorem content_length_respected (env : Env) (req : Request) (prog : Program) (v : Nat)
    (alive : Alive env) (normal : prog.panics = false)
    (small : ∀ p, .write p ∈ prog.ops → p.length < 2 ^ 31) (total : load prog.ops < 2 ^ 63)
    (resolves : Resolves env req prog v) :
    (∀ n, dataBytes (after env req prog n).rw.frames ≤ v ∧
      (after env req prog n).rw.written = dataBytes (after env req prog n).rw.frames) ∧
    (∀ n p rest, (after env req prog n).control = .calls (.write p :: rest) →
      v < dataBytes (after env req prog n).rw.frames + p.length →
      dataBytes (after env req prog (n + 1)).rw.frames = dataBytes (after env req prog n).rw.frames ∧
      (after env req prog (n + 1)).results =
        (after env req prog n).results ++ [(0, some .contentLength)] ∧
      ∀ more, dataBytes (after env req prog (n + 1 + more)).rw.frames =
          dataBytes (after env req prog n).rw.frames ∧
        ∃ extra, (after env req prog (n + 1 + more)).results =
          (after env req prog (n + 1)).results ++ List.replicate extra (0, some .contentLength)) ∧
    ∃ n, (after env req prog n).control = .finished ∧
      ((∃ frame ∈ (after env req prog n).rw.frames, Ends frame) ↔
        ¬ Refused (after env req prog n).results ∧
          dataBytes (after env req prog n).rw.frames = v) ∧
      (.rstStream errCodeInternal ∈ (after env req prog n).rw.frames ↔
        ¬ ∃ frame ∈ (after env req prog n).rw.frames, Ends frame) := by
  have tallied := after_tallied alive normal resolves.routed small total resolves
  refine ⟨fun n => (tallied n).counts, ?_, ?_⟩
  · intro n p rest called excess
    have tally := tallied n
    rw [Tallied, called] at tally
    have next : after env req prog (n + 1) =
        call env (after env req prog n) rest (.write p) := by
      rw [after_succ, step, called]
    obtain ⟨rw, kept, bytes, outcome⟩ := write_begins alive tally fun fresh ready =>
      resolves.declares alive fresh (next ▸ ready)
    rcases outcome with ⟨begun, violated, -⟩ | ⟨-, -, -, fits, -⟩
    · simp only [call, begun] at next
      have latched : Latched .contentLength (after env req prog (n + 1)) := by
        rw [next]
        exact Or.inl ⟨⟨rest, rfl⟩, by rw [kept.refused, if_pos violated]⟩
      refine ⟨by rw [next, bytes], by rw [next], fun more => ?_⟩
      have reached : (step env req prog)^[more] (after env req prog (n + 1)) =
          after env req prog (n + 1 + more) := by
        rw [after, ← Function.iterate_add_apply, Nat.add_comm, ← after]
      rw [← reached]
      refine ⟨?_, latched_results env req prog latched more⟩
      rw [latched_bytes normal latched more, next, bytes]
    · omega
  · obtain ⟨n, finished⟩ := finishes alive req prog (sendable_of_small small)
    have settled := tallied n
    rw [Tallied, finished] at settled
    exact ⟨n, finished, settled.ends, settled.resets⟩

/-- Two bytes declared and written, in two calls with a third one too many. -/
def measured : Program :=
  { ops := [.edit fun header => header.set "Content-Length" "2", .write [104], .flush, .write [105],
      .write [33]]
    panics := false }

theorem measured_resolves : Resolves openConn get measured 2 := by
  refine ⟨2, by decide, by decide, ?_, by decide, by decide⟩
  decide

theorem content_length_respected_measured :
    ∃ n, (after openConn get measured n).control = .finished ∧
      ((∃ frame ∈ (after openConn get measured n).rw.frames, Ends frame) ↔
        ¬ Refused (after openConn get measured n).results ∧
          dataBytes (after openConn get measured n).rw.frames = 2) ∧
      (.rstStream errCodeInternal ∈ (after openConn get measured n).rw.frames ↔
        ¬ ∃ frame ∈ (after openConn get measured n).rw.frames, Ends frame) := by
  refine (content_length_respected openConn get measured 2 openConn_alive rfl ?_ (by decide)
    measured_resolves).2.2
  intro p called
  simp only [measured, List.mem_cons, reduceCtorEq, Op.write.injEq, List.not_mem_nil, or_false,
    false_or] at called
  rcases called with rfl | rfl | rfl <;> decide

end ReverseHttp.ContentLength
