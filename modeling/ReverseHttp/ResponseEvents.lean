import ReverseHttp.HandlerDraft
import ReverseHttp.InterimResponse
import ReverseHttp.HeaderCodec
import ReverseHttp.History

/-!
The frames of one response, as the proxy's frame reader meets them: which calls each frame
makes on the stream and in which order they come, what the decoded head holds, and that
`net/http` accepts the body under it.
-/

namespace ReverseHttp.ResponseEvents

open Wire WorkerResponse HandlerDraft History
open NetHttp hiding bodyAllowedForStatus
open Forward hiding State Action step payload
open InterimResponse (firstBlock InRange writtenStatus shownStatus)
open HeaderCodec (statusString regularFields forwarded forbiddenForwardHeader toLower CanonicalNames)
open ContentLength (Ends Quiet)
open StreamClosure (submittedEnd)

/-- What `decodeBlock` makes of a response's HEADERS. -/
def block (status : Int) (header : Header) : Block :=
  { status := statusString status
    fields := (regularFields header).map fun field =>
      (canonicalMIMEHeaderKey field.name, field.value) }

/-- The calls one frame makes the proxy's frame reader do, in order. -/
def events : Out → List Event
  | .headers status header ended =>
      .headers (block status header) :: if ended then [.endStream] else []
  | .data bytes ended => .data bytes :: if ended then [.endStream] else []
  | .rstStream _ => [.fail .streamReset, .failBody .streamReset]

/-! ## Frames stay submitted -/

section Frames

variable (env : Env)

theorem submit_frames (rw : ResponseWriter) (frame : Out) :
    rw.frames <+: (submit env rw frame).2.frames := by
  unfold submit
  split
  · exact List.prefix_append _ _
  · exact List.prefix_rfl

theorem latch_frames (result : Option WriteErr × ResponseWriter) :
    (latch result).frames = result.2.frames := by
  unfold latch
  split <;> rfl

theorem prepare_frames (rw : ResponseWriter) : (prepare rw).frames = rw.frames := by
  obtain ⟨_, _, _, _, same, -⟩ := ServeStream.prepare_same rw
  rw [same]

theorem writeInformational_frames (rw : ResponseWriter) (code : Int) :
    rw.frames <+: (writeInformational env rw code).frames := by
  unfold writeInformational
  split
  · exact List.prefix_rfl
  · simp only [latch_frames]
    exact submit_frames env rw _

theorem writeHeader_frames (rw : ResponseWriter) (code : Int) :
    rw.frames <+: (writeHeader env rw code).frames := by
  unfold writeHeader
  split_ifs
  · exact List.prefix_rfl
  · exact writeInformational_frames env rw code
  · exact List.prefix_rfl
  · exact List.prefix_rfl

theorem writeHeaders_frames (rw : ResponseWriter) (ended : Bool) :
    rw.frames <+: (writeHeaders env rw ended).2.frames := by
  unfold writeHeaders
  split
  · exact List.prefix_rfl
  · simp only [latch_frames]
    rw [← prepare_frames rw]
    exact submit_frames env { prepare rw with wroteHeaders := true } _

theorem flush_frames (rw : ResponseWriter) : rw.frames <+: (flush env rw).frames := by
  have head := writeHeaders_frames env (prepare rw) false
  rw [prepare_frames] at head
  unfold flush
  split
  · exact List.prefix_rfl
  · simp only []
    split_ifs
    · rw [prepare_frames]
    · exact head
    · rw [latch_frames]
      exact head.trans (submit_frames env _ _)

theorem endStream_frames (rw : ResponseWriter) : rw.frames <+: (endStream env rw).2.frames := by
  rw [← prepare_frames rw]
  unfold endStream
  simp only []
  split_ifs
  · exact List.prefix_rfl
  · exact writeHeaders_frames env (prepare rw) true
  · rw [latch_frames]
    exact submit_frames env (prepare rw) _

theorem finish_frames (bodyDone : Bool) (rw : ResponseWriter) :
    rw.frames <+: (ServeStream.finish env bodyDone rw).frames := by
  have ended := endStream_frames env rw
  unfold ServeStream.finish
  split
  · exact submit_frames env rw _
  split
  · split <;> rename_i result <;> rw [result] at ended
    · exact ended.trans (submit_frames env _ _)
    · split
      · exact ended
      · exact ended.trans (submit_frames env _ _)
    · exact ended
  · exact List.prefix_rfl

theorem recover_frames (rw : ResponseWriter) :
    rw.frames <+: (ServeStream.recover env rw).frames := by
  unfold ServeStream.recover
  split
  · exact writeHeaders_frames env { rw with
      status := 500, header := rw.header.del "Content-Length", declaredCL := -1 } true
  · exact submit_frames env rw _

theorem write_frames (m : ServeStream.Machine) (rest : List ServeStream.Op) (p : Bytes) :
    m.rw.frames <+: (ServeStream.call env m rest (.write p)).rw.frames := by
  have head := writeHeaders_frames env (prepare m.rw) false
  rw [prepare_frames] at head
  simp only [ServeStream.call, beginWrite]
  cases m.rw.err with
  | some err => exact List.prefix_rfl
  | none =>
      simp only []
      by_cases bodiless : (prepare m.rw).noBody = true
      · simp only [bodiless, ↓reduceIte, prepare_frames, List.prefix_rfl]
      · simp only [bodiless, Bool.false_eq_true, ↓reduceIte]
        split <;> rename_i begun
        · split at begun <;> rename_i sent <;> rw [sent] at head
          · obtain ⟨-, -, rfl⟩ := WorkerResponse.Begun.returned.inj begun
            exact head
          · split_ifs at begun
            · obtain ⟨-, -, rfl⟩ := WorkerResponse.Begun.returned.inj begun
              exact head
            · obtain ⟨-, -, rfl⟩ := WorkerResponse.Begun.returned.inj begun
              exact head
        · split at begun <;> rename_i sent <;> rw [sent] at head
          · cases begun
          · split_ifs at begun
            obtain rfl := WorkerResponse.Begun.sending.inj begun
            exact head

theorem reserve_frames (rw : ResponseWriter) (want : Int32) :
    (reserve env rw want).2.frames = rw.frames := by
  unfold reserve
  split
  · rfl
  · split <;> rfl

/-- One iteration of the loop of `Write`, or its end. -/
theorem writing_frames (req : ServeStream.Request) (prog : ServeStream.Program)
    (rw : ResponseWriter) (maxFrame : Int32) (p : Bytes) (total : Nat)
    (rest : List ServeStream.Op) (results : List (Nat × Option WriteErr)) :
    rw.frames <+:
      (ServeStream.step env req prog ⟨rw, .writing maxFrame p total rest, results⟩).rw.frames := by
  have reserved := reserve_frames env rw (MachineInt.minimum (Int32.ofNat p.length) maxFrame)
  simp only [ServeStream.step, sendChunk]
  split
  · exact List.prefix_rfl
  rw [← reserved]
  split_ifs
  · exact List.prefix_rfl
  · let granted := reserve env rw (MachineInt.minimum (Int32.ofNat p.length) maxFrame)
    have data := submit_frames env granted.2 (.data (p.take granted.1.1.toInt.toNat) false)
    split <;> rename_i outcome <;> split at outcome <;> rename_i submitted <;>
      rw [submitted] at data <;> cases outcome <;> exact data

theorem step_frames (req : ServeStream.Request) (prog : ServeStream.Program)
    (m : ServeStream.Machine) : m.rw.frames <+: (ServeStream.step env req prog m).rw.frames := by
  rcases m with ⟨rw, control, results⟩
  rcases control with - | (- | ⟨op, rest⟩) | ⟨maxFrame, p, total, rest⟩ | -
  · simp only [ServeStream.step]
    split
    · exact submit_frames env rw _
    · exact List.prefix_rfl
  · simp only [ServeStream.step]
    split
    · exact recover_frames env rw
    · exact finish_frames env req.bodyDone rw
  · cases op with
    | edit change => exact List.prefix_rfl
    | writeHeader code => exact writeHeader_frames env rw code
    | write p => exact write_frames env ⟨rw, _, results⟩ rest p
    | flush => exact flush_frames env rw
  · exact writing_frames env req prog rw maxFrame p total rest results
  · exact List.prefix_rfl

end Frames

/-! ## What the frames make the reader do -/

theorem events_datas (chunks : List Bytes) :
    (datas Out.data chunks).flatMap events = chunks.map Event.data := by
  induction chunks with
  | nil => rfl
  | cons chunk rest ih =>
      simp only [datas, List.map_cons, List.flatMap_cons] at ih ⊢
      rw [ih]
      rfl

/-- HEADERS and DATA come before END_STREAM, failures after it and after a block. -/
def Admissible (front : List Event) : Event → Prop
  | .headers _ | .data _ | .endStream => .endStream ∉ front
  | .fail _ | .failBody _ => .endStream ∈ front ∧ (firstBlock front).isSome = true

theorem Ended.closing {isHead : Bool} {frames : List Out} (ended : ServeStream.Ended isHead frames) :
    ∃ front last, frames = front ++ [last] ∧ Quiet front ∧ Ends last := by
  cases ended with
  | headers interims status header opening final =>
      exact ⟨interims, _, rfl, ContentLength.opening_quiet opening, rfl⟩
  | data front streaming => exact ⟨front, _, rfl, ContentLength.streaming_quiet streaming, rfl⟩

/-- A body under way is one its head allows. -/
def Fits (d : Draft) : Prop :=
  ∀ status declared head body, d.stage = .streaming status declared head body →
    WorkerResponse.bodyAllowedForStatus status = true ∧
      declared = parseUint63 (head.get "Content-Length") ∧
      (declared = none → head.get "Content-Length" = "") ∧ ∀ v, declared = some v → body.length ≤ v

end ReverseHttp.ResponseEvents
