import ReverseHttp.ContentLength
import ReverseHttp.StreamClosure

/-!
The response a handler drafts, frames and flow control apart. A draft is the header map,
how far the response is settled and the bytes accepted so far. `ServeStream` refines it:
on a connection that stays alive, whatever credit it grants and however it cuts a body
into frames, the submitted frames tell what the draft tells.
-/

namespace ReverseHttp.HandlerDraft

open MachineInt Wire WorkerResponse ServeStream ResponseBody
open ContentLength (load opBytes)
open StreamClosure (submittedEnd)
open NetHttp hiding bodyAllowedForStatus

/-- HEAD requests and the statuses 204 and 304 make a response `bodiless`. In a `refused`
one some Write went past the declared length. -/
inductive Stage where
  | drafting (status : Int)
  | bodiless (status : Int) (declared : Option Nat)
  | streaming (status : Int) (declared : Option Nat) (head : Header) (body : Bytes)
  | refused (status : Int) (declared : Option Nat) (head : Header) (body : Bytes)
  deriving DecidableEq

/-- `results` lists what each `Write` returned. -/
structure Draft where
  isHead : Bool
  header : Header
  interims : List (Int × Header)
  stage : Stage
  results : List (Nat × Option WriteErr)
  deriving DecidableEq

def Draft.new (isHead : Bool) : Draft := ⟨isHead, [], [], .drafting 0, []⟩

def settledStatus (status : Int) : Int := if status = 0 then 200 else status

/-- A Content-Length that is no length is dropped. -/
def settledHeader (header : Header) : Header :=
  if header.get "Content-Length" ≠ "" ∧ parseUint63 (header.get "Content-Length") = none then
    header.del "Content-Length"
  else header

/-- The first Write or Flush settles the response, or else the return. -/
def Draft.settle (d : Draft) : Draft :=
  match d.stage with
  | .drafting status =>
      let declared := parseUint63 (d.header.get "Content-Length")
      { d with
        header := settledHeader d.header
        stage :=
          if d.isHead || !bodyAllowedForStatus (settledStatus status) then
            .bodiless (settledStatus status) declared
          else .streaming (settledStatus status) declared (settledHeader d.header) [] }
  | _ => d

def Draft.returned (d : Draft) (count : Nat) (err : Option WriteErr) : Draft :=
  { d with results := d.results ++ [(count, err)] }

def Draft.writeHeader (d : Draft) (code : Int) : Draft :=
  match d.stage with
  | .drafting status =>
      if 100 ≤ code ∧ code ≤ 199 then
        if status = 0 ∧ code ≠ 101 then
          { d with interims := d.interims ++ [(code, d.header.del "Content-Length")] }
        else d
      else { d with stage := .drafting code }
  | _ => d

/-- `Write` once the response is settled. -/
def Draft.append (d : Draft) (p : Bytes) : Draft :=
  match d.stage with
  | .streaming status declared head body =>
      if p = [] then d.returned 0 none
      else if declared.any (· < body.length + p.length) then
        { d with stage := .refused status declared head body }.returned 0 (some .contentLength)
      else
        { d with stage := .streaming status declared head (body ++ p) }.returned p.length none
  | .refused .. => d.returned 0 (some .contentLength)
  | .bodiless .. | .drafting _ => d.returned p.length none

def Draft.perform (d : Draft) : Op → Draft
  | .edit change => { d with header := change d.header }
  | .writeHeader code => d.writeHeader code
  | .write p => d.settle.append p
  | .flush => d.settle

/-- The final head, once it is sent. -/
def Draft.final (d : Draft) : Option (Int × Header) :=
  match d.stage with
  | .drafting _ | .bodiless .. => none
  | .streaming status _ head _ | .refused status _ head _ => some (status, head)

def Draft.body (d : Draft) : Bytes :=
  match d.stage with
  | .drafting _ | .bodiless .. => []
  | .streaming _ _ _ body | .refused _ _ _ body => body

/-- An aborted response has a final head only if that was sent before the reset. -/
inductive Outcome where
  | complete (status : Int) (header : Header) (body : Bytes)
  | aborted (head : Option (Int × Header)) (body : Bytes) (code : ErrCode)
  deriving DecidableEq

def Draft.abort (d : Draft) : Outcome := .aborted d.final d.body errCodeInternal

/-- The handler returns. -/
def Draft.conclude (d : Draft) : Outcome :=
  match d.settle.stage with
  | .bodiless status _ => .complete status d.settle.header []
  | .streaming status declared head body =>
      if declared.any (body.length < ·) then d.abort else .complete status head body
  | .refused .. | .drafting _ => d.abort

/-- The handler panics. -/
def Draft.recover (d : Draft) : Outcome :=
  match d.stage with
  | .drafting _ | .bodiless .. => .complete 500 (d.header.del "Content-Length") []
  | .streaming .. | .refused .. => d.abort

/-- What the handler drafted; nothing if the path of the request does not parse. -/
def drafted (req : Request) (prog : Program) : Draft :=
  match parseRequestURI req.path with
  | none => Draft.new req.isHead
  | some _ => prog.ops.foldl Draft.perform (Draft.new req.isHead)

def outcome (req : Request) (prog : Program) : Outcome :=
  match parseRequestURI req.path with
  | none => .aborted none [] errCodeProtocol
  | some _ =>
      if prog.panics then (drafted req prog).recover else (drafted req prog).conclude

/-! The frames of a response, up to the boundaries of its DATA frames. -/

/-- HEADERS that leave the stream open. -/
def opened (head : Int × Header) : Out := .headers head.1 head.2 false

/-- The final HEADERS and the body after them. -/
def started (head : Int × Header) (chunks : List Bytes) : List Out :=
  opened head :: datas .data chunks

/-- RST_STREAM(NO_ERROR), since the request body was not all in. -/
def stop (early : Bool) : List Out := if early then [.rstStream errCodeNo] else []

/-- The response frame after frame, however its body is cut into `chunks`. The interim
heads come first; a complete response ends with END_STREAM, on its final HEADERS or on an
empty DATA frame, and an aborted one with RST_STREAM after what was sent of it. -/
inductive Conveys (interims : List (Int × Header)) (early : Bool) : Outcome → List Out → Prop where
  | bare (status : Int) (header : Header) :
      Conveys interims early (.complete status header [])
        (interims.map opened ++ [.headers status header true] ++ stop early)
  | streamed (status : Int) (header : Header) (chunks : List Bytes) :
      Conveys interims early (.complete status header chunks.flatten)
        (interims.map opened ++ started (status, header) chunks ++ [.data [] true] ++ stop early)
  | refused (code : ErrCode) :
      Conveys interims early (.aborted none [] code) (interims.map opened ++ [.rstStream code])
  | broken (head : Int × Header) (chunks : List Bytes) (code : ErrCode) :
      Conveys interims early (.aborted (some head) chunks.flatten code)
        (interims.map opened ++ started head chunks ++ [.rstStream code])

/-- The frames while the response is being sent. -/
def Draft.Tells (d : Draft) (frames : List Out) : Prop :=
  match d.final with
  | none => frames = d.interims.map opened
  | some head => ∃ chunks, chunks.flatten = d.body ∧
      frames = d.interims.map opened ++ started head chunks

section Tells

variable {d : Draft} {frames : List Out}

theorem Draft.Tells.bare (tells : d.Tells frames) (unsent : d.final = none) :
    frames = d.interims.map opened := by
  simpa only [Draft.Tells, unsent] using tells

theorem Draft.Tells.streamed (tells : d.Tells frames) {head : Int × Header}
    (sent : d.final = some head) :
    ∃ chunks, chunks.flatten = d.body ∧ frames = d.interims.map opened ++ started head chunks := by
  simpa only [Draft.Tells, sent] using tells

/-- A draft that differs only in what no frame shows. -/
theorem Draft.Tells.congr (tells : d.Tells frames) {e : Draft} (final : e.final = d.final)
    (body : e.body = d.body) (interims : e.interims = d.interims) : e.Tells frames := by
  unfold Draft.Tells at tells ⊢
  rwa [final, body, interims]

theorem Draft.Tells.datas (tells : d.Tells frames) {e : Draft} {head : Int × Header}
    (sent : d.final = some head) (final : e.final = some head) (interims : e.interims = d.interims)
    (more : List Bytes) (body : e.body = d.body ++ more.flatten) :
    e.Tells (frames ++ Wire.datas .data more) := by
  obtain ⟨chunks, whole, rfl⟩ := tells.streamed sent
  simp only [Draft.Tells, final]
  refine ⟨chunks ++ more, by rw [List.flatten_append, whole, body], ?_⟩
  rw [interims, started, started, datas_append, List.append_assoc, List.cons_append]

theorem body_unsent (unsent : d.final = none) : d.body = [] := by
  cases stage : d.stage <;> simp_all [Draft.final, Draft.body]

/-- The stream is reset with the response under way. -/
theorem Draft.Tells.aborted (tells : d.Tells frames) (early : Bool) (code : ErrCode) :
    Conveys d.interims early (.aborted d.final d.body code) (frames ++ [.rstStream code]) := by
  cases sent : d.final with
  | none =>
      rw [tells.bare sent, body_unsent sent]
      exact .refused code
  | some head =>
      obtain ⟨chunks, whole, rfl⟩ := tells.streamed sent
      rw [← whole]
      exact .broken head chunks code

end Tells

/-! The draft inside the writer. -/

def declaredLength : Option Nat → Int
  | some v => v
  | none => -1

/-- The fields of a `responseWriter` that holds this draft. -/
def writer (d : Draft) (submits reserves : Nat) (frames : List Out) : ResponseWriter :=
  let blank := { ResponseWriter.new d.isHead with
    header := d.header, submits := submits, reserves := reserves, frames := frames }
  match d.stage with
  | .drafting status => { blank with status := status }
  | .bodiless status declared =>
      { blank with
        status := status
        prepared := true
        noBody := true
        declaredCL := declaredLength declared }
  | .streaming status declared _ body =>
      { blank with
        status := status
        prepared := true
        wroteHeaders := true
        declaredCL := declaredLength declared
        written := body.length }
  | .refused status declared _ body =>
      { blank with
        status := status
        prepared := true
        wroteHeaders := true
        declaredCL := declaredLength declared
        written := body.length
        clViolated := true
        err := some .contentLength }

inductive Represents (d : Draft) : ResponseWriter → Prop where
  | intro (submits reserves : Nat) (frames : List Out) (tells : d.Tells frames) :
      Represents d (writer d submits reserves frames)

section Alive

variable {env : Env} (alive : Alive env)

include alive

/-- Where the machine is between two calls. -/
structure Between (d : Draft) (ops : List Op) (m : Machine) : Prop where
  control : m.control = .calls ops
  results : m.results = d.results
  writer : Represents d m.rw

end Alive

/-! Whole handlers. -/

end ReverseHttp.HandlerDraft
