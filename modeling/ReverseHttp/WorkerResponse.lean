import ReverseHttp.Flow
import ReverseHttp.NetHttp

/-!
The worker's `responseWriter` (writer.go). What the connection answers is an
environment: `submit k` is the error of the stream's `k`-th synchronous write,
`grant k` the credit its `k`-th `Reserve` finds when it stops waiting (`none`
once the connection is dead), `maxFrameSize k` the peer's setting when `k`
frames have been submitted. The loop of `Write` is cut into its iterations;
`frames` is ghost: what has been submitted for the stream, oldest first.
-/

namespace ReverseHttp.WorkerResponse

open MachineInt Wire NetHttp

inductive WriteErr where
  | connDead
  | contentLength
  | shortContentLength
  | transport (cause : Nat)
  deriving DecidableEq

inductive Out where
  | headers (status : Int) (header : Header) (endStream : Bool)
  | data (payload : Bytes) (endStream : Bool)
  | rstStream (code : ErrCode)
  deriving DecidableEq

structure Env where
  submit : Nat → Option WriteErr
  grant : Nat → Option Int32
  maxFrameSize : Nat → Nat

structure ResponseWriter where
  header : Header
  err : Option WriteErr
  declaredCL : Int
  written : Int
  status : Int
  wroteHeaders : Bool
  prepared : Bool
  isHead : Bool
  noBody : Bool
  clViolated : Bool
  submits : Nat
  reserves : Nat
  frames : List Out
  deriving DecidableEq

def ResponseWriter.new (isHead : Bool) : ResponseWriter :=
  { header := []
    err := none
    declaredCL := 0
    written := 0
    status := 0
    wroteHeaders := false
    prepared := false
    isHead := isHead
    noBody := false
    clViolated := false
    submits := 0
    reserves := 0
    frames := [] }

section Methods

variable (env : Env)

/-- A frame handed to the connection's writer, and the error that came back. -/
def submit (rw : ResponseWriter) (frame : Out) : Option WriteErr × ResponseWriter :=
  match env.submit rw.submits with
  | none => (none, { rw with submits := rw.submits + 1, frames := rw.frames ++ [frame] })
  | some err => (some err, { rw with submits := rw.submits + 1 })

def latch (result : Option WriteErr × ResponseWriter) : ResponseWriter :=
  match result.1 with
  | none => result.2
  | some err => { result.2 with err := some err }

def reset (rw : ResponseWriter) (code : ErrCode) : ResponseWriter :=
  (submit env rw (.rstStream code)).2

def writeInformational (rw : ResponseWriter) (status : Int) : ResponseWriter :=
  if status = 101 then rw
  else
    let h := if rw.header.has "Content-Length" then rw.header.del "Content-Length" else rw.header
    latch (submit env rw (.headers status h false))

def writeHeader (rw : ResponseWriter) (statusCode : Int) : ResponseWriter :=
  if rw.prepared = true ∨ rw.err ≠ none then rw
  else if 100 ≤ statusCode ∧ statusCode ≤ 199 then
    if rw.status = 0 then writeInformational env rw statusCode else rw
  else { rw with status := statusCode }

def bodyAllowedForStatus (status : Int) : Bool := status != 204 && status != 304

/-- The declared length, or a malformed one dropped from the map. -/
def declare (rw : ResponseWriter) : ResponseWriter :=
  let cl := rw.header.get "Content-Length"
  if cl = "" then { rw with declaredCL := -1 }
  else
    match parseUint63 cl with
    | some v => { rw with declaredCL := v }
    | none => { rw with declaredCL := -1, header := rw.header.del "Content-Length" }

def prepare (rw : ResponseWriter) : ResponseWriter :=
  if rw.prepared then rw
  else
    let status := if rw.status = 0 then 200 else rw.status
    declare { rw with
      prepared := true
      status := status
      noBody := rw.isHead || !bodyAllowedForStatus status }

def writeHeaders (rw : ResponseWriter) (endStream : Bool) : Option WriteErr × ResponseWriter :=
  if rw.wroteHeaders then (none, rw)
  else
    let rw := { prepare rw with wroteHeaders := true }
    let result := submit env rw (.headers rw.status rw.header endStream)
    (result.1, latch result)

def flush (rw : ResponseWriter) : ResponseWriter :=
  if rw.err ≠ none then rw
  else
    let rw := prepare rw
    if rw.noBody then rw
    else
      let result := writeHeaders env rw false
      if result.1 ≠ none then result.2 else latch (submit env result.2 (.data [] false))

/-- Two's complement wrap-around of a 64-bit sum. -/
def int64 (value : Int) : Int := value.bmod (2 ^ 64)

inductive Begun where
  | returned (count : Nat) (err : Option WriteErr) (rw : ResponseWriter)
  | sending (rw : ResponseWriter)

/-- `Write` up to its loop. -/
def beginWrite (rw : ResponseWriter) (p : Bytes) : Begun :=
  match rw.err with
  | some err => .returned 0 (some err) rw
  | none =>
      let rw := prepare rw
      if rw.noBody then .returned p.length none rw
      else
        match writeHeaders env rw false with
        | (some err, rw) => .returned 0 (some err) rw
        | (none, rw) =>
            if p = [] then .returned 0 none rw
            else if 0 ≤ rw.declaredCL ∧ rw.declaredCL < int64 (rw.written + p.length) then
              .returned 0 (some .contentLength)
                { rw with clViolated := true, err := some .contentLength }
            else .sending rw

/-- `int32(MaxFrameSize())`, with the fallback of the source. -/
def maxFrame (rw : ResponseWriter) : Int32 :=
  let size := Int32.ofNat (env.maxFrameSize rw.submits)
  if size ≤ 0 then 16384 else size

/-- `Reserve` for this stream: nothing is asked for, the connection is dead, or
the smaller of what is wanted and what there is. -/
def reserve (rw : ResponseWriter) (want : Int32) : (Int32 × Bool) × ResponseWriter :=
  if want ≤ 0 then ((0, false), rw)
  else
    match env.grant rw.reserves with
    | none => ((0, true), { rw with reserves := rw.reserves + 1 })
    | some avail =>
        ((if want < avail then want else avail, false), { rw with reserves := rw.reserves + 1 })

inductive Iteration where
  | failed (err : WriteErr) (rw : ResponseWriter)
  | sent (got : Nat) (rw : ResponseWriter)

/-- One iteration of the loop of `Write`, with `p` still to send. -/
def sendChunk (rw : ResponseWriter) (maxFrame : Int32) (p : Bytes) : Iteration :=
  let want := minimum (Int32.ofNat p.length) maxFrame
  let reserved := reserve env rw want
  if reserved.1.2 then .failed .connDead { reserved.2 with err := some .connDead }
  else
    let got := reserved.1.1.toInt.toNat
    match submit env reserved.2 (.data (p.take got) false) with
    | (some err, rw) => .failed err { rw with err := some err }
    | (none, rw) => .sent got { rw with written := int64 (rw.written + got) }

def endStream (rw : ResponseWriter) : Option WriteErr × ResponseWriter :=
  let rw := prepare rw
  if rw.noBody = false ∧ 0 ≤ rw.declaredCL ∧ rw.written < rw.declaredCL then
    (some .shortContentLength, rw)
  else if rw.wroteHeaders = false then writeHeaders env rw true
  else
    let result := submit env rw (.data [] true)
    (result.1, latch result)

end Methods

end ReverseHttp.WorkerResponse
