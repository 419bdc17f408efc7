import ReverseHttp.Framing
import ReverseHttp.HeaderBlocks

/-!
The main loops of `serve` (handler.go) and `serveTunnel` (tunnel.go) from the
bytes up, once the peer's initial SETTINGS is in. `Framer.ReadFrame` of x/net is
`readFrame` followed by the parser of the frame type and the check of the frame
order; on a read error it discards what it had consumed. The loops differ in
their dispatch only. The shutdown channel, the drain signal and what other
goroutines do to the connection are an environment, consulted at the loop's
checks in turn. `dispatched` and `lost` are ghost: the frames that reached the
dispatch and the number of bytes discarded.
-/

namespace ReverseHttp.FrameLoop

open Wire
open HeaderBlocks (Conn Field serveFrame)
open Framing hiding Frame

def beNat (bytes : Bytes) : Nat := bytes.foldl (fun value byte => value * 256 + byte.toNat) 0

/-- Nine bytes of header, the first three its length; `SetMaxReadFrameSize(16384)`. -/
def http2 : Format UInt8 :=
  { headerSize := 9
    lengthOf := fun header => beNat (header.take 3)
    limit := 16384
    nonempty := by decide }

abbrev RawFrame := Framing.Frame http2

def RawFrame.kind (raw : RawFrame) : Nat := (raw.header.getD 3 0).toNat
def RawFrame.flag (raw : RawFrame) (bit : Nat) : Bool := (raw.header.getD 4 0).toNat.testBit bit
def RawFrame.streamID (raw : RawFrame) : StreamID := beNat (raw.header.drop 5) % 2 ^ 31

/-! The parsers of the frame types. -/

def unpad (padded : Bool) (payload : Bytes) : Option (Nat × Bytes) :=
  if padded then
    match payload with
    | [] => none
    | size :: rest => some (size.toNat, rest)
  else some (0, payload)

def trim (pad : Nat) (payload : Bytes) : Option Bytes :=
  if payload.length < pad then none else some (payload.take (payload.length - pad))

def settingsOf : Bytes → List Setting
  | a :: b :: c :: d :: e :: f :: rest => ⟨beNat [a, b], beNat [c, d, e, f]⟩ :: settingsOf rest
  | _ => []

def parseData (raw : RawFrame) : Option Frame :=
  if raw.streamID = 0 then none
  else do
    let (pad, rest) ← unpad (raw.flag 3) raw.payload
    let data ← trim pad rest
    some (.data raw.streamID data raw.payload.length (raw.flag 0))

def parseHeaders (raw : RawFrame) : Option Frame :=
  if raw.streamID = 0 then none
  else do
    let (pad, rest) ← unpad (raw.flag 3) raw.payload
    let rest ← if raw.flag 5 then (if rest.length < 5 then none else some (rest.drop 5)) else some rest
    let fragment ← trim pad rest
    some (.headers raw.streamID fragment (raw.flag 2) (raw.flag 0))

def parseSettings (raw : RawFrame) : Option Frame :=
  if raw.flag 0 ∧ raw.payload ≠ [] then none
  else if raw.streamID ≠ 0 then none
  else if raw.payload.length % 6 ≠ 0 then none
  else
    let values := settingsOf raw.payload
    if values.any fun s => s.id = settingInitialWindowSize && 2 ^ 31 - 1 < s.val then none
    else some (.settings (raw.flag 0) values)

def parseWindowUpdate (raw : RawFrame) : Option Frame :=
  if raw.payload.length ≠ 4 then none
  else
    let inc := beNat raw.payload % 2 ^ 31
    if inc = 0 then none else some (.windowUpdate raw.streamID inc)

def parsePing (raw : RawFrame) : Option Frame :=
  if raw.payload.length ≠ 8 ∨ raw.streamID ≠ 0 then none
  else some (.ping (raw.flag 0) raw.payload)

def parseGoAway (raw : RawFrame) : Option Frame :=
  if raw.streamID ≠ 0 ∨ raw.payload.length < 8 then none
  else some (.goAway (beNat (raw.payload.take 4) % 2 ^ 31) (beNat ((raw.payload.drop 4).take 4)))

def parseRSTStream (raw : RawFrame) : Option Frame :=
  if raw.payload.length ≠ 4 ∨ raw.streamID = 0 then none
  else some (.rstStream raw.streamID (beNat raw.payload))

def parseContinuation (raw : RawFrame) : Option Frame :=
  if raw.streamID = 0 then none else some (.continuation raw.streamID raw.payload (raw.flag 2))

/-- Neither loop looks at the promised stream. -/
def parsePushPromise (raw : RawFrame) : Option Frame :=
  if raw.streamID = 0 then none
  else do
    let (pad, rest) ← unpad (raw.flag 3) raw.payload
    let rest ← if rest.length < 4 then none else some (rest.drop 4)
    let fragment ← trim pad rest
    some (.pushPromise raw.streamID fragment (raw.flag 2))

/-- PRIORITY and the kinds that no document defines. -/
def parseOther (raw : RawFrame) : Option Frame :=
  if raw.kind = 2 ∧ (raw.payload.length ≠ 5 ∨ raw.streamID = 0) then none
  else some (.other raw.streamID)

def parseFrame (raw : RawFrame) : Option Frame :=
  match raw.kind with
  | 0 => parseData raw
  | 1 => parseHeaders raw
  | 3 => parseRSTStream raw
  | 4 => parseSettings raw
  | 5 => parsePushPromise raw
  | 6 => parsePing raw
  | 7 => parseGoAway raw
  | 8 => parseWindowUpdate raw
  | 9 => parseContinuation raw
  | _ => parseOther raw

/-- `checkFrameOrder`: inside a header block only its CONTINUATION frames. -/
def checkFrameOrder (lastHeaderStream : StreamID) : Frame → Option StreamID
  | .continuation id _ endHeaders =>
      if lastHeaderStream = 0 ∨ id ≠ lastHeaderStream then none
      else some (if endHeaders then 0 else id)
  | .headers id _ endHeaders _ =>
      if lastHeaderStream ≠ 0 then none else some (if endHeaders then 0 else id)
  | _ => if lastHeaderStream ≠ 0 then none else some 0

/-! Ping liveness. -/

structure Ping where
  pending : Bool
  data : Bytes
  counter : Nat
  deadline : Nat
  deriving DecidableEq

def Ping.new : Ping := ⟨false, [0, 0, 0, 0, 0, 0, 0, 0], 0, 0⟩

def putUint64 (value : Nat) : Bytes :=
  [7, 6, 5, 4, 3, 2, 1, 0].map fun place => UInt8.ofNat (value / 256 ^ place)

def sendOrCheckPing (pingTimeout : Nat) (ping : Ping) (now : Nat) : Except H2Error Ping :=
  if ping.pending then
    if ping.deadline < now then .error .pingTimeout else .ok ping
  else
    let counter := (ping.counter + 1) % 2 ^ 64
    .ok ⟨true, putUint64 counter, counter, now + pingTimeout⟩

def handlePingAck (ping : Ping) (data : Bytes) : Ping :=
  if ping.pending ∧ ping.data = data then { ping with pending := false } else ping

def observePing (ping : Ping) : Frame → Ping
  | .ping true data => handlePingAck ping data
  | _ => ping

/-! The loop. -/

/-- Why a loop returned: told to shut down, an error of the connection, a frame
over the limit, one that `ReadFrame` rejects, or a transport error. -/
inductive Exit where
  | shutdown
  | conn (err : H2Error)
  | frameTooLarge
  | badFrame
  | transport
  deriving DecidableEq

inductive Control where
  | running
  | blocked
  | exited (reason : Exit)
  deriving DecidableEq

/-- What distinguishes the two loops: how a frame is parsed and dispatched. -/
structure Handlers (σ : Type) where
  parse : σ → RawFrame → Option (Frame × σ)
  dispatch : σ → Frame → Except H2Error σ

structure Env (σ : Type) where
  shutdown : Nat → Bool
  drainComplete : Nat → Bool
  others : Nat → σ → σ
  pingTimeout : Nat

structure Loop (σ : Type) where
  events : List (Event UInt8)
  conn : σ
  ping : Ping
  checks : Nat
  dispatched : List RawFrame
  lost : Nat
  control : Control

variable {σ : Type}

def Loop.start (conn : σ) (events : List (Event UInt8)) : Loop σ :=
  { events := events
    conn := conn
    ping := Ping.new
    checks := 0
    dispatched := []
    lost := 0
    control := .running }

section Run

variable (handlers : Handlers σ) (env : Env σ)

def poll (checks : Nat) : Option Exit :=
  if env.shutdown checks then some .shutdown
  else if env.drainComplete checks then some (.conn .goaway)
  else none

/-- A timeout is taken for silence on the connection. -/
def onTimeout (l : Loop σ) (now : Nat) (rest : List (Event UInt8)) : Loop σ :=
  let l := { l with
    events := rest
    lost := l.lost + (ready l.events).length
    checks := l.checks + 1 }
  match poll env l.checks with
  | some reason => { l with control := .exited reason }
  | none =>
      match sendOrCheckPing env.pingTimeout l.ping now with
      | .error err => { l with control := .exited (.conn err) }
      | .ok ping => { l with ping := ping, checks := l.checks + 1 }

def onFrame (l : Loop σ) (raw : RawFrame) (rest : List (Event UInt8)) : Loop σ :=
  let l := { l with events := rest, checks := l.checks + 1 }
  match handlers.parse l.conn raw with
  | none => { l with control := .exited .badFrame }
  | some (frame, conn) =>
      let l := { l with
        dispatched := l.dispatched ++ [raw]
        ping := observePing l.ping frame }
      match handlers.dispatch conn frame with
      | .error err => { l with control := .exited (.conn err) }
      | .ok conn => { l with conn := conn }

/-- One iteration. -/
def step (l : Loop σ) : Loop σ :=
  match l.control with
  | .running =>
      let l := { l with conn := env.others l.checks l.conn }
      match poll env l.checks with
      | some reason => { l with control := .exited reason }
      | none =>
          match readFrame http2 l.events with
          | .blocked => { l with control := .blocked }
          | .failed => { l with control := .exited .transport }
          | .oversized => { l with control := .exited .frameTooLarge }
          | .timeout now rest => onTimeout env l now rest
          | .frame raw rest => onFrame handlers l raw rest
  | _ => l

def after (conn : σ) (events : List (Event UInt8)) (count : Nat) : Loop σ :=
  (step handlers env)^[count] (Loop.start conn events)

end Run

section Roles

variable {Table : Type} (decode : Table → Bytes → Option (Table × List Field))
  (canon : String → String)

def parseInOrder (state : StreamID × Conn Table) (raw : RawFrame) :
    Option (Frame × (StreamID × Conn Table)) := do
  let frame ← parseFrame raw
  let lastHeaderStream ← checkFrameOrder state.1 frame
  some (frame, (lastHeaderStream, state.2))

def frameHandlers (role : Role) : Handlers (StreamID × Conn Table) where
  parse := parseInOrder
  dispatch state frame := (serveFrame decode canon role state.2 frame).map (state.1, ·)

def serve : Handlers (StreamID × Conn Table) := frameHandlers decode canon .worker

def serveTunnel : Handlers (StreamID × Conn Table) := frameHandlers decode canon .proxy

variable {decode canon}

theorem parseHeaders_readable {raw : RawFrame} {frame : Frame}
    (parsed : parseHeaders raw = some frame) : HeaderBlocks.Readable frame := by
  unfold parseHeaders at parsed
  split at parsed
  · cases parsed
  · rename_i named
    obtain ⟨⟨pad, rest⟩, -, parsed⟩ := Option.bind_eq_some_iff.mp parsed
    -- with and without the priority fields
    dsimp only at parsed
    split at parsed
    all_goals
      obtain ⟨block, -, parsed⟩ := Option.bind_eq_some_iff.mp parsed
      obtain ⟨trimmed, -, parsed⟩ := Option.bind_eq_some_iff.mp parsed
      cases parsed
      exact named

theorem parsePushPromise_readable {raw : RawFrame} {frame : Frame}
    (parsed : parsePushPromise raw = some frame) : HeaderBlocks.Readable frame := by
  unfold parsePushPromise at parsed
  split at parsed
  · cases parsed
  · rename_i named
    obtain ⟨⟨pad, rest⟩, -, parsed⟩ := Option.bind_eq_some_iff.mp parsed
    dsimp only at parsed
    split at parsed
    · cases parsed
    · obtain ⟨block, -, parsed⟩ := Option.bind_eq_some_iff.mp parsed
      obtain ⟨trimmed, -, parsed⟩ := Option.bind_eq_some_iff.mp parsed
      cases parsed
      exact named

/-- Only HEADERS and PUSH_PROMISE could name stream 0, and their parsers refuse that. -/
theorem parseFrame_readable {raw : RawFrame} {frame : Frame}
    (parsed : parseFrame raw = some frame) : HeaderBlocks.Readable frame := by
  unfold parseFrame at parsed
  split at parsed
  case h_2 => exact parseHeaders_readable parsed
  case h_5 => exact parsePushPromise_readable parsed
  all_goals
    cases frame with
    | headers | pushPromise =>
        simp [parseData, parseRSTStream, parseSettings, parsePing, parseGoAway,
          parseWindowUpdate, parseContinuation, parseOther, Option.bind_eq_some_iff] at parsed
    | _ => trivial

/-- A frame the loop survives is a step of the header-block machine. -/
theorem dispatch_steps {role : Role} {state parsed next : StreamID × Conn Table}
    {raw : RawFrame} {frame : Frame} (read : parseInOrder state raw = some (frame, parsed))
    (ok : (frameHandlers decode canon role).dispatch parsed frame = .ok next) :
    HeaderBlocks.step decode canon role state.2 (.frame frame) =
      some { next.2 with frames := state.2.frames ++ [frame] } := by
  simp only [parseInOrder, Option.bind_eq_bind, Option.bind_eq_some_iff, Option.some.injEq,
    Prod.mk.injEq] at read
  obtain ⟨frame, found, lastHeaderStream, -, rfl, rfl⟩ := read
  obtain ⟨conn, served, rfl⟩ := HeaderBlocks.map_ok ok
  simp only [HeaderBlocks.step, if_pos (parseFrame_readable found), served]

end Roles

/-- Every deadline expires where a frame of the stream ends and the next begins. -/
def BetweenFrames (frames : List RawFrame) (events : List (Event UInt8)) : Prop :=
  ∀ mark ∈ marks 0 events, mark ∈ boundaries 0 frames

instance (frames : List RawFrame) (events : List (Event UInt8)) :
    Decidable (BetweenFrames frames events) :=
  inferInstanceAs (Decidable (∀ mark ∈ marks 0 events, mark ∈ boundaries 0 frames))

/-- What one iteration of a running loop can do. -/
inductive Iterates (l next : Loop σ) : Prop where
  | exited (reason : Exit) (control : next.control = .exited reason)
      (same : next.dispatched = l.dispatched)
  | rejected (raw : RawFrame) (rest : List (Event UInt8)) (reason : Exit)
      (got : readFrame http2 l.events = .frame raw rest) (control : next.control = .exited reason)
      (extended : next.dispatched = l.dispatched ++ [raw])
  | blocked (got : readFrame http2 l.events = .blocked) (control : next.control = .blocked)
      (events : next.events = l.events) (same : next.dispatched = l.dispatched)
      (lost : next.lost = l.lost)
  | timeout (now : Nat) (rest : List (Event UInt8))
      (got : readFrame http2 l.events = .timeout now rest) (control : next.control = .running)
      (events : next.events = rest) (same : next.dispatched = l.dispatched)
      (lost : next.lost = l.lost + (ready l.events).length)
  | frame (raw : RawFrame) (rest : List (Event UInt8))
      (got : readFrame http2 l.events = .frame raw rest) (control : next.control = .running)
      (events : next.events = rest) (extended : next.dispatched = l.dispatched ++ [raw])
      (lost : next.lost = l.lost)

section Proofs

variable (handlers : Handlers σ) (env : Env σ)

theorem step_iterates {l : Loop σ} (running : l.control = .running) :
    Iterates l (step handlers env l) := by
  simp only [step, running]
  split
  · exact .exited _ rfl rfl
  · cases got : readFrame http2 l.events with
    | blocked => exact .blocked got rfl rfl rfl rfl
    | failed => exact .exited _ rfl rfl
    | oversized => exact .exited _ rfl rfl
    | timeout now rest =>
        simp only [onTimeout]
        split
        · exact .exited _ rfl rfl
        · split
          · exact .exited _ rfl rfl
          · exact .timeout now rest got rfl rfl rfl rfl
    | frame raw rest =>
        simp only [onFrame]
        split
        · exact .exited _ rfl rfl
        · split
          · exact .rejected raw rest _ got rfl rfl
          · exact .frame raw rest got rfl rfl rfl rfl

theorem step_stopped {l : Loop σ} (stopped : l.control ≠ .running) :
    step handlers env l = l := by
  unfold step
  split
  · rename_i running
    exact absurd running stopped
  · rfl

/-- An invariant of the iterations holds after any number of them. -/
theorem after_invariant {holds : Loop σ → Prop} {conn : σ} {events : List (Event UInt8)}
    (start : holds (Loop.start conn events))
    (keeps : ∀ l next, holds l → l.control = .running → Iterates l next → holds next)
    (count : Nat) : holds (after handlers env conn events count) := by
  induction count with
  | zero => exact start
  | succ count ih =>
      rw [after, Function.iterate_succ_apply']
      by_cases running : (after handlers env conn events count).control = .running
      · exact keeps _ _ ih running (step_iterates handlers env running)
      · rw [← after, step_stopped handlers env running]
        exact ih

def Loop.weight (l : Loop σ) : Nat := if l.control = .running then work l.events + 1 else 0

theorem iterates_weight {l next : Loop σ} (running : l.control = .running)
    (iterates : Iterates l next) : next.weight < l.weight := by
  rw [Loop.weight, Loop.weight, if_pos running]
  cases iterates with
  | exited reason control same => simp [control]
  | rejected raw rest reason got control extended => simp [control]
  | blocked got control events same lost => simp [control]
  | timeout now rest got control events same lost =>
      rw [if_pos control, events]
      exact Nat.succ_lt_succ (work_timeout got)
  | frame raw rest got control events extended lost =>
      rw [if_pos control, events]
      exact Nat.succ_lt_succ (work_frame got)

theorem stops (conn : σ) (events : List (Event UInt8)) :
    ∃ n, (after handlers env conn events n).control ≠ .running := by
  refine Transition.iterate_reaches (step handlers env) (Loop.start conn events)
    (·.control ≠ .running) Loop.weight fun count busy => ?_
  rw [Function.iterate_succ_apply']
  have running := not_not.mp busy
  exact iterates_weight running (step_iterates handlers env running)

end Proofs

theorem encode_snoc (frames : List RawFrame) (raw : RawFrame) :
    (encode (frames ++ [raw])).length = (encode frames).length + raw.size := by
  simp [encode, Framing.Frame.size]

/-! Deadlines between frames only: the loop is always at a frame of the stream. -/

def InStep (frames : List RawFrame) (l : Loop σ) : Prop :=
  ∃ others, frames = l.dispatched ++ others ∧
    match l.control with
    | .running => Aligned (encode l.dispatched).length l.events others
    | .blocked => others = []
    | .exited _ => True

theorem iterates_inStep {frames : List RawFrame} {l next : Loop σ} (inStep : InStep frames l)
    (running : l.control = .running) (iterates : Iterates l next) : InStep frames next := by
  obtain ⟨others, rfl, aligned⟩ := inStep
  rw [running] at aligned
  cases iterates with
  | exited reason control same =>
      refine ⟨others, by rw [same], ?_⟩
      rw [control]
      trivial
  | rejected raw rest reason got control extended =>
      obtain ⟨later, rfl, -⟩ := aligned_frame aligned got
      refine ⟨later, by simp [extended], ?_⟩
      rw [control]
      trivial
  | blocked got control events same lost =>
      refine ⟨others, by rw [same], ?_⟩
      rw [control]
      exact aligned_blocked aligned got
  | timeout now rest got control events same lost =>
      refine ⟨others, by rw [same], ?_⟩
      rw [control, same, events]
      exact (aligned_timeout aligned got).2
  | frame raw rest got control events extended lost =>
      obtain ⟨later, rfl, advanced⟩ := aligned_frame aligned got
      refine ⟨later, by simp [extended], ?_⟩
      rw [control, extended, events, encode_snoc]
      exact advanced

/-! In every run each byte is dispatched, lost or still to come. -/

structure Tally (source : List (Event UInt8)) (l : Loop σ) : Prop where
  total : (encode l.dispatched).length + l.lost + (content l.events).length =
    (content source).length
  marked : l.lost = 0 → ∀ mark ∈ marks 0 source, mark ∈ boundaries 0 l.dispatched ∨
    mark ∈ marks (encode l.dispatched).length l.events

def Counted (source : List (Event UInt8)) (l : Loop σ) : Prop :=
  match l.control with
  | .running => Tally source l
  | .blocked => Tally source l ∧ marks (encode l.dispatched).length l.events = []
  | .exited _ => True

theorem iterates_counted {source : List (Event UInt8)} {l next : Loop σ}
    (counted : Counted source l) (running : l.control = .running) (iterates : Iterates l next) :
    Counted source next := by
  rw [Counted, running] at counted
  obtain ⟨total, marked⟩ := counted
  cases iterates with
  | exited reason control same =>
      rw [Counted, control]
      trivial
  | rejected raw rest reason got control extended =>
      rw [Counted, control]
      trivial
  | blocked got control events same lost =>
      rw [Counted, control]
      refine ⟨⟨by rw [same, events, lost]; exact total,
        by rw [same, events, lost]; exact marked⟩, ?_⟩
      rw [same, events]
      exact (received_blocked got _).2.2
  | timeout now rest got control events same lost =>
      obtain ⟨-, split, here⟩ := received_timeout got (encode l.dispatched).length
      rw [Counted, control]
      rw [split, List.length_append] at total
      constructor
      · rw [same, events, lost]
        omega
      · intro clean mark member
        -- nothing was lost, so the deadline expired where the last dispatched frame ended
        have nothing : (ready l.events).length = 0 := by omega
        rw [nothing, Nat.add_zero] at here
        rw [same, events]
        rcases marked (by omega) mark member with past | ahead
        · exact Or.inl past
        · rw [here] at ahead
          rcases List.mem_cons.mp ahead with rfl | later
          · have last := end_mem_boundaries 0 l.dispatched
            rw [Nat.zero_add] at last
            exact Or.inl last
          · exact Or.inr later
  | frame raw rest got control events extended lost =>
      obtain ⟨split, sameMarks⟩ := received_frame got (encode l.dispatched).length
      rw [Counted, control]
      rw [split, List.length_append] at total
      constructor
      · rw [extended, events, lost, encode_snoc, Framing.Frame.size]
        omega
      · rw [extended, events, lost, encode_snoc, sameMarks]
        intro clean mark member
        rcases marked clean mark member with past | ahead
        · exact Or.inl ((boundaries_append 0 _ _ mark).mpr (Or.inl past))
        · exact Or.inr ahead

theorem dispatched_exactly_iff (handlers : Handlers σ) (env : Env σ) (conn : σ)
    (frames : List RawFrame) (events : List (Event UInt8))
    (stream : content events = encode frames) :
    (∃ n, (after handlers env conn events n).control ≠ .running) ∧
      (∀ n, (after handlers env conn events n).control = .blocked →
        ((after handlers env conn events n).dispatched = frames ↔ BetweenFrames frames events)) ∧
      (BetweenFrames frames events →
        ∀ n, (after handlers env conn events n).dispatched <+: frames) := by
  have inStep : BetweenFrames frames events →
      ∀ n, InStep frames (after handlers env conn events n) := fun between =>
    after_invariant handlers env ⟨frames, rfl, stream, between⟩
      fun _ _ holds running => iterates_inStep holds running
  refine ⟨stops handlers env conn events, fun n blocked => ⟨?_, ?_⟩, ?_⟩
  · intro complete
    have counted : Counted events (after handlers env conn events n) :=
      after_invariant handlers env ⟨Nat.zero_add _, fun _ _ member => Or.inr member⟩
        (fun _ _ holds running => iterates_counted holds running) n
    rw [Counted, blocked] at counted
    obtain ⟨⟨total, marked⟩, exhausted⟩ := counted
    rw [complete, stream] at total
    intro mark member
    rcases marked (by omega) mark member with past | ahead
    · rwa [complete] at past
    · rw [exhausted] at ahead
      cases ahead
  · intro between
    obtain ⟨others, split, done⟩ := inStep between n
    rw [blocked] at done
    rw [split, done, List.append_nil]
  · intro between n
    obtain ⟨others, split, -⟩ := inStep between n
    exact ⟨others, split.symm⟩

/-- A connection left alone, with PingTimeout in seconds. -/
def quiet : Env (StreamID × Conn Unit) := ⟨fun _ => false, fun _ => false, fun _ state => state, 15⟩

/-- HPACK plays no part below. -/
def noFields (table : Unit) (_ : Bytes) : Option (Unit × List Field) := some (table, [])

def bodyFrame : RawFrame :=
  ⟨[0, 0, 13, 0, 0, 0, 0, 0, 1], [0, 0, 4, 3, 0, 0, 0, 0, 1, 0, 0, 0, 8], rfl, rfl, by decide⟩

def pingFrame : RawFrame :=
  ⟨[0, 0, 8, 6, 1, 0, 0, 0, 0], [0, 0, 0, 0, 0, 0, 0, 1], rfl, rfl, by decide⟩

def betweenEvents : List (Event UInt8) :=
  [.chunk (bodyFrame.bytes.take 4), .chunk (bodyFrame.bytes.drop 4), .expiry 30,
    .chunk pingFrame.bytes]

theorem dispatched_exactly_iff_between :
    (after (serveTunnel noFields id) quiet (0, Conn.new ()) betweenEvents 4).dispatched =
      [bodyFrame, pingFrame] :=
  ((dispatched_exactly_iff (serveTunnel noFields id) quiet (0, Conn.new ()) [bodyFrame, pingFrame]
    betweenEvents (by decide)).2.1 4 (by decide)).mpr (by decide)

/-- The deadline expires once the header of a DATA frame is in. Its payload is
then read as a frame of its own: the bytes of a request body reset the stream. -/
def midFrameEvents : List (Event UInt8) :=
  [.chunk bodyFrame.header, .expiry 30, .chunk bodyFrame.payload]

def smuggled : RawFrame := ⟨[0, 0, 4, 3, 0, 0, 0, 0, 1], [0, 0, 0, 8], rfl, rfl, by decide⟩

theorem midframe_deadline_desynchronises :
    (after (serve noFields id) quiet (0, Conn.new ()) midFrameEvents 3).control = .blocked ∧
      (after (serve noFields id) quiet (0, Conn.new ()) midFrameEvents 3).dispatched = [smuggled] ∧
      parseFrame smuggled = some (.rstStream 1 errCodeCancel) ∧
      ¬ ∀ frames events n, content events = encode frames →
        (after (serve noFields id) quiet (0, Conn.new ()) events n).control = .blocked →
          (after (serve noFields id) quiet (0, Conn.new ()) events n).dispatched = frames := by
  refine ⟨by decide, by decide, by decide, fun claim => ?_⟩
  have same := claim [bodyFrame] midFrameEvents 3 (by decide) (by decide)
  revert same
  decide

end ReverseHttp.FrameLoop
