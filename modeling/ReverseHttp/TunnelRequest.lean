import ReverseHttp.RequestHead
import ReverseHttp.RequestBody
import ReverseHttp.HandlerBody
import ReverseHttp.History
import ReverseHttp.Relay

/-!
One request through the tunnel. `openForward` hands its HEADERS to the writer before the
body pump starts, so they cross before the first DATA frame; header blocks of other streams
cross in between. The worker's frame reader dispatches the head, and from then on gives each
DATA frame to the stream's body, where the handler reads it. Pump, frame reader and handler
move independently. The pump's environment may refuse frames, deny credit or detach.

The forward, its context watcher, or a watcher left over from the stream object's last use
may submit RST_STREAM(CANCEL) at any time, and the pump may still send after it. The
worker's frame reader waits while the write queue, which takes the WINDOW_UPDATEs for a DATA
frame, is full. Its loop may end, and the teardown fails the body.

The handler runs and does not close the body. Buffers of chunks are not tracked here
(`BufferPool`).
-/

namespace ReverseHttp.TunnelRequest

open Transition Wire BodyQueue RequestBody RequestHead HeaderCodec History Relay HandlerBody
open BodyFifo hiding State Action step Valid step_valid
open NetHttp (Header)

/-- A frame on the stream after its HEADERS: of the pump, or the RST_STREAM(CANCEL) of
another goroutine. -/
inductive Sent where
  | pump (out : RequestBody.Out)
  | cancel
  deriving DecidableEq

/-- What one frame of the pump makes the worker's frame reader do, in order. -/
def pumpEvents : RequestBody.Out → List Event
  | .data payload ended =>
      (if payload = [] then [] else [.push payload]) ++ if ended then [.close] else []
  | .rstStream _ => [.pumpReset]

def events : Sent → List Event
  | .pump out => pumpEvents out
  | .cancel => [.forwardReset]

/-- `wire` are the frames on the stream in the order of their submission. `room` says that
the worker's write queue has room. `received` is ghost: what has been done to the body. -/
structure State (Enc Dec : Type) where
  codec : HeaderCodec.State Enc Dec
  opened : Bool
  dispatched : Bool
  request : Option HandlerRequest
  pump : Pump
  wire : List Sent
  taken : Nat
  pending : List Event
  received : List Event
  body : BodyFifo.State
  room : Bool
  down : Bool

inductive Action where
  | block (action : HeaderCodec.Action)
  | openForward
  | dispatch (scratch : Header)
  | pump
  | cancel
  | queue (room : Bool)
  | tearDown
  | readFrame
  | deliver
  | signal
  | read (len : Nat)
  | resume

/-- A request, the tunnel it takes and what the two ends find in their pools. -/
structure Setting (Enc Dec : Type) where
  hpack : Hpack Enc Dec
  req : PublicRequest
  env : Env
  reader : Nat → Read (bufSize env)
  streamID : StreamID
  pooled : Header
  stream : Stream
  window : Int32

section Step

variable {Enc Dec : Type} (s : Setting Enc Dec)

def State.new (codec : HeaderCodec.State Enc Dec) : State Enc Dec :=
  { codec := codec
    opened := false
    dispatched := false
    request := none
    pump := Pump.new s.env
    wire := []
    taken := 0
    pending := []
    received := []
    body := BodyFifo.State.opened s.stream s.streamID 0 s.window
    room := true
    down := false }

/-- A call of the frame reader on the body. -/
def perform (st : State Enc Dec) (event : Event) : Option (State Enc Dec) :=
  (announce st.body event.call).map fun body =>
    { st with body := body, received := st.received ++ [event] }

/-- `dispatchInboundHeaders` and the start of `serveStream`. -/
def dispatch (st : State Enc Dec) (decoded : HeaderBlocks.DecodedHeaders) :
    Option (State Enc Dec) :=
  let st := { st with dispatched := true, request := serveStream decoded }
  if decoded.endStream then perform st .close else some st

/-- A step of the body pump, and what it submits. -/
def pumped (st : State Enc Dec) : State Enc Dec :=
  let pump := RequestBody.step s.env s.reader st.pump
  { st with
    pump := pump
    wire := st.wire ++ (pump.frames.drop st.pump.frames.length).map .pump }

def step (st : State Enc Dec) : Action → Option (State Enc Dec)
  | .block action =>
      (HeaderCodec.step s.hpack st.codec action).map fun codec => { st with codec := codec }
  | .openForward => if st.opened = false then some { st with opened := true } else none
  | .dispatch scratch =>
      if st.opened = true ∧ st.dispatched = false ∧ st.down = false then
        (HeaderCodec.step s.hpack st.codec
            (.headers (openForward s.req s.pooled s.streamID) scratch)).bind fun codec =>
          match codec.received.getLast? with
          | some (.ok decoded) => dispatch { st with codec := codec } decoded
          -- a block that does not decode ends the connection
          | _ => none
      else none
  | .pump => if st.opened = true ∧ s.req.bodyEmpty = false then some (pumped s st) else none
  -- the caller gives up, or a write to it fails
  | .cancel => if st.opened = true then some { st with wire := st.wire ++ [.cancel] } else none
  | .queue room => some { st with room := room }
  -- between two frames; the loop reads no more
  | .tearDown =>
      if st.down = false ∧ st.pending = [] then
        if st.dispatched then perform { st with down := true } .connClosed
        else some { st with down := true }
      else none
  | .readFrame =>
      if st.dispatched = true ∧ st.down = false ∧ st.room = true ∧ st.pending = [] then
        (st.wire[st.taken]?).map fun sent =>
          { st with taken := st.taken + 1, pending := events sent }
      else none
  | .deliver =>
      match st.pending with
      | [] => none
      | event :: rest => perform { st with pending := rest } event
  | .signal => (BodyFifo.step st.body .signal).map fun body => { st with body := body }
  | .read len =>
      if st.request.isSome = true ∧ 0 < len then
        (BodyFifo.step st.body (.read len)).map fun body => { st with body := body }
      else none
  | .resume => (BodyFifo.step st.body .resume).map fun body => { st with body := body }

end Step

/-! ## What the pump makes of the body -/

/-- Of the pump an end comes once and last. -/
def Last (front : List Event) (_ : Event) : Prop :=
  ∀ earlier ∈ front, ∃ bytes, earlier = .push bytes

/-- The public body came to its end, and `got` is all of it. -/
def Finished {Enc Dec : Type} (s : Setting Enc Dec) (got : Bytes) : Prop :=
  s.req.bodyEmpty = true ∧ got = [] ∨
    s.req.bodyEmpty = false ∧ ∃ last, EndsWith s.reader last .eof ∧
      got = bytesRead s.reader (last + 1)

/-- Reading the public body failed, and `got` is all that was read of it. -/
def Broken {Enc Dec : Type} (s : Setting Enc Dec) (got : Bytes) : Prop :=
  s.req.bodyEmpty = false ∧ ∃ last cause, EndsWith s.reader last (.failed cause) ∧
    got = bytesRead s.reader (last + 1)

/-- What the frames submitted so far make of the body. -/
structure Script {Enc Dec : Type} (s : Setting Enc Dec) (reads : Nat) (log : List Event) :
    Prop where
  ordered : Each Last log
  sent : log.flatMap Event.bytes <+: bytesRead s.reader reads
  closed : .close ∈ log → Finished s (log.flatMap Event.bytes)
  broken : .pumpReset ∈ log → Broken s (log.flatMap Event.bytes)

theorem events_datas {size : Nat} {chunks : List Bytes} (sized : Sized size chunks) :
    (datas RequestBody.Out.data chunks).flatMap pumpEvents = chunks.map .push := by
  induction chunks with
  | nil => rfl
  | cons chunk rest ih =>
      have nonempty : chunk ≠ [] := List.length_pos_iff.mp (sized chunk (by simp)).1
      have tail := ih fun other member => sized other (List.mem_cons_of_mem _ member)
      simp only [datas, List.map_cons, List.flatMap_cons, pumpEvents, if_neg nonempty] at tail ⊢
      rw [tail]
      rfl

theorem bytes_pushes (chunks : List Bytes) :
    (chunks.map Event.push).flatMap Event.bytes = chunks.flatten := by
  simp [List.flatMap_map, Event.bytes, List.flatMap_id']

theorem pushes_only (chunks : List Bytes) :
    ∀ event ∈ chunks.map Event.push, ∃ bytes, event = .push bytes := by
  intro event member
  obtain ⟨chunk, -, rfl⟩ := List.mem_map.mp member
  exact ⟨chunk, rfl⟩

theorem pushes_ordered (chunks : List Bytes) : Each Last (chunks.map Event.push) := by
  intro front event initial other earlier
  exact pushes_only chunks other (initial.subset (List.mem_append_left _ earlier))

section Script

variable {Enc Dec : Type} {s : Setting Enc Dec} {reads : Nat} {chunks : List Bytes} {m : Pump}

theorem script_pushes (sent : chunks.flatten <+: bytesRead s.reader reads) :
    Script s reads (chunks.map .push) where
  ordered := pushes_ordered chunks
  sent := by rwa [bytes_pushes]
  closed := by simp
  broken := by simp

/-- The end follows the last chunk. -/
theorem script_ended {last : Event} (sent : chunks.flatten <+: bytesRead s.reader reads)
    (silent : last.bytes = []) (closed : .close = last → Finished s chunks.flatten)
    (broken : .pumpReset = last → Broken s chunks.flatten) :
    Script s reads (chunks.map .push ++ [last]) := by
  have same : (chunks.map Event.push ++ [last]).flatMap Event.bytes = chunks.flatten := by
    rw [List.flatMap_append, bytes_pushes, List.flatMap_singleton, silent, List.append_nil]
  constructor
  · exact each_snoc (pushes_ordered chunks) (pushes_only chunks)
  · rwa [same]
  · rw [same]
    simpa using closed
  · rw [same]
    simpa using broken

/-- At every moment of the pump. -/
theorem located_script (bodied : s.req.bodyEmpty = false)
    (located : RequestBody.Located s.env s.reader m) :
    Script s m.reads (m.frames.flatMap pumpEvents) := by
  obtain ⟨chunks, sized, placed⟩ := located
  have pushed := events_datas sized
  unfold Placed at placed
  split at placed
  · obtain ⟨frames, sent, -⟩ := placed
    rw [frames, pushed]
    exact script_pushes (sent ▸ List.prefix_rfl)
  · obtain ⟨frames, sent, -⟩ := placed
    rw [frames, pushed]
    exact script_pushes (sent ▸ List.prefix_rfl)
  · obtain ⟨last, -, -, -, -, -, frames, sent, -⟩ := placed
    rw [frames, pushed]
    exact script_pushes ⟨_, sent⟩
  · obtain ⟨last, counted, ends, frames, sent, -⟩ := placed
    have closed : Script s m.reads (chunks.map .push ++ [.close]) :=
      script_ended (sent ▸ List.prefix_rfl) rfl
        (fun _ => Or.inr ⟨bodied, last, ends, counted ▸ sent⟩) (by simp)
    rw [frames, List.flatMap_append, pushed]
    exact closed
  · obtain ⟨last, counted, ends, frames, sent, -⟩ := placed
    have reset : Script s m.reads (chunks.map .push ++ [.pumpReset]) :=
      script_ended (sent ▸ List.prefix_rfl) rfl (by simp)
        (fun _ => ⟨bodied, last, _, ends, counted ▸ sent⟩)
    rw [frames, List.flatMap_append, pushed]
    split
    · exact reset
    · rw [List.flatMap_nil, List.append_nil]
      exact script_pushes (sent ▸ List.prefix_rfl)
  · obtain ⟨frames, sent, -⟩ := placed
    rw [frames, pushed]
    exact script_pushes sent

/-- HEADERS with END_STREAM close an empty body. -/
def start (s : Setting Enc Dec) : List Event := if s.req.bodyEmpty then [.close] else []

/-- Everything the request itself does to the body, with the frames of the pump so far. -/
def log (s : Setting Enc Dec) (m : Pump) : List Event := start s ++ m.frames.flatMap pumpEvents

theorem log_script (idle : s.req.bodyEmpty = true → m.frames = [])
    (located : RequestBody.Located s.env s.reader m) : Script s m.reads (log s m) := by
  unfold log start
  split
  · rename_i empty
    have closed : Script s m.reads ([].map .push ++ [.close]) :=
      script_ended List.nil_prefix rfl (fun _ => Or.inl ⟨empty, rfl⟩) (by simp)
    simpa [idle empty] using closed
  · rename_i bodied
    exact located_script (by simpa using bodied) located

theorem Script.next {log : List Event} (script : Script s reads log) {front rest : List Event}
    {event : Event} (initial : front ++ event :: rest <+: log) : Last front event := by
  refine script.ordered front event (List.IsPrefix.trans ⟨rest, ?_⟩ initial)
  simp

/-- Nothing comes after the end. -/
theorem Script.whole {log : List Event} (script : Script s reads log) {front : List Event}
    {event : Event} (initial : front <+: log) (member : event ∈ front)
    (ends : ∀ bytes, event ≠ .push bytes) : front = log := by
  obtain ⟨rest, rfl⟩ := initial
  cases rest with
  | nil => simp
  | cons other tail =>
      obtain ⟨bytes, pushed⟩ := script.next List.prefix_rfl event member
      exact absurd pushed (ends bytes)

end Script

/-! ## The invariant -/

def Sent.out? : Sent → Option RequestBody.Out
  | .pump out => some out
  | .cancel => none

theorem pumpEvents_own (out : RequestBody.Out) : ∀ event ∈ pumpEvents out, event.own = true := by
  cases out with
  | rstStream code => simp [pumpEvents, Event.own]
  | data payload ended =>
      intro event member
      rcases List.mem_append.mp member with pushed | closed
      · split at pushed
        · cases pushed
        · exact List.mem_singleton.mp pushed ▸ rfl
      · split at closed
        · exact List.mem_singleton.mp closed ▸ rfl
        · cases closed

/-- The pump's share of what its frames and the resets between them stand for. -/
theorem own_events (wire : List Sent) :
    (wire.flatMap events).filter Event.own = (wire.filterMap Sent.out?).flatMap pumpEvents := by
  induction wire with
  | nil => rfl
  | cons sent rest ih =>
      rw [List.flatMap_cons, List.filter_append, ih]
      cases sent with
      | cancel => rfl
      | pump out =>
          have kept : (pumpEvents out).filter Event.own = pumpEvents out :=
            List.filter_eq_self.mpr (pumpEvents_own out)
          rw [show events (.pump out) = pumpEvents out from rfl, kept]
          rfl

section Run

variable {Enc Dec : Type} {s : Setting Enc Dec} {paired : Enc → Dec → Prop}

/-- What the teardown adds. -/
def finale (down : Bool) : List Event := if down then [.connClosed] else []

structure Valid (s : Setting Enc Dec) (paired : Enc → Dec → Prop) (st : State Enc Dec) :
    Prop where
  codec : HeaderCodec.Valid paired st.codec
  opened : st.dispatched = true → st.opened = true
  pump : ∃ n, st.pump = RequestBody.after s.env s.reader n
  idle : s.req.bodyEmpty = true → st.pump = Pump.new s.env
  wire : st.wire.filterMap Sent.out? = st.pump.frames
  taken : st.taken ≤ st.wire.length
  undispatched : st.dispatched = false → st.received = [] ∧ st.pending = [] ∧ st.taken = 0
  stopped : st.down = true → st.pending = []
  current : st.dispatched = true →
    st.received ++ st.pending = start s ++ consumed events st.wire st.taken ++ finale st.down
  holds : Holds st.received st.body
  request : st.dispatched = true → ∃ seen, st.request = some seen ∧ SameRequest s.req seen

theorem valid_new {codec : HeaderCodec.State Enc Dec} (inStep : HeaderCodec.Valid paired codec) :
    Valid s paired (State.new s codec) where
  codec := inStep
  opened := fun dispatched => by cases dispatched
  pump := ⟨0, rfl⟩
  idle := fun _ => rfl
  wire := rfl
  taken := Nat.zero_le _
  undispatched := fun _ => ⟨rfl, rfl, rfl⟩
  stopped := fun _ => rfl
  current := fun dispatched => by cases dispatched
  holds := holds_opened s.stream s.streamID 0 s.window
  request := fun dispatched => by cases dispatched

theorem own_start : (start s).filter Event.own = start s := by
  unfold start
  split <;> rfl

theorem own_finale (down : Bool) : (finale down).filter Event.own = [] := by
  cases down <;> rfl

/-- Without the resets and the teardown from outside, the handler's body is behind the
pump. -/
theorem Valid.within {st : State Enc Dec} (valid : Valid s paired st) :
    (st.received ++ st.pending).filter Event.own <+: log s st.pump := by
  cases dispatched : st.dispatched with
  | false =>
      obtain ⟨nothing, idle, -⟩ := valid.undispatched dispatched
      rw [nothing, idle]
      exact List.nil_prefix
  | true =>
      rw [valid.current dispatched, List.filter_append, List.filter_append, own_start, own_finale,
        List.append_nil, consumed, own_events, log, List.prefix_append_right_inj, ← valid.wire]
      obtain ⟨rest, whole⟩ := List.take_prefix st.taken st.wire
      nth_rewrite 2 [← whole]
      rw [List.filterMap_append, List.flatMap_append]
      exact List.prefix_append _ _

theorem Valid.script {st : State Enc Dec} (valid : Valid s paired st) :
    Script s st.pump.reads (log s st.pump) := by
  obtain ⟨n, reached⟩ := valid.pump
  refine log_script (fun empty => ?_) (reached ▸ RequestBody.after_located n)
  rw [valid.idle empty]
  rfl

theorem Valid.admissible {st : State Enc Dec} {event : Event} {rest : List Event}
    (valid : Valid s paired st) (pending : st.pending = event :: rest) :
    Admissible st.received event := by
  intro pushes
  have within := valid.within
  have own : event.own = true := by
    cases event with
    | push _ => rfl
    | close | pumpReset | forwardReset | connClosed => cases pushes
  rw [pending, List.filter_append, List.filter_cons_of_pos own] at within
  have earlier := valid.script.next within
  refine ⟨fun closed => ?_, fun reset => ?_⟩
  · obtain ⟨bytes, pushed⟩ := earlier .close (List.mem_filter.mpr ⟨closed, rfl⟩)
    cases pushed
  · obtain ⟨bytes, pushed⟩ := earlier .pumpReset (List.mem_filter.mpr ⟨reset, rfl⟩)
    cases pushed

theorem block_valid (lossless : Lossless s.hpack paired) {st : State Enc Dec}
    {action : HeaderCodec.Action} {codec : HeaderCodec.State Enc Dec} (valid : Valid s paired st)
    (crossed : HeaderCodec.step s.hpack st.codec action = some codec) :
    Valid s paired { st with codec := codec } :=
  { valid with codec := HeaderCodec.step_valid lossless valid.codec crossed }

theorem pump_frames (m : Pump) : m.frames <+: (RequestBody.step s.env s.reader m).frames := by
  have data : ∀ (m : Pump) payload ended next,
      m.frames <+: (sendData s.env m payload ended next).frames := by
    intro m payload ended next
    unfold sendData
    split
    · exact List.prefix_append _ _
    · exact List.prefix_rfl
  unfold RequestBody.step
  split
  · exact List.prefix_rfl
  · exact List.prefix_rfl
  · split
    · simp only [sendChunk]
      split
      · exact List.prefix_rfl
      · exact data { m with reserves := m.reserves + 1 } _ _ _
    · unfold finish
      split
      · exact List.prefix_rfl
      · exact data _ _ _ _
      · simp only []
        split
        · exact List.prefix_append _ _
        · exact List.prefix_rfl
  · exact List.prefix_rfl

theorem out_pumped (frames : List RequestBody.Out) :
    (frames.map Sent.pump).filterMap Sent.out? = frames := by
  rw [List.filterMap_map]
  exact List.filterMap_some

/-- Frames come behind those the reader has taken. -/
theorem wire_valid {st : State Enc Dec} {pump : Pump} {more : List Sent}
    (valid : Valid s paired st) (reached : ∃ n, pump = RequestBody.after s.env s.reader n)
    (idle : s.req.bodyEmpty = true → pump = Pump.new s.env)
    (grown : pump.frames = st.pump.frames ++ more.filterMap Sent.out?) :
    Valid s paired { st with pump := pump, wire := st.wire ++ more } where
  codec := valid.codec
  opened := valid.opened
  pump := reached
  idle := idle
  wire := by rw [List.filterMap_append, valid.wire, grown]
  taken := valid.taken.trans (by simp)
  undispatched := valid.undispatched
  stopped := valid.stopped
  current := by
    intro dispatched
    rw [consumed_append events valid.taken]
    exact valid.current dispatched
  holds := valid.holds
  request := valid.request

theorem pumped_valid {st : State Enc Dec} (valid : Valid s paired st)
    (bodied : s.req.bodyEmpty = false) : Valid s paired (pumped s st) := by
  obtain ⟨more, grown⟩ := pump_frames (s := s) st.pump
  obtain ⟨n, reached⟩ := valid.pump
  refine wire_valid valid ⟨n + 1, ?_⟩ (fun empty => absurd empty (by simp [bodied])) ?_
  · rw [reached, RequestBody.after, RequestBody.after, Function.iterate_succ_apply']
  · rw [out_pumped, ← grown, List.drop_left]

theorem readFrame_valid {st : State Enc Dec} {sent : Sent} (valid : Valid s paired st)
    (dispatched : st.dispatched = true) (up : st.down = false) (idle : st.pending = [])
    (found : st.wire[st.taken]? = some sent) :
    Valid s paired { st with taken := st.taken + 1, pending := events sent } := by
  obtain ⟨inside, -⟩ := List.getElem?_eq_some_iff.mp found
  have order := valid.current dispatched
  simp only [idle, List.append_nil, finale, up, Bool.false_eq_true, ↓reduceIte] at order
  refine { valid with taken := inside, undispatched := ?_, stopped := ?_, current := ?_ }
  · exact fun fresh => absurd (dispatched.symm.trans fresh) (by simp)
  · exact fun down => absurd (up.symm.trans down) (by simp)
  · intro _
    simp only [finale, up, Bool.false_eq_true, ↓reduceIte, List.append_nil]
    rw [consumed_succ events found, order, List.append_assoc]

theorem deliver_valid {st next : State Enc Dec} {event : Event} {rest : List Event}
    (valid : Valid s paired st) (pending : st.pending = event :: rest)
    (performed : perform { st with pending := rest } event = some next) : Valid s paired next := by
  obtain ⟨body, told, rfl⟩ := Option.map_eq_some_iff.mp performed
  have dispatched : st.dispatched = true := by
    by_contra fresh
    obtain ⟨-, idle, -⟩ := valid.undispatched (by simpa using fresh)
    rw [idle] at pending
    cases pending
  refine { valid with undispatched := ?_, stopped := ?_, current := ?_, holds := ?_ }
  · exact fun fresh => absurd (dispatched.symm.trans fresh) (by simp)
  · intro down
    rw [valid.stopped down] at pending
    cases pending
  · intro _
    have order := valid.current dispatched
    rw [pending] at order
    simpa using order
  · exact announce_holds valid.holds (valid.admissible pending) told

theorem tearDown_valid {st next : State Enc Dec} (valid : Valid s paired st)
    (stepped : step s st .tearDown = some next) : Valid s paired next := by
  simp only [step] at stepped
  split at stepped
  · rename_i ready
    obtain ⟨up, idle⟩ := ready
    split at stepped
    · rename_i dispatched
      obtain ⟨body, told, rfl⟩ := Option.map_eq_some_iff.mp stepped
      have order := valid.current dispatched
      simp only [idle, up, finale, Bool.false_eq_true, ↓reduceIte, List.append_nil] at order
      refine { valid with
        undispatched := fun fresh => absurd (dispatched.symm.trans fresh) (by simp)
        stopped := fun _ => idle
        current := fun _ => by simp [idle, order, finale]
        holds := announce_holds valid.holds ?_ told }
      exact fun pushes => by cases pushes
    · rename_i fresh
      obtain rfl := Option.some.inj stepped
      exact { valid with
        stopped := fun _ => idle
        current := fun dispatched => absurd dispatched fresh }
  · cases stepped

theorem body_valid {st : State Enc Dec} {body : BodyFifo.State} (valid : Valid s paired st)
    (holds : Holds st.received body) : Valid s paired { st with body := body } :=
  { valid with holds := holds }

/-- What `openForward` and the worker need of the request. -/
structure Sendable (req : PublicRequest) : Prop where
  rooted : Rooted req.forceQuery req.url
  canonical : CanonicalNames req.header.1

theorem dispatch_valid (lossless : Lossless s.hpack paired) (sendable : Sendable s.req)
    {st next : State Enc Dec} {scratch : Header} (valid : Valid s paired st)
    (stepped : step s st (.dispatch scratch) = some next) : Valid s paired next := by
  simp only [step] at stepped
  split at stepped
  · rename_i ready
    obtain ⟨opened, fresh, up⟩ := ready
    obtain ⟨codec, crossed, rest⟩ := Option.bind_eq_some_iff.mp stepped
    have names : CanonicalNames (openForward s.req s.pooled s.streamID).header.1 :=
      canonical_built s.pooled sendable.canonical
    have received := headers_decoded lossless valid.codec names crossed
    rw [received, List.getLast?_concat] at rest
    obtain ⟨seen, served, same⟩ :=
      expected_request sendable.rooted sendable.canonical s.pooled s.streamID
    obtain ⟨nothing, idle, unread⟩ := valid.undispatched fresh
    have later := block_valid lossless valid crossed
    simp only [dispatch, served] at rest
    have ended : (expected (openForward s.req s.pooled s.streamID)).endStream = s.req.bodyEmpty :=
      rfl
    rw [ended] at rest
    split at rest
    · rename_i empty
      obtain ⟨body, told, rfl⟩ := Option.map_eq_some_iff.mp rest
      refine { later with
        opened := fun _ => opened
        undispatched := fun still => by cases still
        current := fun _ => ?_
        holds := announce_holds valid.holds (by simp [nothing, Admissible]) told
        request := fun _ => ⟨seen, rfl, same⟩ }
      simp [nothing, idle, unread, empty, up, start, consumed, finale]
    · rename_i bodied
      obtain rfl := Option.some.inj rest
      refine { later with
        opened := fun _ => opened
        undispatched := fun still => by cases still
        current := fun _ => ?_
        request := fun _ => ⟨seen, rfl, same⟩ }
      simp [nothing, idle, unread, bodied, up, start, consumed, finale]
  · cases stepped

theorem step_valid (lossless : Lossless s.hpack paired) (sendable : Sendable s.req)
    {st next : State Enc Dec} {action : Action} (valid : Valid s paired st)
    (stepped : step s st action = some next) : Valid s paired next := by
  cases action with
  | block action =>
      obtain ⟨codec, crossed, rfl⟩ := Option.map_eq_some_iff.mp stepped
      exact block_valid lossless valid crossed
  | openForward =>
      obtain ⟨-, rfl⟩ := enabled stepped
      exact { valid with opened := fun _ => rfl }
  | dispatch scratch => exact dispatch_valid lossless sendable valid stepped
  | pump =>
      obtain ⟨⟨-, bodied⟩, rfl⟩ := enabled stepped
      exact pumped_valid valid bodied
  | cancel =>
      obtain ⟨-, rfl⟩ := enabled stepped
      exact wire_valid valid valid.pump valid.idle (List.append_nil _).symm
  | queue room =>
      obtain rfl := Option.some.inj stepped
      exact { valid with }
  | tearDown => exact tearDown_valid valid stepped
  | readFrame =>
      simp only [step] at stepped
      split at stepped
      · rename_i ready
        obtain ⟨dispatched, up, -, idle⟩ := ready
        obtain ⟨sent, found, rfl⟩ := Option.map_eq_some_iff.mp stepped
        exact readFrame_valid valid dispatched up idle found
      · cases stepped
  | deliver =>
      simp only [step] at stepped
      split at stepped
      · cases stepped
      · rename_i event rest pending
        exact deliver_valid valid pending stepped
  | signal =>
      obtain ⟨body, moved, rfl⟩ := Option.map_eq_some_iff.mp stepped
      exact body_valid valid (signal_holds valid.holds moved)
  | read len =>
      simp only [step] at stepped
      split at stepped
      · rename_i asked
        obtain ⟨body, moved, rfl⟩ := Option.map_eq_some_iff.mp stepped
        obtain ⟨-, rfl⟩ := enabled moved
        exact body_valid valid (attempt_holds valid.holds asked.2)
      · cases stepped
  | resume =>
      obtain ⟨body, moved, rfl⟩ := Option.map_eq_some_iff.mp stepped
      simp only [BodyFifo.step] at moved
      split at moved
      · rename_i len woken
        obtain rfl := Option.some.inj moved
        exact body_valid valid (attempt_holds valid.holds (valid.holds.asks len (Or.inr woken)))
      · cases moved

theorem Valid.received {st : State Enc Dec} (valid : Valid s paired st) :
    st.received.filter Event.own <+: log s st.pump := by
  have within := valid.within
  rw [List.filter_append] at within
  exact (List.prefix_append _ _).trans within

/-- The handler never reads other bytes than the public client sent, in their order. -/
theorem Valid.returned {st : State Enc Dec} (valid : Valid s paired st) :
    st.body.body.returned <+: bytesRead s.reader st.pump.reads := by
  have delivered : st.body.body.returned <+: st.body.body.content :=
    ⟨pending st.body.body.stream, valid.holds.accounted.content⟩
  rw [valid.holds.content, ← bytes_own] at delivered
  obtain ⟨rest, same⟩ := valid.received
  refine delivered.trans (List.IsPrefix.trans ⟨rest.flatMap Event.bytes, ?_⟩ valid.script.sent)
  rw [← same, List.flatMap_append]

/-- After its end or its reset, the pump's whole log has arrived. -/
theorem Valid.arrived {st : State Enc Dec} (valid : Valid s paired st) {event : Event}
    (member : event ∈ st.received) (own : event.own = true) (ends : event.ends = true) :
    st.received.filter Event.own = log s st.pump := by
  refine valid.script.whole valid.received (List.mem_filter.mpr ⟨member, own⟩) ?_
  rintro bytes rfl
  cases ends

theorem Valid.happened {st : State Enc Dec} (valid : Valid s paired st) {event : Event}
    (member : event ∈ st.received) :
    event ∈ start s ∨ event ∈ st.wire.flatMap events ∨ event ∈ finale st.down := by
  cases dispatched : st.dispatched with
  | false =>
      rw [(valid.undispatched dispatched).1] at member
      cases member
  | true =>
      have present := List.mem_append_left st.pending member
      rw [valid.current dispatched, List.mem_append, List.mem_append] at present
      rcases present with (first | taken) | last
      · exact .inl first
      · exact .inr (.inl ((consumed_within events List.prefix_rfl st.taken).subset taken))
      · exact .inr (.inr last)

/-- The pump, the frame reader and the handler alone: nothing resets the stream, and neither
the queue nor the connection changes. -/
def Undisturbed : Action → Prop
  | .cancel | .queue _ | .tearDown => False
  | .block _ | .openForward | .dispatch _ | .pump | .readFrame | .deliver | .signal | .read _
  | .resume => True

/-- The head is with the handler, and the frame reader can go on. -/
structure Serving (s : Setting Enc Dec) (paired : Enc → Dec → Prop) (st : State Enc Dec) :
    Prop where
  valid : Valid s paired st
  dispatched : st.dispatched = true
  up : st.down = false
  room : st.room = true

theorem pump_ends (lives : Lives s.env) {last : Nat} {err : ReadErr}
    (ends : EndsWith s.reader last err) {st : State Enc Dec} (bodied : s.req.bodyEmpty = false)
    (serving : Serving s paired st) :
    CanReach (step s) Undisturbed st fun last => Serving s paired last ∧ last.pump.over := by
  refine canReach_of_measure (fun st => RequestBody.weight s.env last st.pump)
    (fun st serving busy => ?_) serving
  have stepped : step s st .pump = some (pumped s st) :=
    if_pos ⟨serving.valid.opened serving.dispatched, bodied⟩
  obtain ⟨n, reached⟩ := serving.valid.pump
  exact ⟨.pump, _, trivial, stepped,
    { serving with valid := pumped_valid serving.valid bodied },
    step_weight lives ends (reached ▸ RequestBody.after_located n) busy⟩

/-- The body comes to an end, if it has one. -/
def Ends (s : Setting Enc Dec) : Prop :=
  s.req.bodyEmpty = true ∨ ∃ last err, EndsWith s.reader last err

end Run

end ReverseHttp.TunnelRequest
