import ReverseHttp.ResponseEvents
import ReverseHttp.Relay

/-!
One response through the tunnel: `serveStream` runs a handler on the worker, its frames
are in flight in the order they were submitted, the proxy's frame reader takes them one
by one and hands each event to the stream, and `Proxy.forward` copies the response to the
public caller. All four move independently. The tunnel itself stays up, but an end whose
write queue is full and whose writer does not move may hold up the handler, or the frame
reader with the WINDOW_UPDATEs for a DATA frame. When the pump of the request body ends is
left open: `forward` waits for it before it returns.

HEADERS cross as `HeaderCodec` proves them to (`ResponseEvents.block_expected`).
-/

namespace ReverseHttp.TunnelResponse

open Transition Wire WorkerResponse BodyQueue HandlerDraft ResponseEvents History Relay
open NetHttp hiding bodyAllowedForStatus
open Forward hiding State Action step payload
open InterimResponse (firstBlock block? Calm Tracks InRange)
open HeaderCodec (forbiddenForwardHeader toLower CanonicalNames)
open ContentLength (load Ends)

/-- `taken` counts the frames the reader has taken; `pending` is what is left to do of the
last one. `room` says of each end that its queue takes what is submitted. -/
structure State where
  opened : Bool
  worker : ServeStream.Machine
  taken : Nat
  pending : List Event
  proxy : Forward.State
  room : Role → Bool

def State.new (req : ServeStream.Request) : State :=
  { opened := false
    worker := ServeStream.Machine.new req
    taken := 0
    pending := []
    proxy := Forward.State.new
    room := fun _ => true }

inductive Action where
  | worker
  | readFrame
  | deliver
  | proxy (action : Forward.Action)
  | queue (side : Role) (room : Bool)
  deriving DecidableEq

/-- Steps of `forward`, of its watcher and of the public side. -/
def own : Forward.Action → Bool
  | .tunnel _ | .detach => false
  | _ => true

def opens : Forward.Action → Bool
  | .openForward (.opened _ _) => true
  | _ => false

section Step

variable (env : Env) (req : ServeStream.Request) (prog : ServeStream.Program)

def step (st : State) : Action → Option State
  | .worker =>
      if st.opened = true ∧ st.room .worker = true then
        some { st with worker := ServeStream.step env req prog st.worker }
      else none
  | .readFrame =>
      if st.pending = [] ∧ st.room .proxy = true then
        (st.worker.rw.frames[st.taken]?).map fun frame =>
          { st with taken := st.taken + 1, pending := events frame }
      else none
  | .deliver =>
      match st.pending with
      | [] => none
      | event :: rest =>
          match Forward.step st.proxy (.tunnel event) with
          | some proxy => some { st with pending := rest, proxy := proxy }
          -- the forward is over and its stream deregistered
          | none => some { st with pending := rest }
  | .proxy action =>
      if own action = true then
        (Forward.step st.proxy action).map fun proxy =>
          { st with opened := st.opened || opens action, proxy := proxy }
      else none
  | .queue side room => some { st with room := Function.update st.room side room }

end Step

/-! ## Whole runs -/

/-- The caller neither gives up nor stops reading. -/
def Stays : Action → Prop
  | .proxy action => Calm action
  | .worker | .readFrame | .deliver | .queue _ _ => True

instance (action : Action) : Decidable (Stays action) := by
  unfold Stays
  split <;> infer_instance

/-- `forward` has returned, or all that is left to it is to wait for the pump. -/
def Served (st : Forward.State) : Prop :=
  st.phase = .returned ∨ (st.phase = .joining ∧ st.bodyDone = false)

/-- Everything the stream makes the reader do, from the first frame to the last. -/
structure Script (status : Int) (header : Header) (body : Bytes) (log : List Event) : Prop where
  admissible : Each Admissible log
  first : firstBlock log = some (block status header)
  payload : Forward.payload log = body
  ends : Event.endStream ∈ log

section Exchange

variable {env : Env} {req : ServeStream.Request} {prog : ServeStream.Program} {status : Int}
  {header : Header} {body : Bytes} {log : List Event}

namespace Script

theorem next (script : Script status header body log) {front rest : List Event} {event : Event}
    (initial : front ++ event :: rest <+: log) : Admissible front event := by
  refine script.admissible front event (List.IsPrefix.trans ⟨rest, ?_⟩ initial)
  simp

end Script

/-- What the frames taken so far have the reader do. -/
def read (st : State) : List Event := consumed events st.worker.rw.frames st.taken

structure Valid (env : Env) (req : ServeStream.Request) (prog : ServeStream.Program)
    (st : State) : Prop where
  worker : ∃ n, st.worker = ServeStream.after env req prog n
  taken : st.taken ≤ st.worker.rw.frames.length
  unopened : st.opened = false →
    st.worker = ServeStream.Machine.new req ∧ st.taken = 0 ∧ st.pending = []
  start : st.proxy.phase = .start → st.opened = false
  received : st.proxy.received <+: read st
  current : st.proxy.phase.registered = true → st.proxy.received ++ st.pending = read st
  sound : Sound st.proxy
  tracks : Tracks st.proxy
  answered : st.opened = true → st.proxy.phase = .returned → st.proxy.headWritten = true

theorem valid_new : Valid env req prog (State.new req) where
  worker := ⟨0, rfl⟩
  taken := Nat.le_refl 0
  unopened := fun _ => ⟨rfl, rfl, rfl⟩
  start := fun _ => rfl
  received := List.nil_prefix
  current := fun registered => by cases registered
  sound := sound_new
  tracks := InterimResponse.tracks_new
  answered := fun opened => by cases opened

theorem worker_valid {st : State} (valid : Valid env req prog st) (opened : st.opened = true) :
    Valid env req prog { st with worker := ServeStream.step env req prog st.worker } := by
  obtain ⟨more, grown⟩ := step_frames env req prog st.worker
  have same : read { st with worker := ServeStream.step env req prog st.worker } = read st := by
    simp only [read, ← grown, consumed_append events valid.taken]
  obtain ⟨n, reached⟩ := valid.worker
  constructor
  · exact ⟨n + 1, by rw [ServeStream.after_succ, ← reached]⟩
  · exact valid.taken.trans (by simp [← grown])
  · exact fun closed => absurd (opened.symm.trans closed) (by simp)
  · exact valid.start
  · rw [same]
    exact valid.received
  · rw [same]
    exact valid.current
  · exact valid.sound
  · exact valid.tracks
  · exact valid.answered

theorem readFrame_valid {st : State} {frame : Out} (valid : Valid env req prog st)
    (idle : st.pending = []) (found : st.worker.rw.frames[st.taken]? = some frame) :
    Valid env req prog { st with taken := st.taken + 1, pending := events frame } := by
  have grown : read { st with taken := st.taken + 1, pending := events frame } =
      read st ++ events frame := consumed_succ events found
  obtain ⟨inside, -⟩ := List.getElem?_eq_some_iff.mp found
  constructor
  · exact valid.worker
  · exact inside
  · intro closed
    obtain ⟨fresh, -, -⟩ := valid.unopened closed
    simp [fresh, ServeStream.Machine.new, ResponseWriter.new] at found
  · exact valid.start
  · rw [grown]
    exact valid.received.trans (List.prefix_append _ _)
  · intro registered
    rw [grown, ← valid.current registered, idle, List.append_nil]
  · exact valid.sound
  · exact valid.tracks
  · exact valid.answered

/-- A failure behind END_STREAM finds the slot filled. -/
theorem late_tracks {st : Forward.State} (tracks : Tracks st)
    (registered : st.phase.registered = true) {event : Event}
    (late : (∃ err, event = .fail err) ∨ ∃ err, event = .failBody err)
    (headed : (firstBlock st.received).isSome = true) :
    Tracks { applyEvent st event with received := st.received ++ [event] } := by
  have done : st.cs.respDone = true := tracks.slot.trans headed
  have slot : ∀ event, block? event = none →
      st.cs.respDone = (firstBlock (st.received ++ [event])).isSome := by
    intro event blockless
    rw [InterimResponse.firstBlock_snoc, blockless, Option.or_none]
    exact tracks.slot
  have held : ∀ event, block? event = none → ∀ block,
      firstBlock (st.received ++ [event]) = some block →
      st.cs.respStatus = block.code ∧ (st.phase.early = true → st.cs.respHeader = block.header) := by
    intro event blockless block found
    rw [InterimResponse.firstBlock_snoc, blockless, Option.or_none] at found
    exact tracks.held block found
  rcases late with ⟨err, rfl⟩ | ⟨err, rfl⟩
  · have kept : st.cs.fail err = st.cs := by simp [ClientStream.fail, done]
    simp only [applyEvent, kept]
    exact InterimResponse.received_tracks tracks registered (.fail err) st.cs (failBody st.stream err)
      tracks.noErr (slot _ rfl) (held _ rfl) (fun _ => rfl)
  · exact InterimResponse.received_tracks tracks registered (.failBody err) st.cs
      (failBody st.stream err) tracks.noErr (slot _ rfl) (held _ rfl)
      (fun _ => rfl)

theorem event_valid (script : Script status header body log) {st : State} {event : Event}
    {rest : List Event} (valid : Valid env req prog st) (within : read st <+: log)
    (pending : st.pending = event :: rest) (registered : st.proxy.phase.registered = true) :
    Valid env req prog { st with
      pending := rest
      proxy := { applyEvent st.proxy event with received := st.proxy.received ++ [event] } } := by
  have order := valid.current registered
  rw [pending] at order
  have admissible : Admissible st.proxy.received event := script.next (order ▸ within)
  have stepped : Forward.step st.proxy (.tunnel event) =
      some { applyEvent st.proxy event with received := st.proxy.received ++ [event] } := by
    rw [Forward.step, if_pos registered]
  have reordered : st.proxy.received ++ [event] ++ rest = read st := by simpa using order
  have phase : (applyEvent st.proxy event).phase = st.proxy.phase := by cases event <;> rfl
  have head : (applyEvent st.proxy event).headWritten = st.proxy.headWritten := by
    cases event <;> rfl
  constructor
  · exact valid.worker
  · exact valid.taken
  · intro closed
    rw [(valid.unopened closed).2.2] at pending
    cases pending
  · exact fun start => valid.start (phase ▸ start)
  · exact ⟨rest, reordered⟩
  · exact fun _ => reordered
  · refine step_sound valid.sound ?_ stepped
    cases event with
    | headers _ | endStream => trivial
    | data _ => exact admissible
    | fail _ => exact Or.inr (Or.inl admissible.1)
    | failBody _ => exact Or.inl admissible.1
  · cases event with
    | headers block => exact InterimResponse.event_tracks valid.tracks registered _ trivial
    | data bytes => exact InterimResponse.event_tracks valid.tracks registered _ trivial
    | endStream => exact InterimResponse.event_tracks valid.tracks registered _ trivial
    | fail err => exact late_tracks valid.tracks registered (Or.inl ⟨err, rfl⟩) admissible.2
    | failBody err => exact late_tracks valid.tracks registered (Or.inr ⟨err, rfl⟩) admissible.2
  · intro opened returned
    rw [head]
    exact valid.answered opened (phase ▸ returned)

theorem deliver_valid (script : Script status header body log) {st next : State}
    (valid : Valid env req prog st) (within : read st <+: log)
    (stepped : step env req prog st .deliver = some next) : Valid env req prog next := by
  simp only [step] at stepped
  split at stepped
  · cases stepped
  rename_i event rest pending
  cases registered : st.proxy.phase.registered with
  | true =>
      simp only [Forward.step, registered, ↓reduceIte, Option.some.injEq] at stepped
      subst stepped
      exact event_valid script valid within pending registered
  | false =>
      simp only [Forward.step, registered, Bool.false_eq_true, ↓reduceIte,
        Option.some.injEq] at stepped
      subst stepped
      constructor
      · exact valid.worker
      · exact valid.taken
      · intro closed
        rw [(valid.unopened closed).2.2] at pending
        cases pending
      · exact valid.start
      · exact valid.received
      · exact fun still => absurd still (by simp [registered])
      · exact valid.sound
      · exact valid.tracks
      · exact valid.answered

/-- A step of `forward` itself opens the stream, or finds it open or closed as it was. A
call that returns had been waiting for its body pump or was refused a stream. -/
theorem own_cases {st next : Forward.State} {action : Forward.Action} (mine : own action = true)
    (ok : QueueOk st.stream) (stepped : Forward.step st action = some next) :
    (opens action = true ∧ st.phase = .start ∧ next.phase = .waiting) ∨
      opens action = false ∧ (next.phase.registered = true → st.phase.registered = true) ∧
        (next.phase = .start → st.phase = .start) ∧
        (next.phase = .returned → st.phase = .start ∨
          (st.phase = .joining ∨ st.phase = .returned) ∧ next.headWritten = st.headWritten) := by
  cases steps_of_step stepped with
  | openForward result phase =>
      cases result <;> simp [opens, Forward.openForward, openError, Phase.registered, phase]
  | selectResponse phase _ =>
      refine Or.inr ⟨rfl, fun _ => by simp [phase, Phase.registered], ?_⟩
      unfold Forward.selectResponse
      split <;> simp [replyError]
  | writeHead phase =>
      refine Or.inr ⟨rfl, fun _ => by simp [phase, Phase.registered], ?_⟩
      simp only [Forward.writeHead]
      split <;> simp
  | readBody phase copied =>
      refine Or.inr ⟨rfl, fun _ => by simp [phase, Phase.registered], ?_⟩
      rcases readBody_cases ok copied with ⟨rfl, -⟩ |
        ⟨stream, bytes, -, -, -, -, ⟨rfl, -⟩ | ⟨response, rfl, -⟩ | ⟨rfl, -⟩ | ⟨response, rfl, -⟩⟩ <;>
        simp [phase, abandon]
  | selectCancelled phase _ | selectDetached phase _ | joinBody phase _ =>
      simp [opens, phase, Phase.registered, replyError]
  | tunnel event registered => cases mine
  | detach => cases mine
  | watchCancelled _ _ | watchDone _ _ | cancel | pumpDone =>
      exact Or.inr ⟨rfl, id, id, fun returned => Or.inr ⟨Or.inr returned, rfl⟩⟩

theorem own_orderly {action : Forward.Action} (mine : own action = true) (st : Forward.State) :
    Orderly st action := by
  cases action with
  | tunnel event => cases mine
  | _ => trivial

theorem proxy_valid {st : State} {action : Forward.Action} {next : Forward.State}
    (valid : Valid env req prog st) (mine : own action = true) (calm : Calm action)
    (stepped : Forward.step st.proxy action = some next) :
    Valid env req prog { st with opened := st.opened || opens action, proxy := next } := by
  have same : next.received = st.proxy.received := by
    rw [InterimResponse.step_received valid.sound.queue stepped]
    cases action with
    | tunnel event => cases mine
    | _ => exact List.append_nil _
  have kind := own_cases mine valid.sound.queue stepped
  constructor
  · exact valid.worker
  · exact valid.taken
  · intro closed
    exact valid.unopened (Bool.or_eq_false_iff.mp closed).1
  · intro start
    rcases kind with ⟨-, -, waiting⟩ | ⟨closed, -, earlier, -⟩
    · exact absurd (waiting.symm.trans start) (by simp)
    · simpa [closed] using valid.start (earlier start)
  · rw [same]
    exact valid.received
  · intro registered
    rw [same]
    rcases kind with ⟨-, start, -⟩ | ⟨-, earlier, -⟩
    · -- nothing was read before the stream was opened
      obtain ⟨-, nothing, idle⟩ := valid.unopened (valid.start start)
      simp [read, consumed, nothing, idle, valid.sound.unopened start]
    · exact valid.current (earlier registered)
  · exact step_sound valid.sound (own_orderly mine _) stepped
  · exact InterimResponse.step_tracks valid.sound valid.tracks calm stepped
  · intro opened returned
    rcases kind with ⟨-, -, waiting⟩ | ⟨closed, -, -, earlier⟩
    · exact absurd (waiting.symm.trans returned) (by simp)
    have opened : st.opened = true := by simpa [closed] using opened
    rcases earlier returned with start | ⟨joining | before, head⟩
    · exact absurd (valid.start start) (by simp [opened])
    · exact head.trans (valid.tracks.joining joining)
    · exact head.trans (valid.answered opened before)

theorem read_within {count : Nat}
    (whole : ∀ n, (ServeStream.after env req prog n).rw.frames <+:
      (ServeStream.after env req prog count).rw.frames) {st : State}
    (valid : Valid env req prog st) :
    read st <+: (ServeStream.after env req prog count).rw.frames.flatMap events := by
  obtain ⟨n, reached⟩ := valid.worker
  exact consumed_within events (reached ▸ whole n) st.taken

theorem step_valid {count : Nat}
    (script : Script status header body
      ((ServeStream.after env req prog count).rw.frames.flatMap events))
    (whole : ∀ n, (ServeStream.after env req prog n).rw.frames <+:
      (ServeStream.after env req prog count).rw.frames) {st next : State} {action : Action}
    (valid : Valid env req prog st) (stays : Stays action)
    (stepped : step env req prog st action = some next) : Valid env req prog next := by
  cases action with
  | worker =>
      obtain ⟨⟨opened, _⟩, rfl⟩ := enabled stepped
      exact worker_valid valid opened
  | readFrame =>
      simp only [step] at stepped
      split at stepped
      · rename_i idle
        obtain ⟨frame, found, rfl⟩ := Option.map_eq_some_iff.mp stepped
        exact readFrame_valid valid idle.1 found
      · cases stepped
  | deliver => exact deliver_valid script valid (read_within whole valid) stepped
  | proxy action =>
      simp only [step] at stepped
      split at stepped
      · rename_i mine
        obtain ⟨proxy, moved, rfl⟩ := Option.map_eq_some_iff.mp stepped
        exact proxy_valid valid mine stays moved
      · cases stepped
  | queue side room =>
      cases Option.some.inj stepped
      exact { valid with }

/-- The response the caller ends up with: everything but the hop-by-hop fields. -/
def Delivered (response : Response) (status : Int) (header : Header) (body : Bytes) : Prop :=
  response.body = body ∧ ∃ head, response.final = some (status, head) ∧
    ∀ name, head.values name =
      if forbiddenForwardHeader (toLower name) then [] else header.values name

/-- The whole response is in. -/
structure Ready (status : Int) (header : Header) (st : Forward.State) : Prop where
  sound : Sound st
  tracks : Tracks st
  ended : Event.endStream ∈ st.received
  first : firstBlock st.received = some (block status header)
  range : InRange (block status header)

/-- A step of `forward` that neither the caller nor the pump has a part in. -/
def Inner (action : Forward.Action) : Prop :=
  own action = true ∧ opens action = false ∧ Calm action ∧ action ≠ .pumpDone

theorem step_ready {st next : Forward.State} {action : Forward.Action}
    (ready : Ready status header st) (inner : Inner action)
    (stepped : Forward.step st action = some next) : Ready status header next := by
  have same : next.received = st.received := by
    rw [InterimResponse.step_received ready.sound.queue stepped]
    cases action with
    | tunnel event => cases inner.1
    | _ => exact List.append_nil _
  constructor
  · exact step_sound ready.sound (own_orderly inner.1 st) stepped
  · exact InterimResponse.step_tracks ready.sound ready.tracks inner.2.2.1 stepped
  · rw [same]
    exact ready.ended
  · rw [same]
    exact ready.first
  · exact ready.range

/-- Inner steps lead on to the return, or to the wait for the pump. -/
def Returns (st : Forward.State) : Prop := CanReach Forward.step Inner st Served

theorem joining_returns {st : Forward.State} (phase : st.phase = .joining) : Returns st := by
  cases pumped : st.bodyDone with
  | false => exact .now (Or.inr ⟨phase, pumped⟩)
  | true =>
      have joined : Forward.step st .joinBody = some { st with
          phase := .returned, response := st.response.finish } := by
        simp [Forward.step, phase, pumped]
      exact .next joined ⟨rfl, rfl, trivial, by simp⟩ (.now (Or.inl rfl))

theorem reading_returns {st : Forward.State} (ready : Ready status header st)
    (phase : st.phase = .reading) : Returns st := by
  obtain ⟨count, next, ran, joining, -⟩ := InterimResponse.drain st ready.sound.queue phase
    (ready.tracks.closed ready.ended)
  have read : CanReach Forward.step Inner st fun last => last.phase = .joining := by
    refine ⟨_, next, fun action member => ?_, ran, joining⟩
    rw [List.eq_of_mem_replicate member]
    exact ⟨rfl, rfl, rfl, by simp⟩
  exact read.trans fun _ => joining_returns

theorem header_returns {st : Forward.State} (ready : Ready status header st)
    (phase : st.phase = .header) : Returns st := by
  have inner : Inner .writeHead := ⟨rfl, rfl, trivial, by simp⟩
  have stepped : Forward.step st .writeHead = some (Forward.writeHead st) := by
    simp [Forward.step, phase]
  have later := step_ready ready inner stepped
  have outcome : (Forward.writeHead st).phase = .reading ∨
      (Forward.writeHead st).phase = .panicked := by
    simp only [Forward.writeHead]
    split <;> simp
  rcases outcome with reading | panicked
  · exact .next stepped inner (reading_returns later reading)
  · obtain ⟨other, first, outside⟩ := later.tracks.panicked panicked
    obtain rfl := Option.some.inj (later.first.symm.trans first)
    exact absurd later.range outside

theorem waiting_returns {st : Forward.State} (ready : Ready status header st)
    (phase : st.phase = .waiting) : Returns st := by
  have inner : Inner .selectResponse := ⟨rfl, rfl, trivial, by simp⟩
  have filled : st.cs.respDone = true := by
    rw [ready.tracks.slot, ready.first]
    rfl
  have stepped : Forward.step st .selectResponse = some { st with phase := .header } := by
    simp [Forward.step, phase, filled, Forward.selectResponse, ready.tracks.noErr]
  exact .next stepped inner (header_returns (step_ready ready inner stepped) rfl)

/-- The stream is open and `forward` has not returned. -/
structure Underway (env : Env) (req : ServeStream.Request) (prog : ServeStream.Program)
    (st : State) : Prop where
  valid : Valid env req prog st
  opened : st.opened = true
  registered : st.proxy.phase.registered = true
  room : ∀ side, st.room side = true

end Exchange

end ReverseHttp.TunnelResponse
