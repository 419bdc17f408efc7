import ReverseHttp.Transition
import ReverseHttp.BodyQueue
import ReverseHttp.NetHttp

/-!
One `Proxy.forward` call and the tunnel stream it owns. The frame reader and
the tunnel's teardown reach the stream only through the five events below;
`selectResponse`, `selectCancelled` and `selectDetached` are the arms of the
`select` in `waitForResponseHeaders`, any of which may be taken when ready.
`readBody` is one iteration of the copy loop of `writeResponse`; its flag says
whether the public connection still accepts the write. `watchCancelled` and
`watchDone` are the two ends of the watcher goroutine it starts, which may
still fire once the copy loop is over. `pumpDone` is the environment's: the pump
of the request body has sent its result, which nothing here promises.

`abandoned` says that the copy loop stopped at a write that failed, whatever the
reason; `publicFailed` that it was the public connection, and not `net/http`,
that refused it. `received` is ghost: the tunnel events that reached the stream, oldest first.
-/

namespace ReverseHttp.Forward

open Transition Wire BodyQueue NetHttp

/-- A response header block as `deliverResponse` sees it: the `:status` text
and the regular fields under their canonical names. -/
structure Block where
  status : String
  fields : List (String × String)
  deriving DecidableEq

def Block.code (block : Block) : Int := atoi block.status

def Block.header (block : Block) : Header := Header.ofFields block.fields

structure ClientStream where
  respDone : Bool
  respErr : Option H2Error
  respStatus : Int
  respHeader : Header
  deriving DecidableEq

def ClientStream.new : ClientStream := ⟨false, none, 0, []⟩

def ClientStream.deliverHeaders (cs : ClientStream) (status : Int) (header : Header) :
    ClientStream :=
  if cs.respDone then cs
  else { cs with respDone := true, respStatus := status, respHeader := header }

/-- The `respOnce` part of `clientStream.fail`. -/
def ClientStream.fail (cs : ClientStream) (err : H2Error) : ClientStream :=
  if cs.respDone then cs else { cs with respDone := true, respErr := some err }

/-- `fail` is `clientStream.fail`; `failBody` is the `FailBody` on the stream
alone, from `HandleRSTStream` and `FailAllStreams`. -/
inductive Event where
  | headers (block : Block)
  | data (payload : Bytes)
  | endStream
  | fail (err : H2Error)
  | failBody (err : H2Error)
  deriving DecidableEq

inductive OpenResult where
  | noWorker
  | saturated
  | draining
  | failed (message : String)
  | opened (id : StreamID) (window : Int32)
  deriving DecidableEq

inductive Phase where
  | start
  | waiting
  | header
  | reading
  | joining
  | returned
  | panicked
  deriving DecidableEq, Repr

structure State where
  phase : Phase
  cs : ClientStream
  stream : Stream
  response : Response
  headWritten : Bool
  watcher : Bool
  resets : Nat
  cancelled : Bool
  abandoned : Bool
  publicFailed : Bool
  detached : Bool
  bodyDone : Bool
  received : List Event
  deriving DecidableEq

def State.new : State :=
  { phase := .start
    cs := ClientStream.new
    stream := Stream.zero
    response := Response.new
    headWritten := false
    watcher := false
    resets := 0
    cancelled := false
    abandoned := false
    publicFailed := false
    detached := false
    bodyDone := false
    received := [] }

inductive Action where
  | openForward (result : OpenResult)
  | selectResponse
  | selectCancelled
  | selectDetached
  | writeHead
  | readBody (alive : Bool)
  | joinBody
  | watchCancelled
  | watchDone
  | tunnel (event : Event)
  | cancel
  | detach
  | pumpDone
  deriving DecidableEq

def openError (message : String) (status : Int) (st : State) : State :=
  { st with
    phase := .returned
    response := st.response.error message status }

def openForward (st : State) : OpenResult → State
  | .noWorker => openError "no worker attached" 503 st
  | .saturated => openError ("rhttp/proxy: failed to open tunnel stream: " ++
      "rhttp/proxy: tunnel is at the peer's concurrent-stream limit") 503 st
  | .draining => openError ("rhttp/proxy: failed to open tunnel stream: " ++
      "rhttp/proxy: tunnel is draining after GOAWAY") 503 st
  | .failed message =>
      openError ("rhttp/proxy: failed to open tunnel stream: " ++ message) 502 st
  | .opened id window =>
      { st with phase := .waiting, stream := BodyQueue.acquire st.stream id 0 window }

/-- An error reply before any response header went out. -/
def replyError (st : State) (message : String) : State :=
  { st with phase := .joining, response := st.response.error message 502 }

def selectResponse (st : State) : State :=
  match st.cs.respErr with
  | some err => replyError st ("rhttp/proxy: stream failed: " ++ err.message)
  | none => { st with phase := .header }

/-- The head of `writeResponse`: copy the header map, then `WriteHeader`. -/
def writeHead (st : State) : State :=
  let header := st.response.header.copy st.cs.respHeader
  let status := if st.cs.respStatus = 0 then 502 else st.cs.respStatus
  match Response.writeHeader { st.response with header := header } status with
  | none => { st with phase := .panicked, cs := { st.cs with respHeader := [] } }
  | some response =>
      { st with
        phase := .reading
        cs := { st.cs with respHeader := [] }
        response := response
        headWritten := true
        watcher := true }

def bufSize : Nat := 16 * 1024

/-- The public write failed: reset the stream towards the worker and stop. -/
def abandon (st : State) (stream : Stream) (response : Response) : State :=
  { st with
    phase := .joining
    stream := stream
    response := response
    abandoned := true
    resets := st.resets + 1 }

def readBody (st : State) (alive : Bool) : Option State :=
  match read st.stream bufSize with
  | (.parked, _, _) => none
  | (.eof, stream, _) => some { st with phase := .joining, stream := stream }
  -- the source drops the error: the caller cannot tell this from the end of the body
  | (.failed _, stream, _) => some { st with phase := .joining, stream := stream }
  | (.data bytes, stream, _) =>
      if bytes = [] then some { st with stream := stream }
      else if !alive then some { abandon st stream st.response with publicFailed := true }
      else
        match st.response.write bytes with
        | (true, response) => some { st with stream := stream, response := response }
        -- `ErrBodyNotAllowed` or `ErrContentLength`
        | (false, response) => some (abandon st stream response)

def applyEvent (st : State) : Event → State
  | .headers block =>
      { st with cs := st.cs.deliverHeaders block.code block.header }
  | .data payload => { st with stream := receiveData st.stream none payload }
  | .endStream => { st with stream := closeData st.stream }
  | .fail err => { st with cs := st.cs.fail err, stream := failBody st.stream err }
  | .failBody err => { st with stream := failBody st.stream err }

/-- While the stream is in the registries. -/
def Phase.registered : Phase → Bool
  | .waiting | .header | .reading | .joining => true
  | .start | .returned | .panicked => false

def step (st : State) : Action → Option State
  | .openForward result => if st.phase = .start then some (openForward st result) else none
  | .selectResponse =>
      if st.phase = .waiting ∧ st.cs.respDone = true then some (selectResponse st) else none
  | .selectCancelled =>
      if st.phase = .waiting ∧ st.cancelled = true then
        some { st with phase := .joining, resets := st.resets + 1 }
      else none
  | .selectDetached =>
      if st.phase = .waiting ∧ st.detached = true then
        some (replyError st "rhttp/proxy: tunnel disconnected")
      else none
  | .writeHead => if st.phase = .header then some (writeHead st) else none
  | .readBody alive => if st.phase = .reading then readBody st alive else none
  | .joinBody =>
      if st.phase = .joining ∧ st.bodyDone = true then
        some { st with phase := .returned, response := st.response.finish }
      else none
  | .watchCancelled =>
      if st.watcher = true ∧ st.cancelled = true then
        some { st with watcher := false, resets := st.resets + 1 }
      else none
  | .watchDone =>
      if st.watcher = true ∧ st.phase ≠ .reading then some { st with watcher := false } else none
  | .tunnel event =>
      if st.phase.registered then
        some { applyEvent st event with received := st.received ++ [event] }
      else none
  | .cancel => some { st with cancelled := true }
  | .detach => some { st with detached := true }
  | .pumpDone => some { st with bodyDone := true }

/-- What each action needs and does, read off `step`. -/
inductive Steps (st : State) : Action → State → Prop where
  | openForward (result : OpenResult) (phase : st.phase = .start) :
      Steps st (.openForward result) (openForward st result)
  | selectResponse (phase : st.phase = .waiting) (ready : st.cs.respDone = true) :
      Steps st .selectResponse (selectResponse st)
  | selectCancelled (phase : st.phase = .waiting) (cancelled : st.cancelled = true) :
      Steps st .selectCancelled { st with phase := .joining, resets := st.resets + 1 }
  | selectDetached (phase : st.phase = .waiting) (detached : st.detached = true) :
      Steps st .selectDetached (replyError st "rhttp/proxy: tunnel disconnected")
  | writeHead (phase : st.phase = .header) : Steps st .writeHead (writeHead st)
  | readBody {alive : Bool} {next : State} (phase : st.phase = .reading)
      (copied : readBody st alive = some next) : Steps st (.readBody alive) next
  | joinBody (phase : st.phase = .joining) (pumped : st.bodyDone = true) :
      Steps st .joinBody { st with phase := .returned, response := st.response.finish }
  | watchCancelled (watching : st.watcher = true) (cancelled : st.cancelled = true) :
      Steps st .watchCancelled { st with watcher := false, resets := st.resets + 1 }
  | watchDone (watching : st.watcher = true) (phase : st.phase ≠ .reading) :
      Steps st .watchDone { st with watcher := false }
  | tunnel (event : Event) (registered : st.phase.registered = true) :
      Steps st (.tunnel event) { applyEvent st event with received := st.received ++ [event] }
  | cancel : Steps st .cancel { st with cancelled := true }
  | detach : Steps st .detach { st with detached := true }
  | pumpDone : Steps st .pumpDone { st with bodyDone := true }

theorem steps_of_step {st next : State} {action : Action} (stepped : step st action = some next) :
    Steps st action next := by
  cases action <;> simp only [step, Option.ite_none_right_eq_some, Option.some.injEq] at stepped
  case openForward result =>
    obtain ⟨phase, rfl⟩ := stepped
    exact .openForward result phase
  case selectResponse =>
    obtain ⟨⟨phase, ready⟩, rfl⟩ := stepped
    exact .selectResponse phase ready
  case selectCancelled =>
    obtain ⟨⟨phase, cancelled⟩, rfl⟩ := stepped
    exact .selectCancelled phase cancelled
  case selectDetached =>
    obtain ⟨⟨phase, detached⟩, rfl⟩ := stepped
    exact .selectDetached phase detached
  case writeHead =>
    obtain ⟨phase, rfl⟩ := stepped
    exact .writeHead phase
  case readBody alive => exact .readBody stepped.1 stepped.2
  case joinBody =>
    obtain ⟨⟨phase, pumped⟩, rfl⟩ := stepped
    exact .joinBody phase pumped
  case watchCancelled =>
    obtain ⟨⟨watching, cancelled⟩, rfl⟩ := stepped
    exact .watchCancelled watching cancelled
  case watchDone =>
    obtain ⟨⟨watching, phase⟩, rfl⟩ := stepped
    exact .watchDone watching phase
  case tunnel event =>
    obtain ⟨registered, rfl⟩ := stepped
    exact .tunnel event registered
  case cancel =>
    obtain rfl := stepped
    exact .cancel
  case detach =>
    obtain rfl := stepped
    exact .detach
  case pumpDone =>
    obtain rfl := stepped
    exact .pumpDone

def Event.bytes : Event → Bytes
  | .data payload => payload
  | .headers _ | .endStream | .fail _ | .failBody _ => []

/-- All DATA bytes received, in order. -/
def payload (received : List Event) : Bytes := received.flatMap Event.bytes

@[simp]
theorem payload_nil : payload [] = [] := rfl

@[simp]
theorem payload_snoc (received : List Event) (event : Event) :
    payload (received ++ [event]) = payload received ++ event.bytes := by
  simp [payload]

/-- The public side failed a write or gave up on the request. -/
def PublicGone (st : State) : Prop := st.publicFailed = true ∨ st.cancelled = true

/-- If the worker's response head went out and the call returned, the stream
was ended by END_STREAM and its bytes were all written, unless the public side
went away. -/
def Complete (st : State) : Prop :=
  st.phase = .returned → st.headWritten = true →
    (Event.endStream ∈ st.received ∧ st.response.body = payload st.received) ∨ PublicGone st

/-- The copy loop gave up at a write, or the request was cancelled. -/
def Stopped (st : State) : Prop := st.abandoned = true ∨ st.cancelled = true

/-- A failure that cannot cut a response short: the response slot already
holds an error, the stream has ended, or nobody copies any more. -/
def Harmless (st : State) : Prop :=
  Event.endStream ∈ st.received ∨ st.cs.respErr ≠ none ∨ Stopped st

/-- The stream is failed only before its response headers or harmlessly, its body
alone only harmlessly; no DATA follows END_STREAM. -/
def Orderly (st : State) : Action → Prop
  | .tunnel (.fail _) => st.cs.respDone = false ∨ Harmless st
  | .tunnel (.failBody _) => Harmless st
  | .tunnel (.data _) => Event.endStream ∉ st.received
  | _ => True

/-- The response head that was written may carry all the bytes received. -/
def Sendable (st : State) : Prop :=
  allowsBody st.response.shown (payload st.received).length = true

/-- Also, what the copy loop reads may be sent under the head it has written. -/
def Unbroken (st : State) : Action → Prop
  | .readBody _ => Sendable st ∨ PublicGone st
  | action => Orderly st action

instance (st : State) : Decidable (PublicGone st) := inferInstanceAs (Decidable (_ ∨ _))

instance (st : State) : Decidable (Stopped st) := inferInstanceAs (Decidable (_ ∨ _))

instance (st : State) : Decidable (Harmless st) := inferInstanceAs (Decidable (_ ∨ _))

instance (st : State) : Decidable (Sendable st) := inferInstanceAs (Decidable (_ = true))

instance (st : State) (action : Action) : Decidable (Orderly st action) := by
  unfold Orderly
  split <;> infer_instance

instance (st : State) (action : Action) : Decidable (Unbroken st action) := by
  unfold Unbroken
  split <;> infer_instance

theorem orderly_of_unbroken {st : State} {action : Action} (unbroken : Unbroken st action) :
    Orderly st action := by
  cases action with
  | readBody alive => trivial
  | _ => exact unbroken

/-- Bytes of the worker's response written so far. An error reply has a body
of its own, which is not counted. -/
def copied (st : State) : Bytes := cond st.headWritten st.response.body []

/-- Before the response head is written. -/
def Phase.early : Phase → Bool
  | .start | .waiting | .header => true
  | .reading | .joining | .returned | .panicked => false

structure Sound (st : State) : Prop where
  queue : QueueOk st.stream
  unopened : st.phase = .start → st.received = []
  early : st.phase.early = true → st.response = Response.new ∧ st.headWritten = false
  reading : st.phase = .reading → st.headWritten = true
  bytes : st.abandoned = true ∨ payload st.received = copied st ++ pending st.stream
  done : st.phase.registered = true → st.stream.dataDone = true → Harmless st
  head : st.headWritten = true ∨ st.phase = .header → st.cs.respErr = none ∧ st.cs.respDone = true
  ended : st.phase = .joining → st.headWritten = true →
    (Event.endStream ∈ st.received ∧ pending st.stream = []) ∨ Stopped st
  finished : st.phase = .returned → st.headWritten = true →
    (Event.endStream ∈ st.received ∧ st.response.body = payload st.received) ∨ Stopped st

theorem sound_new : Sound State.new := by
  constructor <;>
    simp [State.new, copied, pending, Stream.zero, payload, Phase.registered]
  exact ⟨Nat.le_refl 0⟩

/-- Steps of the watcher, the body pump, the context and the detach signal
touch nothing the invariant reads, except that a request may be cancelled. -/
theorem sound_flags {st : State} (sound : Sound st) (watcher cancelled detached bodyDone : Bool)
    (resets : Nat) (stays : st.cancelled = true → cancelled = true) :
    Sound { st with
      watcher := watcher
      cancelled := cancelled
      detached := detached
      bodyDone := bodyDone
      resets := resets } := by
  have gone : Stopped st → Stopped { st with
      watcher := watcher, cancelled := cancelled, detached := detached, bodyDone := bodyDone,
      resets := resets } := fun cause => cause.imp id stays
  constructor
  · exact sound.queue
  · exact sound.unopened
  · exact sound.early
  · exact sound.reading
  · exact sound.bytes
  · exact fun registered done => (sound.done registered done).imp id (Or.imp id gone)
  · exact sound.head
  · exact fun joining head => (sound.ended joining head).imp id gone
  · exact fun returned head => (sound.finished returned head).imp id gone

theorem openForward_sound {st : State} (sound : Sound st) (phase : st.phase = .start)
    (result : OpenResult) : Sound (openForward st result) := by
  obtain ⟨-, noHead⟩ := sound.early (by simp [phase, Phase.early])
  have unread := sound.unopened phase
  have refused : ∀ message status, Sound (openError message status st) := by
    intro message status
    constructor
    · exact sound.queue
    · simp [openError]
    · simp [openError, Phase.early]
    · simp [openError]
    · simpa [openError, copied, noHead] using sound.bytes
    · simp [openError, Phase.registered]
    · simp [openError, noHead]
    · simp [openError]
    · simp [openError, noHead]
  cases result with
  | noWorker => exact refused _ _
  | saturated => exact refused _ _
  | draining => exact refused _ _
  | failed message => exact refused _ _
  | opened id window =>
      constructor
      · exact ⟨Nat.le_refl 0⟩
      · simp [openForward]
      · exact fun _ => sound.early (by simp [phase, Phase.early])
      · simp [openForward]
      · simp [openForward, unread, copied, noHead]
      · simp [openForward, BodyQueue.acquire]
      · simp [openForward, noHead]
      · simp [openForward]
      · simp [openForward]

/-- An error reply or a cancelled wait goes straight to the join. -/
theorem waiting_joins_sound {st : State} (sound : Sound st) (phase : st.phase = .waiting)
    (response : Response) (resets : Nat) :
    Sound { st with phase := .joining, response := response, resets := resets } := by
  obtain ⟨-, noHead⟩ := sound.early (by simp [phase, Phase.early])
  constructor
  · exact sound.queue
  · simp
  · simp [Phase.early]
  · simp
  · simpa [copied, noHead] using sound.bytes
  · exact fun _ => sound.done (by simp [phase, Phase.registered])
  · simp [noHead]
  · simp [noHead]
  · simp

theorem selectResponse_sound {st : State} (sound : Sound st) (phase : st.phase = .waiting)
    (ready : st.cs.respDone = true) : Sound (selectResponse st) := by
  obtain ⟨fresh, noHead⟩ := sound.early (by simp [phase, Phase.early])
  unfold selectResponse
  cases failure : st.cs.respErr with
  | some err => exact waiting_joins_sound sound phase _ _
  | none =>
      constructor
      · exact sound.queue
      · simp
      · exact fun _ => ⟨fresh, noHead⟩
      · simp
      · exact sound.bytes
      · exact fun _ => sound.done (by simp [phase, Phase.registered])
      · exact fun _ => ⟨failure, ready⟩
      · simp
      · simp

theorem writeHeader_body {w next : Response} {code : Int}
    (written : w.writeHeader code = some next) :
    next.body = w.body := by
  unfold Response.writeHeader at written
  split_ifs at written <;> simp_all <;> subst written <;> rfl

theorem writeHead_sound {st : State} (sound : Sound st) (phase : st.phase = .header) :
    Sound (writeHead st) := by
  obtain ⟨fresh, noHead⟩ := sound.early (by simp [phase, Phase.early])
  obtain ⟨noErr, ready⟩ := sound.head (Or.inr phase)
  have bytes := sound.bytes
  have done := sound.done (by simp [phase, Phase.registered])
  simp only [writeHead]
  split
  · constructor
    · exact sound.queue
    · simp
    · simp [Phase.early]
    · simp
    · simpa [copied, noHead] using bytes
    · simp [Phase.registered]
    · simp [noHead]
    · simp
    · simp
  · rename_i response written
    have empty : response.body = [] := by
      rw [writeHeader_body written, fresh]
      rfl
    constructor
    · exact sound.queue
    · simp
    · simp [Phase.early]
    · simp
    · simpa [copied, noHead, empty] using bytes
    · exact fun _ => done
    · exact fun _ => ⟨noErr, ready⟩
    · simp
    · simp

/-- The copy loop ends on end of body, whatever the reason the body ended. -/
theorem body_end_sound {st : State} (sound : Sound st) (phase : st.phase = .reading)
    (empty : pending st.stream = []) (done : st.stream.dataDone = true) :
    Sound { st with phase := .joining } := by
  have reason := sound.done (by simp [phase, Phase.registered]) done
  constructor
  · exact sound.queue
  · simp
  · simp [Phase.early]
  · simp
  · exact sound.bytes
  · exact fun _ _ => reason
  · exact fun head => sound.head (Or.inl (by simpa using head))
  · intro _ head
    -- a failed slot is ruled out: `writeResponse` runs only when it holds no error
    have noErr := (sound.head (Or.inl head)).1
    rcases reason with ended | failed | gone
    · exact Or.inl ⟨ended, empty⟩
    · exact absurd noErr failed
    · exact Or.inr gone
  · simp

theorem abandon_sound {st : State} (sound : Sound st) (stream : Stream) (response : Response)
    (publicFailed : Bool) (queue : QueueOk stream) :
    Sound { abandon st stream response with publicFailed := publicFailed } := by
  constructor
  · exact queue
  · simp [abandon]
  · simp [abandon, Phase.early]
  · simp [abandon]
  · exact Or.inl rfl
  · exact fun _ _ => Or.inr (Or.inr (Or.inl rfl))
  · exact fun head => sound.head (Or.inl (by simpa [abandon] using head))
  · exact fun _ _ => Or.inr (Or.inl rfl)
  · simp [abandon]

/-- A read that hands out bytes, all of which the public side accepted. -/
theorem copy_sound {st : State} (sound : Sound st) (phase : st.phase = .reading)
    (stream : Stream) (response : Response) (bytes : Bytes) (queue : QueueOk stream)
    (sameDone : stream.dataDone = st.stream.dataDone)
    (taken : pending st.stream = bytes ++ pending stream)
    (wrote : copied { st with response := response } = copied st ++ bytes) :
    Sound { st with stream := stream, response := response } := by
  constructor
  · exact queue
  · simp [phase]
  · simp [phase, Phase.early]
  · exact sound.reading
  · rcases sound.bytes with gone | balanced
    · exact Or.inl gone
    · refine Or.inr ?_
      rw [taken, ← List.append_assoc, ← wrote] at balanced
      exact balanced
  · exact fun registered done => sound.done registered (sameDone ▸ done)
  · exact sound.head
  · simp [phase]
  · simp [phase]

/-- One iteration of the copy loop: the body is over, or some bytes came out of
the queue and the public side took them or did not. -/
theorem readBody_cases {st next : State} {alive : Bool} (ok : QueueOk st.stream)
    (stepped : readBody st alive = some next) :
    (next = { st with phase := .joining } ∧ pending st.stream = [] ∧
      st.stream.dataDone = true) ∨
    ∃ stream bytes, QueueOk stream ∧ stream.dataDone = st.stream.dataDone ∧
      pending st.stream = bytes ++ pending stream ∧ remaining stream < remaining st.stream ∧
      ((next = { st with stream := stream } ∧ bytes = []) ∨
        (∃ response, next = { st with stream := stream, response := response } ∧
          st.response.write bytes = (true, response)) ∨
        (next = { abandon st stream st.response with publicFailed := true } ∧ alive = false) ∨
        ∃ response, next = abandon st stream response ∧
          st.response.write bytes = (false, response)) := by
  unfold readBody at stepped
  cases outcome : read st.stream bufSize with
  | mk result rest =>
      obtain ⟨stream, returned⟩ := rest
      obtain ⟨queue, sameDone, -, meaning⟩ := read_spec ok outcome
      rw [outcome] at stepped
      cases result with
      | parked => simp at stepped
      | eof =>
          obtain ⟨empty, rfl, done, -⟩ := meaning
          exact Or.inl ⟨(Option.some.inj stepped).symm, empty, done⟩
      | failed err =>
          obtain ⟨empty, rfl, done, -⟩ := meaning
          exact Or.inl ⟨(Option.some.inj stepped).symm, empty, done⟩
      | data bytes =>
          have progress := read_progress ok (by decide) outcome
          refine Or.inr ⟨stream, bytes, queue, sameDone, meaning, progress, ?_⟩
          simp only [] at stepped
          by_cases nothing : bytes = []
          · rw [if_pos nothing] at stepped
            exact Or.inl ⟨(Option.some.inj stepped).symm, nothing⟩
          · rw [if_neg nothing] at stepped
            cases alive with
            | false => exact Or.inr (Or.inr (Or.inl ⟨(Option.some.inj stepped).symm, rfl⟩))
            | true =>
                simp only [Bool.not_true, Bool.false_eq_true, ↓reduceIte] at stepped
                cases written : st.response.write bytes with
                | mk accepted response =>
                    rw [written] at stepped
                    cases accepted with
                    | true => exact Or.inr (Or.inl ⟨response, (Option.some.inj stepped).symm, rfl⟩)
                    | false =>
                        exact Or.inr (Or.inr (Or.inr
                          ⟨response, (Option.some.inj stepped).symm, rfl⟩))

theorem readBody_sound {st next : State} {alive : Bool} (sound : Sound st)
    (phase : st.phase = .reading) (stepped : readBody st alive = some next) : Sound next := by
  have headWritten := sound.reading phase
  rcases readBody_cases sound.queue stepped with ⟨rfl, empty, done⟩ |
    ⟨stream, bytes, queue, sameDone, taken, -, ⟨rfl, nothing⟩ | ⟨response, rfl, written⟩ |
      ⟨rfl, -⟩ | ⟨response, rfl, -⟩⟩
  · exact body_end_sound sound phase empty done
  · exact copy_sound sound phase stream st.response bytes queue sameDone taken
      (by simp [copied, nothing])
  · exact copy_sound sound phase stream response bytes queue sameDone taken
      (by simp [copied, headWritten, (write_accepted written).1])
  · exact abandon_sound sound stream _ true queue
  · exact abandon_sound sound stream response st.publicFailed queue

theorem joinBody_sound {st : State} (sound : Sound st) (phase : st.phase = .joining) :
    Sound { st with phase := .returned, response := st.response.finish } := by
  have same : st.response.finish.body = st.response.body := rfl
  constructor
  · exact sound.queue
  · simp
  · simp [Phase.early]
  · simp
  · simpa [copied, same] using sound.bytes
  · simp [Phase.registered]
  · exact fun head => sound.head (Or.inl (by simpa using head))
  · simp
  · intro _ head
    rcases sound.ended phase head with ⟨ended, empty⟩ | gone
    · rcases sound.bytes with lost | balanced
      · exact Or.inr (Or.inl lost)
      · refine Or.inl ⟨ended, ?_⟩
        have head' : st.headWritten = true := head
        simpa [copied, head', empty, same] using balanced.symm
    · exact Or.inr gone

theorem registered_ne {phase : Phase} (registered : phase.registered = true) :
    phase ≠ .start ∧ phase ≠ .returned := by
  cases phase <;> simp_all [Phase.registered]

/-- A harmless stream stays harmless while more is received on it. -/
theorem harmless_received {st : State} (harmless : Harmless st) {cs : ClientStream}
    (sameErr : cs.respErr = st.cs.respErr) (stream : Stream) (event : Event) :
    Harmless { st with cs := cs, stream := stream, received := st.received ++ [event] } := by
  rcases harmless with ended | failed | gone
  · exact Or.inl (List.mem_append_left _ ended)
  · exact Or.inr (Or.inl (by simpa [sameErr] using failed))
  · exact Or.inr (Or.inr gone)

/-- One more event on a registered stream, whatever it does to the slot and to
the queue. A filled slot stays as it is, and once END_STREAM has come no bytes
may follow: the copy loop may have stopped, and they would never be written. -/
theorem received_sound {st : State} (sound : Sound st) (registered : st.phase.registered = true)
    (event : Event) (cs : ClientStream) (stream : Stream) (queue : QueueOk stream)
    (grown : pending stream = pending st.stream ++ event.bytes)
    (slot : st.cs.respDone = true → cs.respErr = st.cs.respErr ∧ cs.respDone = true)
    (last : Event.endStream ∈ st.received → event.bytes = [])
    (done : stream.dataDone = true →
      Harmless { st with cs := cs, stream := stream, received := st.received ++ [event] }) :
    Sound { st with cs := cs, stream := stream, received := st.received ++ [event] } := by
  constructor
  · exact queue
  · exact fun start => absurd start (registered_ne registered).1
  · exact sound.early
  · exact sound.reading
  · rcases sound.bytes with gone | balanced
    · exact Or.inl gone
    · exact Or.inr (by simp [balanced, copied, grown])
  · exact fun _ => done
  · intro head
    obtain ⟨noErr, ready⟩ := sound.head head
    obtain ⟨sameErr, filled⟩ := slot ready
    exact ⟨sameErr.trans noErr, filled⟩
  · intro joining head
    rcases sound.ended joining head with ⟨ended, empty⟩ | gone
    · exact Or.inl ⟨List.mem_append_left _ ended, by simp [grown, empty, last ended]⟩
    · exact Or.inr gone
  · exact fun returned => absurd returned (registered_ne registered).2

/-- Response headers fill the slot at most once and never with an error. -/
theorem headers_sound {st : State} (sound : Sound st) (registered : st.phase.registered = true)
    (block : Block) :
    Sound { applyEvent st (.headers block) with
      received := st.received ++ [.headers block] } := by
  have sameErr : (st.cs.deliverHeaders block.code block.header).respErr = st.cs.respErr := by
    unfold ClientStream.deliverHeaders
    split <;> rfl
  refine received_sound sound registered (.headers block)
    (st.cs.deliverHeaders block.code block.header) st.stream sound.queue
    (List.append_nil _).symm ?_ (fun _ => rfl) ?_
  · exact fun ready => ⟨sameErr, by simp [ClientStream.deliverHeaders, ready]⟩
  · exact fun done => harmless_received (sound.done registered done) sameErr _ _

theorem data_sound {st : State} (sound : Sound st) (registered : st.phase.registered = true)
    (bytes : Bytes) (unfinished : Event.endStream ∉ st.received) :
    Sound { applyEvent st (.data bytes) with received := st.received ++ [.data bytes] } := by
  obtain ⟨queue, grown, sameDone⟩ := receiveData_spec none bytes sound.queue
  refine received_sound sound registered (.data bytes) st.cs (receiveData st.stream none bytes)
    queue grown (fun ready => ⟨rfl, ready⟩) (fun ended => absurd ended unfinished) ?_
  exact fun done => harmless_received (sound.done registered (sameDone ▸ done)) rfl _ _

theorem endStream_sound {st : State} (sound : Sound st) (registered : st.phase.registered = true) :
    Sound { applyEvent st .endStream with received := st.received ++ [.endStream] } :=
  received_sound sound registered .endStream st.cs (closeData st.stream) ⟨sound.queue.head⟩
    (List.append_nil _).symm (fun ready => ⟨rfl, ready⟩) (fun _ => rfl)
    (fun _ => Or.inl (by simp))

/-- A failure finds the slot empty and fills it with the error, or finds it
filled and reaches only the body. -/
theorem fail_sound {st : State} (sound : Sound st) (registered : st.phase.registered = true)
    (err : H2Error) (harmless : st.cs.respDone = false ∨ Harmless st) :
    Sound { applyEvent st (.fail err) with received := st.received ++ [.fail err] } := by
  refine received_sound sound registered (.fail err) (st.cs.fail err) (failBody st.stream err)
    ⟨sound.queue.head⟩ (List.append_nil _).symm ?_ (fun _ => rfl) ?_
  · intro ready
    simp [ClientStream.fail, ready]
  · intro _
    by_cases ready : st.cs.respDone = true
    · have same : st.cs.fail err = st.cs := by simp [ClientStream.fail, ready]
      rw [same]
      exact harmless_received (harmless.resolve_left (by simp [ready])) rfl _ _
    · exact Or.inr (Or.inl (by simp [ClientStream.fail, ready]))

theorem failBody_sound {st : State} (sound : Sound st) (registered : st.phase.registered = true)
    (err : H2Error) (harmless : Harmless st) :
    Sound { applyEvent st (.failBody err) with received := st.received ++ [.failBody err] } :=
  received_sound sound registered (.failBody err) st.cs (failBody st.stream err)
    ⟨sound.queue.head⟩ (List.append_nil _).symm (fun ready => ⟨rfl, ready⟩) (fun _ => rfl)
    (fun _ => harmless_received harmless rfl _ _)

theorem step_sound {st next : State} {action : Action} (sound : Sound st)
    (orderly : Orderly st action) (stepped : step st action = some next) : Sound next := by
  cases steps_of_step stepped with
  | openForward result phase => exact openForward_sound sound phase result
  | selectResponse phase ready => exact selectResponse_sound sound phase ready
  | selectCancelled phase _ => exact waiting_joins_sound sound phase st.response (st.resets + 1)
  | selectDetached phase _ => exact waiting_joins_sound sound phase _ st.resets
  | writeHead phase => exact writeHead_sound sound phase
  | readBody phase copied => exact readBody_sound sound phase copied
  | joinBody phase _ => exact joinBody_sound sound phase
  | tunnel event registered =>
      cases event with
      | headers block => exact headers_sound sound registered block
      | data bytes => exact data_sound sound registered bytes orderly
      | endStream => exact endStream_sound sound registered
      | fail err => exact fail_sound sound registered err orderly
      | failBody err => exact failBody_sound sound registered err orderly
  | watchCancelled _ _ =>
      exact sound_flags sound false st.cancelled st.detached st.bodyDone (st.resets + 1) id
  | watchDone _ _ =>
      exact sound_flags sound false st.cancelled st.detached st.bodyDone st.resets id
  | cancel => exact sound_flags sound st.watcher true st.detached st.bodyDone st.resets fun _ => rfl
  | detach => exact sound_flags sound st.watcher st.cancelled true st.bodyDone st.resets id
  | pumpDone => exact sound_flags sound st.watcher st.cancelled st.detached true st.resets id

/-! A copy loop that gave up did so because of the public side. -/

def Blamed (st : State) : Prop := st.abandoned = true → PublicGone st

theorem complete_of_blamed {st : State} (sound : Sound st) (blamed : Blamed st) : Complete st :=
  fun returned head => (sound.finished returned head).imp id fun stopped =>
    stopped.elim blamed Or.inr

/-- Bytes that the head admits are not refused. -/
theorem refused_gone {st : State} (sound : Sound st) (blamed : Blamed st)
    (phase : st.phase = .reading) (sendable : Sendable st ∨ PublicGone st) {bytes rest : Bytes}
    {response : Response} (taken : pending st.stream = bytes ++ rest)
    (refused : st.response.write bytes = (false, response)) : PublicGone st := by
  rcases sendable with sendable | gone
  · rcases sound.bytes with abandoned | balanced
    · exact blamed abandoned
    · have within : st.response.body.length + bytes.length ≤ (payload st.received).length := by
        simp only [balanced, copied, sound.reading phase, cond_true, taken, List.length_append]
        omega
      have allowed := allowsBody_mono within sendable
      rw [(write_refused refused).2.2] at allowed
      cases allowed
  · exact gone

theorem step_blamed {st next : State} {action : Action} (sound : Sound st) (blamed : Blamed st)
    (unbroken : Unbroken st action) (stepped : step st action = some next) : Blamed next := by
  cases steps_of_step stepped with
  | readBody phase copied =>
      rcases readBody_cases sound.queue copied with ⟨rfl, -⟩ |
        ⟨stream, bytes, -, -, taken, -, ⟨rfl, -⟩ | ⟨response, rfl, -⟩ | ⟨rfl, -⟩ |
          ⟨response, rfl, refused⟩⟩
      · exact blamed
      · exact blamed
      · exact blamed
      · exact fun _ => Or.inl rfl
      · have gone : PublicGone st := refused_gone sound blamed phase unbroken taken refused
        exact fun _ => gone
  | openForward result => cases result <;> exact blamed
  | selectResponse =>
      unfold selectResponse
      split <;> exact blamed
  | writeHead =>
      unfold writeHead
      dsimp only
      split <;> exact blamed
  | tunnel event => cases event <;> exact blamed
  | cancel => exact fun _ => Or.inr rfl
  | _ => exact blamed

theorem complete_while_unbroken (trace : List Action) (last : State)
    (unbroken : Guarded step Unbroken State.new trace)
    (ran : run step State.new trace = some last) : Complete last := by
  have kept : ∀ st action next, Sound st ∧ Blamed st → Unbroken st action →
      step st action = some next → Sound next ∧ Blamed next :=
    fun _ _ _ before unbroken stepped =>
      ⟨step_sound before.1 (orderly_of_unbroken unbroken) stepped,
        step_blamed before.1 before.2 unbroken stepped⟩
  have fresh : Sound State.new ∧ Blamed State.new := ⟨sound_new, fun gone => by cases gone⟩
  obtain ⟨sound, blamed⟩ := run_invariant kept fresh unbroken ran
  exact complete_of_blamed sound blamed

/-- HEADERS and two bytes of DATA, then RST_STREAM. -/
def truncatedTrace : List Action :=
  [.openForward (.opened 1 65535), .tunnel (.headers ⟨"200", []⟩), .tunnel (.data [104, 105]),
    .tunnel (.fail .streamReset), .pumpDone, .selectResponse, .writeHead, .readBody true,
    .readBody true, .joinBody]

theorem truncated_response_completes :
    ¬ ∀ trace last, run step State.new trace = some last → Complete last := by
  intro complete
  obtain ⟨last, ran⟩ : ∃ last, run step State.new truncatedTrace = some last :=
    Option.isSome_iff_exists.mp (by decide)
  have outcome : (run step State.new truncatedTrace).map (fun st =>
      (st.phase, st.headWritten, st.received, st.publicFailed, st.cancelled)) =
      some (.returned, true,
        [.headers ⟨"200", []⟩, .data [104, 105], .fail .streamReset], false, false) := by decide
  rw [ran] at outcome
  simp only [Option.map_some, Option.some.injEq, Prod.mk.injEq] at outcome
  obtain ⟨phase, head, received, client, cancelled⟩ := outcome
  have claim := complete truncatedTrace last ran phase head
  simp [received, PublicGone, client, cancelled] at claim

/-- The worker answers early: END_STREAM, then RST_STREAM(NO_ERROR) before the
public side has read anything. -/
def earlyAnswerTrace : List Action :=
  [.openForward (.opened 1 65535), .tunnel (.headers ⟨"200", []⟩), .selectResponse, .writeHead,
    .tunnel (.data [104, 105]), .tunnel .endStream, .tunnel (.fail .streamReset), .pumpDone,
    .readBody true, .readBody true, .joinBody]

theorem complete_while_unbroken_early_answer :
    ∃ last, run step State.new earlyAnswerTrace = some last ∧
      Guarded step Unbroken State.new earlyAnswerTrace ∧ Complete last := by
  obtain ⟨last, ran⟩ : ∃ last, run step State.new earlyAnswerTrace = some last :=
    Option.isSome_iff_exists.mp (by decide)
  have unbroken : Guarded step Unbroken State.new earlyAnswerTrace := by decide
  exact ⟨last, ran, unbroken, complete_while_unbroken earlyAnswerTrace last unbroken ran⟩

end ReverseHttp.Forward
