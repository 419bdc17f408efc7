import ReverseHttp.History
import ReverseHttp.ServeStream
import ReverseHttp.RequestBody

/-!
Resets against the goroutines that write. On a worker the frame reader, handing
RST_STREAM to `HandleRSTStream`, runs beside the `serveStream` goroutines; on a
proxy it runs beside the forwards, their request-body pumps and the context
watchers of `writeResponse`, which submit RST_STREAM(CANCEL) themselves. A handler
is the machine of `ServeStream`, a pump the one of `RequestBody`.

The goroutines of a forward name their stream by `cs.h2.ID`, a field of an object
from the pool that all tunnels share. A forward gives its object back when it
returns. After a panic that is before its pump has returned, and its watcher may
outlive it too, so both may read the id of whoever has the object now.

`log` is ghost: the frames submitted, with the stream whose goroutine submitted
them, and where the reader was done with an RST_STREAM.
-/

namespace ReverseHttp.AfterReset

open Transition Wire History

/-- `author` is the stream that the submitting goroutine works for, `id` the one
named in the frame. -/
inductive Entry where
  | headers (id : StreamID)
  | data (author id : StreamID)
  | rstStream (author id : StreamID) (code : ErrCode)
  /-- The reader has finished processing an RST_STREAM. -/
  | finished (id : StreamID)
  deriving DecidableEq

/-- A `serveStream` goroutine. -/
structure Handler where
  env : WorkerResponse.Env
  req : ServeStream.Request
  prog : ServeStream.Program
  machine : ServeStream.Machine

def Handler.returned (h : Handler) : Bool :=
  match h.machine.control with
  | .finished => true
  | .start | .calls _ | .writing .. => false

def Handler.advance (h : Handler) : Handler :=
  { h with machine := ServeStream.step h.env h.req h.prog h.machine }

/-- What a step of the handler submitted. -/
def Handler.submitted (h : Handler) : List WorkerResponse.Out :=
  h.advance.machine.rw.frames.drop h.machine.rw.frames.length

structure Source where
  env : RequestBody.Env
  reader : Nat → RequestBody.Read (RequestBody.bufSize env)

/-- A request body and the goroutine that pumps it. -/
structure Body where
  source : Source
  pump : RequestBody.Pump

def Body.new (source : Source) : Body := ⟨source, RequestBody.Pump.new source.env⟩

def Body.returned (b : Body) : Bool :=
  match b.pump.control with
  | .returned _ => true
  | .polling | .reading | .sending .. => false

def Body.advance (b : Body) : Body :=
  { b with pump := RequestBody.step b.source.env b.source.reader b.pump }

def Body.submitted (b : Body) : List RequestBody.Out :=
  b.advance.pump.frames.drop b.pump.frames.length

/-- `waiting` for response headers, `responding` and `copying` in `writeResponse`
before and after its `WriteHeader`, `joining` the pump, `gone` after the deferred
clean-up. -/
inductive Phase where
  | waiting
  | responding
  | copying
  | joining
  | gone
  deriving DecidableEq

/-- The context watcher of `writeResponse`, `holding` an id that it has read. -/
inductive Watcher where
  | absent
  | watching
  | holding (id : StreamID)
  deriving DecidableEq

structure Forward where
  phase : Phase
  /-- `cs.h2` -/
  object : Nat
  /-- `none` for an empty body -/
  body : Option Body
  /-- the id the pump has read for its next `SendData` -/
  held : Option StreamID
  watcher : Watcher

/-- `bodyErrCh` has its value. -/
def Forward.pumped (f : Forward) : Bool :=
  match f.body with
  | none => true
  | some body => body.returned

inductive Holder where
  | pool
  | here
  | elsewhere
  deriving DecidableEq

/-- Handlers and forwards by the id they were given; `opened` lists the ids of the
forwards, `idOf` is the field of the objects, `failed` lists the streams
`FailBody` was called on. -/
structure State where
  nextStreamID : Nat
  handlers : StreamID → Option Handler
  forwards : StreamID → Option Forward
  opened : List StreamID
  idOf : Nat → StreamID
  holder : Nat → Holder
  detached : Bool
  failed : List StreamID
  log : List Entry

def State.new : State :=
  { nextStreamID := 0
    handlers := fun _ => none
    forwards := fun _ => none
    opened := []
    idOf := fun _ => 0
    holder := fun _ => .pool
    detached := false
    failed := []
    log := [] }

inductive Action where
  | accept (id : StreamID) (env : WorkerResponse.Env) (req : ServeStream.Request)
      (prog : ServeStream.Program)
  | handlerStep (id : StreamID)
  | handlerExit (id : StreamID)
  | openStream (source : Option Source) (object : Nat)
  | openFails (object : Nat)
  | borrow (object : Nat) (id : StreamID)
  | giveBack (object : Nat)
  | pumpRead (own : StreamID)
  | pumpStep (own : StreamID)
  | respond (own : StreamID)
  | writeHeader (own : StreamID)
  | abort (own : StreamID)
  | cancelWaiting (own : StreamID)
  | writeFails (own : StreamID)
  | copied (own : StreamID)
  | panics (own : StreamID)
  | watcherRead (own : StreamID)
  | watcherCancel (own : StreamID)
  | watcherStop (own : StreamID)
  | forwardExit (own : StreamID)
  | detach
  | rst (id : StreamID)

def ofResponse (id : StreamID) : WorkerResponse.Out → Entry
  | .headers _ _ _ => .headers id
  | .data _ _ => .data id id
  | .rstStream code => .rstStream id id code

def ofBody (own id : StreamID) : RequestBody.Out → Entry
  | .data _ _ => .data own id
  | .rstStream code => .rstStream own id code

/-- The stream is in the registry of its role. -/
def registered (role : Role) (st : State) (id : StreamID) : Bool :=
  match role with
  | .worker => (st.handlers id).isSome
  | .proxy => ((st.forwards id).map fun f => decide (f.phase ≠ .gone)).getD false

def State.setHandler (st : State) (id : StreamID) (h : Option Handler) : State :=
  { st with handlers := Function.update st.handlers id h }

def State.setForward (st : State) (own : StreamID) (f : Forward) : State :=
  { st with forwards := Function.update st.forwards own (some f) }

def State.note (st : State) (entries : List Entry) : State := { st with log := st.log ++ entries }

/-- `Acquire`: the object is given an id. -/
def State.acquire (st : State) (object : Nat) (id : StreamID) (holder : Holder) : State :=
  { st with
    idOf := Function.update st.idOf object id
    holder := Function.update st.holder object holder }

def State.release (st : State) (object : Nat) : State :=
  { st with holder := Function.update st.holder object .pool }

/-- A step of one forward, up to its pump. -/
def onForward (st : State) (own : StreamID) (may : Forward → Bool) (move : Forward → Forward)
    (entries : Forward → List Entry) : Option State :=
  match st.forwards own with
  | some f => if may f then some ((st.setForward own (move f)).note (entries f)) else none
  | none => none

/-- The deferred clean-up of a forward. -/
def exit (st : State) (own : StreamID) (may : Forward → Bool) : Option State :=
  match st.forwards own with
  | some f =>
      if may f then some ((st.setForward own { f with phase := .gone }).release f.object) else none
  | none => none

def Forward.goto (phase : Phase) (f : Forward) : Forward := { f with phase := phase }

def Forward.watch (watcher : Watcher) (f : Forward) : Forward := { f with watcher := watcher }

/-- `SendRSTStream(cs.h2.ID, ErrCodeCancel)` -/
def State.cancel (st : State) (own : StreamID) (f : Forward) : List Entry :=
  [.rstStream own (st.idOf f.object) errCodeCancel]

def stepWorker (st : State) : Action → Option State
  | .accept id env req prog =>
      if st.handlers id = none then
        some (st.setHandler id (some ⟨env, req, prog, ServeStream.Machine.new req⟩))
      else none
  | .handlerStep id =>
      match st.handlers id with
      | some h =>
          if h.returned then none
          else some ((st.setHandler id (some h.advance)).note (h.submitted.map (ofResponse id)))
      | none => none
  | .handlerExit id =>
      match st.handlers id with
      | some h => if h.returned then some (st.setHandler id none) else none
      | none => none
  | .rst id =>
      some { st.note [.finished id] with
        failed := if registered .worker st id then id :: st.failed else st.failed }
  | _ => none

def stepProxy (st : State) : Action → Option State
  | .openStream source object =>
      -- the framer rejects ids before they come round
      let id := nextID st.nextStreamID
      if st.forwards id = none ∧ st.holder object = .pool then
        some (({ st with nextStreamID := id, opened := id :: st.opened }.acquire object id
          .here).setForward id ⟨.waiting, object, source.map Body.new, none, .absent⟩
          |>.note [.headers id])
      else none
  -- `SendRequestHeaders` returns an error; the object goes straight back
  | .openFails object =>
      let id := nextID st.nextStreamID
      if st.holder object = .pool then
        some ({ st with nextStreamID := id }.acquire object id .pool)
      else none
  -- another tunnel
  | .borrow object id =>
      if st.holder object = .pool then some (st.acquire object id .elsewhere) else none
  | .giveBack object =>
      if st.holder object = .elsewhere then some (st.release object) else none
  | .pumpRead own =>
      onForward st own (fun f => !f.pumped) (fun f => { f with held := some (st.idOf f.object) })
        fun _ => []
  | .pumpStep own =>
      match st.forwards own with
      | some ⟨phase, object, some body, some id, watcher⟩ =>
          if body.returned then none
          else
            some ((st.setForward own ⟨phase, object, some body.advance, none, watcher⟩).note
              (body.submitted.map (ofBody own id)))
      | _ => none
  | .respond own => onForward st own (·.phase = .waiting) (.goto .responding) fun _ => []
  -- `cs.respErr`, or `worker.done()`
  | .abort own =>
      onForward st own (fun f => f.phase = .waiting && (own ∈ st.failed || st.detached))
        (.goto .joining) fun _ => []
  | .cancelWaiting own =>
      onForward st own (·.phase = .waiting) (.goto .joining) (st.cancel own)
  | .writeHeader own =>
      onForward st own (·.phase = .responding) (fun f => (f.goto .copying).watch .watching)
        fun _ => []
  -- a status that `WriteHeader` does not take; the clean-up runs without the join
  | .panics own => exit st own (·.phase = .responding)
  | .writeFails own =>
      onForward st own (·.phase = .copying) (.goto .joining) (st.cancel own)
  | .copied own => onForward st own (·.phase = .copying) (.goto .joining) fun _ => []
  | .watcherRead own =>
      onForward st own (·.watcher = .watching) (fun f => f.watch (.holding (st.idOf f.object)))
        fun _ => []
  | .watcherCancel own =>
      match st.forwards own with
      | some ⟨phase, object, body, held, .holding id⟩ =>
          some ((st.setForward own ⟨phase, object, body, held, .absent⟩).note
            [.rstStream own id errCodeCancel])
      | _ => none
  | .watcherStop own =>
      onForward st own (fun f => f.watcher = .watching && (f.phase = .joining || f.phase = .gone))
        (.watch .absent) fun _ => []
  | .forwardExit own => exit st own fun f => f.phase = .joining && f.pumped
  | .detach => some { st with detached := true }
  | .rst id =>
      some { st.note [.finished id] with
        failed := if registered .proxy st id then id :: st.failed else st.failed }
  | _ => none

def step : Role → State → Action → Option State
  | .worker => stepWorker
  | .proxy => stepProxy

/-- Nobody is left to submit HEADERS or DATA on the stream. -/
def idle (st : State) (id : StreamID) : Bool :=
  ((st.handlers id).map Handler.returned).getD true &&
    ((st.forwards id).map Forward.pumped).getD true

/-- The watcher has read the id of its own stream. -/
def watchesOwn (st : State) (own : StreamID) : Bool :=
  ((st.forwards own).map fun f => decide (f.watcher = .holding own)).getD false

/-- No pump that still runs has the object. -/
def unpumped (st : State) (object : Nat) : Bool :=
  st.opened.all fun own =>
    ((st.forwards own).map fun f => f.pumped || f.object ≠ object).getD true

/-- A reset is processed, and a forward cancels its stream, only once nothing is
left to submit on it; no stream is started on an id the peer has reset; and an
object is taken from the pool only once no pump that has it still runs. -/
def Orderly (st : State) : Action → Prop
  | .rst id | .cancelWaiting id | .writeFails id => idle st id = true
  | .watcherCancel own => watchesOwn st own = true → idle st own = true
  | .accept id _ _ _ => .finished id ∉ st.log
  | .openStream _ object => .finished (nextID st.nextStreamID) ∉ st.log ∧ unpumped st object = true
  | .openFails object | .borrow object _ => unpumped st object = true
  | _ => True

instance (st : State) (action : Action) : Decidable (Orderly st action) := by
  unfold Orderly
  split <;> infer_instance

/-- The frame is not sent after a reset of its stream. -/
def Timely (role : Role) (front : List Entry) (entry : Entry) : Prop :=
  ∀ id, ((entry = .headers id ∨ ∃ author, entry = .data author id) → .finished id ∉ front) ∧
    (role = .proxy → entry = .data id id → .rstStream id id errCodeCancel ∉ front)

/-! What the writing goroutines can submit. -/

theorem ofResponse_ne_finished (id other : StreamID) (out : WorkerResponse.Out) :
    ofResponse id out ≠ .finished other := by
  cases out <;> simp [ofResponse]

theorem ofResponse_id {id other : StreamID} {out : WorkerResponse.Out}
    (frame : ofResponse id out = .headers other ∨ ∃ author, ofResponse id out = .data author other) :
    other = id := by
  cases out with
  | headers | data => simpa [ofResponse, eq_comm] using frame
  | rstStream code => simp [ofResponse] at frame

theorem sendData_frames (env : RequestBody.Env) (m : RequestBody.Pump) (payload : Bytes)
    (ended : Bool) (next : RequestBody.Control) :
    (RequestBody.sendData env m payload ended next).frames = m.frames ∨
      (RequestBody.sendData env m payload ended next).frames =
        m.frames ++ [.data payload ended] := by
  unfold RequestBody.sendData
  split
  · exact Or.inr rfl
  · exact Or.inl rfl

/-- One step of a pump adds one DATA frame, the final reset, or nothing. -/
theorem advance_frames (b : Body) :
    b.advance.pump.frames = b.pump.frames ∨
      (∃ payload ended, b.advance.pump.frames = b.pump.frames ++ [.data payload ended]) ∨
      (b.advance.pump.frames = b.pump.frames ++ [.rstStream errCodeCancel] ∧
        b.advance.returned = true) := by
  simp only [Body.advance, Body.returned, RequestBody.step]
  split
  · exact Or.inl rfl
  · exact Or.inl rfl
  · rename_i n offset err here
    split
    · simp only [RequestBody.sendChunk]
      split
      · exact Or.inl rfl
      · rcases sendData_frames b.source.env _ _ _ _ with same | more
        · exact Or.inl same
        · exact Or.inr (Or.inl ⟨_, _, more⟩)
    · cases err with
      | none => exact Or.inl rfl
      | some err =>
          cases err with
          | eof =>
              rcases sendData_frames b.source.env b.pump [] true (.returned none) with
                same | more
              · exact Or.inl same
              · exact Or.inr (Or.inl ⟨_, _, more⟩)
          | failed cause =>
              simp only [RequestBody.finish]
              split
              · exact Or.inr (Or.inr ⟨rfl, trivial⟩)
              · exact Or.inl rfl
  · exact Or.inl rfl

theorem submitted_cases (b : Body) :
    b.submitted = [] ∨ (∃ payload ended, b.submitted = [.data payload ended]) ∨
      (b.submitted = [.rstStream errCodeCancel] ∧ b.advance.returned = true) := by
  rcases advance_frames b with same | ⟨payload, ended, more⟩ | ⟨more, ended⟩
  · exact Or.inl (by simp [Body.submitted, same])
  · exact Or.inr (Or.inl ⟨payload, ended, by simp [Body.submitted, more]⟩)
  · exact Or.inr (Or.inr ⟨by simp [Body.submitted, more], ended⟩)

section Idle

variable {st : State} {id other : StreamID}

theorem idle_setHandler (apart : other ≠ id) (h : Option Handler) :
    idle (st.setHandler id h) other = idle st other := by
  simp [idle, State.setHandler, Function.update_of_ne apart]

theorem idle_setForward (apart : other ≠ id) (f : Forward) :
    idle (st.setForward id f) other = idle st other := by
  simp [idle, State.setForward, Function.update_of_ne apart]

theorem returned_of_idle {h : Handler} (found : st.handlers id = some h)
    (quiet : idle st id = true) : h.returned = true := by
  simp only [idle, found, Option.map_some, Option.getD_some, Bool.and_eq_true] at quiet
  exact quiet.1

theorem pumped_of_idle {f : Forward} (found : st.forwards id = some f)
    (quiet : idle st id = true) : f.pumped = true := by
  simp only [idle, found, Option.map_some, Option.getD_some, Bool.and_eq_true] at quiet
  exact quiet.2

end Idle

/-- What a pump that still runs submits is on its own stream. -/
def PumpsOwn (st : State) : Prop :=
  ∀ own f, st.forwards own = some f → f.pumped = false →
    st.idOf f.object = own ∧ ∀ id ∈ f.held, id = own

structure Valid (role : Role) (st : State) : Prop where
  timely : Each (Timely role) st.log
  finished : ∀ id, .finished id ∈ st.log → idle st id = true
  cancelled : role = .proxy → ∀ own, .rstStream own own errCodeCancel ∈ st.log →
    ∃ f, st.forwards own = some f ∧ f.pumped = true
  pumps : PumpsOwn st
  listed : ∀ own f, st.forwards own = some f → own ∈ st.opened

theorem valid_new (role : Role) : Valid role State.new :=
  ⟨each_nil, by simp [State.new], by simp [State.new], by simp [PumpsOwn, State.new],
    by simp [State.new]⟩

theorem timely_reset (role : Role) (front : List Entry) (author id : StreamID) (code : ErrCode) :
    Timely role front (.rstStream author id code) := by
  intro other
  simp

theorem timely_finished (role : Role) (front : List Entry) (id : StreamID) :
    Timely role front (.finished id) := by
  intro other
  simp

section Steps

variable {st next : State} {id own : StreamID}

/-- The reader is done with a reset. -/
theorem rst_valid {role : Role} (valid : Valid role st) (quiet : idle st id = true)
    (failed : List StreamID) : Valid role { st.note [.finished id] with failed := failed } := by
  refine ⟨each_snoc valid.timely (timely_finished role _ id), ?_, ?_, valid.pumps, valid.listed⟩
  · intro other member
    rcases List.mem_append.mp member with old | new
    · exact valid.finished other old
    · obtain rfl := Entry.finished.inj (List.mem_singleton.mp new)
      exact quiet
  · intro proxy other member
    rcases List.mem_append.mp member with old | new
    · exact valid.cancelled proxy other old
    · cases List.mem_singleton.mp new

theorem accept_valid (valid : Valid .worker st) (fresh : .finished id ∉ st.log)
    (h : Option Handler) : Valid .worker (st.setHandler id h) := by
  refine ⟨valid.timely, ?_, (fun proxy => by cases proxy), valid.pumps, valid.listed⟩
  intro other member
  have apart : other ≠ id := fun same => fresh (same ▸ member)
  rw [idle_setHandler apart]
  exact valid.finished other member

theorem handlerStep_valid (valid : Valid .worker st) {h : Handler}
    (found : st.handlers id = some h) (busy : h.returned = false) :
    Valid .worker ((st.setHandler id (some h.advance)).note
      (h.submitted.map (ofResponse id))) := by
  have fresh : .finished id ∉ st.log := by
    intro member
    rw [returned_of_idle found (valid.finished id member)] at busy
    cases busy
  have mine : ∀ other, .finished other ∉ h.submitted.map (ofResponse id) := by
    intro other member
    obtain ⟨out, -, same⟩ := List.mem_map.mp member
    exact ofResponse_ne_finished id other out same
  refine ⟨?_, ?_, (fun proxy => by cases proxy), valid.pumps, valid.listed⟩
  · refine each_append _ valid.timely fun front entry back split => ?_
    have listed : entry ∈ h.submitted.map (ofResponse id) := by simp [split]
    obtain ⟨out, -, rfl⟩ := List.mem_map.mp listed
    intro other
    refine ⟨fun frame member => ?_, fun proxy => by cases proxy⟩
    obtain rfl := ofResponse_id frame
    rcases List.mem_append.mp member with old | new
    · exact fresh old
    · exact mine other (split ▸ List.mem_append_left _ new)
  · intro other member
    have old : .finished other ∈ st.log :=
      (List.mem_append.mp member).resolve_right (mine other)
    have apart : other ≠ id := fun same => fresh (same ▸ old)
    exact (idle_setHandler apart _).trans (valid.finished other old)

theorem handlerExit_valid (valid : Valid .worker st) :
    Valid .worker (st.setHandler id none) := by
  refine ⟨valid.timely, ?_, (fun proxy => by cases proxy), valid.pumps, valid.listed⟩
  intro other member
  have quiet := valid.finished other member
  by_cases same : other = id
  · subst same
    simp only [idle, Bool.and_eq_true] at quiet ⊢
    exact ⟨by simp [State.setHandler], quiet.2⟩
  · rw [idle_setHandler same]
    exact quiet

theorem setForward_self (f : Forward) : (st.setForward own f).forwards own = some f := by
  simp [State.setForward]

theorem setForward_of_ne {other : StreamID} (apart : other ≠ own) (f : Forward) :
    (st.setForward own f).forwards other = st.forwards other := by
  simp [State.setForward, Function.update_of_ne apart]

/-- A forward that was there is replaced by one whose pump is no further back. -/
theorem setForward_valid (valid : Valid .proxy st) {f moved : Forward}
    (found : st.forwards own = some f) (further : f.pumped = true → moved.pumped = true)
    (pumps : moved.pumped = false → st.idOf moved.object = own ∧ ∀ id ∈ moved.held, id = own) :
    Valid .proxy (st.setForward own moved) := by
  refine ⟨valid.timely, ?_, ?_, ?_, ?_⟩
  · intro other member
    have quiet := valid.finished other member
    by_cases here : other = own
    · subst here
      have pumped := further (pumped_of_idle found quiet)
      simp only [idle, Bool.and_eq_true] at quiet ⊢
      exact ⟨quiet.1, by simp [setForward_self, pumped]⟩
    · rw [idle_setForward here]
      exact quiet
  · intro proxy other member
    obtain ⟨g, known, pumped⟩ := valid.cancelled proxy other member
    by_cases here : other = own
    · subst here
      obtain rfl := Option.some.inj (found.symm.trans known)
      exact ⟨moved, setForward_self moved, further pumped⟩
    · exact ⟨g, (setForward_of_ne here moved).trans known, pumped⟩
  · intro other g known busy
    by_cases here : other = own
    · subst here
      obtain rfl := Option.some.inj ((setForward_self moved).symm.trans known)
      exact pumps busy
    · exact valid.pumps other g ((setForward_of_ne here moved).symm.trans known) busy
  · intro other g known
    by_cases here : other = own
    · exact here ▸ valid.listed own f found
    · exact valid.listed other g ((setForward_of_ne here moved).symm.trans known)

/-- A forward moves on without its pump. -/
theorem move_valid (valid : Valid .proxy st) {f moved : Forward}
    (found : st.forwards own = some f) (body : moved.body = f.body)
    (object : moved.object = f.object) (held : moved.held = f.held) :
    Valid .proxy (st.setForward own moved) := by
  have pumped : moved.pumped = f.pumped := by simp [Forward.pumped, body]
  refine setForward_valid valid found (fun done => pumped.trans done) fun busy => ?_
  rw [object, held]
  exact valid.pumps own f found (pumped.symm.trans busy)

/-- A goroutine of a forward submits RST_STREAM, on its own stream only if its body
has been sent. -/
theorem cancel_valid (valid : Valid .proxy st) {f : Forward} (found : st.forwards own = some f)
    (pumped : id = own → f.pumped = true) :
    Valid .proxy (st.note [.rstStream own id errCodeCancel]) := by
  refine ⟨each_snoc valid.timely (timely_reset _ _ own id _), ?_, ?_, valid.pumps, valid.listed⟩
  · intro other member
    rcases List.mem_append.mp member with old | new
    · exact valid.finished other old
    · cases List.mem_singleton.mp new
  · intro proxy other member
    rcases List.mem_append.mp member with old | new
    · exact valid.cancelled proxy other old
    · obtain ⟨rfl, rfl, -⟩ := Entry.rstStream.inj (List.mem_singleton.mp new)
      exact ⟨f, found, pumped rfl⟩

theorem onForward_cases {may : Forward → Bool} {move : Forward → Forward}
    {entries : Forward → List Entry} (stepped : onForward st own may move entries = some next) :
    ∃ f, st.forwards own = some f ∧ may f = true ∧
      next = (st.setForward own (move f)).note (entries f) := by
  unfold onForward at stepped
  split at stepped
  · rename_i f found
    obtain ⟨allowed, rfl⟩ := enabled stepped
    exact ⟨f, found, allowed, rfl⟩
  · cases stepped

theorem quiet_forward_valid (valid : Valid .proxy st) {may : Forward → Bool}
    {move : Forward → Forward}
    (stepped : onForward st own may move (fun _ => []) = some next)
    (keeps : ∀ f, (move f).body = f.body ∧ (move f).object = f.object ∧ (move f).held = f.held) :
    Valid .proxy next := by
  obtain ⟨f, found, -, rfl⟩ := onForward_cases stepped
  obtain ⟨body, object, held⟩ := keeps f
  have moved : Valid .proxy (st.setForward own (move f)) := move_valid valid found body object held
  simpa [State.note] using moved

theorem cancelling_forward_valid (valid : Valid .proxy st) {may : Forward → Bool}
    {phase : Phase} (quiet : idle st own = true)
    (stepped : onForward st own may (.goto phase) (st.cancel own) = some next) :
    Valid .proxy next := by
  obtain ⟨f, found, -, rfl⟩ := onForward_cases stepped
  have moved : Valid .proxy (st.setForward own (f.goto phase)) :=
    move_valid valid found rfl rfl rfl
  have pumped : f.pumped = true := pumped_of_idle found quiet
  exact cancel_valid moved (setForward_self _) fun _ => pumped

theorem exit_valid (valid : Valid .proxy st) {may : Forward → Bool}
    (stepped : exit st own may = some next) : Valid .proxy next := by
  unfold exit at stepped
  split at stepped
  · rename_i f found
    obtain ⟨-, rfl⟩ := enabled stepped
    have moved : Valid .proxy (st.setForward own { f with phase := .gone }) :=
      move_valid valid found rfl rfl rfl
    exact ⟨moved.timely, moved.finished, moved.cancelled, moved.pumps, moved.listed⟩
  · cases stepped

theorem watcherCancel_valid (valid : Valid .proxy st)
    (orderly : watchesOwn st own = true → idle st own = true)
    (stepped : stepProxy st (.watcherCancel own) = some next) : Valid .proxy next := by
  simp only [stepProxy] at stepped
  split at stepped
  · rename_i phase object body held id found
    obtain rfl := Option.some.inj stepped
    have moved : Valid .proxy (st.setForward own ⟨phase, object, body, held, .absent⟩) :=
      move_valid valid found rfl rfl rfl
    refine cancel_valid moved (setForward_self _) fun same => ?_
    have pumped := pumped_of_idle found (orderly (by simp [watchesOwn, found, same]))
    exact pumped
  · cases stepped

/-- An object that no running pump has is given an id. -/
theorem acquire_valid (valid : Valid .proxy st) {object : Nat} (free : unpumped st object = true)
    (holder : Holder) : Valid .proxy (st.acquire object id holder) := by
  refine ⟨valid.timely, valid.finished, valid.cancelled, ?_, valid.listed⟩
  intro own f found busy
  obtain ⟨mine, held⟩ := valid.pumps own f found busy
  have apart : f.object ≠ object := by
    have checked := List.all_eq_true.mp free own (valid.listed own f found)
    simpa [show st.forwards own = some f from found, busy] using checked
  exact ⟨by simpa [State.acquire, Function.update_of_ne apart] using mine, held⟩

theorem openStream_valid (valid : Valid .proxy st) {source : Option Source} {object : Nat}
    (fresh : .finished (nextID st.nextStreamID) ∉ st.log) (free : unpumped st object = true)
    (stepped : stepProxy st (.openStream source object) = some next) : Valid .proxy next := by
  obtain ⟨⟨unused, -⟩, rfl⟩ := enabled stepped
  have acquired : Valid .proxy (st.acquire object (nextID st.nextStreamID) .here) :=
    acquire_valid valid free .here
  refine ⟨?_, ?_, ?_, ?_, ?_⟩
  · refine each_snoc valid.timely fun other => ⟨fun frame => ?_, fun _ frame => by cases frame⟩
    obtain rfl := Entry.headers.inj (frame.resolve_right (by simp))
    exact fresh
  · intro other member
    have old : .finished other ∈ st.log := (List.mem_append.mp member).resolve_right (by simp)
    have apart : other ≠ nextID st.nextStreamID := fun same => fresh (same ▸ old)
    exact (idle_setForward apart _).trans (valid.finished other old)
  · intro _ other member
    have old : .rstStream other other errCodeCancel ∈ st.log :=
      (List.mem_append.mp member).resolve_right (by simp)
    obtain ⟨g, known, pumped⟩ := valid.cancelled rfl other old
    have apart : other ≠ nextID st.nextStreamID := by
      rintro rfl
      rw [unused] at known
      cases known
    exact ⟨g, (setForward_of_ne apart _).trans known, pumped⟩
  · intro other g known busy
    by_cases here : other = nextID st.nextStreamID
    · subst here
      obtain rfl := Option.some.inj ((setForward_self _).symm.trans known)
      exact ⟨by simp [State.note, State.setForward, State.acquire], by simp⟩
    · exact acquired.pumps other g ((setForward_of_ne here _).symm.trans known) busy
  · intro other g known
    by_cases here : other = nextID st.nextStreamID
    · exact here ▸ List.mem_cons_self
    · exact List.mem_cons_of_mem _
        (valid.listed other g ((setForward_of_ne here _).symm.trans known))

theorem pumpRead_valid (valid : Valid .proxy st)
    (stepped : stepProxy st (.pumpRead own) = some next) : Valid .proxy next := by
  obtain ⟨f, found, running, rfl⟩ := onForward_cases stepped
  have busy : f.pumped = false := by simpa using running
  obtain ⟨mine, -⟩ := valid.pumps own f found busy
  have moved : Valid .proxy (st.setForward own { f with held := some (st.idOf f.object) }) :=
    setForward_valid valid found id fun _ => ⟨mine, by simp [mine]⟩
  simpa [State.note] using moved

theorem pumpStep_valid (valid : Valid .proxy st)
    (stepped : stepProxy st (.pumpStep own) = some next) : Valid .proxy next := by
  simp only [stepProxy] at stepped
  split at stepped
  · rename_i phase object body id watcher found
    split at stepped
    · cases stepped
    rename_i running
    obtain rfl := Option.some.inj stepped
    have busy : body.returned = false := by simpa using running
    obtain ⟨mine, held⟩ := valid.pumps own _ found busy
    obtain rfl : id = own := held id rfl
    have fresh : .finished id ∉ st.log := fun member =>
      running (pumped_of_idle found (valid.finished id member))
    have going : .rstStream id id errCodeCancel ∉ st.log := by
      intro member
      obtain ⟨g, known, pumped⟩ := valid.cancelled rfl id member
      obtain rfl := Option.some.inj (found.symm.trans known)
      exact running pumped
    have moved : Valid .proxy
        (st.setForward id ⟨phase, object, some body.advance, none, watcher⟩) :=
      setForward_valid valid found (fun pumped => absurd pumped running)
        fun _ => ⟨mine, by simp⟩
    rcases submitted_cases body with nothing | ⟨payload, ended, data⟩ | ⟨reset, returned⟩
    · simpa [nothing, State.note] using moved
    · rw [data]
      refine ⟨each_snoc moved.timely fun other => ⟨fun frame => ?_, fun _ frame => ?_⟩, ?_, ?_,
        moved.pumps, moved.listed⟩
      · obtain ⟨author, same⟩ := frame.resolve_left (by simp [ofBody])
        obtain ⟨-, rfl⟩ := Entry.data.inj same
        exact fresh
      · obtain ⟨rfl, -⟩ := Entry.data.inj frame
        exact going
      · intro other member
        exact moved.finished other ((List.mem_append.mp member).resolve_right (by simp [ofBody]))
      · intro proxy other member
        exact moved.cancelled proxy other
          ((List.mem_append.mp member).resolve_right (by simp [ofBody]))
    · rw [reset]
      exact cancel_valid moved (setForward_self _) fun _ => returned
  · cases stepped

theorem step_valid {role : Role} {action : Action} (valid : Valid role st)
    (orderly : Orderly st action) (stepped : step role st action = some next) :
    Valid role next := by
  cases role with
  | worker =>
      cases action with
      | accept id env req prog =>
          obtain ⟨-, rfl⟩ := enabled stepped
          exact accept_valid valid orderly _
      | handlerStep id =>
          simp only [step, stepWorker] at stepped
          split at stepped
          · rename_i h found
            split at stepped
            · cases stepped
            · rename_i busy
              obtain rfl := Option.some.inj stepped
              exact handlerStep_valid valid found (by simpa using busy)
          · cases stepped
      | handlerExit id =>
          simp only [step, stepWorker] at stepped
          split at stepped
          · obtain ⟨-, rfl⟩ := enabled stepped
            exact handlerExit_valid valid
          · cases stepped
      | rst id =>
          obtain rfl := Option.some.inj stepped
          exact rst_valid valid orderly _
      | openStream _ _ | openFails _ | borrow _ _ | giveBack _ | pumpRead _ | pumpStep _
      | respond _ | abort _ | cancelWaiting _ | writeHeader _ | writeFails _ | copied _ | panics _
      | watcherRead _ | watcherCancel _ | watcherStop _ | forwardExit _ | detach => cases stepped
  | proxy =>
      cases action with
      | openStream source object => exact openStream_valid valid orderly.1 orderly.2 stepped
      | openFails object =>
          obtain ⟨-, rfl⟩ := enabled stepped
          have acquired : Valid .proxy (st.acquire object (nextID st.nextStreamID) .pool) :=
            acquire_valid valid orderly .pool
          exact ⟨acquired.timely, acquired.finished, acquired.cancelled, acquired.pumps,
            acquired.listed⟩
      | borrow object id =>
          obtain ⟨-, rfl⟩ := enabled stepped
          exact acquire_valid valid orderly .elsewhere
      | giveBack object =>
          obtain ⟨-, rfl⟩ := enabled stepped
          exact ⟨valid.timely, valid.finished, valid.cancelled, valid.pumps, valid.listed⟩
      | pumpRead own => exact pumpRead_valid valid stepped
      | pumpStep own => exact pumpStep_valid valid stepped
      | cancelWaiting own | writeFails own =>
          exact cancelling_forward_valid valid orderly stepped
      | watcherCancel own => exact watcherCancel_valid valid orderly stepped
      | respond own | abort own | writeHeader own | copied own | watcherRead own
      | watcherStop own => exact quiet_forward_valid valid stepped fun _ => ⟨rfl, rfl, rfl⟩
      | panics own | forwardExit own => exact exit_valid valid stepped
      | detach =>
          obtain rfl := Option.some.inj stepped
          exact ⟨valid.timely, valid.finished, valid.cancelled, valid.pumps, valid.listed⟩
      | rst id =>
          obtain rfl := Option.some.inj stepped
          exact rst_valid valid orderly _
      | accept _ _ _ _ | handlerStep _ | handlerExit _ => cases stepped

end Steps

theorem no_frame_after_reset (role : Role) (trace : List Action) (last : State)
    (orderly : Guarded (step role) Orderly State.new trace)
    (ran : run (step role) State.new trace = some last) (front : List Entry) (entry : Entry)
    (submitted : front ++ [entry] <+: last.log) (id : StreamID) :
    ((entry = .headers id ∨ ∃ author, entry = .data author id) → .finished id ∉ front) ∧
      (role = .proxy → entry = .data id id → .rstStream id id errCodeCancel ∉ front) := by
  have valid := run_invariant (fun _ _ _ valid orderly stepped =>
    step_valid valid orderly stepped) (valid_new role) orderly ran
  exact valid.timely front entry submitted id

/-- A body that ends at once. -/
def emptyUpload : Source :=
  { env := RequestBody.slowTunnel
    reader := fun _ =>
      { buf := List.replicate (RequestBody.bufSize RequestBody.slowTunnel) 0
        n := 0
        err := some .eof
        sized := List.length_replicate
        within := Nat.zero_le _ } }

/-- The object of the first stream is used again, and so is that of the second,
whose forward panicked once its pump was done. -/
def cancelledLate : List Action :=
  [.openStream (some emptyUpload) 0, .pumpRead 1, .pumpStep 1, .pumpRead 1, .pumpStep 1,
    .pumpRead 1, .pumpStep 1, .cancelWaiting 1, .rst 1, .forwardExit 1, .openStream none 0,
    .respond 3, .panics 3, .borrow 0 1]

theorem no_frame_after_reset_cancelled : ∃ last,
    run (step .proxy) State.new cancelledLate = some last ∧
      last.log = [.headers 1, .data 1 1, .rstStream 1 1 errCodeCancel, .finished 1, .headers 3] ∧
      .rstStream 1 1 errCodeCancel ∉ [Entry.headers 1] := by
  have computed : (run (step .proxy) State.new cancelledLate).map State.log =
      some [.headers 1, .data 1 1, .rstStream 1 1 errCodeCancel, .finished 1, .headers 3] := by
    decide +kernel
  obtain ⟨last, ran, log⟩ := Option.map_eq_some_iff.mp computed
  have orderly : Guarded (step .proxy) Orderly State.new cancelledLate := by decide +kernel
  have submitted : [.headers 1] ++ [.data 1 1] <+: last.log := by
    rw [log]
    exact ⟨[.rstStream 1 1 errCodeCancel, .finished 1, .headers 3], rfl⟩
  exact ⟨last, ran, log,
    (no_frame_after_reset .proxy cancelledLate last orderly ran _ _ submitted 1).2 rfl rfl⟩

/-- `FailBody` tells nobody who writes: the handler goes on to answer. -/
theorem handler_answers_after_reset : ¬ ∀ trace last,
    run (step .worker) State.new trace = some last →
    ∀ front entry, front ++ [entry] <+: last.log → ∀ id,
      (entry = .headers id ∨ ∃ author, entry = .data author id) → .finished id ∉ front := by
  intro claim
  have computed : (run (step .worker) State.new
      [.accept 1 ServeStream.openConn ServeStream.get ServeStream.greet, .rst 1, .handlerStep 1,
        .handlerStep 1]).map State.log = some [.finished 1, .headers 1] := by
    decide +kernel
  obtain ⟨last, ran, log⟩ := Option.map_eq_some_iff.mp computed
  have submitted : [.finished 1] ++ [.headers 1] <+: last.log := by
    rw [log]
    exact List.prefix_refl _
  exact claim _ last ran _ _ submitted 1 (Or.inl rfl) (by simp)

/-- Nor does a forward that cancels stop its pump; it only waits for it. -/
theorem pump_sends_after_cancel : ¬ ∀ trace last,
    run (step .proxy) State.new trace = some last →
    ∀ front entry, front ++ [entry] <+: last.log → ∀ id,
      entry = .data id id → .rstStream id id errCodeCancel ∉ front := by
  intro claim
  have computed : (run (step .proxy) State.new
      [.openStream (some emptyUpload) 0, .cancelWaiting 1, .pumpRead 1, .pumpStep 1, .pumpRead 1,
        .pumpStep 1, .pumpRead 1, .pumpStep 1]).map State.log =
      some [.headers 1, .rstStream 1 1 errCodeCancel, .data 1 1] := by
    decide +kernel
  obtain ⟨last, ran, log⟩ := Option.map_eq_some_iff.mp computed
  have submitted : [.headers 1, .rstStream 1 1 errCodeCancel] ++ [.data 1 1] <+: last.log := by
    rw [log]
    exact List.prefix_refl _
  exact claim _ last ran _ _ submitted 1 rfl (by simp)

/-- The pump of a forward that panicked goes on with the id of whoever has its
object now, a stream that the peer has reset. -/
theorem orphan_sends_after_reset : ¬ ∀ trace last,
    run (step .proxy) State.new trace = some last →
    ∀ front entry, front ++ [entry] <+: last.log → ∀ id,
      entry = .data 1 id → .finished id ∉ front := by
  intro claim
  have computed : (run (step .proxy) State.new
      [.openStream (some emptyUpload) 0, .respond 1, .panics 1, .openStream none 0, .rst 3,
        .pumpRead 1, .pumpStep 1, .pumpRead 1, .pumpStep 1, .pumpRead 1, .pumpStep 1]).map
          State.log =
      some [.headers 1, .headers 3, .finished 3, .data 1 3] := by
    decide +kernel
  obtain ⟨last, ran, log⟩ := Option.map_eq_some_iff.mp computed
  have submitted : [.headers 1, .headers 3, .finished 3] ++ [.data 1 3] <+: last.log := by
    rw [log]
    exact List.prefix_refl _
  exact claim _ last ran _ _ submitted 3 rfl (by simp)

end ReverseHttp.AfterReset
