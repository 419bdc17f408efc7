import ReverseHttp.Transition
import ReverseHttp.ServeStream

/-!
When the worker forgets a stream. `serveStream` runs as in `ServeStream`, but
what comes after the handler is cut at every point where the frame reader can
come in between: the response is ended, `DataDone` is tested, the body is
closed, the stream leaves the registry. The reader notes a frame for the stream
when it looks the stream up and touches the body only later, since submitting
WINDOW_UPDATE can block it in between.

The connection is not torn down here: its writer answers every submit and
`Reserve` finds credit (`ServeStream.Alive`). `stale` is the effect of a frame
whose reader looked this object up for the stream that owned it before.
`Request.bodyDone` is not read: the body ends when the reader says so.
-/

namespace ReverseHttp.StreamClosure

open Transition Wire WorkerResponse ServeStream

/-- Where `serveStream` is, from the end of the handler on. -/
inductive Tail where
  | handling
  | testing
  | closing
  | removing
  | removed
  deriving DecidableEq, Repr

/-- `touching`: the reader is between the lookup for END_STREAM or RST_STREAM
and its `CloseData` or `FailBody`. -/
structure State where
  machine : Machine
  tail : Tail
  dataDone : Bool
  touching : Bool
  receivedEnd : Bool
  receivedRst : Bool

/-- `dispatchInboundHeaders`; `endStream` is the flag of the request HEADERS. -/
def State.new (req : Request) (endStream : Bool) : State :=
  { machine := Machine.new req
    tail := .handling
    dataDone := endStream
    touching := false
    receivedEnd := endStream
    receivedRst := false }

/-- `receiveEnd` is a DATA frame with END_STREAM; `receiveTrailers` a second
HEADERS block with END_STREAM, which the worker ignores. -/
inductive Action where
  | handler
  | finish
  | testDataDone
  | closeData
  | removeStream
  | receiveEnd
  | receiveRst
  | receiveTrailers
  | touch
  | stale
  deriving DecidableEq, Repr

section Step

variable (env : Env)

/-- `serveStream` after a normal return, up to the test of `DataDone`; the flag
is the source's `completed`. -/
def endResponse (rw : ResponseWriter) : Bool × ResponseWriter :=
  if rw.clViolated then (false, reset env rw errCodeInternal)
  else if rw.err = none then
    match endStream env rw with
    | (some .shortContentLength, rw) => (false, reset env rw errCodeInternal)
    | (none, rw) => (true, rw)
    | (some _, rw) => (false, rw)
  else (false, rw)

variable (req : Request) (prog : Program)

def step (st : State) : Action → Option State
  | .handler =>
      match st.machine.control with
      | .calls [] => none
      | .finished => none
      | .start =>
          some { st with
            machine := ServeStream.step env req prog st.machine
            -- a malformed path returns before the handler and before `CloseData`
            tail := if parseRequestURI req.path = none then .removing else st.tail }
      | _ => some { st with machine := ServeStream.step env req prog st.machine }
  | .finish =>
      match st.machine.control with
      | .calls [] =>
          -- the recovery ends the response and does not look at `DataDone`
          if prog.panics then
            some { st with
              machine := { st.machine with rw := recover env st.machine.rw, control := .finished }
              tail := .removing }
          else
            let ended := endResponse env st.machine.rw
            some { st with
              machine := { st.machine with rw := ended.2, control := .finished }
              tail := if ended.1 then .testing else .closing }
      | _ => none
  | .testDataDone =>
      if st.tail = .testing then
        some { st with
          machine := if st.dataDone then st.machine
            else { st.machine with rw := reset env st.machine.rw errCodeNo }
          tail := .closing }
      else none
  | .closeData =>
      if st.tail = .closing then some { st with dataDone := true, tail := .removing } else none
  | .removeStream => if st.tail = .removing then some { st with tail := .removed } else none
  | .receiveEnd =>
      if st.tail ≠ .removed ∧ st.touching = false then
        some { st with receivedEnd := true, touching := true }
      else none
  | .receiveRst =>
      if st.tail ≠ .removed ∧ st.touching = false then
        some { st with receivedRst := true, touching := true }
      else none
  -- trailers are dropped: END_STREAM arrives and the body is not told
  | .receiveTrailers =>
      if st.tail ≠ .removed ∧ st.touching = false then some { st with receivedEnd := true }
      else none
  | .touch =>
      if st.touching = true then some { st with dataDone := true, touching := false } else none
  | .stale => some { st with dataDone := true }

end Step

def Out.endsStream : Out → Bool
  | .headers _ _ endStream => endStream
  | .data _ endStream => endStream
  | .rstStream _ => false

def Out.resets : Out → Bool
  | .rstStream _ => true
  | _ => false

def submittedEnd (frames : List Out) : Bool := frames.any Out.endsStream

def submittedRst (frames : List Out) : Bool := frames.any Out.resets

/-- Closed from both sides on the wire. -/
def Closed (st : State) : Prop :=
  (submittedEnd st.machine.rw.frames = true ∧ st.receivedEnd = true) ∨
    submittedRst st.machine.rw.frames = true ∨ st.receivedRst = true

instance (st : State) : Decidable (Closed st) :=
  inferInstanceAs (Decidable ((_ = true ∧ _ = true) ∨ _ = true ∨ _ = true))

/-- A handler panics before its response headers only when the peer has ended or
reset the request, and no frame of the object's previous stream is applied. -/
def Answered (prog : Program) (st : State) : Action → Prop
  | .finish => prog.panics = true → st.machine.rw.wroteHeaders = false →
      st.receivedEnd = true ∨ st.receivedRst = true
  | .stale => False
  | _ => True

instance (prog : Program) (st : State) (action : Action) : Decidable (Answered prog st action) := by
  unfold Answered
  split <;> infer_instance

/-- Without the reader in between, the steps after the handler are the end of
`ServeStream`. -/
theorem finish_eq (env : Env) (bodyDone : Bool) (rw : ResponseWriter) :
    ServeStream.finish env bodyDone rw =
      if (endResponse env rw).1 ∧ bodyDone = false then reset env (endResponse env rw).2 errCodeNo
      else (endResponse env rw).2 := by
  unfold ServeStream.finish endResponse
  split
  · rfl
  · split
    · generalize endStream env rw = ended
      obtain ⟨err, after⟩ := ended
      cases err with
      | none => cases bodyDone <;> rfl
      | some err => cases err <;> cases bodyDone <;> rfl
    · rfl

/-- While `serveStream` is before its own `CloseData`, a closed body means that
the peer ended or reset it; what is submitted depends on how far it is. -/
structure Valid (isHead : Bool) (st : State) : Prop where
  touching : st.touching = true → st.receivedEnd = true ∨ st.receivedRst = true
  body : st.tail = .handling ∨ st.tail = .testing → st.dataDone = true →
    st.receivedEnd = true ∨ st.receivedRst = true
  running : st.tail = .handling → Located isHead st.machine
  returned : st.tail ≠ .handling → st.machine.control = .finished
  ended : st.tail = .testing → submittedEnd st.machine.rw.frames = true
  closed : st.tail = .closing ∨ st.tail = .removing ∨ st.tail = .removed → Closed st

theorem closed_of_rst {st : State} (sent : submittedRst st.machine.rw.frames = true) :
    Closed st :=
  Or.inr (Or.inl sent)

theorem submittedEnd_of_ended {isHead : Bool} {frames : List Out} (ended : Ended isHead frames) :
    submittedEnd frames = true := by
  cases ended <;> simp [submittedEnd, Out.endsStream]

/-- The peer's half is over, so END_STREAM from this side closes the stream. -/
theorem closed_of_end {st : State} (sent : submittedEnd st.machine.rw.frames = true)
    (gone : st.receivedEnd = true ∨ st.receivedRst = true) : Closed st := by
  rcases gone with ended | rst
  · exact Or.inl ⟨sent, ended⟩
  · exact Or.inr (Or.inr rst)

section Alive

variable {env : Env} {isHead : Bool} (alive : Alive env)

include alive

theorem submittedRst_reset (rw : ResponseWriter) (code : ErrCode) :
    submittedRst (reset env rw code).frames = true := by
  simp [reset_alive alive, submittedRst, Out.resets]

theorem recover_submits {rw : ResponseWriter} (running : Running isHead rw) :
    (rw.wroteHeaders = false ∧ submittedEnd (recover env rw).frames = true) ∨
      submittedRst (recover env rw).frames = true := by
  unfold recover
  split
  · rename_i unwritten
    obtain ⟨_, ended⟩ := writeHeaders_ended alive isHead { rw with
      status := 500
      header := rw.header.del "Content-Length"
      declaredCL := -1 } (running.opening unwritten) unwritten (by simp [FinalStatus])
    exact Or.inl ⟨unwritten, submittedEnd_of_ended ended⟩
  · exact Or.inr (submittedRst_reset alive rw _)

/-- A normal return submits END_STREAM exactly when it counts as completed, and
RST_STREAM otherwise. -/
theorem endResponse_submits {rw : ResponseWriter} (running : Running isHead rw) :
    ((endResponse env rw).1 = true ∧ submittedEnd (endResponse env rw).2.frames = true) ∨
      ((endResponse env rw).1 = false ∧ submittedRst (endResponse env rw).2.frames = true) := by
  unfold endResponse
  split
  · exact Or.inr ⟨rfl, submittedRst_reset alive rw _⟩
  rename_i clean
  rw [if_pos (running.err.resolve_right (by simpa using clean))]
  have outcome := endStream_ended alive running
  generalize endStream env rw = result at outcome
  obtain ⟨err, after⟩ := result
  rcases outcome with ⟨short, _⟩ | ⟨done, ended⟩
  · cases short
    exact Or.inr ⟨rfl, submittedRst_reset alive after _⟩
  · cases done
    exact Or.inl ⟨rfl, submittedEnd_of_ended ended⟩

end Alive

theorem valid_new (req : Request) (endStream : Bool) :
    Valid req.isHead (State.new req endStream) := by
  constructor
  · exact nofun
  · exact fun _ done => Or.inl done
  · exact fun _ => rfl
  · exact fun away => absurd rfl away
  · exact nofun
  · rintro (closing | removing | removed)
    · cases closing
    · cases removing
    · cases removed

/-- While a control other than `finished` is left, the handler is still there. -/
theorem Valid.handling {isHead : Bool} {st : State} (valid : Valid isHead st)
    (going : st.machine.control ≠ .finished) : st.tail = .handling := by
  by_contra away
  exact going (valid.returned away)

/-- More of the peer's frames keep a closed stream closed. -/
theorem Closed.mono {st next : State} (closed : Closed st) (same : next.machine = st.machine)
    (ended : st.receivedEnd = true → next.receivedEnd = true)
    (rst : st.receivedRst = true → next.receivedRst = true) : Closed next := by
  unfold Closed at closed ⊢
  rw [same]
  exact closed.imp (And.imp_right ended) (Or.imp_right rst)

section Steps

variable {env : Env} {req : Request} {prog : Program} {st next : State}

/-- The reader's steps: the machine is left alone and the peer's half is over. -/
theorem received_valid (valid : Valid req.isHead st) (machine : next.machine = st.machine)
    (tail : next.tail = st.tail)
    (ended : st.receivedEnd = true → next.receivedEnd = true)
    (rst : st.receivedRst = true → next.receivedRst = true)
    (gone : next.receivedEnd = true ∨ next.receivedRst = true) : Valid req.isHead next := by
  constructor
  · exact fun _ => gone
  · exact fun _ _ => gone
  · rw [tail, machine]
    exact valid.running
  · rw [tail, machine]
    exact valid.returned
  · rw [tail, machine]
    exact valid.ended
  · rw [tail]
    intro late
    exact (valid.closed late).mono machine ended rst

/-- `serveStream` enters a late phase with the stream closed. -/
theorem late_valid (valid : Valid req.isHead st) (closed : Closed next)
    (touching : next.touching = st.touching) (ended : next.receivedEnd = st.receivedEnd)
    (rst : next.receivedRst = st.receivedRst) (finished : next.machine.control = .finished)
    (late : next.tail = .closing ∨ next.tail = .removing ∨ next.tail = .removed) :
    Valid req.isHead next := by
  have notEarly : ¬ (next.tail = .handling ∨ next.tail = .testing) := by
    rcases late with late | late | late <;> simp [late]
  constructor
  · rw [touching, ended, rst]
    exact valid.touching
  · exact fun early => absurd early notEarly
  · exact fun handling => absurd (Or.inl handling) notEarly
  · exact fun _ => finished
  · exact fun testing => absurd (Or.inr testing) notEarly
  · exact fun _ => closed

theorem handler_valid (alive : Alive env) (valid : Valid req.isHead st)
    (stepped : step env req prog st .handler = some next) : Valid req.isHead next := by
  have advance : st.tail = .handling →
      Valid req.isHead { st with machine := ServeStream.step env req prog st.machine } := by
    intro handling
    have located := step_located alive req prog (valid.running handling)
    refine ⟨valid.touching, valid.body, fun _ => located, fun away => absurd handling away, ?_, ?_⟩
    · exact fun testing => absurd (handling.symm.trans testing) (by simp)
    · intro late
      exact absurd late (by simp [handling])
  cases control : st.machine.control with
  | start =>
      have handling := valid.handling (by simp [control])
      simp only [step, control] at stepped
      cases stepped
      split
      · rename_i malformed
        refine late_valid valid ?_ rfl rfl rfl ?_ (Or.inr (Or.inl rfl))
        · apply closed_of_rst
          simp only [ServeStream.step, control, malformed]
          exact submittedRst_reset alive _ _
        · simp [ServeStream.step, control, malformed]
      · exact advance handling
  | calls ops =>
      have handling := valid.handling (by simp [control])
      cases ops with
      | nil => simp [step, control] at stepped
      | cons op rest =>
          simp only [step, control] at stepped
          cases stepped
          exact advance handling
  | writing maxFrame p total rest =>
      have handling := valid.handling (by simp [control])
      simp only [step, control] at stepped
      cases stepped
      exact advance handling
  | finished => simp [step, control] at stepped

theorem finish_valid (alive : Alive env) (valid : Valid req.isHead st)
    (answered : Answered prog st .finish)
    (stepped : step env req prog st .finish = some next) : Valid req.isHead next := by
  simp only [step] at stepped
  split at stepped
  case h_2 => cases stepped
  rename_i control
  have handling := valid.handling (by simp [control])
  have running : Running req.isHead st.machine.rw := by
    have located := valid.running handling
    simpa only [Located, control] using located
  split at stepped
  · rename_i panics
    cases stepped
    refine late_valid valid ?_ rfl rfl rfl rfl (Or.inr (Or.inl rfl))
    rcases recover_submits alive running with ⟨unwritten, ended⟩ | rst
    · exact closed_of_end ended (answered panics unwritten)
    · exact closed_of_rst rst
  · cases stepped
    rcases endResponse_submits alive running with ⟨completed, ended⟩ | ⟨aborted, rst⟩
    · rw [if_pos completed]
      refine ⟨valid.touching, ?_, ?_, fun _ => rfl, fun _ => ended, ?_⟩
      · exact fun _ => valid.body (Or.inl handling)
      · intro handled
        cases handled
      · rintro (closing | removing | removed)
        · cases closing
        · cases removing
        · cases removed
    · rw [if_neg (by simp [aborted])]
      exact late_valid valid (closed_of_rst rst) rfl rfl rfl rfl (Or.inl rfl)

theorem testDataDone_valid (alive : Alive env) (valid : Valid req.isHead st)
    (stepped : step env req prog st .testDataDone = some next) : Valid req.isHead next := by
  obtain ⟨testing, rfl⟩ := enabled stepped
  have finished := valid.returned (by simp [testing])
  cases done : st.dataDone with
  | true =>
      refine late_valid valid ?_ rfl rfl rfl finished (Or.inl rfl)
      exact closed_of_end (valid.ended testing) (valid.body (Or.inr testing) done)
  | false =>
      refine late_valid valid ?_ rfl rfl rfl finished (Or.inl rfl)
      exact closed_of_rst (submittedRst_reset alive _ _)

theorem step_valid {action : Action} (alive : Alive env) (valid : Valid req.isHead st)
    (answered : Answered prog st action) (stepped : step env req prog st action = some next) :
    Valid req.isHead next := by
  cases action with
  | handler => exact handler_valid alive valid stepped
  | finish => exact finish_valid alive valid answered stepped
  | testDataDone => exact testDataDone_valid alive valid stepped
  | closeData =>
      obtain ⟨closing, rfl⟩ := enabled stepped
      exact late_valid valid (valid.closed (Or.inl closing)) rfl rfl rfl
        (valid.returned (by simp [closing])) (Or.inr (Or.inl rfl))
  | removeStream =>
      obtain ⟨removing, rfl⟩ := enabled stepped
      exact late_valid valid (valid.closed (Or.inr (Or.inl removing))) rfl rfl rfl
        (valid.returned (by simp [removing])) (Or.inr (Or.inr rfl))
  | receiveEnd =>
      obtain ⟨_, rfl⟩ := enabled stepped
      exact received_valid valid rfl rfl (fun _ => rfl) id (Or.inl rfl)
  | receiveRst =>
      obtain ⟨_, rfl⟩ := enabled stepped
      exact received_valid valid rfl rfl id (fun _ => rfl) (Or.inr rfl)
  | receiveTrailers =>
      obtain ⟨_, rfl⟩ := enabled stepped
      exact received_valid valid rfl rfl (fun _ => rfl) id (Or.inl rfl)
  | touch =>
      obtain ⟨touching, rfl⟩ := enabled stepped
      exact received_valid valid rfl rfl id id (valid.touching touching)
  | stale => exact absurd answered id

end Steps

/-- Over every run in which the handler does not panic before its headers with
the request still open, the worker forgets a stream only when it is closed. -/
theorem removed_stream_is_closed {env : Env} (alive : Alive env) {req : Request} {prog : Program}
    {endStream : Bool} {trace : List Action} {last : State}
    (answered : Guarded (step env req prog) (Answered prog) (State.new req endStream) trace)
    (ran : run (step env req prog) (State.new req endStream) trace = some last)
    (removed : last.tail = .removed) : Closed last :=
  (run_invariant (fun _ _ _ valid answered stepped => step_valid alive valid answered stepped)
    (valid_new req endStream) answered ran).closed (Or.inr (Or.inr removed))

/-- A request whose body is still being sent. -/
def upload : Request := ⟨"POST", [slash], false⟩

/-- The handler panics before it has written anything: 500 with END_STREAM goes
out, and nothing tells the peer to stop sending. -/
theorem early_panic_leaves_stream_open :
    ¬ ∀ (env : Env) (req : Request) (prog : Program) (endStream : Bool) (trace : List Action)
      (last : State), Alive env →
      run (step env req prog) (State.new req endStream) trace = some last →
      last.tail = .removed → Closed last := by
  intro always
  have ran : (run (step openConn upload ⟨[], true⟩) (State.new upload false)
      [.handler, .finish, .removeStream]).map (fun last => (last.tail, decide (Closed last))) =
      some (.removed, false) := by
    decide
  obtain ⟨last, reached, shape⟩ := Option.map_eq_some_iff.mp ran
  have closed := always openConn upload ⟨[], true⟩ false _ last openConn_alive reached
    (Prod.ext_iff.mp shape).1
  exact absurd closed (of_decide_eq_false (Prod.ext_iff.mp shape).2)

/-- The handler answers while the body is still on its way; END_STREAM and the
test of `DataDone` race. -/
def racingEnd : List Action :=
  [.handler, .handler, .finish, .receiveEnd, .testDataDone, .closeData, .touch, .removeStream]

theorem racing_end_closes_stream :
    ∃ last, run (step openConn upload ⟨[.writeHeader 204], false⟩) (State.new upload false)
        racingEnd = some last ∧ last.tail = .removed ∧
      Guarded (step openConn upload ⟨[.writeHeader 204], false⟩)
        (Answered ⟨[.writeHeader 204], false⟩) (State.new upload false) racingEnd ∧
      Closed last := by
  have ran : (run (step openConn upload ⟨[.writeHeader 204], false⟩) (State.new upload false)
      racingEnd).map State.tail = some .removed := by
    decide
  obtain ⟨last, reached, removed⟩ := Option.map_eq_some_iff.mp ran
  have answered : Guarded (step openConn upload ⟨[.writeHeader 204], false⟩)
      (Answered ⟨[.writeHeader 204], false⟩) (State.new upload false) racingEnd := by
    decide
  exact ⟨last, reached, removed, answered,
    removed_stream_is_closed openConn_alive answered reached removed⟩

end ReverseHttp.StreamClosure
