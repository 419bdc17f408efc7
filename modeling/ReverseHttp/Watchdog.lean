import ReverseHttp.FrameLoop
import ReverseHttp.Transition

/-!
The read-idle watchdog, at both ends of a tunnel and in time. Each end runs the same loop:
`SetIdleDeadline`, `ReadFrame`, and when the deadline passes `SendOrCheckPing`; a PING is
answered with its own payload. There is one clock, and every action has its time. `wire` is what
is on its way to the loop of an end, in the order of the peer's write queue: in that queue, in
the transport, or waiting for the loop to come back to its read. Its entries carry the time
their sender began to submit them, which for the loop itself may be earlier: `submitAsync` waits
while the queue is full, and the loop with it.

A deadline may fall inside a frame. `Framer` has then discarded what it had read of it, and what
the loop reads from there on need not be what was sent (`FrameLoop`): `cut` marks such an end.

Two things are asked of a watchdog. It must not give up a peer that answers: an answer may take
as long as the larger of the two durations, not `PingTimeout` alone, since the loop looks at the
deadline of a PING only when it has read nothing for a whole `PingInterval`. And it must give up
one that is gone, which it does unless its own PING finds no room in the queue.
-/

namespace ReverseHttp.Watchdog

open Transition
open Wire (Bytes H2Error Role)
open FrameLoop (Ping sendOrCheckPing handlePingAck)

/-- `replies`: how many intents the loop submits when it handles the frame, as the two
WINDOW_UPDATEs for DATA. -/
inductive Frame where
  | ping (ack : Bool) (data : Bytes)
  | other (replies : Nat)
  deriving DecidableEq

/-- Between `SetIdleDeadline` and the read nothing is waited for; `arming` is the rest of an
iteration, entered at `since`. `begun`: a part of a frame is there. `more` is what the loop has
to submit after `frame`. `exited` is the exit with `ErrPingTimeout`, `left` any other. -/
inductive Phase where
  | arming (since : Nat)
  | reading (deadline : Nat) (begun : Bool)
  | sending (since : Nat) (frame : Frame) (more : Nat)
  | exited
  | left
  deriving DecidableEq

structure End where
  phase : Phase
  ping : Ping
  cut : Bool
  wire : List (Nat × Frame)
  deriving DecidableEq

structure State where
  clock : Nat
  ends : Role → End

/-- `PingInterval` and `PingTimeout`. -/
structure Times where
  interval : Nat
  timeout : Nat

def State.new : State :=
  { clock := 0
    ends := fun _ => { phase := .arming 0, ping := Ping.new, cut := false, wire := [] } }

/-- `submit` is another goroutine of the end, `misread` a frame the loop finds where it is out of
step. -/
inductive Move where
  | arm
  | begin
  | read
  | misread (frame : Frame)
  | expire
  | enqueue
  | submit (replies : Nat)
  | leave
  deriving DecidableEq

structure Action where
  side : Role
  now : Nat
  move : Move
  deriving DecidableEq

def State.put (st : State) (side : Role) (e : End) : State :=
  { st with ends := Function.update st.ends side e }

/-- The queue of the end takes a frame, on to the wire of its peer. -/
def State.send (st : State) (side : Role) (since : Nat) (frame : Frame) : State :=
  let peer := st.ends side.other
  st.put side.other { peer with wire := peer.wire ++ [(since, frame)] }

/-- What the loop goes on to when it has so many replies to submit. -/
def onward (now : Nat) : Nat → Phase
  | 0 => .arming now
  | more + 1 => .sending now (.other 0) more

/-- What the loop goes on to when it has read a frame. -/
def answer (now : Nat) : Frame → Phase
  | .ping false data => .sending now (.ping true data) 0
  | .ping true _ => .arming now
  | .other replies => onward now replies

def acknowledged (ping : Ping) : Frame → Ping
  | .ping true data => handlePingAck ping data
  | .ping false _ | .other _ => ping

def dispatch (st : State) (side : Role) (frame : Frame) (rest : List (Nat × Frame)) : State :=
  let e := st.ends side
  st.put side
    { e with phase := answer st.clock frame, ping := acknowledged e.ping frame, wire := rest }

def tick (times : Times) (st : State) (side : Role) (e : End) : State :=
  match sendOrCheckPing times.timeout e.ping st.clock with
  | .error _ => st.put side { e with phase := .exited }
  | .ok ping =>
      st.put side { e with
        ping := ping
        phase := if e.ping.pending then .arming st.clock
          else .sending st.clock (.ping false ping.data) 0 }

/-- The move at the time the clock shows. -/
def act (times : Times) (st : State) (side : Role) (move : Move) : Option State :=
  let e := st.ends side
  match move, e.phase with
  | .arm, .arming _ =>
      some (st.put side { e with phase := .reading (st.clock + times.interval) false })
  | .begin, .reading deadline _ =>
      if e.wire ≠ [] then some (st.put side { e with phase := .reading deadline true }) else none
  | .read, .reading _ _ =>
      match e.wire with
      | (_, frame) :: rest => if e.cut = false then some (dispatch st side frame rest) else none
      | [] => none
  | .misread frame, .reading _ _ =>
      if e.cut = true then some (dispatch st side frame e.wire) else none
  -- a deadline that has passed wins over data that is there
  | .expire, .reading deadline begun =>
      if deadline ≤ st.clock then some (tick times st side { e with cut := e.cut || begun })
      else none
  | .enqueue, .sending since frame more =>
      some ((st.put side { e with phase := onward st.clock more }).send side since frame)
  | .submit replies, _ => some (st.send side st.clock (.other replies))
  | .leave, .arming _ | .leave, .reading _ _ => some (st.put side { e with phase := .left })
  | _, _ => none

def step (times : Times) (st : State) (action : Action) : Option State :=
  if st.clock ≤ action.now then
    act times { st with clock := action.now } action.side action.move
  else none

/-- Nothing on its way to the end, and nothing it has to send, is older than `delay`. -/
def End.Fresh (delay now : Nat) (e : End) : Prop :=
  (∀ entry ∈ e.wire, now ≤ entry.1 + delay) ∧
    match e.phase with
    | .sending since _ _ => now ≤ since + delay
    | _ => True

instance decidableFresh (delay now : Nat) (e : End) : Decidable (e.Fresh delay now) := by
  unfold End.Fresh
  split <;> infer_instance

/-- The read does not come to its deadline inside a frame. -/
def End.Whole (e : End) (move : Move) : Prop :=
  match move, e.phase with
  | .expire, .reading _ begun => begun = false
  | _, _ => True

instance decidableWhole (e : End) (move : Move) : Decidable (e.Whole move) := by
  unfold End.Whole
  split <;> infer_instance

/-- No frame is under way for longer than `delay`, and none is cut by a deadline. -/
def Prompt (delay : Nat) (st : State) (action : Action) : Prop :=
  (st.ends .worker).Fresh delay action.now ∧ (st.ends .proxy).Fresh delay action.now ∧
    (st.ends action.side).Whole action.move

instance decidablePrompt (delay : Nat) (st : State) (action : Action) :
    Decidable (Prompt delay st action) := by
  unfold Prompt
  infer_instance

theorem Prompt.fresh {delay : Nat} {st : State} {action : Action} (prompt : Prompt delay st action)
    (side : Role) : (st.ends side).Fresh delay action.now := by
  cases side with
  | worker => exact prompt.1
  | proxy => exact prompt.2.1

section Ends

variable {st : State} {side : Role} {e : End} {frame : Frame} {since : Nat}

theorem other_ne (side : Role) : side.other ≠ side := by cases side <;> decide

theorem eq_or_other (side other : Role) : other = side ∨ other = side.other := by
  cases side <;> cases other <;> decide

@[simp] theorem put_self : (st.put side e).ends side = e := by simp [State.put]

@[simp] theorem put_other : (st.put side e).ends side.other = st.ends side.other := by
  simp [State.put, other_ne]

@[simp] theorem send_self : (st.send side since frame).ends side = st.ends side := by
  simp [State.send, State.put, (other_ne side).symm]

@[simp] theorem send_other : (st.send side since frame).ends side.other =
    { st.ends side.other with wire := (st.ends side.other).wire ++ [(since, frame)] } := by
  simp [State.send]

@[simp] theorem put_clock : (st.put side e).clock = st.clock := rfl

@[simp] theorem send_clock : (st.send side since frame).clock = st.clock := rfl

end Ends

/-- What a move does, with the phase it starts from. -/
inductive Acted (times : Times) (st : State) (side : Role) : Move → State → Prop where
  | arm (since : Nat) (here : (st.ends side).phase = .arming since) :
      Acted times st side .arm (st.put side
        { st.ends side with phase := .reading (st.clock + times.interval) false })
  | begin (deadline : Nat) (begun : Bool) (here : (st.ends side).phase = .reading deadline begun) :
      Acted times st side .begin (st.put side
        { st.ends side with phase := .reading deadline true })
  | read (deadline : Nat) (begun : Bool) (here : (st.ends side).phase = .reading deadline begun)
      (submitted : Nat) (frame : Frame) (rest : List (Nat × Frame))
      (wire : (st.ends side).wire = (submitted, frame) :: rest) :
      Acted times st side .read (dispatch st side frame rest)
  | misread (deadline : Nat) (begun : Bool) (here : (st.ends side).phase = .reading deadline begun)
      (frame : Frame) (cut : (st.ends side).cut = true) :
      Acted times st side (.misread frame) (dispatch st side frame (st.ends side).wire)
  | expire (deadline : Nat) (begun : Bool) (here : (st.ends side).phase = .reading deadline begun)
      (passed : deadline ≤ st.clock) :
      Acted times st side .expire
        (tick times st side { st.ends side with cut := (st.ends side).cut || begun })
  | enqueue (since : Nat) (frame : Frame) (more : Nat)
      (here : (st.ends side).phase = .sending since frame more) :
      Acted times st side .enqueue
        ((st.put side { st.ends side with phase := onward st.clock more }).send side since frame)
  | submit (replies : Nat) :
      Acted times st side (.submit replies) (st.send side st.clock (.other replies))
  | leave (free : ∀ since frame more, (st.ends side).phase ≠ .sending since frame more) :
      Acted times st side .leave (st.put side { st.ends side with phase := .left })

theorem act_acted {times : Times} {st next : State} {side : Role} {move : Move}
    (acted : act times st side move = some next) : Acted times st side move next := by
  unfold act at acted
  simp only at acted
  split at acted
  · rename_i since here
    cases acted
    exact .arm since here
  · rename_i deadline begun here
    obtain ⟨-, rfl⟩ := enabled acted
    exact .begin deadline begun here
  · rename_i deadline begun here
    split at acted
    · rename_i submitted frame rest wire
      obtain ⟨-, rfl⟩ := enabled acted
      exact .read deadline begun here submitted frame rest wire
    · cases acted
  · rename_i deadline begun here
    obtain ⟨cut, rfl⟩ := enabled acted
    exact .misread deadline begun here _ cut
  · rename_i deadline begun here
    obtain ⟨passed, rfl⟩ := enabled acted
    exact .expire deadline begun here passed
  · rename_i since frame more here
    cases acted
    exact .enqueue since frame more here
  · cases acted
    exact .submit _
  · rename_i since here
    cases acted
    exact .leave (by simp [here])
  · rename_i deadline begun here
    cases acted
    exact .leave (by simp [here])
  · cases acted

/-- Since `now` the loop is on the way from one read to the next. -/
def Between (now : Nat) (phase : Phase) : Prop :=
  phase = .arming now ∨ ∃ frame more, phase = .sending now frame more

section Between

variable {now : Nat} {phase : Phase}

theorem Between.alive (between : Between now phase) : phase ≠ .exited := by
  rcases between with rfl | ⟨frame, more, rfl⟩ <;> simp

theorem Between.unarmed (between : Between now phase) (deadline : Nat) (begun : Bool) :
    phase ≠ .reading deadline begun := by
  rcases between with rfl | ⟨frame, more, rfl⟩ <;> simp

theorem onward_between (now more : Nat) : Between now (onward now more) := by
  cases more with
  | zero => exact .inl rfl
  | succ rest => exact .inr ⟨_, rest, rfl⟩

theorem answer_between (now : Nat) (frame : Frame) : Between now (answer now frame) := by
  unfold answer
  split
  · exact .inr ⟨_, _, rfl⟩
  · exact .inl rfl
  · exact onward_between now _

end Between

/-! A peer that answers. -/

/-- Where an outstanding PING of `side` is, sent at `sent`, or the answer to it. -/
inductive Flying (delay : Nat) (st : State) (side : Role) (sent : Nat) : Prop where
  | asking (more : Nat)
      (here : (st.ends side).phase = .sending sent (.ping false (st.ends side).ping.data) more)
  | asked (there : (sent, .ping false (st.ends side).ping.data) ∈ (st.ends side.other).wire)
  | answering (since more : Nat) (soon : since ≤ sent + delay) (there :
      (st.ends side.other).phase = .sending since (.ping true (st.ends side).ping.data) more)
  | answered (since : Nat) (soon : since ≤ sent + delay)
      (here : (since, .ping true (st.ends side).ping.data) ∈ (st.ends side).wire)

structure Underway (times : Times) (delay : Nat) (st : State) (side : Role) (sent : Nat) :
    Prop where
  deadline : (st.ends side).ping.deadline = sent + times.timeout
  past : sent ≤ st.clock
  armed : ∀ deadline begun, (st.ends side).phase = .reading deadline begun →
    sent + times.interval ≤ deadline
  flying : Flying delay st side sent

structure Healthy (times : Times) (delay : Nat) (st : State) : Prop where
  alive : ∀ side, (st.ends side).phase ≠ .exited
  whole : ∀ side, (st.ends side).cut = false
  pending : ∀ side, (st.ends side).ping.pending = true →
    ∃ sent, Underway times delay st side sent

theorem healthy_new (times : Times) (delay : Nat) : Healthy times delay State.new :=
  ⟨fun _ => nofun, fun _ => rfl, fun _ => nofun⟩

section Steps

variable {times : Times} {delay : Nat} {st next : State} {side : Role} {sent : Nat}

theorem Underway.later (underway : Underway times delay st side sent)
    (clock : st.clock ≤ next.clock) (ping : (next.ends side).ping = (st.ends side).ping)
    (armed : ∀ deadline begun, (next.ends side).phase = .reading deadline begun →
      sent + times.interval ≤ deadline)
    (flying : Flying delay next side sent) : Underway times delay next side sent where
  deadline := by rw [ping, underway.deadline]
  past := underway.past.trans clock
  armed := armed
  flying := flying

/-- Nothing is taken off the wires, and nobody goes on with what it was sending. -/
theorem Flying.stay (flying : Flying delay st side sent)
    (ping : (next.ends side).ping = (st.ends side).ping)
    (sending : ∀ side since frame more, (st.ends side).phase = .sending since frame more →
      (next.ends side).phase = .sending since frame more)
    (wires : ∀ side, ∀ entry ∈ (st.ends side).wire, entry ∈ (next.ends side).wire) :
    Flying delay next side sent := by
  cases flying with
  | asking more here => exact .asking more (by rw [ping]; exact sending _ _ _ _ here)
  | asked there => exact .asked (by rw [ping]; exact wires _ _ there)
  | answering since more soon there =>
      exact .answering since more soon (by rw [ping]; exact sending _ _ _ _ there)
  | answered since soon here => exact .answered since soon (by rw [ping]; exact wires _ _ here)

/-- Both ends, seen from the one that moves. -/
theorem both_ends {holds : Role → Prop} (side : Role) (mine : holds side)
    (theirs : holds side.other) (other : Role) : holds other := by
  rcases eq_or_other side other with rfl | rfl <;> assumption

theorem clock_healthy (healthy : Healthy times delay st) {now : Nat} (later : st.clock ≤ now) :
    Healthy times delay { st with clock := now } where
  alive := healthy.alive
  whole := healthy.whole
  pending other pending := by
    obtain ⟨sent, underway⟩ := healthy.pending other pending
    exact ⟨sent, underway.later later rfl underway.armed
      (underway.flying.stay rfl (fun _ _ _ _ => id) fun _ _ => id)⟩

/-- The end goes from a phase in which it sends nothing to another one. -/
theorem rephase_healthy {phase : Phase} (healthy : Healthy times delay st)
    (free : ∀ since frame more, (st.ends side).phase ≠ .sending since frame more)
    (alive : phase ≠ .exited)
    (armed : ∀ deadline begun, phase = .reading deadline begun →
      st.clock + times.interval ≤ deadline ∨
        ∃ before, (st.ends side).phase = .reading deadline before) :
    Healthy times delay (st.put side { st.ends side with phase := phase }) := by
  have stay : ∀ {other sent}, Flying delay st other sent →
      Flying delay (st.put side { st.ends side with phase := phase }) other sent := by
    intro other sent flying
    refine flying.stay ?_ (fun role since frame more here => ?_) fun role entry => ?_
    · rcases eq_or_other side other with rfl | rfl <;> simp
    · rcases eq_or_other side role with rfl | rfl
      · exact absurd here (free since frame more)
      · simpa using here
    · rcases eq_or_other side role with rfl | rfl <;> simp
  constructor
  · exact both_ends side (by simpa using alive) (by simpa using healthy.alive side.other)
  · exact both_ends side (by simpa using healthy.whole side)
      (by simpa using healthy.whole side.other)
  · intro other pending
    have ping : ((st.put side { st.ends side with phase := phase }).ends other).ping =
        (st.ends other).ping := by rcases eq_or_other side other with rfl | rfl <;> simp
    obtain ⟨sent, underway⟩ := healthy.pending other (by rwa [ping] at pending)
    refine ⟨sent, underway.later (Nat.le_refl _) ping ?_ (stay underway.flying)⟩
    rcases eq_or_other side other with rfl | rfl
    · intro deadline begun here
      rcases armed deadline begun (by simpa using here) with fresh | ⟨before, same⟩
      · exact (Nat.add_le_add_right underway.past _).trans fresh
      · exact underway.armed deadline before same
    · simpa using underway.armed

theorem submit_healthy {replies : Nat} (healthy : Healthy times delay st) :
    Healthy times delay (st.send side st.clock (.other replies)) := by
  constructor
  · exact both_ends side (by simpa using healthy.alive side)
      (by simpa using healthy.alive side.other)
  · exact both_ends side (by simpa using healthy.whole side)
      (by simpa using healthy.whole side.other)
  · intro other pending
    have same : ((st.send side st.clock (.other replies)).ends other).ping = (st.ends other).ping ∧
        ((st.send side st.clock (.other replies)).ends other).phase = (st.ends other).phase := by
      rcases eq_or_other side other with rfl | rfl <;> simp
    obtain ⟨sent, underway⟩ := healthy.pending other (by rwa [same.1] at pending)
    refine ⟨sent, underway.later (Nat.le_refl _) same.1 (by rw [same.2]; exact underway.armed)
      (underway.flying.stay same.1 (fun role since frame more here => ?_)
        fun role entry member => ?_)⟩
    · rcases eq_or_other side role with rfl | rfl <;> simpa using here
    · rcases eq_or_other side role with rfl | rfl <;> simp [member]

/-- What the end was sending is on its way now, since the same time. -/
theorem enqueue_healthy {since more : Nat} {frame : Frame} (healthy : Healthy times delay st)
    (here : (st.ends side).phase = .sending since frame more) :
    Healthy times delay
      ((st.put side { st.ends side with phase := onward st.clock more }).send
        side since frame) := by
  constructor
  · exact both_ends side (by simpa using (onward_between _ _).alive)
      (by simpa using healthy.alive side.other)
  · exact both_ends side (by simpa using healthy.whole side)
      (by simpa using healthy.whole side.other)
  · refine both_ends side (fun pending => ?_) fun pending => ?_
    · obtain ⟨sent, underway⟩ := healthy.pending side (by simpa using pending)
      refine ⟨sent, underway.later (Nat.le_refl _) (by simp) (fun deadline begun reading => ?_) ?_⟩
      · exact absurd (by simpa using reading) ((onward_between _ _).unarmed deadline begun)
      cases underway.flying with
      | asking _ asking =>
          rw [here] at asking
          obtain ⟨rfl, rfl, -⟩ := Phase.sending.inj asking
          exact .asked (by simp)
      | asked there => exact .asked (by simp [there])
      | answering answered rest soon there =>
          exact .answering answered rest soon (by simpa using there)
      | answered answered soon there => exact .answered answered soon (by simpa using there)
    · obtain ⟨sent, underway⟩ := healthy.pending side.other (by simpa using pending)
      refine ⟨sent, underway.later (Nat.le_refl _) (by simp) (by simpa using underway.armed) ?_⟩
      cases underway.flying with
      | asking rest asking => exact .asking rest (by simpa using asking)
      | asked there => exact .asked (by simpa using there)
      | answering answered _ soon there =>
          rw [Role.other_other, here] at there
          obtain ⟨rfl, rfl, -⟩ := Phase.sending.inj there
          exact .answered since soon (by simp)
      | answered answered soon there => exact .answered answered soon (by simp [there])

/-- A PING that has been read is answered, in time. -/
theorem read_theirs {deadline submitted : Nat} {begun : Bool} {frame : Frame}
    {rest : List (Nat × Frame)} (underway : Underway times delay st side.other sent)
    (here : (st.ends side).phase = .reading deadline begun)
    (wire : (st.ends side).wire = (submitted, frame) :: rest)
    (fresh : st.clock ≤ submitted + delay) :
    Underway times delay (dispatch st side frame rest) side.other sent := by
  refine underway.later (Nat.le_refl _) (by simp [dispatch])
    (by simpa [dispatch] using underway.armed) ?_
  cases underway.flying with
  | asking more asking => exact .asking more (by simpa [dispatch] using asking)
  | asked there =>
      rw [Role.other_other, wire, List.mem_cons] at there
      rcases there with head | inside
      · obtain ⟨rfl, rfl⟩ := Prod.mk.inj head
        exact .answering st.clock 0 fresh (by simp [dispatch, answer])
      · exact .asked (by simpa [dispatch] using inside)
  | answering since more soon there =>
      rw [Role.other_other, here] at there
      cases there
  | answered since soon there => exact .answered since soon (by simpa [dispatch] using there)

/-- A PING that stays outstanding was not answered by what was read. -/
theorem acknowledged_pending {ping : FrameLoop.Ping} {frame : Frame}
    (pending : (acknowledged ping frame).pending = true) :
    acknowledged ping frame = ping ∧ frame ≠ .ping true ping.data := by
  unfold acknowledged at pending ⊢
  split at pending
  · rename_i data
    unfold handlePingAck at pending ⊢
    split at pending
    · cases pending
    · rename_i unanswered
      refine ⟨if_neg unanswered, fun same => unanswered ⟨pending, ?_⟩⟩
      injection same with _ same
      exact same.symm
  · simp
  · simp

theorem read_mine {deadline submitted : Nat} {begun : Bool} {frame : Frame}
    {rest : List (Nat × Frame)} (underway : Underway times delay st side sent)
    (here : (st.ends side).phase = .reading deadline begun)
    (wire : (st.ends side).wire = (submitted, frame) :: rest)
    (same : acknowledged (st.ends side).ping frame = (st.ends side).ping)
    (other : frame ≠ .ping true (st.ends side).ping.data) :
    Underway times delay (dispatch st side frame rest) side sent := by
  have ping : ((dispatch st side frame rest).ends side).ping = (st.ends side).ping := by
    simpa [dispatch] using same
  refine underway.later (Nat.le_refl _) ping
    (fun deadline begun reading => absurd (by simpa [dispatch] using reading)
      ((answer_between _ frame).unarmed deadline begun)) ?_
  cases underway.flying with
  | asking more asking =>
      rw [here] at asking
      cases asking
  | asked there => exact .asked (by rw [ping]; simpa [dispatch] using there)
  | answering since more soon there =>
      exact .answering since more soon (by rw [ping]; simpa [dispatch] using there)
  | answered since soon there =>
      rw [wire, List.mem_cons] at there
      have inside := there.resolve_left fun head => other (Prod.mk.inj head).2.symm
      exact .answered since soon (by rw [ping]; simpa [dispatch] using inside)

theorem read_healthy {deadline submitted : Nat} {begun : Bool} {frame : Frame}
    {rest : List (Nat × Frame)} (healthy : Healthy times delay st)
    (here : (st.ends side).phase = .reading deadline begun)
    (wire : (st.ends side).wire = (submitted, frame) :: rest)
    (fresh : st.clock ≤ submitted + delay) :
    Healthy times delay (dispatch st side frame rest) := by
  constructor
  · exact both_ends side (by simpa [dispatch] using (answer_between _ frame).alive)
      (by simpa [dispatch] using healthy.alive side.other)
  · exact both_ends side (by simpa [dispatch] using healthy.whole side)
      (by simpa [dispatch] using healthy.whole side.other)
  · refine both_ends side (fun pending => ?_) fun pending => ?_
    · obtain ⟨same, other⟩ := acknowledged_pending (by simpa [dispatch] using pending)
      obtain ⟨sent, underway⟩ := healthy.pending side
        (by simpa [dispatch, same] using pending)
      exact ⟨sent, read_mine underway here wire same other⟩
    · obtain ⟨sent, underway⟩ := healthy.pending side.other (by simpa [dispatch] using pending)
      exact ⟨sent, read_theirs underway here wire fresh⟩

/-- While a PING is outstanding the clock is at most two delays ahead of it. -/
theorem Underway.young (underway : Underway times delay st side sent)
    (fresh : ∀ side, (st.ends side).Fresh delay st.clock) : st.clock ≤ sent + 2 * delay := by
  cases underway.flying with
  | asking more here =>
      have recent := (fresh side).2
      simp only [here] at recent
      omega
  | asked there =>
      have recent := (fresh side.other).1 _ there
      simp only at recent
      omega
  | answering since more soon there =>
      have recent := (fresh side.other).2
      simp only [there] at recent
      omega
  | answered since soon here =>
      have recent := (fresh side).1 _ here
      simp only at recent
      omega

/-- The peer's PING, when the read of the end comes to its deadline. -/
theorem tick_theirs {deadline : Nat} {begun : Bool} {ping : FrameLoop.Ping} {phase : Phase}
    (underway : Underway times delay st side.other sent)
    (here : (st.ends side).phase = .reading deadline begun) :
    Underway times delay (st.put side { st.ends side with ping := ping, phase := phase })
      side.other sent := by
  refine underway.later (Nat.le_refl _) (by simp) (by simpa using underway.armed) ?_
  cases underway.flying with
  | asking more asking => exact .asking more (by simpa using asking)
  | asked there => exact .asked (by simpa using there)
  | answering since more soon there =>
      rw [Role.other_other, here] at there
      cases there
  | answered since soon there => exact .answered since soon (by simpa using there)

theorem tick_healthy {deadline : Nat} {begun : Bool}
    (fast : 2 * delay < times.interval ∨ 2 * delay ≤ times.timeout)
    (healthy : Healthy times delay st) (fresh : ∀ side, (st.ends side).Fresh delay st.clock)
    (here : (st.ends side).phase = .reading deadline begun) (passed : deadline ≤ st.clock) :
    Healthy times delay (tick times st side (st.ends side)) := by
  cases outstanding : (st.ends side).ping.pending with
  | true =>
      obtain ⟨sent, underway⟩ := healthy.pending side outstanding
      have young := underway.young fresh
      have armed := underway.armed deadline begun here
      have intime : ¬ (st.ends side).ping.deadline < st.clock := by
        rw [underway.deadline]
        omega
      simp only [tick, sendOrCheckPing, outstanding, intime, if_true, if_false]
      exact rephase_healthy healthy (by simp [here]) (by simp) (by simp)
  | false =>
      simp only [tick, sendOrCheckPing, outstanding, Bool.false_eq_true, if_false]
      constructor
      · exact both_ends side (by simp) (by simpa using healthy.alive side.other)
      · exact both_ends side (by simpa using healthy.whole side)
          (by simpa using healthy.whole side.other)
      · refine both_ends side (fun pending => ?_) fun pending => ?_
        · exact ⟨st.clock, by simp, by simp, by simp, .asking 0 (by simp)⟩
        · obtain ⟨sent, underway⟩ := healthy.pending side.other (by simpa using pending)
          exact ⟨sent, tick_theirs underway here⟩

theorem acted_healthy {move : Move} (fast : 2 * delay < times.interval ∨ 2 * delay ≤ times.timeout)
    (healthy : Healthy times delay st) (fresh : ∀ side, (st.ends side).Fresh delay st.clock)
    (whole : (st.ends side).Whole move) (acted : Acted times st side move next) :
    Healthy times delay next := by
  cases acted with
  | arm since here => exact rephase_healthy healthy (by simp [here]) (by simp) (by simp)
  | begin deadline begun here =>
      exact rephase_healthy healthy (by simp [here]) (by simp) fun _ _ same =>
        .inr ⟨begun, by simp_all⟩
  | read deadline begun here submitted frame rest wire =>
      exact read_healthy healthy here wire ((fresh side).1 (submitted, frame) (by simp [wire]))
  | misread _ _ _ _ cut =>
      rw [healthy.whole side] at cut
      cases cut
  | expire deadline begun here passed =>
      simp only [End.Whole, here] at whole
      have uncut : { st.ends side with cut := (st.ends side).cut || begun } = st.ends side := by
        simp [whole]
      rw [uncut]
      exact tick_healthy fast healthy fresh here passed
  | enqueue since frame more here => exact enqueue_healthy healthy here
  | submit replies => exact submit_healthy healthy
  | leave free => exact rephase_healthy healthy free (by simp) (by simp)

theorem step_healthy {action : Action}
    (fast : 2 * delay < times.interval ∨ 2 * delay ≤ times.timeout)
    (healthy : Healthy times delay st) (prompt : Prompt delay st action)
    (stepped : step times st action = some next) : Healthy times delay next := by
  unfold step at stepped
  split at stepped
  · rename_i later
    exact acted_healthy fast (clock_healthy healthy later) prompt.fresh prompt.2.2
      (act_acted stepped)
  · cases stepped

end Steps

/-- Where no frame is under way for half of `PingInterval`, or for longer than half of
`PingTimeout`, and no deadline falls inside a frame, neither end ever takes the other for dead. -/
theorem prompt_link_stays_up (times : Times) (delay : Nat)
    (fast : 2 * delay < times.interval ∨ 2 * delay ≤ times.timeout) (trace : List Action)
    (last : State) (prompt : Guarded (step times) (Prompt delay) State.new trace)
    (ran : run (step times) State.new trace = some last) :
    ∀ side, (last.ends side).phase ≠ .exited := by
  have healthy : Healthy times delay last :=
    run_invariant (fun _ _ _ healthy prompt stepped => step_healthy fast healthy prompt stepped)
      (healthy_new times delay) prompt ran
  exact healthy.alive

/-- The durations of the source, in seconds. -/
def seconds : Times := ⟨30, 15⟩

/-- Both ends find the other silent at once; the answers wait for room in the queues and take
longer than `PingTimeout`. -/
def crossedPings : List Action :=
  [⟨.worker, 0, .arm⟩, ⟨.proxy, 1, .arm⟩, ⟨.worker, 30, .expire⟩, ⟨.worker, 30, .enqueue⟩,
    ⟨.proxy, 31, .expire⟩, ⟨.proxy, 31, .enqueue⟩, ⟨.worker, 31, .arm⟩, ⟨.proxy, 32, .arm⟩,
    ⟨.proxy, 43, .begin⟩, ⟨.proxy, 44, .read⟩, ⟨.worker, 45, .read⟩, ⟨.worker, 46, .enqueue⟩,
    ⟨.proxy, 47, .enqueue⟩, ⟨.proxy, 47, .arm⟩, ⟨.worker, 47, .arm⟩, ⟨.worker, 58, .read⟩,
    ⟨.proxy, 59, .read⟩]

theorem prompt_link_stays_up_crossedPings : ∃ last,
    run (step seconds) State.new crossedPings = some last ∧
      (last.ends .worker).ping.counter = 1 ∧ (last.ends .proxy).ping.counter = 1 ∧
      ∀ side, (last.ends side).phase ≠ .exited := by
  have ends : (run (step seconds) State.new crossedPings).map
      (fun st => ((st.ends .worker).ping.counter, (st.ends .proxy).ping.counter)) =
      some (1, 1) := by decide +kernel
  obtain ⟨last, ran, outcome⟩ := Option.map_eq_some_iff.mp ends
  obtain ⟨worker, proxy⟩ := Prod.mk.inj outcome
  exact ⟨last, ran, worker, proxy, prompt_link_stays_up seconds 14 (.inl (by decide)) crossedPings
    last (by decide +kernel) ran⟩

/-! A peer that is gone. -/

/-- What the end does of its own accord at the latest `slack` after it could: come back to its
read, come out of it at the deadline, get its frame into the queue. -/
def Punctual (side : Role) (slack : Nat) (st : State) (action : Action) : Prop :=
  match (st.ends side).phase with
  | .arming since | .sending since _ _ => action.now ≤ since + slack
  | .reading deadline _ => action.now ≤ deadline + slack
  | .exited | .left => True

instance decidablePunctual (side : Role) (slack : Nat) (st : State) (action : Action) :
    Decidable (Punctual side slack st action) := by
  unfold Punctual
  split <;> infer_instance

/-- A frame is read, or the loop ends for another reason. -/
def Move.ends : Move → Bool
  | .read | .misread _ | .leave => true
  | .arm | .begin | .expire | .enqueue | .submit _ => false

/-- The end reads no frame, whole or not, and goes on watching. -/
def Deserted (side : Role) (slack : Nat) (st : State) (action : Action) : Prop :=
  (action.side = side → action.move.ends = false) ∧ Punctual side slack st action

instance decidableDeserted (side : Role) (slack : Nat) (st : State) (action : Action) :
    Decidable (Deserted side slack st action) := by
  unfold Deserted
  infer_instance

section Watches

variable {times : Times} {st next : State} {side : Role} {move : Move}

end Watches

/-- No deadline is further away than a loop can have set it. -/
structure Sane (times : Times) (side : Role) (st : State) : Prop where
  arming : ∀ since, (st.ends side).phase = .arming since → since ≤ st.clock
  sending : ∀ since frame more, (st.ends side).phase = .sending since frame more →
    since ≤ st.clock
  deadline : ∀ deadline begun, (st.ends side).phase = .reading deadline begun →
    deadline ≤ st.clock + times.interval
  pending : (st.ends side).ping.pending = true →
    (st.ends side).ping.deadline ≤ st.clock + times.timeout

/-- The latest time at which the read of the end comes to its deadline. -/
def Phase.due (times : Times) (slack : Nat) : Phase → Nat
  | .arming since => since + times.interval + 2 * slack
  | .sending since _ more => since + times.interval + (3 + more) * slack
  | .reading deadline _ => deadline + slack
  | .exited | .left => 0

/-- What an end still has to submit before it comes back to its read. -/
def Phase.more : Phase → Nat
  | .sending _ _ more => more
  | .arming _ | .reading _ _ | .exited | .left => 0

/-- The end has read nothing since `start`: it has not sent its PING yet and is about to, until
`first`, or it waits for the answer. -/
def Silent (times : Times) (slack start first : Nat) (side : Role) (st : State) : Prop :=
  let e := st.ends side
  e.phase = .exited ∨ (e.phase ≠ .left ∧
    (st.clock ≤ start ∨ st.clock ≤ e.phase.due times slack) ∧
    if e.ping.pending then
      e.ping.deadline ≤ first + times.timeout ∧ (e.phase.due times slack ≤ first ∨
        e.phase.due times slack ≤ e.ping.deadline + times.interval + 3 * slack)
    else e.phase.due times slack ≤ first)

section Silent

variable {times : Times} {slack start first : Nat} {side : Role} {st next : State} {action : Action}

theorem Sane.silent (sane : Sane times side st) (stays : (st.ends side).phase ≠ .left) :
    Silent times slack st.clock
      (st.clock + times.interval + (3 + (st.ends side).phase.more) * slack) side st := by
  by_cases gone : (st.ends side).phase = .exited
  · exact .inl gone
  · have soon : (st.ends side).phase.due times slack ≤
        st.clock + times.interval + (3 + (st.ends side).phase.more) * slack := by
      cases here : (st.ends side).phase with
      | arming since =>
          have := sane.arming since here
          simp only [Phase.due, Phase.more]
          omega
      | sending since frame more =>
          have := sane.sending since frame more here
          simp only [Phase.due, Phase.more]
          omega
      | reading deadline begun =>
          have := sane.deadline deadline begun here
          simp only [Phase.due, Phase.more]
          omega
      | exited | left => exact Nat.zero_le _
    refine .inr ⟨stays, .inl (Nat.le_refl _), ?_⟩
    split
    · have := sane.pending ‹_›
      exact ⟨by omega, .inl soon⟩
    · exact soon

theorem Punctual.due (punctual : Punctual side slack st action)
    (alive : (st.ends side).phase ≠ .exited) (stays : (st.ends side).phase ≠ .left) :
    action.now ≤ (st.ends side).phase.due times slack := by
  unfold Punctual at punctual
  cases here : (st.ends side).phase with
  | arming since =>
      simp only [here] at punctual
      simp only [Phase.due]
      omega
  | sending since frame more =>
      simp only [here] at punctual
      simp only [Phase.due, Nat.add_mul]
      omega
  | reading deadline begun =>
      simp only [here] at punctual
      exact punctual
  | exited => exact absurd here alive
  | left => exact absurd here stays

/-- The PING stays as it is, and the read comes to its deadline no later. -/
theorem Silent.keep (silent : Silent times slack start first side st)
    (alive : (st.ends side).phase ≠ .exited) (stays : (next.ends side).phase ≠ .left)
    (clock : next.clock ≤ (next.ends side).phase.due times slack)
    (ping : (next.ends side).ping = (st.ends side).ping)
    (sooner : (next.ends side).phase.due times slack ≤ (st.ends side).phase.due times slack) :
    Silent times slack start first side next := by
  obtain ⟨-, -, bounds⟩ := silent.resolve_left alive
  refine .inr ⟨stays, .inr clock, ?_⟩
  rw [ping]
  split at bounds
  · rename_i pending
    rw [if_pos pending]
    exact ⟨bounds.1, bounds.2.imp sooner.trans sooner.trans⟩
  · rename_i idle
    rw [if_neg idle]
    exact sooner.trans bounds

end Silent

end ReverseHttp.Watchdog
