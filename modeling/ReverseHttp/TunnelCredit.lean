import ReverseHttp.Flow
import Mathlib.Algebra.BigOperators.Group.List.Basic
import Mathlib.Tactic.Common

/-!
Flow-control credit in one direction of a tunnel: the sender's `SendCredit` and
frame reader, the receiver's `HandleInboundData`, and the two FIFO channels
between them, each a write queue followed by the transport. The receiver's
submissions and the sender's lookup and addition are steps of their own.

A stream's send window lives in a pooled object that is handed to another stream
after `Release`. A stream's writers are done with the object by then. A stream is
registered at the receiver before any of its DATA is handled, since its HEADERS
come first; `missed` is an id for which that can no longer be. What the DATA does
to the body queue is left to `BodyQueue`.
-/

namespace ReverseHttp.TunnelCredit

open Transition MachineInt Flow

/-- A DATA frame by the sizes of its parts. -/
structure Data where
  stream : Nat
  data : Nat
  padding : Option Nat
  endStream : Bool
  deriving DecidableEq, Repr

/-- The frame header's Length: a padded payload has its pad-length byte too. -/
def Data.flowLen (frame : Data) : Nat :=
  match frame.padding with
  | none => frame.data
  | some padding => 1 + frame.data + padding

/-- Stream 0 is the connection. -/
inductive Out where
  | windowUpdate (stream increment : Nat)
  | rstStream (stream : Nat)
  deriving DecidableEq, Repr

/-- What `HandleInboundData` submits, in order; `found` is its lookup's answer. -/
def handleInboundData (found : Bool) (frame : Data) : List Out :=
  (if 0 < frame.flowLen then
    .windowUpdate 0 frame.flowLen ::
      (if found then [.windowUpdate frame.stream frame.flowLen] else [])
  else []) ++
  (if found then []
  else if 0 < frame.flowLen then [.rstStream frame.stream] else [])

structure Reserved where
  stream : Nat
  amount : Nat
  deriving DecidableEq, Repr

inductive Phase where
  | absent
  | acquired
  | registered
  | removed
  | released
  deriving DecidableEq, Repr

structure Stream where
  phase : Phase
  object : Nat
  deriving DecidableEq, Repr

inductive Remote where
  | unopened
  | registered
  | removed
  | missed
  deriving DecidableEq, Repr

/-- The sender's frame reader between reading a WINDOW_UPDATE and its addition. -/
inductive Reader where
  | idle
  | conn (increment : Nat)
  | stream (id object increment : Nat)
  deriving DecidableEq, Repr

/-- `windows` and `owner` are by object; `todo` is what the receiver's frame reader
has still to submit for the DATA frame in its hands. -/
structure State where
  credit : SendCredit
  windows : Nat → Int32
  owner : Nat → Option Nat
  streams : Nat → Stream
  reserved : List Reserved
  downstream : List Data
  remote : Nat → Remote
  todo : List Out
  upstream : List Out
  reader : Reader

def State.new : State :=
  { credit := SendCredit.new
    windows := fun _ => 0
    owner := fun _ => none
    streams := fun _ => { phase := .absent, object := 0 }
    reserved := []
    downstream := []
    remote := fun _ => .unopened
    todo := []
    upstream := []
    reader := .idle }

inductive Action where
  | acquire (stream object : Nat)
  | addStream (stream : Nat)
  | removeStream (stream : Nat)
  | release (stream : Nat)
  | reserve (stream : Nat) (want : Int32)
  | sendData (frame : Data)
  | sendEmpty (stream : Nat) (endStream : Bool)
  | openRemote (stream : Nat)
  | removeRemote (stream : Nat)
  | receiveData
  | submit
  | readUpdate
  | applyUpdate
  | markDead
  deriving DecidableEq

def Phase.holding : Phase → Bool
  | .acquired | .registered | .removed => true
  | .absent | .released => false

/-- Writers run once the stream is registered. -/
def Phase.writes : Phase → Bool
  | .registered | .removed => true
  | .absent | .acquired | .released => false

def State.putStream (st : State) (s : Nat) (stream : Stream) : State :=
  { st with streams := Function.update st.streams s stream }

def State.window (st : State) (s : Nat) : Int32 := st.windows (st.streams s).object

/-- `HandleWindowUpdate` up to the addition. -/
def State.lookUp (st : State) : Out → Reader
  | .windowUpdate 0 increment => .conn increment
  | .windowUpdate (s + 1) increment =>
      if (st.streams (s + 1)).phase = .registered then
        .stream (s + 1) (st.streams (s + 1)).object increment
      else .idle
  | .rstStream _ => .idle

def State.read (st : State) (out : Out) (rest : List Out) : State :=
  { st with upstream := rest, reader := st.lookUp out }

def State.addConn (st : State) (increment : Nat) : State :=
  { st with credit := Flow.addConn st.credit (Int32.ofNat increment), reader := .idle }

def State.addStream (st : State) (o increment : Nat) : State :=
  { st with
    windows := Function.update st.windows o
      (Flow.addStream (st.windows o) (Int32.ofNat increment))
    reader := .idle }

/-- The receiver's frame reader takes up a DATA frame. -/
def State.receive (st : State) (frame : Data) (rest : List Data) : State :=
  { st with
    downstream := rest
    todo := handleInboundData (st.remote frame.stream = .registered) frame
    remote :=
      if st.remote frame.stream = .unopened then
        Function.update st.remote frame.stream .missed
      else st.remote }

def step (st : State) : Action → Option State
  | .acquire s o =>
      if s ≠ 0 ∧ (st.streams s).phase = .absent ∧ st.owner o = none then
        some { st.putStream s { phase := .acquired, object := o } with
          windows := Function.update st.windows o (initialStreamWindow st.credit)
          owner := Function.update st.owner o (some s) }
      else none
  | .addStream s =>
      if (st.streams s).phase = .acquired then
        some (st.putStream s { st.streams s with phase := .registered })
      else none
  | .removeStream s =>
      if (st.streams s).phase = .registered then
        some (st.putStream s { st.streams s with phase := .removed })
      else none
  | .release s =>
      if (st.streams s).phase = .removed then
        some { st.putStream s { st.streams s with phase := .released } with
          owner := Function.update st.owner (st.streams s).object none }
      else none
  -- a writer that parks evaluates `Reserve` again later, as a step of its own
  | .reserve s want =>
      if (st.streams s).phase.writes then
        match Flow.reserve st.credit (st.window s) want with
        | .parked => none
        | .returned got _ credit window =>
            some { st with
              credit := credit
              windows := Function.update st.windows (st.streams s).object window
              reserved := { stream := s, amount := got.toInt.toNat } :: st.reserved }
      else none
  -- each DATA frame spends one reservation, padding included
  | .sendData frame =>
      if { stream := frame.stream, amount := frame.flowLen } ∈ st.reserved then
        some { st with
          reserved := st.reserved.erase { stream := frame.stream, amount := frame.flowLen }
          downstream := st.downstream ++ [frame] }
      else none
  | .sendEmpty s endStream =>
      if (st.streams s).phase.writes then
        some { st with downstream := st.downstream ++
          [{ stream := s, data := 0, padding := none, endStream := endStream }] }
      else none
  | .openRemote s =>
      if st.remote s = .unopened then
        some { st with remote := Function.update st.remote s .registered }
      else none
  | .removeRemote s =>
      if st.remote s = .registered then
        some { st with remote := Function.update st.remote s .removed }
      else none
  | .receiveData =>
      match st.todo, st.downstream with
      | [], frame :: rest => some (st.receive frame rest)
      | _, _ => none
  | .submit =>
      match st.todo with
      | [] => none
      | out :: rest => some { st with todo := rest, upstream := st.upstream ++ [out] }
  | .readUpdate =>
      match st.reader, st.upstream with
      | .idle, out :: rest => some (st.read out rest)
      | _, _ => none
  | .applyUpdate =>
      match st.reader with
      | .idle => none
      | .conn increment => some (st.addConn increment)
      -- the object, not the stream it was looked up for
      | .stream _ o increment => some (st.addStream o increment)
  | .markDead => some { st with credit := Flow.markDead st.credit }

/-! The ledger. A level is the connection or one of its streams. -/

inductive Level where
  | conn
  | stream (id : Nat)
  deriving DecidableEq, Repr

def Level.id : Level → Nat
  | .conn => 0
  | .stream s => s

/-- DATA of stream `s` is charged to the level. -/
def Level.charges : Level → Nat → Bool
  | .conn, _ => true
  | .stream id, s => s = id

def Reserved.charge (level : Level) (reserved : Reserved) : Nat :=
  if level.charges reserved.stream then reserved.amount else 0

def Data.charge (level : Level) (frame : Data) : Nat :=
  if level.charges frame.stream then frame.flowLen else 0

def Out.credit (level : Level) : Out → Nat
  | .windowUpdate s increment => if s = level.id then increment else 0
  | .rstStream _ => 0

def Reader.credit (level : Level) : Reader → Nat
  | .idle => 0
  | .conn increment => if level.id = 0 then increment else 0
  | .stream s _ increment => if s = level.id then increment else 0

/-- Reserved and not sent, in flight as DATA, and on the way back as credit. -/
def State.owed (level : Level) (st : State) : Nat :=
  (st.reserved.map (Reserved.charge level)).sum + (st.downstream.map (Data.charge level)).sum +
    (st.todo.map (Out.credit level)).sum + (st.upstream.map (Out.credit level)).sum +
    st.reader.credit level

def ConnBalanced (st : State) : Prop :=
  st.credit.connSendWindow.toInt + st.owed .conn = 65535

def StreamBalanced (st : State) (s : Nat) : Prop :=
  (st.window s).toInt + st.owed (.stream s) = 65535

instance (st : State) (s : Nat) : Decidable (StreamBalanced st s) :=
  inferInstanceAs (Decidable (_ = _))

def StreamsBalanced (st : State) : Prop :=
  ∀ s, (st.streams s).phase = .registered → st.remote s = .registered → StreamBalanced st s

def Out.Positive : Out → Prop
  | .windowUpdate _ increment => 0 < increment
  | .rstStream _ => True

/-- Every WINDOW_UPDATE submitted, or about to be, has an increment. -/
def NoZeroIncrement (st : State) : Prop := ∀ out ∈ st.todo ++ st.upstream, out.Positive

/-- No object is acquired that the frame reader still has in its hands. -/
def Unheld (st : State) : Action → Prop
  | .acquire _ o =>
      match st.reader with
      | .stream _ held _ => held ≠ o
      | _ => True
  | _ => True

instance (st : State) (action : Action) : Decidable (Unheld st action) := by
  unfold Unheld
  split
  · split <;> infer_instance
  · infer_instance

theorem connCredit_handle {frame : Data} (found : Bool) (proper : frame.stream ≠ 0) :
    ((handleInboundData found frame).map (Out.credit .conn)).sum = frame.flowLen := by
  by_cases empty : 0 < frame.flowLen
  · cases found <;> simp [handleInboundData, empty, Out.credit, Level.id, proper]
  · cases found <;> simp [handleInboundData, empty] <;> omega

theorem streamCredit_handle {frame : Data} (found : Bool) {s : Nat} (proper : s ≠ 0) :
    ((handleInboundData found frame).map (Out.credit (.stream s))).sum =
      if found = true ∧ frame.stream = s then frame.flowLen else 0 := by
  by_cases empty : 0 < frame.flowLen
  · cases found with
    | false => simp [handleInboundData, empty, Out.credit, Level.id, proper.symm]
    | true =>
        by_cases same : frame.stream = s <;>
          simp [handleInboundData, empty, Out.credit, Level.id, proper.symm, same]
  · have zero : frame.flowLen = 0 := by omega
    cases found <;> simp [handleInboundData, zero]

theorem positive_handle (found : Bool) (frame : Data) :
    ∀ out ∈ handleInboundData found frame, out.Positive := by
  intro out member
  by_cases empty : 0 < frame.flowLen
  · cases found <;> simp [handleInboundData, empty] at member
    · rcases member with rfl | rfl
      · exact empty
      · trivial
    · rcases member with rfl | rfl <;> exact empty
  · cases found <;> simp [handleInboundData, empty] at member

/-- What holds at the connection in every run. -/
structure ConnValid (st : State) : Prop where
  balanced : ConnBalanced st
  window : 0 ≤ st.credit.connSendWindow.toInt
  positive : NoZeroIncrement st
  zero : (st.streams 0).phase = .absent
  reserved : ∀ r ∈ st.reserved, r.stream ≠ 0
  downstream : ∀ frame ∈ st.downstream, frame.stream ≠ 0
  reader : ∀ s o increment, st.reader = .stream s o increment → s ≠ 0

theorem connValid_new : ConnValid State.new := by
  constructor <;> simp [State.new, NoZeroIncrement, ConnBalanced, State.owed, SendCredit.new,
    defaultInitialWindow, Reader.credit]

section Steps

variable {st next : State}

theorem ofNat_exact {amount : Nat} (small : amount ≤ 65535) :
    (Int32.ofNat amount).toInt = amount :=
  Int32.toInt_ofNat_of_lt (by omega)

/-- A window that takes back part of what it is owed keeps its exact value. -/
theorem add_owed {window : Int32} {amount owed : Nat} (covered : amount ≤ owed)
    (balanced : window.toInt + owed = 65535) (low : 0 ≤ window.toInt) :
    (window + Int32.ofNat amount).toInt = window.toInt + amount := by
  have exact : (Int32.ofNat amount).toInt = amount := ofNat_exact (by omega)
  rw [add_exact, exact]
  exact ⟨by omega, by omega⟩

/-- A window that pays for a grant. -/
theorem pay {window got : Int32} (positive : 0 < got) (within : got ≤ window) :
    (window - got).toInt + got.toInt.toNat = window.toInt ∧ 0 ≤ (window - got).toInt := by
  rw [Int32.lt_iff_toInt_lt, Int32.toInt_zero] at positive
  rw [Int32.le_iff_toInt_le] at within
  have high := Int32.toInt_lt window
  have exact := sub_exact (a := window) (b := got) ⟨by omega, by omega⟩
  omega

/-- Both windows pay for what `Reserve` returns. -/
theorem reserve_pays {credit sc : SendCredit} {streamWindow want got window : Int32} {dead : Bool}
    (returned : Flow.reserve sc streamWindow want = .returned got dead credit window) :
    (credit.connSendWindow.toInt + got.toInt.toNat = sc.connSendWindow.toInt ∧
      (0 ≤ sc.connSendWindow.toInt → 0 ≤ credit.connSendWindow.toInt)) ∧
    credit.peerInitWindow = sc.peerInitWindow ∧
    window.toInt + got.toInt.toNat = streamWindow.toInt ∧
      (0 ≤ streamWindow.toInt → 0 ≤ window.toInt) := by
  rcases reserve_cases returned with
    ⟨rfl, rfl, rfl, _⟩ | ⟨positive, _, fromStream, fromConn, _, rfl, rfl⟩
  · simp
  · have conn := pay positive fromConn
    have stream := pay positive fromStream
    exact ⟨⟨conn.1, fun _ => conn.2⟩, rfl, stream.1, fun _ => stream.2⟩

/-! What each step does to a level's ledger. -/

section Ledger

variable (level : Level) {frame : Data} {out : Out}

theorem owed_reserve (reserved : Reserved) (credit : SendCredit) (windows : Nat → Int32) :
    State.owed level { st with
      credit := credit, windows := windows, reserved := reserved :: st.reserved } =
      st.owed level + reserved.charge level := by
  simp only [State.owed, List.map_cons, List.sum_cons]
  omega

theorem owed_sendData (member : ⟨frame.stream, frame.flowLen⟩ ∈ st.reserved) :
    State.owed level { st with
      reserved := st.reserved.erase ⟨frame.stream, frame.flowLen⟩
      downstream := st.downstream ++ [frame] } = st.owed level := by
  have same : Reserved.charge level ⟨frame.stream, frame.flowLen⟩ = frame.charge level := rfl
  have moved := List.sum_map_erase (Reserved.charge level) member
  simp only [State.owed, List.map_append, List.map_singleton, List.sum_append, List.sum_singleton]
  omega

theorem owed_sendEmpty (empty : frame.flowLen = 0) :
    State.owed level { st with downstream := st.downstream ++ [frame] } = st.owed level := by
  have free : frame.charge level = 0 := by simp [Data.charge, empty]
  simp only [State.owed, List.map_append, List.map_singleton, List.sum_append, List.sum_singleton,
    free]
  omega

theorem owed_receive {rest : List Data} (idle : st.todo = [])
    (arrived : st.downstream = frame :: rest) :
    (st.receive frame rest).owed level + frame.charge level = st.owed level +
      ((handleInboundData (st.remote frame.stream = .registered) frame).map
        (Out.credit level)).sum := by
  simp only [State.owed, State.receive, idle, arrived, List.map_cons, List.sum_cons, List.map_nil,
    List.sum_nil]
  omega

theorem owed_submit {rest : List Out} (pending : st.todo = out :: rest) :
    State.owed level { st with todo := rest, upstream := st.upstream ++ [out] } =
      st.owed level := by
  simp only [State.owed, pending, List.map_cons, List.sum_cons, List.map_append, List.map_nil,
    List.sum_append, List.sum_nil]
  omega

theorem owed_read {rest : List Out} (idle : st.reader = .idle)
    (arrived : st.upstream = out :: rest) :
    (st.read out rest).owed level + out.credit level =
      st.owed level + (st.lookUp out).credit level := by
  simp only [State.owed, State.read, idle, arrived, List.map_cons, List.sum_cons, Reader.credit]
  omega

theorem owed_addConn (st : State) (increment : Nat) :
    (st.addConn increment).owed level + st.reader.credit level = st.owed level := by
  simp only [State.owed, State.addConn, Reader.credit]
  omega

theorem owed_addStream (st : State) (o increment : Nat) :
    (st.addStream o increment).owed level + st.reader.credit level = st.owed level := by
  simp only [State.owed, State.addStream, Reader.credit]
  omega

end Ledger

theorem ConnValid.named (valid : ConnValid st) {s : Nat} (there : (st.streams s).phase ≠ .absent) :
    s ≠ 0 := by
  rintro rfl
  exact there valid.zero

/-- A stream moves and the ledger does not. -/
theorem ConnValid.putStream (valid : ConnValid st) {s : Nat} (named : s ≠ 0) (stream : Stream) :
    ConnValid (st.putStream s stream) := by
  refine ⟨valid.balanced, valid.window, valid.positive, ?_, valid.reserved, valid.downstream,
    valid.reader⟩
  simpa [State.putStream, Function.update_of_ne named.symm] using valid.zero

theorem writes_present {phase : Phase} (writes : phase.writes = true) : phase ≠ .absent := by
  rintro rfl
  cases writes

theorem reserve_conn {s : Nat} {want : Int32} (valid : ConnValid st)
    (stepped : step st (.reserve s want) = some next) : ConnValid next := by
  simp only [step, Option.ite_none_right_eq_some] at stepped
  obtain ⟨writes, stepped⟩ := stepped
  have named := valid.named (writes_present writes)
  split at stepped
  next => cases stepped
  next got dead credit window returned =>
    obtain rfl := Option.some.inj stepped
    obtain ⟨⟨paid, low⟩, _⟩ := reserve_pays returned
    have balanced := valid.balanced
    refine ⟨?_, low valid.window, valid.positive, valid.zero, ?_, valid.downstream, valid.reader⟩
    · rw [ConnBalanced, owed_reserve]
      rw [ConnBalanced] at balanced
      simp only [Reserved.charge, Level.charges, ↓reduceIte]
      omega
    · exact List.forall_mem_cons.mpr ⟨named, valid.reserved⟩

theorem sendData_conn {frame : Data} (valid : ConnValid st)
    (stepped : step st (.sendData frame) = some next) : ConnValid next := by
  obtain ⟨member, rfl⟩ := enabled stepped
  have balanced := valid.balanced
  refine ⟨?_, valid.window, valid.positive, valid.zero, ?_, ?_, valid.reader⟩
  · rw [ConnBalanced, owed_sendData _ member]
    exact valid.balanced
  · exact fun r inner => valid.reserved r (List.mem_of_mem_erase inner)
  · exact List.forall_mem_append.mpr
      ⟨valid.downstream, List.forall_mem_singleton.mpr (valid.reserved _ member)⟩

theorem sendEmpty_conn {s : Nat} {endStream : Bool} (valid : ConnValid st)
    (stepped : step st (.sendEmpty s endStream) = some next) : ConnValid next := by
  obtain ⟨writes, rfl⟩ := enabled stepped
  have named := valid.named (writes_present writes)
  refine ⟨?_, valid.window, valid.positive, valid.zero, valid.reserved, ?_, valid.reader⟩
  · rw [ConnBalanced, owed_sendEmpty _ rfl]
    exact valid.balanced
  · exact List.forall_mem_append.mpr ⟨valid.downstream, List.forall_mem_singleton.mpr named⟩

theorem receiveData_conn (valid : ConnValid st) (stepped : step st .receiveData = some next) :
    ConnValid next := by
  simp only [step] at stepped
  split at stepped
  next frame rest idle arrived =>
    obtain rfl := Option.some.inj stepped
    have proper := valid.downstream frame (by simp [arrived])
    have balanced := valid.balanced
    have moved := owed_receive .conn idle arrived
    rw [connCredit_handle _ proper] at moved
    refine ⟨?_, valid.window, ?_, valid.zero, valid.reserved, ?_, valid.reader⟩
    · simp only [ConnBalanced, Data.charge, Level.charges, ↓reduceIte] at balanced moved ⊢
      have same : (st.receive frame rest).owed .conn = st.owed .conn := by omega
      rw [same]
      exact balanced
    · refine List.forall_mem_append.mpr ⟨positive_handle _ frame, ?_⟩
      exact fun out member => valid.positive out (List.mem_append_right _ member)
    · exact fun other inner => valid.downstream other (arrived ▸ List.mem_cons_of_mem frame inner)
  next => cases stepped

theorem submit_conn (valid : ConnValid st) (stepped : step st .submit = some next) :
    ConnValid next := by
  simp only [step] at stepped
  split at stepped
  next => cases stepped
  next out rest pending =>
    obtain rfl := Option.some.inj stepped
    refine ⟨?_, valid.window, ?_, valid.zero, valid.reserved, valid.downstream, valid.reader⟩
    · rw [ConnBalanced, owed_submit _ pending]
      exact valid.balanced
    · intro other member
      refine valid.positive other ?_
      simp only [pending, List.mem_append, List.mem_cons] at member ⊢
      tauto

theorem lookUp_conn (st : State) (out : Out) : (st.lookUp out).credit .conn = out.credit .conn := by
  cases out with
  | windowUpdate s increment =>
      cases s with
      | zero => rfl
      | succ s =>
          simp only [State.lookUp]
          split <;> simp [Reader.credit, Out.credit, Level.id]
  | rstStream s => rfl

theorem readUpdate_conn (valid : ConnValid st) (stepped : step st .readUpdate = some next) :
    ConnValid next := by
  simp only [step] at stepped
  split at stepped
  next out rest idle arrived =>
    obtain rfl := Option.some.inj stepped
    have balanced := valid.balanced
    have moved := owed_read .conn idle arrived
    rw [lookUp_conn] at moved
    refine ⟨?_, valid.window, ?_, valid.zero, valid.reserved, valid.downstream, ?_⟩
    · rwa [ConnBalanced, Nat.add_right_cancel moved]
    · intro other member
      refine valid.positive other (List.mem_append.mpr ?_)
      rw [arrived]
      exact (List.mem_append.mp member).imp_right (List.mem_cons_of_mem out)
    · intro s o increment reading
      cases out with
      | windowUpdate t amount =>
          cases t with
          | zero => cases reading
          | succ t =>
              simp only [State.read, State.lookUp] at reading
              split at reading
              · cases reading
                exact Nat.succ_ne_zero t
              · cases reading
      | rstStream t => cases reading
  next => cases stepped

theorem applyUpdate_conn (valid : ConnValid st) (stepped : step st .applyUpdate = some next) :
    ConnValid next := by
  have balanced := valid.balanced
  simp only [step] at stepped
  split at stepped
  next => cases stepped
  next increment reading =>
    obtain rfl := Option.some.inj stepped
    have moved := owed_addConn .conn st increment
    simp only [reading, Reader.credit, Level.id, ↓reduceIte] at moved
    rw [ConnBalanced] at balanced
    have exact := add_owed (by omega : increment ≤ st.owed .conn) balanced valid.window
    have low := valid.window
    refine ⟨?_, ?_, valid.positive, valid.zero, valid.reserved, valid.downstream, nofun⟩
    · rw [ConnBalanced]
      simp only [State.addConn, Flow.addConn] at moved ⊢
      omega
    · simp only [State.addConn, Flow.addConn]
      omega
  next s o increment reading =>
    obtain rfl := Option.some.inj stepped
    have named := valid.reader s o increment reading
    have moved := owed_addStream .conn st o increment
    simp only [reading, Reader.credit, Level.id, named, ↓reduceIte, Nat.add_zero] at moved
    refine ⟨?_, valid.window, valid.positive, valid.zero, valid.reserved, valid.downstream, nofun⟩
    rw [ConnBalanced, moved]
    exact balanced

theorem step_conn {action : Action} (valid : ConnValid st)
    (stepped : step st action = some next) : ConnValid next := by
  cases action with
  | acquire s o =>
      obtain ⟨⟨named, _⟩, rfl⟩ := enabled stepped
      have put := valid.putStream named { phase := .acquired, object := o }
      exact ⟨put.balanced, put.window, put.positive, put.zero, put.reserved, put.downstream,
        put.reader⟩
  | addStream s =>
      obtain ⟨here, rfl⟩ := enabled stepped
      exact valid.putStream (valid.named (by simp [here])) _
  | removeStream s =>
      obtain ⟨here, rfl⟩ := enabled stepped
      exact valid.putStream (valid.named (by simp [here])) _
  | release s =>
      obtain ⟨here, rfl⟩ := enabled stepped
      have named : s ≠ 0 := valid.named (by simp [here])
      have put := valid.putStream named { st.streams s with phase := .released }
      exact ⟨put.balanced, put.window, put.positive, put.zero, put.reserved, put.downstream,
        put.reader⟩
  | reserve s want => exact reserve_conn valid stepped
  | sendData frame => exact sendData_conn valid stepped
  | sendEmpty s endStream => exact sendEmpty_conn valid stepped
  | openRemote s =>
      obtain ⟨_, rfl⟩ := enabled stepped
      exact ⟨valid.balanced, valid.window, valid.positive, valid.zero, valid.reserved,
        valid.downstream, valid.reader⟩
  | removeRemote s =>
      obtain ⟨_, rfl⟩ := enabled stepped
      exact ⟨valid.balanced, valid.window, valid.positive, valid.zero, valid.reserved,
        valid.downstream, valid.reader⟩
  | receiveData => exact receiveData_conn valid stepped
  | submit => exact submit_conn valid stepped
  | readUpdate => exact readUpdate_conn valid stepped
  | applyUpdate => exact applyUpdate_conn valid stepped
  | markDead =>
      obtain rfl := Option.some.inj stepped
      exact ⟨valid.balanced, valid.window, valid.positive, valid.zero, valid.reserved,
        valid.downstream, valid.reader⟩

/-- The receiver has lost none of the stream's DATA, and the sender none of its credit. -/
def Tracked (st : State) (s : Nat) : Prop :=
  ((st.streams s).phase = .acquired ∨ (st.streams s).phase = .registered) ∧
    (st.remote s = .registered ∨ st.remote s = .unopened)

/-- Nothing was written on the stream yet. -/
def Fresh (st : State) (s : Nat) : Prop :=
  (st.streams s).phase = .absent ∨ (st.streams s).phase = .acquired

/-- What holds of the streams as long as no held object is acquired. -/
structure StreamValid (st : State) : Prop where
  initial : st.credit.peerInitWindow = defaultInitialWindow
  holds : ∀ s, (st.streams s).phase.holding = true → st.owner (st.streams s).object = some s
  clean : ∀ s, s ≠ 0 → Fresh st s → st.owed (.stream s) = 0
  reader : ∀ t o increment, st.reader = .stream t o increment →
    (st.streams t).phase ≠ .absent ∧ (st.streams t).object = o ∧
      (st.owner o = some t ∨ st.owner o = none)
  balanced : ∀ s, Tracked st s → 0 ≤ (st.window s).toInt ∧ StreamBalanced st s

theorem streamValid_new : StreamValid State.new := by
  refine ⟨rfl, ?_, ?_, ?_, ?_⟩
  · exact nofun
  · exact fun s _ _ => rfl
  · exact nofun
  · rintro s ⟨impossible | impossible, _⟩ <;> cases impossible

theorem Tracked.holding {s : Nat} (tracked : Tracked st s) :
    (st.streams s).phase.holding = true := by
  rcases tracked.1 with here | here <;> rw [here] <;> rfl

/-- Two streams that hold objects hold different ones. -/
theorem StreamValid.apart (valid : StreamValid st) {s t : Nat} (different : s ≠ t)
    (first : (st.streams s).phase.holding = true) (second : (st.streams t).phase.holding = true) :
    (st.streams s).object ≠ (st.streams t).object := by
  intro same
  have owner := valid.holds s first
  rw [same, valid.holds t second] at owner
  exact different (Option.some.inj owner).symm

/-- Bytes move from one place of the ledger to the next. -/
theorem StreamValid.moved (valid : StreamValid st) (credit : next.credit = st.credit)
    (windows : next.windows = st.windows) (owner : next.owner = st.owner)
    (streams : next.streams = st.streams) (remote : next.remote = st.remote)
    (reader : next.reader = st.reader)
    (owed : ∀ s, next.owed (.stream s) = st.owed (.stream s)) : StreamValid next := by
  refine ⟨?_, ?_, ?_, ?_, ?_⟩
  · rw [credit]
    exact valid.initial
  · rw [streams, owner]
    exact valid.holds
  · intro s named fresh
    rw [Fresh, streams] at fresh
    rw [owed]
    exact valid.clean s named fresh
  · rw [reader, streams, owner]
    exact valid.reader
  · intro s tracked
    rw [Tracked, streams, remote] at tracked
    rw [StreamBalanced, owed, State.window, windows, streams]
    exact valid.balanced s tracked

theorem acquire_stream {s o : Nat} (valid : StreamValid st)
    (unheld : Unheld st (.acquire s o)) (stepped : step st (.acquire s o) = some next) :
    StreamValid next := by
  obtain ⟨⟨named, absent, free⟩, rfl⟩ := enabled stepped
  have apart : ∀ t, (st.streams t).phase.holding = true → (st.streams t).object ≠ o := by
    intro t holding same
    have owner := valid.holds t holding
    rw [same, free] at owner
    cases owner
  refine ⟨valid.initial, ?_, ?_, ?_, ?_⟩
  · intro t holding
    by_cases here : t = s
    · subst here
      simp [State.putStream]
    · simp only [State.putStream, Function.update_of_ne here] at holding ⊢
      rw [Function.update_of_ne (apart t holding)]
      exact valid.holds t holding
  · intro t other fresh
    by_cases here : t = s
    · subst here
      exact valid.clean t other (.inl absent)
    · simp only [Fresh, State.putStream, Function.update_of_ne here] at fresh
      exact valid.clean t other fresh
  · intro t held increment (reading : st.reader = .stream t held increment)
    obtain ⟨present, object, owner⟩ := valid.reader t held increment reading
    have here : t ≠ s := by
      rintro rfl
      exact present absent
    have different : held ≠ o := by
      simpa only [Unheld, reading] using unheld
    simp only [State.putStream, Function.update_of_ne here, Function.update_of_ne different]
    exact ⟨present, object, owner⟩
  · intro t tracked
    by_cases here : t = s
    · subst here
      have window : State.window { st.putStream t { phase := .acquired, object := o } with
          windows := Function.update st.windows o (initialStreamWindow st.credit)
          owner := Function.update st.owner o (some t) } t = 65535 := by
        simp [State.window, State.putStream, initialStreamWindow, valid.initial,
          defaultInitialWindow]
      have clean := valid.clean t named (.inl absent)
      rw [StreamBalanced, window]
      change _ ∧ _ + ((st.owed (.stream t) : Nat) : Int) = _
      rw [clean]
      decide
    · simp only [Tracked, State.putStream, Function.update_of_ne here] at tracked
      have different := apart t (Tracked.holding tracked)
      simp only [StreamBalanced, State.window, State.putStream, Function.update_of_ne here,
        Function.update_of_ne different]
      exact valid.balanced t tracked

/-- A stream's owner moves on, and at the end gives the object back. -/
theorem phase_stream {s : Nat} (valid : StreamValid st) {phase : Phase} {owner : Nat → Option Nat}
    (present : phase ≠ .absent) (later : phase ≠ .acquired)
    (tracked : phase = .registered → (st.streams s).phase = .acquired)
    (self : phase.holding = true → owner (st.streams s).object = some s)
    (others : ∀ t, t ≠ s → (st.streams t).phase.holding = true →
      owner (st.streams t).object = some t)
    (freed : ∀ o, owner o = st.owner o ∨ owner o = none) :
    StreamValid { st.putStream s { st.streams s with phase := phase } with owner := owner } := by
  have objects : ∀ t, (Function.update st.streams s { st.streams s with phase := phase } t).object =
      (st.streams t).object := by
    intro t
    by_cases here : t = s
    · subst here
      rw [Function.update_self]
    · rw [Function.update_of_ne here]
  refine ⟨valid.initial, ?_, ?_, ?_, ?_⟩
  · intro t held
    simp only [State.putStream] at held ⊢
    rw [objects]
    by_cases here : t = s
    · subst here
      rw [Function.update_self] at held
      exact self held
    · rw [Function.update_of_ne here] at held
      exact others t here held
  · intro t named fresh
    by_cases here : t = s
    · subst here
      simp only [Fresh, State.putStream, Function.update_self] at fresh
      exact (fresh.elim present later).elim
    · simp only [Fresh, State.putStream, Function.update_of_ne here] at fresh
      exact valid.clean t named fresh
  · intro t o increment reading
    obtain ⟨there, object, owned⟩ := valid.reader t o increment reading
    refine ⟨?_, (objects t).trans object, ?_⟩
    · by_cases here : t = s
      · subst here
        simpa only [State.putStream, Function.update_self] using present
      · simpa only [State.putStream, Function.update_of_ne here] using there
    · rcases freed o with same | gone
      · rwa [← same] at owned
      · exact .inr gone
  · intro t held
    have before : Tracked st t := by
      refine ⟨?_, held.2⟩
      by_cases here : t = s
      · subst here
        have phases := held.1
        simp only [State.putStream, Function.update_self] at phases
        exact .inl (tracked (phases.resolve_left later))
      · simpa only [State.putStream, Function.update_of_ne here] using held.1
    simp only [StreamBalanced, State.window, State.putStream, objects]
    exact valid.balanced t before

theorem addStream_stream {s : Nat} (valid : StreamValid st)
    (stepped : step st (.addStream s) = some next) : StreamValid next := by
  obtain ⟨here, rfl⟩ := enabled stepped
  exact phase_stream valid nofun nofun (fun _ => here) (fun _ => valid.holds s (by rw [here]; rfl))
    (fun t _ => valid.holds t) fun _ => .inl rfl

theorem removeStream_stream {s : Nat} (valid : StreamValid st)
    (stepped : step st (.removeStream s) = some next) : StreamValid next := by
  obtain ⟨here, rfl⟩ := enabled stepped
  exact phase_stream valid nofun nofun nofun (fun _ => valid.holds s (by rw [here]; rfl))
    (fun t _ => valid.holds t) fun _ => .inl rfl

theorem release_stream {s : Nat} (valid : StreamValid st)
    (stepped : step st (.release s) = some next) : StreamValid next := by
  obtain ⟨here, rfl⟩ := enabled stepped
  refine phase_stream valid nofun nofun nofun nofun ?_ ?_
  · intro t different holding
    have apart := valid.apart different holding (by rw [here]; rfl)
    rw [Function.update_of_ne apart]
    exact valid.holds t holding
  · intro o
    by_cases mine : o = (st.streams s).object
    · subst mine
      exact .inr (Function.update_self ..)
    · exact .inl (Function.update_of_ne mine ..)

theorem Fresh.silent {s : Nat} (fresh : Fresh st s) : (st.streams s).phase.writes = false := by
  rcases fresh with phase | phase <;> rw [phase] <;> rfl

theorem writes_holding {phase : Phase} (writes : phase.writes = true) : phase.holding = true := by
  cases phase with
  | absent | acquired | released => cases writes
  | registered | removed => rfl

theorem reserve_stream {s : Nat} {want : Int32} (valid : StreamValid st)
    (stepped : step st (.reserve s want) = some next) : StreamValid next := by
  simp only [step, Option.ite_none_right_eq_some] at stepped
  obtain ⟨writes, stepped⟩ := stepped
  split at stepped
  next => cases stepped
  next got dead credit window returned =>
    obtain rfl := Option.some.inj stepped
    obtain ⟨_, initial, paid, low⟩ := reserve_pays returned
    have elsewhere : ∀ t, t ≠ s → Reserved.charge (.stream t) ⟨s, got.toInt.toNat⟩ = 0 := by
      intro t different
      simp [Reserved.charge, Level.charges, different.symm]
    refine ⟨initial.trans valid.initial, valid.holds, ?_, valid.reader, ?_⟩
    · intro t named (fresh : Fresh st t)
      have different : t ≠ s := by
        rintro rfl
        cases fresh.silent.symm.trans writes
      rw [owed_reserve, elsewhere t different]
      exact valid.clean t named fresh
    · intro t tracked
      obtain ⟨nonneg, balanced⟩ := valid.balanced t tracked
      rw [StreamBalanced] at balanced
      rw [StreamBalanced, owed_reserve]
      by_cases here : t = s
      · subst here
        have charge : Reserved.charge (.stream t) ⟨t, got.toInt.toNat⟩ = got.toInt.toNat := by
          simp only [Reserved.charge, Level.charges, decide_true, ↓reduceIte]
        rw [charge]
        simp only [State.window, Function.update_self] at *
        exact ⟨low nonneg, by omega⟩
      · have apart := valid.apart here tracked.holding (writes_holding writes)
        rw [elsewhere t here]
        simp only [State.window, Function.update_of_ne apart] at *
        exact ⟨nonneg, balanced⟩

theorem Tracked.named {s : Nat} (conn : ConnValid st) (tracked : Tracked st s) : s ≠ 0 := by
  refine conn.named fun absent => ?_
  rcases tracked.1 with phase | phase <;> simp [phase] at absent

/-- DATA for a stream that stays tracked was taken up with the stream registered. -/
theorem tracked_receive {frame : Data} {rest : List Data} {s : Nat}
    (tracked : Tracked (st.receive frame rest) s) :
    Tracked st s ∧ (frame.stream = s → st.remote s = .registered) := by
  obtain ⟨phase, remote⟩ := tracked
  simp only [State.receive] at remote
  split at remote
  next unopened =>
    have different : s ≠ frame.stream := by
      rintro rfl
      simp at remote
    rw [Function.update_of_ne different] at remote
    exact ⟨⟨phase, remote⟩, fun same => absurd same.symm different⟩
  next opened =>
    refine ⟨⟨phase, remote⟩, fun same => remote.resolve_right fun unopened => ?_⟩
    exact opened (same ▸ unopened)

theorem receiveData_stream (conn : ConnValid st) (valid : StreamValid st)
    (stepped : step st .receiveData = some next) : StreamValid next := by
  simp only [step] at stepped
  split at stepped
  next frame rest idle arrived =>
    obtain rfl := Option.some.inj stepped
    have owed : ∀ s, s ≠ 0 → (st.receive frame rest).owed (.stream s) +
        frame.charge (.stream s) = st.owed (.stream s) +
        if decide (st.remote frame.stream = .registered) = true ∧ frame.stream = s then
          frame.flowLen else 0 := by
      intro s named
      rw [owed_receive _ idle arrived, streamCredit_handle _ named]
    refine ⟨valid.initial, valid.holds, ?_, valid.reader, ?_⟩
    · intro s named fresh
      have moved := owed s named
      have clean := valid.clean s named fresh
      simp only [Data.charge, Level.charges, decide_eq_true_eq] at moved
      split at moved <;> split at moved <;> omega
    · intro s tracked
      obtain ⟨before, registered⟩ := tracked_receive tracked
      have moved := owed s (before.named conn)
      have same : (st.receive frame rest).owed (.stream s) = st.owed (.stream s) := by
        by_cases mine : frame.stream = s
        · subst mine
          simpa [Data.charge, Level.charges, registered rfl] using moved
        · simpa [Data.charge, Level.charges, mine] using moved
      obtain ⟨nonneg, balanced⟩ := valid.balanced s before
      refine ⟨nonneg, ?_⟩
      rw [StreamBalanced, same]
      exact balanced
  next => cases stepped

theorem remote_stream {s : Nat} (valid : StreamValid st) {remote : Remote}
    (known : remote = .registered → st.remote s = .unopened) (opened : remote ≠ .unopened) :
    StreamValid { st with remote := Function.update st.remote s remote } := by
  refine ⟨valid.initial, valid.holds, valid.clean, valid.reader, fun t tracked => ?_⟩
  refine valid.balanced t ⟨tracked.1, ?_⟩
  have now := tracked.2
  dsimp only at now
  by_cases here : t = s
  · subst here
    rw [Function.update_self] at now
    exact .inr (known (now.resolve_right opened))
  · rwa [Function.update_of_ne here] at now

theorem submit_stream (valid : StreamValid st) (stepped : step st .submit = some next) :
    StreamValid next := by
  simp only [step] at stepped
  split at stepped
  next => cases stepped
  next out rest pending =>
    obtain rfl := Option.some.inj stepped
    exact valid.moved rfl rfl rfl rfl rfl rfl fun s => owed_submit _ pending

theorem lookUp_stream (st : State) (out : Out) {s : Nat} (named : s ≠ 0) :
    (st.lookUp out).credit (.stream s) =
      if (st.streams s).phase = .registered then out.credit (.stream s) else 0 := by
  cases out with
  | windowUpdate t increment =>
      cases t with
      | zero => simp [State.lookUp, Reader.credit, Out.credit, Level.id, named, named.symm]
      | succ t =>
          by_cases mine : t + 1 = s
          · subst mine
            simp only [State.lookUp, Out.credit, Level.id]
            split <;> simp [Reader.credit, Level.id]
          · simp only [State.lookUp, Out.credit, Level.id, mine]
            split <;> simp [Reader.credit, Level.id, mine]
  | rstStream t => simp [State.lookUp, Reader.credit, Out.credit]

theorem lookUp_found {out : Out} {t o increment : Nat}
    (found : st.lookUp out = .stream t o increment) :
    (st.streams t).phase = .registered ∧ (st.streams t).object = o := by
  cases out with
  | windowUpdate id amount =>
      cases id with
      | zero => cases found
      | succ id =>
          simp only [State.lookUp] at found
          split at found
          next registered =>
            cases found
            exact ⟨registered, rfl⟩
          next => cases found
  | rstStream id => cases found

theorem readUpdate_stream (conn : ConnValid st) (valid : StreamValid st)
    (stepped : step st .readUpdate = some next) : StreamValid next := by
  simp only [step] at stepped
  split at stepped
  next out rest idle arrived =>
    obtain rfl := Option.some.inj stepped
    have owed : ∀ s, s ≠ 0 → (st.read out rest).owed (.stream s) + out.credit (.stream s) =
        st.owed (.stream s) +
          if (st.streams s).phase = .registered then out.credit (.stream s) else 0 := by
      intro s named
      rw [owed_read _ idle arrived, lookUp_stream st out named]
    have clean : ∀ s, s ≠ 0 → Fresh st s → (st.read out rest).owed (.stream s) = 0 := by
      intro s named fresh
      have moved := owed s named
      rw [valid.clean s named fresh] at moved
      split at moved <;> omega
    refine ⟨valid.initial, valid.holds, clean, ?_, ?_⟩
    · intro t o increment reading
      obtain ⟨registered, object⟩ := lookUp_found reading
      refine ⟨by simp [State.read, registered], object, .inl ?_⟩
      rw [← object]
      exact valid.holds t (by rw [registered]; rfl)
    · intro s (tracked : Tracked st s)
      obtain ⟨nonneg, balanced⟩ := valid.balanced s tracked
      have named := tracked.named conn
      have same : (st.read out rest).owed (.stream s) = st.owed (.stream s) := by
        rcases tracked.1 with acquired | registered
        · rw [clean s named (.inr acquired), valid.clean s named (.inr acquired)]
        · have moved := owed s named
          rw [if_pos registered] at moved
          exact Nat.add_right_cancel moved
      refine ⟨nonneg, ?_⟩
      rw [StreamBalanced, same]
      exact balanced
  next => cases stepped

theorem addConn_stream (conn : ConnValid st) (valid : StreamValid st) {increment : Nat}
    (reading : st.reader = .conn increment) : StreamValid (st.addConn increment) := by
  have owed : ∀ s, s ≠ 0 → (st.addConn increment).owed (.stream s) = st.owed (.stream s) := by
    intro s named
    have moved := owed_addConn (.stream s) st increment
    simpa [reading, Reader.credit, Level.id, named] using moved
  refine ⟨valid.initial, valid.holds, ?_, nofun, ?_⟩
  · intro s named fresh
    rw [owed s named]
    exact valid.clean s named fresh
  · intro s (tracked : Tracked st s)
    rw [StreamBalanced, owed s (tracked.named conn)]
    exact valid.balanced s tracked

theorem addStream_owned (valid : StreamValid st) {t o increment : Nat}
    (reading : st.reader = .stream t o increment) : StreamValid (st.addStream o increment) := by
  obtain ⟨_, object, owner⟩ := valid.reader t o increment reading
  have owed : ∀ s, (st.addStream o increment).owed (.stream s) +
      (if t = s then increment else 0) = st.owed (.stream s) := by
    intro s
    have moved := owed_addStream (.stream s) st o increment
    rwa [reading] at moved
  refine ⟨valid.initial, valid.holds, ?_, nofun, ?_⟩
  · intro s named fresh
    have moved := owed s
    rw [valid.clean s named fresh] at moved
    omega
  · intro s (tracked : Tracked st s)
    obtain ⟨nonneg, balanced⟩ := valid.balanced s tracked
    have moved := owed s
    by_cases mine : t = s
    · subst mine object
      rw [if_pos rfl] at moved
      rw [StreamBalanced] at balanced
      have exact := add_owed (by omega : increment ≤ st.owed (.stream t)) balanced nonneg
      rw [StreamBalanced]
      simp only [State.window, State.addStream, Flow.addStream, Function.update_self] at *
      omega
    · -- whoever else is tracked holds another object
      have apart : (st.streams s).object ≠ o := by
        intro same
        have holder := valid.holds s tracked.holding
        rw [same] at holder
        rcases owner with owned | free
        · exact mine (Option.some.inj (owned.symm.trans holder))
        · cases free.symm.trans holder
      rw [if_neg mine, Nat.add_zero] at moved
      rw [StreamBalanced, moved]
      simp only [State.window, State.addStream, Function.update_of_ne apart]
      exact ⟨nonneg, balanced⟩

theorem applyUpdate_stream (conn : ConnValid st) (valid : StreamValid st)
    (stepped : step st .applyUpdate = some next) : StreamValid next := by
  simp only [step] at stepped
  split at stepped
  next => cases stepped
  next increment reading =>
    obtain rfl := Option.some.inj stepped
    exact addConn_stream conn valid reading
  next t o increment reading =>
    obtain rfl := Option.some.inj stepped
    exact addStream_owned valid reading

theorem step_stream {action : Action} (conn : ConnValid st) (valid : StreamValid st)
    (unheld : Unheld st action) (stepped : step st action = some next) : StreamValid next := by
  cases action with
  | acquire s o => exact acquire_stream valid unheld stepped
  | addStream s => exact addStream_stream valid stepped
  | removeStream s => exact removeStream_stream valid stepped
  | release s => exact release_stream valid stepped
  | reserve s want => exact reserve_stream valid stepped
  | sendData frame =>
      obtain ⟨member, rfl⟩ := enabled stepped
      exact valid.moved rfl rfl rfl rfl rfl rfl fun s => owed_sendData _ member
  | sendEmpty s endStream =>
      obtain ⟨_, rfl⟩ := enabled stepped
      exact valid.moved rfl rfl rfl rfl rfl rfl fun s => owed_sendEmpty _ rfl
  | openRemote s =>
      obtain ⟨unopened, rfl⟩ := enabled stepped
      exact remote_stream valid (fun _ => unopened) nofun
  | removeRemote s =>
      obtain ⟨_, rfl⟩ := enabled stepped
      exact remote_stream valid nofun nofun
  | receiveData => exact receiveData_stream conn valid stepped
  | submit => exact submit_stream valid stepped
  | readUpdate => exact readUpdate_stream conn valid stepped
  | applyUpdate => exact applyUpdate_stream conn valid stepped
  | markDead =>
      obtain rfl := Option.some.inj stepped
      exact ⟨valid.initial, valid.holds, valid.clean, valid.reader, valid.balanced⟩

structure Valid (st : State) : Prop where
  conn : ConnValid st
  streams : StreamValid st

theorem step_valid {action : Action} (valid : Valid st) (unheld : Unheld st action)
    (stepped : step st action = some next) : Valid next :=
  ⟨step_conn valid.conn stepped, step_stream valid.conn valid.streams unheld stepped⟩

end Steps

/-- The connection's credit balances in every run; the streams' do as long as no object
is acquired that the frame reader has looked up and not let go of. -/
theorem tunnel_credit_conserved {trace : List Action} {last : State}
    (ran : run step State.new trace = some last) :
    ConnBalanced last ∧ NoZeroIncrement last ∧
      (Guarded step Unheld State.new trace → StreamsBalanced last) := by
  have conn : ConnValid last :=
    run_invariant_all (fun _ _ _ valid stepped => step_conn valid stepped) connValid_new ran
  refine ⟨conn.balanced, conn.positive, fun unheld s registered remote => ?_⟩
  have valid : Valid last :=
    run_invariant (fun _ _ _ valid unheld stepped => step_valid valid unheld stepped)
      ⟨connValid_new, streamValid_new⟩ unheld ran
  exact (valid.streams.balanced s ⟨.inr registered, .inl remote⟩).2

/-- A WINDOW_UPDATE for stream 1 is looked up; the stream ends and its object goes to
stream 3 before the addition. -/
def recycled : List Action :=
  [.acquire 1 0, .addStream 1, .openRemote 1, .reserve 1 100,
    .sendData ⟨1, 100, none, true⟩, .receiveData, .submit, .submit, .readUpdate, .applyUpdate,
    .readUpdate, .removeStream 1, .release 1, .acquire 3 0, .addStream 3, .openRemote 3,
    .applyUpdate]

theorem recycled_window_mints_credit :
    ¬ ∀ trace last, run step State.new trace = some last →
      ConnBalanced last ∧ NoZeroIncrement last ∧ StreamsBalanced last := by
  intro always
  have ran : (run step State.new recycled).map (fun last =>
      ((last.streams 3).phase, last.remote 3, decide (StreamBalanced last 3))) =
      some (.registered, .registered, false) := by
    decide
  obtain ⟨last, reached, shape⟩ := Option.map_eq_some_iff.mp ran
  simp only [Prod.mk.injEq] at shape
  obtain ⟨registered, remote, unbalanced⟩ := shape
  exact of_decide_eq_false unbalanced ((always _ last reached).2.2 3 registered remote)

/-- A padded frame, one for a stream the receiver has just removed, an empty END_STREAM,
and an object that goes to a second stream. -/
def mixed : List Action :=
  [.acquire 1 0, .addStream 1, .openRemote 1, .reserve 1 100, .sendData ⟨1, 89, some 10, false⟩,
    .receiveData, .submit, .submit, .readUpdate, .applyUpdate, .readUpdate, .applyUpdate,
    .reserve 1 40, .sendData ⟨1, 40, none, false⟩, .removeRemote 1, .receiveData, .submit,
    .submit, .sendEmpty 1 true, .removeStream 1, .release 1, .acquire 3 0, .addStream 3,
    .openRemote 3, .readUpdate, .applyUpdate, .readUpdate, .receiveData, .reserve 3 7]

theorem tunnel_credit_conserved_mixed :
    ∃ last, run step State.new mixed = some last ∧ Guarded step Unheld State.new mixed ∧
      (last.streams 3).phase = .registered ∧ last.remote 3 = .registered ∧
      ConnBalanced last ∧ NoZeroIncrement last ∧ StreamsBalanced last := by
  have ran : (run step State.new mixed).map (fun last =>
      ((last.streams 3).phase, last.remote 3)) = some (.registered, .registered) := by
    decide
  obtain ⟨last, reached, shape⟩ := Option.map_eq_some_iff.mp ran
  have unheld : Guarded step Unheld State.new mixed := by decide
  simp only [Prod.mk.injEq] at shape
  obtain ⟨conn, positive, streams⟩ := tunnel_credit_conserved reached
  exact ⟨last, reached, unheld, shape.1, shape.2, conn, positive, streams unheld⟩

end ReverseHttp.TunnelCredit
