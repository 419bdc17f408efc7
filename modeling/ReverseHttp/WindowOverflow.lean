import ReverseHttp.Flow
import ReverseHttp.Wire

/-!
The send windows under the frames of the peer. `exact` carries the same windows as
integers; no machine operation reads them. An entry of a SETTINGS frame is an action of
its own, since `ApplyInitialWindowDelta` takes the lock once for each. A stream's window
is set up together with its registration.
-/

namespace ReverseHttp.WindowOverflow

open Transition MachineInt Flow Wire

/-- The windows over the integers. -/
structure Windows where
  conn : Int
  init : Int
  stream : Nat → Int

structure Conn where
  credit : SendCredit
  window : Nat → Int32
  streams : List Nat
  ended : Option H2Error
  exact : Windows

def Conn.new : Conn :=
  { credit := SendCredit.new, window := fun _ => 0, streams := [], ended := none
    exact := ⟨65535, 65535, fun _ => 0⟩ }

inductive Action where
  | windowUpdate (id increment : Nat)
  | initialWindowSize (val : Nat)
  | reserve (id : Nat) (want : Int32)
  | openStream (id : Nat)
  | removeStream (id : Nat)
  deriving DecidableEq

/-- `HandleWindowUpdate`: the frame for an unknown stream is ignored. -/
def handleWindowUpdate (c : Conn) (id increment : Nat) : Conn :=
  if id = 0 then
    { c with
      credit := addConn c.credit (Int32.ofNat increment)
      exact := { c.exact with conn := c.exact.conn + increment } }
  else if id ∈ c.streams then
    { c with
      window := Function.update c.window id (addStream (c.window id) (Int32.ofNat increment))
      exact := { c.exact with
        stream := Function.update c.exact.stream id (c.exact.stream id + increment) } }
  else c

/-- The INITIAL_WINDOW_SIZE case of `ApplyPeerSettings`. -/
def applyInitialWindowSize (c : Conn) (val : Nat) : Except H2Error Conn :=
  if 2147483647 < val then .error .badSettings
  else
    let applied := applyInitialWindowDelta c.credit (Int32.ofNat val) c.window c.streams
    .ok { c with
      credit := applied.1
      window := applied.2
      exact := { c.exact with
        init := val
        stream := fun id => c.exact.stream id + (val - c.exact.init) } }

/-- The frame loop reads on until a frame is an error. -/
def step (c : Conn) : Action → Option Conn
  | .windowUpdate id increment =>
      if c.ended = none then some (handleWindowUpdate c id increment) else none
  | .initialWindowSize val =>
      if c.ended = none then
        match applyInitialWindowSize c val with
        | .ok next => some next
        | .error err => some { c with ended := some err }
      else none
  | .reserve id want =>
      match Flow.reserve c.credit (c.window id) want with
      | .parked => none
      | .returned got _ credit window =>
          some { c with
            credit := credit
            window := Function.update c.window id window
            exact := { c.exact with
              conn := c.exact.conn - got.toInt
              stream := Function.update c.exact.stream id (c.exact.stream id - got.toInt) } }
  | .openStream id =>
      if id ∈ c.streams then none
      else some { c with
        window := Function.update c.window id (initialStreamWindow c.credit)
        streams := id :: c.streams
        exact := { c.exact with
          stream := Function.update c.exact.stream id c.exact.init } }
  | .removeStream id => some { c with streams := c.streams.erase id }

/-- What a peer can put into the two frames. -/
def Legal : Action → Prop
  | .windowUpdate _ increment => 1 ≤ increment ∧ increment ≤ 2147483647
  | .initialWindowSize val => val ≤ 2147483647
  | _ => True

/-- The frame raises no exact window above 2^31-1. -/
def Fits (c : Conn) : Action → Prop
  | .windowUpdate id increment =>
      (id = 0 → c.exact.conn + increment ≤ 2147483647) ∧
      (id ∈ c.streams → c.exact.stream id + increment ≤ 2147483647)
  | .initialWindowSize val =>
      ∀ id ∈ c.streams, c.exact.stream id + (val - c.exact.init) ≤ 2147483647
  | _ => True

def Admitted (c : Conn) (action : Action) : Prop := Legal action ∧ Fits c action

instance decidableLegal (action : Action) : Decidable (Legal action) := by
  unfold Legal
  split <;> infer_instance

instance decidableFits (c : Conn) (action : Action) : Decidable (Fits c action) := by
  unfold Fits
  split <;> infer_instance

instance decidableAdmitted (c : Conn) (action : Action) : Decidable (Admitted c action) :=
  inferInstanceAs (Decidable (Legal action ∧ Fits c action))

/-- Every stored window is the exact one. -/
structure Stored (c : Conn) : Prop where
  conn : c.credit.connSendWindow.toInt = c.exact.conn
  init : c.credit.peerInitWindow.toInt = c.exact.init
  stream : ∀ id ∈ c.streams, (c.window id).toInt = c.exact.stream id

/-- `floor`: a stream has spent no more than some setting let it send, so no later
setting brings its window below -(2^31-1). -/
structure Valid (c : Conn) : Prop extends Stored c where
  unique : c.streams.Nodup
  connNonneg : 0 ≤ c.exact.conn
  initNonneg : 0 ≤ c.exact.init
  floor : ∀ id ∈ c.streams, -2147483647 ≤ c.exact.stream id - c.exact.init
  running : c.ended = none

theorem valid_new : Valid Conn.new where
  conn := by decide
  init := by decide
  stream := by simp [Conn.new]
  unique := List.nodup_nil
  connNonneg := by decide
  initNonneg := by decide
  floor := by simp [Conn.new]
  running := rfl

section Steps

variable {c next : Conn}

/-- The connection window moves, stored and exact alike. -/
theorem conn_valid (valid : Valid c) {window : Int32} {exact : Int}
    (stored : window.toInt = exact) (low : 0 ≤ exact) :
    Valid { c with
      credit := { c.credit with connSendWindow := window }
      exact := { c.exact with conn := exact } } :=
  { valid with conn := stored, connNonneg := low }

/-- The window of one stream moves, registered or not. -/
theorem stream_valid (valid : Valid c) {id : Nat} {window : Int32} {exact : Int}
    (moved : id ∈ c.streams → window.toInt = exact ∧ -2147483647 ≤ exact - c.exact.init) :
    Valid { c with
      window := Function.update c.window id window
      exact := { c.exact with stream := Function.update c.exact.stream id exact } } := by
  refine { valid with stream := ?_, floor := ?_ }
  · intro other member
    by_cases same : other = id
    · subst same
      simpa only [Function.update_self] using (moved member).1
    · simpa only [Function.update_of_ne same] using valid.stream other member
  · intro other member
    by_cases same : other = id
    · subst same
      simpa only [Function.update_self] using (moved member).2
    · simpa only [Function.update_of_ne same] using valid.floor other member

theorem addConn_valid (valid : Valid c) {increment : Nat} (legal : increment ≤ 2147483647)
    (fits : c.exact.conn + increment ≤ 2147483647) :
    Valid { c with
      credit := addConn c.credit (Int32.ofNat increment)
      exact := { c.exact with conn := c.exact.conn + increment } } := by
  have stored := valid.conn
  have low := valid.connNonneg
  have grown : (c.credit.connSendWindow + Int32.ofNat increment).toInt =
      c.exact.conn + increment := by
    rw [add_exact, stored, ofNat_exact legal]
    rw [stored, ofNat_exact legal]
    exact ⟨by omega, by omega⟩
  exact conn_valid valid grown (by omega)

theorem addStream_valid (valid : Valid c) {id increment : Nat}
    (legal : increment ≤ 2147483647)
    (fits : id ∈ c.streams → c.exact.stream id + increment ≤ 2147483647) :
    Valid { c with
      window := Function.update c.window id (addStream (c.window id) (Int32.ofNat increment))
      exact := { c.exact with
        stream := Function.update c.exact.stream id (c.exact.stream id + increment) } } := by
  refine stream_valid valid fun member => ?_
  have stored := valid.stream id member
  have bottom := valid.floor id member
  have low := (c.window id).le_toInt
  have high := fits member
  refine ⟨?_, by omega⟩
  unfold addStream
  rw [add_exact, stored, ofNat_exact legal]
  rw [ofNat_exact legal]
  exact ⟨by omega, by omega⟩

theorem handleWindowUpdate_valid (valid : Valid c) {id increment : Nat}
    (admitted : Admitted c (.windowUpdate id increment)) :
    Valid (handleWindowUpdate c id increment) := by
  obtain ⟨legal, connFits, streamFits⟩ := admitted
  unfold handleWindowUpdate
  split
  · exact addConn_valid valid legal.2 (connFits ‹_›)
  · split
    · exact addStream_valid valid legal.2 streamFits
    · exact valid

theorem applyInitialWindowSize_valid (valid : Valid c) {val : Nat}
    (admitted : Admitted c (.initialWindowSize val)) :
    ∃ next, applyInitialWindowSize c val = .ok next ∧ Valid next := by
  obtain ⟨legal, fits⟩ := admitted
  have exactVal : (Int32.ofNat val).toInt = val := ofNat_exact legal
  have legal : val ≤ 2147483647 := legal
  have oldInit := valid.init
  have oldLow := valid.initNonneg
  have oldHigh := c.credit.peerInitWindow.toInt_lt
  have delta : (Int32.ofNat val - c.credit.peerInitWindow).toInt = val - c.exact.init := by
    rw [sub_exact, exactVal, oldInit]
    rw [exactVal]
    exact ⟨by omega, by omega⟩
  refine ⟨_, if_neg (by omega), ?_⟩
  refine { valid with init := exactVal, stream := ?_, initNonneg := ?_, floor := ?_ }
  · intro id member
    have stored := valid.stream id member
    have low := valid.floor id member
    have high := fits id member
    simp only [applied_window _ _ _ _ valid.unique, member, ↓reduceIte]
    rw [add_exact, stored, delta]
    rw [stored, delta]
    exact ⟨by omega, by omega⟩
  · exact Int.natCast_nonneg val
  · intro id member
    have low := valid.floor id member
    simp only
    omega

/-- A grant is covered by both windows, so neither subtraction goes below zero. -/
theorem paid_valid (valid : Valid c) {id : Nat} {got : Int32} (positive : 0 < got)
    (fitsStream : got ≤ c.window id) (fitsConn : got ≤ c.credit.connSendWindow) :
    Valid { c with
      credit := { c.credit with connSendWindow := c.credit.connSendWindow - got }
      window := Function.update c.window id (c.window id - got)
      exact := { c.exact with
        conn := c.exact.conn - got.toInt
        stream := Function.update c.exact.stream id (c.exact.stream id - got.toInt) } } := by
  rw [Int32.lt_iff_toInt_lt, Int32.toInt_zero] at positive
  rw [Int32.le_iff_toInt_le] at fitsStream fitsConn
  have connHigh := c.credit.connSendWindow.toInt_lt
  have windowHigh := (c.window id).toInt_lt
  have storedConn := valid.conn
  have paidConn : (c.credit.connSendWindow - got).toInt = c.exact.conn - got.toInt := by
    rw [sub_exact ⟨by omega, by omega⟩, storedConn]
  refine stream_valid (conn_valid valid paidConn (by omega)) fun member => ?_
  have storedStream := valid.stream id member
  have storedInit := valid.init
  have initHigh := c.credit.peerInitWindow.toInt_lt
  refine ⟨?_, by simp only; omega⟩
  rw [sub_exact ⟨by omega, by omega⟩, storedStream]

theorem reserve_valid (valid : Valid c) {id : Nat} {want : Int32}
    (stepped : step c (.reserve id want) = some next) : Valid next := by
  simp only [step] at stepped
  cases outcome : Flow.reserve c.credit (c.window id) want with
  | parked => simp [outcome] at stepped
  | returned got dead credit window =>
      simp only [outcome, Option.some.injEq] at stepped
      subst stepped
      rcases reserve_cases outcome with
        ⟨rfl, rfl, rfl, -⟩ | ⟨positive, -, fitsStream, fitsConn, -, rfl, rfl⟩
      · simpa using valid
      · exact paid_valid valid positive fitsStream fitsConn

theorem openStream_valid (valid : Valid c) {id : Nat} (fresh : id ∉ c.streams) :
    Valid { c with
      window := Function.update c.window id (initialStreamWindow c.credit)
      streams := id :: c.streams
      exact := { c.exact with
        stream := Function.update c.exact.stream id c.exact.init } } := by
  refine { valid with
    stream := ?_, unique := List.nodup_cons.mpr ⟨fresh, valid.unique⟩, floor := ?_ }
  · intro other member
    by_cases same : other = id
    · subst same
      simpa only [Function.update_self, initialStreamWindow] using valid.init
    · simpa only [Function.update_of_ne same] using
        valid.stream other (List.mem_of_ne_of_mem same member)
  · intro other member
    by_cases same : other = id
    · subst same
      simp
    · simpa only [Function.update_of_ne same] using
        valid.floor other (List.mem_of_ne_of_mem same member)

theorem removeStream_valid (valid : Valid c) (id : Nat) :
    Valid { c with streams := c.streams.erase id } :=
  { valid with
    stream := fun other member => valid.stream other (List.mem_of_mem_erase member)
    unique := valid.unique.erase id
    floor := fun other member => valid.floor other (List.mem_of_mem_erase member) }

theorem step_valid {action : Action} (valid : Valid c) (admitted : Admitted c action)
    (stepped : step c action = some next) : Valid next := by
  cases action with
  | windowUpdate id increment =>
      obtain ⟨-, rfl⟩ := enabled stepped
      exact handleWindowUpdate_valid valid admitted
  | initialWindowSize val =>
      obtain ⟨applied, accepted, kept⟩ := applyInitialWindowSize_valid valid admitted
      simp only [step, valid.running, ↓reduceIte, accepted, Option.some.injEq] at stepped
      exact stepped ▸ kept
  | reserve id want => exact reserve_valid valid stepped
  | openStream id =>
      simp only [step] at stepped
      split at stepped
      · cases stepped
      · cases stepped
        exact openStream_valid valid ‹_›
  | removeStream id =>
      cases stepped
      exact removeStream_valid valid id

end Steps

/-- Where no frame overflows a window, the loop goes on and every stored window is the
exact one. -/
theorem windows_stored_exactly {trace : List Action} {last : Conn}
    (admitted : Guarded step Admitted Conn.new trace)
    (ran : run step Conn.new trace = some last) :
    last.ended = none ∧ Stored last ∧ 0 ≤ last.credit.connSendWindow.toInt := by
  have valid : Valid last :=
    run_invariant (fun _ _ _ valid admitted stepped => step_valid valid admitted stepped)
      valid_new admitted ran
  refine ⟨valid.running, valid.toStored, ?_⟩
  rw [valid.conn]
  exact valid.connNonneg

/-- Increments, a shrinking setting and a grown one, around reservations. -/
def withinLimits : List Action :=
  [.openStream 1, .reserve 1 65535, .windowUpdate 0 2147483647, .initialWindowSize 0,
    .windowUpdate 1 2147483647, .initialWindowSize 65535, .reserve 1 100]

theorem windows_stored_exactly_within :
    ∃ last, run step Conn.new withinLimits = some last ∧ Stored last := by
  obtain ⟨last, ran⟩ : ∃ last, run step Conn.new withinLimits = some last :=
    Option.isSome_iff_exists.mp (by decide)
  exact ⟨last, ran, (windows_stored_exactly (by decide) ran).2.1⟩

/-- One connection WINDOW_UPDATE at its largest: the loop goes on, with a negative
window in the place of 2147549182. -/
theorem window_update_wraps :
    ¬ ∀ (trace : List Action) (last : Conn),
      Guarded step (fun _ action => Legal action) Conn.new trace →
      run step Conn.new trace = some last → last.ended ≠ none ∨ Stored last := by
  intro holds
  rcases holds [.windowUpdate 0 2147483647] _ (by decide) rfl with ended | stored
  · exact ended rfl
  · exact absurd stored.conn (by decide)

/-- The same for a stream, by an increment and a setting that are each within the
limit. -/
example : (run step Conn.new [.openStream 1, .windowUpdate 1 2147418112,
    .initialWindowSize 65536]).map (fun last => (last.ended, (last.window 1).toInt)) =
      some (none, -2147483648) := by decide

end ReverseHttp.WindowOverflow
