import ReverseHttp.Transition
import ReverseHttp.Wire
import Mathlib.Data.List.Nodup
import Mathlib.Data.List.ReduceOption
import Mathlib.Order.MinMax
import Mathlib.Tactic.Common

/-!
The result protocol of internal/h2/writer.go: `submit`, `submitAsync` and the
writer goroutines of any number of connections, with the done channels they
share through the process-wide `donePool`. Each channel operation, each arm of
a `select` and each pool operation is one step.

What an intent writes plays no part here; the schedule supplies what
`processIntent` returned. `buffer` is the one slot of a done channel; the call
a result was meant for, `processed` and `receipts` are ghost.
-/

namespace ReverseHttp.WriteResults

open Transition
open Wire (writeQSize)

abbrev ConnID := Nat
abbrev CallID := Nat
abbrev ChanID := Nat

inductive WriteError where
  | connClosed
  | framer (cause : Nat)
  deriving DecidableEq

/-- A Go `error`; `none` is nil. -/
abbrev Outcome := Option WriteError

/-- The done channel of an intent and the call that waits on it. -/
@[ext]
structure Ticket where
  call : CallID
  chan : ChanID
  deriving DecidableEq

/-- `none` is fire-and-forget. -/
abbrev Intent := Option Ticket

inductive Writer where
  | select
  | processing (intent : Intent)
  | sending (ticket : Ticket) (outcome : Outcome)
  | exiting (err : WriteError)
  | draining
  | drainSending (ticket : Ticket)
  | terminated
  deriving DecidableEq

structure Conn where
  writeQ : List Intent
  writer : Writer
  writeShutdown : Bool
  writeDead : Bool
  writeErr : Outcome
  deriving DecidableEq

def Conn.new : Conn := ⟨[], .select, false, false, none⟩

inductive Phase where
  | idle
  | enqueue
  | waiting
  | sawDead
  | cleanup (result : Outcome)
  | putting (result : Outcome)
  | returned (result : Outcome)
  deriving DecidableEq

structure Call where
  conn : ConnID
  chan : ChanID
  phase : Phase
  deriving DecidableEq

structure State where
  conns : ConnID → Conn
  calls : CallID → Call
  buffer : ChanID → Option (CallID × Outcome)
  pool : List ChanID
  allocated : Nat
  processed : List (ConnID × CallID × Outcome)
  receipts : List (CallID × CallID)

def State.new : State :=
  { conns := fun _ => Conn.new
    calls := fun _ => ⟨0, 0, .idle⟩
    buffer := fun _ => none
    pool := []
    allocated := 0
    processed := []
    receipts := [] }

def State.setPhase (st : State) (call : CallID) (phase : Phase) : State :=
  { st with calls := Function.update st.calls call { st.calls call with phase := phase } }

def State.setConn (st : State) (conn : ConnID) (next : Conn) : State :=
  { st with conns := Function.update st.conns conn next }

inductive Action where
  | submit (call : CallID) (conn : ConnID) (chan : ChanID)
  | enqueue (call : CallID)
  | refuse (call : CallID)
  | receive (call : CallID)
  | observeDead (call : CallID)
  | receiveLate (call : CallID)
  | giveUp (call : CallID)
  | cleanup (call : CallID)
  | put (call : CallID)
  | submitAsync (conn : ConnID)
  | take (conn : ConnID)
  | process (conn : ConnID) (outcome : Outcome)
  | send (conn : ConnID)
  | shutdown (conn : ConnID)
  | stop (conn : ConnID)
  | exit (conn : ConnID)
  | drainTake (conn : ConnID)
  | drainSend (conn : ConnID)
  | drainEnd (conn : ConnID)
  deriving DecidableEq

/-- `donePool.Get`: a pooled channel, or a new one from `New`. -/
def submit (st : State) (call : CallID) (conn : ConnID) (chan : ChanID) : Option State :=
  if (st.calls call).phase = .idle ∧ (chan ∈ st.pool ∨ chan = st.allocated) then
    some { st with
      calls := Function.update st.calls call ⟨conn, chan, .enqueue⟩
      pool := st.pool.erase chan
      allocated := max st.allocated (chan + 1) }
  else none

/-- The send arm of the first `select`. -/
def enqueue (st : State) (call : CallID) : Option State :=
  let conn := (st.calls call).conn
  let c := st.conns conn
  if (st.calls call).phase = .enqueue ∧ c.writeQ.length < writeQSize then
    some ((st.setPhase call .waiting).setConn conn
      { c with writeQ := c.writeQ ++ [some ⟨call, (st.calls call).chan⟩] })
  else none

/-- The `writeDeadCh` arm of the first `select`. -/
def refuse (st : State) (call : CallID) : Option State :=
  let c := st.conns (st.calls call).conn
  if (st.calls call).phase = .enqueue ∧ c.writeDead = true then
    some (st.setPhase call (.cleanup c.writeErr))
  else none

/-- A receive from `done`, in the second `select` or in the one nested in it. -/
def receive (st : State) (call : CallID) (at' : Phase) : Option State :=
  let chan := (st.calls call).chan
  if (st.calls call).phase = at' then
    (st.buffer chan).map fun result =>
      { st.setPhase call (.cleanup result.2) with
        buffer := Function.update st.buffer chan none
        receipts := st.receipts ++ [(call, result.1)] }
  else none

def observeDead (st : State) (call : CallID) : Option State :=
  if (st.calls call).phase = .waiting ∧ (st.conns (st.calls call).conn).writeDead = true then
    some (st.setPhase call .sawDead)
  else none

/-- The `default` arm of the nested `select`: nothing in `done` yet. -/
def giveUp (st : State) (call : CallID) : Option State :=
  if (st.calls call).phase = .sawDead ∧ st.buffer (st.calls call).chan = none then
    some (st.setPhase call (.cleanup (st.conns (st.calls call).conn).writeErr))
  else none

/-- The non-blocking receive of the deferred function. -/
def cleanup (st : State) (call : CallID) : Option State :=
  match (st.calls call).phase with
  | .cleanup result =>
      some { st.setPhase call (.putting result) with
        buffer := Function.update st.buffer (st.calls call).chan none }
  | _ => none

def put (st : State) (call : CallID) : Option State :=
  match (st.calls call).phase with
  | .putting result =>
      some { st.setPhase call (.returned result) with pool := (st.calls call).chan :: st.pool }
  | _ => none

def submitAsync (st : State) (conn : ConnID) : Option State :=
  let c := st.conns conn
  if c.writeQ.length < writeQSize then
    some (st.setConn conn { c with writeQ := c.writeQ ++ [none] })
  else none

def take (st : State) (conn : ConnID) : Option State :=
  let c := st.conns conn
  match c.writer, c.writeQ with
  | .select, intent :: rest =>
      some (st.setConn conn { c with writer := .processing intent, writeQ := rest })
  | _, _ => none

/-- Where the writer goes once a result is out. -/
def Writer.after : Outcome → Writer
  | none => .select
  | some err => .exiting err

def process (st : State) (conn : ConnID) (outcome : Outcome) : Option State :=
  let c := st.conns conn
  match c.writer with
  | .processing none => some (st.setConn conn { c with writer := .after outcome })
  | .processing (some ticket) =>
      some { st.setConn conn { c with writer := .sending ticket outcome } with
        processed := st.processed ++ [(conn, ticket.call, outcome)] }
  | _ => none

/-- A send on a full channel blocks. -/
def deliver (st : State) (ticket : Ticket) (outcome : Outcome) : Option State :=
  if st.buffer ticket.chan = none then
    some { st with
      buffer := Function.update st.buffer ticket.chan (some (ticket.call, outcome)) }
  else none

def send (st : State) (conn : ConnID) : Option State :=
  let c := st.conns conn
  match c.writer with
  | .sending ticket outcome =>
      deliver (st.setConn conn { c with writer := .after outcome }) ticket outcome
  | _ => none

def stop (st : State) (conn : ConnID) : Option State :=
  let c := st.conns conn
  if c.writer = .select ∧ c.writeShutdown = true then
    some (st.setConn conn { c with writer := .exiting .connClosed })
  else none

/-- `writeErr` is set and `writeDeadCh` closed. -/
def exit (st : State) (conn : ConnID) : Option State :=
  let c := st.conns conn
  match c.writer with
  | .exiting err =>
      some (st.setConn conn { c with writer := .draining, writeDead := true, writeErr := some err })
  | _ => none

def drainTake (st : State) (conn : ConnID) : Option State :=
  let c := st.conns conn
  match c.writer, c.writeQ with
  | .draining, none :: rest => some (st.setConn conn { c with writeQ := rest })
  | .draining, some ticket :: rest =>
      some (st.setConn conn { c with writer := .drainSending ticket, writeQ := rest })
  | _, _ => none

def drainSend (st : State) (conn : ConnID) : Option State :=
  let c := st.conns conn
  match c.writer with
  | .drainSending ticket =>
      deliver (st.setConn conn { c with writer := .draining }) ticket c.writeErr
  | _ => none

def drainEnd (st : State) (conn : ConnID) : Option State :=
  let c := st.conns conn
  match c.writer, c.writeQ with
  | .draining, [] => some (st.setConn conn { c with writer := .terminated })
  | _, _ => none

def step (st : State) : Action → Option State
  | .submit call conn chan => submit st call conn chan
  | .enqueue call => enqueue st call
  | .refuse call => refuse st call
  | .receive call => receive st call .waiting
  | .observeDead call => observeDead st call
  | .receiveLate call => receive st call .sawDead
  | .giveUp call => giveUp st call
  | .cleanup call => cleanup st call
  | .put call => put st call
  | .submitAsync conn => submitAsync st conn
  | .take conn => take st conn
  | .process conn outcome => process st conn outcome
  | .send conn => send st conn
  | .shutdown conn => some (st.setConn conn { st.conns conn with writeShutdown := true })
  | .stop conn => stop st conn
  | .exit conn => exit st conn
  | .drainTake conn => drainTake st conn
  | .drainSend conn => drainSend st conn
  | .drainEnd conn => drainEnd st conn

/-- `nil` needs the writer to have processed this very intent with nil; an
error needs it processed with that error, or the writer gone. -/
def Justified (st : State) (call : CallID) : Outcome → Prop
  | none => ((st.calls call).conn, call, none) ∈ st.processed
  | some err => ((st.calls call).conn, call, some err) ∈ st.processed ∨
      (st.conns (st.calls call).conn).writeDead = true

/-- Every result returned is the call's own, and so is every value received. -/
structure Agrees (st : State) : Prop where
  results : ∀ call result, (st.calls call).phase = .returned result → Justified st call result
  receipts : ∀ receipt ∈ st.receipts, receipt.1 = receipt.2

/-- A call walks away from its intent only once the drain loop has returned. -/
def Patient (st : State) : Action → Prop
  | .giveUp call => (st.conns (st.calls call).conn).writer = .terminated
  | _ => True

instance (st : State) (action : Action) : Decidable (Patient st action) := by
  unfold Patient
  split <;> infer_instance

/-! The invariant: a done channel belongs to one call at a time, and only that
call's intent can still send on it. -/

/-- Between `Get` and `Put`. -/
def Phase.active : Phase → Bool
  | .idle | .returned _ => false
  | .enqueue | .waiting | .sawDead | .cleanup _ | .putting _ => true

/-- The intent is out and its result not yet taken. -/
def Phase.waits : Phase → Bool
  | .waiting | .sawDead => true
  | .idle | .enqueue | .cleanup _ | .putting _ | .returned _ => false

def Phase.result? : Phase → Option Outcome
  | .cleanup result | .putting result | .returned result => some result
  | .idle | .enqueue | .waiting | .sawDead => none

theorem active_of_waits {phase : Phase} (waits : phase.waits = true) : phase.active = true := by
  cases phase <;> simp_all [Phase.waits, Phase.active]

def Writer.held : Writer → Intent
  | .processing intent => intent
  | .sending ticket _ | .drainSending ticket => some ticket
  | .select | .exiting _ | .draining | .terminated => none

@[simp]
theorem held_processing (intent : Intent) : (Writer.processing intent).held = intent := rfl

@[simp]
theorem held_sending (ticket : Ticket) (outcome : Outcome) :
    (Writer.sending ticket outcome).held = some ticket := rfl

@[simp]
theorem held_drainSending (ticket : Ticket) : (Writer.drainSending ticket).held = some ticket := rfl

@[simp]
theorem held_select : Writer.select.held = none := rfl

@[simp]
theorem held_exiting (err : WriteError) : (Writer.exiting err).held = none := rfl

@[simp]
theorem held_draining : Writer.draining.held = none := rfl

/-- The tickets a writer will still answer. A terminated writer answers none,
whatever is left in its queue. -/
def pending (c : Conn) : List Ticket :=
  if c.writer = .terminated then [] else c.writer.held.toList ++ c.writeQ.reduceOption

structure TicketOk (st : State) (conn : ConnID) (ticket : Ticket) : Prop where
  conn : (st.calls ticket.call).conn = conn
  chan : (st.calls ticket.call).chan = ticket.chan
  waits : (st.calls ticket.call).phase.waits = true
  empty : st.buffer ticket.chan = none

structure WriterOk (processed : List (ConnID × CallID × Outcome)) (conn : ConnID) (c : Conn) :
    Prop where
  sending : ∀ ticket outcome, c.writer = .sending ticket outcome →
    (conn, ticket.call, outcome) ∈ processed
  dead : c.writer = .draining ∨ (∃ ticket, c.writer = .drainSending ticket) ∨
    c.writer = .terminated → c.writeDead = true
  err : c.writeDead = true → ∃ err, c.writeErr = some err

structure Inv (st : State) : Prop where
  allocated : ∀ call, (st.calls call).phase.active = true → (st.calls call).chan < st.allocated
  unique : ∀ left right, (st.calls left).phase.active = true →
    (st.calls right).phase.active = true → (st.calls left).chan = (st.calls right).chan →
    left = right
  pool : st.pool.Nodup ∧ ∀ chan ∈ st.pool, chan < st.allocated ∧
    ∀ call, (st.calls call).phase.active = true → (st.calls call).chan ≠ chan
  buffer : ∀ chan origin outcome, st.buffer chan = some (origin, outcome) →
    (st.calls origin).chan = chan ∧ (st.calls origin).phase.waits = true ∧
      Justified st origin outcome
  pendingNodup : ∀ conn, (pending (st.conns conn)).Nodup
  pendingOk : ∀ conn, ∀ ticket ∈ pending (st.conns conn), TicketOk st conn ticket
  writers : ∀ conn, WriterOk st.processed conn (st.conns conn)
  results : ∀ call result, (st.calls call).phase.result? = some result → Justified st call result
  receipts : ∀ receipt ∈ st.receipts, receipt.1 = receipt.2

theorem inv_new : Inv State.new := by
  constructor
  · simp [State.new, Phase.active]
  · simp [State.new, Phase.active]
  · simp [State.new]
  · simp [State.new]
  · simp [State.new, pending, Conn.new, List.reduceOption]
  · simp [State.new, pending, Conn.new, List.reduceOption]
  · intro conn
    constructor <;> simp [State.new, Conn.new]
  · simp [State.new, Phase.result?]
  · simp [State.new]

/-- Results stay justified while calls keep their connection, the record grows
and no writer comes back to life. -/
theorem justified_mono {st next : State} {call : CallID} {outcome : Outcome}
    (justified : Justified st call outcome)
    (sameConn : (next.calls call).conn = (st.calls call).conn)
    (records : st.processed ⊆ next.processed)
    (dead : ∀ conn, (st.conns conn).writeDead = true → (next.conns conn).writeDead = true) :
    Justified next call outcome := by
  cases outcome with
  | none =>
      simp only [Justified, sameConn] at justified ⊢
      exact records justified
  | some err =>
      simp only [Justified, sameConn] at justified ⊢
      exact justified.imp (fun found => records found) (dead _)

@[simp]
theorem setPhase_conn (st : State) (call other : CallID) (phase : Phase) :
    ((st.setPhase call phase).calls other).conn = (st.calls other).conn := by
  by_cases same : other = call
  · subst same
    simp [State.setPhase]
  · simp [State.setPhase, same]

@[simp]
theorem setPhase_chan (st : State) (call other : CallID) (phase : Phase) :
    ((st.setPhase call phase).calls other).chan = (st.calls other).chan := by
  by_cases same : other = call
  · subst same
    simp [State.setPhase]
  · simp [State.setPhase, same]

theorem setPhase_phase (st : State) (call other : CallID) (phase : Phase) :
    ((st.setPhase call phase).calls other).phase =
      if other = call then phase else (st.calls other).phase := by
  by_cases same : other = call
  · subst same
    simp [State.setPhase]
  · simp [State.setPhase, same]

/-- No writer and no channel still has anything for this call. -/
def Quiet (st : State) (call : CallID) : Prop :=
  st.buffer (st.calls call).chan = none ∧
    ∀ conn, ∀ ticket ∈ pending (st.conns conn), ticket.call ≠ call

/-- A call outside its wait is quiet. -/
theorem quiet_of_not_waits {st : State} (inv : Inv st) {call : CallID}
    (active : (st.calls call).phase.active = true)
    (idle : (st.calls call).phase.waits = false) : Quiet st call := by
  constructor
  · cases found : st.buffer (st.calls call).chan with
    | none => rfl
    | some result =>
        obtain ⟨chan, waits, -⟩ := inv.buffer _ result.1 result.2 found
        have same := inv.unique _ _ (active_of_waits waits) active chan
        rw [same, idle] at waits
        simp at waits
  · rintro conn ticket member rfl
    have waits := (inv.pendingOk conn ticket member).waits
    rw [idle] at waits
    simp at waits

/-- A call whose result has arrived has no ticket left. -/
theorem quiet_of_buffered {st : State} (inv : Inv st) {call : CallID} {outcome : Outcome}
    (found : st.buffer (st.calls call).chan = some (call, outcome)) (conn : ConnID)
    (ticket : Ticket) (member : ticket ∈ pending (st.conns conn)) : ticket.call ≠ call := by
  rintro rfl
  have ok := inv.pendingOk conn ticket member
  rw [ok.chan, ok.empty] at found
  simp at found

/-- Moving one call on. It may stop waiting only when nothing is out for it. -/
theorem inv_setPhase {st : State} (inv : Inv st) (call : CallID) (phase : Phase)
    (was : (st.calls call).phase.active = true)
    (stops : phase.waits = true ∨ Quiet st call)
    (result : ∀ outcome, phase.result? = some outcome → Justified st call outcome) :
    Inv (st.setPhase call phase) := by
  have wasActive : ∀ other, ((st.setPhase call phase).calls other).phase.active = true →
      (st.calls other).phase.active = true := by
    intro other active
    by_cases same : other = call
    · rwa [same]
    · rwa [setPhase_phase, if_neg same] at active
  have stays : ∀ outcome other, Justified st other outcome →
      Justified (st.setPhase call phase) other outcome := fun outcome other justified =>
    justified_mono justified (by simp) (fun _ member => member) (fun _ dead => dead)
  -- whoever a channel or a ticket still names is not quiet, so it goes on waiting
  have keepsWaiting : ∀ other, (st.calls other).phase.waits = true →
      (¬ Quiet st call ∨ other ≠ call) →
      ((st.setPhase call phase).calls other).phase.waits = true := by
    intro other waits busy
    rw [setPhase_phase]
    split
    · rename_i same
      rcases busy with loud | different
      · exact stops.resolve_right loud
      · exact absurd same different
    · exact waits
  constructor
  · intro other active
    rw [setPhase_chan]
    exact inv.allocated other (wasActive other active)
  · intro left right leftActive rightActive same
    exact inv.unique left right (wasActive left leftActive) (wasActive right rightActive)
      (by simpa using same)
  · refine ⟨inv.pool.1, fun chan member => ⟨(inv.pool.2 chan member).1, ?_⟩⟩
    intro other active
    simpa using (inv.pool.2 chan member).2 other (wasActive other active)
  · intro chan origin outcome found
    obtain ⟨sameChan, waits, justified⟩ := inv.buffer chan origin outcome found
    refine ⟨by simpa using sameChan, keepsWaiting origin waits ?_, stays _ _ justified⟩
    by_cases same : origin = call
    · subst same
      refine Or.inl fun quiet => ?_
      have full : st.buffer chan = none := sameChan ▸ quiet.1
      simp [show st.buffer chan = some (origin, outcome) from found] at full
    · exact Or.inr same
  · exact inv.pendingNodup
  · intro conn ticket member
    have ok := inv.pendingOk conn ticket member
    refine ⟨by simpa using ok.conn, by simpa using ok.chan, keepsWaiting _ ok.waits ?_, ok.empty⟩
    by_cases same : ticket.call = call
    · exact Or.inl fun quiet => quiet.2 conn ticket member same
    · exact Or.inr same
  · exact inv.writers
  · intro other outcome found
    rw [setPhase_phase] at found
    split at found
    · rename_i same
      subst same
      exact stays _ _ (result outcome found)
    · exact stays _ _ (inv.results other outcome found)
  · exact inv.receipts

theorem setConn_conns (st : State) (conn other : ConnID) (next : Conn) :
    (st.setConn conn next).conns other = if other = conn then next else st.conns other := by
  by_cases same : other = conn
  · subst same
    simp [State.setConn]
  · simp [State.setConn, same]

theorem justified_setConn {st : State} {conn : ConnID} {next : Conn} {call : CallID}
    {outcome : Outcome} (dead : (st.conns conn).writeDead = true → next.writeDead = true)
    (justified : Justified st call outcome) : Justified (st.setConn conn next) call outcome := by
  refine justified_mono justified rfl (fun _ member => member) ?_
  intro other wasDead
  rw [setConn_conns]
  split
  · rename_i same
    exact dead (same ▸ wasDead)
  · exact wasDead

/-- Moving one writer on. -/
theorem inv_setConn {st : State} (inv : Inv st) (conn : ConnID) (next : Conn)
    (nodup : (pending next).Nodup) (tickets : ∀ ticket ∈ pending next, TicketOk st conn ticket)
    (dead : (st.conns conn).writeDead = true → next.writeDead = true)
    (writer : WriterOk st.processed conn next) : Inv (st.setConn conn next) := by
  have stays : ∀ outcome call, Justified st call outcome →
      Justified (st.setConn conn next) call outcome :=
    fun _ _ justified => justified_setConn dead justified
  constructor
  · exact inv.allocated
  · exact inv.unique
  · exact inv.pool
  · intro chan origin outcome found
    obtain ⟨sameChan, waits, justified⟩ := inv.buffer chan origin outcome found
    exact ⟨sameChan, waits, stays _ _ justified⟩
  · intro other
    rw [setConn_conns]
    split
    · exact nodup
    · exact inv.pendingNodup other
  · intro other ticket member
    rw [setConn_conns] at member
    split at member
    · rename_i same
      obtain ⟨sameConn, sameChan, waits, empty⟩ := tickets ticket member
      exact ⟨sameConn.trans same.symm, sameChan, waits, empty⟩
    · obtain ⟨sameConn, sameChan, waits, empty⟩ := inv.pendingOk other ticket member
      exact ⟨sameConn, sameChan, waits, empty⟩
  · intro other
    rw [setConn_conns]
    split
    · rename_i same
      rw [same]
      exact writer
    · exact inv.writers other
  · exact fun call outcome found => stays _ _ (inv.results call outcome found)
  · exact inv.receipts

/-- A step of one writer that answers no ticket. -/
theorem inv_writer {st : State} (inv : Inv st) (conn : ConnID) (next : Conn)
    (same : pending next = pending (st.conns conn))
    (dead : (st.conns conn).writeDead = true → next.writeDead = true)
    (writer : WriterOk st.processed conn next) : Inv (st.setConn conn next) :=
  inv_setConn inv conn next (same ▸ inv.pendingNodup conn)
    (fun ticket member => inv.pendingOk conn ticket (same ▸ member)) dead writer

/-- The record of processed intents only grows. -/
theorem inv_record {st : State} (inv : Inv st) (entry : ConnID × CallID × Outcome) :
    Inv { st with processed := st.processed ++ [entry] } := by
  have stays : ∀ outcome call, Justified st call outcome →
      Justified { st with processed := st.processed ++ [entry] } call outcome :=
    fun outcome call justified =>
      justified_mono justified rfl (fun _ member => by simp [member]) (fun _ dead => dead)
  constructor
  · exact inv.allocated
  · exact inv.unique
  · exact inv.pool
  · intro chan origin outcome found
    obtain ⟨sameChan, waits, justified⟩ := inv.buffer chan origin outcome found
    exact ⟨sameChan, waits, stays _ _ justified⟩
  · exact inv.pendingNodup
  · intro conn ticket member
    obtain ⟨sameConn, sameChan, waits, empty⟩ := inv.pendingOk conn ticket member
    exact ⟨sameConn, sameChan, waits, empty⟩
  · intro conn
    have ok := inv.writers conn
    exact ⟨fun ticket outcome sending => by simp [ok.sending ticket outcome sending], ok.dead,
      ok.err⟩
  · exact fun call outcome found => stays _ _ (inv.results call outcome found)
  · exact inv.receipts

/-- Emptying the slot of a done channel. -/
theorem inv_clear {st : State} (inv : Inv st) (chan : ChanID) :
    Inv { st with buffer := Function.update st.buffer chan none } := by
  have fewer : ∀ other result,
      Function.update st.buffer chan none other = some result → st.buffer other = some result := by
    intro other result found
    by_cases same : other = chan
    · simp [same] at found
    · simpa [same] using found
  have emptier : ∀ other, st.buffer other = none →
      Function.update st.buffer chan none other = none := by
    intro other empty
    by_cases same : other = chan
    · simp [same]
    · simpa [same] using empty
  constructor
  · exact inv.allocated
  · exact inv.unique
  · exact inv.pool
  · exact fun other origin outcome found =>
      inv.buffer other origin outcome (fewer other (origin, outcome) found)
  · exact inv.pendingNodup
  · intro conn ticket member
    obtain ⟨sameConn, sameChan, waits, empty⟩ := inv.pendingOk conn ticket member
    exact ⟨sameConn, sameChan, waits, emptier _ empty⟩
  · exact inv.writers
  · exact inv.results
  · exact inv.receipts

theorem inv_receipt {st : State} (inv : Inv st) (call : CallID) :
    Inv { st with receipts := st.receipts ++ [(call, call)] } := by
  constructor
  · exact inv.allocated
  · exact inv.unique
  · exact inv.pool
  · exact inv.buffer
  · exact inv.pendingNodup
  · intro conn ticket member
    obtain ⟨sameConn, sameChan, waits, empty⟩ := inv.pendingOk conn ticket member
    exact ⟨sameConn, sameChan, waits, empty⟩
  · exact inv.writers
  · exact inv.results
  · intro receipt member
    rcases List.mem_append.mp member with old | mine
    · exact inv.receipts receipt old
    · rw [List.mem_singleton.mp mine]

/-- The answer to a ticket goes into its channel, once no writer holds the
ticket any more. -/
theorem inv_fill {st : State} (inv : Inv st) (conn : ConnID) (ticket : Ticket) (outcome : Outcome)
    (ok : TicketOk st conn ticket) (justified : Justified st ticket.call outcome)
    (last : ∀ other, ∀ rest ∈ pending (st.conns other), rest.call ≠ ticket.call) :
    Inv { st with
      buffer := Function.update st.buffer ticket.chan (some (ticket.call, outcome)) } := by
  constructor
  · exact inv.allocated
  · exact inv.unique
  · exact inv.pool
  · intro chan origin result found
    by_cases same : chan = ticket.chan
    · subst same
      simp only [Function.update_self, Option.some.injEq, Prod.mk.injEq] at found
      obtain ⟨rfl, rfl⟩ := found
      exact ⟨ok.chan, ok.waits, justified⟩
    · simp only [Function.update_of_ne same] at found
      exact inv.buffer chan origin result found
  · exact inv.pendingNodup
  · intro other rest member
    obtain ⟨sameConn, sameChan, waits, empty⟩ := inv.pendingOk other rest member
    refine ⟨sameConn, sameChan, waits, ?_⟩
    have different : rest.chan ≠ ticket.chan := by
      intro same
      have sameCall := inv.unique rest.call ticket.call (active_of_waits waits)
        (active_of_waits ok.waits) (by rw [sameChan, ok.chan, same])
      exact last other rest member sameCall
    simpa [different] using empty
  · exact inv.writers
  · exact inv.results
  · exact inv.receipts

theorem submit_inv {st next : State} {call : CallID} {conn : ConnID} {chan : ChanID}
    (inv : Inv st) (stepped : submit st call conn chan = some next) : Inv next := by
  unfold submit at stepped
  split at stepped
  case isFalse => simp at stepped
  rename_i ready
  obtain ⟨idle, available⟩ := ready
  obtain rfl := Option.some.inj stepped
  -- whichever way it was obtained, nobody else has the channel
  have unowned : ∀ other, (st.calls other).phase.active = true →
      (st.calls other).chan ≠ chan := by
    intro other active same
    rcases available with pooled | new
    · exact (inv.pool.2 chan pooled).2 other active same
    · exact absurd (inv.allocated other active) (by simp [same, new])
  have calls : ∀ other, other ≠ call →
      Function.update st.calls call ⟨conn, chan, .enqueue⟩ other = st.calls other :=
    fun other different => Function.update_of_ne different _ _
  have notIdle : ∀ other, (st.calls other).phase ≠ .idle → other ≠ call := by
    rintro other busy rfl
    exact busy idle
  have stays : ∀ other outcome, other ≠ call → Justified st other outcome →
      Justified { st with
        calls := Function.update st.calls call ⟨conn, chan, .enqueue⟩
        pool := st.pool.erase chan
        allocated := max st.allocated (chan + 1) } other outcome := by
    intro other outcome different justified
    refine justified_mono justified ?_ (fun _ member => member) (fun _ dead => dead)
    simp [calls other different]
  have waiting : ∀ other, (st.calls other).phase.waits = true → other ≠ call := by
    intro other waits
    apply notIdle
    intro same
    simp [same, Phase.waits] at waits
  constructor
  · intro other active
    by_cases same : other = call
    · subst same
      simp
    · simp only [calls other same] at active ⊢
      exact lt_max_of_lt_left (inv.allocated other active)
  · intro left right leftActive rightActive same
    by_cases isLeft : left = call <;> by_cases isRight : right = call
    · exact isLeft.trans isRight.symm
    · simp only [calls right isRight, isLeft, Function.update_self] at rightActive same
      exact absurd same.symm (unowned right rightActive)
    · simp only [calls left isLeft, isRight, Function.update_self] at leftActive same
      exact absurd same (unowned left leftActive)
    · simp only [calls left isLeft, calls right isRight] at leftActive rightActive same
      exact inv.unique left right leftActive rightActive same
  · refine ⟨inv.pool.1.erase chan, fun other member => ?_⟩
    have inPool := List.mem_of_mem_erase member
    have old := inv.pool.2 other inPool
    refine ⟨lt_max_of_lt_left old.1, fun user active => ?_⟩
    by_cases same : user = call
    · subst same
      rintro rfl
      simp only [Function.update_self] at member
      exact absurd member (inv.pool.1.not_mem_erase)
    · simp only [calls user same] at active ⊢
      exact old.2 user active
  · intro other origin outcome found
    obtain ⟨sameChan, waits, justified⟩ := inv.buffer other origin outcome found
    have different := waiting origin waits
    exact ⟨by simpa [calls origin different] using sameChan,
      by simpa [calls origin different] using waits, stays origin outcome different justified⟩
  · exact inv.pendingNodup
  · intro other ticket member
    obtain ⟨sameConn, sameChan, waits, empty⟩ := inv.pendingOk other ticket member
    have different := waiting ticket.call waits
    exact ⟨by simpa [calls _ different] using sameConn, by simpa [calls _ different] using sameChan,
      by simpa [calls _ different] using waits, empty⟩
  · exact inv.writers
  · intro other outcome found
    by_cases same : other = call
    · simp [same, Phase.result?] at found
    · simp only [calls other same] at found
      exact stays other outcome same (inv.results other outcome found)
  · exact inv.receipts

theorem pending_enqueue (c : Conn) (intent : Intent) :
    pending { c with writeQ := c.writeQ ++ [intent] } =
      if c.writer = .terminated then [] else pending c ++ intent.toList := by
  by_cases done : c.writer = .terminated
  · simp [pending, done]
  · cases intent <;> simp [pending, done, List.reduceOption_append]

theorem enqueue_inv {st next : State} {call : CallID} (inv : Inv st)
    (stepped : enqueue st call = some next) : Inv next := by
  simp only [enqueue] at stepped
  split at stepped
  case isFalse => simp at stepped
  rename_i ready
  obtain ⟨phase, -⟩ := ready
  obtain rfl := Option.some.inj stepped
  have active : (st.calls call).phase.active = true := by simp [phase, Phase.active]
  have quiet := quiet_of_not_waits inv active (by simp [phase, Phase.waits])
  have waiting : Inv (st.setPhase call .waiting) :=
    inv_setPhase inv call .waiting active (Or.inl rfl) (by simp [Phase.result?])
  have ok := waiting.writers (st.calls call).conn
  refine inv_setConn waiting _ _ ?_ ?_ id ⟨ok.sending, ok.dead, ok.err⟩
  · rw [pending_enqueue]
    split
    · exact List.nodup_nil
    · refine List.nodup_append.mpr ⟨inv.pendingNodup _, List.nodup_singleton _, ?_⟩
      rintro ticket member other mine rfl
      obtain rfl : ticket = ⟨call, (st.calls call).chan⟩ := by simpa using mine
      exact quiet.2 _ _ member rfl
  · intro ticket member
    rw [pending_enqueue] at member
    split at member
    · simp at member
    · rcases List.mem_append.mp member with old | mine
      · exact waiting.pendingOk _ ticket old
      · obtain rfl : ticket = ⟨call, (st.calls call).chan⟩ := by simpa using mine
        exact ⟨by simp, by simp, by simp [setPhase_phase, Phase.waits], quiet.1⟩

theorem refuse_inv {st next : State} {call : CallID} (inv : Inv st)
    (stepped : refuse st call = some next) : Inv next := by
  simp only [refuse] at stepped
  split at stepped
  case isFalse => simp at stepped
  rename_i ready
  obtain ⟨phase, dead⟩ := ready
  obtain rfl := Option.some.inj stepped
  have active : (st.calls call).phase.active = true := by simp [phase, Phase.active]
  obtain ⟨err, failed⟩ := (inv.writers _).err dead
  refine inv_setPhase inv call _ active
    (Or.inr (quiet_of_not_waits inv active (by simp [phase, Phase.waits]))) ?_
  intro outcome same
  obtain rfl := Option.some.inj same
  rw [failed]
  exact Or.inr dead

/-- The value in a call's channel is its own result. -/
theorem receive_inv {st next : State} {call : CallID} {at' : Phase} (inv : Inv st)
    (waits : at'.waits = true) (stepped : receive st call at' = some next) : Inv next := by
  simp only [receive] at stepped
  split at stepped
  case isFalse => simp at stepped
  rename_i phase
  obtain ⟨⟨origin, outcome⟩, found, rfl⟩ := Option.map_eq_some_iff.mp stepped
  have active : (st.calls call).phase.active = true := active_of_waits (phase ▸ waits)
  obtain ⟨sameChan, originWaits, justified⟩ := inv.buffer _ origin outcome found
  -- the channel has one active user, so the value in it was meant for this call
  obtain rfl := inv.unique origin call (active_of_waits originWaits) active sameChan
  have cleared := inv_clear inv (st.calls origin).chan
  refine inv_receipt (inv_setPhase cleared origin (.cleanup outcome) active
    (Or.inr ⟨by simp, quiet_of_buffered inv found⟩) ?_) origin
  intro result same
  obtain rfl := Option.some.inj same
  exact justified

theorem observeDead_inv {st next : State} {call : CallID} (inv : Inv st)
    (stepped : observeDead st call = some next) : Inv next := by
  simp only [observeDead] at stepped
  split at stepped
  case isFalse => simp at stepped
  rename_i ready
  obtain rfl := Option.some.inj stepped
  exact inv_setPhase inv call .sawDead (by simp [ready.1, Phase.active]) (Or.inl rfl)
    (by simp [Phase.result?])

/-- The step the guard is about: a terminated writer has no ticket left to
answer, so the channel can be given back. -/
theorem giveUp_inv {st next : State} {call : CallID} (inv : Inv st)
    (patient : (st.conns (st.calls call).conn).writer = .terminated)
    (stepped : giveUp st call = some next) : Inv next := by
  simp only [giveUp] at stepped
  split at stepped
  case isFalse => simp at stepped
  rename_i ready
  obtain ⟨phase, empty⟩ := ready
  obtain rfl := Option.some.inj stepped
  have dead := (inv.writers _).dead (Or.inr (Or.inr patient))
  obtain ⟨err, failed⟩ := (inv.writers _).err dead
  refine inv_setPhase inv call _ (by simp [phase, Phase.active]) (Or.inr ⟨empty, ?_⟩) ?_
  · rintro conn ticket member rfl
    have owner := (inv.pendingOk conn ticket member).conn
    rw [← owner, pending, if_pos patient] at member
    simp at member
  · intro outcome same
    obtain rfl := Option.some.inj same
    rw [failed]
    exact Or.inr dead

theorem cleanup_inv {st next : State} {call : CallID} (inv : Inv st)
    (stepped : cleanup st call = some next) : Inv next := by
  simp only [cleanup] at stepped
  split at stepped
  case h_2 => simp at stepped
  rename_i result phase
  obtain rfl := Option.some.inj stepped
  have active : (st.calls call).phase.active = true := by simp [phase, Phase.active]
  have quiet := quiet_of_not_waits inv active (by simp [phase, Phase.waits])
  refine inv_setPhase (inv_clear inv (st.calls call).chan) call (.putting result) active
    (Or.inr ⟨by simp, quiet.2⟩) ?_
  intro outcome same
  obtain rfl := Option.some.inj same
  exact inv.results call result (by simp [phase, Phase.result?])

theorem put_inv {st next : State} {call : CallID} (inv : Inv st)
    (stepped : put st call = some next) : Inv next := by
  simp only [put] at stepped
  split at stepped
  case h_2 => simp at stepped
  rename_i result phase
  obtain rfl := Option.some.inj stepped
  have active : (st.calls call).phase.active = true := by simp [phase, Phase.active]
  have moved := inv_setPhase inv call (.returned result) active
    (Or.inr (quiet_of_not_waits inv active (by simp [phase, Phase.waits]))) (by
      intro outcome same
      obtain rfl := Option.some.inj same
      exact inv.results call result (by simp [phase, Phase.result?]))
  constructor
  · exact moved.allocated
  · exact moved.unique
  · constructor
    · refine List.nodup_cons.mpr ⟨fun member => ?_, inv.pool.1⟩
      exact (inv.pool.2 _ member).2 call active rfl
    · intro chan member
      rcases List.mem_cons.mp member with rfl | member
      · refine ⟨inv.allocated call active, fun other otherActive => ?_⟩
        -- the call has returned, so it is not among the active ones any more
        have different : other ≠ call := by
          rintro rfl
          simp [setPhase_phase, Phase.active] at otherActive
        simp only [setPhase_phase, if_neg different] at otherActive
        intro same
        rw [setPhase_chan] at same
        exact different (inv.unique other call otherActive active same)
      · exact moved.pool.2 chan member
  · exact moved.buffer
  · exact moved.pendingNodup
  · intro conn ticket member
    obtain ⟨sameConn, sameChan, waits, empty⟩ := moved.pendingOk conn ticket member
    exact ⟨sameConn, sameChan, waits, empty⟩
  · exact moved.writers
  · exact moved.results
  · exact moved.receipts

theorem submitAsync_inv {st next : State} {conn : ConnID} (inv : Inv st)
    (stepped : submitAsync st conn = some next) : Inv next := by
  simp only [submitAsync] at stepped
  split at stepped
  case isFalse => simp at stepped
  obtain rfl := Option.some.inj stepped
  have ok := inv.writers conn
  refine inv_writer inv conn _ ?_ id ⟨ok.sending, ok.dead, ok.err⟩
  rw [pending_enqueue]
  split
  · rename_i done
    simp [pending, done]
  · simp

theorem take_inv {st next : State} {conn : ConnID} (inv : Inv st)
    (stepped : take st conn = some next) : Inv next := by
  simp only [take] at stepped
  split at stepped
  case h_2 => simp at stepped
  rename_i intent rest writer queue
  obtain rfl := Option.some.inj stepped
  refine inv_writer inv conn _ ?_ id ⟨by simp, by simp, (inv.writers conn).err⟩
  cases intent <;> simp [pending, writer, queue]

theorem held_after (outcome : Outcome) :
    (Writer.after outcome).held = none ∧ Writer.after outcome ≠ .terminated ∧
      (∀ processed conn c, WriterOk processed conn c →
        WriterOk processed conn { c with writer := .after outcome }) := by
  cases outcome with
  | none => exact ⟨rfl, by simp [Writer.after], fun _ _ _ ok => ⟨by simp [Writer.after],
      by simp [Writer.after], ok.err⟩⟩
  | some err => exact ⟨rfl, by simp [Writer.after], fun _ _ _ ok => ⟨by simp [Writer.after],
      by simp [Writer.after], ok.err⟩⟩

theorem process_inv {st next : State} {conn : ConnID} {outcome : Outcome} (inv : Inv st)
    (stepped : process st conn outcome = some next) : Inv next := by
  simp only [process] at stepped
  obtain ⟨idle, running, ok⟩ := held_after outcome
  split at stepped
  case h_3 => simp at stepped
  case h_1 writer =>
    obtain rfl := Option.some.inj stepped
    refine inv_writer inv conn _ ?_ id (ok _ _ _ (inv.writers conn))
    simp [pending, writer, running, idle]
  case h_2 ticket writer =>
    obtain rfl := Option.some.inj stepped
    refine inv_writer (inv_record inv (conn, ticket.call, outcome)) conn
      { st.conns conn with writer := .sending ticket outcome } ?_ id
      ⟨?_, by simp, (inv.writers conn).err⟩
    · simp [pending, writer]
    · rintro other result same
      obtain ⟨rfl, rfl⟩ := Writer.sending.inj same
      simp

/-- The writer lets go of the ticket and fills its channel. -/
theorem answer_inv {st next : State} {conn : ConnID} {ticket : Ticket} {outcome : Outcome}
    {after : Conn} (inv : Inv st) (held : pending (st.conns conn) = ticket :: pending after)
    (dead : (st.conns conn).writeDead = true → after.writeDead = true)
    (writer : WriterOk st.processed conn after) (justified : Justified st ticket.call outcome)
    (stepped : deliver (st.setConn conn after) ticket outcome = some next) : Inv next := by
  simp only [deliver] at stepped
  split at stepped
  case isFalse => simp at stepped
  obtain rfl := Option.some.inj stepped
  have nodup := inv.pendingNodup conn
  rw [held] at nodup
  obtain ⟨once, rest⟩ := List.nodup_cons.mp nodup
  have mine := inv.pendingOk conn ticket (by simp [held])
  have released := inv_setConn inv conn after rest
    (fun other member => inv.pendingOk conn other (by simp [held, member])) dead writer
  refine inv_fill released conn ticket outcome ⟨mine.conn, mine.chan, mine.waits, mine.empty⟩
    (justified_setConn dead justified) ?_
  -- a second ticket of the same call would be on the same connection and channel
  intro other leftover member same
  rw [setConn_conns] at member
  split at member
  · have ok := inv.pendingOk conn leftover (by simp [held, member])
    have sameChan : leftover.chan = ticket.chan := by rw [← ok.chan, ← mine.chan, same]
    have equal : leftover = ticket := Ticket.ext same sameChan
    exact once (equal ▸ member)
  · rename_i elsewhere
    have ok := inv.pendingOk other leftover member
    exact elsewhere (ok.conn.symm.trans (same ▸ mine.conn))

theorem send_inv {st next : State} {conn : ConnID} (inv : Inv st)
    (stepped : send st conn = some next) : Inv next := by
  simp only [send] at stepped
  split at stepped
  case h_2 => simp at stepped
  rename_i ticket outcome writer
  obtain ⟨idle, running, ok⟩ := held_after outcome
  have record := (inv.writers conn).sending ticket outcome writer
  have held : pending (st.conns conn) =
      ticket :: pending { st.conns conn with writer := .after outcome } := by
    simp [pending, writer, running, idle]
  have owner := (inv.pendingOk conn ticket (by simp [held])).conn
  refine answer_inv inv held id (ok _ _ _ (inv.writers conn)) ?_ stepped
  cases outcome with
  | none => simpa [Justified, owner] using record
  | some err => exact Or.inl (by simpa [owner] using record)

theorem stop_inv {st next : State} {conn : ConnID} (inv : Inv st)
    (stepped : stop st conn = some next) : Inv next := by
  simp only [stop] at stepped
  split at stepped
  case isFalse => simp at stepped
  rename_i ready
  obtain rfl := Option.some.inj stepped
  refine inv_writer inv conn _ ?_ id ⟨by simp, by simp, (inv.writers conn).err⟩
  simp [pending, ready.1]

theorem exit_inv {st next : State} {conn : ConnID} (inv : Inv st)
    (stepped : exit st conn = some next) : Inv next := by
  simp only [exit] at stepped
  split at stepped
  case h_2 => simp at stepped
  rename_i err writer
  obtain rfl := Option.some.inj stepped
  refine inv_writer inv conn _ ?_ (fun _ => rfl) ⟨by simp, fun _ => rfl, fun _ => ⟨err, rfl⟩⟩
  simp [pending, writer]

theorem drainTake_inv {st next : State} {conn : ConnID} (inv : Inv st)
    (stepped : drainTake st conn = some next) : Inv next := by
  simp only [drainTake] at stepped
  have ok := inv.writers conn
  split at stepped
  case h_3 => simp at stepped
  case h_1 rest writer queue =>
    obtain rfl := Option.some.inj stepped
    refine inv_writer inv conn _ ?_ id ⟨ok.sending, ok.dead, ok.err⟩
    simp [pending, writer, queue]
  case h_2 ticket rest writer queue =>
    obtain rfl := Option.some.inj stepped
    refine inv_writer inv conn _ ?_ id ⟨by simp, fun _ => ok.dead (Or.inl writer), ok.err⟩
    simp [pending, writer, queue]

theorem drainSend_inv {st next : State} {conn : ConnID} (inv : Inv st)
    (stepped : drainSend st conn = some next) : Inv next := by
  simp only [drainSend] at stepped
  split at stepped
  case h_2 => simp at stepped
  rename_i ticket writer
  have ok := inv.writers conn
  have dead := ok.dead (Or.inr (Or.inl ⟨ticket, writer⟩))
  have held : pending (st.conns conn) =
      ticket :: pending { st.conns conn with writer := .draining } := by
    simp [pending, writer]
  have owner := (inv.pendingOk conn ticket (by simp [held])).conn
  obtain ⟨err, failed⟩ := ok.err dead
  refine answer_inv inv held id ⟨by simp, fun _ => dead, ok.err⟩ ?_ stepped
  rw [failed]
  exact Or.inr (by rw [owner]; exact dead)

theorem drainEnd_inv {st next : State} {conn : ConnID} (inv : Inv st)
    (stepped : drainEnd st conn = some next) : Inv next := by
  simp only [drainEnd] at stepped
  split at stepped
  case h_2 => simp at stepped
  rename_i writer queue
  obtain rfl := Option.some.inj stepped
  have ok := inv.writers conn
  refine inv_writer inv conn _ ?_ id ⟨by simp, fun _ => ok.dead (Or.inl writer), ok.err⟩
  simp [pending, writer, queue, List.reduceOption]

theorem step_inv {st next : State} {action : Action} (inv : Inv st) (patient : Patient st action)
    (stepped : step st action = some next) : Inv next := by
  cases action with
  | submit call conn chan => exact submit_inv inv stepped
  | enqueue call => exact enqueue_inv inv stepped
  | refuse call => exact refuse_inv inv stepped
  | receive call => exact receive_inv inv rfl stepped
  | observeDead call => exact observeDead_inv inv stepped
  | receiveLate call => exact receive_inv inv rfl stepped
  | giveUp call => exact giveUp_inv inv patient stepped
  | cleanup call => exact cleanup_inv inv stepped
  | put call => exact put_inv inv stepped
  | submitAsync conn => exact submitAsync_inv inv stepped
  | take conn => exact take_inv inv stepped
  | process conn outcome => exact process_inv inv stepped
  | send conn => exact send_inv inv stepped
  | shutdown conn =>
      obtain rfl := Option.some.inj stepped
      have ok := inv.writers conn
      exact inv_writer inv conn _ rfl id ⟨ok.sending, ok.dead, ok.err⟩
  | stop conn => exact stop_inv inv stepped
  | exit conn => exact exit_inv inv stepped
  | drainTake conn => exact drainTake_inv inv stepped
  | drainSend conn => exact drainSend_inv inv stepped
  | drainEnd conn => exact drainEnd_inv inv stepped

theorem results_agree_while_patient (trace : List Action) (last : State)
    (patient : Guarded step Patient State.new trace)
    (ran : run step State.new trace = some last) : Agrees last := by
  have inv := run_invariant (fun _ _ _ inv patient stepped => step_inv inv patient stepped)
    inv_new patient ran
  constructor
  · intro call result returned
    exact inv.results call result (by simp [returned, Phase.result?])
  · exact inv.receipts

/-- Connection 0 is shut down with the intent of call 0 still queued. The call
leaves, its channel goes to call 1 on connection 1, and only then does the
drain loop of connection 0 answer. -/
def lateDrainTrace : List Action :=
  [.submit 0 0 0, .enqueue 0, .shutdown 0, .stop 0, .exit 0, .observeDead 0, .giveUp 0, .cleanup 0,
    .put 0, .submit 1 1 0, .enqueue 1, .drainTake 0, .drainSend 0, .receive 1, .cleanup 1, .put 1]

theorem drained_result_reaches_other_connection :
    ¬ ∀ trace last, run step State.new trace = some last → Agrees last := by
  intro agrees
  obtain ⟨last, ran⟩ : ∃ last, run step State.new lateDrainTrace = some last :=
    Option.isSome_iff_exists.mp (by decide)
  have outcome : (run step State.new lateDrainTrace).map (fun st =>
      ((st.calls 1).phase, (st.calls 1).conn, st.processed.isEmpty, (st.conns 1).writeDead)) =
      some (.returned (some .connClosed), 1, true, false) := by decide
  rw [ran] at outcome
  simp only [Option.map_some, Option.some.injEq, Prod.mk.injEq, List.isEmpty_iff] at outcome
  obtain ⟨returned, conn, processed, alive⟩ := outcome
  have claim := (agrees lateDrainTrace last ran).results 1 _ returned
  simp [Justified, conn, processed, alive] at claim

/-- The same shutdown with the drain loop ahead of the leaving call. -/
def promptDrainTrace : List Action :=
  [.submit 0 0 0, .enqueue 0, .submit 1 0 1, .shutdown 0, .stop 0, .exit 0, .observeDead 0,
    .drainTake 0, .drainSend 0, .drainEnd 0, .receiveLate 0, .cleanup 0, .put 0, .enqueue 1,
    .observeDead 1, .giveUp 1, .cleanup 1, .put 1, .submit 2 1 0, .enqueue 2, .take 1,
    .process 1 none, .send 1, .receive 2, .cleanup 2, .put 2]

theorem results_agree_while_patient_prompt : ∃ last,
    run step State.new promptDrainTrace = some last ∧
      Guarded step Patient State.new promptDrainTrace ∧ Agrees last := by
  obtain ⟨last, ran⟩ : ∃ last, run step State.new promptDrainTrace = some last :=
    Option.isSome_iff_exists.mp (by decide)
  have patient : Guarded step Patient State.new promptDrainTrace := by decide
  exact ⟨last, ran, patient, results_agree_while_patient promptDrainTrace last patient ran⟩

end ReverseHttp.WriteResults
