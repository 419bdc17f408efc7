import ReverseHttp.Transition
import Mathlib.Algebra.BigOperators.Ring.Finset
import Mathlib.Algebra.Order.BigOperators.Group.Finset

/-!
The book-keeping of a connection pool: `n` slots that each run
`maintainConnection`, the connections they dial, the reapers that take over a
draining connection, and any number of `Shutdown` calls.

A slot is cut at every statement of `maintainConnection` and `dial`. A
connection's serve loop may send its first SETTINGS, start to drain and return
at any time; the deadline `Shutdown` sets only makes it return. `errCh` has one
place: `returned` is a serve loop whose result lies in it, `received` one whose
result was taken. A reaper counts as live from the `maintainers.Add(1)` in front
of its `go` statement.

Ghost: `started` are the connections ever started, `holder` is who has the
connection's `errCh` in its hands, `released` how often a slot called
`ready.Done`.
-/

namespace ReverseHttp.PoolShutdown

open Transition Finset

/-- The steps of `dial` that can fail before there is a connection. -/
inductive Stage where
  | tlsDial
  | handshake
  | alpn
  | startConnection
  deriving DecidableEq, Repr

def Stage.next : Stage → Option Stage
  | .tlsDial => some .handshake
  | .handshake => some .alpn
  | .alpn => some .startConnection
  | .startConnection => none

/-- The program points of `maintainConnection`, those of `dial` included. -/
inductive Phase where
  | testing
  | dialing (stage : Stage)
  | registering (conn : Nat)
  | awaiting (conn : Nat)
  | announcing (conn : Nat)
  | serving (conn : Nat)
  | handing (conn : Nat)
  | spawning (conn : Nat)
  | dropping (conn : Nat)
  | pausing
  | leaving
  | exiting
  | exited
  deriving DecidableEq, Repr

structure Slot where
  phase : Phase
  once : Bool
  released : Nat
  deriving DecidableEq, Repr

inductive Serve where
  | absent
  | serving
  | returned
  | received
  deriving DecidableEq, Repr

inductive Reaper where
  | absent
  | counted
  | waiting
  | deregistering
  | finishing
  | exited
  deriving DecidableEq, Repr

inductive Holder where
  | nobody
  | slot (index : Nat)
  | reaper
  deriving DecidableEq, Repr

/-- `registered`: the connection is a key of `Pool.conns`. -/
structure Conn where
  serve : Serve
  ready : Bool
  draining : Bool
  registered : Bool
  reaper : Reaper
  holder : Holder
  deriving DecidableEq, Repr

inductive Call where
  | idle
  | waiting
  | drained
  | returned
  | expired
  deriving DecidableEq, Repr

structure State where
  slots : Nat → Slot
  conns : Nat → Conn
  started : Finset Nat
  maintainers : Int
  ready : Int
  shutdown : Bool
  calls : Nat → Call

/-- `NewConnectionPool` with `n` slots. -/
def State.new (n : Nat) : State :=
  { slots := fun _ => { phase := .testing, once := false, released := 0 }
    conns := fun _ =>
      { serve := .absent, ready := false, draining := false, registered := false
        reaper := .absent, holder := .nobody }
    started := ∅
    maintainers := n
    ready := n
    shutdown := false
    calls := fun _ => .idle }

def State.put (st : State) (i : Nat) (slot : Slot) : State :=
  { st with slots := Function.update st.slots i slot }

def State.putConn (st : State) (c : Nat) (conn : Conn) : State :=
  { st with conns := Function.update st.conns c conn }

def State.goto (st : State) (i : Nat) (phase : Phase) : State :=
  st.put i { st.slots i with phase := phase }

/-- `once.Do(p.ready.Done)`, and on to the next statement. -/
def State.release (st : State) (i : Nat) (phase : Phase) : State :=
  let slot := st.slots i
  { st.put i { phase := phase, once := true
               released := if slot.once then slot.released else slot.released + 1 } with
    ready := if slot.once then st.ready else st.ready - 1 }

inductive LoopMove where
  | seeShutdown
  | goOn
  | advance (stage later : Stage)
  | fail (stage : Stage)
  | startConnection (conn : Nat)
  | registerConn (conn : Nat)
  | seeReady (conn : Nat)
  | receiveErr (conn : Nat)
  | deregisterConn (conn : Nat)
  | announce (conn : Nat)
  | seeDrainStarted (conn : Nat)
  | addMaintainer (conn : Nat)
  | spawnReaper (conn : Nat)
  | timer
  | releaseReady
  | done
  deriving DecidableEq, Repr

inductive ReaperMove where
  | receiveErr
  | deregisterConn
  | done
  deriving DecidableEq, Repr

inductive ServeMove where
  | settings
  | beginDrain
  | returns
  deriving DecidableEq, Repr

inductive CallMove where
  | close
  | waited
  | returns
  | expire
  deriving DecidableEq, Repr

inductive Action where
  | loop (slot : Nat) (move : LoopMove)
  | reaper (conn : Nat) (move : ReaperMove)
  | serve (conn : Nat) (move : ServeMove)
  | call (call : Nat) (move : CallMove)
  deriving DecidableEq, Repr

def loopStep (st : State) (i : Nat) : LoopMove → Option State
  -- at the head of the loop and in the pause behind `dial`
  | .seeShutdown =>
      if ((st.slots i).phase = .testing ∨ (st.slots i).phase = .pausing) ∧ st.shutdown then
        some (st.goto i .leaving)
      else none
  | .goOn =>
      if (st.slots i).phase = .testing ∧ st.shutdown = false then
        some (st.goto i (.dialing .tlsDial))
      else none
  | .advance stage later =>
      if (st.slots i).phase = .dialing stage ∧ stage.next = some later then
        some (st.goto i (.dialing later))
      else none
  | .fail stage =>
      if (st.slots i).phase = .dialing stage then some (st.goto i .pausing) else none
  -- the serve loop runs before the connection is registered
  | .startConnection c =>
      if (st.slots i).phase = .dialing .startConnection ∧ (st.conns c).serve = .absent then
        some { (st.goto i (.registering c)).putConn c
            { st.conns c with serve := .serving, holder := .slot i } with
          started := insert c st.started }
      else none
  | .registerConn c =>
      if (st.slots i).phase = .registering c then
        some ((st.goto i (.awaiting c)).putConn c { st.conns c with registered := true })
      else none
  | .seeReady c =>
      if (st.slots i).phase = .awaiting c ∧ (st.conns c).ready then
        some (st.goto i (.announcing c))
      else none
  -- before the peer's SETTINGS or after
  | .receiveErr c =>
      if ((st.slots i).phase = .awaiting c ∨ (st.slots i).phase = .serving c) ∧
          (st.conns c).serve = .returned then
        some ((st.goto i (.dropping c)).putConn c { st.conns c with serve := .received })
      else none
  | .deregisterConn c =>
      if (st.slots i).phase = .dropping c then
        some ((st.goto i .pausing).putConn c
          { st.conns c with registered := false, holder := .nobody })
      else none
  -- `once.Do`: after the first connection nothing is released any more
  | .announce c =>
      if (st.slots i).phase = .announcing c then some (st.release i (.serving c)) else none
  | .seeDrainStarted c =>
      if (st.slots i).phase = .serving c ∧ (st.conns c).draining then
        some (st.goto i (.handing c))
      else none
  -- the reaper is counted before the slot can go on to exit
  | .addMaintainer c =>
      if (st.slots i).phase = .handing c then
        some { (st.goto i (.spawning c)).putConn c { st.conns c with reaper := .counted } with
          maintainers := st.maintainers + 1 }
      else none
  | .spawnReaper c =>
      if (st.slots i).phase = .spawning c then
        some ((st.goto i .pausing).putConn c
          { st.conns c with reaper := .waiting, holder := .reaper })
      else none
  | .timer => if (st.slots i).phase = .pausing then some (st.goto i .testing) else none
  | .releaseReady =>
      if (st.slots i).phase = .leaving then some (st.release i .exiting) else none
  | .done =>
      if (st.slots i).phase = .exiting then
        some { st.goto i .exited with maintainers := st.maintainers - 1 }
      else none

def reaperStep (st : State) (c : Nat) : ReaperMove → Option State
  | .receiveErr =>
      if (st.conns c).reaper = .waiting ∧ (st.conns c).serve = .returned then
        some (st.putConn c { st.conns c with reaper := .deregistering, serve := .received })
      else none
  | .deregisterConn =>
      if (st.conns c).reaper = .deregistering then
        some (st.putConn c
          { st.conns c with reaper := .finishing, registered := false, holder := .nobody })
      else none
  | .done =>
      if (st.conns c).reaper = .finishing then
        some { st.putConn c { st.conns c with reaper := .exited } with
          maintainers := st.maintainers - 1 }
      else none

def serveStep (st : State) (c : Nat) : ServeMove → Option State
  | .settings =>
      if (st.conns c).serve = .serving then some (st.putConn c { st.conns c with ready := true })
      else none
  | .beginDrain =>
      if (st.conns c).serve = .serving ∧ (st.conns c).ready then
        some (st.putConn c { st.conns c with draining := true })
      else none
  | .returns =>
      if (st.conns c).serve = .serving then
        some (st.putConn c { st.conns c with serve := .returned })
      else none

/-- `waited` is `maintainers.Wait` in the goroutine of the call. -/
def callStep (st : State) (k : Nat) : CallMove → Option State
  | .close =>
      if st.calls k = .idle then
        some { st with shutdown := true, calls := Function.update st.calls k .waiting }
      else none
  | .waited =>
      if st.calls k = .waiting ∧ st.maintainers = 0 then
        some { st with calls := Function.update st.calls k .drained }
      else none
  | .returns =>
      if st.calls k = .drained then
        some { st with calls := Function.update st.calls k .returned }
      else none
  | .expire =>
      if st.calls k = .waiting ∨ st.calls k = .drained then
        some { st with calls := Function.update st.calls k .expired }
      else none

def step (n : Nat) (st : State) : Action → Option State
  | .loop i move => if i < n then loopStep st i move else none
  | .reaper c move => reaperStep st c move
  | .serve c move => serveStep st c move
  | .call k move => callStep st k move

/-! What the accounting is to give. -/

def Phase.conn : Phase → Option Nat
  | .registering c | .awaiting c | .announcing c | .serving c | .handing c | .spawning c
  | .dropping c => some c
  | _ => none

def Slot.live (slot : Slot) : Nat := if slot.phase = .exited then 0 else 1

def Conn.liveReaper (conn : Conn) : Nat :=
  if conn.reaper = .absent ∨ conn.reaper = .exited then 0 else 1

inductive Owner where
  | loop (slot : Nat)
  | reaper (conn : Nat)
  deriving DecidableEq, Repr

/-- The owner is live and has the removal of `c` from `Pool.conns` still before it. -/
def Owns (n : Nat) (st : State) : Owner → Nat → Prop
  | .loop i, c => i < n ∧ (st.slots i).phase.conn = some c
  | .reaper d, c => d = c ∧
      ((st.conns c).reaper = .waiting ∨ (st.conns c).reaper = .deregistering)

def Action.owner : Action → Option Owner
  | .loop i _ => some (.loop i)
  | .reaper c _ => some (.reaper c)
  | .serve _ _ | .call _ _ => none

/-- Steps of the owner, and of the reaper it hands the connection to, remove `c`. -/
def Removable (n : Nat) (st : State) (owner : Owner) (c : Nat) : Prop :=
  ∃ trace last, run (step n) st trace = some last ∧ (last.conns c).registered = false ∧
    ∀ action ∈ trace, action.owner = some owner ∨ action.owner = some (.reaper c)

def State.loops (n : Nat) (st : State) : Int := ∑ i ∈ range n, ((st.slots i).live : Int)

def State.reapers (st : State) : Int := ∑ c ∈ st.started, ((st.conns c).liveReaper : Int)

def State.releases (n : Nat) (st : State) : Int := ∑ i ∈ range n, ((st.slots i).released : Int)

structure Accounted (n : Nat) (st : State) : Prop where
  maintainers : st.maintainers = st.loops n + st.reapers
  nonneg : 0 ≤ st.maintainers
  owner : ∀ c, (st.conns c).registered = true → ∃! owner, Owns n st owner c
  removes : ∀ c owner, (st.conns c).registered = true → Owns n st owner c →
    (st.conns c).serve ≠ .serving → Removable n st owner c
  ready : st.ready = n - st.releases n
  once : ∀ i < n, (st.slots i).released ≤ 1 ∧
    ((st.slots i).phase = .exited → (st.slots i).released = 1)
  returned : ∀ k, st.calls k = .returned → ∀ c,
    (st.conns c).registered = false ∧ (c ∈ st.started → (st.conns c).serve ≠ .serving)

/-! The invariant: who holds a connection, and the counters. -/

def Conn.running (conn : Conn) : Prop := conn.serve = .serving ∨ conn.serve = .returned

/-- What a slot at this point knows of the connection in its hands. -/
def Phase.Fits : Phase → Conn → Prop
  | .registering _, conn => conn.registered = false ∧ conn.running ∧ conn.reaper = .absent
  | .awaiting _, conn | .announcing _, conn | .serving _, conn | .handing _, conn =>
      conn.registered = true ∧ conn.running ∧ conn.reaper = .absent
  | .spawning _, conn => conn.registered = true ∧ conn.running ∧ conn.reaper = .counted
  | .dropping _, conn => conn.registered = true ∧ conn.serve = .received ∧ conn.reaper = .absent
  | _, _ => False

def Conn.Ok (n : Nat) (slots : Nat → Slot) (c : Nat) (conn : Conn) : Prop :=
  match conn.holder with
  | .slot i => i < n ∧ (slots i).phase.conn = some c ∧ (slots i).phase.Fits conn
  | .reaper => conn.registered = true ∧ ((conn.reaper = .waiting ∧ conn.running) ∨
      (conn.reaper = .deregistering ∧ conn.serve = .received))
  | .nobody => conn.registered = false ∧ ((conn.reaper = .absent ∧ conn.serve = .absent) ∨
      (conn.serve = .received ∧
        (conn.reaper = .absent ∨ conn.reaper = .finishing ∨ conn.reaper = .exited)))

structure Held (n : Nat) (st : State) : Prop where
  slots : ∀ i c, (st.slots i).phase.conn = some c → (st.conns c).holder = .slot i
  conns : ∀ c, (st.conns c).Ok n st.slots c
  started : ∀ c, (st.conns c).serve ≠ .absent → c ∈ st.started

structure Slot.Settled (slot : Slot) : Prop where
  released : slot.released = if slot.once then 1 else 0
  ended : slot.phase = .exiting ∨ slot.phase = .exited → slot.once = true

structure Counted (n : Nat) (st : State) : Prop where
  maintainers : st.maintainers = st.loops n + st.reapers
  ready : st.ready = n - st.releases n
  slots : ∀ i, (st.slots i).Settled

structure Valid (n : Nat) (st : State) : Prop where
  held : Held n st
  counted : Counted n st
  waited : ∀ k, st.calls k = .drained ∨ st.calls k = .returned → st.maintainers = 0

theorem valid_new (n : Nat) : Valid n (State.new n) := by
  refine ⟨⟨?_, ?_, ?_⟩, ⟨?_, ?_, ?_⟩, ?_⟩
  · exact nofun
  · exact fun c => ⟨rfl, .inl ⟨rfl, rfl⟩⟩
  · exact fun c started => absurd rfl started
  · simp [State.loops, State.reapers, State.new, Slot.live]
  · simp [State.releases, State.new]
  · exact fun i => ⟨rfl, nofun⟩
  · simp [State.new]

/-- One summand changes. -/
theorem sum_update {α : Type} (weight : α → Int) (f : Nat → α) (value : α) {s : Finset Nat}
    {i : Nat} (member : i ∈ s) :
    ∑ j ∈ s, weight (Function.update f i value j) =
      ∑ j ∈ s, weight (f j) + (weight value - weight (f i)) := by
  have others : ∑ j ∈ s.erase i, weight (Function.update f i value j) =
      ∑ j ∈ s.erase i, weight (f j) :=
    sum_congr rfl fun j inner => by rw [Function.update_of_ne (ne_of_mem_erase inner)]
  rw [← add_sum_erase s _ member, others, ← add_sum_erase s (fun j => weight (f j)) member,
    Function.update_self]
  omega

section Steps

variable {n : Nat} {st next : State} {i c : Nat}

theorem ok_of_fits {slots : Nat → Slot} {conn : Conn} (inside : i < n)
    (holder : conn.holder = .slot i) (here : (slots i).phase.conn = some c)
    (fits : (slots i).phase.Fits conn) : conn.Ok n slots c := by
  rw [Conn.Ok, holder]
  exact ⟨inside, here, fits⟩

/-- The connections that slot `i` does not hold do not see it move. -/
theorem Conn.Ok.other {conn : Conn} {slot : Slot} (ok : conn.Ok n st.slots c)
    (other : conn.holder ≠ .slot i) : conn.Ok n (Function.update st.slots i slot) c := by
  unfold Conn.Ok at ok ⊢
  split at ok
  next j holder =>
    have different : j ≠ i := fun same => other (same ▸ holder)
    simp only [Function.update_of_ne different]
    exact ok
  next holder => simpa only [holder] using ok
  next holder => simpa only [holder] using ok

/-- Slot `i` moves and with it connection `c`, the only one it may hold before or after. -/
theorem put_held (held : Held n st) {slot : Slot} {conn : Conn}
    (slots : next.slots = Function.update st.slots i slot)
    (conns : next.conns = Function.update st.conns c conn)
    (started : st.started ⊆ next.started)
    (before : ∀ d, (st.slots i).phase.conn = some d → d = c)
    (after : ∀ d, slot.phase.conn = some d → d = c)
    (free : ∀ j, (st.conns c).holder = .slot j → j = i)
    (mine : slot.phase.conn = some c → conn.holder = .slot i)
    (ok : conn.Ok n next.slots c) (listed : conn.serve ≠ .absent → c ∈ next.started) :
    Held n next := by
  constructor
  · intro j d holds
    rw [conns]
    rw [slots] at holds
    by_cases moved : j = i
    · subst moved
      rw [Function.update_self] at holds
      obtain rfl := after d holds
      rw [Function.update_self]
      exact mine holds
    · rw [Function.update_of_ne moved] at holds
      have holder := held.slots j d holds
      have different : d ≠ c := by
        rintro rfl
        exact moved (free j holder)
      rwa [Function.update_of_ne different]
  · intro d
    by_cases here : d = c
    · subst here
      rw [conns, Function.update_self]
      exact ok
    · rw [conns, slots, Function.update_of_ne here]
      refine (held.conns d).other fun holder => ?_
      have holds := held.conns d
      rw [Conn.Ok, holder] at holds
      exact here (before d holds.2.1)
  · intro d there
    rw [conns] at there
    by_cases here : d = c
    · subst here
      rw [Function.update_self] at there
      exact listed there
    · rw [Function.update_of_ne here] at there
      exact started (held.started d there)

/-- The slot holds no connection before and after. -/
theorem goto_held (held : Held n st) {slot : Slot}
    (slots : next.slots = Function.update st.slots i slot) (conns : next.conns = st.conns)
    (started : next.started = st.started) (before : (st.slots i).phase.conn = none)
    (after : slot.phase.conn = none) : Held n next := by
  have away : ∀ c, (st.conns c).holder ≠ .slot i := by
    intro c holder
    have ok := held.conns c
    rw [Conn.Ok, holder] at ok
    cases before.symm.trans ok.2.1
  constructor
  · intro j d holds
    rw [conns]
    rw [slots] at holds
    by_cases moved : j = i
    · subst moved
      rw [Function.update_self, after] at holds
      cases holds
    · rw [Function.update_of_ne moved] at holds
      exact held.slots j d holds
  · intro d
    rw [conns, slots]
    exact (held.conns d).other (away d)
  · rw [conns, started]
    exact held.started

/-- The slot keeps its connection, which may change too. -/
theorem stay_held (held : Held n st) (inside : i < n) {slot : Slot} {conn : Conn}
    (slots : next.slots = Function.update st.slots i slot)
    (conns : next.conns = Function.update st.conns c conn)
    (started : next.started = st.started) (before : (st.slots i).phase.conn = some c)
    (after : slot.phase.conn = some c) (holder : conn.holder = (st.conns c).holder)
    (fits : slot.phase.Fits conn) (there : (st.conns c).serve ≠ .absent) : Held n next := by
  have mine := held.slots i c before
  refine put_held held slots conns started.symm.subset ?_ ?_ ?_ ?_ ?_ ?_
  · exact fun d holds => (Option.some.inj (before.symm.trans holds)).symm
  · exact fun d holds => (Option.some.inj (after.symm.trans holds)).symm
  · exact fun j other => (Holder.slot.inj (mine.symm.trans other)).symm
  · exact fun _ => holder.trans mine
  · refine ok_of_fits inside (holder.trans mine) ?_ ?_ <;> rw [slots, Function.update_self]
    · exact after
    · exact fits
  · exact fun _ => started ▸ held.started c there

/-- The slot lets go of its connection. -/
theorem leave_held (held : Held n st) {slot : Slot} {conn : Conn}
    (slots : next.slots = Function.update st.slots i slot)
    (conns : next.conns = Function.update st.conns c conn)
    (started : next.started = st.started) (before : (st.slots i).phase.conn = some c)
    (after : slot.phase.conn = none) (ok : conn.Ok n next.slots c)
    (there : (st.conns c).serve ≠ .absent) : Held n next := by
  have mine := held.slots i c before
  refine put_held held slots conns started.symm.subset ?_ ?_ ?_ ?_ ok ?_
  · exact fun d holds => (Option.some.inj (before.symm.trans holds)).symm
  · exact fun d holds => nomatch after.symm.trans holds
  · exact fun j other => (Holder.slot.inj (mine.symm.trans other)).symm
  · exact fun holds => nomatch after.symm.trans holds
  · exact fun _ => started ▸ held.started c there

/-- A connection changes and no slot does. -/
theorem conn_held (held : Held n st) {conn : Conn} (slots : next.slots = st.slots)
    (conns : next.conns = Function.update st.conns c conn) (started : next.started = st.started)
    (holder : ∀ j, (st.conns c).holder = .slot j → conn.holder = .slot j)
    (ok : conn.Ok n st.slots c) (there : (st.conns c).serve ≠ .absent) : Held n next := by
  constructor
  · intro j d holds
    rw [slots] at holds
    have before := held.slots j d holds
    rw [conns]
    by_cases here : d = c
    · subst here
      rw [Function.update_self]
      exact holder j before
    · rwa [Function.update_of_ne here]
  · rw [slots, conns]
    exact (Function.forall_update_iff st.conns fun d conn => conn.Ok n st.slots d).mpr
      ⟨ok, fun d _ => held.conns d⟩
  · rw [conns, started]
    exact (Function.forall_update_iff st.conns fun d conn =>
      conn.serve ≠ .absent → d ∈ st.started).mpr
      ⟨fun _ => held.started c there, fun d _ => held.started d⟩

theorem Held.fits (held : Held n st) (holds : (st.slots i).phase.conn = some c) :
    (st.slots i).phase.Fits (st.conns c) := by
  have ok := held.conns c
  rw [Conn.Ok, held.slots i c holds] at ok
  exact ok.2.2

theorem Phase.Fits.started {phase : Phase} {conn : Conn} (fits : phase.Fits conn) :
    conn.serve ≠ .absent := by
  intro absent
  cases phase <;> simp_all [Phase.Fits, Conn.running]

/-- What a slot at `phase` knows. -/
theorem Held.at (held : Held n st) {phase : Phase} (here : (st.slots i).phase = phase)
    (conn : phase.conn = some c) : (st.slots i).phase.conn = some c ∧
      phase.Fits (st.conns c) ∧ (st.conns c).serve ≠ .absent := by
  subst here
  exact ⟨conn, held.fits conn, (held.fits conn).started⟩

theorem Conn.Ok.fresh {slots : Nat → Slot} {conn : Conn} (ok : conn.Ok n slots c)
    (absent : conn.serve = .absent) :
    conn.holder = .nobody ∧ conn.registered = false ∧ conn.reaper = .absent := by
  unfold Conn.Ok at ok
  split at ok
  next => exact absurd absent ok.2.2.started
  next => simp [Conn.running, absent] at ok
  next holder => simpa [holder, absent] using ok

theorem start_held (held : Held n st) (inside : i < n)
    (stepped : loopStep st i (.startConnection c) = some next) : Held n next := by
  obtain ⟨⟨here, absent⟩, rfl⟩ := enabled stepped
  obtain ⟨nobody, unregistered, unreaped⟩ := (held.conns c).fresh absent
  refine put_held held rfl rfl (subset_insert _ _) ?_ ?_ ?_ ?_ ?_ ?_
  · intro d holds
    rw [here] at holds
    cases holds
  · exact fun d holds => (Option.some.inj holds).symm
  · intro j holder
    cases nobody.symm.trans holder
  · exact fun _ => rfl
  · refine ok_of_fits inside rfl ?_ ?_ <;>
      simp only [State.putConn, State.goto, State.put, Function.update_self]
    · rfl
    · exact ⟨unregistered, .inl rfl, unreaped⟩
  · exact fun _ => mem_insert_self c st.started

/-- The slot moves on with its connection as it is. -/
theorem carry_held (held : Held n st) (inside : i < n) {phase : Phase} {slot : Slot}
    (slots : next.slots = Function.update st.slots i slot) (conns : next.conns = st.conns)
    (started : next.started = st.started) (here : (st.slots i).phase = phase)
    (before : phase.conn = some c) (after : slot.phase.conn = some c)
    (fits : phase.Fits (st.conns c) → slot.phase.Fits (st.conns c)) : Held n next := by
  obtain ⟨holds, fitted, there⟩ := held.at here before
  have conns' : next.conns = Function.update st.conns c (st.conns c) := by
    rw [conns, Function.update_eq_self]
  exact stay_held held inside slots conns' started holds after rfl (fits fitted) there

theorem loopStep_held {move : LoopMove} (held : Held n st) (inside : i < n)
    (stepped : loopStep st i move = some next) : Held n next := by
  cases move with
  | seeShutdown =>
      obtain ⟨⟨here, _⟩, rfl⟩ := enabled stepped
      refine goto_held held rfl rfl rfl ?_ rfl
      rcases here with here | here <;> rw [here] <;> rfl
  | goOn | advance stage later =>
      obtain ⟨⟨here, _⟩, rfl⟩ := enabled stepped
      exact goto_held held rfl rfl rfl (by rw [here]; rfl) rfl
  | fail stage | timer | releaseReady | done =>
      obtain ⟨here, rfl⟩ := enabled stepped
      exact goto_held held rfl rfl rfl (by rw [here]; rfl) rfl
  | startConnection c => exact start_held held inside stepped
  | registerConn c =>
      obtain ⟨here, rfl⟩ := enabled stepped
      obtain ⟨holds, fits, there⟩ := held.at here rfl
      exact stay_held held inside rfl rfl rfl holds rfl rfl ⟨rfl, fits.2⟩ there
  | seeReady c | seeDrainStarted c =>
      obtain ⟨⟨here, _⟩, rfl⟩ := enabled stepped
      exact carry_held held inside rfl rfl rfl here rfl rfl id
  | receiveErr c =>
      obtain ⟨⟨here | here, _⟩, rfl⟩ := enabled stepped
      all_goals
        obtain ⟨holds, fits, there⟩ := held.at here rfl
        exact stay_held held inside rfl rfl rfl holds rfl rfl ⟨fits.1, rfl, fits.2.2⟩ there
  | deregisterConn c =>
      obtain ⟨here, rfl⟩ := enabled stepped
      obtain ⟨holds, fits, there⟩ := held.at here rfl
      exact leave_held held rfl rfl rfl holds rfl ⟨rfl, .inr ⟨fits.2.1, .inl fits.2.2⟩⟩ there
  | announce c =>
      obtain ⟨here, rfl⟩ := enabled stepped
      exact carry_held held inside rfl rfl rfl here rfl rfl id
  | addMaintainer c =>
      obtain ⟨here, rfl⟩ := enabled stepped
      obtain ⟨holds, fits, there⟩ := held.at here rfl
      exact stay_held held inside rfl rfl rfl holds rfl rfl ⟨fits.1, fits.2.1, rfl⟩ there
  | spawnReaper c =>
      obtain ⟨here, rfl⟩ := enabled stepped
      obtain ⟨holds, fits, there⟩ := held.at here rfl
      exact leave_held held rfl rfl rfl holds rfl ⟨fits.1, .inl ⟨rfl, fits.2.1⟩⟩ there

theorem Phase.Fits.reaper {phase : Phase} {conn : Conn} (fits : phase.Fits conn) :
    conn.reaper = .absent ∨ conn.reaper = .counted := by
  cases phase with
  | testing | dialing | pausing | leaving | exiting | exited => exact fits.elim
  | registering | awaiting | announcing | serving | handing | dropping => exact .inl fits.2.2
  | spawning => exact .inr fits.2.2

theorem reaperStep_held {move : ReaperMove} (held : Held n st)
    (stepped : reaperStep st c move = some next) : Held n next := by
  have ok := held.conns c
  unfold Conn.Ok at ok
  cases move with
  | receiveErr =>
      obtain ⟨⟨waiting, returned⟩, rfl⟩ := enabled stepped
      refine conn_held held rfl rfl rfl (fun j holder => holder) ?_ (by simp [returned])
      split at ok
      next => simpa [waiting] using ok.2.2.reaper
      next holder =>
        rw [Conn.Ok, holder]
        exact ⟨ok.1, .inr ⟨rfl, rfl⟩⟩
      next => simp [waiting] at ok
  | deregisterConn =>
      obtain ⟨deregistering, rfl⟩ := enabled stepped
      split at ok
      next => simpa [deregistering] using ok.2.2.reaper
      next holder =>
        have received : (st.conns c).serve = .received := by simpa [deregistering] using ok.2
        refine conn_held held rfl rfl rfl ?_ ⟨rfl, .inr ⟨received, .inr (.inl rfl)⟩⟩ ?_
        · exact fun j other => nomatch holder.symm.trans other
        · simp [received]
      next => simp [deregistering] at ok
  | done =>
      obtain ⟨finishing, rfl⟩ := enabled stepped
      split at ok
      next => simpa [finishing] using ok.2.2.reaper
      next => simp [finishing] at ok
      next holder =>
        have received : (st.conns c).serve = .received := by simpa [finishing] using ok.2
        refine conn_held held rfl rfl rfl (fun j holder => holder) ?_ (by simp [received])
        rw [Conn.Ok, holder]
        exact ⟨ok.1, .inr ⟨received, .inr (.inr rfl)⟩⟩

theorem Conn.running.unreceived {conn : Conn} (runs : conn.running) :
    conn.serve ≠ .absent ∧ conn.serve ≠ .received := by
  rcases runs with serving | returned
  · simp [serving]
  · simp [returned]

theorem Phase.Fits.run {phase : Phase} {conn other : Conn} (fits : phase.Fits conn)
    (runs : conn.running) (still : other.running) (registered : other.registered = conn.registered)
    (reaper : other.reaper = conn.reaper) : phase.Fits other := by
  cases phase with
  | testing | dialing | pausing | leaving | exiting | exited => exact fits.elim
  | registering | awaiting | announcing | serving | handing | spawning =>
      exact ⟨registered.trans fits.1, still, reaper.trans fits.2.2⟩
  | dropping => exact absurd fits.2.1 runs.unreceived.2

/-- A serve loop whose result is not taken changes what only it changes. -/
theorem Conn.Ok.run {slots : Nat → Slot} {conn other : Conn} (ok : conn.Ok n slots c)
    (runs : conn.running) (still : other.running) (registered : other.registered = conn.registered)
    (reaper : other.reaper = conn.reaper) (holder : other.holder = conn.holder) :
    other.Ok n slots c := by
  unfold Conn.Ok at ok ⊢
  rw [holder]
  split at ok
  next => exact ⟨ok.1, ok.2.1, ok.2.2.run runs still registered reaper⟩
  next =>
    refine ⟨registered.trans ok.1, ok.2.imp ?_ ?_⟩
    · exact fun waits => ⟨reaper.trans waits.1, still⟩
    · exact fun done => absurd done.2 runs.unreceived.2
  next =>
    rcases ok.2 with unstarted | received
    · exact absurd unstarted.2 runs.unreceived.1
    · exact absurd received.1 runs.unreceived.2

theorem serveStep_held {move : ServeMove} (held : Held n st)
    (stepped : serveStep st c move = some next) : Held n next := by
  have ok := held.conns c
  cases move with
  | settings =>
      obtain ⟨serving, rfl⟩ := enabled stepped
      exact conn_held held rfl rfl rfl (fun _ holder => holder)
        (ok.run (.inl serving) (.inl serving) rfl rfl rfl) (by simp [serving])
  | beginDrain =>
      obtain ⟨⟨serving, _⟩, rfl⟩ := enabled stepped
      exact conn_held held rfl rfl rfl (fun _ holder => holder)
        (ok.run (.inl serving) (.inl serving) rfl rfl rfl) (by simp [serving])
  | returns =>
      obtain ⟨serving, rfl⟩ := enabled stepped
      exact conn_held held rfl rfl rfl (fun _ holder => holder)
        (ok.run (.inl serving) (.inr rfl) rfl rfl rfl) (by simp [serving])

theorem loops_put (inside : i < n) {slot : Slot}
    (slots : next.slots = Function.update st.slots i slot) :
    next.loops n = st.loops n + (slot.live - (st.slots i).live) := by
  rw [State.loops, slots]
  exact sum_update (fun slot => (slot.live : Int)) st.slots slot (mem_range.mpr inside)

theorem releases_put (inside : i < n) {slot : Slot}
    (slots : next.slots = Function.update st.slots i slot) :
    next.releases n = st.releases n + (slot.released - (st.slots i).released) := by
  rw [State.releases, slots]
  exact sum_update (fun slot => (slot.released : Int)) st.slots slot (mem_range.mpr inside)

theorem reapers_put {conn : Conn} (conns : next.conns = Function.update st.conns c conn)
    (started : next.started = st.started) (member : c ∈ st.started) :
    next.reapers = st.reapers + (conn.liveReaper - (st.conns c).liveReaper) := by
  rw [State.reapers, started, conns]
  exact sum_update (fun conn => (conn.liveReaper : Int)) st.conns conn member

/-- A slot and the reapers change, and the counters with them. -/
theorem slot_counted (counted : Counted n st) (inside : i < n) {slot : Slot} {gained : Int}
    (slots : next.slots = Function.update st.slots i slot)
    (reapers : next.reapers = st.reapers + gained)
    (maintainers : next.maintainers =
      st.maintainers + (slot.live - (st.slots i).live) + gained)
    (ready : next.ready + slot.released = st.ready + (st.slots i).released)
    (settled : slot.Settled) : Counted n next := by
  have before := counted.maintainers
  have waiting := counted.ready
  refine ⟨?_, ?_, ?_⟩
  · rw [loops_put inside slots]
    omega
  · rw [releases_put inside slots]
    omega
  · rw [slots]
    exact (Function.forall_update_iff st.slots fun _ slot => slot.Settled).mpr
      ⟨settled, fun j _ => counted.slots j⟩

theorem conn_counted (counted : Counted n st) {gained : Int} (slots : next.slots = st.slots)
    (reapers : next.reapers = st.reapers + gained)
    (maintainers : next.maintainers = st.maintainers + gained)
    (ready : next.ready = st.ready) : Counted n next := by
  have before := counted.maintainers
  have same : next.loops n = st.loops n := by rw [State.loops, slots, State.loops]
  have released : next.releases n = st.releases n := by rw [State.releases, slots, State.releases]
  refine ⟨?_, ?_, ?_⟩
  · omega
  · rw [ready, released]
    exact counted.ready
  · rw [slots]
    exact counted.slots

theorem reapers_same (started : next.started = st.started)
    (same : ∀ d, (next.conns d).liveReaper = (st.conns d).liveReaper) :
    next.reapers = st.reapers := by
  rw [State.reapers, State.reapers, started]
  exact sum_congr rfl fun d _ => by rw [same]

theorem liveReaper_update {conn : Conn} (same : conn.liveReaper = (st.conns c).liveReaper)
    (d : Nat) : (Function.update st.conns c conn d).liveReaper = (st.conns d).liveReaper := by
  by_cases here : d = c
  · subst here
    rwa [Function.update_self]
  · rw [Function.update_of_ne here]

theorem live_of_ne {slot : Slot} (running : slot.phase ≠ .exited) : slot.live = 1 := by
  simp [Slot.live, running]

/-- The loop goes on, neither released nor ended. -/
theorem move_counted (counted : Counted n st) (inside : i < n) {phase : Phase}
    (slots : next.slots = Function.update st.slots i { st.slots i with phase := phase })
    (before : (st.slots i).phase ≠ .exited) (after : phase ≠ .exiting ∧ phase ≠ .exited)
    (maintainers : next.maintainers = st.maintainers) (reapers : next.reapers = st.reapers)
    (ready : next.ready = st.ready) : Counted n next := by
  refine slot_counted counted inside slots (reapers.trans (add_zero _).symm) ?_ ?_ ?_
  · rw [live_of_ne before, live_of_ne after.2]
    omega
  · rw [ready]
  · exact ⟨(counted.slots i).released, fun ended => (ended.elim after.1 after.2).elim⟩

theorem start_counted (counted : Counted n st) (held : Held n st) (inside : i < n)
    (stepped : loopStep st i (.startConnection c) = some next) : Counted n next := by
  obtain ⟨⟨here, absent⟩, rfl⟩ := enabled stepped
  obtain ⟨_, _, unreaped⟩ := (held.conns c).fresh absent
  have none : (st.conns c).liveReaper = 0 := by simp [Conn.liveReaper, unreaped]
  refine move_counted counted inside rfl (by simp [here]) ⟨nofun, nofun⟩ rfl ?_ rfl
  rw [State.reapers, sum_insert_zero]
  · exact sum_congr rfl fun d _ => congrArg Nat.cast (liveReaper_update (by rfl) d)
  · rw [Nat.cast_eq_zero]
    exact (liveReaper_update (by rfl) c).trans none

theorem release_counted (counted : Counted n st) (inside : i < n) {phase : Phase}
    (before : (st.slots i).phase ≠ .exited) (after : phase ≠ .exited) :
    Counted n (st.release i phase) := by
  have released := (counted.slots i).released
  refine slot_counted counted inside rfl (add_zero st.reapers).symm ?_ ?_ ?_
  · rw [live_of_ne before, live_of_ne after]
    simp [State.release, State.put]
  · cases once : (st.slots i).once <;> simp [State.release, State.put, once]
  · refine ⟨?_, fun _ => rfl⟩
    cases once : (st.slots i).once <;> simp [once] at released <;> simp [released]

theorem loopStep_counted {move : LoopMove} (counted : Counted n st) (held : Held n st)
    (inside : i < n) (stepped : loopStep st i move = some next) : Counted n next := by
  cases move with
  | seeShutdown =>
      obtain ⟨⟨here, _⟩, rfl⟩ := enabled stepped
      refine move_counted counted inside rfl ?_ ⟨nofun, nofun⟩ rfl rfl rfl
      rcases here with here | here <;> simp [here]
  | goOn | advance stage later | seeReady c | seeDrainStarted c =>
      obtain ⟨⟨here, _⟩, rfl⟩ := enabled stepped
      exact move_counted counted inside rfl (by simp [here]) ⟨nofun, nofun⟩ rfl rfl rfl
  | fail stage | timer =>
      obtain ⟨here, rfl⟩ := enabled stepped
      exact move_counted counted inside rfl (by simp [here]) ⟨nofun, nofun⟩ rfl rfl rfl
  | startConnection c => exact start_counted counted held inside stepped
  | registerConn c | deregisterConn c =>
      obtain ⟨here, rfl⟩ := enabled stepped
      exact move_counted counted inside rfl (by simp [here]) ⟨nofun, nofun⟩ rfl
        (reapers_same rfl (liveReaper_update (by rfl))) rfl
  | receiveErr c =>
      obtain ⟨⟨here, _⟩, rfl⟩ := enabled stepped
      refine move_counted counted inside rfl ?_ ⟨nofun, nofun⟩ rfl
        (reapers_same rfl (liveReaper_update (by rfl))) rfl
      rcases here with here | here <;> simp [here]
  | announce c | releaseReady =>
      obtain ⟨here, rfl⟩ := enabled stepped
      exact release_counted counted inside (by simp [here]) nofun
  | addMaintainer c =>
      obtain ⟨here, rfl⟩ := enabled stepped
      obtain ⟨_, fits, there⟩ := held.at here rfl
      have unborn : (st.conns c).liveReaper = 0 := by simp [Conn.liveReaper, fits.2.2]
      have settled := counted.slots i
      have alive : (st.slots i).live = 1 := live_of_ne (by simp [here])
      refine slot_counted counted inside rfl (reapers_put rfl rfl (held.started c there)) ?_ rfl
        ⟨settled.released, nofun⟩
      rw [alive, unborn]
      simp [Slot.live, Conn.liveReaper]
  | spawnReaper c =>
      obtain ⟨here, rfl⟩ := enabled stepped
      obtain ⟨_, fits, _⟩ := held.at here rfl
      have alive : (st.conns c).liveReaper = 1 := by simp [Conn.liveReaper, fits.2.2]
      exact move_counted counted inside rfl (by simp [here]) ⟨nofun, nofun⟩ rfl
        (reapers_same rfl (liveReaper_update alive.symm)) rfl
  | done =>
      obtain ⟨here, rfl⟩ := enabled stepped
      have settled := counted.slots i
      have alive : (st.slots i).live = 1 := live_of_ne (by simp [here])
      refine slot_counted counted inside rfl (add_zero st.reapers).symm ?_ rfl
        ⟨settled.released, fun _ => ?_⟩
      · rw [alive]
        simp [Slot.live, Int.sub_eq_add_neg]
      · exact settled.ended (.inl here)

theorem reaperStep_counted {move : ReaperMove} (counted : Counted n st) (held : Held n st)
    (stepped : reaperStep st c move = some next) : Counted n next := by
  have member (active : (st.conns c).reaper ≠ .absent) : c ∈ st.started :=
    held.started c fun absent => active ((held.conns c).fresh absent).2.2
  cases move with
  | receiveErr =>
      obtain ⟨⟨waiting, _⟩, rfl⟩ := enabled stepped
      refine conn_counted counted rfl (reapers_put rfl rfl (member (by simp [waiting]))) ?_ rfl
      simp [State.putConn, Conn.liveReaper, waiting]
  | deregisterConn =>
      obtain ⟨deregistering, rfl⟩ := enabled stepped
      refine conn_counted counted rfl (reapers_put rfl rfl (member (by simp [deregistering]))) ?_
        rfl
      simp [State.putConn, Conn.liveReaper, deregistering]
  | done =>
      obtain ⟨finishing, rfl⟩ := enabled stepped
      refine conn_counted counted rfl (reapers_put rfl rfl (member (by simp [finishing]))) ?_ rfl
      simp [Conn.liveReaper, finishing, Int.sub_eq_add_neg]

theorem putConn_counted (counted : Counted n st) {conn : Conn}
    (same : conn.liveReaper = (st.conns c).liveReaper) : Counted n (st.putConn c conn) := by
  have reapers : (st.putConn c conn).reapers = st.reapers :=
    reapers_same rfl (liveReaper_update same)
  exact conn_counted counted rfl (reapers.trans (add_zero _).symm) (add_zero st.maintainers).symm
    rfl

theorem serveStep_counted {move : ServeMove} (counted : Counted n st)
    (stepped : serveStep st c move = some next) : Counted n next := by
  cases move with
  | settings | beginDrain | returns =>
      obtain ⟨_, rfl⟩ := enabled stepped
      exact putConn_counted counted rfl

theorem Counted.idle (counted : Counted n st) (none : st.maintainers = 0) :
    (∀ i < n, (st.slots i).phase = .exited) ∧ ∀ c ∈ st.started, (st.conns c).liveReaper = 0 := by
  have loops : 0 ≤ st.loops n := sum_nonneg fun i _ => Int.natCast_nonneg _
  have reapers : 0 ≤ st.reapers := sum_nonneg fun c _ => Int.natCast_nonneg _
  have total := counted.maintainers
  constructor
  · intro i inside
    have zero : st.loops n = 0 := by omega
    have live := (sum_eq_zero_iff_of_nonneg fun i _ => Int.natCast_nonneg _).mp zero i
      (mem_range.mpr inside)
    simpa [Slot.live] using live
  · intro c member
    have zero : st.reapers = 0 := by omega
    have live := (sum_eq_zero_iff_of_nonneg fun c _ => Int.natCast_nonneg _).mp zero c member
    simpa using live

theorem loopStep_exited {move : LoopMove} (here : (st.slots i).phase = .exited) :
    loopStep st i move = none := by
  cases move <;> simp [loopStep, here]

theorem reaperStep_dead {move : ReaperMove} (dead : (st.conns c).liveReaper = 0) :
    reaperStep st c move = none := by
  have gone : (st.conns c).reaper = .absent ∨ (st.conns c).reaper = .exited := by
    by_contra alive
    simp [Conn.liveReaper, alive] at dead
  cases move <;> rcases gone with gone | gone <;> simp [reaperStep, gone]

theorem loopStep_calls {move : LoopMove} (stepped : loopStep st i move = some next) :
    next.calls = st.calls := by
  cases move <;>
    · obtain ⟨_, rfl⟩ := enabled stepped
      rfl

theorem reaperStep_calls {move : ReaperMove} (stepped : reaperStep st c move = some next) :
    next.calls = st.calls := by
  cases move <;>
    · obtain ⟨_, rfl⟩ := enabled stepped
      rfl

/-- Once nobody is counted, no loop is left that could go on. -/
theorem loopStep_valid {move : LoopMove} (valid : Valid n st) (inside : i < n)
    (stepped : loopStep st i move = some next) : Valid n next := by
  refine ⟨loopStep_held valid.held inside stepped,
    loopStep_counted valid.counted valid.held inside stepped, fun k waited => ?_⟩
  rw [loopStep_calls stepped] at waited
  have exited := (valid.counted.idle (valid.waited k waited)).1 i inside
  cases (loopStep_exited exited).symm.trans stepped

theorem reaperStep_valid {move : ReaperMove} (valid : Valid n st)
    (stepped : reaperStep st c move = some next) : Valid n next := by
  refine ⟨reaperStep_held valid.held stepped,
    reaperStep_counted valid.counted valid.held stepped, fun k waited => ?_⟩
  rw [reaperStep_calls stepped] at waited
  have dead : (st.conns c).liveReaper = 0 := by
    by_cases absent : (st.conns c).serve = .absent
    · simp [Conn.liveReaper, ((valid.held.conns c).fresh absent).2.2]
    · exact (valid.counted.idle (valid.waited k waited)).2 c (valid.held.started c absent)
  cases (reaperStep_dead dead).symm.trans stepped

theorem serveStep_valid {move : ServeMove} (valid : Valid n st)
    (stepped : serveStep st c move = some next) : Valid n next := by
  refine ⟨serveStep_held valid.held stepped, serveStep_counted valid.counted stepped, ?_⟩
  cases move with
  | settings | beginDrain | returns =>
      obtain ⟨_, rfl⟩ := enabled stepped
      exact valid.waited

theorem callStep_valid {k : Nat} {move : CallMove} (valid : Valid n st)
    (stepped : callStep st k move = some next) : Valid n next := by
  have held := valid.held
  have counted := valid.counted
  have put (call : Call)
      (zero : call = .drained ∨ call = .returned → st.maintainers = 0) :
      ∀ j, Function.update st.calls k call j = .drained ∨
        Function.update st.calls k call j = .returned → st.maintainers = 0 :=
    (Function.forall_update_iff st.calls fun _ call =>
      call = .drained ∨ call = .returned → st.maintainers = 0).mpr
      ⟨zero, fun j _ => valid.waited j⟩
  cases move with
  | close =>
      obtain ⟨_, rfl⟩ := enabled stepped
      exact ⟨⟨held.slots, held.conns, held.started⟩,
        ⟨counted.maintainers, counted.ready, counted.slots⟩, put .waiting (by simp)⟩
  | waited =>
      obtain ⟨⟨_, zero⟩, rfl⟩ := enabled stepped
      exact ⟨⟨held.slots, held.conns, held.started⟩,
        ⟨counted.maintainers, counted.ready, counted.slots⟩, put .drained fun _ => zero⟩
  | returns =>
      obtain ⟨drained, rfl⟩ := enabled stepped
      exact ⟨⟨held.slots, held.conns, held.started⟩,
        ⟨counted.maintainers, counted.ready, counted.slots⟩,
        put .returned fun _ => valid.waited k (.inl drained)⟩
  | expire =>
      obtain ⟨_, rfl⟩ := enabled stepped
      exact ⟨⟨held.slots, held.conns, held.started⟩,
        ⟨counted.maintainers, counted.ready, counted.slots⟩, put .expired (by simp)⟩

theorem step_valid {action : Action} (valid : Valid n st)
    (stepped : step n st action = some next) : Valid n next := by
  cases action with
  | loop i move =>
      simp only [step, Option.ite_none_right_eq_some] at stepped
      exact loopStep_valid valid stepped.1 stepped.2
  | reaper c move => exact reaperStep_valid valid stepped
  | serve c move => exact serveStep_valid valid stepped
  | call k move => exact callStep_valid valid stepped

theorem Held.owner (held : Held n st) (registered : (st.conns c).registered = true) :
    ∃! owner, Owns n st owner c := by
  have ok := held.conns c
  unfold Conn.Ok at ok
  split at ok
  next i holder =>
    refine ⟨.loop i, ⟨ok.1, ok.2.1⟩, fun owner owns => ?_⟩
    cases owner with
    | loop j => rw [Holder.slot.inj (holder.symm.trans (held.slots j c owns.2))]
    | reaper d =>
        rcases ok.2.2.reaper with none | none <;> simp [Owns, none] at owns
  next holder =>
    refine ⟨.reaper c, ⟨rfl, ok.2.imp And.left And.left⟩, fun owner owns => ?_⟩
    cases owner with
    | loop j => cases holder.symm.trans (held.slots j c owns.2)
    | reaper d => rw [owns.1]
  next => cases ok.1.symm.trans registered

section Removal

variable {owner : Owner}

theorem Removable.after {action : Action} (stepped : step n st action = some next)
    (own : action.owner = some owner ∨ action.owner = some (.reaper c))
    (later : Removable n next owner c) : Removable n st owner c := by
  obtain ⟨trace, last, ran, removed, owns⟩ := later
  refine ⟨action :: trace, last, ?_, removed, ?_⟩
  · rw [run, stepped]
    exact ran
  · exact List.forall_mem_cons.mpr ⟨own, owns⟩

theorem removable_of_removed (removed : (st.conns c).registered = false) :
    Removable n st owner c :=
  ⟨[], st, rfl, removed, List.forall_mem_nil _⟩

theorem deregistering_removes (here : (st.conns c).reaper = .deregistering) :
    Removable n st owner c := by
  have stepped : step n st (.reaper c .deregisterConn) = some (st.putConn c
      { st.conns c with reaper := .finishing, registered := false, holder := .nobody }) :=
    if_pos here
  exact .after stepped (.inr rfl) (removable_of_removed (by simp [State.putConn]))

theorem waiting_removes (here : (st.conns c).reaper = .waiting)
    (returned : (st.conns c).serve = .returned) : Removable n st owner c := by
  have stepped : step n st (.reaper c .receiveErr) = some (st.putConn c
      { st.conns c with reaper := .deregistering, serve := .received }) :=
    if_pos ⟨here, returned⟩
  exact .after stepped (.inr rfl) (deregistering_removes (by simp [State.putConn]))

theorem Removable.move {move : LoopMove} (inside : i < n)
    (moved : loopStep st i move = some next) (later : Removable n next (.loop i) c) :
    Removable n st (.loop i) c :=
  have stepped : step n st (.loop i move) = some next := (if_pos inside).trans moved
  .after stepped (.inl rfl) later

theorem dropping_removes (inside : i < n) (here : (st.slots i).phase = .dropping c) :
    Removable n st (.loop i) c := by
  have moved : loopStep st i (.deregisterConn c) = some _ := if_pos here
  exact .move inside moved (removable_of_removed (by simp [State.putConn]))

theorem listening_removes (inside : i < n)
    (here : (st.slots i).phase = .awaiting c ∨ (st.slots i).phase = .serving c)
    (returned : (st.conns c).serve = .returned) : Removable n st (.loop i) c := by
  have moved : loopStep st i (.receiveErr c) = some _ := if_pos ⟨here, returned⟩
  refine .move inside moved (dropping_removes inside ?_)
  simp [State.putConn, State.goto, State.put]

theorem announcing_removes (inside : i < n) (here : (st.slots i).phase = .announcing c)
    (returned : (st.conns c).serve = .returned) : Removable n st (.loop i) c := by
  have moved : loopStep st i (.announce c) = some _ := if_pos here
  refine .move inside moved (listening_removes inside (.inr ?_) returned)
  simp [State.release, State.put]

theorem spawning_removes (inside : i < n) (here : (st.slots i).phase = .spawning c)
    (returned : (st.conns c).serve = .returned) : Removable n st (.loop i) c := by
  have moved : loopStep st i (.spawnReaper c) = some _ := if_pos here
  refine .move inside moved (waiting_removes ?_ ?_)
  · simp [State.putConn]
  · simpa [State.putConn] using returned

theorem handing_removes (inside : i < n) (here : (st.slots i).phase = .handing c)
    (returned : (st.conns c).serve = .returned) : Removable n st (.loop i) c := by
  have moved : loopStep st i (.addMaintainer c) = some _ := if_pos here
  refine .move inside moved (spawning_removes inside ?_ ?_)
  · simp [State.putConn, State.goto, State.put]
  · simpa [State.putConn] using returned

theorem Conn.running.returned {conn : Conn} (runs : conn.running) (ended : conn.serve ≠ .serving) :
    conn.serve = .returned :=
  runs.resolve_left ended

theorem Held.removes (held : Held n st) (registered : (st.conns c).registered = true)
    (owns : Owns n st owner c) (ended : (st.conns c).serve ≠ .serving) :
    Removable n st owner c := by
  cases owner with
  | loop i =>
      obtain ⟨inside, holds⟩ := owns
      have fits := held.fits holds
      cases here : (st.slots i).phase with
      | testing | dialing | pausing | leaving | exiting | exited =>
          rw [here] at holds
          cases holds
      | registering d =>
          rw [here] at fits
          cases fits.1.symm.trans registered
      | awaiting d =>
          rw [here] at fits holds
          cases holds
          exact listening_removes inside (.inl here) (fits.2.1.returned ended)
      | announcing d =>
          rw [here] at fits holds
          cases holds
          exact announcing_removes inside here (fits.2.1.returned ended)
      | serving d =>
          rw [here] at fits holds
          cases holds
          exact listening_removes inside (.inr here) (fits.2.1.returned ended)
      | handing d =>
          rw [here] at fits holds
          cases holds
          exact handing_removes inside here (fits.2.1.returned ended)
      | spawning d =>
          rw [here] at fits holds
          cases holds
          exact spawning_removes inside here (fits.2.1.returned ended)
      | dropping d =>
          rw [here] at holds
          cases holds
          exact dropping_removes inside here
  | reaper d =>
      obtain ⟨rfl, waiting | deregistering⟩ := owns
      · have ok := held.conns d
        unfold Conn.Ok at ok
        split at ok
        next => simpa [waiting] using ok.2.2.reaper
        next =>
          have runs : (st.conns d).running := by simpa [waiting] using ok.2
          exact waiting_removes waiting (runs.returned ended)
        next => cases ok.1.symm.trans registered
      · exact deregistering_removes deregistering

end Removal

theorem Valid.unowned (valid : Valid n st) (none : st.maintainers = 0) (c : Nat) :
    (st.conns c).registered = false ∧ (st.conns c).serve ≠ .serving := by
  obtain ⟨loops, reapers⟩ := valid.counted.idle none
  have ok := valid.held.conns c
  unfold Conn.Ok at ok
  split at ok
  next i _ =>
    rw [loops i ok.1] at ok
    cases ok.2.1
  next =>
    have member : c ∈ st.started := by
      refine valid.held.started c fun absent => ?_
      simp [Conn.running, absent] at ok
    have dead := reapers c member
    rcases ok.2 with ⟨active, _⟩ | ⟨active, _⟩ <;> simp [Conn.liveReaper, active] at dead
  next =>
    refine ⟨ok.1, ?_⟩
    rcases ok.2 with ⟨_, serve⟩ | ⟨serve, _⟩ <;> simp [serve]

theorem Valid.accounted (valid : Valid n st) : Accounted n st where
  maintainers := valid.counted.maintainers
  nonneg := by
    rw [valid.counted.maintainers]
    exact add_nonneg (sum_nonneg fun i _ => Int.natCast_nonneg _)
      (sum_nonneg fun c _ => Int.natCast_nonneg _)
  owner _ registered := valid.held.owner registered
  removes _ _ registered owns ended := valid.held.removes registered owns ended
  ready := valid.counted.ready
  once i _ := by
    have settled := valid.counted.slots i
    refine ⟨?_, fun exited => ?_⟩
    · rw [settled.released]
      split <;> simp
    · rw [settled.released, settled.ended (.inr exited)]
      rfl
  returned k returned c :=
    have unowned := valid.unowned (valid.waited k (.inr returned)) c
    ⟨unowned.1, fun _ => unowned.2⟩

end Steps

theorem pool_accounts_balance {n : Nat} {trace : List Action} {last : State}
    (ran : run (step n) (State.new n) trace = some last) : Accounted n last :=
  (run_invariant_all (fun _ _ _ valid stepped => step_valid valid stepped) (valid_new n)
    ran).accounted

/-- Slot 0 fails to dial, connects, hands the draining connection 7 to its reaper and
connects again as 8; slot 1 loses its connection 9 in the handshake; then `Shutdown`. -/
def busyPool : List Action :=
  [.loop 0 .goOn, .loop 0 (.fail .tlsDial), .loop 0 .timer, .loop 0 .goOn,
    .loop 0 (.advance .tlsDial .handshake), .loop 0 (.advance .handshake .alpn),
    .loop 0 (.advance .alpn .startConnection), .loop 0 (.startConnection 7),
    .loop 0 (.registerConn 7), .serve 7 .settings, .loop 0 (.seeReady 7), .loop 0 (.announce 7),
    .serve 7 .beginDrain, .loop 0 (.seeDrainStarted 7), .loop 0 (.addMaintainer 7),
    .loop 0 (.spawnReaper 7), .loop 0 .timer, .loop 0 .goOn,
    .loop 0 (.advance .tlsDial .handshake), .loop 0 (.advance .handshake .alpn),
    .loop 0 (.advance .alpn .startConnection), .loop 0 (.startConnection 8),
    .loop 0 (.registerConn 8), .loop 1 .goOn, .loop 1 (.advance .tlsDial .handshake),
    .loop 1 (.advance .handshake .alpn), .loop 1 (.advance .alpn .startConnection),
    .loop 1 (.startConnection 9), .serve 9 .returns, .loop 1 (.registerConn 9),
    .loop 1 (.receiveErr 9), .loop 1 (.deregisterConn 9), .call 0 .close, .loop 1 .seeShutdown,
    .loop 1 .releaseReady, .loop 1 .done, .serve 8 .returns, .loop 0 (.receiveErr 8),
    .loop 0 (.deregisterConn 8), .loop 0 .seeShutdown, .loop 0 .releaseReady, .loop 0 .done,
    .serve 7 .returns, .reaper 7 .receiveErr, .reaper 7 .deregisterConn, .reaper 7 .done,
    .call 0 .waited, .call 0 .returns]

theorem pool_accounts_balance_busy :
    ∃ last, run (step 2) (State.new 2) busyPool = some last ∧ last.calls 0 = .returned ∧
      last.ready = 0 ∧ last.started = {7, 8, 9} ∧ Accounted 2 last := by
  have ran : (run (step 2) (State.new 2) busyPool).map (fun last =>
      (last.calls 0, last.ready, last.started)) = some (.returned, 0, {7, 8, 9}) := by
    decide
  obtain ⟨last, reached, shape⟩ := Option.map_eq_some_iff.mp ran
  simp only [Prod.mk.injEq] at shape
  exact ⟨last, reached, shape.1, shape.2.1, shape.2.2, pool_accounts_balance reached⟩

end ReverseHttp.PoolShutdown
