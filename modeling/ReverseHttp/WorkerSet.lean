import ReverseHttp.PoolShutdown
import ReverseHttp.Selector

/-!
The worker set of a proxy (internal/proxy/proxy.go): accept loops that start a goroutine for
every tunnel, the goroutines that attach a worker, serve its tunnel and detach it again, the
public requests that pick a worker, and any number of `Shutdown` calls. A worker has the number
of its tunnel.

Every goroutine is cut where it touches what others see. The frame loop of a tunnel is kept as
far as it matters to `Shutdown`: where it looks at `shutdownCh`, where its read has a deadline,
and the first SETTINGS, for which it waits without one. `expired` is that deadline in the past;
`SetIdleDeadline` may overwrite what `Shutdown` has set. `stuck` is a writer that has stopped
in a write to the transport while others wait for it (`StalledTransport`): then the loop does not
get past what it has to send, and neither does the teardown.

Ghost: `attached` are the workers in the order of their attach, `hooks` the calls of
`OnWorkerAttach` and `OnWorkerDetach`, `started` and `begun` the tunnels and the requests there
have been; `joined` in a closing tunnel says that it had a worker in the set, and `snap` in a
request keeps the snapshot that `availableWorkers` compacts in place.
-/

namespace ReverseHttp.WorkerSet

open Transition Finset
open PoolShutdown (sum_update)
open Selector (Refusal)
open StreamRegistry (uint32)

/-- `runTunnelAccept`; `failed` is a result other than nil. -/
inductive Loop where
  | absent
  | accepting (ln : Nat)
  | accepted (ln : Nat)
  | leaving (ln : Nat) (failed : Bool)
  | returned (failed : Bool)
  deriving DecidableEq, Repr

/-- The goroutine of a tunnel: the TLS handshake and the preface, `attach`, `serveTunnel`,
`detach`. -/
inductive Tunnel where
  | absent
  | handshaking
  | attaching
  | refused
  | attached
  | settling
  | looking
  | arming
  | reading
  | timedOut
  | handling
  | tearingDown
  | detaching
  | detached
  | closing (joined : Bool)
  | done (joined : Bool)
  deriving DecidableEq, Repr

inductive Answer where
  | refused (refusal : Refusal)
  | badGateway
  | forwarded
  deriving DecidableEq, Repr

/-- `forward`. `scanning` is the loop of `availableWorkers`: `ws` is the array under both
slices, `i` the index of the range and `len` the length of `out`. -/
inductive Forward where
  | idle
  | scanning (snap ws : List Nat) (i len : Nat)
  | picked (w : Nat)
  | counted (w : Nat)
  | streaming (w : Nat)
  | leaving (w : Nat) (answer : Answer)
  | returned (answer : Answer)
  deriving DecidableEq, Repr

/-- The body of `shutdownOnce.Do`. -/
inductive Once where
  | fresh
  | begun
  | closed
  | found (ln : Option Nat)
  | stopped
  | waking (ws : List Nat)
  | done
  deriving DecidableEq, Repr

inductive Call where
  | idle
  | inOnce
  | waiting
  | drained
  | returned
  | timedOut
  deriving DecidableEq, Repr

inductive Hook where
  | attach
  | detach
  deriving DecidableEq, Repr

structure State where
  shutdown : Bool
  tunnelListener : Option Nat
  closed : Nat → Bool
  loops : Nat → Loop
  tunnels : Nat → Tunnel
  tunnelAccepts : Int
  workers : List Nat
  expired : Nat → Bool
  draining : Nat → Bool
  stuck : Nat → Bool
  once : Once
  calls : Nat → Call
  forwards : Nat → Forward
  inFlight : Nat → Int
  streams : Nat → Finset Nat
  attached : List Nat
  hooks : List (Hook × Nat)
  started : Finset Nat
  begun : Finset Nat

def State.new : State :=
  { shutdown := false
    tunnelListener := none
    closed := fun _ => false
    loops := fun _ => .absent
    tunnels := fun _ => .absent
    tunnelAccepts := 0
    workers := []
    expired := fun _ => false
    draining := fun _ => false
    stuck := fun _ => false
    once := .fresh
    calls := fun _ => .idle
    forwards := fun _ => .idle
    inFlight := fun _ => 0
    streams := fun _ => ∅
    attached := []
    hooks := []
    started := ∅
    begun := ∅ }

def State.goto (st : State) (t : Nat) (tunnel : Tunnel) : State :=
  { st with tunnels := Function.update st.tunnels t tunnel }

def State.putLoop (st : State) (l : Nat) (loop : Loop) : State :=
  { st with loops := Function.update st.loops l loop }

def State.putForward (st : State) (f : Nat) (forward : Forward) : State :=
  { st with forwards := Function.update st.forwards f forward }

def State.putCall (st : State) (k : Nat) (call : Call) : State :=
  { st with calls := Function.update st.calls k call }

/-- What the loop in `detach` makes of the slice, and `present`. -/
def removeWorker (workers : List Nat) (w : Nat) : List Nat × Bool :=
  match workers.findIdx? (· == w) with
  | some i => (workers.take i ++ workers.drop (i + 1), true)
  | none => (workers, false)

/-- `spawn` is `tunnelAccepts.Add(1)` and the `go` statement behind it. -/
inductive LoopMove where
  | listen (ln : Nat)
  | accept
  | spawn (tunnel : Nat)
  | temporary
  | fail
  | leave
  deriving DecidableEq, Repr

/-- `check`: the handshake and the preface went well and `attach` looks at `shutdownCh`;
`noSettings` is a first SETTINGS that does not come or is not accepted; `frame` and `lost` are
results of the read, and `writes` says that handling the frame sends something; `giveUp` is every
reason the loop itself has to return: a completed drain, a PING without an answer, a frame it does
not accept. -/
inductive TunnelMove where
  | fail
  | check
  | append
  | attachHook
  | dropTunnel
  | settings
  | noSettings
  | settingsExpire
  | look
  | arm
  | frame
  | lost
  | timeout
  | resume
  | handled (drains writes : Bool)
  | giveUp
  | tearDown
  | remove
  | detachHook
  | close
  deriving DecidableEq, Repr

inductive OnceMove where
  | close
  | readListener
  | closeListener
  | snapshot
  | wake
  | finish
  deriving DecidableEq, Repr

/-- `waited` is `tunnelAccepts.Wait` in the goroutine of the call. -/
inductive CallMove where
  | enter
  | pass
  | waited
  | returns
  | expire
  deriving DecidableEq, Repr

/-- `pick` is what the selector answers, `openStream` has the peer's stream limit it reads. -/
inductive ForwardMove where
  | snapshot
  | scan
  | pick (choice : Option Nat)
  | count
  | openStream (limit : Nat)
  | sendFails
  | clean
  | uncount
  deriving DecidableEq, Repr

inductive Action where
  | loop (l : Nat) (move : LoopMove)
  | tunnel (t : Nat) (move : TunnelMove)
  | once (move : OnceMove)
  | call (k : Nat) (move : CallMove)
  | forward (f : Nat) (move : ForwardMove)
  | writer (t : Nat) (stuck : Bool)
  deriving DecidableEq, Repr

def loopStep (st : State) (l : Nat) : LoopMove → Option State
  | .listen ln =>
      if st.loops l = .absent then
        some { st.putLoop l (.accepting ln) with tunnelListener := some ln }
      else none
  | .accept =>
      match st.loops l with
      | .accepting ln => if st.closed ln = false then some (st.putLoop l (.accepted ln)) else none
      | _ => none
  | .spawn t =>
      match st.loops l with
      | .accepted ln =>
          if st.tunnels t = .absent then
            some { (st.putLoop l (.accepting ln)).goto t .handshaking with
              tunnelAccepts := st.tunnelAccepts + 1, started := insert t st.started }
          else none
      | _ => none
  -- the loop sleeps and goes on
  | .temporary =>
      match st.loops l with
      | .accepting _ => if st.shutdown = false then some st else none
      | _ => none
  | .fail =>
      match st.loops l with
      | .accepting ln => some (st.putLoop l (.leaving ln (!st.shutdown)))
      | _ => none
  | .leave =>
      match st.loops l with
      | .leaving ln failed =>
          some { st.putLoop l (.returned failed) with
            tunnelListener := if st.tunnelListener = some ln then none else st.tunnelListener }
      | _ => none

def tunnelStep (st : State) (t : Nat) : TunnelMove → Option State
  | .fail =>
      if st.tunnels t = .handshaking then some (st.goto t (.closing false)) else none
  | .check =>
      if st.tunnels t = .handshaking then
        some (st.goto t (if st.shutdown then .refused else .attaching))
      else none
  | .append =>
      if st.tunnels t = .attaching then
        some { st.goto t .attached with
          workers := st.workers ++ [t], attached := st.attached ++ [t] }
      else none
  | .attachHook =>
      if st.tunnels t = .attached then
        some { st.goto t .settling with hooks := st.hooks ++ [(.attach, t)] }
      else none
  -- GOAWAY and `ShutdownWriter` of a tunnel that was not let in
  | .dropTunnel =>
      if st.tunnels t = .refused ∧ st.stuck t = false then some (st.goto t (.closing false))
      else none
  -- with the acknowledgement
  | .settings =>
      if st.tunnels t = .settling ∧ st.stuck t = false then some (st.goto t .looking) else none
  | .noSettings =>
      if st.tunnels t = .settling then some (st.goto t .tearingDown) else none
  | .settingsExpire =>
      if st.tunnels t = .settling ∧ st.expired t then some (st.goto t .tearingDown) else none
  | .look =>
      if st.tunnels t = .looking then
        some (st.goto t (if st.shutdown then .tearingDown else .arming))
      else none
  -- `SetIdleDeadline`, whatever deadline was set before
  | .arm =>
      if st.tunnels t = .arming then
        some { st.goto t .reading with expired := Function.update st.expired t false }
      else none
  | .frame => if st.tunnels t = .reading then some (st.goto t .handling) else none
  | .lost => if st.tunnels t = .reading then some (st.goto t .tearingDown) else none
  | .timeout => if st.tunnels t = .reading then some (st.goto t .timedOut) else none
  -- `SendOrCheckPing` sends unless the loop ends here
  | .resume =>
      if st.tunnels t = .timedOut ∧ (st.shutdown = true ∨ st.stuck t = false) then
        some (st.goto t (if st.shutdown then .tearingDown else .looking))
      else none
  | .handled drains writes =>
      if st.tunnels t = .handling ∧ (writes = false ∨ st.stuck t = false) then
        some { st.goto t .looking with
          draining := Function.update st.draining t (st.draining t || drains) }
      else none
  | .giveUp =>
      if st.tunnels t = .arming ∨ st.tunnels t = .timedOut ∨ st.tunnels t = .handling then
        some (st.goto t .tearingDown)
      else none
  -- with GOAWAY and `ShutdownWriter`
  | .tearDown =>
      if st.tunnels t = .tearingDown ∧ st.stuck t = false then some (st.goto t .detaching)
      else none
  | .remove =>
      if st.tunnels t = .detaching then
        let removed := removeWorker st.workers t
        some { st.goto t (if removed.2 then .detached else .closing true) with
          workers := removed.1 }
      else none
  | .detachHook =>
      if st.tunnels t = .detached then
        some { st.goto t (.closing true) with hooks := st.hooks ++ [(.detach, t)] }
      else none
  | .close =>
      match st.tunnels t with
      | .closing joined =>
          some { st.goto t (.done joined) with tunnelAccepts := st.tunnelAccepts - 1 }
      | _ => none

def onceStep (st : State) : OnceMove → Option State
  | .close =>
      if st.once = .begun then some { st with once := .closed, shutdown := true } else none
  | .readListener =>
      if st.once = .closed then some { st with once := .found st.tunnelListener } else none
  | .closeListener =>
      match st.once with
      | .found (some ln) =>
          some { st with once := .stopped, closed := Function.update st.closed ln true }
      | .found none => some { st with once := .stopped }
      | _ => none
  | .snapshot =>
      if st.once = .stopped then some { st with once := .waking st.workers } else none
  | .wake =>
      match st.once with
      | .waking (w :: ws) =>
          some { st with once := .waking ws, expired := Function.update st.expired w true }
      | _ => none
  | .finish => if st.once = .waking [] then some { st with once := .done } else none

/-- The first call runs the body of the `Once`, the others wait for it. -/
def callStep (st : State) (k : Nat) : CallMove → Option State
  | .enter =>
      if st.calls k = .idle then
        some { st.putCall k .inOnce with once := if st.once = .fresh then .begun else st.once }
      else none
  | .pass =>
      if st.calls k = .inOnce ∧ st.once = .done then some (st.putCall k .waiting) else none
  | .waited =>
      if st.calls k = .waiting ∧ st.tunnelAccepts = 0 then some (st.putCall k .drained) else none
  | .returns => if st.calls k = .drained then some (st.putCall k .returned) else none
  | .expire =>
      if st.calls k = .waiting ∨ st.calls k = .drained then some (st.putCall k .timedOut)
      else none

/-- `openStream` on the worker, under `streamsMu`. -/
def openStream (st : State) (f w limit : Nat) : State :=
  if st.draining w then st.putForward f (.leaving w (.refused .tunnelDraining))
  else if limit ≤ uint32 (st.streams w).card then
    st.putForward f (.leaving w (.refused .tunnelSaturated))
  else
    { st.putForward f (.streaming w) with
      streams := Function.update st.streams w (insert f (st.streams w)) }

def forwardStep (st : State) (f : Nat) : ForwardMove → Option State
  | .snapshot =>
      if st.forwards f = .idle then
        some { st.putForward f (.scanning st.workers st.workers 0 0) with
          begun := insert f st.begun }
      else none
  -- `out = append(out, w)` writes into the array the range reads
  | .scan =>
      match st.forwards f with
      | .scanning snap ws i len =>
          ws[i]?.map fun w =>
            st.putForward f
              (if st.draining w then .scanning snap ws (i + 1) len
               else .scanning snap (ws.set len w) (i + 1) (len + 1))
      | _ => none
  | .pick choice =>
      match st.forwards f with
      | .scanning _ ws i len =>
          if ws.length ≤ i then
            match choice with
            | none => some (st.putForward f (.returned (.refused .noWorker)))
            | some w => if w ∈ ws.take len then some (st.putForward f (.picked w)) else none
          else none
      | _ => none
  | .count =>
      match st.forwards f with
      | .picked w =>
          some { st.putForward f (.counted w) with
            inFlight := Function.update st.inFlight w (st.inFlight w + 1) }
      | _ => none
  | .openStream limit =>
      match st.forwards f with
      | .counted w => some (openStream st f w limit)
      | _ => none
  -- `sendHeaders` fails and `openStream` takes the stream back
  | .sendFails =>
      match st.forwards f with
      | .counted w => some (st.putForward f (.leaving w .badGateway))
      | _ => none
  | .clean =>
      match st.forwards f with
      | .streaming w =>
          some { st.putForward f (.leaving w .forwarded) with
            streams := Function.update st.streams w ((st.streams w).erase f) }
      | _ => none
  | .uncount =>
      match st.forwards f with
      | .leaving w answer =>
          some { st.putForward f (.returned answer) with
            inFlight := Function.update st.inFlight w (st.inFlight w - 1) }
      | _ => none

def step (st : State) : Action → Option State
  | .loop l move => loopStep st l move
  | .tunnel t move => tunnelStep st t move
  | .once move => onceStep st move
  | .call k move => callStep st k move
  | .forward f move => forwardStep st f move
  | .writer t stuck => some { st with stuck := Function.update st.stuck t stuck }

/-! What the goroutine of a tunnel has done, by where it stands. -/

def Tunnel.listed : Tunnel → Bool
  | .attached | .settling | .looking | .arming | .reading | .timedOut | .handling | .tearingDown
  | .detaching => true
  | _ => false

/-- The worker has been in the set. -/
def Tunnel.joined : Tunnel → Bool
  | .closing joined | .done joined => joined
  | .detached => true
  | tunnel => tunnel.listed

def Tunnel.hooks : Tunnel → List Hook
  | .attached => []
  | .detached | .settling | .looking | .arming | .reading | .timedOut | .handling | .tearingDown
  | .detaching => [.attach]
  | .closing true | .done true => [.attach, .detach]
  | _ => []

def Tunnel.live : Tunnel → Int
  | .absent | .done _ => 0
  | _ => 1

/-- Not past the look at `shutdownCh` in `attach`, or behind its detach. -/
def Tunnel.outside : Tunnel → Bool
  | .absent | .handshaking | .refused | .closing _ | .done _ => true
  | _ => false

/-- What the worker set shows of a tunnel. -/
def Tunnel.view (tunnel : Tunnel) : Bool × Bool × List Hook :=
  (tunnel.joined, tunnel.listed, tunnel.hooks)

def Forward.countsOn (w : Nat) : Forward → Int
  | .counted v | .streaming v | .leaving v _ => if v = w then 1 else 0
  | _ => 0

/-- After `i` rounds of `availableWorkers` over the snapshot: `out` keeps its order, and of the
workers passed it has left out none that is not draining. -/
structure Scanned (draining : Nat → Bool) (snap ws : List Nat) (i len : Nat) : Prop where
  behind : len ≤ i
  within : i ≤ ws.length
  ahead : ws.drop i = snap.drop i
  offered : (ws.take len).Sublist (snap.take i)
  complete : ((snap.take i).filter (!draining ·)).Sublist (ws.take len)

structure Registered (st : State) : Prop where
  nodup : st.attached.Nodup
  joined : ∀ w, w ∈ st.attached ↔ (st.tunnels w).joined = true
  workers : st.workers = st.attached.filter fun w => (st.tunnels w).listed
  hooks : ∀ w, (st.hooks.filter (·.2 == w)).map (·.1) = (st.tunnels w).hooks

structure Counted (st : State) : Prop where
  accepts : st.tunnelAccepts = ∑ t ∈ st.started, (st.tunnels t).live
  started : ∀ t, st.tunnels t ≠ .absent → t ∈ st.started

structure Forwarded (st : State) : Prop where
  inFlight : ∀ w, st.inFlight w = ∑ f ∈ st.begun, (st.forwards f).countsOn w
  streams : ∀ w f, f ∈ st.streams w ↔ st.forwards f = .streaming w
  scans : ∀ f snap ws i len, st.forwards f = .scanning snap ws i len →
    Scanned st.draining snap ws i len
  begun : ∀ f, st.forwards f ≠ .idle → f ∈ st.begun

/-- Behind a `Wait` that has seen zero no tunnel is let in any more. -/
structure Sealed (st : State) : Prop where
  closed : st.once ≠ .fresh → st.once ≠ .begun → st.shutdown = true
  passed : ∀ k, st.calls k ≠ .idle → st.calls k ≠ .inOnce → st.once = .done
  quiet : ∀ k, st.calls k = .drained ∨ st.calls k = .returned →
    ∀ t, (st.tunnels t).outside = true

structure Valid (st : State) : Prop where
  registered : Registered st
  counted : Counted st
  forwarded : Forwarded st
  isSealed : Sealed st

theorem valid_new : Valid State.new where
  registered := ⟨List.nodup_nil, fun _ => by simp [State.new, Tunnel.joined, Tunnel.listed], rfl,
    fun _ => rfl⟩
  counted := ⟨rfl, fun _ started => absurd rfl started⟩
  forwarded := ⟨fun _ => rfl, fun _ _ => by simp [State.new], fun _ _ _ _ _ scans => (by cases scans),
    fun _ begun => absurd rfl begun⟩
  isSealed := ⟨fun begun => absurd rfl begun, fun _ called => absurd rfl called,
    fun _ called => by rcases called with h | h <;> cases h⟩

section Steps

variable {st next : State} {t : Nat}

theorem removeWorker_eq {workers : List Nat} (nodup : workers.Nodup) (w : Nat) :
    removeWorker workers w = (workers.filter (· != w), decide (w ∈ workers)) := by
  unfold removeWorker
  cases found : workers.findIdx? (· == w) with
  | none =>
      have absent : w ∉ workers := fun member => by
        simpa using List.findIdx?_eq_none_iff.mp found w member
      have kept : workers.filter (· != w) = workers :=
        List.filter_eq_self.mpr fun x member => by
          simpa using fun same : x = w => absent (same ▸ member)
      simp [absent, kept]
  | some i =>
      obtain ⟨inside, here, -⟩ := List.findIdx?_eq_some_iff_getElem.mp found
      have here : workers[i] = w := by simpa using here
      have member : w ∈ workers := here ▸ List.getElem_mem inside
      have erased : workers.erase w = workers.take i ++ workers.drop (i + 1) := by
        rw [← List.eraseIdx_eq_take_drop_succ, ← here, nodup.erase_getElem]
      simp [member, ← erased, nodup.erase_eq_filter]

/-- The moves of a tunnel that the set does not see. -/
structure Plain (st : State) (t : Nat) (tunnel : Tunnel) : Prop where
  view : tunnel.view = (st.tunnels t).view
  live : tunnel.live = (st.tunnels t).live
  outside : (st.tunnels t).outside = true → tunnel.outside = true ∨ st.shutdown = false
  there : st.tunnels t ≠ .absent

/-- The moves of a tunnel: those the set does not see, and the five it does. -/
inductive Moved (st : State) (t : Nat) : State → Prop where
  | plain (tunnel : Tunnel) (expired draining : Nat → Bool) (plain : Plain st t tunnel)
      (drains : ∀ w, st.draining w = true → draining w = true) :
      Moved st t { st.goto t tunnel with expired := expired, draining := draining }
  | append (here : st.tunnels t = .attaching) :
      Moved st t { st.goto t .attached with
        workers := st.workers ++ [t], attached := st.attached ++ [t] }
  | attachHook (here : st.tunnels t = .attached) :
      Moved st t { st.goto t .settling with hooks := st.hooks ++ [(.attach, t)] }
  | remove (here : st.tunnels t = .detaching) :
      Moved st t { st.goto t (if (removeWorker st.workers t).2 then .detached else .closing true)
        with workers := (removeWorker st.workers t).1 }
  | detachHook (here : st.tunnels t = .detached) :
      Moved st t { st.goto t (.closing true) with hooks := st.hooks ++ [(.detach, t)] }
  | close (joined : Bool) (here : st.tunnels t = .closing joined) :
      Moved st t { st.goto t (.done joined) with tunnelAccepts := st.tunnelAccepts - 1 }

theorem moved_goto {tunnel : Tunnel} (plain : Plain st t tunnel) :
    Moved st t (st.goto t tunnel) :=
  .plain tunnel st.expired st.draining plain fun _ drains => drains

theorem plain_of {old tunnel : Tunnel} (here : st.tunnels t = old)
    (view : tunnel.view = old.view) (live : tunnel.live = old.live)
    (outside : old.outside = true → tunnel.outside = true) (there : old ≠ .absent) :
    Plain st t tunnel :=
  ⟨here ▸ view, here ▸ live, fun out => .inl (outside (here ▸ out)), here ▸ there⟩

theorem tunnelStep_moved {move : TunnelMove} (stepped : tunnelStep st t move = some next) :
    Moved st t next := by
  cases move with
  | fail =>
      obtain ⟨here, rfl⟩ := enabled stepped
      exact moved_goto (plain_of here rfl rfl (fun _ => rfl) nofun)
  | check =>
      obtain ⟨here, rfl⟩ := enabled stepped
      refine moved_goto ?_
      cases down : st.shutdown with
      | true => exact plain_of here rfl rfl (fun _ => rfl) nofun
      | false => exact ⟨by rw [here]; rfl, by rw [here]; rfl, fun _ => .inr down, by rw [here]; nofun⟩
  | append =>
      obtain ⟨here, rfl⟩ := enabled stepped
      exact .append here
  | attachHook =>
      obtain ⟨here, rfl⟩ := enabled stepped
      exact .attachHook here
  | dropTunnel =>
      obtain ⟨⟨here, -⟩, rfl⟩ := enabled stepped
      exact moved_goto (plain_of here rfl rfl (fun _ => rfl) nofun)
  | noSettings | frame | lost | timeout =>
      obtain ⟨here, rfl⟩ := enabled stepped
      exact moved_goto (plain_of here rfl rfl nofun nofun)
  | settings | settingsExpire | tearDown =>
      obtain ⟨⟨here, -⟩, rfl⟩ := enabled stepped
      exact moved_goto (plain_of here rfl rfl nofun nofun)
  | look =>
      obtain ⟨here, rfl⟩ := enabled stepped
      refine moved_goto ?_
      split <;> exact plain_of here rfl rfl nofun nofun
  | resume =>
      obtain ⟨⟨here, -⟩, rfl⟩ := enabled stepped
      refine moved_goto ?_
      split <;> exact plain_of here rfl rfl nofun nofun
  | arm =>
      obtain ⟨here, rfl⟩ := enabled stepped
      exact .plain .reading _ st.draining (plain_of here rfl rfl nofun nofun) fun _ drains => drains
  | handled drains writes =>
      obtain ⟨⟨here, -⟩, rfl⟩ := enabled stepped
      refine .plain .looking st.expired _ (plain_of here rfl rfl nofun nofun) fun w drains => ?_
      by_cases same : w = t
      · subst same
        simp [drains]
      · simpa [same] using drains
  | giveUp =>
      obtain ⟨here | here | here, rfl⟩ := enabled stepped <;>
        exact moved_goto (plain_of here rfl rfl nofun nofun)
  | remove =>
      obtain ⟨here, rfl⟩ := enabled stepped
      exact .remove here
  | detachHook =>
      obtain ⟨here, rfl⟩ := enabled stepped
      exact .detachHook here
  | close =>
      simp only [tunnelStep] at stepped
      split at stepped
      · cases stepped
        exact .close _ ‹_›
      · cases stepped

theorem goto_view {tunnel : Tunnel} (same : tunnel.view = (st.tunnels t).view) (w : Nat) :
    ((st.goto t tunnel).tunnels w).view = (st.tunnels w).view := by
  by_cases here : w = t
  · subst here
    simpa [State.goto] using same
  · simp [State.goto, here]

theorem Registered.congr (registered : Registered st)
    (view : ∀ w, (next.tunnels w).view = (st.tunnels w).view)
    (attached : next.attached = st.attached) (workers : next.workers = st.workers)
    (hooks : next.hooks = st.hooks) : Registered next where
  nodup := attached ▸ registered.nodup
  joined w := by
    have joined : (next.tunnels w).joined = (st.tunnels w).joined := congrArg (·.1) (view w)
    rw [attached, registered.joined, joined]
  workers := by
    have listed : ∀ w, (next.tunnels w).listed = (st.tunnels w).listed := fun w =>
      congrArg (·.2.1) (view w)
    simp only [workers, attached, listed, registered.workers]
  hooks w := by
    have called : (next.tunnels w).hooks = (st.tunnels w).hooks := congrArg (·.2.2) (view w)
    rw [hooks, registered.hooks, called]

theorem append_registered (registered : Registered st) (here : st.tunnels t = .attaching) :
    Registered { st.goto t .attached with
      workers := st.workers ++ [t], attached := st.attached ++ [t] } := by
  have absent : t ∉ st.attached := fun member => by
    simpa [here, Tunnel.joined, Tunnel.listed] using (registered.joined t).mp member
  refine ⟨?_, fun w => ?_, ?_, fun w => ?_⟩
  · exact List.nodup_append.mpr ⟨registered.nodup, List.nodup_singleton t,
      fun x member y last => by rintro rfl; exact absent (List.mem_singleton.mp last ▸ member)⟩
  · by_cases same : w = t
    · subst same
      simp [State.goto, Tunnel.joined, Tunnel.listed]
    · simpa [State.goto, same] using registered.joined w
  · have kept : st.attached.filter (fun w => ((st.goto t .attached).tunnels w).listed) =
        st.attached.filter fun w => (st.tunnels w).listed :=
      List.filter_congr fun w member => by
        have other : w ≠ t := fun same => absent (same ▸ member)
        simp [State.goto, other]
    have added : ((st.goto t .attached).tunnels t).listed = true := by
      simp [State.goto, Tunnel.listed]
    change st.workers ++ [t] = (st.attached ++ [t]).filter _
    rw [List.filter_append, kept, ← registered.workers]
    simp [added]
  · refine (registered.hooks w).trans ?_
    by_cases same : w = t
    · subst same
      simp [State.goto, here, Tunnel.hooks]
    · simp [State.goto, same]

/-- A hook is called for `t` and its goroutine moves on. -/
theorem hook_registered (registered : Registered st) {tunnel : Tunnel} (kind : Hook)
    (joined : tunnel.joined = (st.tunnels t).joined)
    (listed : tunnel.listed = (st.tunnels t).listed)
    (hooks : tunnel.hooks = (st.tunnels t).hooks ++ [kind]) :
    Registered { st.goto t tunnel with hooks := st.hooks ++ [(kind, t)] } := by
  refine ⟨registered.nodup, fun w => ?_, ?_, fun w => ?_⟩
  · by_cases same : w = t
    · subst same
      simpa [State.goto, joined] using registered.joined w
    · simpa [State.goto, same] using registered.joined w
  · refine registered.workers.trans (List.filter_congr fun w _ => ?_)
    by_cases same : w = t
    · subst same
      simp [State.goto, listed]
    · simp [State.goto, same]
  · by_cases same : w = t
    · subst same
      simp [State.goto, hooks, List.filter_append, registered.hooks]
    · simp [State.goto, same, Ne.symm same, List.filter_append, registered.hooks]

theorem remove_registered (registered : Registered st) (here : st.tunnels t = .detaching) :
    Registered { st.goto t (if (removeWorker st.workers t).2 then .detached else .closing true)
      with workers := (removeWorker st.workers t).1 } := by
  have nodup : st.workers.Nodup := registered.workers ▸ registered.nodup.filter _
  have member : t ∈ st.workers := by
    rw [registered.workers, List.mem_filter, registered.joined]
    simp [here, Tunnel.joined, Tunnel.listed]
  -- its own goroutine is the only one that takes a worker out
  simp only [removeWorker_eq nodup, member, decide_true, if_true]
  refine ⟨registered.nodup, fun w => ?_, ?_, fun w => ?_⟩
  · by_cases same : w = t
    · subst same
      simpa [State.goto, here, Tunnel.joined, Tunnel.listed] using registered.joined w
    · simpa [State.goto, same] using registered.joined w
  · change st.workers.filter _ = _
    rw [registered.workers, List.filter_filter]
    refine List.filter_congr fun w _ => ?_
    by_cases same : w = t
    · subst same
      simp [State.goto, Tunnel.listed]
    · simp [State.goto, same]
  · refine (registered.hooks w).trans ?_
    by_cases same : w = t
    · subst same
      simp [State.goto, here, Tunnel.hooks]
    · simp [State.goto, same]

theorem Moved.registered (moved : Moved st t next) (registered : Registered st) :
    Registered next := by
  cases moved with
  | plain tunnel expired draining plain _ =>
      exact registered.congr (goto_view plain.view) rfl rfl rfl
  | append here => exact append_registered registered here
  | attachHook here =>
      exact hook_registered registered .attach (by rw [here]; rfl) (by rw [here]; rfl)
        (by rw [here]; rfl)
  | remove here => exact remove_registered registered here
  | detachHook here =>
      exact hook_registered registered .detach (by rw [here]; rfl) (by rw [here]; rfl)
        (by rw [here]; rfl)
  | close joined here =>
      exact registered.congr (goto_view (by rw [here]; cases joined <;> rfl)) rfl rfl rfl

theorem goto_counted (counted : Counted st) {tunnel : Tunnel} (there : st.tunnels t ≠ .absent)
    (tunnels : next.tunnels = Function.update st.tunnels t tunnel)
    (started : next.started = st.started)
    (accepts : next.tunnelAccepts =
      st.tunnelAccepts + (tunnel.live - (st.tunnels t).live)) : Counted next where
  accepts := by
    rw [accepts, started, tunnels, sum_update Tunnel.live _ _ (counted.started t there),
      counted.accepts]
  started w present := by
    rw [started]
    by_cases same : w = t
    · exact same ▸ counted.started t there
    · exact counted.started w (by simpa [tunnels, same] using present)

theorem Moved.counted (moved : Moved st t next) (counted : Counted st) : Counted next := by
  cases moved with
  | plain tunnel expired draining plain _ =>
      exact goto_counted counted plain.there rfl rfl (by simp [State.goto, plain.live])
  | append here | attachHook here | detachHook here =>
      exact goto_counted counted (by rw [here]; nofun) rfl rfl (by simp [State.goto, here, Tunnel.live])
  | remove here =>
      refine goto_counted counted (by rw [here]; nofun) rfl rfl ?_
      split <;> simp [State.goto, here, Tunnel.live]
  | close joined here =>
      exact goto_counted counted (by rw [here]; nofun) rfl rfl
        (by simp [here, Tunnel.live]; omega)

theorem Sealed.shutdown (isSealed : Sealed st) {k : Nat} (called : st.calls k ≠ .idle)
    (entered : st.calls k ≠ .inOnce) : st.shutdown = true := by
  have done := isSealed.passed k called entered
  exact isSealed.closed (by rw [done]; nofun) (by rw [done]; nofun)

/-- With `shutdownCh` closed nobody gets in from outside. -/
theorem Moved.quiet (moved : Moved st t next) (down : st.shutdown = true)
    (quiet : ∀ w, (st.tunnels w).outside = true) (w : Nat) :
    (next.tunnels w).outside = true := by
  have goto : ∀ tunnel, tunnel.outside = true →
      (Function.update st.tunnels t tunnel w).outside = true := fun tunnel out => by
    by_cases same : w = t
    · subst same
      simpa using out
    · simpa [same] using quiet w
  have inside := quiet t
  cases moved with
  | plain tunnel expired draining plain _ =>
      exact goto tunnel ((plain.outside inside).resolve_right (by simp [down]))
  | append here | attachHook here | remove here | detachHook here =>
      rw [here] at inside
      cases inside
  | close joined here => exact goto _ rfl

theorem Moved.frame (moved : Moved st t next) :
    next.once = st.once ∧ next.calls = st.calls ∧ next.shutdown = st.shutdown := by
  cases moved <;> exact ⟨rfl, rfl, rfl⟩

theorem Moved.isSealed (moved : Moved st t next) (isSealed : Sealed st) : Sealed next := by
  obtain ⟨once, calls, shutdown⟩ := moved.frame
  refine ⟨by rw [once, shutdown]; exact isSealed.closed, by rw [once, calls]; exact isSealed.passed,
    fun k ended => ?_⟩
  rw [calls] at ended
  have down : st.shutdown = true := by
    rcases ended with there | there <;>
      exact isSealed.shutdown (k := k) (by rw [there]; nofun) (by rw [there]; nofun)
  exact moved.quiet down (isSealed.quiet k ended)

theorem Scanned.mono {draining later : Nat → Bool} {snap ws : List Nat} {i len : Nat}
    (scanned : Scanned draining snap ws i len)
    (drains : ∀ w, draining w = true → later w = true) : Scanned later snap ws i len where
  behind := scanned.behind
  within := scanned.within
  ahead := scanned.ahead
  offered := scanned.offered
  complete := by
    refine (List.monotone_filter_right _ fun w kept => ?_).trans scanned.complete
    cases looked : draining w with
    | true => simp [drains w looked] at kept
    | false => rfl

theorem Moved.forwarded (moved : Moved st t next) (forwarded : Forwarded st) :
    Forwarded next := by
  cases moved with
  | plain tunnel expired draining _ drains =>
      exact { forwarded with
        scans := fun f snap ws i len scans => (forwarded.scans f snap ws i len scans).mono drains }
  | append | attachHook | remove | detachHook | close =>
      exact ⟨forwarded.inFlight, forwarded.streams, forwarded.scans, forwarded.begun⟩

theorem tunnelStep_valid {move : TunnelMove} (valid : Valid st)
    (stepped : tunnelStep st t move = some next) : Valid next :=
  have moved := tunnelStep_moved stepped
  ⟨moved.registered valid.registered, moved.counted valid.counted,
    moved.forwarded valid.forwarded, moved.isSealed valid.isSealed⟩

theorem spawn_counted (counted : Counted st) (here : st.tunnels t = .absent)
    (tunnels : next.tunnels = Function.update st.tunnels t .handshaking)
    (accepts : next.tunnelAccepts = st.tunnelAccepts + 1)
    (started : next.started = insert t st.started) : Counted next where
  accepts := by
    have old : ∑ w ∈ insert t st.started, (st.tunnels w).live =
        ∑ w ∈ st.started, (st.tunnels w).live :=
      sum_insert_of_eq_zero_if_notMem fun _ => by rw [here]; rfl
    rw [accepts, started, tunnels, sum_update Tunnel.live _ _ (mem_insert_self t st.started), old,
      counted.accepts, here]
    rfl
  started w present := by
    rw [started, mem_insert]
    by_cases same : w = t
    · exact .inl same
    · exact .inr (counted.started w (by simpa [tunnels, same] using present))

/-- What the invariant does not look at. -/
theorem Valid.unseen (valid : Valid st) (tunnelListener : Option Nat) (closed : Nat → Bool)
    (loops : Nat → Loop) (expired stuck : Nat → Bool) :
    Valid { st with
      tunnelListener := tunnelListener, closed := closed, loops := loops, expired := expired
      stuck := stuck } :=
  have ⟨registered, counted, forwarded, isSealed⟩ := valid
  ⟨⟨registered.nodup, registered.joined, registered.workers, registered.hooks⟩,
    ⟨counted.accepts, counted.started⟩,
    ⟨forwarded.inFlight, forwarded.streams, forwarded.scans, forwarded.begun⟩,
    ⟨isSealed.closed, isSealed.passed, isSealed.quiet⟩⟩

theorem spawn_valid {l ln : Nat} (valid : Valid st) (here : st.tunnels t = .absent) :
    Valid { (st.putLoop l (.accepting ln)).goto t .handshaking with
      tunnelAccepts := st.tunnelAccepts + 1, started := insert t st.started } := by
  obtain ⟨registered, counted, forwarded, isSealed⟩ := valid
  have view : Tunnel.handshaking.view = (st.tunnels t).view := by rw [here]; rfl
  refine ⟨registered.congr (goto_view view) rfl rfl rfl, spawn_counted counted here rfl rfl rfl,
    ⟨forwarded.inFlight, forwarded.streams, forwarded.scans, forwarded.begun⟩,
    ⟨isSealed.closed, isSealed.passed, fun k ended w => ?_⟩⟩
  by_cases same : w = t
  · subst same
    simp [State.goto, Tunnel.outside]
  · simpa [State.goto, State.putLoop, same] using isSealed.quiet k ended w

theorem loopStep_valid {l : Nat} {move : LoopMove} (valid : Valid st)
    (stepped : loopStep st l move = some next) : Valid next := by
  cases move with
  | listen ln =>
      obtain ⟨-, rfl⟩ := enabled stepped
      exact valid.unseen ..
  | spawn t =>
      simp only [loopStep] at stepped
      split at stepped
      · obtain ⟨here, rfl⟩ := enabled stepped
        exact spawn_valid valid here
      · cases stepped
  | accept =>
      simp only [loopStep] at stepped
      split at stepped
      · obtain ⟨-, rfl⟩ := enabled stepped
        exact valid.unseen ..
      · cases stepped
  | temporary =>
      simp only [loopStep] at stepped
      split at stepped
      · obtain ⟨-, rfl⟩ := enabled stepped
        exact valid
      · cases stepped
  | fail | leave =>
      simp only [loopStep] at stepped
      split at stepped
      · cases stepped
        exact valid.unseen ..
      · cases stepped

/-- `Shutdown` changes nothing but its own state and `shutdownCh`. -/
theorem Valid.resealed (valid : Valid st) {shutdown : Bool} {once : Once} {calls : Nat → Call}
    (isSealed : Sealed { st with shutdown := shutdown, once := once, calls := calls }) :
    Valid { st with shutdown := shutdown, once := once, calls := calls } :=
  have ⟨registered, counted, forwarded, _⟩ := valid
  ⟨⟨registered.nodup, registered.joined, registered.workers, registered.hooks⟩,
    ⟨counted.accepts, counted.started⟩,
    ⟨forwarded.inFlight, forwarded.streams, forwarded.scans, forwarded.begun⟩, isSealed⟩

/-- The body of the `Once` goes on; nobody is past it yet. -/
theorem Valid.unpassed (valid : Valid st) (before : st.once ≠ .done) {shutdown : Bool}
    (down : shutdown = true) (once : Once) (closed expired : Nat → Bool) :
    Valid { st with
      shutdown := shutdown, once := once, closed := closed, expired := expired } := by
  have nobody : ∀ k, st.calls k = .idle ∨ st.calls k = .inOnce := fun k => by
    by_contra called
    rw [not_or] at called
    exact before (valid.isSealed.passed k called.1 called.2)
  have reseal : Sealed { st with shutdown := shutdown, once := once } :=
    ⟨fun _ _ => down, fun k called entered => ((nobody k).elim called entered).elim,
      fun k ended => by rcases nobody k with there | there <;> simp [there] at ended⟩
  exact (valid.resealed reseal).unseen st.tunnelListener closed st.loops expired st.stuck

theorem onceStep_valid {move : OnceMove} (valid : Valid st)
    (stepped : onceStep st move = some next) : Valid next := by
  have down := valid.isSealed.closed
  cases move with
  | close =>
      obtain ⟨here, rfl⟩ := enabled stepped
      exact valid.unpassed (by rw [here]; nofun) rfl ..
  | readListener | snapshot | finish =>
      obtain ⟨here, rfl⟩ := enabled stepped
      rw [here] at down
      exact valid.unpassed (by rw [here]; nofun) (down nofun nofun) ..
  | closeListener =>
      simp only [onceStep] at stepped
      split at stepped
      · rename_i here
        cases stepped
        rw [here] at down
        exact valid.unpassed (by rw [here]; nofun) (down nofun nofun) ..
      · rename_i here
        cases stepped
        rw [here] at down
        exact valid.unpassed (by rw [here]; nofun) (down nofun nofun) ..
      · cases stepped
  | wake =>
      simp only [onceStep] at stepped
      split at stepped
      · rename_i here
        cases stepped
        rw [here] at down
        exact valid.unpassed (by rw [here]; nofun) (down nofun nofun) ..
      · cases stepped

theorem putCall_valid (valid : Valid st) {k : Nat} {call : Call}
    (passed : call ≠ .idle → call ≠ .inOnce → st.once = .done)
    (quiet : call = .drained ∨ call = .returned → ∀ t, (st.tunnels t).outside = true) :
    Valid (st.putCall k call) := by
  refine valid.resealed ⟨valid.isSealed.closed, fun j called entered => ?_, fun j ended => ?_⟩
  · by_cases same : j = k
    · subst same
      simp only [Function.update_self] at called entered
      exact passed called entered
    · simp only [Function.update_of_ne same] at called entered
      exact valid.isSealed.passed j called entered
  · by_cases same : j = k
    · subst same
      exact quiet (by simpa [State.putCall] using ended)
    · exact valid.isSealed.quiet j (by simpa [State.putCall, same] using ended)

/-- Zero means that every tunnel there has been is done. -/
theorem Counted.quiet (counted : Counted st) (zero : st.tunnelAccepts = 0) (t : Nat) :
    (st.tunnels t).live = 0 := by
  by_cases present : st.tunnels t = .absent
  · rw [present]
    rfl
  · have nonneg : ∀ w ∈ st.started, 0 ≤ (st.tunnels w).live := fun w _ => by
      unfold Tunnel.live
      split <;> decide
    exact (sum_eq_zero_iff_of_nonneg nonneg).mp (counted.accepts ▸ zero) t
      (counted.started t present)

theorem Tunnel.outside_of_dead {tunnel : Tunnel} (dead : tunnel.live = 0) :
    tunnel.outside = true := by
  cases tunnel <;> first | rfl | cases dead

theorem callStep_valid {k : Nat} {move : CallMove} (valid : Valid st)
    (stepped : callStep st k move = some next) : Valid next := by
  cases move with
  | enter =>
      obtain ⟨here, rfl⟩ := enabled stepped
      have entered : Valid (st.putCall k .inOnce) :=
        putCall_valid valid (fun _ other => absurd rfl other) (by simp)
      by_cases fresh : st.once = .fresh
      · have nobody : ∀ j, (st.putCall k .inOnce).calls j = .idle ∨
            (st.putCall k .inOnce).calls j = .inOnce := fun j => by
          by_contra called
          rw [not_or] at called
          have done := entered.isSealed.passed j called.1 called.2
          rw [State.putCall, fresh] at done
          cases done
        rw [if_pos fresh]
        refine entered.resealed ⟨fun _ begun => absurd rfl begun, fun j called other =>
          ((nobody j).elim called other).elim, fun j ended => ?_⟩
        rcases nobody j with there | there <;> simp [there] at ended
      · rw [if_neg fresh]
        exact entered
  | pass =>
      obtain ⟨⟨-, done⟩, rfl⟩ := enabled stepped
      exact putCall_valid valid (fun _ _ => done) (by simp)
  | waited =>
      obtain ⟨⟨here, zero⟩, rfl⟩ := enabled stepped
      exact putCall_valid valid
        (fun _ _ => valid.isSealed.passed k (by rw [here]; nofun) (by rw [here]; nofun))
        fun _ t => Tunnel.outside_of_dead (valid.counted.quiet zero t)
  | returns =>
      obtain ⟨here, rfl⟩ := enabled stepped
      exact putCall_valid valid
        (fun _ _ => valid.isSealed.passed k (by rw [here]; nofun) (by rw [here]; nofun))
        fun _ => valid.isSealed.quiet k (.inl here)
  | expire =>
      obtain ⟨here, rfl⟩ := enabled stepped
      refine putCall_valid valid (fun _ _ => ?_) (by simp)
      rcases here with here | here <;>
        exact valid.isSealed.passed k (by rw [here]; nofun) (by rw [here]; nofun)

/-- Only the requests have moved. -/
theorem Valid.reforwarded (valid : Valid st) {forwards : Nat → Forward} {inFlight : Nat → Int}
    {streams : Nat → Finset Nat} {begun : Finset Nat}
    (forwarded : Forwarded { st with
      forwards := forwards, inFlight := inFlight, streams := streams, begun := begun }) :
    Valid { st with
      forwards := forwards, inFlight := inFlight, streams := streams, begun := begun } :=
  have ⟨registered, counted, _, isSealed⟩ := valid
  ⟨⟨registered.nodup, registered.joined, registered.workers, registered.hooks⟩,
    ⟨counted.accepts, counted.started⟩, forwarded,
    ⟨isSealed.closed, isSealed.passed, isSealed.quiet⟩⟩

/-- A request that has begun moves on. -/
theorem put_forwarded (forwarded : Forwarded st) {f : Nat} {forward : Forward}
    {inFlight : Nat → Int} {streams : Nat → Finset Nat} (there : st.forwards f ≠ .idle)
    (counts : ∀ w, inFlight w =
      st.inFlight w + (forward.countsOn w - (st.forwards f).countsOn w))
    (opened : ∀ w g, g ∈ streams w ↔
      if g = f then forward = .streaming w else g ∈ st.streams w)
    (scans : ∀ snap ws i len, forward = .scanning snap ws i len →
      Scanned st.draining snap ws i len) :
    Forwarded { st.putForward f forward with inFlight := inFlight, streams := streams } where
  inFlight w := by
    refine (counts w).trans ?_
    rw [forwarded.inFlight w]
    exact (sum_update (Forward.countsOn w) st.forwards forward (forwarded.begun f there)).symm
  streams w g := by
    rw [opened w g]
    by_cases same : g = f
    · subst same
      simp [State.putForward]
    · simpa [State.putForward, same] using forwarded.streams w g
  scans g snap ws i len scanning := by
    by_cases same : g = f
    · subst same
      exact scans snap ws i len (by simpa [State.putForward] using scanning)
    · exact forwarded.scans g snap ws i len (by simpa [State.putForward, same] using scanning)
  begun g present := by
    by_cases same : g = f
    · exact same ▸ forwarded.begun f there
    · exact forwarded.begun g (by simpa [State.putForward, same] using present)

/-- It moves on and changes one count. -/
theorem recount_valid (valid : Valid st) {f w : Nat} {forward : Forward}
    (there : st.forwards f ≠ .idle)
    (before : ∀ v, st.forwards f ≠ .streaming v) (after : ∀ v, forward ≠ .streaming v)
    (scans : ∀ snap ws i len, forward ≠ .scanning snap ws i len)
    (change : Int) {count : Int} (counted : count = st.inFlight w + change)
    (counts : ∀ v, forward.countsOn v =
      (st.forwards f).countsOn v + if v = w then change else 0) :
    Valid { st.putForward f forward with
      inFlight := Function.update st.inFlight w count } := by
  refine valid.reforwarded (put_forwarded valid.forwarded there (fun v => ?_) (fun v g => ?_)
    fun snap ws i len scanning => absurd scanning (scans snap ws i len))
  · by_cases same : v = w
    · subst same
      simp [counts, counted]
    · simp [counts, same]
  · by_cases same : g = f
    · subst same
      simpa [after, State.putForward] using
        fun member => before v ((valid.forwarded.streams v g).mp member)
    · simp [same, State.putForward]

/-- It moves on without its stream or its count. -/
theorem putForward_valid (valid : Valid st) {f : Nat} {forward : Forward}
    (there : st.forwards f ≠ .idle)
    (counts : ∀ w, forward.countsOn w = (st.forwards f).countsOn w)
    (before : ∀ w, st.forwards f ≠ .streaming w) (after : ∀ w, forward ≠ .streaming w)
    (scans : ∀ snap ws i len, forward = .scanning snap ws i len →
      Scanned st.draining snap ws i len) : Valid (st.putForward f forward) := by
  refine valid.reforwarded (put_forwarded valid.forwarded there (fun w => ?_) (fun w g => ?_) scans)
  · simp [counts]
  · by_cases same : g = f
    · subst same
      simpa [after] using fun member => before w ((valid.forwarded.streams w g).mp member)
    · simp [same]

theorem scanned_new (draining : Nat → Bool) (ws : List Nat) : Scanned draining ws ws 0 0 :=
  ⟨le_rfl, Nat.zero_le _, rfl, by simp, by simp⟩

section Scan

variable {draining : Nat → Bool} {snap ws : List Nat} {i len w : Nat}

theorem Scanned.found (scanned : Scanned draining snap ws i len) (here : ws[i]? = some w) :
    i < ws.length ∧ snap[i]? = some w ∧ ws.drop (i + 1) = snap.drop (i + 1) := by
  obtain ⟨inside, -⟩ := List.getElem?_eq_some_iff.mp here
  refine ⟨inside, ?_, ?_⟩
  · have first := congrArg (·[0]?) scanned.ahead
    simpa [here] using first.symm
  · have tails := congrArg List.tail scanned.ahead
    simpa using tails

theorem scan_skip (scanned : Scanned draining snap ws i len) (found : ws[i]? = some w)
    (drains : draining w = true) : Scanned draining snap ws (i + 1) len := by
  obtain ⟨inside, here, ahead⟩ := scanned.found found
  have split : snap.take (i + 1) = snap.take i ++ [w] := by
    rw [List.take_add_one, here, Option.toList_some]
  refine ⟨Nat.le_succ_of_le scanned.behind, inside, ahead, ?_, ?_⟩
  · rw [split]
    exact scanned.offered.trans (List.sublist_append_left _ _)
  · simpa [split, drains] using scanned.complete

theorem take_set_succ (inside : len < ws.length) :
    (ws.set len w).take (len + 1) = ws.take len ++ [w] := by
  rw [List.take_add_one, List.take_set_of_le (Nat.le_refl len),
    List.getElem?_set_self inside, Option.toList_some]

/-- The write goes to a place the range has already passed. -/
theorem scan_keep (scanned : Scanned draining snap ws i len) (found : ws[i]? = some w)
    (stays : draining w = false) :
    Scanned draining snap (ws.set len w) (i + 1) (len + 1) := by
  obtain ⟨inside, here, ahead⟩ := scanned.found found
  have behind := scanned.behind
  have split : snap.take (i + 1) = snap.take i ++ [w] := by
    rw [List.take_add_one, here, Option.toList_some]
  have grown : (ws.set len w).take (len + 1) = ws.take len ++ [w] := take_set_succ (by omega)
  refine ⟨by omega, by simpa using Nat.succ_le_of_lt inside, ?_, ?_, ?_⟩
  · rw [List.drop_set_of_lt (by omega), ahead]
  · rw [grown, split]
    exact scanned.offered.append (List.Sublist.refl _)
  · rw [grown, split, List.filter_append]
    exact scanned.complete.append (by simp [stays])

end Scan

theorem snapshot_valid (valid : Valid st) {f : Nat} (idle : st.forwards f = .idle) :
    Valid { st.putForward f (.scanning st.workers st.workers 0 0) with
      begun := insert f st.begun } := by
  have forwarded := valid.forwarded
  refine valid.reforwarded ⟨fun w => ?_, fun w g => ?_, fun g snap ws i len scanning => ?_,
    fun g present => ?_⟩
  · have old : ∑ g ∈ insert f st.begun, (st.forwards g).countsOn w =
        ∑ g ∈ st.begun, (st.forwards g).countsOn w :=
      sum_insert_of_eq_zero_if_notMem fun _ => by rw [idle]; rfl
    have summed := sum_update (Forward.countsOn w) st.forwards
      (.scanning st.workers st.workers 0 0) (mem_insert_self f st.begun)
    rw [old, idle] at summed
    refine (forwarded.inFlight w).trans (Eq.trans ?_ summed.symm)
    simp [Forward.countsOn]
  · by_cases same : g = f
    · subst same
      simpa [State.putForward, idle] using forwarded.streams w g
    · simpa [State.putForward, same] using forwarded.streams w g
  · by_cases same : g = f
    · subst same
      simp only [State.putForward, Function.update_self, Forward.scanning.injEq] at scanning
      obtain ⟨rfl, rfl, rfl, rfl⟩ := scanning
      exact scanned_new _ _
    · exact forwarded.scans g snap ws i len (by simpa [State.putForward, same] using scanning)
  · refine mem_insert.mpr ((eq_or_ne g f).imp_right fun same => ?_)
    exact forwarded.begun g (by simpa [State.putForward, same] using present)

theorem openStream_valid (valid : Valid st) {f w : Nat} (limit : Nat)
    (here : st.forwards f = .counted w) : Valid (openStream st f w limit) := by
  have there : st.forwards f ≠ .idle := by rw [here]; nofun
  have refused : ∀ answer, Valid (st.putForward f (.leaving w answer)) := fun answer =>
    putForward_valid valid there (fun v => by rw [here]; rfl) (by rw [here]; nofun) nofun nofun
  unfold openStream
  split
  · exact refused _
  · split
    · exact refused _
    · refine valid.reforwarded (put_forwarded valid.forwarded there (fun v => ?_) (fun v g => ?_)
        nofun)
      · simp [here, State.putForward, Forward.countsOn]
      · by_cases self : v = w
        · subst self
          by_cases same : g = f <;> simp [same]
        · have away : f ∉ st.streams v := fun member => by
            simpa [here] using (valid.forwarded.streams v f).mp member
          by_cases same : g = f
          · subst same
            simpa [self, Ne.symm self] using away
          · simp [self, same]

theorem forwardStep_valid {f : Nat} {move : ForwardMove} (valid : Valid st)
    (stepped : forwardStep st f move = some next) : Valid next := by
  cases move with
  | snapshot =>
      obtain ⟨idle, rfl⟩ := enabled stepped
      exact snapshot_valid valid idle
  | scan =>
      simp only [forwardStep] at stepped
      split at stepped
      · rename_i snap ws i len here
        obtain ⟨w, found, rfl⟩ := Option.map_eq_some_iff.mp stepped
        have scanned := valid.forwarded.scans f snap ws i len here
        refine putForward_valid valid (by rw [here]; nofun) (fun v => ?_) (by rw [here]; nofun)
          (fun v => ?_) fun snap' ws' i' len' same => ?_
        · rw [here]
          split <;> rfl
        · split <;> nofun
        · cases drains : st.draining w with
          | true =>
              simp only [drains, if_true, Forward.scanning.injEq] at same
              obtain ⟨rfl, rfl, rfl, rfl⟩ := same
              exact scan_skip scanned found drains
          | false =>
              simp only [drains, Bool.false_eq_true, if_false, Forward.scanning.injEq] at same
              obtain ⟨rfl, rfl, rfl, rfl⟩ := same
              exact scan_keep scanned found drains
      · cases stepped
  | pick choice =>
      simp only [forwardStep] at stepped
      split at stepped
      · rename_i here
        split at stepped
        · cases choice with
          | none =>
              cases stepped
              exact putForward_valid valid (by rw [here]; nofun) (fun v => by rw [here]; rfl)
                (by rw [here]; nofun) nofun nofun
          | some w =>
              obtain ⟨-, rfl⟩ := enabled stepped
              exact putForward_valid valid (by rw [here]; nofun) (fun v => by rw [here]; rfl)
                (by rw [here]; nofun) nofun nofun
        · cases stepped
      · cases stepped
  | count =>
      simp only [forwardStep] at stepped
      split at stepped
      · rename_i w here
        cases stepped
        exact recount_valid valid (by rw [here]; nofun) (by rw [here]; nofun) (by nofun) (by nofun) 1
          rfl
          fun v => by simp [here, Forward.countsOn, eq_comm]
      · cases stepped
  | openStream limit =>
      simp only [forwardStep] at stepped
      split at stepped
      · rename_i w here
        cases stepped
        exact openStream_valid valid limit here
      · cases stepped
  | sendFails =>
      simp only [forwardStep] at stepped
      split at stepped
      · rename_i w here
        cases stepped
        exact putForward_valid valid (by rw [here]; nofun) (fun v => by rw [here]; rfl)
          (by rw [here]; nofun) nofun nofun
      · cases stepped
  | clean =>
      simp only [forwardStep] at stepped
      split at stepped
      · rename_i w here
        cases stepped
        refine valid.reforwarded (put_forwarded valid.forwarded (by rw [here]; nofun) (fun v => ?_)
          (fun v g => ?_) nofun)
        · simp [here, State.putForward, Forward.countsOn]
        · by_cases self : v = w
          · subst self
            by_cases same : g = f <;> simp [same]
          · have away : f ∉ st.streams v := fun member => by
              simpa [here, Ne.symm self] using (valid.forwarded.streams v f).mp member
            by_cases same : g = f
            · subst same
              simpa [self] using away
            · simp [self, same]
      · cases stepped
  | uncount =>
      simp only [forwardStep] at stepped
      split at stepped
      · rename_i w answer here
        cases stepped
        refine recount_valid valid (by rw [here]; nofun) (by rw [here]; nofun) (by nofun) (by nofun)
          (-1) rfl fun v => ?_
        by_cases same : w = v <;> simp [here, Forward.countsOn, same, eq_comm]
      · cases stepped

theorem step_valid {action : Action} (valid : Valid st) (stepped : step st action = some next) :
    Valid next := by
  cases action with
  | loop l move => exact loopStep_valid valid stepped
  | tunnel t move => exact tunnelStep_valid valid stepped
  | once move => exact onceStep_valid valid stepped
  | call k move => exact callStep_valid valid stepped
  | forward f move => exact forwardStep_valid valid stepped
  | writer t stuck =>
      cases stepped
      exact valid.unseen ..

end Steps

/-! What holds in every reachable state. -/

def Forward.on (w : Nat) : Forward → Bool
  | .counted v | .streaming v | .leaving v _ => v == w
  | _ => false

/-- `order`: the set is in attach order; `streams`: `inFlight` is never below the number of
streams the worker has open; `offered`: what a selector is shown at the end of the scan. -/
structure Accounted (st : State) : Prop where
  distinct : st.workers.Nodup
  order : st.workers.Sublist st.attached
  member : ∀ w, w ∈ st.workers ↔ (st.tunnels w).listed = true
  hooks : ∀ w, (st.hooks.filter (·.2 == w)).map (·.1) = (st.tunnels w).hooks
  accepts : st.tunnelAccepts = #{t ∈ st.started | (st.tunnels t).live = 1}
  inFlight : ∀ w, st.inFlight w = #{f ∈ st.begun | (st.forwards f).on w = true}
  streams : ∀ w, (#(st.streams w) : Int) ≤ st.inFlight w
  offered : ∀ f snap ws i len, st.forwards f = .scanning snap ws i len → ws.length ≤ i →
    (ws.take len).Sublist snap ∧ (snap.filter (!st.draining ·)).Sublist (ws.take len)

theorem Tunnel.live_eq (tunnel : Tunnel) : tunnel.live = if tunnel.live = 1 then 1 else 0 := by
  cases tunnel <;> rfl

theorem Forward.countsOn_eq (w : Nat) (forward : Forward) :
    forward.countsOn w = if forward.on w = true then 1 else 0 := by
  cases forward <;> simp [Forward.countsOn, Forward.on]

theorem Registered.member {st : State} (registered : Registered st) (w : Nat) :
    w ∈ st.workers ↔ (st.tunnels w).listed = true := by
  rw [registered.workers, List.mem_filter, registered.joined]
  refine ⟨And.right, fun listed => ⟨?_, listed⟩⟩
  revert listed
  cases st.tunnels w <;> simp [Tunnel.joined, Tunnel.listed]

theorem Valid.accounted {st : State} (valid : Valid st) : Accounted st := by
  obtain ⟨registered, counted, forwarded, -⟩ := valid
  have inFlight : ∀ w, st.inFlight w = #{f ∈ st.begun | (st.forwards f).on w = true} := fun w => by
    rw [forwarded.inFlight w, sum_congr rfl fun f _ => (st.forwards f).countsOn_eq w, sum_boole]
  refine ⟨registered.workers ▸ registered.nodup.filter _,
    registered.workers ▸ List.filter_sublist, registered.member, registered.hooks, ?_, inFlight,
    fun w => ?_, fun f snap ws i len scanning finished => ?_⟩
  · rw [counted.accepts, sum_congr rfl fun t _ => (st.tunnels t).live_eq, sum_boole]
  · rw [inFlight w, Nat.cast_le]
    refine card_le_card fun f member => ?_
    have here := (forwarded.streams w f).mp member
    exact mem_filter.mpr ⟨forwarded.begun f (by rw [here]; nofun), by simp [here, Forward.on]⟩
  · have scanned := forwarded.scans f snap ws i len scanning
    have whole : snap.take i = snap := by
      refine List.take_of_length_le (List.drop_eq_nil_iff.mp ?_)
      rw [← scanned.ahead, List.drop_eq_nil_iff.mpr finished]
    exact ⟨whole ▸ scanned.offered, by simpa [whole] using scanned.complete⟩

theorem worker_set_accounted (trace : List Action) (last : State)
    (ran : run step State.new trace = some last) : Accounted last :=
  have valid : Valid last :=
    run_invariant_all (fun _ _ _ valid stepped => step_valid valid stepped) valid_new ran
  valid.accounted

/-- Two tunnels attach, the second before the hook of the first is called; a request on the first
one outlives its worker. -/
def overtaken : List Action :=
  [.loop 0 (.listen 7), .loop 0 .accept, .loop 0 (.spawn 1), .loop 0 .accept, .loop 0 (.spawn 2),
    .tunnel 1 .check, .tunnel 1 .append, .tunnel 2 .check, .tunnel 2 .append,
    .tunnel 2 .attachHook, .forward 5 .snapshot, .forward 5 .scan, .forward 5 .scan,
    .forward 5 (.pick (some 1)), .forward 5 .count, .forward 5 (.openStream 100),
    .tunnel 1 .attachHook, .tunnel 1 .noSettings, .tunnel 1 .tearDown, .tunnel 1 .remove,
    .tunnel 1 .detachHook, .tunnel 1 .close]

theorem worker_set_accounted_overtaken : ∃ last, run step State.new overtaken = some last ∧
    last.workers = [2] ∧ last.attached = [1, 2] ∧ last.tunnelAccepts = 1 ∧ last.inFlight 1 = 1 ∧
    last.hooks = [(.attach, 2), (.attach, 1), (.detach, 1)] ∧ Accounted last := by
  have ends : (run step State.new overtaken).map
      (fun st => ((st.workers, st.attached), (st.tunnelAccepts, st.inFlight 1), st.hooks)) =
      some (([2], [1, 2]), (1, 1), [(.attach, 2), (.attach, 1), (.detach, 1)]) := by
    decide +kernel
  obtain ⟨last, ran, outcome⟩ := Option.map_eq_some_iff.mp ends
  simp only [Prod.mk.injEq] at outcome
  obtain ⟨⟨workers, attached⟩, ⟨accepts, inFlight⟩, hooks⟩ := outcome
  exact ⟨last, ran, workers, attached, accepts, inFlight, hooks,
    worker_set_accounted overtaken last ran⟩

end ReverseHttp.WorkerSet
