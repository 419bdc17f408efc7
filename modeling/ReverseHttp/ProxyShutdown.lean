import ReverseHttp.WorkerSet

/-!
What leaves the worker set stays out of it. A worker that drains or is detached is not given to
a request that comes later; and once a `Shutdown` has returned nil the set is empty for good,
every attach has had its detach, and no hook is called any more, even though an accept loop
that `Shutdown` did not find may go on accepting tunnels. `Shutdown` itself comes to its end when
every tunnel that is still before its first SETTINGS gets on or gives up and every writer comes
loose; behind a writer that stays stuck it does not.
-/

namespace ReverseHttp.ProxyShutdown

open Transition Finset WorkerSet

/-- Draining, or attached once and out of the set again. -/
def Gone (st : State) (w : Nat) : Prop :=
  st.draining w = true ∨ ((st.tunnels w).joined = true ∧ (st.tunnels w).listed = false)

def uses (w : Nat) : Forward → Prop
  | .picked v | .counted v | .streaming v | .leaving v _ => v = w
  | _ => False

/-- The request does not have the worker, and does not get it any more. -/
def Spares (st : State) (w : Nat) : Forward → Prop
  | .scanning _ ws i len => w ∉ ws.take len ∧ len ≤ i ∧ (st.draining w = true ∨ w ∉ ws.drop i)
  | forward => ¬ uses w forward

section Gone

variable {st next : State} {t w f : Nat}

theorem Moved.gone (moved : Moved st t next) (gone : Gone st w) : Gone next w := by
  have goto : ∀ {tunnel : Tunnel}, ((st.tunnels w).joined = true ∧ (st.tunnels w).listed = false) →
      (w = t → tunnel.joined = true ∧ tunnel.listed = false) →
      ((st.goto t tunnel).tunnels w).joined = true ∧
        ((st.goto t tunnel).tunnels w).listed = false := fun left stays => by
    by_cases same : w = t
    · subst same
      simpa [State.goto] using stays rfl
    · simpa [State.goto, same] using left
  cases moved with
  | plain tunnel expired draining plain drains =>
      refine gone.imp (drains w) fun left => ?_
      have view := goto_view plain.view w
      exact ⟨(congrArg (·.1) view).trans left.1, (congrArg (·.2.1) view).trans left.2⟩
  | append here | attachHook here | remove here =>
      refine gone.imp id fun left => goto left fun same => ?_
      subst same
      simp [here, Tunnel.joined, Tunnel.listed] at left
  | detachHook here => exact gone.imp id fun left => goto left fun _ => ⟨rfl, rfl⟩
  | close joined here =>
      refine gone.imp id fun left => goto left fun same => ?_
      subst same
      simpa [here, Tunnel.joined, Tunnel.listed] using left

/-- What only the goroutines of the tunnels change. -/
structure Kept (st next : State) : Prop where
  draining : next.draining = st.draining
  stuck : next.stuck = st.stuck
  workers : next.workers = st.workers
  hooks : next.hooks = st.hooks

/-- Requests move neither the tunnels nor the set. -/
theorem forwardStep_frame {move : ForwardMove} (stepped : forwardStep st f move = some next) :
    Kept st next ∧ next.tunnels = st.tunnels ∧ next.calls = st.calls ∧
      ∀ g, g ≠ f → next.forwards g = st.forwards g := by
  have put : ∀ forward, (∀ g, g ≠ f → (st.putForward f forward).forwards g = st.forwards g) :=
    fun forward g other => by simp [State.putForward, other]
  cases move with
  | snapshot =>
      obtain ⟨-, rfl⟩ := enabled stepped
      exact ⟨⟨rfl, rfl, rfl, rfl⟩, rfl, rfl, put _⟩
  | scan =>
      simp only [forwardStep] at stepped
      split at stepped
      · obtain ⟨w, -, rfl⟩ := Option.map_eq_some_iff.mp stepped
        exact ⟨⟨rfl, rfl, rfl, rfl⟩, rfl, rfl, put _⟩
      · cases stepped
  | pick choice =>
      simp only [forwardStep] at stepped
      split at stepped
      · split at stepped
        · cases choice with
          | none =>
              cases stepped
              exact ⟨⟨rfl, rfl, rfl, rfl⟩, rfl, rfl, put _⟩
          | some w =>
              obtain ⟨-, rfl⟩ := enabled stepped
              exact ⟨⟨rfl, rfl, rfl, rfl⟩, rfl, rfl, put _⟩
        · cases stepped
      · cases stepped
  | count | sendFails | clean | uncount =>
      simp only [forwardStep] at stepped
      split at stepped
      · cases stepped
        exact ⟨⟨rfl, rfl, rfl, rfl⟩, rfl, rfl, put _⟩
      · cases stepped
  | openStream limit =>
      simp only [forwardStep] at stepped
      split at stepped
      · cases stepped
        unfold openStream
        split
        · exact ⟨⟨rfl, rfl, rfl, rfl⟩, rfl, rfl, put _⟩
        · split <;> exact ⟨⟨rfl, rfl, rfl, rfl⟩, rfl, rfl, put _⟩
      · cases stepped

theorem Moved.forwards (moved : Moved st t next) : next.forwards = st.forwards := by
  cases moved <;> rfl

theorem Moved.stuck (moved : Moved st t next) : next.stuck = st.stuck := by
  cases moved <;> rfl

theorem Moved.others (moved : Moved st t next) (other : w ≠ t) :
    next.tunnels w = st.tunnels w := by
  cases moved <;> exact Function.update_of_ne other _ _

/-- An accept loop starts tunnels. -/
theorem loopStep_frame {l : Nat} {move : LoopMove} (stepped : loopStep st l move = some next) :
    Kept st next ∧ next.forwards = st.forwards ∧ next.calls = st.calls ∧
      ∀ w, next.tunnels w = st.tunnels w ∨
        st.tunnels w = .absent ∧ next.tunnels w = .handshaking := by
  cases move with
  | listen ln =>
      obtain ⟨-, rfl⟩ := enabled stepped
      exact ⟨⟨rfl, rfl, rfl, rfl⟩, rfl, rfl, fun _ => .inl rfl⟩
  | spawn t =>
      simp only [loopStep] at stepped
      split at stepped
      · obtain ⟨here, rfl⟩ := enabled stepped
        refine ⟨⟨rfl, rfl, rfl, rfl⟩, rfl, rfl, fun w => ?_⟩
        by_cases same : w = t
        · subst same
          exact .inr ⟨here, Function.update_self _ _ _⟩
        · exact .inl (Function.update_of_ne same _ _)
      · cases stepped
  | accept | temporary =>
      simp only [loopStep] at stepped
      split at stepped
      · obtain ⟨-, rfl⟩ := enabled stepped
        exact ⟨⟨rfl, rfl, rfl, rfl⟩, rfl, rfl, fun _ => .inl rfl⟩
      · cases stepped
  | fail | leave =>
      simp only [loopStep] at stepped
      split at stepped
      · cases stepped
        exact ⟨⟨rfl, rfl, rfl, rfl⟩, rfl, rfl, fun _ => .inl rfl⟩
      · cases stepped

theorem onceStep_frame {move : OnceMove} (stepped : onceStep st move = some next) :
    Kept st next ∧ next.forwards = st.forwards ∧ next.calls = st.calls ∧
      next.tunnels = st.tunnels := by
  cases move with
  | close | readListener | snapshot | finish =>
      obtain ⟨-, rfl⟩ := enabled stepped
      exact ⟨⟨rfl, rfl, rfl, rfl⟩, rfl, rfl, rfl⟩
  | closeListener | wake =>
      simp only [onceStep] at stepped
      split at stepped <;>
        first | cases stepped; exact ⟨⟨rfl, rfl, rfl, rfl⟩, rfl, rfl, rfl⟩ | cases stepped

theorem callStep_frame {k : Nat} {move : CallMove} (stepped : callStep st k move = some next) :
    Kept st next ∧ next.forwards = st.forwards ∧ next.tunnels = st.tunnels ∧
      ∀ j, j ≠ k → next.calls j = st.calls j := by
  have put : ∀ call j, j ≠ k → (st.putCall k call).calls j = st.calls j :=
    fun call j other => by simp [State.putCall, other]
  cases move <;> obtain ⟨-, rfl⟩ := enabled stepped <;>
    exact ⟨⟨rfl, rfl, rfl, rfl⟩, rfl, rfl, put _⟩

theorem callStep_returned {k : Nat} {move : CallMove} (stepped : callStep st k move = some next) :
    st.calls k ≠ .returned := by
  cases move with
  | enter | returns =>
      obtain ⟨here, -⟩ := enabled stepped
      simp [here]
  | pass | waited =>
      obtain ⟨⟨here, -⟩, -⟩ := enabled stepped
      simp [here]
  | expire =>
      obtain ⟨here | here, -⟩ := enabled stepped <;> simp [here]

theorem Spares.later {forward : Forward} (spares : Spares st w forward)
    (drains : st.draining w = true → next.draining w = true) : Spares next w forward := by
  cases forward with
  | scanning snap ws i len => exact ⟨spares.1, spares.2.1, spares.2.2.imp_left drains⟩
  | idle | picked | counted | streaming | leaving | returned => exact spares

end Gone

/-- Two workers, and the first one has sent its GOAWAY. -/
def goAway : List Action :=
  [.loop 0 (.listen 7), .loop 0 .accept, .loop 0 (.spawn 1), .loop 0 .accept, .loop 0 (.spawn 2),
    .tunnel 1 .check, .tunnel 1 .append, .tunnel 2 .check, .tunnel 2 .append,
    .tunnel 1 .attachHook, .tunnel 1 .settings, .tunnel 1 .look, .tunnel 1 .arm, .tunnel 1 .frame,
    .tunnel 1 (.handled true false)]

def request : List Action :=
  [.forward 5 .snapshot, .forward 5 .scan, .forward 5 .scan, .forward 5 (.pick (some 2)),
    .forward 5 .count, .forward 5 (.openStream 100)]

section Final

variable {st next : State} {k : Nat}

/-- Behind a `Shutdown` that returned nil. -/
structure Closed (k : Nat) (st : State) : Prop where
  valid : Valid st
  returned : st.calls k = .returned

theorem Closed.quiet (closed : Closed k st) (t : Nat) : (st.tunnels t).outside = true :=
  closed.valid.isSealed.quiet k (.inr closed.returned) t

theorem Closed.workers (closed : Closed k st) : st.workers = [] := by
  refine List.eq_nil_iff_forall_not_mem.mpr fun w member => ?_
  have listed := (closed.valid.registered.member w).mp member
  have outside := closed.quiet w
  revert listed outside
  cases st.tunnels w <;> simp [Tunnel.listed, Tunnel.outside]

/-- Outside, a worker that has been in the set has had both hooks, and nobody else any. -/
theorem outside_hooks {tunnel : Tunnel} (outside : tunnel.outside = true) :
    tunnel.hooks = if tunnel.joined then [.attach, .detach] else [] := by
  cases tunnel with
  | closing joined | done joined => cases joined <;> rfl
  | absent | handshaking | refused => rfl
  | attaching | attached | settling | looking | arming | reading | timedOut | handling
  | tearingDown | detaching | detached => cases outside

theorem step_closed {action : Action} (closed : Closed k st)
    (stepped : step st action = some next) : Closed k next := by
  refine ⟨step_valid closed.valid stepped, ?_⟩
  cases action with
  | loop l move => rw [(loopStep_frame stepped).2.2.1, closed.returned]
  | tunnel t move => rw [(tunnelStep_moved stepped).frame.2.1, closed.returned]
  | once move => rw [(onceStep_frame stepped).2.2.1, closed.returned]
  | call j move =>
      have other : k ≠ j := fun same => callStep_returned stepped (same ▸ closed.returned)
      rw [(callStep_frame stepped).2.2.2 k other, closed.returned]
  | forward f move => rw [(forwardStep_frame stepped).2.2.1, closed.returned]
  | writer t stuck =>
      cases stepped
      exact closed.returned

/-- Hooks are called from inside only. -/
theorem step_hooks {action : Action} (closed : Closed k st) (stepped : step st action = some next) :
    next.hooks = st.hooks := by
  cases action with
  | loop l move => exact (loopStep_frame stepped).1.hooks
  | tunnel t move =>
      have outside := closed.quiet t
      cases tunnelStep_moved stepped with
      | plain | append | remove | close => rfl
      | attachHook here | detachHook here =>
          rw [here] at outside
          cases outside
  | once move => exact (onceStep_frame stepped).1.hooks
  | call j move => exact (callStep_frame stepped).1.hooks
  | forward f move => exact (forwardStep_frame stepped).1.hooks
  | writer t stuck =>
      cases stepped
      rfl

/-- A request that finds the set empty. -/
def Unserved (forward : Forward) : Prop :=
  forward = .idle ∨ forward = .scanning [] [] 0 0 ∨ forward = .returned (.refused .noWorker)

theorem forwardStep_unserved {f : Nat} {move : ForwardMove} (closed : Closed k st)
    (unserved : Unserved (st.forwards f)) (stepped : forwardStep st f move = some next) :
    Unserved (next.forwards f) := by
  rcases unserved with here | here | here
  · cases move <;> simp only [forwardStep, here, reduceCtorEq, if_true] at stepped
    cases stepped
    exact .inr (.inl (by simp [State.putForward, closed.workers]))
  · cases move <;> simp [forwardStep, here] at stepped
    rename_i choice
    cases choice with
    | none =>
        cases stepped
        exact .inr (.inr (by simp [State.putForward]))
    | some w => cases stepped
  · cases move <;> simp [forwardStep, here] at stepped

theorem step_unserved {f : Nat} {action : Action} (closed : Closed k st)
    (unserved : Unserved (st.forwards f)) (stepped : step st action = some next) :
    Unserved (next.forwards f) := by
  cases action with
  | loop l move => rwa [(loopStep_frame stepped).2.1]
  | tunnel t move => rwa [Moved.forwards (tunnelStep_moved stepped)]
  | once move => rwa [(onceStep_frame stepped).2.1]
  | call j move => rwa [(callStep_frame stepped).2.1]
  | forward g move =>
      by_cases same : f = g
      · subst same
        exact forwardStep_unserved closed unserved stepped
      · rwa [(forwardStep_frame stepped).2.2.2 f same]
  | writer t stuck =>
      cases stepped
      exact unserved

/-- Nothing has happened to the set since `start`. -/
structure Settled (k : Nat) (start st : State) : Prop where
  closed : Closed k st
  hooks : st.hooks = start.hooks
  unserved : ∀ f, start.forwards f = .idle → Unserved (st.forwards f)

theorem step_settled {start : State} {action : Action} (settled : Settled k start st)
    (stepped : step st action = some next) : Settled k start next :=
  ⟨step_closed settled.closed stepped,
    (step_hooks settled.closed stepped).trans settled.hooks,
    fun f idle => step_unserved settled.closed (settled.unserved f idle) stepped⟩

end Final

section Progress

variable {st next : State} {t k : Nat} {waits blocked : Nat → Prop}

/-- Tunnels that only their peer can move: nobody has set them a deadline, or `attach` comes
behind the snapshot of `Shutdown`. -/
def Waits (st : State) (t : Nat) : Prop :=
  st.tunnels t = .handshaking ∨ st.tunnels t = .attaching ∨ st.tunnels t = .attached ∨
    (st.tunnels t = .settling ∧ st.expired t = false)

/-- What the proxy does by itself, for the tunnels in `waits` a handshake that comes to its end
and a first SETTINGS that does not come, and for those in `blocked` a writer that comes loose. -/
def Aided (waits blocked : Nat → Prop) : Action → Prop
  | .tunnel t .check | .tunnel t .noSettings => waits t
  | .tunnel _ .fail | .tunnel _ .settings | .tunnel _ .frame | .tunnel _ .lost
  | .tunnel _ .giveUp | .tunnel _ (.handled true _) => False
  | .tunnel _ _ => True
  | .call _ .waited | .call _ .returns => True
  | .writer t stuck => stuck = false ∧ blocked t
  | _ => False

/-- The steps a tunnel has before it once `shutdownCh` is closed. -/
def remaining : Tunnel → Nat
  | .absent | .done _ => 0
  | .closing _ => 1
  | .detached | .refused => 2
  | .detaching | .handshaking => 3
  | .tearingDown => 4
  | .looking | .timedOut | .settling => 5
  | .reading | .handling | .attached => 6
  | .arming | .attaching => 7

/-- A tunnel takes one of the steps before it. -/
structure Leaves (blocked : Nat → Prop) (st : State) (t : Nat) (move : TunnelMove)
    (next : State) : Prop where
  stepped : tunnelStep st t move = some next
  aided : Aided (Waits st) blocked (.tunnel t move)
  started : next.started = st.started
  moves : ∃ tunnel, next.tunnels = Function.update st.tunnels t tunnel ∧
    remaining tunnel < remaining (st.tunnels t)
  waits : ∀ w, Waits next w → Waits st w

theorem waits_goto {tunnel : Tunnel} (tunnels : next.tunnels = Function.update st.tunnels t tunnel)
    (expired : ∀ w, w ≠ t → next.expired w = st.expired w)
    (mine : Waits next t → Waits st t) (w : Nat) (waits : Waits next w) : Waits st w := by
  by_cases same : w = t
  · subst same
    exact mine waits
  · simpa [Waits, tunnels, expired w same, same] using waits

/-- The step leads to a place where nothing is awaited from the peer. -/
theorem leaves_of {move : TunnelMove} {old tunnel : Tunnel} (here : st.tunnels t = old)
    (stepped : tunnelStep st t move = some next) (aided : Aided (Waits st) blocked (.tunnel t move))
    (tunnels : next.tunnels = Function.update st.tunnels t tunnel)
    (started : next.started = st.started)
    (expired : ∀ w, w ≠ t → next.expired w = st.expired w)
    (less : remaining tunnel < remaining old)
    (free : tunnel ≠ .handshaking ∧ tunnel ≠ .attaching ∧ tunnel ≠ .attached ∧
      tunnel ≠ .settling) : ∃ move next, Leaves blocked st t move next := by
  refine ⟨move, next, stepped, aided, started, ⟨tunnel, tunnels, here ▸ less⟩,
    waits_goto tunnels expired ?_⟩
  simp [Waits, tunnels, free]

theorem leaves_goto {old : Tunnel} (move : TunnelMove) (tunnel : Tunnel)
    (here : st.tunnels t = old) (stepped : tunnelStep st t move = some (st.goto t tunnel))
    (aided : Aided (Waits st) blocked (.tunnel t move)) (less : remaining tunnel < remaining old)
    (free : tunnel ≠ .handshaking ∧ tunnel ≠ .attaching ∧ tunnel ≠ .attached ∧
      tunnel ≠ .settling) : ∃ move next, Leaves blocked st t move next :=
  leaves_of here stepped aided rfl rfl (fun _ _ => rfl) less free

theorem live_leaves (down : st.shutdown = true) (free : st.stuck t = false)
    (live : (st.tunnels t).live ≠ 0) : ∃ move next, Leaves blocked st t move next := by
  cases here : st.tunnels t with
  | absent | done => simp [here, Tunnel.live] at live
  | handshaking =>
      exact leaves_goto .check .refused here (by simp [tunnelStep, here, down])
        (Or.inl here : Waits st t) (by decide) (by decide)
  | attaching =>
      have stepped : tunnelStep st t .append = some { st.goto t .attached with
          workers := st.workers ++ [t], attached := st.attached ++ [t] } := if_pos here
      exact ⟨_, _, stepped, trivial, rfl, ⟨.attached, rfl, by rw [here]; decide⟩,
        waits_goto rfl (fun _ _ => rfl) fun _ => .inr (.inl here)⟩
  | refused =>
      exact leaves_goto .dropTunnel (.closing false) here (if_pos ⟨here, free⟩) trivial
        (by decide) (by decide)
  | attached =>
      have stepped : tunnelStep st t .attachHook = some { st.goto t .settling with
          hooks := st.hooks ++ [(.attach, t)] } := if_pos here
      exact ⟨_, _, stepped, trivial, rfl, ⟨.settling, rfl, by rw [here]; decide⟩,
        waits_goto rfl (fun _ _ => rfl) fun _ => .inr (.inr (.inl here))⟩
  | settling =>
      cases woken : st.expired t with
      | true =>
          exact leaves_goto .settingsExpire .tearingDown here (if_pos ⟨here, woken⟩) trivial
            (by decide) (by decide)
      | false =>
          exact leaves_goto .noSettings .tearingDown here (if_pos here)
            (.inr (.inr (.inr ⟨here, woken⟩)) : Waits st t) (by decide) (by decide)
  | looking =>
      exact leaves_goto .look .tearingDown here (by simp [tunnelStep, here, down]) trivial
        (by decide) (by decide)
  | arming =>
      have stepped : tunnelStep st t .arm = some { st.goto t .reading with
          expired := Function.update st.expired t false } := if_pos here
      exact leaves_of here stepped trivial rfl rfl (fun w other => Function.update_of_ne other _ _)
        (by decide) (by decide)
  | reading =>
      exact leaves_goto .timeout .timedOut here (if_pos here) trivial (by decide) (by decide)
  | timedOut =>
      exact leaves_goto .resume .tearingDown here (by simp [tunnelStep, here, down]) trivial
        (by decide) (by decide)
  | handling =>
      have stepped : tunnelStep st t (.handled false true) = some { st.goto t .looking with
          draining := Function.update st.draining t (st.draining t || false) } :=
        if_pos ⟨here, .inr free⟩
      exact leaves_of here stepped trivial rfl rfl (fun _ _ => rfl) (by decide) (by decide)
  | tearingDown =>
      exact leaves_goto .tearDown .detaching here (if_pos ⟨here, free⟩) trivial (by decide)
        (by decide)
  | detaching =>
      have stepped : tunnelStep st t .remove =
          some { st.goto t (if (removeWorker st.workers t).2 then .detached else .closing true)
            with workers := (removeWorker st.workers t).1 } := if_pos here
      refine leaves_of here stepped trivial rfl rfl (fun _ _ => rfl) ?_ ?_ <;> split <;> decide
  | detached =>
      have stepped : tunnelStep st t .detachHook = some { st.goto t (.closing true) with
          hooks := st.hooks ++ [(.detach, t)] } := if_pos here
      exact leaves_of here stepped trivial rfl rfl (fun _ _ => rfl) (by decide) (by decide)
  | closing joined =>
      have stepped : tunnelStep st t .close = some { st.goto t (.done joined) with
          tunnelAccepts := st.tunnelAccepts - 1 } := by simp [tunnelStep, here]
      exact leaves_of here stepped trivial rfl rfl (fun _ _ => rfl) Nat.zero_lt_one (by simp)

/-- The steps before all tunnels, and the writers that have to come loose for them. -/
def outstanding (st : State) : Nat :=
  ∑ w ∈ st.started, (remaining (st.tunnels w) + (st.stuck w).toNat)

theorem Leaves.less {move : TunnelMove} (leaves : Leaves blocked st t move next)
    (member : t ∈ st.started) : outstanding next < outstanding st := by
  obtain ⟨tunnel, tunnels, less⟩ := leaves.moves
  unfold outstanding
  rw [leaves.started, tunnels, Moved.stuck (tunnelStep_moved leaves.stepped)]
  refine sum_lt_sum (fun w _ => ?_) ⟨t, member, by simpa using less⟩
  by_cases same : w = t
  · subst same
    simpa using less.le
  · simp [same]

theorem loose_less (member : t ∈ st.started) (stuck : st.stuck t = true) :
    outstanding { st with stuck := Function.update st.stuck t false } < outstanding st := by
  refine sum_lt_sum (fun w _ => ?_) ⟨t, member, by simp [stuck]⟩
  by_cases same : w = t
  · subst same
    simp
  · simp [same]

/-- A `Shutdown` that waits. -/
structure Waiting (k : Nat) (waits blocked : Nat → Prop) (st : State) : Prop where
  valid : Valid st
  waiting : st.calls k = .waiting
  within : ∀ t, Waits st t → waits t
  stuck : ∀ t, st.stuck t = true → blocked t

theorem Waiting.down (waiting : Waiting k waits blocked st) : st.shutdown = true :=
  waiting.valid.isSealed.shutdown (by rw [waiting.waiting]; nofun) (by rw [waiting.waiting]; nofun)

theorem Aided.mono {others : Nat → Prop} (within : ∀ t, waits t → others t) {move : TunnelMove}
    (aided : Aided waits blocked (.tunnel t move)) : Aided others blocked (.tunnel t move) := by
  cases move with
  | check | noSettings => exact within t aided
  | fail | settings | frame | lost | giveUp => exact aided
  | handled drains writes => cases drains <;> exact aided
  | append | attachHook | dropTunnel | settingsExpire | look | arm | timeout | resume | tearDown
  | remove | detachHook | close => trivial

theorem Waiting.loose (waiting : Waiting k waits blocked st) (t : Nat) :
    Waiting k waits blocked { st with stuck := Function.update st.stuck t false } where
  valid := waiting.valid.unseen ..
  waiting := waiting.waiting
  within := waiting.within
  stuck := by
    intro w stuck
    by_cases same : w = t
    · subst same
      simp at stuck
    · exact waiting.stuck w (by simpa [same] using stuck)

theorem Waiting.leaves {move : TunnelMove} (waiting : Waiting k waits blocked st)
    (leaves : Leaves blocked st t move next) : Waiting k waits blocked next where
  valid := tunnelStep_valid waiting.valid leaves.stepped
  waiting := by rw [(tunnelStep_moved leaves.stepped).frame.2.1, waiting.waiting]
  within := fun w waits => waiting.within w (leaves.waits w waits)
  stuck := by
    rw [Moved.stuck (tunnelStep_moved leaves.stepped)]
    exact waiting.stuck

/-- The tunnels leave one after the other. -/
theorem tunnels_leave (waiting : Waiting k waits blocked st) :
    CanReach step (Aided waits blocked) st fun last =>
      Waiting k waits blocked last ∧ last.tunnelAccepts = 0 := by
  refine canReach_of_measure outstanding (fun st waiting busy => ?_) waiting
  rw [waiting.valid.counted.accepts] at busy
  obtain ⟨t, member, live⟩ := exists_ne_zero_of_sum_ne_zero busy
  cases stuck : st.stuck t with
  | true =>
      exact ⟨.writer t false, _, ⟨rfl, waiting.stuck t stuck⟩, rfl, waiting.loose t,
        loose_less member stuck⟩
  | false =>
      obtain ⟨move, next, leaves⟩ : ∃ move next, Leaves blocked st t move next :=
        live_leaves waiting.down stuck live
      exact ⟨.tunnel t move, next, leaves.aided.mono waiting.within, leaves.stepped,
        waiting.leaves leaves, leaves.less member⟩

theorem waiting_returns (waiting : Waiting k waits blocked st) :
    CanReach step (Aided waits blocked) st fun last => last.calls k = .returned := by
  refine (tunnels_leave waiting).trans fun empty ⟨there, zero⟩ => ?_
  have waited : step empty (.call k .waited) = some (empty.putCall k .drained) :=
    if_pos ⟨there.waiting, zero⟩
  have drained : (empty.putCall k .drained).calls k = .drained := by simp [State.putCall]
  have returns : step (empty.putCall k .drained) (.call k .returns) =
      some ((empty.putCall k .drained).putCall k .returned) := if_pos drained
  exact .next waited trivial (.next returns trivial (.now (by simp [State.putCall])))

end Progress

section Held

variable {st next : State} {t k : Nat}

/-- The goroutine has still to send its GOAWAY. -/
def toSay : Tunnel → Bool
  | .refused | .attaching | .attached | .settling | .looking | .arming | .reading | .timedOut
  | .handling | .tearingDown => true
  | .absent | .handshaking | .detaching | .detached | .closing _ | .done _ => false

/-- A `Shutdown` that waits, or has given up waiting, behind a stuck writer. -/
structure Held (k t : Nat) (st : State) : Prop where
  valid : Valid st
  stuck : st.stuck t = true
  place : toSay (st.tunnels t) = true
  call : st.calls k = .waiting ∨ st.calls k = .timedOut

theorem tunnelStep_toSay {move : TunnelMove} (stuck : st.stuck t = true)
    (place : toSay (st.tunnels t) = true) (stepped : tunnelStep st t move = some next) :
    toSay (next.tunnels t) = true := by
  have goto : ∀ tunnel, (st.goto t tunnel).tunnels t = tunnel := fun tunnel => by
    simp [State.goto]
  cases move with
  | fail | check | remove | detachHook =>
      obtain ⟨here, -⟩ := enabled stepped
      rw [here] at place
      cases place
  | close =>
      simp only [tunnelStep] at stepped
      split at stepped
      · rename_i here
        rw [here] at place
        cases place
      · cases stepped
  -- the three moves that wait for the writer
  | dropTunnel | settings | tearDown =>
      obtain ⟨⟨-, free⟩, -⟩ := enabled stepped
      rw [stuck] at free
      cases free
  | append | attachHook | noSettings | settingsExpire | arm | frame | lost | timeout | giveUp
  | handled =>
      obtain ⟨-, rfl⟩ := enabled stepped
      exact congrArg toSay (goto _)
  | look | resume =>
      obtain ⟨-, rfl⟩ := enabled stepped
      rw [goto]
      split <;> rfl

theorem callStep_held {move : CallMove} (held : Held k t st)
    (stepped : callStep st k move = some next) :
    next.calls k = .waiting ∨ next.calls k = .timedOut := by
  cases move with
  | enter | returns =>
      obtain ⟨here, -⟩ := enabled stepped
      simpa [here] using held.call
  | pass =>
      obtain ⟨⟨here, -⟩, -⟩ := enabled stepped
      simpa [here] using held.call
  | waited =>
      obtain ⟨⟨-, zero⟩, -⟩ := enabled stepped
      have dead := held.valid.counted.quiet zero t
      have place := held.place
      revert dead place
      cases st.tunnels t <;> simp [Tunnel.live, toSay]
  | expire =>
      obtain ⟨-, rfl⟩ := enabled stepped
      exact .inr (by simp [State.putCall])

theorem step_held {action : Action} (held : Held k t st) (stays : action ≠ .writer t false)
    (stepped : step st action = some next) : Held k t next := by
  have valid := step_valid held.valid stepped
  have still : Kept st next → next.tunnels t = st.tunnels t →
      (next.calls k = .waiting ∨ next.calls k = .timedOut) → Held k t next :=
    fun kept same call => ⟨valid, by rw [kept.stuck, held.stuck], by rw [same, held.place], call⟩
  cases action with
  | loop l move =>
      obtain ⟨kept, -, calls, tunnels⟩ := loopStep_frame stepped
      refine still kept ((tunnels t).resolve_right fun fresh => ?_) (by rw [calls]; exact held.call)
      have place := held.place
      rw [fresh.1] at place
      cases place
  | tunnel u move =>
      have moved := tunnelStep_moved stepped
      refine ⟨valid, by rw [Moved.stuck moved, held.stuck], ?_,
        by rw [moved.frame.2.1]; exact held.call⟩
      by_cases same : t = u
      · subst same
        exact tunnelStep_toSay held.stuck held.place stepped
      · rw [Moved.others moved same, held.place]
  | once move =>
      obtain ⟨kept, -, calls, tunnels⟩ := onceStep_frame stepped
      exact still kept (by rw [tunnels]) (by rw [calls]; exact held.call)
  | call j move =>
      obtain ⟨kept, -, tunnels, others⟩ := callStep_frame stepped
      refine still kept (by rw [tunnels]) ?_
      by_cases same : k = j
      · subst same
        exact callStep_held held stepped
      · rw [others k same]
        exact held.call
  | forward f move =>
      obtain ⟨kept, tunnels, calls, -⟩ := forwardStep_frame stepped
      exact still kept (by rw [tunnels]) (by rw [calls]; exact held.call)
  | writer u stuck =>
      cases stepped
      refine ⟨valid, ?_, held.place, held.call⟩
      by_cases same : t = u
      · subst same
        cases stuck with
        | true => simp
        | false => exact absurd rfl stays
      · simp [same, held.stuck]

end Held

/-- Once a `Shutdown` has returned nil the worker set is empty for good: every worker attached
before has had both its hooks, none is called any more, and a request that comes then is
answered that there is no worker. A `Shutdown` that waits can still return, with the help only
of the peers whose tunnels have not got to their first SETTINGS and of the writers that are
stuck coming loose. As long as the writer of a tunnel that has yet to send its GOAWAY stays
stuck, it does not return nil. -/
theorem shutdown_final (front : List Action) (middle : State) (k : Nat)
    (before : run step State.new front = some middle) :
    (middle.calls k = .returned → ∀ back last, run step middle back = some last →
      last.workers = [] ∧ last.hooks = middle.hooks ∧
      (∀ w, (last.hooks.filter (·.2 == w)).map (·.1) =
        if w ∈ last.attached then [.attach, .detach] else []) ∧
      ∀ f, middle.forwards f = .idle → Unserved (last.forwards f)) ∧
    (middle.calls k = .waiting →
      CanReach step (Aided (Waits middle) fun t => middle.stuck t = true) middle
        fun last => last.calls k = .returned) ∧
    (middle.calls k = .waiting → ∀ t, middle.stuck t = true → toSay (middle.tunnels t) = true →
      ∀ back last, .writer t false ∉ back → run step middle back = some last →
        last.calls k ≠ .returned) := by
  have valid : Valid middle :=
    run_invariant_all (fun _ _ _ valid stepped => step_valid valid stepped) valid_new before
  refine ⟨fun returned back last after => ?_, fun waiting => ?_,
    fun waiting t stuck place back last unreleased after => ?_⟩
  · have start : Settled k middle middle := ⟨⟨valid, returned⟩, rfl, fun _ idle => .inl idle⟩
    have settled : Settled k middle last :=
      run_invariant_all (fun _ _ _ settled stepped => step_settled settled stepped) start after
    refine ⟨settled.closed.workers, settled.hooks, fun w => ?_, settled.unserved⟩
    have registered := settled.closed.valid.registered
    rw [registered.hooks w, outside_hooks (settled.closed.quiet w)]
    simp only [registered.joined w]
  · exact waiting_returns ⟨valid, waiting, fun _ waits => waits, fun _ stuck => stuck⟩
  · have stays : ∀ action ∈ back, action ≠ .writer t false := fun action member same =>
      unreleased (same ▸ member)
    have held : Held k t last :=
      run_invariant (fun _ _ _ held stays stepped => step_held held stays stepped)
        ⟨valid, stuck, place, .inl waiting⟩ (guarded_of_all middle stays) after
    rcases held.call with here | here <;> simp [here]

/-- Two listeners, of which `Shutdown` closes the second one only. -/
def downAndOut : List Action :=
  [.loop 0 (.listen 7), .loop 1 (.listen 8), .loop 0 .accept, .loop 0 (.spawn 1),
    .tunnel 1 .check, .tunnel 1 .append, .tunnel 1 .attachHook, .call 0 .enter, .once .close,
    .once .readListener, .once .closeListener, .once .snapshot, .once .wake, .once .finish,
    .call 0 .pass, .tunnel 1 .settingsExpire, .tunnel 1 .tearDown, .tunnel 1 .remove,
    .tunnel 1 .detachHook, .tunnel 1 .close, .call 0 .waited, .call 0 .returns]

/-- A tunnel comes in over the first one, and a request. -/
def tooLate : List Action :=
  [.loop 0 .accept, .loop 0 (.spawn 2), .tunnel 2 .check, .tunnel 2 .dropTunnel,
    .forward 5 .snapshot, .forward 5 (.pick none)]

theorem shutdown_final_tooLate : ∃ middle last,
    run step State.new downAndOut = some middle ∧ run step middle tooLate = some last ∧
      middle.hooks = [(.attach, 1), (.detach, 1)] ∧ last.tunnels 2 = .closing false ∧
      last.workers = [] ∧ last.hooks = middle.hooks ∧ Unserved (last.forwards 5) := by
  have ends : ((run step State.new downAndOut).bind fun middle => (run step middle tooLate).map
      fun last => ((middle.hooks, middle.calls 0), middle.forwards 5, last.tunnels 2)) =
      some (([(.attach, 1), (.detach, 1)], .returned), .idle, .closing false) := by decide +kernel
  obtain ⟨middle, before, ends⟩ := Option.bind_eq_some_iff.mp ends
  obtain ⟨last, after, outcome⟩ := Option.map_eq_some_iff.mp ends
  simp only [Prod.mk.injEq] at outcome
  obtain ⟨⟨hooks, returned⟩, idle, tunnel⟩ := outcome
  obtain ⟨workers, same, -, unserved⟩ :=
    (shutdown_final downAndOut middle 0 before).1 returned tooLate last after
  exact ⟨middle, last, before, after, hooks, tunnel, workers, same, unserved 5 idle⟩

end ReverseHttp.ProxyShutdown
