import ReverseHttp.Flow
import ReverseHttp.BodyQueue

/-!
RST_STREAM against goroutines inside `Send.Reserve`: handler Writes on a worker,
request-body pumps on a proxy. `Reserve` evaluates its condition under `sc.mu`
and parks on `sc.cond`, which `AddConn`, `AddStream`, a non-zero
`ApplyInitialWindowDelta` and `MarkDead` broadcast. The reset is signalled on
the stream: `FailBody`, and `respCh` on a proxy.

The worker's reader processes RST_STREAM in one step (`HandleRSTStream`), the
proxy's in two (`cs.fail`, then `HandleRSTStream`). A window is a field of a
stream object; objects come from a pool that all connections of the process share
and go back to it, whoever is still inside `Reserve` on them: the pump of a
forward that panicked is not waited for. `reset` is ghost: the streams whose
RST_STREAM is done with.
-/

namespace ReverseHttp.ResetWaiters

open Transition MachineInt Flow BodyQueue
open Wire (Role)

/-- A goroutine inside `Reserve`, for a stream and on the window of the object that
the stream was given. -/
structure Caller where
  stream : Nat
  object : Nat
  want : Int32
  parked : Bool
  deriving DecidableEq, Repr

inductive Reader where
  | between
  | crediting (object : Nat) (inc : Int32)
  | applying (newSize : Int32) (objects : List Nat)
  | resetting (stream : Nat)
  deriving DecidableEq, Repr

inductive Holder where
  | pool
  | stream (stream : Nat)
  | elsewhere
  deriving DecidableEq, Repr

/-- `lent` are the objects that another connection has had, `parkedElsewhere` those
on whose window a goroutine of another connection is parked. -/
structure State where
  credit : SendCredit
  object : Nat → Stream
  holder : Nat → Holder
  objectOf : Nat → Nat
  opened : List Nat
  registered : List Nat
  callers : List Caller
  lent : List Nat
  parkedElsewhere : List Nat
  reader : Reader
  reset : List Nat

def State.new : State :=
  { credit := SendCredit.new
    object := fun _ => Stream.zero
    holder := fun _ => .pool
    objectOf := fun _ => 0
    opened := []
    registered := []
    callers := []
    lent := []
    parkedElsewhere := []
    reader := .between
    reset := [] }

def State.window (st : State) (object : Nat) : Int32 := (st.object object).sendWindow

def State.setWindows (st : State) (memory : Nat → Int32) : State :=
  { st with object := fun object => { st.object object with sendWindow := memory object } }

def Caller.wake (caller : Caller) : Caller := { caller with parked := false }

/-- `sc.cond.Broadcast` -/
def State.broadcast (st : State) : State := { st with callers := st.callers.map Caller.wake }

def State.failBody (st : State) (stream : Nat) : State :=
  { st with
    object := Function.update st.object (st.objectOf stream)
      (BodyQueue.failBody (st.object (st.objectOf stream)) .streamReset) }

/-- The lookup of the stream and what is done to its body. -/
def State.failRegistered (st : State) (stream : Nat) : State :=
  if stream ∈ st.registered then st.failBody stream else st

inductive Action where
  | openStream (stream object : Nat) (initialWindow : Int32)
  | removeStream (stream : Nat)
  | release (stream : Nat)
  | borrow (object : Nat)
  | giveBack (object : Nat)
  | writeElsewhere (object : Nat) (window : Int32)
  | parkElsewhere (object : Nat)
  | wakeElsewhere (object : Nat)
  | enter (stream : Nat) (want : Int32)
  | evaluate (caller : Caller)
  | addConn (inc : Int32)
  | lookupStream (stream : Nat) (inc : Int32)
  | addStream
  | snapshotWindows (newSize : Int32)
  | applyDelta
  | markDead
  | rstStream (stream : Nat)
  | handleRSTStream
  deriving DecidableEq

def step (role : Role) (st : State) : Action → Option State
  -- the initial window was read before, so it may be an old one
  | .openStream s o initialWindow =>
      if s ∉ st.opened ∧ st.holder o = .pool then
        some { st with
          object := Function.update st.object o (acquire (st.object o) s 0 initialWindow)
          holder := Function.update st.holder o (.stream s)
          objectOf := Function.update st.objectOf s o
          opened := s :: st.opened
          registered := s :: st.registered }
      else none
  | .removeStream s => some { st with registered := st.registered.filter (· ≠ s) }
  | .release s =>
      if st.holder (st.objectOf s) = .stream s ∧ s ∉ st.registered then
        some { st with holder := Function.update st.holder (st.objectOf s) .pool }
      else none
  | .borrow o =>
      if st.holder o = .pool then
        some { st with holder := Function.update st.holder o .elsewhere, lent := o :: st.lent }
      else none
  | .giveBack o =>
      if st.holder o = .elsewhere then
        some { st with holder := Function.update st.holder o .pool }
      else none
  -- pointers of another connection, which may be stale ones
  | .writeElsewhere o window =>
      if o ∈ st.lent then some (st.setWindows (Function.update st.window o window)) else none
  | .parkElsewhere o =>
      if o ∈ st.lent then some { st with parkedElsewhere := o :: st.parkedElsewhere } else none
  | .wakeElsewhere o => some { st with parkedElsewhere := st.parkedElsewhere.erase o }
  | .enter s want =>
      if s ∈ st.opened then
        some { st with callers := ⟨s, st.objectOf s, want, false⟩ :: st.callers }
      else none
  | .evaluate caller =>
      if caller ∈ st.callers ∧ caller.parked = false then
        match reserve st.credit (st.window caller.object) caller.want with
        -- `cond.Wait`; a broadcast makes the caller evaluate again
        | .parked =>
            some { st with callers := { caller with parked := true } :: st.callers.erase caller }
        | .returned _ _ credit window =>
            some { st.setWindows (Function.update st.window caller.object window) with
              credit := credit
              callers := st.callers.erase caller }
      else none
  | .addConn inc =>
      if st.reader = .between then
        some { st.broadcast with credit := Flow.addConn st.credit inc }
      else none
  | .lookupStream s inc =>
      if st.reader = .between ∧ s ∈ st.registered then
        some { st with reader := .crediting (st.objectOf s) inc }
      else none
  | .addStream =>
      match st.reader with
      | .crediting o inc =>
          some { st.broadcast.setWindows
            (Function.update st.window o (Flow.addStream (st.window o) inc)) with
            reader := .between }
      | _ => none
  | .snapshotWindows newSize =>
      if st.reader = .between then
        some { st with reader := .applying newSize (st.registered.map st.objectOf) }
      else none
  | .applyDelta =>
      match st.reader with
      | .applying newSize objects =>
          let applied := Flow.applyInitialWindowDelta st.credit newSize st.window objects
          let woken := if newSize - st.credit.peerInitWindow ≠ 0 then st.broadcast else st
          some { woken.setWindows applied.2 with credit := applied.1, reader := .between }
      | _ => none
  | .markDead => some { st.broadcast with credit := Flow.markDead st.credit }
  -- neither role broadcasts here
  | .rstStream s =>
      if st.reader = .between then
        match role with
        | .worker => some { st.failRegistered s with reset := s :: st.reset }
        | .proxy => some { st.failRegistered s with reader := .resetting s }
      else none
  | .handleRSTStream =>
      match st.reader with
      | .resetting s => some { st.failRegistered s with reader := .between, reset := s :: st.reset }
      | _ => none

/-- The stream has not given its object back. -/
def State.holds (st : State) (s : Nat) : Bool := st.holder (st.objectOf s) = .stream s

/-- The caller is inside `Reserve` for the stream, or on the window it has. -/
def Concerns (st : State) (caller : Caller) (s : Nat) : Prop :=
  caller.stream = s ∨ (caller.object = st.objectOf s ∧ st.holds s = true)

instance (st : State) (caller : Caller) (s : Nat) : Decidable (Concerns st caller s) :=
  inferInstanceAs (Decidable (_ ∨ (_ ∧ _)))

/-- Nobody is parked in `Reserve` on a stream whose reset is done with. -/
structure ResetsRelease (st : State) : Prop where
  own : ∀ caller ∈ st.callers, ∀ s ∈ st.reset, Concerns st caller s → caller.parked = false
  others : ∀ s ∈ st.reset, st.holds s = true → st.objectOf s ∉ st.parkedElsewhere

instance (st : State) : Decidable (ResetsRelease st) :=
  decidable_of_iff
    ((∀ caller ∈ st.callers, ∀ s ∈ st.reset, Concerns st caller s → caller.parked = false) ∧
      ∀ s ∈ st.reset, st.holds s = true → st.objectOf s ∉ st.parkedElsewhere)
    ⟨fun both => ⟨both.1, both.2⟩, fun release => ⟨release.own, release.others⟩⟩

/-- `Reserve` would not park. -/
def Credited (st : State) (object : Nat) : Prop :=
  st.credit.dead = true ∨ (0 < st.window object ∧ 0 < st.credit.connSendWindow)

instance (st : State) (object : Nat) : Decidable (Credited st object) :=
  inferInstanceAs (Decidable (_ = true ∨ (_ < _ ∧ _ < _)))

/-- Nobody is inside `Reserve` on the stream, or it is registered and `Reserve`
would not park. -/
def Clear (st : State) (s : Nat) : Prop :=
  (∀ caller ∈ st.callers, ¬ Concerns st caller s) ∨
    (s ∈ st.registered ∧ Credited st (st.objectOf s))

instance (st : State) (s : Nat) : Decidable (Clear st s) :=
  inferInstanceAs (Decidable ((∀ caller ∈ st.callers, ¬ Concerns st caller s) ∨ (_ ∧ _)))

/-- The stream whose RST_STREAM the reader is in the middle of. -/
def Reader.reset? : Reader → Option Nat
  | .resetting s => some s
  | .between | .crediting _ _ | .applying _ _ => none

/-- Some stream of this connection has the object. -/
def State.here (st : State) (object : Nat) : Bool :=
  match st.holder object with
  | .stream _ => true
  | .pool | .elsewhere => false

/-- The reader completes a reset only when the stream is clear, and `Reserve` is
evaluated on a reset stream only with credit or on a dead connection. An object is
taken from the pool only while nobody is parked on its window, and then left alone
by the other connections. -/
def Harmless (role : Role) (st : State) : Action → Prop
  | .openStream _ o _ =>
      (∀ caller ∈ st.callers, caller.object = o → caller.parked = false) ∧ o ∉ st.parkedElsewhere
  | .writeElsewhere o _ | .parkElsewhere o => st.here o = false
  | .rstStream s => role = .worker → Clear st s
  | .handleRSTStream => ∀ s ∈ st.reader.reset?, Clear st s
  | .evaluate caller => (∃ s ∈ st.reset, Concerns st caller s) →
      Credited st caller.object ∨ caller.want ≤ 0
  | _ => True

instance (role : Role) (st : State) (action : Action) : Decidable (Harmless role st action) := by
  unfold Harmless
  split <;> infer_instance

/-- No wake-up is lost on an object that a stream of this connection has: whoever is
parked on it would park again. -/
structure Valid (st : State) : Prop where
  waiting : ∀ caller ∈ st.callers, caller.parked = true → st.here caller.object = true →
    ¬ Credited st caller.object
  callers : ∀ caller ∈ st.callers,
    caller.stream ∈ st.opened ∧ caller.object = st.objectOf caller.stream
  registered : ∀ s ∈ st.registered, s ∈ st.opened ∧ st.holds s = true
  away : ∀ object ∈ st.parkedElsewhere, st.here object = false
  released : ∀ caller ∈ st.callers, ∀ s ∈ st.reset, Concerns st caller s → caller.parked = false

theorem valid_new : Valid State.new := by
  constructor <;> simp [State.new]

theorem here_of_holds {st : State} {s : Nat} (holds : st.holds s = true) :
    st.here (st.objectOf s) = true := by
  have held : st.holder (st.objectOf s) = .stream s := of_decide_eq_true holds
  simp [State.here, held]

theorem resetsRelease_of_valid {st : State} (valid : Valid st) : ResetsRelease st where
  own := valid.released
  others := by
    intro s _ holds parked
    exact absurd (valid.away _ parked) (by simp [here_of_holds holds])

/-- Whoever is on the window of a registered stream waits for credit. -/
theorem unparked_of_clear {st : State} (valid : Valid st) {s : Nat} (clear : Clear st s)
    {caller : Caller} (member : caller ∈ st.callers) (concerns : Concerns st caller s) :
    caller.parked = false := by
  rcases clear with nobody | ⟨registered, credited⟩
  · exact absurd concerns (nobody caller member)
  · have object : caller.object = st.objectOf s := by
      rcases concerns with rfl | ⟨same, _⟩
      · exact (valid.callers caller member).2
      · exact same
    cases parked : caller.parked with
    | false => rfl
    | true =>
        have here := here_of_holds (valid.registered s registered).2
        rw [← object] at here credited
        exact absurd credited (valid.waiting caller member parked here)

@[simp]
theorem setWindows_window (st : State) (memory : Nat → Int32) :
    (st.setWindows memory).window = memory := rfl

@[simp]
theorem failBody_window (st : State) (s : Nat) : (st.failBody s).window = st.window := by
  funext object
  by_cases same : object = st.objectOf s
  · subst same
    simp [State.window, State.failBody, BodyQueue.failBody]
  · simp [State.window, State.failBody, Function.update_of_ne same]

theorem failRegistered_eq (st : State) (s : Nat) :
    ∃ object, st.failRegistered s = { st with object := object } ∧
      (st.failRegistered s).window = st.window := by
  unfold State.failRegistered
  split
  · exact ⟨_, rfl, failBody_window st s⟩
  · exact ⟨st.object, rfl, rfl⟩

theorem failRegistered_reset (st : State) (s : Nat) : (st.failRegistered s).reset = st.reset := by
  unfold State.failRegistered
  split <;> rfl

/-- After a broadcast nobody is parked, whatever became of the windows. -/
theorem broadcast_valid {st : State} (valid : Valid st) (object : Nat → Stream)
    (credit : SendCredit) (reader : Reader) :
    Valid { st.broadcast with object := object, credit := credit, reader := reader } := by
  have awake : ∀ caller ∈ st.broadcast.callers, caller.parked = false ∧
      caller.stream ∈ st.opened ∧ caller.object = st.objectOf caller.stream := by
    intro caller member
    obtain ⟨before, was, rfl⟩ := List.mem_map.mp member
    exact ⟨rfl, valid.callers before was⟩
  constructor
  · intro caller member parked
    exact absurd parked (by simp [(awake caller member).1])
  · exact fun caller member => (awake caller member).2
  · exact valid.registered
  · exact valid.away
  · exact fun caller member _ _ _ => (awake caller member).1

/-- The windows that a stream here has stay, and so does everybody inside
`Reserve`. -/
theorem quiet_valid {st : State} (valid : Valid st) {object : Nat → Stream} {reader : Reader}
    {reset : List Nat} {credit : SendCredit} (dead : credit.dead = st.credit.dead)
    (conn : credit.connSendWindow = st.credit.connSendWindow)
    (windows : ∀ o, st.here o = true → (object o).sendWindow = st.window o)
    (done : ∀ s ∈ reset, s ∈ st.reset ∨ Clear st s) :
    Valid { st with object := object, credit := credit, reader := reader, reset := reset } := by
  constructor
  · intro caller member parked here
    unfold Credited
    simp only [State.window, dead, conn]
    rw [windows _ here]
    exact valid.waiting caller member parked here
  · exact valid.callers
  · exact valid.registered
  · exact valid.away
  · intro caller member s finished concerns
    rcases done s finished with before | clear
    · exact valid.released caller member s before concerns
    · exact unparked_of_clear valid clear member concerns

/-- An object that no registered stream has goes to the pool or to another
connection. -/
theorem unhold_valid {st : State} (valid : Valid st) {o : Nat} {holder : Holder}
    (leaves : ∀ s, holder ≠ .stream s) (unused : ∀ s ∈ st.registered, st.objectOf s ≠ o)
    (lent : List Nat) :
    Valid { st with holder := Function.update st.holder o holder, lent := lent } := by
  have hereBefore : ∀ object,
      State.here { st with holder := Function.update st.holder o holder, lent := lent } object =
        true → st.here object = true := by
    intro object here
    by_cases same : object = o
    · subst same
      cases holder with
      | stream s => exact absurd rfl (leaves s)
      | pool | elsewhere => simp [State.here] at here
    · simpa [State.here, Function.update_of_ne same] using here
  have heldBefore : ∀ s,
      State.holds { st with holder := Function.update st.holder o holder, lent := lent } s =
        true → st.holds s = true := by
    intro s holds
    by_cases same : st.objectOf s = o
    · exact absurd (by simpa [State.holds, same] using holds) (leaves s)
    · simpa [State.holds, Function.update_of_ne same] using holds
  constructor
  · exact fun caller member parked here =>
      valid.waiting caller member parked (hereBefore _ here)
  · exact valid.callers
  · intro s member
    refine ⟨(valid.registered s member).1, ?_⟩
    simpa [State.holds, Function.update_of_ne (unused s member)] using
      (valid.registered s member).2
  · intro object parked
    have before := valid.away object parked
    cases now : State.here { st with
        holder := Function.update st.holder o holder, lent := lent } object with
    | false => rfl
    | true => exact absurd (hereBefore object now) (by simp [before])
  · intro caller member s done concerns
    refine valid.released caller member s done ?_
    exact concerns.imp id fun ⟨same, holds⟩ => ⟨same, heldBefore s holds⟩

theorem unused_of_holder {st : State} (valid : Valid st) {o : Nat}
    (free : ∀ s ∈ st.registered, st.holder o ≠ .stream s) :
    ∀ s ∈ st.registered, st.objectOf s ≠ o := by
  rintro s member rfl
  exact free s member (of_decide_eq_true (valid.registered s member).2)

/-- A stream takes an object on which nobody is parked. -/
theorem opened_valid {role : Role} {st next : State} {s o : Nat} {initialWindow : Int32}
    (valid : Valid st) (harmless : Harmless role st (.openStream s o initialWindow))
    (stepped : step role st (.openStream s o initialWindow) = some next) : Valid next := by
  obtain ⟨⟨fresh, pooled⟩, rfl⟩ := enabled stepped
  obtain ⟨unparked, unwatched⟩ := harmless
  have older : ∀ {other}, other ∈ st.opened → other ≠ s := by
    rintro other known rfl
    exact fresh known
  have unused : ∀ other ∈ st.registered, st.objectOf other ≠ o :=
    unused_of_holder valid fun _ _ => by simp [pooled]
  constructor
  · intro caller member parked here
    have apart : caller.object ≠ o := fun same => by simp [unparked caller member same] at parked
    have before : st.here caller.object = true := by
      simpa [State.here, Function.update_of_ne apart] using here
    simpa [Credited, State.window, Function.update_of_ne apart] using
      valid.waiting caller member parked before
  · intro caller member
    obtain ⟨known, same⟩ := valid.callers caller member
    refine ⟨List.mem_cons_of_mem s known, ?_⟩
    simpa [Function.update_of_ne (older known)] using same
  · intro other member
    rcases List.mem_cons.mp member with rfl | before
    · exact ⟨List.mem_cons_self, by simp [State.holds]⟩
    · obtain ⟨known, holds⟩ := valid.registered other before
      refine ⟨List.mem_cons_of_mem s known, ?_⟩
      simpa [State.holds, Function.update_of_ne (older known),
        Function.update_of_ne (unused other before)] using holds
  · intro object parked
    have apart : object ≠ o := by
      rintro rfl
      exact unwatched parked
    simpa [State.here, Function.update_of_ne apart] using valid.away object parked
  · intro caller member other done concerns
    by_cases taken : caller.object = o
    · exact unparked caller member taken
    · refine valid.released caller member other done (concerns.imp id ?_)
      rintro ⟨object, holds⟩
      have old : other ≠ s := by
        rintro rfl
        exact taken (by simpa using object)
      simp only [Function.update_of_ne old] at object
      rw [object] at taken
      refine ⟨object, ?_⟩
      simpa [State.holds, Function.update_of_ne old, Function.update_of_ne taken] using holds

/-- Somebody enters `Reserve` or takes another place among those inside it. -/
theorem join_valid {st : State} (valid : Valid st) {caller : Caller} {rest : List Caller}
    (old : ∀ other ∈ rest, other ∈ st.callers)
    (known : caller.stream ∈ st.opened ∧ caller.object = st.objectOf caller.stream)
    (waiting : caller.parked = true → ¬ Credited st caller.object)
    (released : ∀ s ∈ st.reset, Concerns st caller s → caller.parked = false) :
    Valid { st with callers := caller :: rest } := by
  constructor
  · intro other member parked here
    rcases List.mem_cons.mp member with rfl | before
    · exact waiting parked
    · exact valid.waiting other (old other before) parked here
  · intro other member
    rcases List.mem_cons.mp member with rfl | before
    · exact known
    · exact valid.callers other (old other before)
  · exact valid.registered
  · exact valid.away
  · intro other member s done concerns
    rcases List.mem_cons.mp member with rfl | before
    · exact released s done concerns
    · exact valid.released other (old other before) s done concerns

/-- A grant to one caller leaves everybody who is parked without credit. -/
theorem reserve_keeps_waiting {st : State} {object other : Nat} {want got window : Int32}
    {dead : Bool} {credit : SendCredit}
    (returned : reserve st.credit (st.window object) want = .returned got dead credit window)
    (waiting : ¬ Credited st other) :
    ¬ Credited { st.setWindows (Function.update st.window object window) with credit := credit }
      other := by
  rcases reserve_cases returned with
    ⟨_, rfl, rfl, _⟩ | ⟨positive, _, fromStream, fromConn, _, rfl, rfl⟩
  · rw [Function.update_eq_self]
    exact waiting
  · unfold Credited at waiting ⊢
    have conn : 0 < st.credit.connSendWindow := by
      rw [Int32.lt_iff_toInt_lt] at positive ⊢
      rw [Int32.le_iff_toInt_le] at fromConn
      omega
    have own : 0 < st.window object := by
      rw [Int32.lt_iff_toInt_lt] at positive ⊢
      rw [Int32.le_iff_toInt_le] at fromStream
      omega
    have apart : other ≠ object := by
      rintro rfl
      exact waiting (Or.inr ⟨own, conn⟩)
    rintro (gone | ⟨left, _⟩)
    · exact waiting (Or.inl gone)
    · apply waiting
      refine Or.inr ⟨?_, conn⟩
      simpa [State.window, State.setWindows, Function.update_of_ne apart] using left

theorem evaluate_valid {role : Role} {st next : State} {caller : Caller} (valid : Valid st)
    (harmless : Harmless role st (.evaluate caller))
    (stepped : step role st (.evaluate caller) = some next) : Valid next := by
  simp only [step] at stepped
  split at stepped
  case isFalse => cases stepped
  rename_i awake
  have kept : ∀ {other}, other ∈ st.callers.erase caller → other ∈ st.callers :=
    fun member => List.mem_of_mem_erase member
  split at stepped
  · rename_i parks
    obtain ⟨asked, alive, spent⟩ := reserve_parked parks
    have waiting : ¬ Credited st caller.object := by
      rintro (dead | credit)
      · exact absurd (alive.symm.trans dead) (by simp)
      · exact spent credit
    cases stepped
    refine join_valid valid (fun _ member => kept member) (valid.callers caller awake.1)
      (fun _ => waiting) fun s done concerns => ?_
    rcases harmless ⟨s, done, concerns⟩ with credited | nothing
    · exact absurd credited waiting
    · exact absurd nothing asked
  · rename_i returned
    cases stepped
    constructor
    · exact fun other member parked here =>
        reserve_keeps_waiting returned (valid.waiting other (kept member) parked here)
    · exact fun other member => valid.callers other (kept member)
    · exact valid.registered
    · exact valid.away
    · exact fun other member => valid.released other (kept member)

theorem mem_reset_cons {st : State} {s : Nat} (clear : Clear st s) :
    ∀ stream ∈ s :: st.reset, stream ∈ st.reset ∨ Clear st stream := by
  intro stream done
  rcases List.mem_cons.mp done with rfl | old
  · exact Or.inr clear
  · exact Or.inl old

/-- A body is failed; no window moves. -/
theorem failed_valid {st : State} (valid : Valid st) (s : Nat) {reader : Reader}
    {reset : List Nat} (done : ∀ stream ∈ reset, stream ∈ st.reset ∨ Clear st stream) :
    Valid { st.failRegistered s with reader := reader, reset := reset } := by
  obtain ⟨object, failed, windows⟩ := failRegistered_eq st s
  rw [failed] at windows ⊢
  exact quiet_valid valid rfl rfl (fun o _ => congrFun windows o) done

theorem step_valid {role : Role} {st next : State} {action : Action} (valid : Valid st)
    (harmless : Harmless role st action) (stepped : step role st action = some next) :
    Valid next := by
  have noneNew : ∀ s ∈ st.reset, s ∈ st.reset ∨ Clear st s := fun _ done => Or.inl done
  cases action with
  | openStream s o initialWindow => exact opened_valid valid harmless stepped
  | removeStream s =>
      cases stepped
      exact ⟨valid.waiting, valid.callers,
        fun other member => valid.registered other (List.mem_filter.mp member).1,
        valid.away, valid.released⟩
  | release s =>
      obtain ⟨⟨held, removed⟩, rfl⟩ := enabled stepped
      refine unhold_valid valid (by simp) (unused_of_holder valid fun other member => ?_) st.lent
      rw [held]
      rintro ⟨⟩
      exact removed member
  | borrow o =>
      obtain ⟨pooled, rfl⟩ := enabled stepped
      exact unhold_valid valid (by simp) (unused_of_holder valid fun _ _ => by simp [pooled]) _
  | giveBack o =>
      obtain ⟨away, rfl⟩ := enabled stepped
      exact unhold_valid valid (by simp) (unused_of_holder valid fun _ _ => by simp [away]) st.lent
  | writeElsewhere o window =>
      obtain ⟨_, rfl⟩ := enabled stepped
      refine quiet_valid valid rfl rfl (fun object here => ?_) noneNew
      have apart : object ≠ o := by
        rintro rfl
        exact absurd here (by simp [show st.here object = false from harmless])
      simp [Function.update_of_ne apart]
  | parkElsewhere o =>
      obtain ⟨_, rfl⟩ := enabled stepped
      refine ⟨valid.waiting, valid.callers, valid.registered, ?_, valid.released⟩
      intro object parked
      rcases List.mem_cons.mp parked with rfl | before
      · exact harmless
      · exact valid.away object before
  | wakeElsewhere o =>
      cases stepped
      exact ⟨valid.waiting, valid.callers, valid.registered,
        fun object parked => valid.away object (List.mem_of_mem_erase parked), valid.released⟩
  | enter s want =>
      obtain ⟨known, rfl⟩ := enabled stepped
      exact join_valid valid (fun _ old => old) ⟨known, rfl⟩ nofun (fun _ _ _ => rfl)
  | evaluate caller => exact evaluate_valid valid harmless stepped
  | addConn inc =>
      obtain ⟨_, rfl⟩ := enabled stepped
      exact broadcast_valid valid _ _ _
  | lookupStream s inc =>
      obtain ⟨_, rfl⟩ := enabled stepped
      exact quiet_valid valid rfl rfl (fun _ _ => rfl) noneNew
  | addStream =>
      cases reader : st.reader with
      | between | applying newSize objects | resetting s => simp [step, reader] at stepped
      | crediting o inc =>
          simp only [step, reader] at stepped
          cases stepped
          exact broadcast_valid valid _ _ _
  | snapshotWindows newSize =>
      obtain ⟨_, rfl⟩ := enabled stepped
      exact quiet_valid valid rfl rfl (fun _ _ => rfl) noneNew
  | applyDelta =>
      cases reader : st.reader with
      | between | crediting o inc | resetting s => simp [step, reader] at stepped
      | applying newSize objects =>
          simp only [step, reader] at stepped
          cases stepped
          by_cases changed : newSize - st.credit.peerInitWindow ≠ 0
          · rw [if_pos changed]
            exact broadcast_valid valid _ _ _
          · -- no broadcast, but then no window has moved either
            rw [if_neg changed]
            have unmoved : (Flow.applyInitialWindowDelta st.credit newSize st.window
                objects).2 = st.window := if_neg changed
            exact quiet_valid valid rfl rfl (fun o _ => congrFun unmoved o) noneNew
  | markDead =>
      cases stepped
      exact broadcast_valid valid _ _ _
  | rstStream s =>
      simp only [step] at stepped
      split at stepped
      case isFalse => cases stepped
      cases role with
      | worker =>
          cases stepped
          exact failed_valid valid s (mem_reset_cons (harmless rfl))
      | proxy =>
          cases stepped
          exact failed_valid valid s (by rw [failRegistered_reset]; exact noneNew)
  | handleRSTStream =>
      cases reader : st.reader with
      | between | crediting o inc | applying newSize objects =>
          simp [step, reader] at stepped
      | resetting s =>
          have clear : Clear st s := harmless s (by rw [reader]; rfl)
          simp only [step, reader] at stepped
          cases stepped
          exact failed_valid valid s (mem_reset_cons clear)

/-- Over every run whose resets find the stream clear, and in which nobody is parked
on an object when a stream takes it, a finished reset leaves nobody parked on the
stream's window. -/
theorem reset_leaves_nobody_parked {role : Role} {trace : List Action} {last : State}
    (harmless : Guarded (step role) (Harmless role) State.new trace)
    (ran : run (step role) State.new trace = some last) : ResetsRelease last :=
  resetsRelease_of_valid (run_invariant
    (fun _ _ _ valid harmless stepped => step_valid valid harmless stepped)
    valid_new harmless ran)

/-- Neither credit nor the end of the connection. -/
def Quiet (_ : State) : Action → Prop
  | .addConn _ | .addStream | .applyDelta | .markDead => False
  | _ => True

theorem failRegistered_callers (st : State) (s : Nat) :
    (st.failRegistered s).callers = st.callers := by
  unfold State.failRegistered
  split <;> rfl

theorem parked_step {role : Role} {st next : State} {action : Action} {caller : Caller}
    (parked : caller.parked = true) (member : caller ∈ st.callers) (quiet : Quiet st action)
    (stepped : step role st action = some next) : caller ∈ next.callers := by
  cases action with
  | addConn | addStream | applyDelta | markDead => exact absurd quiet id
  | openStream s o initialWindow =>
      obtain ⟨_, rfl⟩ := enabled stepped
      exact member
  | removeStream s | wakeElsewhere o =>
      cases stepped
      exact member
  | release s | borrow o | giveBack o | writeElsewhere o window | parkElsewhere o
  | lookupStream s inc | snapshotWindows newSize =>
      obtain ⟨_, rfl⟩ := enabled stepped
      exact member
  | enter s want =>
      obtain ⟨_, rfl⟩ := enabled stepped
      exact List.mem_cons_of_mem _ member
  | evaluate other =>
      simp only [step] at stepped
      split at stepped
      case isFalse => cases stepped
      rename_i awake
      have apart : caller ≠ other := by
        rintro rfl
        exact absurd (parked.symm.trans awake.2) (by simp)
      have kept := (List.mem_erase_of_ne apart).mpr member
      split at stepped
      · cases stepped
        exact List.mem_cons_of_mem _ kept
      · cases stepped
        exact kept
  | rstStream s =>
      simp only [step] at stepped
      split at stepped
      case isFalse => cases stepped
      rw [← failRegistered_callers st s] at member
      cases role <;> cases stepped <;> exact member
  | handleRSTStream =>
      simp only [step] at stepped
      split at stepped
      · rename_i s reader
        cases stepped
        rw [← failRegistered_callers st s] at member
        exact member
      · cases stepped

/-- A parked goroutine stays parked until credit arrives or the connection dies,
whatever happens to its stream. -/
theorem parked_until_credit {role : Role} {st last : State} {trace : List Action} {caller : Caller}
    (parked : caller.parked = true) (member : caller ∈ st.callers)
    (quiet : Guarded (step role) Quiet st trace) (ran : run (step role) st trace = some last) :
    caller ∈ last.callers :=
  run_invariant (fun _ _ _ member quiet stepped => parked_step parked member quiet stepped) member
    quiet ran

/-- A goroutine's view of one more frame of 16384 bytes on stream 1. -/
def writer : Caller := ⟨1, 0, 16384, false⟩

/-- Frames of 16384 bytes until the initial window of 65535 is used up, and one
more, for which `Reserve` parks. -/
def exhausted : List Action :=
  [.openStream 1 0 65535, .enter 1 16384, .evaluate writer, .enter 1 16384, .evaluate writer,
    .enter 1 16384, .evaluate writer, .enter 1 16384, .evaluate writer, .enter 1 16384,
    .evaluate writer]

theorem reset_leaves_writer_parked :
    (¬ ∀ trace last, run (step .worker) State.new trace = some last → ResetsRelease last) ∧
      ¬ ∀ trace last, run (step .proxy) State.new trace = some last → ResetsRelease last := by
  constructor
  · intro always
    have ran : (run (step .worker) State.new (exhausted ++ [.rstStream 1])).map
        (fun last => decide (ResetsRelease last)) = some false := by
      decide
    obtain ⟨last, reached, parked⟩ := Option.map_eq_some_iff.mp ran
    exact absurd (always _ last reached) (of_decide_eq_false parked)
  · intro always
    have ran : (run (step .proxy) State.new (exhausted ++ [.rstStream 1, .handleRSTStream])).map
        (fun last => decide (ResetsRelease last)) = some false := by
      decide
    obtain ⟨last, reached, parked⟩ := Option.map_eq_some_iff.mp ran
    exact absurd (always _ last reached) (of_decide_eq_false parked)

/-- The window is refilled before the reset comes: the writer gets its turn. Its
object is used again afterwards. -/
def refilled : List Action :=
  exhausted ++ [.addConn 65535, .lookupStream 1 65535, .addStream, .rstStream 1,
    .handleRSTStream, .evaluate writer, .removeStream 1, .release 1, .openStream 3 0 65535]

theorem reset_leaves_nobody_parked_refilled :
    ∃ last, run (step .proxy) State.new refilled = some last ∧
      Guarded (step .proxy) (Harmless .proxy) State.new refilled ∧ last.reset = [1] ∧
      ResetsRelease last := by
  have ran : (run (step .proxy) State.new refilled).map State.reset = some [1] := by decide
  obtain ⟨last, reached, done⟩ := Option.map_eq_some_iff.mp ran
  have harmless : Guarded (step .proxy) (Harmless .proxy) State.new refilled := by decide
  exact ⟨last, reached, harmless, done, reset_leaves_nobody_parked harmless reached⟩

end ReverseHttp.ResetWaiters
