import ReverseHttp.CreditLedger
import ReverseHttp.Wire

/-!
The proxy opening streams while the peer changes SETTINGS_INITIAL_WINDOW_SIZE.
`openForward` reads the initial window under `Send.mu` and registers the stream
under the registry locks; `ApplyPeerSettings` snapshots the registry and then
applies the delta under `Send.mu`; `HandleWindowUpdate` looks the stream up and
then adds to its window. Each of these is a step of its own.

A window is a field of a stream object, and the registry maps stream ids to
objects. Objects come from the pool that all tunnels share and go back to it, so
the pointers of a snapshot or of a lookup may outlive the stream they were taken
for, and so may those of a request-body pump or of another tunnel's goroutines.
`number` and `ledger` are ghost: the streams of this connection are numbered in
the order they were opened, and the ledger is kept by those numbers.
-/

namespace ReverseHttp.InitialWindow

open Transition MachineInt Flow CreditLedger
open Wire (noStreamLimit nextID)

inductive Holder where
  | pool
  | here
  | elsewhere
  deriving DecidableEq

/-- What the frame reader is in the middle of. `stream` is the number of the
stream that the WINDOW_UPDATE was received for. -/
inductive Reader where
  | between
  | applying (newSize : Int32) (windows : List Nat)
  | crediting (object stream : Nat) (inc : Int32)
  deriving DecidableEq

/-- `calls` holds the value each `openForward` between its two steps has read;
`forwards` the keys of `Worker.streams`; `lent` the objects that another tunnel
has had. An object that no stream of this connection has had has the number 0. -/
structure State where
  credit : SendCredit
  window : Nat → Int32
  holder : Nat → Holder
  lent : List Nat
  number : Nat → Nat
  opened : Nat
  nextStreamID : Nat
  streams : List (Nat × Nat)
  forwards : List Nat
  draining : Bool
  peerMaxStreams : Nat
  calls : List Int32
  reader : Reader
  ledger : List Entry

/-- `1<<31-1`, the largest legal SETTINGS_INITIAL_WINDOW_SIZE. -/
def maxInitialWindow : Nat := 2147483647

def State.new : State :=
  { credit := SendCredit.new
    window := fun _ => 0
    holder := fun _ => .pool
    lent := []
    number := fun _ => 0
    opened := 0
    nextStreamID := 0
    streams := []
    forwards := []
    draining := false
    peerMaxStreams := noStreamLimit
    calls := []
    reader := .between
    ledger := [] }

inductive Action where
  | readInitialWindow
  | openStream (call object : Nat)
  | deregisterStream (id : Nat)
  | removeStream (id : Nat)
  | release (object : Nat)
  | borrow (object : Nat)
  | giveBack (object : Nat)
  | writeElsewhere (object : Nat) (window : Int32)
  | snapshotWindows (val : Nat)
  | applyDelta
  | lookupStream (id : Nat) (inc : Int32)
  | addStream
  | addConn (inc : Int32)
  | reserve (object : Nat) (want : Int32)
  | beginDrain
  | setPeerMaxStreams (val : Nat)
  | markDead
  deriving DecidableEq

def State.saturated (s : State) : Bool := s.peerMaxStreams ≤ s.forwards.length

/-- `openStream` up to the HEADERS, with the object the pool gives it; a failed
send is rolled back by `deregisterStream`, `removeStream` and `release`. -/
def openStream (s : State) (initialWindow : Int32) (object : Nat) : State :=
  if s.draining then s
  else if s.saturated then s
  else
    let id := nextID s.nextStreamID
    { s with
      nextStreamID := id
      window := Function.update s.window object initialWindow
      holder := Function.update s.holder object .here
      number := Function.update s.number object (s.opened + 1)
      opened := s.opened + 1
      streams := (id, object) :: s.streams.filter (·.1 ≠ id)
      forwards := id :: s.forwards.filter (· ≠ id) }

def activeStreamWindows (s : State) : List Nat := s.streams.map Prod.snd

def step (s : State) : Action → Option State
  | .readInitialWindow => some { s with calls := s.calls ++ [initialStreamWindow s.credit] }
  | .openStream call object =>
      if s.holder object = .pool then
        s.calls[call]?.map fun initialWindow =>
          { openStream s initialWindow object with calls := s.calls.eraseIdx call }
      else none
  | .deregisterStream id => some { s with forwards := s.forwards.filter (· ≠ id) }
  | .removeStream id => some { s with streams := s.streams.filter (·.1 ≠ id) }
  -- after `RemoveStream`; the pump of a forward that panicked may still run
  | .release object =>
      if s.holder object = .here ∧ object ∉ activeStreamWindows s then
        some { s with holder := Function.update s.holder object .pool }
      else none
  | .borrow object =>
      if s.holder object = .pool then
        some { s with
          holder := Function.update s.holder object .elsewhere
          lent := object :: s.lent }
      else none
  | .giveBack object =>
      if s.holder object = .elsewhere then
        some { s with holder := Function.update s.holder object .pool }
      else none
  -- a pointer of another tunnel, which may be a stale one
  | .writeElsewhere object window =>
      if object ∈ s.lent then some { s with window := Function.update s.window object window }
      else none
  | .snapshotWindows val =>
      if s.reader = .between ∧ val ≤ maxInitialWindow then
        some { s with reader := .applying (Int32.ofNat val) (activeStreamWindows s) }
      else none
  | .applyDelta =>
      match s.reader with
      | .applying newSize windows =>
          let applied := applyInitialWindowDelta s.credit newSize s.window windows
          some { s with credit := applied.1, window := applied.2, reader := .between }
      | _ => none
  | .lookupStream id inc =>
      if s.reader = .between then
        match s.streams.lookup id with
        | none => some s
        | some object => some { s with reader := .crediting object (s.number object) inc }
      else none
  | .addStream =>
      match s.reader with
      | .crediting object stream inc =>
          some { s with
            window := Function.update s.window object (Flow.addStream (s.window object) inc)
            reader := .between
            ledger := .streamIncrement stream inc :: s.ledger }
      | _ => none
  | .addConn inc =>
      if s.reader = .between then
        some { s with credit := Flow.addConn s.credit inc, ledger := .connIncrement inc :: s.ledger }
      else none
  -- the bytes count for the stream that has the object now
  | .reserve object want =>
      if s.number object ≠ 0 then
        match Flow.reserve s.credit (s.window object) want with
        | .parked => none
        | .returned got _ credit window =>
            some { s with
              credit := credit
              window := Function.update s.window object window
              ledger := .granted (s.number object) got :: s.ledger }
      else none
  | .beginDrain => some { s with draining := true }
  | .setPeerMaxStreams val => some { s with peerMaxStreams := val }
  | .markDead => some { s with credit := Flow.markDead s.credit }

/-- The window the peer allows on a stream, from the history alone. -/
def exactWindow (s : State) (stream : Nat) : Int :=
  s.credit.peerInitWindow.toInt + streamIncrements stream s.ledger - grantedOn stream s.ledger

/-- Every registered stream's machine window is the exact one, as an `int32`. -/
def Accurate (s : State) : Prop :=
  ∀ id object, (id, object) ∈ s.streams →
    (s.window object).toInt = (exactWindow s (s.number object)).bmod (2 ^ 32)

/-- The initial window a stream registered now will be held to once the frame
being handled is done. -/
def State.target (s : State) : Int32 :=
  match s.reader with
  | .applying newSize _ => newSize
  | _ => s.credit.peerInitWindow

/-- The objects whose windows the frame reader has in its hands. -/
def Reader.pointers : Reader → List Nat
  | .between => []
  | .applying _ windows => windows
  | .crediting object _ _ => [object]

/-- A stream is registered only with a value that is not stale and in an object
that the frame reader holds no pointer to, and no other tunnel writes to a
registered stream's window. -/
def Current (s : State) : Action → Prop
  | .openStream call object => s.draining = false → s.saturated = false →
      s.calls[call]? = some s.target ∧ object ∉ s.reader.pointers
  | .writeElsewhere object _ => object ∉ activeStreamWindows s
  | _ => True

instance (s : State) (action : Action) : Decidable (Current s action) := by
  unfold Current
  split <;> infer_instance

/-! What the history has moved a window by. -/

def moved (ledger : List Entry) (stream : Nat) : Int32 :=
  Int32.ofInt (streamIncrements stream ledger - grantedOn stream ledger)

theorem moved_granted (ledger : List Entry) (owner stream : Nat) (got : Int32) :
    moved (.granted owner got :: ledger) stream =
      if owner = stream then moved ledger stream - got else moved ledger stream := by
  unfold moved
  simp only [streamIncrements, grantedOn]
  split
  · rw [Int.add_comm, ← Int.sub_sub, Int32.ofInt_sub, Int32.ofInt_toInt]
  · rw [Int.zero_add]

theorem moved_increment (ledger : List Entry) (owner stream : Nat) (inc : Int32) :
    moved (.streamIncrement owner inc :: ledger) stream =
      if owner = stream then moved ledger stream + inc else moved ledger stream := by
  unfold moved
  simp only [streamIncrements, grantedOn]
  split
  · rw [Int.add_sub_assoc, Int.add_comm, Int32.ofInt_add, Int32.ofInt_toInt]
  · rw [Int.zero_add]

theorem reserve_window {sc credit : SendCredit} {streamWindow want got window : Int32}
    {dead : Bool}
    (returned : Flow.reserve sc streamWindow want = .returned got dead credit window) :
    window = streamWindow - got ∧ credit.peerInitWindow = sc.peerInitWindow := by
  rcases reserve_cases returned with ⟨rfl, rfl, rfl, -⟩ | ⟨-, -, -, -, -, rfl, rfl⟩
  · exact ⟨by simp, rfl⟩
  · exact ⟨rfl, rfl⟩

/-- The initial window a stream has been given so far: one that the pending
delta will reach still has the old value, one that it will miss must have the
new one already. -/
def State.due (s : State) (object : Nat) : Int32 :=
  match s.reader with
  | .applying newSize windows =>
      if object ∈ windows then s.credit.peerInitWindow else newSize
  | _ => s.credit.peerInitWindow

/-- Of the registered objects, `object` alone is the stream's. -/
def State.Owns (s : State) (object stream : Nat) : Prop :=
  ∀ other ∈ activeStreamWindows s, s.number other = stream ↔ other = object

/-- A stream that is credited is one that was opened, and its object, if it is
still registered, is still its own. -/
def State.Reading (s : State) : Reader → Prop
  | .between => True
  | .applying _ windows => windows.Nodup
  | .crediting object stream _ => stream ≤ s.opened ∧ s.Owns object stream

/-- Numbers are given once. -/
structure Numbered (s : State) : Prop where
  given : ∀ object, s.number object ≤ s.opened
  apart : ∀ object other, s.number object = s.number other → s.number object ≠ 0 → object = other
  named : ∀ object ∈ activeStreamWindows s, s.number object ≠ 0

structure Valid (s : State) : Prop extends Numbered s where
  unique : (activeStreamWindows s).Nodup
  held : ∀ object ∈ activeStreamWindows s, s.holder object = .here
  unused : ∀ stream, s.opened < stream → moved s.ledger stream = 0
  reading : s.Reading s.reader
  level : ∀ object ∈ activeStreamWindows s,
    s.window object = s.due object + moved s.ledger (s.number object)

theorem valid_new : Valid State.new := by
  constructor
  · constructor <;> simp [State.new, activeStreamWindows]
  · exact List.nodup_nil
  · simp [State.new, activeStreamWindows]
  · exact fun _ _ => rfl
  · trivial
  · simp [State.new, activeStreamWindows]

theorem owns_number {s : State} (numbered : Numbered s) (object : Nat) :
    s.Owns object (s.number object) := by
  intro other member
  refine ⟨fun same => ?_, fun same => by rw [same]⟩
  exact numbered.apart other object same (numbered.named other member)

/-- One window moves and the ledger says by how much. -/
theorem valid_moved {s : State} (valid : Valid s) {object stream : Nat} (old : stream ≤ s.opened)
    (owns : s.Owns object stream) {window : Int32} {entry : Entry} {credit : SendCredit}
    {reader : Reader}
    (sameDue : ∀ other, ({ s with credit := credit, reader := reader }).due other = s.due other)
    (reading : s.Reading reader)
    (here : window - s.window object = moved (entry :: s.ledger) stream - moved s.ledger stream)
    (others : ∀ other, stream ≠ other → moved (entry :: s.ledger) other = moved s.ledger other) :
    Valid { s with
      credit := credit
      window := Function.update s.window object window
      reader := reader
      ledger := entry :: s.ledger } := by
  constructor
  · exact ⟨valid.given, valid.apart, valid.named⟩
  · exact valid.unique
  · exact valid.held
  · intro other beyond
    have ne : stream ≠ other := Nat.ne_of_lt (Nat.lt_of_le_of_lt old beyond)
    exact (others other ne).trans (valid.unused other beyond)
  · cases reader <;> exact reading
  · intro other member
    have level := valid.level other member
    have due : State.due { s with
        credit := credit
        window := Function.update s.window object window
        reader := reader
        ledger := entry :: s.ledger } other = s.due other := sameDue other
    rw [due]
    by_cases same : other = object
    · subst same
      have mine : s.number other = stream := (owns other member).mpr rfl
      simp only [Function.update_self, mine] at level ⊢
      grind
    · have notMine : stream ≠ s.number other := fun mine =>
        same ((owns other member).mp mine.symm)
      simp only [Function.update_of_ne same, others _ notMine, level]

/-- What is registered after `openStream` was registered before, or is new. -/
theorem mem_opened {s : State} {id object other : Nat}
    (member : other ∈ ((id, object) :: s.streams.filter (·.1 ≠ id)).map Prod.snd) :
    other = object ∨ other ∈ activeStreamWindows s := by
  rcases List.mem_cons.mp member with new | old
  · exact Or.inl new
  · obtain ⟨entry, remains, rfl⟩ := List.mem_map.mp old
    exact Or.inr (List.mem_map_of_mem (List.mem_filter.mp remains).1)

/-- An object from the pool at the head of the registry, in place of what had its
id. -/
theorem valid_opened {s : State} (valid : Valid s) (initialWindow : Int32) {object : Nat}
    (pooled : s.holder object = .pool)
    (current : s.draining = false → s.saturated = false →
      initialWindow = s.target ∧ object ∉ s.reader.pointers) :
    Valid (openStream s initialWindow object) := by
  unfold openStream
  split
  · exact valid
  split
  · exact valid
  rename_i serving room
  obtain ⟨fits, unheld⟩ := current (by simpa using serving) (by simpa using room)
  have fresh : object ∉ activeStreamWindows s := by
    intro member
    rw [valid.held object member] at pooled
    cases pooled
  have apart : ∀ {other}, other ∈ activeStreamWindows s → other ≠ object := by
    rintro other member rfl
    exact fresh member
  constructor
  · constructor
    · intro other
      by_cases same : other = object
      · simp [same]
      · simpa [Function.update_of_ne same] using Nat.le_succ_of_le (valid.given other)
    · intro other third same named
      have bound := valid.given
      by_cases one : other = object <;> by_cases two : third = object
      · rw [one, two]
      · simp only [one, Function.update_self, Function.update_of_ne two] at same
        have := bound third
        omega
      · simp only [two, Function.update_self, Function.update_of_ne one] at same
        have := bound other
        omega
      · simp only [Function.update_of_ne one, Function.update_of_ne two] at same named
        exact valid.apart other third same named
    · intro other member
      rcases mem_opened member with rfl | old
      · simp
      · simpa [Function.update_of_ne (apart old)] using valid.named other old
  · refine List.nodup_cons.mpr ⟨fun old => ?_, ?_⟩
    · obtain ⟨entry, remains, rfl : entry.2 = object⟩ := List.mem_map.mp old
      exact fresh (List.mem_map_of_mem (List.mem_filter.mp remains).1)
    · exact valid.unique.sublist (List.filter_sublist.map Prod.snd)
  · intro other member
    rcases mem_opened member with rfl | old
    · simp
    · simpa [Function.update_of_ne (apart old)] using valid.held other old
  · exact fun stream beyond => valid.unused stream (Nat.lt_of_succ_lt beyond)
  · have reading := valid.reading
    cases reader : s.reader with
    | between => trivial
    | applying newSize windows =>
        rw [reader] at reading
        exact reading
    | crediting credited stream inc =>
        rw [reader] at reading unheld
        obtain ⟨old, owns⟩ := reading
        have other : object ≠ credited := by simpa [Reader.pointers] using unheld
        refine ⟨Nat.le_succ_of_le old, fun third member => ?_⟩
        rcases mem_opened member with rfl | there
        · simp only [Function.update_self, other, iff_false]
          omega
        · simpa [Function.update_of_ne (apart there)] using owns third there
  · intro other member
    rcases mem_opened member with rfl | old
    · -- the snapshot does not hold the object, so the pending delta misses it
      have due : s.due other = initialWindow := by
        rw [fits]
        unfold State.due State.target
        cases reader : s.reader with
        | applying newSize windows =>
            rw [reader] at unheld
            exact if_neg unheld
        | _ => rfl
      change Function.update s.window other initialWindow other =
        s.due other + moved s.ledger (Function.update s.number other (s.opened + 1) other)
      rw [Function.update_self, Function.update_self, due,
        valid.unused _ (Nat.lt_succ_self _), Int32.add_zero]
    · change Function.update s.window object initialWindow other =
        s.due other + moved s.ledger (Function.update s.number object (s.opened + 1) other)
      rw [Function.update_of_ne (apart old), Function.update_of_ne (apart old)]
      exact valid.level other old

theorem valid_snapshot {s : State} (valid : Valid s) (between : s.reader = .between)
    (newSize : Int32) :
    Valid { s with reader := .applying newSize (activeStreamWindows s) } := by
  constructor
  · exact ⟨valid.given, valid.apart, valid.named⟩
  · exact valid.unique
  · exact valid.held
  · exact valid.unused
  · exact valid.unique
  · intro object member
    have taken : object ∈ activeStreamWindows s := member
    have level := valid.level object taken
    unfold State.due at level ⊢
    rw [between] at level
    simpa only [if_pos taken] using level

theorem valid_applied {s : State} (valid : Valid s) {newSize : Int32} {windows : List Nat}
    (applying : s.reader = .applying newSize windows) :
    Valid { s with
      credit := (applyInitialWindowDelta s.credit newSize s.window windows).1
      window := (applyInitialWindowDelta s.credit newSize s.window windows).2
      reader := .between } := by
  have reading := valid.reading
  rw [applying] at reading
  constructor
  · exact ⟨valid.given, valid.apart, valid.named⟩
  · exact valid.unique
  · exact valid.held
  · exact valid.unused
  · trivial
  · intro object member
    have level := valid.level object member
    unfold State.due at level
    rw [applying] at level
    simp only [State.due, applied_credit, applied_window _ _ _ _ reading]
    by_cases taken : object ∈ windows
    · simp only [taken, ↓reduceIte] at level ⊢
      grind
    · simp only [taken, ↓reduceIte] at level ⊢
      exact level

theorem reading_removed {s : State} {reader : Reader} {streams : List (Nat × Nat)}
    (fewer : ∀ object ∈ streams.map Prod.snd, object ∈ activeStreamWindows s)
    (reading : s.Reading reader) : State.Reading { s with streams := streams } reader := by
  cases reader with
  | between => trivial
  | applying newSize windows => exact reading
  | crediting object stream inc =>
      exact ⟨reading.1, fun other member => reading.2 other (fewer other member)⟩

theorem valid_removed {s : State} (valid : Valid s) (id : Nat) :
    Valid { s with streams := s.streams.filter (·.1 ≠ id) } := by
  have sublist : List.Sublist ((s.streams.filter (·.1 ≠ id)).map Prod.snd)
      (activeStreamWindows s) := List.filter_sublist.map Prod.snd
  constructor
  · exact ⟨valid.given, valid.apart, fun object member =>
      valid.named object (sublist.subset member)⟩
  · exact valid.unique.sublist sublist
  · exact fun object member => valid.held object (sublist.subset member)
  · exact valid.unused
  · exact reading_removed (fun object member => sublist.subset member) valid.reading
  · exact fun object member => valid.level object (sublist.subset member)

/-- An object that is not registered changes hands, or its window changes. -/
theorem valid_unregistered {s : State} (valid : Valid s) {object : Nat}
    (gone : object ∉ activeStreamWindows s) (holder : Holder) (lent : List Nat) (window : Int32) :
    Valid { s with
      window := Function.update s.window object window
      holder := Function.update s.holder object holder
      lent := lent } := by
  have apart : ∀ {other}, other ∈ activeStreamWindows s → other ≠ object := by
    rintro other member rfl
    exact gone member
  constructor
  · exact ⟨valid.given, valid.apart, valid.named⟩
  · exact valid.unique
  · intro other member
    simpa [Function.update_of_ne (apart member)] using valid.held other member
  · exact valid.unused
  · have reading := valid.reading
    cases reader : s.reader <;> rw [reader] at reading <;> exact reading
  · intro other member
    have level := valid.level other member
    simp only [Function.update_of_ne (apart member)]
    exact level

theorem valid_lookup {s : State} (valid : Valid s) (between : s.reader = .between)
    (object : Nat) (inc : Int32) :
    Valid { s with reader := .crediting object (s.number object) inc } := by
  constructor
  · exact ⟨valid.given, valid.apart, valid.named⟩
  · exact valid.unique
  · exact valid.held
  · exact valid.unused
  · exact ⟨valid.given object, owns_number valid.toNumbered object⟩
  · intro other member
    have level := valid.level other member
    unfold State.due at level ⊢
    rwa [between] at level

theorem valid_credited {s : State} (valid : Valid s) {object stream : Nat} {inc : Int32}
    (crediting : s.reader = .crediting object stream inc) :
    Valid { s with
      window := Function.update s.window object (Flow.addStream (s.window object) inc)
      reader := .between
      ledger := .streamIncrement stream inc :: s.ledger } := by
  have reading := valid.reading
  rw [crediting] at reading
  apply valid_moved valid reading.1 reading.2
  · intro other
    simp only [State.due, crediting]
  · trivial
  · rw [moved_increment, if_pos rfl, Flow.addStream]
    grind
  · intro other ne
    rw [moved_increment, if_neg ne]

theorem valid_reserved {s : State} (valid : Valid s) {object : Nat}
    {want got window : Int32} {dead : Bool} {credit : SendCredit}
    (returned : reserve s.credit (s.window object) want = .returned got dead credit window) :
    Valid { s with
      credit := credit
      window := Function.update s.window object window
      ledger := .granted (s.number object) got :: s.ledger } := by
  obtain ⟨rfl, sameInit⟩ := reserve_window returned
  apply valid_moved valid (valid.given object) (owns_number valid.toNumbered object)
  · intro other
    simp only [State.due, sameInit]
  · exact valid.reading
  · rw [moved_granted, if_pos rfl]
    grind
  · intro other ne
    rw [moved_granted, if_neg ne]

/-- A step that leaves the registry, the windows and the reader alone. -/
theorem valid_kept {s next : State} (valid : Valid s)
    (same : (next.window, next.holder, next.number, next.opened) =
      (s.window, s.holder, s.number, s.opened))
    (streams : next.streams = s.streams) (reader : next.reader = s.reader)
    (init : next.credit.peerInitWindow = s.credit.peerInitWindow)
    (ledger : ∀ stream, moved next.ledger stream = moved s.ledger stream) : Valid next := by
  simp only [Prod.mk.injEq] at same
  obtain ⟨window, holder, number, opened⟩ := same
  have active : activeStreamWindows next = activeStreamWindows s := by
    rw [activeStreamWindows, streams, activeStreamWindows]
  constructor
  · constructor
    · rw [number, opened]
      exact valid.given
    · rw [number]
      exact valid.apart
    · rw [number, active]
      exact valid.named
  · rw [active]
    exact valid.unique
  · rw [active, holder]
    exact valid.held
  · intro stream beyond
    rw [ledger]
    exact valid.unused stream (opened ▸ beyond)
  · have reading := valid.reading
    rw [reader]
    cases here : s.reader with
    | between => trivial
    | applying newSize windows =>
        rw [here] at reading
        exact reading
    | crediting object stream inc =>
        rw [here] at reading
        exact ⟨opened ▸ reading.1, fun other member => by
          rw [number]
          exact reading.2 other (active ▸ member)⟩
  · intro object member
    have level := valid.level object (active ▸ member)
    unfold State.due at level ⊢
    rw [reader, init, window, number, ledger]
    exact level

theorem step_valid {s next : State} {action : Action} (valid : Valid s) (current : Current s action)
    (stepped : step s action = some next) : Valid next := by
  cases action with
  | readInitialWindow | deregisterStream id | beginDrain | setPeerMaxStreams val | markDead =>
      cases stepped
      exact valid_kept valid rfl rfl rfl rfl fun _ => rfl
  | openStream call object =>
      obtain ⟨pooled, stepped⟩ := Option.ite_none_right_eq_some.mp stepped
      obtain ⟨value, read, rfl⟩ := Option.map_eq_some_iff.mp stepped
      have opened : Valid (openStream s value object) := by
        refine valid_opened valid value pooled fun serving room => ?_
        obtain ⟨target, unheld⟩ := current serving room
        exact ⟨Option.some.inj (read.symm.trans target), unheld⟩
      exact valid_kept opened rfl rfl rfl rfl fun _ => rfl
  | removeStream id =>
      cases stepped
      exact valid_removed valid id
  | release object =>
      obtain ⟨⟨-, gone⟩, rfl⟩ := enabled stepped
      have moved := valid_unregistered valid gone .pool s.lent (s.window object)
      rwa [Function.update_eq_self] at moved
  | borrow object =>
      obtain ⟨pooled, rfl⟩ := enabled stepped
      have gone : object ∉ activeStreamWindows s := fun member => by
        rw [valid.held object member] at pooled
        cases pooled
      have moved := valid_unregistered valid gone .elsewhere (object :: s.lent) (s.window object)
      rwa [Function.update_eq_self] at moved
  | giveBack object =>
      obtain ⟨away, rfl⟩ := enabled stepped
      have gone : object ∉ activeStreamWindows s := fun member => by
        rw [valid.held object member] at away
        cases away
      have moved := valid_unregistered valid gone .pool s.lent (s.window object)
      rwa [Function.update_eq_self] at moved
  | writeElsewhere object window =>
      obtain ⟨-, rfl⟩ := enabled stepped
      have moved := valid_unregistered valid current (s.holder object) s.lent window
      rwa [Function.update_eq_self] at moved
  | snapshotWindows val =>
      obtain ⟨⟨between, -⟩, rfl⟩ := enabled stepped
      exact valid_snapshot valid between _
  | applyDelta =>
      simp only [step] at stepped
      split at stepped
      · rename_i newSize windows applying
        cases stepped
        exact valid_applied valid applying
      · cases stepped
  | lookupStream id inc =>
      simp only [step] at stepped
      split at stepped
      · rename_i between
        split at stepped
        · cases stepped
          exact valid
        · cases stepped
          exact valid_lookup valid between _ _
      · cases stepped
  | addStream =>
      simp only [step] at stepped
      split at stepped
      · rename_i object stream inc crediting
        cases stepped
        exact valid_credited valid crediting
      · cases stepped
  | addConn inc =>
      obtain ⟨-, rfl⟩ := enabled stepped
      exact valid_kept valid rfl rfl rfl rfl fun _ => rfl
  | reserve object want =>
      simp only [step] at stepped
      split at stepped
      · split at stepped
        · cases stepped
        · rename_i got dead credit window returned
          cases stepped
          exact valid_reserved valid returned
      · cases stepped

theorem accurate_of_valid {s : State} (valid : Valid s) (between : s.reader = .between) :
    Accurate s := by
  intro id object registered
  have level := valid.level object (List.mem_map_of_mem registered)
  rw [State.due, between] at level
  rw [level, Int32.toInt_add, moved, Int32.toInt_ofInt, exactWindow, Int.add_sub_assoc]
  exact Int.add_bmod_bmod

theorem initial_window_follows_while_current (trace : List Action) (last : State)
    (current : Guarded step Current State.new trace)
    (ran : run step State.new trace = some last) (between : last.reader = .between) :
    Accurate last ∧ ∀ id object, (id, object) ∈ last.streams →
      Representable (exactWindow last (last.number object)) →
        (last.window object).toInt = exactWindow last (last.number object) := by
  have valid : Valid last :=
    run_invariant (fun _ _ _ valid fresh stepped => step_valid valid fresh stepped) valid_new
      current ran
  have accurate := accurate_of_valid valid between
  refine ⟨accurate, fun id object registered fits => ?_⟩
  rw [accurate id object registered, bmod_of_representable fits]

/-- A stream opened before a change and one opened after it, with the first
request's body and a WINDOW_UPDATE on the way; then a third one in the object of
the first. -/
def settledTrace : List Action :=
  [.readInitialWindow, .openStream 0 0, .reserve 0 5000, .snapshotWindows 131072, .reserve 0 1000,
    .applyDelta, .readInitialWindow, .openStream 0 1, .lookupStream 3 300, .addStream,
    .removeStream 1, .deregisterStream 1, .release 0, .readInitialWindow, .openStream 0 0,
    .reserve 0 2000]

theorem initial_window_follows_while_current_settled : ∃ last,
    run step State.new settledTrace = some last ∧ last.streams = [(5, 0), (3, 1)] ∧
      last.window 0 = 129072 ∧ last.window 1 = 131372 ∧ Accurate last := by
  refine ⟨_, rfl, rfl, by decide, by decide, ?_⟩
  exact (initial_window_follows_while_current settledTrace _ (by decide) rfl rfl).1

/-- The value is read, the peer shrinks the window, and only then is the stream
registered: it may send 65535 bytes where the peer allows 100. -/
def staleTrace : List Action :=
  [.readInitialWindow, .snapshotWindows 100, .applyDelta, .openStream 0 0]

theorem stale_window_registered :
    ¬ ∀ trace last, run step State.new trace = some last → last.reader = .between →
      Accurate last := by
  intro claim
  have accurate := claim staleTrace _ rfl rfl 1 0 (by decide)
  revert accurate
  decide

/-- The other schedule: registered with the old value after the snapshot, the
stream is missed by the delta. -/
example : ∃ last, run step State.new
      [.snapshotWindows 100, .readInitialWindow, .openStream 0 0, .applyDelta] = some last ∧
    last.reader = .between ∧ last.window 0 = 65535 ∧ exactWindow last 1 = 100 := by
  exact ⟨_, rfl, rfl, by decide, by decide⟩

/-- And a WINDOW_UPDATE for a stream that is gone, added to the one that has its
object now. -/
example : ∃ last, run step State.new
      [.readInitialWindow, .openStream 0 0, .lookupStream 1 300, .removeStream 1,
        .deregisterStream 1, .release 0, .readInitialWindow, .openStream 0 0, .addStream] =
      some last ∧
    last.reader = .between ∧ last.window 0 = 65835 ∧ exactWindow last 2 = 65535 := by
  exact ⟨_, rfl, rfl, by decide, by decide⟩

end ReverseHttp.InitialWindow
