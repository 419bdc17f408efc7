import ReverseHttp.Transition
import ReverseHttp.Wire
import Mathlib.Data.Finset.Card
import Mathlib.Order.Interval.Finset.Nat

/-!
The two stream registries of a proxy tunnel. `openStream` runs under
`Worker.streamsMu` and is cut at each of its statements; meanwhile clean-ups of
other forwards may take ids out of `Conn.streams`, which has a lock of its own,
SETTINGS may change the limit and a GOAWAY may start the drain. Registries are
the sets of their keys.

Ghost: `before` and `cleaned` are the registries when the mutex was taken and
the ids cleaned up since; `issued`, `submitted` and `failed` record
`NextStreamID`, the HEADERS handed to the writer and the rolled-back ids;
`calls` what each finished `openStream` did.
-/

namespace ReverseHttp.StreamRegistry

open Transition
open Wire (noStreamLimit nextID)

/-- Program points of `openStream`. -/
inductive Point where
  | entered
  | draining
  | notDraining
  | saturated
  | admitted
  | numbered
  | added
  | registered
  | opened
  | failed
  | deleted
  | removed
  deriving DecidableEq, Repr

/-- `limit` and `id` are the values the call has read, from `admitted` and
`numbered` on. -/
structure Holder where
  point : Point
  limit : Nat
  id : Nat
  deriving DecidableEq, Repr

structure Registries where
  streams : Finset Nat
  conn : Finset Nat
  nextStreamID : Nat
  deriving DecidableEq

inductive Outcome where
  | opened (limit id : Nat)
  | refused
  | failed (id : Nat)
  deriving DecidableEq, Repr

structure Call where
  outcome : Outcome
  before : Registries
  cleaned : Finset Nat
  after : Registries
  deriving DecidableEq

/-- `forwards` have not begun their clean-up; `leaving` are between
`RemoveStream` and `deregisterStream`. -/
structure State where
  now : Registries
  peerMaxStreams : Nat
  drained : Bool
  holder : Option Holder
  forwards : Finset Nat
  leaving : Finset Nat
  before : Registries
  cleaned : Finset Nat
  issued : List Nat
  submitted : List Nat
  failed : Finset Nat
  calls : List Call

def Registries.empty : Registries := ⟨∅, ∅, 0⟩

def State.new : State :=
  { now := Registries.empty
    peerMaxStreams := noStreamLimit
    drained := false
    holder := none
    forwards := ∅
    leaving := ∅
    before := Registries.empty
    cleaned := ∅
    issued := []
    submitted := []
    failed := ∅
    calls := [] }

inductive Action where
  | lock
  | testDraining
  | testSaturated
  | nextStreamID
  | addStream
  | register
  | sendHeaders (submitted ok : Bool)
  | deleteStream
  | rollBack
  | unlock
  | removeStream (id : Nat)
  | deregisterStream (id : Nat)
  | setPeerMaxStreams (limit : Nat)
  | beginDrain
  deriving DecidableEq, Repr

def uint32 (n : Nat) : Nat := n % 4294967296

def Holder.outcome (h : Holder) : Option Outcome :=
  match h.point with
  | .draining | .saturated => some .refused
  | .opened => some (.opened h.limit h.id)
  | .removed => some (.failed h.id)
  | _ => none

/-- The holder of the mutex, if it stands at `point`. -/
def State.holding (st : State) (point : Point) : Option Holder :=
  st.holder.filter (·.point = point)

def State.move (st : State) (h : Holder) (point : Point) : State :=
  { st with holder := some { h with point := point } }

def step (st : State) : Action → Option State
  | .lock =>
      if st.holder = none then
        some { st with holder := some ⟨.entered, 0, 0⟩, before := st.now, cleaned := ∅ }
      else none
  | .testDraining =>
      (st.holding .entered).map fun h => st.move h (if st.drained then .draining else .notDraining)
  | .testSaturated =>
      (st.holding .notDraining).map fun h =>
        if st.peerMaxStreams ≤ uint32 st.now.streams.card then st.move h .saturated
        else st.move { h with limit := st.peerMaxStreams } .admitted
  | .nextStreamID =>
      (st.holding .admitted).map fun h =>
        let id := nextID st.now.nextStreamID
        { st.move { h with id := id } .numbered with
          now := { st.now with nextStreamID := id }
          issued := st.issued ++ [id] }
  | .addStream =>
      (st.holding .numbered).map fun h =>
        { st.move h .added with now := { st.now with conn := insert h.id st.now.conn } }
  | .register =>
      (st.holding .added).map fun h =>
        { st.move h .registered with now := { st.now with streams := insert h.id st.now.streams } }
  -- an error may come before the intent is queued or from the writer
  | .sendHeaders submitted ok =>
      if ok = true → submitted = true then
        (st.holding .registered).map fun h =>
          { st.move h (if ok then .opened else .failed) with
            submitted := if submitted then st.submitted ++ [h.id] else st.submitted }
      else none
  -- the roll-back leaves the registries in this order
  | .deleteStream =>
      (st.holding .failed).map fun h =>
        { st.move h .deleted with now := { st.now with streams := st.now.streams.erase h.id } }
  | .rollBack =>
      (st.holding .deleted).map fun h =>
        { st.move h .removed with
          now := { st.now with conn := st.now.conn.erase h.id }
          failed := insert h.id st.failed }
  | .unlock =>
      st.holder.bind fun h => h.outcome.map fun outcome =>
        { st with
          holder := none
          forwards := if h.point = .opened then insert h.id st.forwards else st.forwards
          calls := st.calls ++ [⟨outcome, st.before, st.cleaned, st.now⟩] }
  -- a forward's clean-up: `Conn.streams` first, without `streamsMu`
  | .removeStream id =>
      if id ∈ st.forwards then
        some { st with
          now := { st.now with conn := st.now.conn.erase id }
          forwards := st.forwards.erase id
          leaving := insert id st.leaving
          cleaned := insert id st.cleaned }
      else none
  | .deregisterStream id =>
      if id ∈ st.leaving ∧ st.holder = none then
        some { st with
          now := { st.now with streams := st.now.streams.erase id }
          leaving := st.leaving.erase id }
      else none
  | .setPeerMaxStreams limit => some { st with peerMaxStreams := uint32 limit }
  | .beginDrain => some { st with drained := true }

/-- The id counter stays below its wrap-around. -/
def BelowWrap (st : State) : Action → Prop
  | .nextStreamID => st.now.nextStreamID + 2 < 4294967296
  | _ => True

instance (st : State) (action : Action) : Decidable (BelowWrap st action) := by
  unfold BelowWrap
  split <;> infer_instance

/-- What a finished `openStream` may have done, clean-ups of other calls apart. -/
def Call.Sound (call : Call) : Prop :=
  match call.outcome with
  | .opened limit id =>
      call.after.streams = insert id call.before.streams ∧ call.after.streams.card ≤ limit
  | .refused =>
      call.after.streams = call.before.streams ∧
        call.after.conn = call.before.conn \ call.cleaned ∧
        call.after.nextStreamID = call.before.nextStreamID
  | .failed id =>
      call.after.streams = call.before.streams ∧
        call.after.conn = call.before.conn \ call.cleaned ∧
        id ∉ call.before.streams ∧ id ∉ call.before.conn

structure Consistent (st : State) : Prop where
  calls : ∀ call ∈ st.calls, call.Sound
  streams : ∀ id ∈ st.now.streams, id ∈ st.issued
  conn : ∀ id ∈ st.now.conn, id ∈ st.issued
  nested : st.holder = none → st.now.conn ⊆ st.now.streams
  once : st.issued.Pairwise (· < ·)
  order : st.submitted.Sublist st.issued
  failed : ∀ id ∈ st.failed, id ∈ st.issued ∧ id ∉ st.now.streams ∧ id ∉ st.now.conn

/-! What the holder of the mutex has done so far, by its program point. -/

def Point.limited : Point → Bool
  | .entered | .draining | .notDraining | .saturated => false
  | _ => true

def Point.hasID : Point → Bool
  | .entered | .draining | .notDraining | .saturated | .admitted => false
  | _ => true

def Point.inConn : Point → Bool
  | .added | .registered | .opened | .failed | .deleted => true
  | _ => false

def Point.inStreams : Point → Bool
  | .registered | .opened | .failed => true
  | _ => false

/-- An id has been issued whose HEADERS have not been submitted. -/
def Point.unsent : Point → Bool
  | .numbered | .added | .registered => true
  | _ => false

/-- Under the mutex the registries are those at entry, less what was cleaned up,
plus the id of the call. -/
structure Locked (st : State) (h : Holder) : Prop where
  streams : st.now.streams =
    if h.point.inStreams then insert h.id st.before.streams else st.before.streams
  conn : st.now.conn =
    if h.point.inConn then insert h.id (st.before.conn \ st.cleaned)
    else st.before.conn \ st.cleaned
  nested : st.before.conn ⊆ st.before.streams
  counter : h.point.hasID = false → st.now.nextStreamID = st.before.nextStreamID
  room : h.point.limited = true → st.before.streams.card < h.limit
  issued : h.point.hasID = true → h.id ∈ st.issued
  fresh : h.point.hasID = true → h.id ∉ st.before.streams ∧ h.id ∉ st.before.conn
  unowned : h.point.hasID = true → h.id ∉ st.forwards ∧ h.id ∉ st.leaving
  unfailed : h.point.hasID = true → h.point ≠ .removed → h.id ∉ st.failed
  unsent : h.point.unsent = true → ∃ front, st.issued = front ++ [h.id] ∧
    st.submitted.Sublist front

structure Valid (st : State) : Prop where
  consistent : Consistent st
  counter : st.now.nextStreamID < 4294967296
  bounds : ∀ id ∈ st.issued, 1 ≤ id ∧ id ≤ st.now.nextStreamID
  forwards : ∀ id ∈ st.forwards, id ∈ st.issued
  leaving : ∀ id ∈ st.leaving, id ∈ st.issued ∧ id ∉ st.now.conn
  locked : ∀ h, st.holder = some h → Locked st h

theorem valid_new : Valid State.new := by
  refine ⟨⟨?_, ?_, ?_, ?_, ?_, ?_, ?_⟩, ?_, ?_, ?_, ?_, ?_⟩ <;>
    simp [State.new, Registries.empty]

/-- With at most one key per id the conversion of `len` to `uint32` is exact. -/
theorem streams_card {st : State} (valid : Valid st) :
    uint32 st.now.streams.card = st.now.streams.card := by
  have within : st.now.streams ⊆ Finset.Icc 1 st.now.nextStreamID := by
    intro id member
    exact Finset.mem_Icc.mpr (valid.bounds id (valid.consistent.streams id member))
  have few := Finset.card_le_card within
  rw [Nat.card_Icc] at few
  have := valid.counter
  exact Nat.mod_eq_of_lt (by omega)

theorem holding_eq {st : State} {point : Point} {h : Holder} (held : st.holding point = some h) :
    st.holder = some h ∧ h.point = point := by
  have := Option.filter_eq_some_iff.mp held
  exact ⟨this.1, by simpa using this.2⟩

/-- `NextStreamID` below the wrap-around: a new id above all the others. -/
theorem nextID_fresh {st : State} (valid : Valid st)
    (below : st.now.nextStreamID + 2 < 4294967296) :
    1 ≤ nextID st.now.nextStreamID ∧ nextID st.now.nextStreamID < 4294967296 ∧
      st.now.nextStreamID ≤ nextID st.now.nextStreamID ∧
      ∀ id ∈ st.issued, id < nextID st.now.nextStreamID := by
  have above : 1 ≤ nextID st.now.nextStreamID ∧ nextID st.now.nextStreamID < 4294967296 ∧
      st.now.nextStreamID < nextID st.now.nextStreamID := by
    unfold nextID
    split
    · omega
    · rw [Nat.mod_eq_of_lt below]
      omega
  refine ⟨above.1, above.2.1, Nat.le_of_lt above.2.2, ?_⟩
  intro id member
  exact Nat.lt_of_le_of_lt (valid.bounds id member).2 above.2.2

/-- A step of the holder that touches nothing but its own program point. -/
theorem move_valid {st : State} (valid : Valid st) {moved : Holder} (locked : Locked st moved) :
    Valid { st with holder := some moved } := by
  have same := valid.consistent
  refine ⟨⟨same.calls, same.streams, same.conn, nofun, same.once, same.order, same.failed⟩,
    valid.counter, valid.bounds, valid.forwards, valid.leaving, ?_⟩
  rintro _ ⟨⟩
  exact ⟨locked.streams, locked.conn, locked.nested, locked.counter, locked.room, locked.issued,
    locked.fresh, locked.unowned, locked.unfailed, locked.unsent⟩

theorem lock_valid {st next : State} (valid : Valid st) (stepped : step st .lock = some next) :
    Valid next := by
  obtain ⟨free, rfl⟩ := enabled stepped
  have same := valid.consistent
  refine ⟨⟨same.calls, same.streams, same.conn, nofun, same.once, same.order, same.failed⟩,
    valid.counter, valid.bounds, valid.forwards, valid.leaving, ?_⟩
  rintro _ ⟨⟩
  exact ⟨rfl, Finset.sdiff_empty.symm, same.nested free, fun _ => rfl, nofun, nofun, nofun, nofun,
    nofun, nofun⟩

theorem testDraining_valid {st next : State} (valid : Valid st)
    (stepped : step st .testDraining = some next) : Valid next := by
  obtain ⟨⟨point, limit, id⟩, held, rfl⟩ := Option.map_eq_some_iff.mp stepped
  obtain ⟨holder, rfl⟩ := holding_eq held
  have locked := valid.locked _ holder
  apply move_valid valid
  cases st.drained <;> exact ⟨locked.streams, locked.conn, locked.nested, locked.counter, nofun,
    nofun, nofun, nofun, nofun, nofun⟩

theorem testSaturated_valid {st next : State} (valid : Valid st)
    (stepped : step st .testSaturated = some next) : Valid next := by
  obtain ⟨⟨point, limit, id⟩, held, rfl⟩ := Option.map_eq_some_iff.mp stepped
  obtain ⟨holder, rfl⟩ := holding_eq held
  have locked := valid.locked _ holder
  split
  · exact move_valid valid ⟨locked.streams, locked.conn, locked.nested, locked.counter, nofun,
      nofun, nofun, nofun, nofun, nofun⟩
  · rename_i space
    rw [streams_card valid] at space
    have same : st.now.streams = st.before.streams := locked.streams
    refine move_valid valid ⟨locked.streams, locked.conn, locked.nested, locked.counter, ?_,
      nofun, nofun, nofun, nofun, nofun⟩
    intro _
    rw [same] at space
    exact Nat.lt_of_not_le space

theorem nextStreamID_valid {st next : State} (valid : Valid st)
    (below : BelowWrap st .nextStreamID) (stepped : step st .nextStreamID = some next) :
    Valid next := by
  obtain ⟨⟨point, limit, id⟩, held, rfl⟩ := Option.map_eq_some_iff.mp stepped
  obtain ⟨holder, rfl⟩ := holding_eq held
  have locked := valid.locked _ holder
  have same := valid.consistent
  obtain ⟨positive, small, grown, above⟩ := nextID_fresh valid below
  have absent : nextID st.now.nextStreamID ∉ st.issued :=
    fun member => Nat.lt_irrefl _ (above _ member)
  have kept : ∀ {k}, k ∈ st.issued → k ∈ st.issued ++ [nextID st.now.nextStreamID] :=
    fun member => List.mem_append_left _ member
  have last : nextID st.now.nextStreamID ∈ st.issued ++ [nextID st.now.nextStreamID] := by simp
  constructor
  · constructor
    · exact same.calls
    · exact fun k member => kept (same.streams k member)
    · exact fun k member => kept (same.conn k member)
    · exact nofun
    · apply List.pairwise_append.mpr
      refine ⟨same.once, List.pairwise_singleton _ _, ?_⟩
      intro k member other single
      rw [List.mem_singleton.mp single]
      exact above k member
    · exact same.order.trans (List.sublist_append_left _ _)
    · exact fun k member => ⟨kept (same.failed k member).1, (same.failed k member).2⟩
  · exact small
  · intro k member
    rcases List.mem_append.mp member with old | new
    · exact ⟨(valid.bounds k old).1, Nat.le_of_lt (above k old)⟩
    · rw [List.mem_singleton.mp new]
      exact ⟨positive, Nat.le_refl _⟩
  · exact fun k member => kept (valid.forwards k member)
  · exact fun k member => ⟨kept (valid.leaving k member).1, (valid.leaving k member).2⟩
  · rintro _ ⟨⟩
    constructor
    · exact locked.streams
    · exact locked.conn
    · exact locked.nested
    · exact nofun
    · exact locked.room
    · exact fun _ => last
    · intro _
      have old : ∀ k ∈ st.before.streams, k ∈ st.issued := by
        intro k member
        have unchanged : st.now.streams = st.before.streams := locked.streams
        exact same.streams k (unchanged ▸ member)
      exact ⟨fun member => absent (old _ member),
        fun member => absent (old _ (locked.nested member))⟩
    · exact fun _ => ⟨fun owned => absent (valid.forwards _ owned),
        fun owned => absent (valid.leaving _ owned).1⟩
    · exact fun _ _ failed => absent (same.failed _ failed).1
    · exact fun _ => ⟨st.issued, rfl, same.order⟩

theorem addStream_valid {st next : State} (valid : Valid st)
    (stepped : step st .addStream = some next) : Valid next := by
  obtain ⟨⟨point, limit, id⟩, held, rfl⟩ := Option.map_eq_some_iff.mp stepped
  obtain ⟨holder, rfl⟩ := holding_eq held
  have locked := valid.locked _ holder
  have same := valid.consistent
  constructor
  · refine ⟨same.calls, same.streams, ?_, nofun, same.once, same.order, ?_⟩
    · intro k member
      rcases Finset.mem_insert.mp member with rfl | old
      · exact locked.issued rfl
      · exact same.conn k old
    · intro k failed
      obtain ⟨issued, out, off⟩ := same.failed k failed
      refine ⟨issued, out, ?_⟩
      rw [Finset.mem_insert, not_or]
      exact ⟨fun own => locked.unfailed rfl nofun (own ▸ failed), off⟩
  · exact valid.counter
  · exact valid.bounds
  · exact valid.forwards
  · intro k leaving
    refine ⟨(valid.leaving k leaving).1, ?_⟩
    rw [Finset.mem_insert, not_or]
    exact ⟨fun own => (locked.unowned rfl).2 (own ▸ leaving), (valid.leaving k leaving).2⟩
  · rintro _ ⟨⟩
    exact ⟨locked.streams, congrArg (insert id) locked.conn, locked.nested, nofun, locked.room,
      locked.issued, locked.fresh, locked.unowned, fun _ _ => locked.unfailed rfl nofun,
      locked.unsent⟩

theorem register_valid {st next : State} (valid : Valid st)
    (stepped : step st .register = some next) : Valid next := by
  obtain ⟨⟨point, limit, id⟩, held, rfl⟩ := Option.map_eq_some_iff.mp stepped
  obtain ⟨holder, rfl⟩ := holding_eq held
  have locked := valid.locked _ holder
  have same := valid.consistent
  constructor
  · refine ⟨same.calls, ?_, same.conn, nofun, same.once, same.order, ?_⟩
    · intro k member
      rcases Finset.mem_insert.mp member with rfl | old
      · exact locked.issued rfl
      · exact same.streams k old
    · intro k failed
      obtain ⟨issued, out, off⟩ := same.failed k failed
      refine ⟨issued, ?_, off⟩
      rw [Finset.mem_insert, not_or]
      exact ⟨fun own => locked.unfailed rfl nofun (own ▸ failed), out⟩
  · exact valid.counter
  · exact valid.bounds
  · exact valid.forwards
  · exact valid.leaving
  · rintro _ ⟨⟩
    exact ⟨congrArg (insert id) locked.streams, locked.conn, locked.nested, nofun, locked.room,
      locked.issued, locked.fresh, locked.unowned, fun _ _ => locked.unfailed rfl nofun,
      locked.unsent⟩

theorem sendHeaders_valid {st next : State} (valid : Valid st) {submitted ok : Bool}
    (stepped : step st (.sendHeaders submitted ok) = some next) : Valid next := by
  simp only [step] at stepped
  split at stepped
  case isFalse => cases stepped
  obtain ⟨⟨point, limit, id⟩, held, rfl⟩ := Option.map_eq_some_iff.mp stepped
  obtain ⟨holder, rfl⟩ := holding_eq held
  have locked := valid.locked _ holder
  have same := valid.consistent
  obtain ⟨front, last, earlier⟩ := locked.unsent rfl
  have order : (if submitted = true then st.submitted ++ [id] else st.submitted).Sublist
      st.issued := by
    split
    · rw [last]
      exact earlier.append (List.Sublist.refl _)
    · exact same.order
  refine ⟨⟨same.calls, same.streams, same.conn, nofun, same.once, order, same.failed⟩,
    valid.counter, valid.bounds, valid.forwards, valid.leaving, ?_⟩
  rintro _ ⟨⟩
  cases ok <;> exact ⟨locked.streams, locked.conn, locked.nested, nofun, locked.room,
    locked.issued, locked.fresh, locked.unowned, fun _ _ => locked.unfailed rfl nofun, nofun⟩

theorem deleteStream_valid {st next : State} (valid : Valid st)
    (stepped : step st .deleteStream = some next) : Valid next := by
  obtain ⟨⟨point, limit, id⟩, held, rfl⟩ := Option.map_eq_some_iff.mp stepped
  obtain ⟨holder, rfl⟩ := holding_eq held
  have locked := valid.locked _ holder
  have same := valid.consistent
  have restored : st.now.streams.erase id = st.before.streams := by
    rw [locked.streams]
    exact Finset.erase_insert (locked.fresh rfl).1
  constructor
  · refine ⟨same.calls, ?_, same.conn, nofun, same.once, same.order, ?_⟩
    · exact fun k member => same.streams k (Finset.mem_of_mem_erase member)
    · intro k failed
      obtain ⟨issued, out, off⟩ := same.failed k failed
      exact ⟨issued, fun member => out (Finset.mem_of_mem_erase member), off⟩
  · exact valid.counter
  · exact valid.bounds
  · exact valid.forwards
  · exact valid.leaving
  · rintro _ ⟨⟩
    exact ⟨restored, locked.conn, locked.nested, nofun, locked.room, locked.issued, locked.fresh,
      locked.unowned, fun _ _ => locked.unfailed rfl nofun, nofun⟩

theorem rollBack_valid {st next : State} (valid : Valid st)
    (stepped : step st .rollBack = some next) : Valid next := by
  obtain ⟨⟨point, limit, id⟩, held, rfl⟩ := Option.map_eq_some_iff.mp stepped
  obtain ⟨holder, rfl⟩ := holding_eq held
  have locked := valid.locked _ holder
  have same := valid.consistent
  have streams : st.now.streams = st.before.streams := locked.streams
  have absent : id ∉ st.before.conn \ st.cleaned :=
    fun member => (locked.fresh rfl).2 (Finset.mem_sdiff.mp member).1
  have restored : st.now.conn.erase id = st.before.conn \ st.cleaned := by
    rw [locked.conn]
    exact Finset.erase_insert absent
  constructor
  · refine ⟨same.calls, same.streams, ?_, nofun, same.once, same.order, ?_⟩
    · exact fun k member => same.conn k (Finset.mem_of_mem_erase member)
    · intro k failed
      rcases Finset.mem_insert.mp failed with rfl | old
      · exact ⟨locked.issued rfl, streams ▸ (locked.fresh rfl).1, Finset.notMem_erase _ _⟩
      · obtain ⟨issued, out, off⟩ := same.failed k old
        exact ⟨issued, out, fun member => off (Finset.mem_of_mem_erase member)⟩
  · exact valid.counter
  · exact valid.bounds
  · exact valid.forwards
  · intro k leaving
    obtain ⟨issued, off⟩ := valid.leaving k leaving
    exact ⟨issued, fun member => off (Finset.mem_of_mem_erase member)⟩
  · rintro _ ⟨⟩
    exact ⟨locked.streams, restored, locked.nested, nofun, locked.room, locked.issued,
      locked.fresh, locked.unowned, fun _ stays => absurd rfl stays, nofun⟩

/-- The call returns what its record says, and the registries nest again. -/
theorem outcome_sound {st : State} {h : Holder} (locked : Locked st h) {outcome : Outcome}
    (done : h.outcome = some outcome) :
    Call.Sound ⟨outcome, st.before, st.cleaned, st.now⟩ ∧ st.now.conn ⊆ st.now.streams := by
  obtain ⟨point, limit, id⟩ := h
  have less : st.before.conn \ st.cleaned ⊆ st.before.streams :=
    Finset.Subset.trans Finset.sdiff_subset locked.nested
  cases point with
  | draining =>
      cases done
      refine ⟨⟨locked.streams, locked.conn, locked.counter rfl⟩, ?_⟩
      rw [locked.streams, locked.conn]
      exact less
  | saturated =>
      cases done
      refine ⟨⟨locked.streams, locked.conn, locked.counter rfl⟩, ?_⟩
      rw [locked.streams, locked.conn]
      exact less
  | opened =>
      cases done
      have streams : st.now.streams = insert id st.before.streams := locked.streams
      refine ⟨⟨streams, ?_⟩, ?_⟩
      · have room := locked.room rfl
        simp only [] at room
        rw [streams, Finset.card_insert_of_notMem (locked.fresh rfl).1]
        exact room
      · rw [locked.streams, locked.conn]
        exact Finset.insert_subset_insert id less
  | removed =>
      cases done
      refine ⟨⟨locked.streams, locked.conn, locked.fresh rfl⟩, ?_⟩
      rw [locked.streams, locked.conn]
      exact less
  | _ => cases done

theorem unlock_valid {st next : State} (valid : Valid st) (stepped : step st .unlock = some next) :
    Valid next := by
  obtain ⟨h, holder, ended⟩ := Option.bind_eq_some_iff.mp stepped
  obtain ⟨outcome, done, rfl⟩ := Option.map_eq_some_iff.mp ended
  have locked := valid.locked h holder
  have same := valid.consistent
  obtain ⟨sound, nested⟩ := outcome_sound locked done
  constructor
  · refine ⟨?_, same.streams, same.conn, fun _ => nested, same.once, same.order, same.failed⟩
    intro call member
    rcases List.mem_append.mp member with old | new
    · exact same.calls call old
    · rw [List.mem_singleton.mp new]
      exact sound
  · exact valid.counter
  · exact valid.bounds
  · intro k member
    dsimp only at member
    split at member
    · rename_i opened
      rcases Finset.mem_insert.mp member with rfl | old
      · exact locked.issued (by rw [opened]; rfl)
      · exact valid.forwards k old
    · exact valid.forwards k member
  · exact valid.leaving
  · exact nofun

theorem removeStream_valid {st next : State} (valid : Valid st) {id : Nat}
    (stepped : step st (.removeStream id) = some next) : Valid next := by
  obtain ⟨owned, rfl⟩ := enabled stepped
  have same := valid.consistent
  have shrunk : ∀ {k}, k ∈ st.now.conn.erase id → k ∈ st.now.conn :=
    fun member => Finset.mem_of_mem_erase member
  constructor
  · refine ⟨same.calls, same.streams, fun k member => same.conn k (shrunk member), ?_, same.once,
      same.order, ?_⟩
    · exact fun free => Finset.Subset.trans (Finset.erase_subset id _) (same.nested free)
    · intro k failed
      obtain ⟨issued, out, off⟩ := same.failed k failed
      exact ⟨issued, out, fun member => off (shrunk member)⟩
  · exact valid.counter
  · exact valid.bounds
  · exact fun k member => valid.forwards k (Finset.mem_of_mem_erase member)
  · intro k leaving
    rcases Finset.mem_insert.mp leaving with rfl | old
    · exact ⟨valid.forwards k owned, Finset.notMem_erase k _⟩
    · obtain ⟨issued, off⟩ := valid.leaving k old
      exact ⟨issued, fun member => off (shrunk member)⟩
  · intro h holder
    have locked := valid.locked h holder
    have other : h.point.hasID = true → h.id ≠ id := by
      rintro numbered rfl
      exact (locked.unowned numbered).1 owned
    refine ⟨locked.streams, ?_, locked.nested, locked.counter, locked.room, locked.issued,
      locked.fresh, ?_, locked.unfailed, locked.unsent⟩
    · dsimp only
      rw [locked.conn, Finset.sdiff_insert]
      split
      · rename_i added
        have numbered : h.point.hasID = true := by
          cases point : h.point <;> simp_all [Point.inConn, Point.hasID]
        rw [Finset.erase_insert_of_ne (other numbered)]
      · rfl
    · intro numbered
      refine ⟨fun member => (locked.unowned numbered).1 (Finset.mem_of_mem_erase member), ?_⟩
      rw [Finset.mem_insert, not_or]
      exact ⟨other numbered, (locked.unowned numbered).2⟩

theorem deregisterStream_valid {st next : State} (valid : Valid st) {id : Nat}
    (stepped : step st (.deregisterStream id) = some next) : Valid next := by
  obtain ⟨⟨leaving, free⟩, rfl⟩ := enabled stepped
  have same := valid.consistent
  constructor
  · refine ⟨same.calls, ?_, same.conn, ?_, same.once, same.order, ?_⟩
    · exact fun k member => same.streams k (Finset.mem_of_mem_erase member)
    · intro _ k member
      refine Finset.mem_erase.mpr ⟨?_, same.nested free member⟩
      rintro rfl
      exact (valid.leaving k leaving).2 member
    · intro k failed
      obtain ⟨issued, out, off⟩ := same.failed k failed
      exact ⟨issued, fun member => out (Finset.mem_of_mem_erase member), off⟩
  · exact valid.counter
  · exact valid.bounds
  · exact valid.forwards
  · exact fun k member => valid.leaving k (Finset.mem_of_mem_erase member)
  · intro h holder
    exact absurd (free.symm.trans holder) (by simp)

theorem step_valid {st next : State} {action : Action} (valid : Valid st)
    (below : BelowWrap st action) (stepped : step st action = some next) : Valid next := by
  cases action with
  | lock => exact lock_valid valid stepped
  | testDraining => exact testDraining_valid valid stepped
  | testSaturated => exact testSaturated_valid valid stepped
  | nextStreamID => exact nextStreamID_valid valid below stepped
  | addStream => exact addStream_valid valid stepped
  | register => exact register_valid valid stepped
  | sendHeaders submitted ok => exact sendHeaders_valid valid stepped
  | deleteStream => exact deleteStream_valid valid stepped
  | rollBack => exact rollBack_valid valid stepped
  | unlock => exact unlock_valid valid stepped
  | removeStream id => exact removeStream_valid valid stepped
  | deregisterStream id => exact deregisterStream_valid valid stepped
  | setPeerMaxStreams limit | beginDrain =>
      cases stepped
      have same := valid.consistent
      refine ⟨⟨same.calls, same.streams, same.conn, same.nested, same.once, same.order,
        same.failed⟩, valid.counter, valid.bounds, valid.forwards, valid.leaving, ?_⟩
      intro h holder
      have locked := valid.locked h holder
      exact ⟨locked.streams, locked.conn, locked.nested, locked.counter, locked.room,
        locked.issued, locked.fresh, locked.unowned, locked.unfailed, locked.unsent⟩

/-- Over every run whose ids stay below the wrap-around, the limit is kept, a
refused or failed call leaves no trace, and the registries stay in step. -/
theorem registries_stay_consistent {trace : List Action} {last : State}
    (below : Guarded step BelowWrap State.new trace) (ran : run step State.new trace = some last) :
    Consistent last :=
  (run_invariant (fun _ _ _ valid below stepped => step_valid valid below stepped)
    valid_new below ran).consistent

/-- One call is admitted, the limit drops to 2, the next call's HEADERS fail while
the first forward cleans up, a third opens, a fourth is refused. -/
def shrinkingLimit : List Action :=
  [.lock, .testDraining, .testSaturated, .nextStreamID, .addStream, .register,
    .sendHeaders true true, .unlock, .setPeerMaxStreams 2,
    .lock, .testDraining, .testSaturated, .nextStreamID, .addStream, .removeStream 1, .register,
    .sendHeaders true false, .deleteStream, .rollBack, .unlock,
    .lock, .testDraining, .testSaturated, .nextStreamID, .addStream, .register,
    .sendHeaders true true, .unlock,
    .lock, .testDraining, .testSaturated, .unlock, .deregisterStream 1, .beginDrain,
    .lock, .testDraining, .unlock]

theorem registries_stay_consistent_shrinking :
    ∃ last, run step State.new shrinkingLimit = some last ∧
      Guarded step BelowWrap State.new shrinkingLimit ∧
      last.calls.map (·.outcome) =
        [.opened 4294967295 1, .failed 3, .opened 2 5, .refused, .refused] ∧
      Consistent last := by
  have ran : (run step State.new shrinkingLimit).map (·.calls.map (·.outcome)) =
      some [.opened 4294967295 1, .failed 3, .opened 2 5, .refused, .refused] := by
    decide
  obtain ⟨last, reached, outcomes⟩ := Option.map_eq_some_iff.mp ran
  have below : Guarded step BelowWrap State.new shrinkingLimit := by decide
  exact ⟨last, reached, below, outcomes, registries_stay_consistent below reached⟩

end ReverseHttp.StreamRegistry
