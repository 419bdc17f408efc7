import ReverseHttp.HeaderBlocks

/-!
Requests on a worker connection: the frame loop of `serve`, the handler
goroutines it starts and the final GOAWAY. The loop body is `serveFrame` of
`HeaderBlocks`; `streams` is the stream registry, one entry for each `AddStream`
that has not been removed, and `delivered` lists what went through
`dispatchInboundHeaders`, oldest first.
-/

namespace ReverseHttp.Dispatch

open Transition Wire HeaderBlocks

/-- `serving` holds the id of each `serveStream` goroutine, `goAway` the
last-stream-id sent once the loop has returned. -/
structure State (Table : Type) where
  conn : Conn Table
  serving : List StreamID
  goAway : Option StreamID
  deriving DecidableEq

def State.new {Table : Type} (table : Table) : State Table := ⟨.new table, [], none⟩

inductive Action where
  | frame (frame : Frame)
  | handlerDone (id : StreamID)
  | teardown
  deriving DecidableEq

section Step

variable {Table : Type} (decode : Table → Bytes → Option (Table × List Field))
  (canon : String → String)

/-- `LastStreamID` when the loop fails on this frame: `StartHeaders` raises it
before it decodes. -/
def lastSeen (c : Conn Table) : Frame → StreamID
  | .headers id _ _ _ =>
      if c.contStreamID = 0 ∧ id ∉ c.streams then max c.lastStreamID id else c.lastStreamID
  | _ => c.lastStreamID

/-- The ids dispatched by one frame. -/
def started (before after : Conn Table) : List StreamID :=
  (after.delivered.drop before.delivered.length).map DecodedHeaders.streamID

def step (st : State Table) : Action → Option (State Table)
  | .frame frame =>
      if st.goAway = none ∧ Readable frame then
        match serveFrame decode canon .worker st.conn frame with
        | .ok next => some { st with conn := next, serving := st.serving ++ started st.conn next }
        | .error _ =>
            -- the deferred teardown sends the GOAWAY
            some { st with
              conn := { st.conn with lastStreamID := lastSeen st.conn frame }
              goAway := some (lastSeen st.conn frame) }
      else none
  | .handlerDone id =>
      if id ∈ st.serving then
        some { st with
          conn := { st.conn with streams := st.conn.streams.filter (· ≠ id) }
          serving := st.serving.erase id }
      else none
  | .teardown =>
      if st.goAway = none then some { st with goAway := some st.conn.lastStreamID } else none

end Step

variable {Table : Type}

def dispatched (st : State Table) : List StreamID := st.conn.delivered.map DecodedHeaders.streamID

/-- A HEADERS frame on a stream that is not registered has a new highest id. -/
def Fresh (st : State Table) : Action → Prop
  | .frame (.headers id _ _ _) => id ∉ st.conn.streams → st.conn.lastStreamID < id
  | _ => True

instance (st : State Table) (action : Action) : Decidable (Fresh st action) := by
  unfold Fresh
  split <;> infer_instance

section Loop

variable {decode : Table → Bytes → Option (Table × List Field)} {canon : String → String}

/-- Everything one frame can do to the registry and the dispatched requests. -/
inductive Served (c next : Conn Table) : Frame → Prop where
  | quiet (frame : Frame) (streams : next.streams = c.streams)
      (delivered : next.delivered = c.delivered) (last : next.lastStreamID = c.lastStreamID)
      (cont : next.contStreamID = c.contStreamID) : Served c next frame
  | opened (id : StreamID) (fragment : Bytes) (endStream : Bool) (idle : c.contStreamID = 0)
      (unregistered : id ∉ c.streams) (streams : next.streams = c.streams)
      (delivered : next.delivered = c.delivered) (last : next.lastStreamID = max c.lastStreamID id)
      (cont : next.contStreamID = id) : Served c next (.headers id fragment false endStream)
  | whole (id : StreamID) (fragment : Bytes) (endStream : Bool) (decoded : DecodedHeaders)
      (idle : c.contStreamID = 0) (unregistered : id ∉ c.streams) (named : decoded.streamID = id)
      (streams : next.streams = id :: c.streams)
      (delivered : next.delivered = c.delivered ++ [decoded])
      (last : next.lastStreamID = max c.lastStreamID id) (cont : next.contStreamID = 0) :
      Served c next (.headers id fragment true endStream)
  | completed (fragment : Bytes) (decoded : DecodedHeaders) (busy : c.contStreamID ≠ 0)
      (named : decoded.streamID = c.contStreamID)
      (streams : next.streams = c.contStreamID :: c.streams)
      (delivered : next.delivered = c.delivered ++ [decoded])
      (last : next.lastStreamID = c.lastStreamID) (cont : next.contStreamID = 0) :
      Served c next (.continuation c.contStreamID fragment true)

theorem emitted_streamID (canon : String → String) (fields : List Field) (out : DecodedHeaders) :
    (fields.foldl (emitHeader canon) out).streamID = out.streamID := by
  induction fields generalizing out with
  | nil => rfl
  | cons field rest ih =>
      rw [List.foldl_cons, ih]
      unfold emitHeader
      repeat' split
      all_goals rfl

/-- A decoded block belongs to the stream it was received on. -/
theorem decodeBlock_served {c next : Conn Table} {id : StreamID} {block : Bytes} {ended : Bool}
    {decoded : DecodedHeaders}
    (ok : decodeBlock decode canon c id block ended = .ok (next, decoded)) :
    decoded.streamID = id ∧ next.streams = c.streams ∧ next.delivered = c.delivered ∧
      next.lastStreamID = c.lastStreamID ∧ next.contStreamID = c.contStreamID := by
  have named : decoded.streamID = id := by
    unfold decodeBlock at ok
    split at ok
    · simp at ok
    · simp only [Except.ok.injEq, Prod.mk.injEq] at ok
      rw [← ok.2, emitted_streamID]
  obtain ⟨table, fields, -, rfl⟩ := decodeBlock_ok ok
  exact ⟨named, rfl, rfl, rfl, rfl⟩

theorem headers_served {c : Conn Table} {id : StreamID} {fragment : Bytes}
    {endHeaders endStream : Bool} {outcome : Conn Table × Option DecodedHeaders}
    (idle : c.contStreamID = 0) (unregistered : id ∉ c.streams)
    (begun : startHeaders decode canon c id fragment endHeaders endStream = .ok outcome) :
    Served c (complete .worker outcome) (.headers id fragment endHeaders endStream) := by
  obtain ⟨after, decoded⟩ := outcome
  cases endHeaders with
  | false =>
      simp only [startHeaders, Bool.false_eq_true, ↓reduceIte, Except.ok.injEq, Prod.mk.injEq]
        at begun
      obtain ⟨rfl, rfl⟩ := begun
      exact .opened id fragment endStream idle unregistered rfl rfl rfl rfl
  | true =>
      obtain ⟨⟨middle, block⟩, whole, same⟩ := map_ok begun
      obtain ⟨rfl, rfl⟩ := Prod.mk.inj same
      obtain ⟨named, streams, delivered, last, cont⟩ := decodeBlock_served whole
      refine .whole id fragment endStream block idle unregistered named ?_ ?_ last ?_
      · simp [complete, dispatchInboundHeaders, named, streams]
      · simp [complete, dispatchInboundHeaders, delivered]
      · simp [complete, dispatchInboundHeaders, cont, idle]

theorem continuation_served {c : Conn Table} {fragment : Bytes} {endHeaders : Bool}
    {outcome : Conn Table × Option DecodedHeaders} (busy : c.contStreamID ≠ 0)
    (consumed : consumeContinuation decode canon c fragment endHeaders = .ok outcome) :
    Served c (complete .worker outcome) (.continuation c.contStreamID fragment endHeaders) := by
  obtain ⟨after, decoded⟩ := outcome
  unfold consumeContinuation at consumed
  split at consumed
  · simp at consumed
  cases endHeaders with
  | false =>
      simp only [Bool.not_false, ↓reduceIte, Except.ok.injEq, Prod.mk.injEq] at consumed
      obtain ⟨rfl, rfl⟩ := consumed
      exact .quiet _ rfl rfl rfl rfl
  | true =>
      obtain ⟨⟨middle, block⟩, whole, same⟩ := map_ok consumed
      obtain ⟨rfl, rfl⟩ := Prod.mk.inj same
      obtain ⟨named, streams, delivered, last, cont⟩ := decodeBlock_served whole
      refine .completed fragment block busy named ?_ ?_ last ?_
      · simp [complete, dispatchInboundHeaders, named, streams]
      · simp [complete, dispatchInboundHeaders, delivered]
      · simp [complete, dispatchInboundHeaders, cont]

theorem serveFrame_served {c next : Conn Table} {frame : Frame}
    (ok : serveFrame decode canon .worker c frame = .ok next) : Served c next frame := by
  cases serveFrame_serving ok with
  | continued fragment endHeaders outcome busy consumed =>
      exact continuation_served busy consumed
  | started id fragment endHeaders endStream outcome idle fresh begun =>
      exact headers_served idle (fresh rfl) begun
  | dropped | ignored => exact .quiet _ rfl rfl rfl rfl

/-! What holds in every run. -/

structure Valid (st : State Table) : Prop where
  registered : st.conn.streams.Nodup
  vacant : st.conn.contStreamID ≠ 0 → st.conn.contStreamID ∉ st.conn.streams
  below : ∀ id ∈ dispatched st, id ≤ st.conn.lastStreamID
  pending : st.conn.contStreamID ≤ st.conn.lastStreamID
  goAway : ∀ last, st.goAway = some last → last = st.conn.lastStreamID

theorem valid_new (table : Table) : Valid (State.new table) := by
  constructor <;> simp [State.new, Conn.new, dispatched]

theorem dispatched_snoc {c next : Conn Table} {decoded : DecodedHeaders}
    (delivered : next.delivered = c.delivered ++ [decoded]) :
    next.delivered.map DecodedHeaders.streamID =
      c.delivered.map DecodedHeaders.streamID ++ [decoded.streamID] := by
  simp [delivered]

theorem served_valid {st : State Table} {next : Conn Table} {frame : Frame}
    {serving : List StreamID} (valid : Valid st) (going : st.goAway = none)
    (served : Served st.conn next frame) : Valid { st with conn := next, serving := serving } := by
  have reported : ∀ last, st.goAway = some last → last = next.lastStreamID := by
    intro last sent
    rw [going] at sent
    cases sent
  have pending := valid.pending
  cases served with
  | quiet frame streams delivered last cont =>
      refine ⟨?_, ?_, ?_, ?_, reported⟩
      · exact streams ▸ valid.registered
      · simpa only [cont, streams] using valid.vacant
      · simpa only [dispatched, delivered, last] using valid.below
      · simpa only [cont, last] using valid.pending
  | opened id fragment endStream idle unregistered streams delivered last cont =>
      refine ⟨?_, ?_, ?_, ?_, reported⟩
      · exact streams ▸ valid.registered
      · intro _
        simpa only [cont, streams] using unregistered
      · intro other member
        simp only [dispatched, delivered] at member
        exact (valid.below other member).trans (last ▸ Nat.le_max_left _ _)
      · simp only [cont, last]
        exact Nat.le_max_right _ _
  | whole id fragment endStream decoded idle unregistered named streams delivered last cont =>
      refine ⟨?_, fun busy => absurd cont busy, ?_, ?_, reported⟩
      · simp only [streams]
        exact List.nodup_cons.mpr ⟨unregistered, valid.registered⟩
      · intro other member
        simp only [dispatched, dispatched_snoc delivered, List.mem_append, List.mem_singleton,
          named] at member
        simp only [last]
        rcases member with old | rfl
        · exact (valid.below other old).trans (Nat.le_max_left _ _)
        · exact Nat.le_max_right _ _
      · simp [cont]
  | completed fragment decoded busy named streams delivered last cont =>
      refine ⟨?_, fun still => absurd cont still, ?_, ?_, reported⟩
      · simp only [streams]
        exact List.nodup_cons.mpr ⟨valid.vacant busy, valid.registered⟩
      · intro other member
        simp only [dispatched, dispatched_snoc delivered, List.mem_append, List.mem_singleton,
          named] at member
        simp only [last]
        rcases member with old | rfl
        · exact valid.below other old
        · exact valid.pending
      · simp [cont]

theorem lastSeen_le (c : Conn Table) (frame : Frame) : c.lastStreamID ≤ lastSeen c frame := by
  unfold lastSeen
  split
  · split
    · exact Nat.le_max_left _ _
    · exact Nat.le_refl _
  · exact Nat.le_refl _

theorem step_valid {st next : State Table} {action : Action} (valid : Valid st)
    (stepped : step decode canon st action = some next) : Valid next := by
  cases action with
  | frame frame =>
      simp only [step] at stepped
      split at stepped
      · rename_i running
        split at stepped
        · rename_i after served
          obtain rfl := Option.some.inj stepped
          exact served_valid valid running.1 (serveFrame_served served)
        · obtain rfl := Option.some.inj stepped
          have grown := lastSeen_le st.conn frame
          refine ⟨valid.registered, valid.vacant, ?_, valid.pending.trans grown, ?_⟩
          · exact fun id member => (valid.below id member).trans grown
          · exact fun last sent => (Option.some.inj sent).symm
      · cases stepped
  | handlerDone id =>
      obtain ⟨-, rfl⟩ := enabled stepped
      refine ⟨valid.registered.filter _, ?_, valid.below, valid.pending, valid.goAway⟩
      intro busy member
      exact valid.vacant busy (List.mem_filter.mp member).1
  | teardown =>
      obtain ⟨-, rfl⟩ := enabled stepped
      refine ⟨valid.registered, valid.vacant, valid.below, valid.pending, ?_⟩
      exact fun last sent => (Option.some.inj sent).symm

/-! And with fresh ids. -/

structure Increasing (st : State Table) : Prop where
  valid : Valid st
  sorted : (dispatched st).Pairwise (· < ·)
  pending : st.conn.contStreamID ≠ 0 → ∀ id ∈ dispatched st, id < st.conn.contStreamID

theorem served_increasing {st : State Table} {next : Conn Table} {frame : Frame}
    {serving : List StreamID} (increasing : Increasing st) (going : st.goAway = none)
    (fresh : Fresh st (.frame frame)) (served : Served st.conn next frame) :
    Increasing { st with conn := next, serving := serving } := by
  have valid : Valid { st with conn := next, serving := serving } :=
    served_valid increasing.valid going served
  cases served with
  | quiet frame streams delivered last cont =>
      refine ⟨valid, ?_, ?_⟩
      · simpa only [dispatched, delivered] using increasing.sorted
      · simpa only [dispatched, delivered, cont] using increasing.pending
  | opened id fragment endStream idle unregistered streams delivered last cont =>
      refine ⟨valid, ?_, ?_⟩
      · simpa only [dispatched, delivered] using increasing.sorted
      · intro _ other member
        simp only [dispatched, delivered] at member
        simp only [cont]
        exact Nat.lt_of_le_of_lt (increasing.valid.below other member) (fresh unregistered)
  | whole id fragment endStream decoded idle unregistered named streams delivered last cont =>
      refine ⟨valid, ?_, fun busy => absurd cont busy⟩
      simp only [dispatched, dispatched_snoc delivered]
      refine List.pairwise_append.mpr ⟨increasing.sorted, List.pairwise_singleton _ _, ?_⟩
      intro other member new single
      rw [List.mem_singleton.mp single, named]
      exact Nat.lt_of_le_of_lt (increasing.valid.below other member) (fresh unregistered)
  | completed fragment decoded busy named streams delivered last cont =>
      refine ⟨valid, ?_, fun still => absurd cont still⟩
      simp only [dispatched, dispatched_snoc delivered]
      refine List.pairwise_append.mpr ⟨increasing.sorted, List.pairwise_singleton _ _, ?_⟩
      intro other member new single
      rw [List.mem_singleton.mp single, named]
      exact increasing.pending busy other member

theorem step_increasing {st next : State Table} {action : Action}
    (increasing : Increasing st) (fresh : Fresh st action)
    (stepped : step decode canon st action = some next) : Increasing next := by
  have valid := step_valid increasing.valid stepped
  cases action with
  | frame frame =>
      simp only [step] at stepped
      split at stepped
      · rename_i running
        split at stepped
        · rename_i after served
          obtain rfl := Option.some.inj stepped
          exact served_increasing increasing running.1 fresh (serveFrame_served served)
        · obtain rfl := Option.some.inj stepped
          exact ⟨valid, increasing.sorted, increasing.pending⟩
      · cases stepped
  | handlerDone id | teardown =>
      obtain ⟨-, rfl⟩ := enabled stepped
      exact ⟨valid, increasing.sorted, increasing.pending⟩

end Loop

theorem dispatched_at_most_once (decode : Table → Bytes → Option (Table × List Field))
    (canon : String → String) (start : Table) (trace : List Action) (last : State Table)
    (ran : run (step decode canon) (State.new start) trace = some last) :
    last.conn.streams.Nodup ∧
      (∀ id, last.goAway = some id → ∀ other ∈ dispatched last, other ≤ id) ∧
      (Guarded (step decode canon) Fresh (State.new start) trace →
        (dispatched last).Pairwise (· < ·)) := by
  have valid : Valid last := run_invariant_all
    (fun _ _ _ valid stepped => step_valid valid stepped) (valid_new start) ran
  refine ⟨valid.registered, ?_, ?_⟩
  · intro id sent other member
    rw [valid.goAway id sent]
    exact valid.below other member
  · intro fresh
    have begun : Increasing (State.new start) :=
      ⟨valid_new start, List.Pairwise.nil, fun busy => absurd rfl busy⟩
    exact (run_invariant (fun _ _ _ increasing fresh stepped =>
      step_increasing increasing fresh stepped) begun fresh ran).sorted

/-- A decoder for which every block holds the same request. -/
def sameRequest (table : Unit) (_ : Bytes) : Option (Unit × List Field) :=
  some (table, [⟨":method", "GET"⟩, ⟨":path", "/"⟩])

def splitRequests : List Action :=
  [.frame (.headers 1 [130] true true), .frame (.headers 3 [130] false false),
    .handlerDone 1, .frame (.continuation 3 [132] true), .frame (.headers 3 [130] true true),
    .frame (.headers 7 [130, 132] true true), .handlerDone 3, .frame (.goAway 0 1)]

theorem dispatched_at_most_once_split : ∃ last,
    run (step sameRequest id) (State.new ()) splitRequests = some last ∧
      dispatched last = [1, 3, 7] ∧ last.goAway = some 7 ∧ last.conn.streams.Nodup ∧
      (dispatched last).Pairwise (· < ·) := by
  have computed : (run (step sameRequest id) (State.new ()) splitRequests).map
      (fun last => (dispatched last, last.goAway)) = some ([1, 3, 7], some 7) := by
    decide +kernel
  obtain ⟨last, ran, ends⟩ := Option.map_eq_some_iff.mp computed
  obtain ⟨ids, sent⟩ := Prod.mk.inj ends
  have fresh : Guarded (step sameRequest id) Fresh (State.new ()) splitRequests := by
    decide +kernel
  obtain ⟨registered, -, increasing⟩ :=
    dispatched_at_most_once sameRequest id () splitRequests last ran
  exact ⟨last, ran, ids, sent, registered, increasing fresh⟩

/-- Once the handler of a request has returned, a second HEADERS frame with its
id is a new request. -/
theorem finished_id_dispatched_again : ¬ ∀ trace last,
    run (step sameRequest id) (State.new ()) trace = some last → (dispatched last).Nodup := by
  intro claim
  have computed : (run (step sameRequest id) (State.new ())
      [.frame (.headers 1 [130] true true), .handlerDone 1,
        .frame (.headers 1 [130] true true)]).map dispatched = some [1, 1] := by
    decide +kernel
  obtain ⟨last, ran, twice⟩ := Option.map_eq_some_iff.mp computed
  have once := claim _ last ran
  rw [twice] at once
  exact absurd once (by decide)

end ReverseHttp.Dispatch
