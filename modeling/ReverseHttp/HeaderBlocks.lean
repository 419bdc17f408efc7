import ReverseHttp.Transition
import ReverseHttp.NetHttp

/-!
Header blocks through the two frame loops, `serve` (worker) and `serveTunnel`
(proxy), once the peer's initial SETTINGS is in. HPACK itself is a parameter:
`decode` is `dec.Write` followed by `dec.Close` on one whole block, and `canon`
is the canonical form of a field name. `ReadFrame` never returns HEADERS or
PUSH_PROMISE on stream 0; its own check of the frame order is not assumed.

`frames`, `fed` and `lists` are ghost: the frames the loop accepted, the blocks
its decoder was given, and the field lists that came out.
-/

namespace ReverseHttp.HeaderBlocks

open Transition Wire NetHttp

structure Field where
  name : String
  value : String
  deriving DecidableEq

structure DecodedHeaders where
  header : Header
  method : String
  path : String
  authority : String
  status : String
  streamID : StreamID
  endStream : Bool
  deriving DecidableEq

def emitHeader (canon : String → String) (out : DecodedHeaders) (field : Field) :
    DecodedHeaders :=
  if field.name = ":method" then { out with method := field.value }
  else if field.name = ":path" then { out with path := field.value }
  else if field.name = ":authority" then { out with authority := field.value }
  else if field.name = ":status" then { out with status := field.value }
  else if field.name = ":scheme" then out
  else { out with header := out.header.add (canon field.name) field.value }

structure Conn (Table : Type) where
  table : Table
  lastStreamID : StreamID
  contStreamID : StreamID
  contStreamEnded : Bool
  contBlock : Bytes
  streams : List StreamID
  delivered : List DecodedHeaders
  orphans : List StreamID
  frames : List Frame
  fed : List Bytes
  lists : List (List Field)
  deriving DecidableEq

def Conn.new {Table : Type} (table : Table) : Conn Table :=
  { table := table
    lastStreamID := 0
    contStreamID := 0
    contStreamEnded := false
    contBlock := []
    streams := []
    delivered := []
    orphans := []
    frames := []
    fed := []
    lists := [] }

inductive Action where
  | frame (frame : Frame)
  | openStream (id : StreamID)
  | removeStream (id : StreamID)
  deriving DecidableEq

section Loop

variable {Table : Type} (decode : Table → Bytes → Option (Table × List Field))
  (canon : String → String)

def decodeBlock (c : Conn Table) (streamID : StreamID) (block : Bytes) (streamEnded : Bool) :
    Except H2Error (Conn Table × DecodedHeaders) :=
  match decode c.table block with
  | none => .error .hpackDecode
  | some (table, fields) =>
      .ok ({ c with table := table, fed := c.fed ++ [block], lists := c.lists ++ [fields] },
        fields.foldl (emitHeader canon) ⟨[], "", "", "", "", streamID, streamEnded⟩)

def startHeaders (c : Conn Table) (streamID : StreamID) (fragment : Bytes)
    (endHeaders endStream : Bool) : Except H2Error (Conn Table × Option DecodedHeaders) :=
  let c := { c with lastStreamID := max c.lastStreamID streamID }
  if endHeaders then
    (decodeBlock decode canon c streamID fragment endStream).map fun r => (r.1, some r.2)
  else
    .ok ({ c with
      contStreamID := streamID
      contStreamEnded := endStream
      contBlock := fragment }, none)

/-- The limit is on the compressed block, computed in `uint32`. -/
def consumeContinuation (c : Conn Table) (fragment : Bytes) (endHeaders : Bool) :
    Except H2Error (Conn Table × Option DecodedHeaders) :=
  if maxHeaderListSize < (c.contBlock.length + fragment.length) % 2 ^ 32 then
    .error .headerListTooLarge
  else
    let block := c.contBlock ++ fragment
    if !endHeaders then .ok ({ c with contBlock := block }, none)
    else
      (decodeBlock decode canon
        { c with contStreamID := 0, contStreamEnded := false, contBlock := [] }
        c.contStreamID block c.contStreamEnded).map fun r => (r.1, some r.2)

def dispatchInboundHeaders (c : Conn Table) (decoded : DecodedHeaders) : Conn Table :=
  { c with
    streams := decoded.streamID :: c.streams
    delivered := c.delivered ++ [decoded] }

/-- A block for a stream that is gone is decoded, then answered with a reset. -/
def deliverResponse (c : Conn Table) (decoded : DecodedHeaders) : Conn Table :=
  if decoded.streamID ∈ c.streams then { c with delivered := c.delivered ++ [decoded] }
  else { c with orphans := c.orphans ++ [decoded.streamID] }

def complete : Role → Conn Table × Option DecodedHeaders → Conn Table
  | _, (c, none) => c
  | .worker, (c, some decoded) => dispatchInboundHeaders c decoded
  | .proxy, (c, some decoded) => deliverResponse c decoded

/-- The checks of `ApplyPeerSettings`, in its order; each setting it rejects
ends the connection. -/
def settingError (s : Setting) : Option H2Error :=
  if s.id = settingMaxFrameSize then
    if s.val < 16384 ∨ 16777215 < s.val then some .badSettings else none
  else if s.id = settingInitialWindowSize then
    if 2 ^ 31 - 1 < s.val then some .badSettings else none
  else if s.id = settingEnablePush then
    if 1 < s.val then some .badSettings else none
  else none

/-- The cases both loops share. DATA, WINDOW_UPDATE, PING and RST_STREAM reach
streams and windows, none of which a header block goes through; PUSH_PROMISE has
no case of its own, and SETTINGS_ENABLE_PUSH is never sent. -/
def handleOther (c : Conn Table) : Frame → Except H2Error (Conn Table)
  | .settings ack values =>
      if ack then .ok c
      else
        match values.findSome? settingError with
        | some err => .error err
        | none => .ok c
  | .goAway _ code => if code ≠ errCodeNo then .error .goaway else .ok c
  | .headers .. | .continuation .. | .windowUpdate .. | .data .. | .ping .. | .rstStream ..
  | .pushPromise .. | .other .. => .ok c

def handleFrame (c : Conn Table) : Frame → Except H2Error (Conn Table)
  | .headers id fragment endHeaders endStream =>
      -- a second HEADERS on a live stream is dropped before its block is decoded
      if id ∈ c.streams then .ok c
      else
        (startHeaders decode canon c id fragment endHeaders endStream).map (complete .worker)
  | frame => handleOther c frame

def handleProxyFrame (c : Conn Table) : Frame → Except H2Error (Conn Table)
  | .headers id fragment endHeaders endStream =>
      (startHeaders decode canon c id fragment endHeaders endStream).map (complete .proxy)
  | frame => handleOther c frame

/-- One iteration of the loop body of `serve` and `serveTunnel`. -/
def serveFrame (role : Role) (c : Conn Table) (frame : Frame) : Except H2Error (Conn Table) :=
  if c.contStreamID ≠ 0 then
    match frame with
    | .continuation id fragment endHeaders =>
        if id ≠ c.contStreamID then .error .contInterleaved
        else (consumeContinuation decode canon c fragment endHeaders).map (complete role)
    | _ => .error .contInterleaved
  else
    match role with
    | .worker => handleFrame decode canon c frame
    | .proxy => handleProxyFrame decode canon c frame

def Readable : Frame → Prop
  | .headers id _ _ _ | .pushPromise id _ _ => id ≠ 0
  | _ => True

instance (frame : Frame) : Decidable (Readable frame) := by
  unfold Readable
  split <;> infer_instance

/-- A frame the loop survives, or a stream coming and going in between. -/
def step (role : Role) (c : Conn Table) : Action → Option (Conn Table)
  | .frame frame =>
      if Readable frame then
        match serveFrame decode canon role c frame with
        | .error _ => none
        | .ok next => some { next with frames := c.frames ++ [frame] }
      else none
  | .openStream id => some { c with streams := id :: c.streams }
  | .removeStream id => some { c with streams := c.streams.filter (· ≠ id) }

end Loop

/-! What the peer sent, read off its frames alone. -/

structure Sent where
  blocks : List Bytes
  unfinished : Option (StreamID × Bytes)
  deriving DecidableEq

def absorb (sent : Sent) : Frame → Sent
  | .headers _ fragment true _ | .pushPromise _ fragment true =>
      ⟨sent.blocks ++ [fragment], none⟩
  | .headers id fragment false _ | .pushPromise id fragment false =>
      { sent with unfinished := some (id, fragment) }
  | .continuation id fragment endHeaders =>
      match sent.unfinished with
      | none => sent
      | some (owner, block) =>
          if id ≠ owner then sent
          else if endHeaders then ⟨sent.blocks ++ [block ++ fragment], none⟩
          else { sent with unfinished := some (owner, block ++ fragment) }
  | _ => sent

def sent (frames : List Frame) : Sent := frames.foldl absorb ⟨[], none⟩

theorem sent_snoc (frames : List Frame) (frame : Frame) :
    sent (frames ++ [frame]) = absorb (sent frames) frame := by
  simp [sent]

section Hpack

variable {Table : Type} {decode : Table → Bytes → Option (Table × List Field)}
  {encodes : Table → List Field → Bytes → Table → Prop}

/-- The decoder over a sequence of blocks. -/
def feed (decode : Table → Bytes → Option (Table × List Field)) :
    Table → List Bytes → Option (Table × List (List Field))
  | table, [] => some (table, [])
  | table, block :: rest =>
      (decode table block).bind fun decoded =>
        (feed decode decoded.1 rest).map fun tail => (tail.1, decoded.2 :: tail.2)

/-- The peer's encoder over a sequence of field lists. -/
inductive Encoded (encodes : Table → List Field → Bytes → Table → Prop) :
    Table → List (List Field) → List Bytes → Table → Prop where
  | nil (table : Table) : Encoded encodes table [] [] table
  | cons {table next last : Table} {fields : List Field} {block : Bytes}
      {lists : List (List Field)} {blocks : List Bytes}
      (first : encodes table fields block next) (rest : Encoded encodes next lists blocks last) :
      Encoded encodes table (fields :: lists) (block :: blocks) last

theorem feed_snoc {blocks : List Bytes} {block : Bytes} {start table next : Table}
    {lists : List (List Field)} {fields : List Field}
    (before : feed decode start blocks = some (table, lists))
    (decoded : decode table block = some (next, fields)) :
    feed decode start (blocks ++ [block]) = some (next, lists ++ [fields]) := by
  induction blocks generalizing start lists with
  | nil =>
      obtain ⟨rfl, rfl⟩ : start = table ∧ [] = lists := by simpa [feed] using before
      simp [feed, decoded]
  | cons first rest ih =>
      simp only [feed, Option.bind_eq_some_iff, Option.map_eq_some_iff, Prod.mk.injEq] at before
      obtain ⟨step, opened, tail, fed, rfl, rfl⟩ := before
      simp [feed, opened, ih fed]

/-- Decoding what the peer encoded, block by block, reproduces its table. -/
theorem feed_encoded
    (hpack : ∀ table fields block next, encodes table fields block next →
      decode table block = some (next, fields))
    {start last : Table} {lists : List (List Field)} {blocks : List Bytes}
    (encoded : Encoded encodes start lists blocks last) :
    feed decode start blocks = some (last, lists) := by
  induction encoded with
  | nil table => rfl
  | cons first rest ih => simp [feed, hpack _ _ _ _ first, ih]

end Hpack

section Sync

variable {Table : Type} {decode : Table → Bytes → Option (Table × List Field)}
  {canon : String → String}

def unfinished (c : Conn Table) : Option (StreamID × Bytes) :=
  if c.contStreamID = 0 then none else some (c.contStreamID, c.contBlock)

/-- After these frames the decoder has been given every finished block, and
the accumulator holds the unfinished one. -/
structure Synced (decode : Table → Bytes → Option (Table × List Field)) (start : Table)
    (frames : List Frame) (c : Conn Table) : Prop where
  blocks : sent frames = ⟨c.fed, unfinished c⟩
  decoded : feed decode start c.fed = some (c.table, c.lists)

theorem synced_new (start : Table) : Synced decode start [] (Conn.new start) := ⟨rfl, rfl⟩

/-- The registry and what has been handed over are not part of the invariant. -/
theorem synced_complete {start : Table} {frames : List Frame} {c : Conn Table} (role : Role)
    (decoded : Option DecodedHeaders) (synced : Synced decode start frames c) :
    Synced decode start frames (complete role (c, decoded)) := by
  cases decoded with
  | none => exact synced
  | some decoded =>
      cases role with
      | worker => exact ⟨synced.blocks, synced.decoded⟩
      | proxy =>
          simp only [complete, deliverResponse]
          split <;> exact ⟨synced.blocks, synced.decoded⟩

/-- A decoded block is the next one fed, and nothing else changes. -/
theorem decodeBlock_ok {c next : Conn Table} {id : StreamID} {block : Bytes} {ended : Bool}
    {decoded : DecodedHeaders}
    (ok : decodeBlock decode canon c id block ended = .ok (next, decoded)) :
    ∃ table fields, decode c.table block = some (table, fields) ∧
      next = { c with table := table, fed := c.fed ++ [block], lists := c.lists ++ [fields] } := by
  unfold decodeBlock at ok
  split at ok
  · simp at ok
  · rename_i table fields found
    simp only [Except.ok.injEq, Prod.mk.injEq] at ok
    exact ⟨table, fields, found, ok.1.symm⟩

theorem decodeBlock_synced {start : Table} {frames : List Frame} {frame : Frame}
    {c next : Conn Table} {id : StreamID} {block : Bytes} {ended : Bool} {decoded : DecodedHeaders}
    (ok : decodeBlock decode canon c id block ended = .ok (next, decoded))
    (idle : c.contStreamID = 0) (history : feed decode start c.fed = some (c.table, c.lists))
    (finished : absorb (sent frames) frame = ⟨c.fed ++ [block], none⟩) :
    Synced decode start (frames ++ [frame]) next := by
  obtain ⟨table, fields, found, rfl⟩ := decodeBlock_ok ok
  constructor
  · simp [sent_snoc, finished, unfinished, idle]
  · exact feed_snoc history found

theorem map_ok {α β : Type} {f : α → β} {outcome : Except H2Error α} {result : β}
    (ok : outcome.map f = .ok result) : ∃ value, outcome = .ok value ∧ f value = result := by
  cases outcome with
  | error err => simp [Except.map] at ok
  | ok value => exact ⟨value, rfl, by simpa [Except.map] using ok⟩

theorem startHeaders_synced {start : Table} {frames : List Frame} {c next : Conn Table}
    {id : StreamID} {fragment : Bytes} {endHeaders endStream : Bool}
    {decoded : Option DecodedHeaders} (synced : Synced decode start frames c)
    (idle : c.contStreamID = 0) (named : id ≠ 0)
    (ok : startHeaders decode canon c id fragment endHeaders endStream = .ok (next, decoded)) :
    Synced decode start (frames ++ [.headers id fragment endHeaders endStream]) next := by
  have before : sent frames = ⟨c.fed, none⟩ := by
    rw [synced.blocks, unfinished, if_pos idle]
  cases endHeaders with
  | true =>
      obtain ⟨⟨after, decoded⟩, whole, same⟩ := map_ok ok
      obtain ⟨rfl, -⟩ := Prod.mk.inj same
      apply decodeBlock_synced whole idle synced.decoded
      simp [absorb, before]
  | false =>
      simp only [startHeaders, Bool.false_eq_true, ↓reduceIte, Except.ok.injEq,
        Prod.mk.injEq] at ok
      obtain ⟨rfl, -⟩ := ok
      constructor
      · simp [sent_snoc, absorb, before, unfinished, named]
      · exact synced.decoded

theorem consumeContinuation_synced {start : Table} {frames : List Frame} {c next : Conn Table}
    {fragment : Bytes} {endHeaders : Bool} {decoded : Option DecodedHeaders}
    (synced : Synced decode start frames c) (busy : c.contStreamID ≠ 0)
    (ok : consumeContinuation decode canon c fragment endHeaders = .ok (next, decoded)) :
    Synced decode start (frames ++ [.continuation c.contStreamID fragment endHeaders]) next := by
  have before : sent frames = ⟨c.fed, some (c.contStreamID, c.contBlock)⟩ := by
    rw [synced.blocks, unfinished, if_neg busy]
  unfold consumeContinuation at ok
  split at ok
  · simp at ok
  · cases endHeaders with
    | true =>
        obtain ⟨⟨after, decoded⟩, whole, same⟩ := map_ok ok
        obtain ⟨rfl, -⟩ := Prod.mk.inj same
        apply decodeBlock_synced whole rfl synced.decoded
        simp [absorb, before]
    | false =>
        simp only [Bool.not_false, ↓reduceIte, Except.ok.injEq, Prod.mk.injEq] at ok
        obtain ⟨rfl, -⟩ := ok
        constructor
        · simp [sent_snoc, absorb, before, unfinished, busy]
        · exact synced.decoded

theorem handleOther_same {c next : Conn Table} {frame : Frame}
    (ok : handleOther c frame = .ok next) : next = c := by
  cases frame <;> simp only [handleOther, Except.ok.injEq] at ok
  case settings ack values =>
    split at ok
    · exact (Except.ok.inj ok).symm
    · split at ok
      · simp at ok
      · exact (Except.ok.inj ok).symm
  case goAway id code =>
    split at ok
    · simp at ok
    · exact (Except.ok.inj ok).symm
  all_goals exact ok.symm

/-- A frame without a block leaves both sides alone; a stray CONTINUATION belongs
to none. -/
theorem handleOther_synced {start : Table} {frames : List Frame} {c next : Conn Table}
    {frame : Frame} (synced : Synced decode start frames c) (idle : c.contStreamID = 0)
    (notHeaders : ∀ id fragment endHeaders endStream,
      frame ≠ .headers id fragment endHeaders endStream)
    (unpromised : ∀ id fragment endHeaders, frame ≠ .pushPromise id fragment endHeaders)
    (ok : handleOther c frame = .ok next) :
    Synced decode start (frames ++ [frame]) next := by
  have same := handleOther_same ok
  have silent : absorb (sent frames) frame = sent frames := by
    cases frame with
    | headers id fragment endHeaders endStream => exact absurd rfl (notHeaders _ _ _ _)
    | pushPromise id fragment endHeaders => exact absurd rfl (unpromised _ _ _)
    | continuation id fragment endHeaders => simp [absorb, synced.blocks, unfinished, idle]
    | _ => rfl
  subst same
  exact ⟨by rw [sent_snoc, silent, synced.blocks], synced.decoded⟩

/-- The loop decodes the block that the frame starts: it is no PUSH_PROMISE, and a
worker has no such stream yet. -/
def Taken (role : Role) (c : Conn Table) : Action → Prop
  | .frame (.headers id _ _ _) => role = .worker → id ∉ c.streams
  | .frame (.pushPromise ..) => False
  | _ => True

instance (role : Role) (c : Conn Table) (action : Action) : Decidable (Taken role c action) := by
  unfold Taken
  split <;> infer_instance

/-- Everything the loop body does with a frame it survives. -/
inductive Serving (decode : Table → Bytes → Option (Table × List Field))
    (canon : String → String) (role : Role) (c : Conn Table) : Frame → Conn Table → Prop where
  | continued (fragment : Bytes) (endHeaders : Bool)
      (outcome : Conn Table × Option DecodedHeaders) (busy : c.contStreamID ≠ 0)
      (consumed : consumeContinuation decode canon c fragment endHeaders = .ok outcome) :
      Serving decode canon role c (.continuation c.contStreamID fragment endHeaders)
        (complete role outcome)
  | started (id : StreamID) (fragment : Bytes) (endHeaders endStream : Bool)
      (outcome : Conn Table × Option DecodedHeaders) (idle : c.contStreamID = 0)
      (fresh : role = .worker → id ∉ c.streams)
      (begun : startHeaders decode canon c id fragment endHeaders endStream = .ok outcome) :
      Serving decode canon role c (.headers id fragment endHeaders endStream)
        (complete role outcome)
  | dropped (id : StreamID) (fragment : Bytes) (endHeaders endStream : Bool)
      (idle : c.contStreamID = 0) (worker : role = .worker) (live : id ∈ c.streams) :
      Serving decode canon role c (.headers id fragment endHeaders endStream) c
  | ignored (frame : Frame) (idle : c.contStreamID = 0)
      (notHeaders : ∀ id fragment endHeaders endStream,
        frame ≠ .headers id fragment endHeaders endStream)
      (handled : handleOther c frame = .ok c) : Serving decode canon role c frame c

theorem serveFrame_serving {role : Role} {c next : Conn Table} {frame : Frame}
    (ok : serveFrame decode canon role c frame = .ok next) :
    Serving decode canon role c frame next := by
  unfold serveFrame at ok
  by_cases idle : c.contStreamID = 0
  · rw [if_neg (by simpa using idle)] at ok
    by_cases headers : ∃ id fragment endHeaders endStream,
        frame = .headers id fragment endHeaders endStream
    · obtain ⟨id, fragment, endHeaders, endStream, rfl⟩ := headers
      cases role with
      | worker =>
          simp only [handleFrame] at ok
          split at ok
          · cases ok
            exact .dropped id fragment endHeaders endStream idle rfl ‹_›
          · obtain ⟨outcome, begun, rfl⟩ := map_ok ok
            exact .started id fragment endHeaders endStream outcome idle (fun _ => ‹_›) begun
      | proxy =>
          obtain ⟨outcome, begun, rfl⟩ := map_ok ok
          exact .started id fragment endHeaders endStream outcome idle (fun same => by cases same)
            begun
    · have other : handleOther c frame = .ok next := by
        cases role <;> cases frame <;> first | exact ok | exact absurd ⟨_, _, _, _, rfl⟩ headers
      obtain rfl := handleOther_same other
      exact .ignored frame idle (fun id fragment endHeaders endStream same =>
        headers ⟨id, fragment, endHeaders, endStream, same⟩) other
  · rw [if_pos idle] at ok
    cases frame with
    | continuation id fragment endHeaders =>
        by_cases owned : id = c.contStreamID
        · subst owned
          simp only [ne_eq, not_true_eq_false, ↓reduceIte] at ok
          obtain ⟨outcome, consumed, rfl⟩ := map_ok ok
          exact .continued fragment endHeaders outcome idle consumed
        · simp [owned] at ok
    | _ => simp at ok

theorem serveFrame_synced {role : Role} {start : Table} {frames : List Frame} {c next : Conn Table}
    {frame : Frame} (synced : Synced decode start frames c) (readable : Readable frame)
    (taken : Taken role c (.frame frame))
    (ok : serveFrame decode canon role c frame = .ok next) :
    Synced decode start (frames ++ [frame]) next := by
  cases serveFrame_serving ok with
  | continued fragment endHeaders outcome busy consumed =>
      exact synced_complete role outcome.2 (consumeContinuation_synced synced busy consumed)
  | started id fragment endHeaders endStream outcome idle _ begun =>
      exact synced_complete role outcome.2 (startHeaders_synced synced idle readable begun)
  | dropped id fragment endHeaders endStream idle worker live => exact absurd live (taken worker)
  | ignored _ idle notHeaders handled =>
      refine handleOther_synced synced idle notHeaders (fun id fragment endHeaders promised => ?_)
        handled
      rw [promised] at taken
      exact taken

theorem step_synced {role : Role} {start : Table} {c next : Conn Table} {action : Action}
    (synced : Synced decode start c.frames c) (taken : Taken role c action)
    (stepped : step decode canon role c action = some next) :
    Synced decode start next.frames next := by
  cases action with
  | openStream id =>
      obtain rfl := Option.some.inj stepped
      exact ⟨synced.blocks, synced.decoded⟩
  | removeStream id =>
      obtain rfl := Option.some.inj stepped
      exact ⟨synced.blocks, synced.decoded⟩
  | frame frame =>
      simp only [step] at stepped
      split at stepped
      · rename_i readable
        split at stepped
        · simp at stepped
        · rename_i after served
          obtain rfl := Option.some.inj stepped
          have done := serveFrame_synced synced readable taken served
          exact ⟨done.blocks, done.decoded⟩
      · simp at stepped

end Sync

/-- In every run without PUSH_PROMISE, and for the worker without HEADERS on a
stream that is still registered, the decoder is fed exactly the blocks the peer
sent, so it holds the peer's table and produced its lists. -/
theorem decoder_synchronised {Table : Type} (decode : Table → Bytes → Option (Table × List Field))
    (canon : String → String) (encodes : Table → List Field → Bytes → Table → Prop)
    (hpack : ∀ table fields block next, encodes table fields block next →
      decode table block = some (next, fields))
    (role : Role) (start : Table) (trace : List Action) (last : Conn Table)
    (taken : Guarded (step decode canon role) (Taken role) (Conn.new start) trace)
    (ran : run (step decode canon role) (Conn.new start) trace = some last) :
    last.fed = (sent last.frames).blocks ∧
      ∀ lists table, Encoded encodes start lists (sent last.frames).blocks table →
        last.table = table ∧ last.lists = lists := by
  have synced : Synced decode start last.frames last :=
    run_invariant (fun _ _ _ synced taken stepped => step_synced synced taken stepped)
      (synced_new start) taken ran
  refine ⟨by rw [synced.blocks], ?_⟩
  intro lists table encoded
  rw [synced.blocks] at encoded
  have same := synced.decoded.symm.trans (feed_encoded hpack encoded)
  simpa using same

/-- A stand-in for HPACK whose table is the list of all blocks so far. -/
def recordBlock (table : List Bytes) (block : Bytes) : Option (List Bytes × List Field) :=
  some (table ++ [block], [])

/-- A request, then trailers on the same stream while its handler runs. -/
def trailersTrace : List Action :=
  [.frame (.headers 1 [130] true false), .frame (.headers 1 [64] true true)]

/-- A worker that pushes before it answers. -/
def pushTrace : List Action :=
  [.openStream 1, .frame (.pushPromise 1 [64] true), .frame (.headers 1 [136] true true)]

theorem fed_differs {role : Role} {trace : List Action} {fed blocks : List Bytes}
    (outcome : (run (step recordBlock id role) (Conn.new []) trace).map (fun c =>
      (c.fed, (sent c.frames).blocks)) = some (fed, blocks)) (apart : fed ≠ blocks) :
    ¬ ∀ (Table : Type) (decode : Table → Bytes → Option (Table × List Field))
      (canon : String → String) (start : Table) (trace : List Action) (last : Conn Table),
      run (step decode canon role) (Conn.new start) trace = some last →
        last.fed = (sent last.frames).blocks := by
  intro synchronised
  obtain ⟨last, ran, same⟩ := Option.map_eq_some_iff.mp outcome
  obtain ⟨rfl, rfl⟩ := Prod.mk.inj same
  exact apart (synchronised _ recordBlock id [] trace last ran)

theorem dropped_block_desynchronises :
    (¬ ∀ (Table : Type) (decode : Table → Bytes → Option (Table × List Field))
      (canon : String → String) (start : Table) (trace : List Action) (last : Conn Table),
      run (step decode canon .worker) (Conn.new start) trace = some last →
        last.fed = (sent last.frames).blocks) ∧
    ¬ ∀ (Table : Type) (decode : Table → Bytes → Option (Table × List Field))
      (canon : String → String) (start : Table) (trace : List Action) (last : Conn Table),
      run (step decode canon .proxy) (Conn.new start) trace = some last →
        last.fed = (sent last.frames).blocks := by
  have trailers : (run (step recordBlock id .worker) (Conn.new []) trailersTrace).map (fun c =>
      (c.fed, (sent c.frames).blocks)) = some ([[130]], [[130], [64]]) := by decide
  have pushed : (run (step recordBlock id .proxy) (Conn.new []) pushTrace).map (fun c =>
      (c.fed, (sent c.frames).blocks)) = some ([[136]], [[64], [136]]) := by decide
  exact ⟨fed_differs trailers (by decide), fed_differs pushed (by decide)⟩

/-- The same blocks once the first stream is gone, the second one split. -/
def reopenedTrace : List Action :=
  [.frame (.headers 1 [130] true true), .removeStream 1, .frame (.headers 3 [64] false true),
    .frame (.continuation 3 [65] true)]

theorem decoder_synchronised_reopened : ∃ last,
    run (step recordBlock id .worker) (Conn.new []) reopenedTrace = some last ∧
      last.fed = (sent last.frames).blocks ∧
      ∀ lists table, Encoded (fun table fields block next => fields = [] ∧ next = table ++ [block])
        [] lists (sent last.frames).blocks table → last.table = table ∧ last.lists = lists := by
  obtain ⟨last, ran⟩ : ∃ last,
      run (step recordBlock id .worker) (Conn.new []) reopenedTrace = some last :=
    Option.isSome_iff_exists.mp (by decide)
  refine ⟨last, ran, decoder_synchronised recordBlock id _ ?_ .worker [] reopenedTrace last ?_ ran⟩
  · rintro table fields block next ⟨rfl, rfl⟩
    rfl
  · decide

end ReverseHttp.HeaderBlocks
