import ReverseHttp.HeaderBlocks

/-!
One header block in many frames. A split cuts a block into the fragment of a HEADERS
frame and those of the CONTINUATION frames after it; the frame loops reassemble it in
`contBlock`. A block in one frame is below the limit, since a frame is.
-/

namespace ReverseHttp.Fragmentation

open Transition Wire HeaderBlocks

/-- A block cut into fragments that each fit into a frame, some of them perhaps empty. -/
structure Split (block : Bytes) where
  first : Bytes
  rest : List Bytes
  whole : first ++ rest.flatten = block
  small : ∀ fragment ∈ first :: rest, fragment.length ≤ 16384

/-- END_HEADERS is set on the last one. -/
def continuations (id : StreamID) : List Bytes → List Frame
  | [] => []
  | [last] => [.continuation id last true]
  | fragment :: next :: rest =>
      .continuation id fragment false :: continuations id (next :: rest)

def Split.frames {block : Bytes} (split : Split block) (id : StreamID) (endStream : Bool) :
    List Frame :=
  .headers id split.first split.rest.isEmpty endStream :: continuations id split.rest

section Loop

variable {Table : Type} (decode : Table → Bytes → Option (Table × List Field))
  (canon : String → String) (role : Role)

/-- The loop over consecutive frames. -/
def serveFrames (c : Conn Table) (frames : List Frame) : Except H2Error (Conn Table) :=
  frames.foldlM (serveFrame decode canon role) c

/-- What becomes of a block that arrives in one piece. -/
def serveBlock (c : Conn Table) (id : StreamID) (block : Bytes) (endStream : Bool) :
    Except H2Error (Conn Table) :=
  (decodeBlock decode canon { c with lastStreamID := max c.lastStreamID id } id block
    endStream).map fun done => complete role (done.1, some done.2)

end Loop

/-- Between blocks nothing is left of the last one. -/
def Settled {Table : Type} (c : Conn Table) : Prop :=
  c.contStreamID = 0 → c.contStreamEnded = false ∧ c.contBlock = []

section Settle

variable {Table : Type} {decode : Table → Bytes → Option (Table × List Field)}
  {canon : String → String} {role : Role} {c next : Conn Table}

/-- Handing a block over does not touch the continuation state. -/
theorem complete_cont (done : Option DecodedHeaders) :
    (complete role (c, done)).contStreamID = c.contStreamID ∧
      (complete role (c, done)).contStreamEnded = c.contStreamEnded ∧
      (complete role (c, done)).contBlock = c.contBlock := by
  cases done with
  | none => exact ⟨rfl, rfl, rfl⟩
  | some decoded =>
      cases role with
      | worker => exact ⟨rfl, rfl, rfl⟩
      | proxy =>
          simp only [complete, deliverResponse]
          split <;> exact ⟨rfl, rfl, rfl⟩

theorem settled_complete (done : Option DecodedHeaders) (settled : Settled c) :
    Settled (complete role (c, done)) := by
  obtain ⟨cont, ended, block⟩ := @complete_cont _ role c done
  unfold Settled
  rw [cont, ended, block]
  exact settled

theorem settled_decodeBlock {id : StreamID} {block : Bytes} {ended : Bool}
    {decoded : DecodedHeaders} (settled : Settled c)
    (ok : decodeBlock decode canon c id block ended = .ok (next, decoded)) : Settled next := by
  obtain ⟨table, fields, -, rfl⟩ := decodeBlock_ok ok
  exact settled

theorem settled_startHeaders {id : StreamID} {fragment : Bytes} {endHeaders endStream : Bool}
    {decoded : Option DecodedHeaders} (settled : Settled c) (named : id ≠ 0)
    (ok : startHeaders decode canon c id fragment endHeaders endStream = .ok (next, decoded)) :
    Settled next := by
  cases endHeaders with
  | true =>
      obtain ⟨⟨after, decoded⟩, whole, same⟩ := map_ok ok
      obtain ⟨rfl, -⟩ := Prod.mk.inj same
      exact settled_decodeBlock (c := { c with lastStreamID := max c.lastStreamID id }) settled whole
  | false =>
      simp only [startHeaders, Bool.false_eq_true, ↓reduceIte, Except.ok.injEq,
        Prod.mk.injEq] at ok
      obtain ⟨rfl, -⟩ := ok
      exact fun idle => absurd idle named

theorem settled_consumeContinuation {fragment : Bytes} {endHeaders : Bool}
    {decoded : Option DecodedHeaders} (busy : c.contStreamID ≠ 0)
    (ok : consumeContinuation decode canon c fragment endHeaders = .ok (next, decoded)) :
    Settled next := by
  unfold consumeContinuation at ok
  split at ok
  · simp at ok
  · cases endHeaders with
    | true =>
        obtain ⟨⟨after, decoded⟩, whole, same⟩ := map_ok ok
        obtain ⟨rfl, -⟩ := Prod.mk.inj same
        exact settled_decodeBlock (fun _ => ⟨rfl, rfl⟩) whole
    | false =>
        simp only [Bool.not_false, ↓reduceIte, Except.ok.injEq, Prod.mk.injEq] at ok
        obtain ⟨rfl, -⟩ := ok
        exact fun idle => absurd idle busy

theorem settled_serveFrame {frame : Frame} (settled : Settled c) (readable : Readable frame)
    (ok : serveFrame decode canon role c frame = .ok next) : Settled next := by
  cases serveFrame_serving ok with
  | continued fragment endHeaders outcome busy consumed =>
      exact settled_complete outcome.2 (settled_consumeContinuation busy consumed)
  | started id fragment endHeaders endStream outcome idle _ begun =>
      exact settled_complete outcome.2 (settled_startHeaders settled readable begun)
  | dropped | ignored => exact settled

theorem settled_step {action : Action} (settled : Settled c)
    (stepped : step decode canon role c action = some next) : Settled next := by
  cases action with
  | openStream id | removeStream id =>
      cases stepped
      exact settled
  | frame frame =>
      simp only [step] at stepped
      split at stepped
      · split at stepped
        · cases stepped
        · next readable _ after served =>
            cases stepped
            have kept := settled_serveFrame settled readable served
            exact kept
      · cases stepped

theorem settled_run {start : Table} {trace : List Action}
    (ran : run (step decode canon role) (Conn.new start) trace = some c) : Settled c :=
  run_invariant_all (fun _ _ _ settled stepped => settled_step settled stepped)
    (fun _ => ⟨rfl, rfl⟩) ran

end Settle

section Reassembly

variable {Table : Type} {decode : Table → Bytes → Option (Table × List Field)}
  {canon : String → String} {role : Role} {c : Conn Table} {id : StreamID} {endStream : Bool}

/-- The connection in the middle of a block, with `block` in the accumulator. -/
def holding (c : Conn Table) (id : StreamID) (endStream : Bool) (block : Bytes) : Conn Table :=
  { c with
    lastStreamID := max c.lastStreamID id
    contStreamID := id
    contStreamEnded := endStream
    contBlock := block }

/-- Between blocks. -/
structure Idle (c : Conn Table) : Prop where
  cont : c.contStreamID = 0
  ended : c.contStreamEnded = false
  block : c.contBlock = []

/-- The size check is exact: the accumulator is below the limit and a fragment fits
into a frame. -/
theorem limit_exact {block fragment : Bytes} (low : block.length ≤ maxHeaderListSize)
    (small : fragment.length ≤ 16384) :
    (block.length + fragment.length) % 2 ^ 32 = block.length + fragment.length := by
  unfold maxHeaderListSize at low
  omega

theorem serveFrame_held (named : id ≠ 0) {block fragment : Bytes}
    (low : block.length ≤ maxHeaderListSize) (small : fragment.length ≤ 16384) :
    serveFrame decode canon role (holding c id endStream block)
        (.continuation id fragment false) =
      if maxHeaderListSize < (block ++ fragment).length then .error .headerListTooLarge
      else .ok (holding c id endStream (block ++ fragment)) := by
  rw [List.length_append, ← limit_exact low small]
  simp only [serveFrame, holding, ne_eq, named, not_false_eq_true, ↓reduceIte,
    not_true_eq_false, consumeContinuation]
  by_cases large : maxHeaderListSize < (block.length + fragment.length) % 2 ^ 32
  · simp only [large, ↓reduceIte]
    rfl
  · simp only [large, ↓reduceIte]
    rfl

theorem serveFrame_last (idle : Idle c) (named : id ≠ 0) {block fragment : Bytes}
    (low : block.length ≤ maxHeaderListSize) (small : fragment.length ≤ 16384) :
    serveFrame decode canon role (holding c id endStream block)
        (.continuation id fragment true) =
      if maxHeaderListSize < (block ++ fragment).length then .error .headerListTooLarge
      else serveBlock decode canon role c id (block ++ fragment) endStream := by
  rw [List.length_append, ← limit_exact low small]
  simp only [serveFrame, holding, ne_eq, named, not_false_eq_true, ↓reduceIte,
    not_true_eq_false, consumeContinuation]
  by_cases large : maxHeaderListSize < (block.length + fragment.length) % 2 ^ 32
  · simp only [large, ↓reduceIte]
    rfl
  · have same : { c with
        lastStreamID := max c.lastStreamID id
        contStreamID := 0
        contStreamEnded := false
        contBlock := [] } = { c with lastStreamID := max c.lastStreamID id } := by
      rw [← idle.cont, ← idle.ended, ← idle.block]
    simp only [large, Bool.not_true, Bool.false_eq_true, ↓reduceIte, same, serveBlock]
    cases decodeBlock decode canon { c with lastStreamID := max c.lastStreamID id } id
      (block ++ fragment) endStream <;> rfl

theorem serveFrames_cons (frame : Frame) (rest : List Frame) :
    serveFrames decode canon role c (frame :: rest) =
      (serveFrame decode canon role c frame >>= fun next =>
        serveFrames decode canon role next rest) := by
  simp [serveFrames]

theorem serveFrames_single (frame : Frame) :
    serveFrames decode canon role c [frame] = serveFrame decode canon role c frame := by
  simp [serveFrames]

theorem continuations_served (idle : Idle c) (named : id ≠ 0) {fragments : List Bytes}
    (present : fragments ≠ []) (small : ∀ fragment ∈ fragments, fragment.length ≤ 16384)
    {block : Bytes} (low : block.length ≤ maxHeaderListSize) :
    serveFrames decode canon role (holding c id endStream block) (continuations id fragments) =
      if maxHeaderListSize < (block ++ fragments.flatten).length then .error .headerListTooLarge
      else serveBlock decode canon role c id (block ++ fragments.flatten) endStream := by
  induction fragments generalizing block with
  | nil => exact absurd rfl present
  | cons fragment rest ih =>
      have fits := small fragment List.mem_cons_self
      cases rest with
      | nil =>
          rw [continuations, serveFrames_single, serveFrame_last idle named low fits]
          simp
      | cons next more =>
          have later : ∀ other ∈ next :: more, other.length ≤ 16384 :=
            fun other member => small other (List.mem_cons_of_mem fragment member)
          rw [continuations, serveFrames_cons, serveFrame_held named low fits, List.flatten_cons,
            ← List.append_assoc]
          -- once the limit is passed the loop is over, and more bytes only add to it
          by_cases large : maxHeaderListSize < (block ++ fragment).length
          · have whole : maxHeaderListSize <
                (block ++ fragment ++ (next :: more).flatten).length := by
              rw [List.length_append]
              omega
            rw [if_pos large, if_pos whole]
            rfl
          · rw [if_neg large]
            exact ih (List.cons_ne_nil next more) later (Nat.le_of_not_lt large)

theorem serveFrame_headers (idle : Idle c) (fresh : role = .worker → id ∉ c.streams)
    (fragment : Bytes) (endHeaders : Bool) :
    serveFrame decode canon role c (.headers id fragment endHeaders endStream) =
      if endHeaders then serveBlock decode canon role c id fragment endStream
      else .ok (holding c id endStream fragment) := by
  have started : serveFrame decode canon role c (.headers id fragment endHeaders endStream) =
      (startHeaders decode canon c id fragment endHeaders endStream).map (complete role) := by
    unfold serveFrame
    rw [if_neg (by simp [idle.cont])]
    cases role with
    | worker => simp only [handleFrame, fresh rfl, ↓reduceIte]
    | proxy => rfl
  rw [started]
  cases endHeaders with
  | true =>
      simp only [startHeaders, serveBlock, ↓reduceIte]
      cases decodeBlock decode canon { c with lastStreamID := max c.lastStreamID id } id
        fragment endStream <;> rfl
  | false => rfl

/-- The result of a split does not mention how the block was cut. -/
theorem split_served (idle : Idle c) (named : id ≠ 0) (fresh : role = .worker → id ∉ c.streams)
    {block : Bytes} (split : Split block) :
    serveFrames decode canon role c (split.frames id endStream) =
      if maxHeaderListSize < block.length then .error .headerListTooLarge
      else serveBlock decode canon role c id block endStream := by
  obtain ⟨first, rest, rfl, small⟩ := split
  have low : first.length ≤ maxHeaderListSize := by
    have fits := small first List.mem_cons_self
    unfold maxHeaderListSize
    omega
  rw [Split.frames, serveFrames_cons, serveFrame_headers idle fresh]
  by_cases alone : rest = []
  · subst alone
    simp [continuations, serveFrames, Nat.not_lt.mpr low]
  · rw [if_neg (by simp [alone])]
    have later : ∀ fragment ∈ rest, fragment.length ≤ 16384 :=
      fun fragment member => small fragment (List.mem_cons_of_mem _ member)
    exact continuations_served idle named alone later low

theorem serveBlock_cont (idle : Idle c) {block : Bytes} {next : Conn Table}
    (ok : serveBlock decode canon role c id block endStream = .ok next) :
    next.contStreamID = 0 ∧ next.contBlock = [] := by
  obtain ⟨⟨after, decoded⟩, whole, rfl⟩ := map_ok ok
  obtain ⟨table, fields, -, rfl⟩ := decodeBlock_ok whole
  obtain ⟨cont, -, held⟩ := @complete_cont _ role _ (some decoded)
  exact ⟨cont.trans idle.cont, held.trans idle.block⟩

/-- Before its last frame the block is in the accumulator, as far as it has come. -/
theorem continuations_front (named : id ≠ 0) {front back : List Frame} {mid : Conn Table}
    {fragments : List Bytes} {block : Bytes} (low : block.length ≤ maxHeaderListSize)
    (small : ∀ fragment ∈ fragments, fragment.length ≤ 16384)
    (cut : continuations id fragments = front ++ back) (more : back ≠ [])
    (ok : serveFrames decode canon role (holding c id endStream block) front = .ok mid) :
    ∃ held, mid = holding c id endStream held ∧ held.length ≤ maxHeaderListSize := by
  induction front generalizing fragments block with
  | nil =>
      cases ok
      exact ⟨block, rfl, low⟩
  | cons frame rest ih =>
      match fragments with
      | [] => simp [continuations] at cut
      | [last] =>
          simp only [continuations, List.cons_append, List.cons.injEq] at cut
          exact absurd (List.append_eq_nil_iff.mp cut.2.symm).2 more
      | fragment :: next :: others =>
          simp only [continuations, List.cons_append, List.cons.injEq] at cut
          obtain ⟨rfl, later⟩ := cut
          have fits := small fragment List.mem_cons_self
          rw [serveFrames_cons, serveFrame_held named low fits] at ok
          by_cases large : maxHeaderListSize < (block ++ fragment).length
          · rw [if_pos large] at ok
            cases ok
          · rw [if_neg large] at ok
            exact ih (Nat.le_of_not_lt large)
              (fun other member => small other (List.mem_cons_of_mem _ member)) later ok

theorem split_front (idle : Idle c) (named : id ≠ 0) (fresh : role = .worker → id ∉ c.streams)
    {block : Bytes} (split : Split block) {front back : List Frame} {mid : Conn Table}
    (cut : split.frames id endStream = front ++ back) (begun : front ≠ []) (more : back ≠ [])
    (ok : serveFrames decode canon role c front = .ok mid) :
    ∃ held, mid = holding c id endStream held ∧ held.length ≤ maxHeaderListSize := by
  cases front with
  | nil => exact absurd rfl begun
  | cons frame rest =>
      simp only [Split.frames, List.cons_append, List.cons.injEq] at cut
      obtain ⟨rfl, later⟩ := cut
      have continued : split.rest.isEmpty = false := by
        cases shape : split.rest with
        | nil =>
            rw [shape] at later
            exact absurd (List.append_eq_nil_iff.mp later.symm).2 more
        | cons fragment others => rfl
      rw [serveFrames_cons, serveFrame_headers idle fresh, continued] at ok
      refine continuations_front named ?_
        (fun other member => split.small other (List.mem_cons_of_mem _ member)) later more ok
      have fits := split.small split.first List.mem_cons_self
      unfold maxHeaderListSize
      omega

theorem accumulator_bounded (idle : Idle c) (named : id ≠ 0)
    (fresh : role = .worker → id ∉ c.streams) {block : Bytes} (split : Split block)
    {front back : List Frame} {mid : Conn Table} (cut : split.frames id endStream = front ++ back)
    (ok : serveFrames decode canon role c front = .ok mid) :
    mid.contBlock.length ≤ maxHeaderListSize := by
  by_cases begun : front = []
  · subst begun
    cases ok
    simp [idle.block]
  by_cases more : back = []
  · subst more
    rw [List.append_nil] at cut
    rw [← cut, split_served idle named fresh split] at ok
    split at ok
    · cases ok
    · simp [(serveBlock_cont idle ok).2]
  · obtain ⟨held, rfl, low⟩ := split_front idle named fresh split cut begun more ok
    exact low

theorem interrupted {mid : Conn Table} {block : Bytes} {frame : Frame} (named : id ≠ 0)
    (held : mid = holding c id endStream block)
    (foreign : ∀ fragment endHeaders, frame ≠ .continuation id fragment endHeaders) :
    serveFrame decode canon role mid frame = .error .contInterleaved := by
  subst held
  have busy : (holding c id endStream block).contStreamID ≠ 0 := named
  unfold serveFrame
  rw [if_pos busy]
  cases frame with
  | continuation other fragment endHeaders =>
      have different : other ≠ id := by
        rintro rfl
        exact foreign fragment endHeaders rfl
      simp [holding, different]
  | _ => rfl

/-! A worker's loop passes over a block on a registered stream. -/

theorem continuations_ignored (idle : Idle c) (fragments : List Bytes) :
    serveFrames decode canon .worker c (continuations id fragments) = .ok c := by
  have ignored : ∀ fragment endHeaders, serveFrame decode canon .worker c
      (.continuation id fragment endHeaders) = .ok c := by
    intro fragment endHeaders
    unfold serveFrame
    rw [if_neg (by simp [idle.cont])]
    rfl
  induction fragments with
  | nil => rfl
  | cons fragment rest ih =>
      cases rest with
      | nil => rw [continuations, serveFrames_single, ignored]
      | cons next more =>
          rw [continuations, serveFrames_cons, ignored]
          exact ih

theorem split_dropped (idle : Idle c) (live : id ∈ c.streams) {block : Bytes}
    (split : Split block) :
    serveFrames decode canon .worker c (split.frames id endStream) = .ok c := by
  have dropped : serveFrame decode canon .worker c
      (.headers id split.first split.rest.isEmpty endStream) = .ok c := by
    unfold serveFrame
    rw [if_neg (by simp [idle.cont])]
    simp [handleFrame, live]
  rw [Split.frames, serveFrames_cons, dropped]
  exact continuations_ignored idle split.rest

end Reassembly

/-- What is to become of a block that arrives on stream `id` in a connection between
two blocks: how it is cut does not show in the result, nothing of it stays behind,
and until its last frame no other one is taken. -/
structure Reassembled {Table : Type} (decode : Table → Bytes → Option (Table × List Field))
    (canon : String → String) (role : Role) (c : Conn Table) (id : StreamID) (endStream : Bool)
    (block : Bytes) : Prop where
  independent : ∀ one two : Split block,
    serveFrames decode canon role c (one.frames id endStream) =
      serveFrames decode canon role c (two.frames id endStream)
  decoded : ∀ split : Split block, block.length ≤ maxHeaderListSize →
    serveFrames decode canon role c (split.frames id endStream) =
      serveBlock decode canon role c id block endStream
  limited : ∀ split : Split block, maxHeaderListSize < block.length →
    serveFrames decode canon role c (split.frames id endStream) = .error .headerListTooLarge
  released : ∀ (split : Split block) (next : Conn Table),
    serveFrames decode canon role c (split.frames id endStream) = .ok next →
      next.contStreamID = 0 ∧ next.contBlock = []
  uninterrupted : ∀ (split : Split block) (front back : List Frame) (mid : Conn Table),
    split.frames id endStream = front ++ back →
    serveFrames decode canon role c front = .ok mid →
      mid.contBlock.length ≤ maxHeaderListSize ∧
      (front ≠ [] → back ≠ [] → mid.delivered = c.delivered ∧ mid.orphans = c.orphans ∧
        ∀ frame, (∀ fragment endHeaders, frame ≠ .continuation id fragment endHeaders) →
          serveFrame decode canon role mid frame = .error .contInterleaved)

section Exactly

variable {Table : Type} {decode : Table → Bytes → Option (Table × List Field)}
  {canon : String → String} {role : Role} {c : Conn Table} {id : StreamID} {endStream : Bool}
  {block : Bytes}

theorem reassembled_fresh (idle : Idle c) (named : id ≠ 0)
    (fresh : role = .worker → id ∉ c.streams) :
    Reassembled decode canon role c id endStream block := by
  have served (split : Split block) :
      serveFrames decode canon role c (split.frames id endStream) =
        if maxHeaderListSize < block.length then .error .headerListTooLarge
        else serveBlock decode canon role c id block endStream :=
    split_served idle named fresh split
  constructor
  · intro one two
    rw [served one, served two]
  · intro split low
    rw [served split, if_neg (Nat.not_lt.mpr low)]
  · intro split large
    rw [served split, if_pos large]
  · intro split next ok
    rw [served split] at ok
    split at ok
    · cases ok
    · exact serveBlock_cont idle ok
  · intro split front back mid cut ok
    refine ⟨accumulator_bounded idle named fresh split cut ok, ?_⟩
    intro begun more
    obtain ⟨block, rfl, -⟩ := split_front idle named fresh split cut begun more ok
    exact ⟨rfl, rfl, fun frame foreign => interrupted named rfl foreign⟩

/-- A block can be cut into single bytes, after an empty HEADERS fragment. -/
def bytewise (block : Bytes) : Split block where
  first := []
  rest := block.map fun byte => [byte]
  whole := by
    rw [List.nil_append]
    induction block with
    | nil => rfl
    | cons byte rest ih => rw [List.map_cons, List.flatten_cons, ih, List.singleton_append]
  small := by
    intro fragment member
    rcases List.mem_cons.mp member with rfl | later
    · simp
    · obtain ⟨byte, -, rfl⟩ := List.mem_map.mp later
      simp

/-- A worker hands every block over that it decodes. -/
theorem serveBlock_dispatched {next : Conn Table}
    (ok : serveBlock decode canon .worker c id block endStream = .ok next) :
    next.delivered.length = c.delivered.length + 1 := by
  obtain ⟨⟨after, decoded⟩, whole, rfl⟩ := map_ok ok
  obtain ⟨table, fields, -, rfl⟩ := decodeBlock_ok whole
  simp [complete, dispatchInboundHeaders]

theorem not_reassembled_registered (idle : Idle c) (live : id ∈ c.streams) :
    ¬ Reassembled decode canon .worker c id endStream block := by
  intro reassembled
  have passed : serveFrames decode canon .worker c ((bytewise block).frames id endStream) = .ok c :=
    split_dropped idle live (bytewise block)
  rcases Nat.lt_or_ge maxHeaderListSize block.length with large | low
  · rw [reassembled.limited (bytewise block) large] at passed
    cases passed
  · rw [reassembled.decoded (bytewise block) low] at passed
    have handed := serveBlock_dispatched passed
    omega

end Exactly

/-- Between two blocks, the proxy reassembles every block, and the worker exactly those
on streams that are not registered. -/
theorem reassembly_independent {Table : Type}
    (decode : Table → Bytes → Option (Table × List Field)) (canon : String → String)
    (role : Role) (start : Table) {trace : List Action} {c : Conn Table}
    (ran : run (step decode canon role) (Conn.new start) trace = some c)
    (between : c.contStreamID = 0) {id : StreamID} (named : id ≠ 0) (endStream : Bool)
    (block : Bytes) :
    Reassembled decode canon role c id endStream block ↔ (role = .worker → id ∉ c.streams) := by
  obtain ⟨ended, held⟩ := settled_run ran between
  have idle : Idle c := ⟨between, ended, held⟩
  refine ⟨?_, reassembled_fresh idle named⟩
  rintro reassembled rfl live
  exact not_reassembled_registered idle live reassembled

/-- The bytes of 65 full frames, a little more than the limit. -/
def oversizedBlock : Bytes :=
  List.replicate 16384 0 ++ (List.replicate 64 (List.replicate 16384 0)).flatten

def oversized : Split oversizedBlock where
  first := List.replicate 16384 0
  rest := List.replicate 64 (List.replicate 16384 0)
  whole := rfl
  small := by
    intro fragment member
    have full : fragment = List.replicate 16384 0 := by
      rcases List.mem_cons.mp member with rfl | later
      · rfl
      · exact List.eq_of_mem_replicate later
    rw [full, List.length_replicate]

theorem oversizedBlock_length : maxHeaderListSize < oversizedBlock.length := by
  simp only [oversizedBlock, List.length_append, List.length_flatten, List.map_replicate,
    List.length_replicate]
  decide

/-- As trailers on a stream whose handler still runs, the oversized block is passed
over: the worker's loop goes on where `ErrHeaderListTooLarge` is due. -/
theorem oversized_trailers_pass :
    ¬ ∀ (role : Role) (trace : List Action) (c : Conn (List Bytes)) (id : StreamID)
      (endStream : Bool) (block : Bytes) (split : Split block),
      run (step recordBlock (fun name => name) role) (Conn.new []) trace = some c →
      c.contStreamID = 0 → id ≠ 0 → maxHeaderListSize < block.length →
      serveFrames recordBlock (fun name => name) role c (split.frames id endStream) =
        .error .headerListTooLarge := by
  intro rejected
  have opened : (run (step recordBlock (fun name => name) .worker) (Conn.new [])
      [.frame (.headers 1 [130] true false)]).map (fun c =>
        (c.contStreamID, c.contStreamEnded, c.contBlock, c.streams)) =
      some (0, false, [], [1]) := by decide
  obtain ⟨c, ran, state⟩ := Option.map_eq_some_iff.mp opened
  simp only [Prod.mk.injEq] at state
  obtain ⟨between, ended, held, live⟩ := state
  have passed : serveFrames recordBlock (fun name => name) .worker c
      (oversized.frames 1 true) = .ok c :=
    split_dropped ⟨between, ended, held⟩ (by simp [live]) oversized
  rw [rejected .worker _ c 1 true _ oversized ran between (by decide) oversizedBlock_length]
    at passed
  cases passed

/-- One block in a single frame, and in three with an empty one among them. -/
def inOneFrame : Split [130, 132] := ⟨[130, 132], [], rfl, by decide⟩

def inThreeFrames : Split [130, 132] := ⟨[130], [[], [132]], rfl, by decide⟩

theorem reassembly_independent_cut :
    serveFrames recordBlock (fun name => name) .worker (Conn.new []) (inOneFrame.frames 1 true) =
      serveFrames recordBlock (fun name => name) .worker (Conn.new [])
        (inThreeFrames.frames 1 true) ∧
    serveFrames recordBlock (fun name => name) .worker (Conn.new []) (oversized.frames 1 true) =
      .error .headerListTooLarge := by
  have small := (reassembly_independent recordBlock (fun name => name) .worker []
    (rfl : run _ _ [] = _) rfl Nat.one_ne_zero true [130, 132]).mpr (by simp [Conn.new])
  have large := (reassembly_independent recordBlock (fun name => name) .worker []
    (rfl : run _ _ [] = _) rfl Nat.one_ne_zero true oversizedBlock).mpr (by simp [Conn.new])
  exact ⟨small.independent inOneFrame inThreeFrames,
    large.limited oversized oversizedBlock_length⟩

end ReverseHttp.Fragmentation
