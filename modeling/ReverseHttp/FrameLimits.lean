import ReverseHttp.HeaderCodec
import ReverseHttp.Flow

/-!
The limits of a frame on a connection of either role: the checks of the framer
behind `processIntent`, and the peer's MAX_FRAME_SIZE. Handlers, forwards, body
pumps and the frame reader are events that queue intents, in any order; the
writer takes them one by one. An `openStream` waits for the writer under
`streamsMu`; letting others in only adds runs.

`written` is ghost: each intent the writer has processed, with the payload length
of its frame. So are `issued`, the ids of all streams so far, and the number in
`settingsAck`, the MAX_FRAME_SIZE in force when the ACK was queued.
-/

namespace ReverseHttp.FrameLimits

open Transition MachineInt Wire NetHttp Memo HeaderBlocks HeaderCodec
open ReverseHttp.Flow (Avail granted)

def errCodeStreamClosed : ErrCode := 5

inductive Intent where
  | settingsAck (maxFrameSize : Nat)
  | windowUpdate (streamID : StreamID) (increment : Nat)
  | ping (isAck : Bool)
  | rstStream (streamID : StreamID) (code : ErrCode)
  | headers (message : Message)
  | data (streamID : StreamID) (payload : Bytes) (endStream : Bool)
  | setMaxDynTab (val : Nat)
  | goAway (lastStreamID : StreamID) (code : ErrCode)
  deriving DecidableEq

structure Written where
  intent : Intent
  payload : Nat
  deriving DecidableEq

/-- A `Write` or a `streamRequestBody` in its loop, with the `maxFrame` it read
before. -/
structure Loop where
  streamID : StreamID
  maxFrame : Int32
  deriving DecidableEq

/-- Why the writer goroutine returned. -/
inductive Exit where
  | transport
  | shutdown
  | rejected
  deriving DecidableEq

structure State (Enc : Type) where
  sender : Sender Enc
  writer : Option Exit
  queue : List Intent
  written : List Written
  maxFrameSize : Nat
  /-- The reader is inside `ApplyPeerSettings`, its ACK still to be queued. -/
  applying : Bool
  nextStreamID : Nat
  streams : List StreamID
  issued : List StreamID
  loops : List Loop
  peerMaxStreams : Nat
  draining : Bool
  deriving DecidableEq

def State.new {Enc : Type} (enc : Enc) : State Enc :=
  { sender := ⟨enc, [], commonLowerNames⟩
    writer := none
    queue := []
    written := []
    maxFrameSize := 16384
    applying := false
    nextStreamID := 0
    streams := []
    issued := []
    loops := []
    peerMaxStreams := noStreamLimit
    draining := false }

/-- What every goroutine but the writer can do. -/
inductive Event where
  | openStream (method scheme authority path : String) (header : HeaderMap) (endStream : Bool)
  | accept (id : StreamID)
  | respond (id : StreamID) (status : Int) (header : HeaderMap) (endStream : Bool)
  | beginLoop (id : StreamID)
  | chunk (loop : Loop) (p : Bytes) (credit : Option Avail)
  | endLoop (loop : Loop)
  | emptyData (id : StreamID) (endStream : Bool)
  | reset (id : StreamID) (code : ErrCode)
  | orphan (id : StreamID)
  | inboundData (id : StreamID) (flowLen : Nat)
  | storeMaxFrameSize (val : Nat)
  | headerTableSize (val : Nat)
  | settingsAck
  | maxConcurrentStreams (val : Nat)
  | beginDrain
  | ping (isAck : Bool)
  | goAway (lastStreamID : StreamID) (code : ErrCode)
  | finish (id : StreamID)
  deriving DecidableEq

inductive Action where
  | event (event : Event)
  | write
  | exit (cause : Exit)
  deriving DecidableEq

/-- The framer's `validStreamID`; `ReadFrame` returns no other id on HEADERS and
DATA. -/
def ValidStreamID (id : Nat) : Prop := 0 < id ∧ id ≤ 2147483647

instance (id : Nat) : Decidable (ValidStreamID id) :=
  inferInstanceAs (Decidable (0 < id ∧ id ≤ 2147483647))

/-- `int32(c.MaxFrameSize())` with both fallbacks. -/
def captureMaxFrame (maxFrameSize : Nat) : Int32 :=
  let maxFrame := Int32.ofNat (if maxFrameSize = 0 then 16384 else maxFrameSize)
  if maxFrame ≤ 0 then 16384 else maxFrame

section Events

variable {Enc : Type}

def Enabled (role : Role) (st : State Enc) : Event → Prop
  | .openStream .. =>
      role = .proxy ∧ st.draining = false ∧ st.streams.length < st.peerMaxStreams
  | .accept id => role = .worker ∧ ValidStreamID id
  | .respond id _ _ _ => role = .worker ∧ id ∈ st.issued
  | .beginLoop id | .emptyData id _ | .reset id _ => id ∈ st.issued
  | .chunk loop _ _ | .endLoop loop => loop ∈ st.loops
  | .orphan id => role = .proxy ∧ ValidStreamID id ∧ id ∉ st.streams
  -- `SetMaxReadFrameSize`
  | .inboundData id flowLen => ValidStreamID id ∧ flowLen ≤ maxReadFrameSize
  | .storeMaxFrameSize val => 16384 ≤ val ∧ val ≤ 16777215
  | .headerTableSize _ | .settingsAck | .maxConcurrentStreams _ | .beginDrain | .ping _
  | .goAway _ _ | .finish _ => True

instance (role : Role) (st : State Enc) (event : Event) : Decidable (Enabled role st event) := by
  unfold Enabled
  split <;> infer_instance

/-- One round of either loop: `Reserve`, then the chunk it allows. -/
def chunkIntents (loop : Loop) (p : Bytes) (credit : Option Avail) : List Intent :=
  let reserved := granted (minimum (Int32.ofNat p.length) loop.maxFrame) credit
  if reserved.2 then [] else [.data loop.streamID (p.take reserved.1.toInt.toNat) false]

/-- `HandleInboundData`. -/
def inboundDataIntents (st : State Enc) (id : StreamID) (flowLen : Nat) : List Intent :=
  if flowLen = 0 then []
  else if id ∈ st.streams then [.windowUpdate 0 flowLen, .windowUpdate id flowLen]
  else [.windowUpdate 0 flowLen, .rstStream id errCodeStreamClosed]

def intents (st : State Enc) : Event → List Intent
  | .openStream method scheme authority path header endStream =>
      [.headers (.request (nextID st.nextStreamID) method scheme authority path
        header endStream)]
  | .respond id status header endStream => [.headers (.response id status header endStream)]
  | .chunk loop p credit => chunkIntents loop p credit
  -- `Flush`, `endStream` and the end of a request body
  | .emptyData id endStream => [.data id [] endStream]
  | .reset id code => [.rstStream id code]
  | .orphan id => [.rstStream id errCodeStreamClosed]
  | .inboundData id flowLen => inboundDataIntents st id flowLen
  | .headerTableSize val => [.setMaxDynTab val]
  | .settingsAck => [.settingsAck st.maxFrameSize]
  | .ping isAck => [.ping isAck]
  | .goAway lastStreamID code => [.goAway lastStreamID code]
  | .accept _ | .beginLoop _ | .endLoop _ | .storeMaxFrameSize _ | .maxConcurrentStreams _
  | .beginDrain | .finish _ => []

def bookkeep (st : State Enc) : Event → State Enc
  | .openStream .. =>
      let id := nextID st.nextStreamID
      { st with nextStreamID := id, streams := id :: st.streams, issued := id :: st.issued }
  | .accept id => { st with streams := id :: st.streams, issued := id :: st.issued }
  | .beginLoop id =>
      { st with loops := ⟨id, captureMaxFrame st.maxFrameSize⟩ :: st.loops }
  | .endLoop loop => { st with loops := st.loops.erase loop }
  | .storeMaxFrameSize val => { st with maxFrameSize := val, applying := true }
  | .settingsAck => { st with applying := false }
  | .maxConcurrentStreams val => { st with peerMaxStreams := val }
  | .beginDrain => { st with draining := true }
  | .finish id => { st with streams := st.streams.filter (· ≠ id) }
  | .respond .. | .chunk .. | .emptyData .. | .reset .. | .orphan _ | .inboundData ..
  | .headerTableSize _ | .ping _ | .goAway .. => st

end Events

/-- The checks of the framer. -/
def accepted (intent : Intent) (payload : Nat) : Bool :=
  decide (payload < 2 ^ 24) &&
    match intent with
    | .headers message => decide (ValidStreamID message.streamID)
    | .data id _ _ | .rstStream id _ => decide (ValidStreamID id)
    | .windowUpdate _ increment => decide (1 ≤ increment ∧ increment ≤ 2 ^ 31 - 1)
    | .settingsAck _ | .ping _ | .setMaxDynTab _ | .goAway _ _ => true

section Writer

variable {Enc Dec : Type} (hpack : Hpack Enc Dec)

/-- The writer's state after an intent, and the payload length of its frame. -/
def processIntent (sender : Sender Enc) : Intent → Sender Enc × Nat
  | .headers message =>
      let sender := sender.processIntent hpack message
      (sender, sender.encBuf.length)
  | .setMaxDynTab val =>
      ({ sender with enc := hpack.setMaxDynamicTableSize sender.enc val }, 0)
  | .data _ payload _ => (sender, payload.length)
  | .settingsAck _ => (sender, 0)
  | .windowUpdate _ _ | .rstStream _ _ => (sender, 4)
  | .ping _ | .goAway _ _ => (sender, 8)

def step (role : Role) (st : State Enc) : Action → Option (State Enc)
  | .event event =>
      if Enabled role st event then
        some { bookkeep st event with queue := st.queue ++ intents st event }
      else none
  | .write =>
      match st.writer, st.queue with
      | none, intent :: rest =>
          let processed := processIntent hpack st.sender intent
          if accepted intent processed.2 then
            some { st with
              sender := processed.1
              queue := rest
              written := st.written ++ [⟨intent, processed.2⟩] }
          else some { st with sender := processed.1, writer := some .rejected }
      | _, _ => none
  | .exit cause =>
      if st.writer = none ∧ cause ≠ .rejected then some { st with writer := some cause } else none

end Writer

/-! Sizes. -/

/-- The size HPACK counts for an entry of its table. -/
def fieldSize (field : Field) : Nat := field.name.utf8ByteSize + field.value.utf8ByteSize + 32

def listSize (message : Message) : Nat := ((wireFields message).map fieldSize).sum

/-- No field takes more than its entry size: an encoder falls back on literals,
and the lengths and a table size update take less than the 32 bytes. -/
def Compact {Enc Dec : Type} (hpack : Hpack Enc Dec) : Prop :=
  ∀ enc field, (hpack.writeField enc field).2.length ≤ fieldSize field

section Sizes

variable {Enc Dec : Type} {hpack : Hpack Enc Dec}

theorem encode_length (compact : Compact hpack) (enc : Enc) (fields : List Field) :
    (hpack.encode enc fields).2.length ≤ (fields.map fieldSize).sum := by
  induction fields generalizing enc with
  | nil => exact Nat.le_refl 0
  | cons field rest ih =>
      have first := compact enc field
      have tail := ih (hpack.writeField enc field).1
      simp only [Hpack.encode, List.length_append, List.map_cons, List.sum_cons]
      omega

theorem block_length (compact : Compact hpack) {sender : Sender Enc}
    (sound : Sound toLower sender.lowerNames) (message : Message) :
    (sender.processIntent hpack message).encBuf.length ≤ listSize message := by
  have wrote : Wrote hpack sender.reset (wireFields message) _ := .intent sound message
  rw [wrote.encBuf]
  exact encode_length compact _ _

theorem granted_le (want : Int32) (credit : Option Avail) :
    (granted want credit).1.toInt.toNat ≤ want.toInt.toNat := by
  unfold granted
  split
  · simp
  · cases credit with
    | none => simp
    | some avail =>
        simp only [smaller_toInt]
        omega

/-- A chunk fits the limit its loop has read. -/
theorem mem_chunkIntents {loop : Loop} {p : Bytes} {credit : Option Avail} {intent : Intent}
    (member : intent ∈ chunkIntents loop p credit) :
    ∃ payload, intent = .data loop.streamID payload false ∧
      payload.length ≤ loop.maxFrame.toInt.toNat := by
  unfold chunkIntents at member
  simp only [] at member
  split at member
  · cases member
  · refine ⟨_, List.mem_singleton.mp member, ?_⟩
    have wanted := granted_le (minimum (Int32.ofNat p.length) loop.maxFrame) credit
    rw [minimum_toInt] at wanted
    rw [List.length_take]
    omega

theorem captureMaxFrame_toInt {maxFrameSize : Nat} (low : 16384 ≤ maxFrameSize)
    (high : maxFrameSize ≤ 16777215) : (captureMaxFrame maxFrameSize).toInt = maxFrameSize := by
  have kept : (Int32.ofNat maxFrameSize).toInt = maxFrameSize := ofNat_exact (by omega)
  have positive : ¬ Int32.ofNat maxFrameSize ≤ 0 := by
    rw [Int32.le_iff_toInt_le, kept, Int32.toInt_zero]
    omega
  have set : maxFrameSize ≠ 0 := by omega
  simp only [captureMaxFrame, if_neg set, if_neg positive, kept]

end Sizes

/-- What the encoder writes for the fields of the runs below on a fresh connection: entries of
the static table, and a name of it with a Huffman value. Fields they do not send stand as they
are. -/
def sampleField (field : Field) : Bytes :=
  match field.name, field.value with
  | ":authority", "" => [0x81]
  | ":method", "GET" => [0x82]
  | ":path", "/" => [0x84]
  | ":scheme", "https" => [0x87]
  | ":status", "200" => [0x88]
  | "content-type", "text/plain" => [0x5f, 0x87, 0x49, 0x7c, 0xa5, 0x8a, 0xe8, 0x19, 0xaa]
  | name, value => name.toUTF8.data.toList ++ value.toUTF8.data.toList

def sampleHpack : Hpack Unit Unit :=
  { writeField := fun _ field => ((), sampleField field)
    setMaxDynamicTableSize := fun _ _ => ()
    write := fun _ _ => ((), [], false) }

theorem sample_compact : Compact sampleHpack := by
  intro enc field
  simp only [sampleHpack, fieldSize]
  unfold sampleField
  split <;> simp only [List.length_cons, List.length_nil, List.length_append, Array.length_toList]
  case h_7 => exact Nat.le_add_right _ 32
  all_goals omega

/-! Every run. -/

structure Base {Enc : Type} (st : State Enc) : Prop where
  sound : Sound toLower st.sender.lowerNames
  size : 16384 ≤ st.maxFrameSize ∧ st.maxFrameSize ≤ 16777215
  captured : ∀ loop ∈ st.loops, loop.maxFrame.toInt.toNat ≤ 16777215

section Base

variable {Enc Dec : Type} {hpack : Hpack Enc Dec} {role : Role} {st : State Enc}

theorem processIntent_sound {sender : Sender Enc} (sound : Sound toLower sender.lowerNames)
    (intent : Intent) : Sound toLower (processIntent hpack sender intent).1.lowerNames := by
  cases intent with
  | headers message =>
      have wrote : Wrote hpack sender.reset (wireFields message) _ := .intent sound message
      exact wrote.sound
  | settingsAck _ | windowUpdate _ _ | ping _ | rstStream _ _ | data _ _ _ | setMaxDynTab _
  | goAway _ _ => exact sound

/-- What the writer's step can do. -/
theorem write_cases {next : State Enc} (stepped : step hpack role st .write = some next) :
    ∃ intent rest, st.writer = none ∧ st.queue = intent :: rest ∧
      ((accepted intent (processIntent hpack st.sender intent).2 = true ∧
        next = { st with
          sender := (processIntent hpack st.sender intent).1
          queue := rest
          written := st.written ++ [⟨intent, (processIntent hpack st.sender intent).2⟩] }) ∨
      (accepted intent (processIntent hpack st.sender intent).2 = false ∧
        next = { st with
          sender := (processIntent hpack st.sender intent).1
          writer := some .rejected })) := by
  simp only [step] at stepped
  split at stepped
  · rename_i intent rest running head
    refine ⟨intent, rest, running, head, ?_⟩
    split at stepped
    · rename_i passes
      exact Or.inl ⟨passes, (Option.some.inj stepped).symm⟩
    · rename_i fails
      exact Or.inr ⟨by simpa using fails, (Option.some.inj stepped).symm⟩
  · cases stepped

theorem bookkeep_base (base : Base st) {event : Event} (may : Enabled role st event) :
    Base (bookkeep st event) := by
  cases event with
  | beginLoop id =>
      refine ⟨base.sound, base.size, ?_⟩
      intro loop member
      rcases List.mem_cons.mp member with rfl | old
      · rw [captureMaxFrame_toInt base.size.1 base.size.2]
        exact_mod_cast base.size.2
      · exact base.captured loop old
  | endLoop loop =>
      exact ⟨base.sound, base.size, fun other member =>
        base.captured other (List.mem_of_mem_erase member)⟩
  | storeMaxFrameSize val => exact ⟨base.sound, may, base.captured⟩
  | openStream _ _ _ _ _ _ | accept _ | respond _ _ _ _ | chunk _ _ _ | emptyData _ _ | reset _ _
  | orphan _ | inboundData _ _ | headerTableSize _ | settingsAck | maxConcurrentStreams _
  | beginDrain | ping _ | goAway _ _ | finish _ => exact ⟨base.sound, base.size, base.captured⟩

theorem step_base {next : State Enc} {action : Action} (base : Base st)
    (stepped : step hpack role st action = some next) : Base next := by
  cases action with
  | event event =>
      obtain ⟨may, rfl⟩ := enabled stepped
      have kept := bookkeep_base base may
      exact ⟨kept.sound, kept.size, kept.captured⟩
  | write =>
      obtain ⟨intent, rest, -, -, ⟨-, rfl⟩ | ⟨-, rfl⟩⟩ := write_cases stepped
      · exact ⟨processIntent_sound base.sound intent, base.size, base.captured⟩
      · exact ⟨processIntent_sound base.sound intent, base.size, base.captured⟩
  | exit cause =>
      obtain ⟨-, rfl⟩ := enabled stepped
      exact ⟨base.sound, base.size, base.captured⟩

end Base

/-! The framer's checks. -/

/-- The size of the header list an event submits. -/
def Event.headerSize : Event → Nat
  | .openStream method scheme authority path header endStream =>
      listSize (.request 0 method scheme authority path header endStream)
  | .respond _ status header endStream => listSize (.response 0 status header endStream)
  | _ => 0

def Event.opens : Event → Bool
  | .openStream .. => true
  | _ => false

/-- A stream is opened only while the last id is below 2^31-1, and no header list
has 2^24 bytes. -/
def Modest {Enc : Type} (st : State Enc) : Action → Prop
  | .event event =>
      event.headerSize < 2 ^ 24 ∧ (event.opens = true → st.nextStreamID < 2147483647)
  | .write | .exit _ => True

instance {Enc : Type} (st : State Enc) (action : Action) : Decidable (Modest st action) := by
  unfold Modest
  split <;> infer_instance

def Acceptable : Intent → Prop
  | .headers message => ValidStreamID message.streamID ∧ listSize message < 2 ^ 24
  | .data id payload _ => ValidStreamID id ∧ payload.length < 2 ^ 24
  | .rstStream id _ => ValidStreamID id
  | .windowUpdate _ increment => 1 ≤ increment ∧ increment ≤ 2 ^ 31 - 1
  | .settingsAck _ | .ping _ | .setMaxDynTab _ | .goAway _ _ => True

structure Valid {Enc : Type} (st : State Enc) : Prop where
  base : Base st
  issued : ∀ id ∈ st.issued, ValidStreamID id
  loops : ∀ loop ∈ st.loops, loop.streamID ∈ st.issued
  counter : st.nextStreamID = 0 ∨ st.nextStreamID % 2 = 1 ∧ st.nextStreamID ≤ 2147483647
  queue : ∀ intent ∈ st.queue, Acceptable intent
  writer : st.writer ≠ some .rejected

section Checks

variable {Enc Dec : Type} {hpack : Hpack Enc Dec} {role : Role} {st : State Enc}

theorem accepted_of_acceptable (compact : Compact hpack) {sender : Sender Enc}
    (sound : Sound toLower sender.lowerNames) {intent : Intent} (fine : Acceptable intent) :
    accepted intent (processIntent hpack sender intent).2 = true := by
  cases intent with
  | headers message =>
      have small := block_length compact sound message
      have bound : (processIntent hpack sender (.headers message)).2 < 2 ^ 24 :=
        Nat.lt_of_le_of_lt small fine.2
      simp only [accepted, bound, fine.1, decide_true, Bool.and_self]
  | data id payload ended =>
      simp only [accepted, processIntent, fine.1, fine.2, decide_true, Bool.and_self]
  | rstStream id code =>
      have valid : ValidStreamID id := fine
      simp [accepted, processIntent, valid]
  | windowUpdate id increment =>
      have range : 1 ≤ increment ∧ increment ≤ 2 ^ 31 - 1 := fine
      simpa [accepted, processIntent] using range
  | settingsAck _ | ping _ | setMaxDynTab _ | goAway _ _ => rfl

/-- The next id is legal below the end of the range. -/
theorem nextID_valid
    (counter : st.nextStreamID = 0 ∨ st.nextStreamID % 2 = 1 ∧ st.nextStreamID ≤ 2147483647)
    (room : st.nextStreamID < 2147483647) :
    ValidStreamID (nextID st.nextStreamID) ∧
      nextID st.nextStreamID % 2 = 1 := by
  simp only [nextID, ValidStreamID]
  split
  · decide
  · refine ⟨⟨?_, ?_⟩, ?_⟩ <;> omega

theorem intents_acceptable (valid : Valid st) {event : Event} (may : Enabled role st event)
    (modest : Modest st (.event event)) : ∀ intent ∈ intents st event, Acceptable intent := by
  intro intent member
  cases event with
  | openStream method scheme authority path header ended =>
      obtain rfl := List.mem_singleton.mp member
      exact ⟨(nextID_valid valid.counter (modest.2 rfl)).1, modest.1⟩
  | respond id status header ended =>
      obtain rfl := List.mem_singleton.mp member
      exact ⟨valid.issued id may.2, modest.1⟩
  | chunk loop p credit =>
      obtain ⟨payload, rfl, short⟩ := mem_chunkIntents member
      have limit := valid.base.captured loop may
      exact ⟨valid.issued _ (valid.loops loop may), by omega⟩
  | emptyData id ended =>
      obtain rfl := List.mem_singleton.mp member
      exact ⟨valid.issued id may, by simp⟩
  | reset id code =>
      obtain rfl := List.mem_singleton.mp member
      exact valid.issued id may
  | orphan id =>
      obtain rfl := List.mem_singleton.mp member
      exact may.2.1
  | inboundData id flowLen =>
      have range : flowLen ≠ 0 → 1 ≤ flowLen ∧ flowLen ≤ 2 ^ 31 - 1 := by
        have small : flowLen ≤ 16384 := may.2
        omega
      simp only [intents, inboundDataIntents] at member
      split at member
      · cases member
      rename_i full
      split at member
      · rcases List.mem_pair.mp member with rfl | rfl
        · exact range full
        · exact range full
      · rcases List.mem_pair.mp member with rfl | rfl
        · exact range full
        · exact may.1
  | headerTableSize _ | settingsAck | ping _ | goAway _ _ =>
      obtain rfl := List.mem_singleton.mp member
      trivial
  | accept _ | beginLoop _ | endLoop _ | storeMaxFrameSize _ | maxConcurrentStreams _
  | beginDrain | finish _ => cases member

theorem event_valid (valid : Valid st) {event : Event} (may : Enabled role st event)
    (modest : Modest st (.event event)) :
    Valid { bookkeep st event with queue := st.queue ++ intents st event } := by
  have base : Base { bookkeep st event with queue := st.queue ++ intents st event } := by
    have kept := bookkeep_base valid.base may
    exact ⟨kept.sound, kept.size, kept.captured⟩
  have queue : ∀ intent ∈ st.queue ++ intents st event, Acceptable intent := by
    intro intent member
    rcases List.mem_append.mp member with old | new
    · exact valid.queue intent old
    · exact intents_acceptable valid may modest intent new
  cases event with
  | openStream method scheme authority path header ended =>
      obtain ⟨legal, odd⟩ := nextID_valid valid.counter (modest.2 rfl)
      refine ⟨base, ?_, ?_, Or.inr ⟨odd, legal.2⟩, queue, valid.writer⟩
      · exact List.forall_mem_cons.mpr ⟨legal, valid.issued⟩
      · exact fun loop member => List.mem_cons_of_mem _ (valid.loops loop member)
  | accept id =>
      refine ⟨base, ?_, ?_, valid.counter, queue, valid.writer⟩
      · exact List.forall_mem_cons.mpr ⟨may.2, valid.issued⟩
      · exact fun loop member => List.mem_cons_of_mem _ (valid.loops loop member)
  | beginLoop id =>
      exact ⟨base, valid.issued, List.forall_mem_cons.mpr ⟨may, valid.loops⟩, valid.counter,
        queue, valid.writer⟩
  | endLoop loop =>
      exact ⟨base, valid.issued, fun other member =>
        valid.loops other (List.mem_of_mem_erase member), valid.counter, queue, valid.writer⟩
  | respond _ _ _ _ | chunk _ _ _ | emptyData _ _ | reset _ _ | orphan _ | inboundData _ _
  | storeMaxFrameSize _ | headerTableSize _ | settingsAck | maxConcurrentStreams _ | beginDrain
  | ping _ | goAway _ _ | finish _ =>
      exact ⟨base, valid.issued, valid.loops, valid.counter, queue, valid.writer⟩

theorem step_valid (compact : Compact hpack) {next : State Enc} {action : Action}
    (valid : Valid st) (modest : Modest st action)
    (stepped : step hpack role st action = some next) : Valid next := by
  have base := step_base valid.base stepped
  cases action with
  | event event =>
      obtain ⟨may, rfl⟩ := enabled stepped
      exact event_valid valid may modest
  | write =>
      obtain ⟨intent, rest, -, head, outcome⟩ := write_cases stepped
      have fine : Acceptable intent := valid.queue intent (by simp [head])
      have passes := accepted_of_acceptable compact valid.base.sound fine
      rcases outcome with ⟨-, rfl⟩ | ⟨fails, -⟩
      · refine ⟨base, valid.issued, valid.loops, valid.counter, ?_, valid.writer⟩
        exact fun other member => valid.queue other (by simp [head, member])
      · rw [passes] at fails
        cases fails
  | exit cause =>
      obtain ⟨⟨-, allowed⟩, rfl⟩ := enabled stepped
      exact ⟨base, valid.issued, valid.loops, valid.counter, valid.queue, by simpa using allowed⟩

end Checks

theorem base_new {Enc : Type} (enc : Enc) : Base (State.new enc) :=
  ⟨commonLowerNames_sound, by simp [State.new], by simp [State.new]⟩

theorem writer_survives {Enc Dec : Type} (hpack : Hpack Enc Dec) (compact : Compact hpack)
    (role : Role) (enc : Enc) (trace : List Action) (last : State Enc)
    (modest : Guarded (step hpack role) Modest (State.new enc) trace)
    (ran : run (step hpack role) (State.new enc) trace = some last) :
    last.writer ≠ some .rejected := by
  have fresh : Valid (State.new enc) := by
    refine ⟨base_new enc, ?_, ?_, Or.inl rfl, ?_, ?_⟩ <;> simp [State.new]
  exact (run_invariant (fun _ _ _ valid modest stepped =>
    step_valid compact valid modest stepped) fresh modest ran).writer

def download : List Action :=
  [.event (.accept 1), .event (.storeMaxFrameSize 20000), .event .settingsAck,
    .event (.respond 1 200 ⟨[("Content-Type", ["text/plain"])], by decide⟩ false),
    .event (.beginLoop 1), .write, .event (.chunk ⟨1, 20000⟩ [104, 105] (some ⟨65535, by decide⟩)),
    .write, .event (.inboundData 3 12), .write, .event (.endLoop ⟨1, 20000⟩), .write,
    .event (.emptyData 1 true), .write, .write, .exit .shutdown]

theorem writer_survives_download : ∃ last,
    run (step sampleHpack .worker) (State.new ()) download = some last ∧
      last.written.map Written.payload = [0, 10, 2, 4, 4, 0] ∧ last.writer ≠ some .rejected := by
  have computed : (run (step sampleHpack .worker) (State.new ()) download).map
      (fun last => last.written.map Written.payload) = some [0, 10, 2, 4, 4, 0] := by
    decide +kernel
  obtain ⟨last, ran, payloads⟩ := Option.map_eq_some_iff.mp computed
  have modest : Guarded (step sampleHpack .worker) Modest (State.new ()) download := by
    decide +kernel
  exact ⟨last, ran, payloads,
    writer_survives sampleHpack sample_compact .worker () download last modest ran⟩

/-! Ids over the life of a tunnel. -/

def getRoot : Event := .openStream "GET" "https" "" "/" ⟨[], List.nodup_nil⟩ true

/-- A request that is answered and gone before the next. -/
def round (id : StreamID) : List Action := [.event getRoot, .write, .event (.finish id)]

structure Idle {Enc : Type} (st : State Enc) (opened : Nat) : Prop where
  base : Base st
  counter : st.nextStreamID = 2 * opened - 1
  writer : st.writer = none
  queue : st.queue = []
  streams : st.streams = []
  unlimited : st.peerMaxStreams = noStreamLimit
  serving : st.draining = false

section Rounds

variable {Enc Dec : Type} {hpack : Hpack Enc Dec} {st : State Enc}

theorem nextID_round {opened : Nat} (few : opened ≤ 2 ^ 30) :
    nextID (2 * opened - 1) = 2 * opened + 1 := by
  unfold nextID
  split <;> omega

def rootRequest (id : StreamID) : Message :=
  .request id "GET" "https" "" "/" ⟨[], List.nodup_nil⟩ true

theorem listSize_rootRequest (id : StreamID) : listSize (rootRequest id) < 2 ^ 24 := by
  change listSize (rootRequest 0) < 2 ^ 24
  decide +kernel

/-- An idle connection with the HEADERS of one more request queued. -/
def State.opening (st : State Enc) (id : StreamID) : State Enc :=
  { st with
    nextStreamID := id
    streams := [id]
    issued := id :: st.issued
    queue := [.headers (rootRequest id)] }

theorem open_idle {opened : Nat} (idle : Idle st opened) (few : opened ≤ 2 ^ 30) :
    step hpack .proxy st (.event getRoot) = some (st.opening (2 * opened + 1)) := by
  have may : Enabled .proxy st getRoot := by
    refine ⟨rfl, idle.serving, ?_⟩
    rw [idle.streams, idle.unlimited]
    decide
  have id : nextID st.nextStreamID = 2 * opened + 1 := by
    rw [idle.counter, nextID_round few]
  rw [step, if_pos may]
  simp only [getRoot, bookkeep, intents, id, idle.queue, idle.streams, List.nil_append,
    State.opening, rootRequest]

theorem write_head (hpack : Hpack Enc Dec) (role : Role) {st : State Enc} {intent : Intent}
    {rest : List Intent} (running : st.writer = none) (head : st.queue = intent :: rest) :
    step hpack role st .write =
      if accepted intent (processIntent hpack st.sender intent).2 then
        some { st with
          sender := (processIntent hpack st.sender intent).1
          queue := rest
          written := st.written ++ [⟨intent, (processIntent hpack st.sender intent).2⟩] }
      else some { st with
        sender := (processIntent hpack st.sender intent).1
        writer := some .rejected } := by
  simp only [step, running, head]

theorem round_idle (compact : Compact hpack) {opened : Nat} (idle : Idle st opened)
    (few : opened < 2 ^ 30) :
    ∃ last, run (step hpack .proxy) st (round (2 * opened + 1)) = some last ∧
      Idle last (opened + 1) := by
  have legal : ValidStreamID (2 * opened + 1) := ⟨Nat.succ_pos _, by omega⟩
  have fine : Acceptable (.headers (rootRequest (2 * opened + 1))) :=
    ⟨legal, listSize_rootRequest _⟩
  have running : (st.opening (2 * opened + 1)).writer = none := idle.writer
  have sound : Sound toLower (st.opening (2 * opened + 1)).sender.lowerNames := idle.base.sound
  have written := write_head hpack .proxy running rfl
  rw [if_pos (accepted_of_acceptable compact sound fine)] at written
  refine ⟨?last, ?ran, ?idle⟩
  case ran =>
    rw [round, run, open_idle idle (by omega), Option.bind_some, run, written, Option.bind_some]
    rfl
  case idle =>
    refine ⟨⟨processIntent_sound idle.base.sound _, idle.base.size, idle.base.captured⟩, ?_,
      idle.writer, rfl, ?_, idle.unlimited, idle.serving⟩
    · change 2 * opened + 1 = 2 * (opened + 1) - 1
      omega
    · simp [bookkeep, State.opening]

theorem rounds_idle (compact : Compact hpack) (enc : Enc) (opened : Nat) (few : opened ≤ 2 ^ 30) :
    ∃ trace last, run (step hpack .proxy) (State.new enc) trace = some last ∧
      Idle last opened := by
  induction opened with
  | zero => exact ⟨[], State.new enc, rfl, ⟨base_new enc, rfl, rfl, rfl, rfl, rfl, rfl⟩⟩
  | succ opened ih =>
      obtain ⟨trace, middle, ran, idle⟩ := ih (by omega)
      obtain ⟨last, more, fresh⟩ := round_idle compact idle (by omega)
      exact ⟨_, last, run_trans ran more, fresh⟩

/-- After 2^30 requests the next id is above 2^31-1, and the framer's error ends
the writer. -/
theorem ids_run_out (compact : Compact hpack) (enc : Enc) :
    ∃ trace last, run (step hpack .proxy) (State.new enc) trace = some last ∧
      last.writer = some .rejected := by
  obtain ⟨trace, middle, ran, idle⟩ := rounds_idle compact enc (2 ^ 30) (Nat.le_refl _)
  have running : (middle.opening (2 * 2 ^ 30 + 1)).writer = none := idle.writer
  have illegal : ¬ ValidStreamID (rootRequest (2 * 2 ^ 30 + 1)).streamID := by decide
  have fails : ∀ payload, accepted (.headers (rootRequest (2 * 2 ^ 30 + 1))) payload = false := by
    intro payload
    simp only [accepted, illegal, decide_false, Bool.and_false]
  have written := write_head hpack .proxy running rfl
  rw [fails, if_neg (by simp)] at written
  refine ⟨trace ++ [.event getRoot, .write], ?last, run_trans ran ?ran, ?rejected⟩
  case ran =>
    rw [run, open_idle idle (Nat.le_refl _), Option.bind_some, run, written]
    rfl
  case rejected => rfl

end Rounds

theorem one_stream_kills_writer : ¬ ∀ trace last,
    run (step sampleHpack .proxy) (State.new ()) trace = some last →
      last.writer ≠ some .rejected := by
  intro claim
  obtain ⟨trace, last, ran, rejected⟩ := ids_run_out sample_compact ()
  exact claim trace last ran rejected

end ReverseHttp.FrameLimits
