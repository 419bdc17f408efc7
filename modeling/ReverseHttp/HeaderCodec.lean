import ReverseHttp.HeaderBlocks
import ReverseHttp.Memo
import Mathlib

/-!
Header blocks from one connection to the next: `encodeAndWriteRequestHeaders`
and `encodeAndWriteResponseHeaders` on the sender's writer, `decodeBlock` and
`emitHeader` on the receiver's frame reader. HPACK is a parameter. What a block
leaves behind is part of the state: the encoder's and the decoder's tables, the
two name caches and the receiver's scratch fields.
-/

namespace ReverseHttp.HeaderCodec

open Transition Wire NetHttp Memo HeaderBlocks

/-- `writeField` is one `enc.WriteField` with the bytes it appends. `write` is
`dec.Write` followed by `dec.Close` on one block: the fields emitted, and
whether both succeeded. -/
structure Hpack (Enc Dec : Type) where
  writeField : Enc → Field → Enc × Bytes
  setMaxDynamicTableSize : Enc → Nat → Enc
  write : Dec → Bytes → Dec × List Field × Bool

section Names

/-- The copy is only made when there is something to change. -/
def toLower (s : String) : String :=
  if s.toList.any Char.isUpper then String.ofList (s.toList.map Char.toLower) else s

def forbiddenForwardHeader (lk : String) : Bool :=
  lk == "connection" || lk == "proxy-connection" || lk == "keep-alive" || lk == "upgrade" ||
    lk == "transfer-encoding"

def commonCanonNames : Memo.Table String String :=
  [("accept", "Accept"),
    ("accept-encoding", "Accept-Encoding"),
    ("accept-language", "Accept-Language"),
    ("authorization", "Authorization"),
    ("cache-control", "Cache-Control"),
    ("content-encoding", "Content-Encoding"),
    ("content-length", "Content-Length"),
    ("content-type", "Content-Type"),
    ("cookie", "Cookie"),
    ("host", "Host"),
    ("if-modified-since", "If-Modified-Since"),
    ("if-none-match", "If-None-Match"),
    ("origin", "Origin"),
    ("range", "Range"),
    ("referer", "Referer"),
    ("user-agent", "User-Agent"),
    ("x-forwarded-for", "X-Forwarded-For"),
    ("x-forwarded-proto", "X-Forwarded-Proto"),
    ("x-real-ip", "X-Real-Ip"),
    ("x-request-id", "X-Request-Id")]

def commonLowerNames : Memo.Table String String :=
  [("Content-Type", "content-type"),
    ("Content-Length", "content-length"),
    ("Content-Encoding", "content-encoding"),
    ("Cache-Control", "cache-control"),
    ("Date", "date"),
    ("Etag", "etag"),
    ("Expires", "expires"),
    ("Last-Modified", "last-modified"),
    ("Location", "location"),
    ("Server", "server"),
    ("Set-Cookie", "set-cookie"),
    ("Vary", "vary"),
    ("X-Request-Id", "x-request-id"),
    ("X-Content-Type-Options", "x-content-type-options")]

def statusStrings : List String := (List.range 600).map fun i : Nat => itoa (i : Int)

def statusString (code : Int) : String :=
  if 0 ≤ code ∧ code < statusStrings.length then statusStrings.getD code.toNat "" else itoa code

theorem commonCanonNames_sound : Sound canonicalMIMEHeaderKey commonCanonNames := by
  decide +kernel

theorem commonLowerNames_sound : Sound toLower commonLowerNames := by
  decide +kernel

theorem statusString_eq (code : Int) : statusString code = itoa code := by
  have length : statusStrings.length = 600 := by
    rw [statusStrings, List.length_map, List.length_range]
  unfold statusString
  split
  · rename_i small
    have inside : code.toNat < statusStrings.length := by omega
    have back : ((code.toNat : Nat) : Int) = code := by omega
    rw [List.getD_eq_getElem _ _ inside]
    simp only [statusStrings, List.getElem_map, List.getElem_range, back]
  · rfl

theorem toList_toLower (s : String) : (toLower s).toList = s.toList.map Char.toLower := by
  unfold toLower
  split
  · simp
  · rename_i lower
    simp only [List.any_eq_true, not_exists, not_and] at lower
    have fixed : s.toList.map Char.toLower = s.toList.map id :=
      List.map_congr_left fun c member => Char.toLower_eq_of_not_isUpper (lower c member)
    rw [fixed, List.map_id]

theorem isToken_toLower (c : Char) : isToken c.toLower = isToken c := by
  by_cases upper : c.isUpper
  · have alpha : c.isAlpha = true := by simp [Char.isAlpha, upper]
    simp [isToken, Char.isAlphanum, alpha]
  · rw [Char.toLower_eq_of_not_isUpper upper]

theorem canonicalFrom_toLower (upper : Bool) (chars : List Char) :
    canonicalFrom upper (chars.map Char.toLower) = canonicalFrom upper chars := by
  induction chars generalizing upper with
  | nil => rfl
  | cons c rest ih => cases upper <;> simp [canonicalFrom, ih]

/-- Lower-casing a name does not change its canonical form. -/
theorem canonical_toLower {name : String} (token : name.toList.all isToken = true) :
    canonicalMIMEHeaderKey (toLower name) = canonicalMIMEHeaderKey name := by
  have lowered : (name.toList.map Char.toLower).all isToken = true := by
    simpa [isToken_toLower] using token
  rw [canonicalMIMEHeaderKey, toList_toLower, if_pos lowered, canonicalFrom_toLower,
    canonicalMIMEHeaderKey, if_pos token]

end Names

/-! The sending side. -/

abbrev HeaderMap := { entries : Header // (entries.map Prod.fst).Nodup }

/-- A `wkRequestHeaders` or `wkResponseHeaders` intent. -/
inductive Message where
  | request (streamID : StreamID) (method scheme authority path : String) (header : HeaderMap)
      (endStream : Bool)
  | response (streamID : StreamID) (status : Int) (header : HeaderMap) (endStream : Bool)
  deriving DecidableEq

def Message.streamID : Message → StreamID
  | .request id .. | .response id .. => id

def Message.header : Message → HeaderMap
  | .request _ _ _ _ _ header _ | .response _ _ header _ => header

def Message.endStream : Message → Bool
  | .request _ _ _ _ _ _ ended | .response _ _ _ ended => ended

structure Sender (Enc : Type) where
  enc : Enc
  encBuf : Bytes
  lowerNames : Memo.Table String String
  deriving DecidableEq

section Encode

variable {Enc Dec : Type} (hpack : Hpack Enc Dec)

def Sender.writeField (c : Sender Enc) (field : Field) : Sender Enc :=
  let written := hpack.writeField c.enc field
  { c with enc := written.1, encBuf := c.encBuf ++ written.2 }

/-- One round of the outer loop of `encodeRegularHeaders`. -/
def Sender.encodeEntry (c : Sender Enc) (entry : String × List String) : Sender Enc :=
  let lk := fetch toLower c.lowerNames entry.1
  let c := { c with lowerNames := lk.2 }
  if forbiddenForwardHeader lk.1 then c
  else entry.2.foldl (fun c v => c.writeField hpack ⟨lk.1, v⟩) c

def Sender.encodeRegularHeaders (c : Sender Enc) (header : Header) : Sender Enc :=
  header.foldl (Sender.encodeEntry hpack) c

def Sender.reset (c : Sender Enc) : Sender Enc := { c with encBuf := [] }

def encodeAndWriteResponseHeaders (c : Sender Enc) (status : Int) (header : Header) : Sender Enc :=
  let c := c.reset.writeField hpack ⟨":status", statusString status⟩
  c.encodeRegularHeaders hpack header

def encodeAndWriteRequestHeaders (c : Sender Enc) (method scheme authority path : String)
    (header : Header) : Sender Enc :=
  let c := c.reset.writeField hpack ⟨":method", method⟩
  let scheme := if scheme = "" then "https" else scheme
  let c := c.writeField hpack ⟨":scheme", scheme⟩
  let c := if authority ≠ "" then c.writeField hpack ⟨":authority", authority⟩ else c
  let c := c.writeField hpack ⟨":path", path⟩
  c.encodeRegularHeaders hpack header

/-- The block of the frame is in `encBuf` afterwards. -/
def Sender.processIntent (c : Sender Enc) : Message → Sender Enc
  | .request _ method scheme authority path header _ =>
      encodeAndWriteRequestHeaders hpack c method scheme authority path header.1
  | .response _ status header _ => encodeAndWriteResponseHeaders hpack c status header.1

end Encode

/-! The receiving side. -/

/-- `scratchHeader` is nil between blocks; a nil map reads as an empty one. -/
structure Receiver (Dec : Type) where
  dec : Dec
  canonNames : Memo.Table String String
  scratchMethod : String
  scratchPath : String
  scratchAuthority : String
  scratchStatus : String
  scratchHeader : Header
  deriving DecidableEq

section Decode

variable {Enc Dec : Type} (hpack : Hpack Enc Dec)

def Receiver.emitHeader (c : Receiver Dec) (field : Field) : Receiver Dec :=
  if field.name = ":method" then { c with scratchMethod := field.value }
  else if field.name = ":path" then { c with scratchPath := field.value }
  else if field.name = ":authority" then { c with scratchAuthority := field.value }
  else if field.name = ":status" then { c with scratchStatus := field.value }
  else if field.name = ":scheme" then c
  else
    let canon := fetch canonicalMIMEHeaderKey c.canonNames field.name
    { c with
      canonNames := canon.2
      scratchHeader := c.scratchHeader.add canon.1 field.value }

/-- The start of `decodeBlock`. `pooled` is the map that `HeaderPool` hands out,
with whatever is in it. -/
def Receiver.resetScratch (c : Receiver Dec) (pooled : Header) : Receiver Dec :=
  { c with
    scratchMethod := ""
    scratchPath := ""
    scratchAuthority := ""
    scratchStatus := ""
    scratchHeader := pooled.clear }

def Receiver.decodedHeaders (c : Receiver Dec) (streamID : StreamID) (streamEnded : Bool) :
    DecodedHeaders :=
  { header := c.scratchHeader
    method := c.scratchMethod
    path := c.scratchPath
    authority := c.scratchAuthority
    status := c.scratchStatus
    streamID := streamID
    endStream := streamEnded }

/-- `dec.Write` and `dec.Close`; the decoder calls `emitHeader` for each field, up
to the first error. -/
def Receiver.write (c : Receiver Dec) (block : Bytes) : Receiver Dec × Bool :=
  let emitted := hpack.write c.dec block
  (emitted.2.1.foldl Receiver.emitHeader { c with dec := emitted.1 }, emitted.2.2)

def Receiver.decodeBlock (c : Receiver Dec) (pooled : Header) (streamID : StreamID) (block : Bytes)
    (streamEnded : Bool) : Receiver Dec × Except H2Error DecodedHeaders :=
  let written := (c.resetScratch pooled).write hpack block
  ({ written.1 with scratchHeader := [] },
    if written.2 then .ok (written.1.decodedHeaders streamID streamEnded) else .error .hpackDecode)

end Decode

/-! One direction of a tunnel. -/

structure State (Enc Dec : Type) where
  sender : Sender Enc
  receiver : Receiver Dec
  sent : List Message
  received : List (Except H2Error DecodedHeaders)

def State.new {Enc Dec : Type} (enc : Enc) (dec : Dec) : State Enc Dec :=
  { sender := ⟨enc, [], commonLowerNames⟩
    receiver := ⟨dec, commonCanonNames, "", "", "", "", []⟩
    sent := []
    received := [] }

/-- A header intent, with the contents of the pooled map it is decoded into, or
a `wkSetMaxDynTab`. -/
inductive Action where
  | headers (message : Message) (pooled : Header)
  | setMaxDynTab (val : Nat)

def Action.message? : Action → Option Message
  | .headers message _ => some message
  | .setMaxDynTab _ => none

/-- `SetMaxReadFrameSize(16384)`: a larger frame ends the receiver's loop. -/
def maxReadFrameSize : Nat := 16384

def step {Enc Dec : Type} (hpack : Hpack Enc Dec) (st : State Enc Dec) :
    Action → Option (State Enc Dec)
  | .headers message pooled =>
      let sender := st.sender.processIntent hpack message
      if sender.encBuf.length ≤ maxReadFrameSize then
        let decoded := st.receiver.decodeBlock hpack pooled message.streamID sender.encBuf
          message.endStream
        some
          { sender := sender
            receiver := decoded.1
            sent := st.sent ++ [message]
            received := st.received ++ [decoded.2] }
      else none
  | .setMaxDynTab val =>
      some { st with
        sender := { st.sender with enc := hpack.setMaxDynamicTableSize st.sender.enc val } }

/-! What is on the wire. -/

def regularFields (header : Header) : List Field :=
  header.flatMap fun entry =>
    if forbiddenForwardHeader (toLower entry.1) then []
    else entry.2.map fun v => ⟨toLower entry.1, v⟩

def pseudoFields : Message → List Field
  | .request _ method scheme authority path _ _ =>
      [⟨":method", method⟩, ⟨":scheme", if scheme = "" then "https" else scheme⟩] ++
        (if authority ≠ "" then [⟨":authority", authority⟩] else []) ++ [⟨":path", path⟩]
  | .response _ status _ _ => [⟨":status", itoa status⟩]

def wireFields (message : Message) : List Field :=
  pseudoFields message ++ regularFields message.header.1

section Sending

variable {Enc Dec : Type} {hpack : Hpack Enc Dec}

def Hpack.encode (hpack : Hpack Enc Dec) : Enc → List Field → Enc × Bytes
  | enc, [] => (enc, [])
  | enc, field :: rest =>
      let first := hpack.writeField enc field
      let tail := Hpack.encode hpack first.1 rest
      (tail.1, first.2 ++ tail.2)

theorem encode_append (enc : Enc) (fields more : List Field) :
    hpack.encode enc (fields ++ more) =
      ((hpack.encode (hpack.encode enc fields).1 more).1,
        (hpack.encode enc fields).2 ++ (hpack.encode (hpack.encode enc fields).1 more).2) := by
  induction fields generalizing enc with
  | nil => rfl
  | cons field rest ih => simp [Hpack.encode, ih]

/-- `next` is `c` after `fields` were written, its cache still sound. -/
structure Wrote (hpack : Hpack Enc Dec) (c : Sender Enc) (fields : List Field)
    (next : Sender Enc) : Prop where
  sound : Sound toLower next.lowerNames
  enc : next.enc = (hpack.encode c.enc fields).1
  encBuf : next.encBuf = c.encBuf ++ (hpack.encode c.enc fields).2

theorem Wrote.refl {c : Sender Enc} (sound : Sound toLower c.lowerNames) : Wrote hpack c [] c :=
  ⟨sound, rfl, (List.append_nil _).symm⟩

theorem Wrote.trans {c middle next : Sender Enc} {fields more : List Field}
    (first : Wrote hpack c fields middle) (second : Wrote hpack middle more next) :
    Wrote hpack c (fields ++ more) next := by
  refine ⟨second.sound, ?_, ?_⟩
  · rw [second.enc, first.enc, encode_append]
  · rw [second.encBuf, first.encBuf, first.enc, encode_append, List.append_assoc]

theorem Wrote.field {c : Sender Enc} (sound : Sound toLower c.lowerNames) (field : Field) :
    Wrote hpack c [field] (c.writeField hpack field) :=
  ⟨sound, rfl, by simp [Sender.writeField, Hpack.encode]⟩

theorem Wrote.values {c : Sender Enc} (sound : Sound toLower c.lowerNames) (name : String)
    (values : List String) :
    Wrote hpack c (values.map fun v => ⟨name, v⟩)
      (values.foldl (fun c v => c.writeField hpack ⟨name, v⟩) c) := by
  induction values generalizing c with
  | nil => exact .refl sound
  | cons value rest ih =>
      have first : Wrote hpack c [⟨name, value⟩] (c.writeField hpack ⟨name, value⟩) :=
        .field sound _
      exact first.trans (ih first.sound)

theorem Wrote.entry {c : Sender Enc} (sound : Sound toLower c.lowerNames)
    (entry : String × List String) :
    Wrote hpack c (regularFields [entry]) (c.encodeEntry hpack entry) := by
  have known : Sound toLower (fetch toLower c.lowerNames entry.1).2 := fetch_sound sound entry.1
  simp only [regularFields, List.flatMap_cons, List.flatMap_nil, List.append_nil,
    Sender.encodeEntry, fetch_value sound]
  by_cases dropped : forbiddenForwardHeader (toLower entry.1) = true
  · rw [if_pos dropped, if_pos dropped]
    exact ⟨known, rfl, (List.append_nil _).symm⟩
  · rw [if_neg dropped, if_neg dropped]
    -- looking the name up touches neither the encoder nor the buffer
    have written : Wrote hpack { c with lowerNames := (fetch toLower c.lowerNames entry.1).2 }
        (entry.2.map fun v => ⟨toLower entry.1, v⟩) _ := .values known (toLower entry.1) entry.2
    exact ⟨written.sound, written.enc, written.encBuf⟩

theorem Wrote.regular {c : Sender Enc} (sound : Sound toLower c.lowerNames) (header : Header) :
    Wrote hpack c (regularFields header) (c.encodeRegularHeaders hpack header) := by
  induction header generalizing c with
  | nil => exact .refl sound
  | cons entry rest ih =>
      have first : Wrote hpack c (regularFields [entry]) (c.encodeEntry hpack entry) :=
        .entry sound entry
      have split : regularFields (entry :: rest) = regularFields [entry] ++ regularFields rest := by
        simp [regularFields]
      rw [split]
      exact first.trans (ih first.sound)

theorem Wrote.intent {c : Sender Enc} (sound : Sound toLower c.lowerNames) (message : Message) :
    Wrote hpack c.reset (wireFields message) (c.processIntent hpack message) := by
  have start : Sound toLower c.reset.lowerNames := sound
  cases message with
  | response id status header ended =>
      have first : Wrote hpack c.reset [⟨":status", statusString status⟩] _ := .field start _
      simp only [wireFields, pseudoFields, ← statusString_eq]
      exact first.trans (.regular first.sound header.1)
  | request id method scheme authority path header ended =>
      have first : Wrote hpack c.reset [⟨":method", method⟩] _ := .field start _
      have second := first.trans
        (.field first.sound ⟨":scheme", if scheme = "" then "https" else scheme⟩)
      simp only [wireFields, pseudoFields, Sender.processIntent, encodeAndWriteRequestHeaders]
      by_cases named : authority ≠ ""
      · rw [if_pos named, if_pos named]
        have third := second.trans (.field second.sound ⟨":authority", authority⟩)
        have fourth := third.trans (.field third.sound ⟨":path", path⟩)
        exact fourth.trans (.regular fourth.sound header.1)
      · rw [if_neg named, if_neg named]
        have third := second.trans (.field second.sound ⟨":path", path⟩)
        exact third.trans (.regular third.sound header.1)

end Sending

section Receiving

variable {Enc Dec : Type} {hpack : Hpack Enc Dec}

/-- `next` is `c` after `fields` were emitted: what it would return is what the
model of the frame loops makes of them. -/
structure Emitted (c : Receiver Dec) (fields : List Field) (next : Receiver Dec) : Prop where
  sound : Sound canonicalMIMEHeaderKey next.canonNames
  dec : next.dec = c.dec
  decoded : ∀ id ended, next.decodedHeaders id ended =
    fields.foldl (emitHeader canonicalMIMEHeaderKey) (c.decodedHeaders id ended)

theorem Emitted.field {c : Receiver Dec} (sound : Sound canonicalMIMEHeaderKey c.canonNames)
    (field : Field) : Emitted c [field] (c.emitHeader field) := by
  refine ⟨?_, ?_, ?_⟩
  · unfold Receiver.emitHeader
    repeat' split
    all_goals first | exact sound | exact fetch_sound sound field.name
  · unfold Receiver.emitHeader
    repeat' split
    all_goals rfl
  · intro id ended
    simp only [List.foldl_cons, List.foldl_nil, Receiver.emitHeader, emitHeader, fetch_value sound]
    repeat' split
    all_goals rfl

theorem Emitted.fields {c : Receiver Dec} (sound : Sound canonicalMIMEHeaderKey c.canonNames)
    (fields : List Field) : Emitted c fields (fields.foldl Receiver.emitHeader c) := by
  induction fields generalizing c with
  | nil => exact ⟨sound, rfl, fun _ _ => rfl⟩
  | cons field rest ih =>
      have first := Emitted.field sound field
      have later := ih first.sound
      refine ⟨later.sound, later.dec.trans first.dec, ?_⟩
      intro id ended
      rw [List.foldl_cons, later.decoded, first.decoded]
      rfl

/-- `dec.Write` and `dec.Close`, with the fields of a block that fails dropped. -/
def Hpack.decode (hpack : Hpack Enc Dec) (dec : Dec) (block : Bytes) : Option (Dec × List Field) :=
  let emitted := hpack.write dec block
  if emitted.2.2 then some (emitted.1, emitted.2.1) else none

theorem write_emitted (hpack : Hpack Enc Dec) {c : Receiver Dec}
    (sound : Sound canonicalMIMEHeaderKey c.canonNames) (block : Bytes) :
    Emitted { c with dec := (hpack.write c.dec block).1 } (hpack.write c.dec block).2.1
      (c.write hpack block).1 :=
  Emitted.fields (c := { c with dec := (hpack.write c.dec block).1 }) sound _

theorem decodeBlock_keeps (hpack : Hpack Enc Dec) {c : Receiver Dec}
    (sound : Sound canonicalMIMEHeaderKey c.canonNames) (pooled : Header) (id : StreamID)
    (block : Bytes) (ended : Bool) :
    Sound canonicalMIMEHeaderKey (c.decodeBlock hpack pooled id block ended).1.canonNames ∧
      (c.decodeBlock hpack pooled id block ended).1.dec = (hpack.write c.dec block).1 := by
  have kept : Sound canonicalMIMEHeaderKey (c.resetScratch pooled).canonNames := sound
  have emitted := write_emitted hpack kept block
  exact ⟨emitted.sound, emitted.dec⟩

def blank (streamID : StreamID) (endStream : Bool) : DecodedHeaders :=
  ⟨[], "", "", "", "", streamID, endStream⟩

/-- Nothing of the cache, the scratch fields or the pooled map is in the result. -/
theorem decodeBlock_result {c : Receiver Dec} (sound : Sound canonicalMIMEHeaderKey c.canonNames)
    (pooled : Header) (id : StreamID) (block : Bytes) (ended : Bool) :
    (c.decodeBlock hpack pooled id block ended).2 =
      if (hpack.write c.dec block).2.2 then
        .ok ((hpack.write c.dec block).2.1.foldl (emitHeader canonicalMIMEHeaderKey)
          (blank id ended))
      else .error .hpackDecode := by
  have kept : Sound canonicalMIMEHeaderKey (c.resetScratch pooled).canonNames := sound
  have emitted := write_emitted hpack kept block
  rw [Receiver.decodeBlock, emitted.decoded id ended]
  rfl

theorem decodeBlock_refines {c : Receiver Dec} (sound : Sound canonicalMIMEHeaderKey c.canonNames)
    (pooled : Header) (conn : Conn Dec) (same : conn.table = c.dec) (id : StreamID) (block : Bytes)
    (ended : Bool) :
    (c.decodeBlock hpack pooled id block ended).2 =
      (decodeBlock hpack.decode canonicalMIMEHeaderKey conn id block ended).map Prod.snd := by
  rw [decodeBlock_result sound, decodeBlock, Hpack.decode, same]
  by_cases accepted : (hpack.write c.dec block).2.2 = true
  · simp [accepted, Except.map, blank]
  · simp [accepted, Except.map]

end Receiving

/-! The fields of a message, decoded. -/

/-- Names as `http.Header` keys them. -/
def CanonicalNames (header : Header) : Prop :=
  ∀ entry ∈ header, entry.1.toList.all isToken = true ∧
    canonicalMIMEHeaderKey entry.1 = entry.1

instance (header : Header) : Decidable (CanonicalNames header) :=
  inferInstanceAs (Decidable (∀ entry ∈ header, entry.1.toList.all isToken = true ∧
    canonicalMIMEHeaderKey entry.1 = entry.1))

/-- The part of a map that crosses the tunnel. -/
def forwarded (header : Header) : Header :=
  header.filter fun entry => !entry.2.isEmpty && !forbiddenForwardHeader (toLower entry.1)

theorem values_forwarded {header : Header} (distinct : (header.map Prod.fst).Nodup)
    (name : String) :
    (forwarded header).values name =
      if forbiddenForwardHeader (toLower name) then [] else header.values name := by
  induction header with
  | nil => simp [forwarded, Header.values_nil]
  | cons entry rest ih =>
      obtain ⟨other, values⟩ := entry
      obtain ⟨apart, others⟩ := List.nodup_cons.mp distinct
      have tail := ih others
      simp only [forwarded, List.filter_cons] at tail ⊢
      by_cases same : name = other
      · subst same
        have absent : Header.values rest name = [] := Header.values_absent rest name apart
        rw [absent] at tail
        simp only [Header.values_cons, ↓reduceIte]
        split
        · rename_i kept
          simp only [Bool.and_eq_true, Bool.not_eq_true'] at kept
          simp [Header.values_cons, kept.2]
        · rename_i dropped
          rw [tail]
          simp only [Bool.and_eq_true, Bool.not_eq_true', not_and, Bool.not_eq_false,
            List.isEmpty_eq_false_iff] at dropped
          by_cases empty : values = []
          · simp [empty]
          · simp [dropped empty]
      · rw [Header.values_cons, if_neg same, ← tail]
        split
        · rw [Header.values_cons, if_neg same]
        · rfl

/-- What the receiver should see of a message. -/
def expected : Message → DecodedHeaders
  | .request id method _ authority path header ended =>
      { header := forwarded header.1
        method := method
        path := path
        authority := authority
        status := ""
        streamID := id
        endStream := ended }
  | .response id status header ended =>
      { header := forwarded header.1
        method := ""
        path := ""
        authority := ""
        status := itoa status
        streamID := id
        endStream := ended }

/-- A token is not the name of a pseudo-header. -/
theorem toLower_ne_pseudo {name pseudo : String} (token : name.toList.all isToken = true)
    (colon : ':' ∈ pseudo.toList) : toLower name ≠ pseudo := by
  intro same
  rw [← same, toList_toLower] at colon
  obtain ⟨c, member, lowered⟩ := List.mem_map.mp colon
  have accepted := isToken_toLower c
  rw [lowered, List.all_eq_true.mp token c member] at accepted
  exact absurd accepted (by decide)

theorem emit_regular {name : String} (token : name.toList.all isToken = true)
    (canonical : canonicalMIMEHeaderKey name = name) (out : DecodedHeaders) (value : String) :
    emitHeader canonicalMIMEHeaderKey out ⟨toLower name, value⟩ =
      { out with header := out.header.add name value } := by
  simp only [emitHeader, canonical_toLower token, canonical]
  rw [if_neg (toLower_ne_pseudo token (by decide)), if_neg (toLower_ne_pseudo token (by decide)),
    if_neg (toLower_ne_pseudo token (by decide)), if_neg (toLower_ne_pseudo token (by decide)),
    if_neg (toLower_ne_pseudo token (by decide))]

theorem emit_values {name : String} (token : name.toList.all isToken = true)
    (canonical : canonicalMIMEHeaderKey name = name) (values : List String)
    (out : DecodedHeaders) :
    (values.map fun v => ⟨toLower name, v⟩).foldl (emitHeader canonicalMIMEHeaderKey) out =
      { out with header := values.foldl (fun h v => h.add name v) out.header } := by
  induction values generalizing out with
  | nil => rfl
  | cons value rest ih =>
      rw [List.map_cons, List.foldl_cons, emit_regular token canonical, ih]
      rfl

theorem emit_entry {entry : String × List String}
    (canonical : CanonicalNames [entry]) (out : DecodedHeaders)
    (fresh : entry.1 ∉ out.header.map Prod.fst) :
    (regularFields [entry]).foldl (emitHeader canonicalMIMEHeaderKey) out =
      { out with header := out.header ++ forwarded [entry] } := by
  obtain ⟨token, same⟩ := canonical entry (List.mem_singleton_self entry)
  by_cases dropped : forbiddenForwardHeader (toLower entry.1) = true
  · simp [regularFields, forwarded, dropped]
  · simp only [regularFields, List.flatMap_cons, List.flatMap_nil, List.append_nil]
    rw [if_neg dropped, emit_values token same, Header.addAll_fresh _ _ _ fresh]
    by_cases empty : entry.2 = []
    · simp [forwarded, empty]
    · simp [forwarded, empty, dropped]

/-- Decoding the fields of a map appends what crosses of it. -/
theorem emit_header {header : Header} (canonical : CanonicalNames header)
    (distinct : (header.map Prod.fst).Nodup) (out : DecodedHeaders)
    (fresh : ∀ name ∈ header.map Prod.fst, name ∉ out.header.map Prod.fst) :
    (regularFields header).foldl (emitHeader canonicalMIMEHeaderKey) out =
      { out with header := out.header ++ forwarded header } := by
  induction header generalizing out with
  | nil => simp [regularFields, forwarded]
  | cons entry rest ih =>
      obtain ⟨apart, others⟩ := List.nodup_cons.mp distinct
      have first : CanonicalNames [entry] := by
        intro other member
        exact canonical other (by simp [List.mem_singleton.mp member])
      have split : regularFields (entry :: rest) = regularFields [entry] ++ regularFields rest := by
        simp [regularFields]
      rw [split, List.foldl_append, emit_entry first out (fresh _ (by simp))]
      rw [ih (fun other member => canonical other (List.mem_cons_of_mem _ member)) others]
      · simp only [List.append_assoc]
        rw [forwarded, forwarded, ← List.filter_append]
        rfl
      · intro name member
        have old : name ∉ out.header.map Prod.fst := fresh name (List.mem_cons_of_mem _ member)
        have new : name ∉ (forwarded [entry]).map Prod.fst := by
          intro listed
          obtain ⟨other, kept, rfl⟩ := List.mem_map.mp listed
          rw [List.mem_singleton.mp (List.mem_filter.mp kept).1] at member
          exact apart member
        rw [List.map_append]
        exact fun listed => (List.mem_append.mp listed).elim old new

theorem emit_message {message : Message} (canonical : CanonicalNames message.header.1) :
    (wireFields message).foldl (emitHeader canonicalMIMEHeaderKey)
      (blank message.streamID message.endStream) = expected message := by
  have distinct := message.header.2
  rw [wireFields, List.foldl_append]
  cases message with
  | response id status header ended =>
      rw [emit_header canonical distinct]
      · rfl
      · exact fun _ _ listed => by cases listed
  | request id method scheme authority path header ended =>
      rw [emit_header canonical distinct]
      · by_cases named : authority = ""
        · subst named
          rfl
        · simp only [pseudoFields, if_pos named]
          rfl
      · intro _ _ listed
        by_cases named : authority = ""
        · subst named
          cases listed
        · simp only [pseudoFields, if_pos named] at listed
          cases listed

/-! Whole runs. -/

/-- Lossless and order preserving: the decoder gets back the fields of each
block, and stays in step with the encoder. A new table size is signalled in the
next block. -/
structure Lossless {Enc Dec : Type} (hpack : Hpack Enc Dec) (paired : Enc → Dec → Prop) :
    Prop where
  fields : ∀ enc dec fields, paired enc dec →
    (hpack.write dec (hpack.encode enc fields).2).2 = (fields, true)
  tables : ∀ enc dec fields, paired enc dec →
    paired (hpack.encode enc fields).1 (hpack.write dec (hpack.encode enc fields).2).1
  resized : ∀ enc dec val, paired enc dec → paired (hpack.setMaxDynamicTableSize enc val) dec

def Delivered (message : Message) (result : Except H2Error DecodedHeaders) : Prop :=
  CanonicalNames message.header.1 → result = .ok (expected message)

structure Valid {Enc Dec : Type} (paired : Enc → Dec → Prop) (st : State Enc Dec) : Prop where
  lower : Sound toLower st.sender.lowerNames
  canon : Sound canonicalMIMEHeaderKey st.receiver.canonNames
  tables : paired st.sender.enc st.receiver.dec
  delivered : List.Forall₂ Delivered st.sent st.received

section Run

variable {Enc Dec : Type} {hpack : Hpack Enc Dec} {paired : Enc → Dec → Prop}

theorem headers_valid (lossless : Lossless hpack paired) {st next : State Enc Dec}
    {message : Message} {pooled : Header} (valid : Valid paired st)
    (stepped : step hpack st (.headers message pooled) = some next) : Valid paired next := by
  obtain ⟨-, rfl⟩ := enabled stepped
  have wrote : Wrote hpack st.sender.reset (wireFields message) _ := .intent valid.lower message
  -- the block is exactly what HPACK makes of the fields, from the encoder's table
  have block : (st.sender.processIntent hpack message).encBuf =
      (hpack.encode st.sender.enc (wireFields message)).2 := wrote.encBuf
  have table : (st.sender.processIntent hpack message).enc =
      (hpack.encode st.sender.enc (wireFields message)).1 := wrote.enc
  have decoded := lossless.fields _ _ (wireFields message) valid.tables
  obtain ⟨sound, dec⟩ := decodeBlock_keeps hpack valid.canon pooled message.streamID
    (st.sender.processIntent hpack message).encBuf message.endStream
  refine ⟨wrote.sound, sound, ?_, ?_⟩
  · rw [dec, block, table]
    exact lossless.tables _ _ _ valid.tables
  · refine List.rel_append valid.delivered (.cons ?_ .nil)
    intro canonical
    rw [decodeBlock_result valid.canon, block, decoded]
    simp only [↓reduceIte, emit_message canonical]

theorem step_valid (lossless : Lossless hpack paired) {st next : State Enc Dec} {action : Action}
    (valid : Valid paired st) (stepped : step hpack st action = some next) :
    Valid paired next := by
  cases action with
  | headers message pooled => exact headers_valid lossless valid stepped
  | setMaxDynTab val =>
      obtain rfl := Option.some.inj stepped
      exact ⟨valid.lower, valid.canon, lossless.resized _ _ val valid.tables, valid.delivered⟩

theorem run_sent {st last : State Enc Dec} {trace : List Action}
    (ran : run (step hpack) st trace = some last) :
    last.sent = st.sent ++ trace.filterMap Action.message? := by
  induction trace generalizing st with
  | nil =>
      cases ran
      simp
  | cons action rest ih =>
      obtain ⟨next, stepped, tail⟩ := run_cons ran
      rw [ih tail]
      cases action with
      | headers message pooled =>
          obtain ⟨-, rfl⟩ := enabled stepped
          simp [Action.message?]
      | setMaxDynTab val =>
          obtain rfl := Option.some.inj stepped
          rfl

end Run

/-- Header maps through any history of one connection. `paired` relates the
tables of an encoder and a decoder that have seen the same blocks. -/
theorem headers_round_trip {Enc Dec : Type} (hpack : Hpack Enc Dec) (paired : Enc → Dec → Prop)
    (lossless : Lossless hpack paired) (enc : Enc) (dec : Dec) (inStep : paired enc dec)
    (trace : List Action) (last : State Enc Dec)
    (ran : run (step hpack) (State.new enc dec) trace = some last) :
    last.sent = trace.filterMap Action.message? ∧
      List.Forall₂ (fun message result =>
        CanonicalNames message.header.1 → result = .ok (expected message))
        last.sent last.received := by
  have fresh : Valid paired (State.new enc dec) :=
    ⟨commonLowerNames_sound, commonCanonNames_sound, inStep, .nil⟩
  have valid := run_invariant_all (fun _ _ _ valid stepped => step_valid lossless valid stepped)
    fresh ran
  exact ⟨run_sent ran, valid.delivered⟩

/-! A code without tables, to run the model with: three bytes for each character,
and two values that are no code point to end a name and a value. -/

def group (n : Nat) : Bytes :=
  [UInt8.ofNat (n % 256), UInt8.ofNat (n / 256 % 256), UInt8.ofNat (n / 65536)]

def endName : Nat := 0x110000

def endValue : Nat := 0x110001

def literal (field : Field) : Bytes :=
  field.name.toList.flatMap (fun c => group c.toNat) ++ group endName ++
    field.value.toList.flatMap (fun c => group c.toNat) ++ group endValue

def parse (name text : List Char) : Bytes → List Field × Bool
  | low :: middle :: high :: rest =>
      let n := low.toNat + 256 * middle.toNat + 65536 * high.toNat
      if n = endName then parse text [] rest
      else if n = endValue then
        let tail := parse [] [] rest
        (⟨String.ofList name, String.ofList text⟩ :: tail.1, tail.2)
      else parse name (text ++ [Char.ofNat n]) rest
  | [] => ([], true)
  | _ => ([], false)

def literalHpack : Hpack Unit Unit :=
  { writeField := fun _ field => ((), literal field)
    setMaxDynamicTableSize := fun _ _ => ()
    write := fun _ block => ((), parse [] [] block) }

theorem parse_group (name text : List Char) {n : Nat} (small : n < 2 ^ 24) (rest : Bytes) :
    parse name text (group n ++ rest) =
      if n = endName then parse text [] rest
      else if n = endValue then
        (⟨String.ofList name, String.ofList text⟩ :: (parse [] [] rest).1, (parse [] [] rest).2)
      else parse name (text ++ [Char.ofNat n]) rest := by
  have whole : n % 256 + 256 * (n / 256 % 256) + 65536 * (n / 65536) = n := by omega
  have top : n / 65536 < 256 := by omega
  simp [group, parse, whole, Nat.mod_eq_of_lt top]

theorem parse_chars (name text chars : List Char) (rest : Bytes) :
    parse name text (chars.flatMap (fun c => group c.toNat) ++ rest) =
      parse name (text ++ chars) rest := by
  induction chars generalizing text with
  | nil => simp
  | cons c chars ih =>
      have valid : c.toNat < 0x110000 := by
        rcases c.valid with low | high
        · exact Nat.lt_trans low (by decide)
        · exact high.2
      rw [List.flatMap_cons, List.append_assoc, parse_group _ _ (by omega)]
      rw [if_neg (by simp only [endName]; omega), if_neg (by simp only [endValue]; omega), ih]
      simp

theorem parse_literal (field : Field) (rest : Bytes) :
    parse [] [] (literal field ++ rest) =
      (field :: (parse [] [] rest).1, (parse [] [] rest).2) := by
  simp only [literal, List.append_assoc]
  rw [parse_chars, parse_group _ _ (by decide), if_pos rfl, parse_chars,
    parse_group _ _ (by decide), if_neg (by decide), if_pos rfl]
  simp

theorem literal_lossless : Lossless literalHpack fun _ _ => True := by
  refine ⟨?_, fun _ _ _ _ => trivial, fun _ _ _ _ => trivial⟩
  intro enc dec fields _
  induction fields generalizing enc with
  | nil => rfl
  | cons field rest ih =>
      have tail : parse [] [] (literalHpack.encode () rest).2 = (rest, true) := ih ()
      change parse [] [] (literal field ++ (literalHpack.encode () rest).2) = (field :: rest, true)
      rw [parse_literal, tail]

def greeting : Message :=
  .request 1 "POST" "" "app.test" "/in?x=1"
    ⟨[("Accept", ["text/html", "*/*"]), ("Connection", ["close"]), ("X-None", []),
      ("X-Trace", ["7"])], by decide⟩ false

def reply : Message :=
  .response 1 503 ⟨[("Retry-After", ["2"]), ("X-Trace", ["7", "8"])], by decide⟩ true

def exchange : List Action :=
  [.headers greeting [], .setMaxDynTab 0, .headers reply [("Cookie", ["a=1"])]]

/-- The second message is decoded into a map that still holds an old entry. -/
theorem headers_round_trip_twice : ∃ last,
    run (step literalHpack) (State.new () ()) exchange = some last ∧
    last.received = [
      .ok ⟨[("Accept", ["text/html", "*/*"]), ("X-Trace", ["7"])], "POST", "/in?x=1", "app.test",
        "", 1, false⟩,
      .ok ⟨[("Retry-After", ["2"]), ("X-Trace", ["7", "8"])], "", "", "", "503", 1, true⟩] := by
  obtain ⟨last, ran⟩ : ∃ last,
      run (step literalHpack) (State.new () ()) exchange = some last :=
    Option.isSome_iff_exists.mp (by decide +kernel)
  refine ⟨last, ran, ?_⟩
  obtain ⟨sent, delivered⟩ :=
    headers_round_trip literalHpack _ literal_lossless () () trivial exchange last ran
  rw [sent] at delivered
  obtain ⟨first, rest, received, others, all⟩ := List.forall₂_cons_left_iff.mp delivered
  obtain ⟨second, rest', received', empty, all'⟩ := List.forall₂_cons_left_iff.mp others
  obtain rfl := List.forall₂_nil_left_iff.mp empty
  rw [all, all', received (by decide +kernel), received' (by decide +kernel)]
  decide +kernel

end ReverseHttp.HeaderCodec
