import ReverseHttp.Forward

/-!
Interim (1xx) response blocks through `Proxy.forward`. The response slot of a
`clientStream` is filled once, so the first block of the stream is the one the
public caller is shown, whatever follows it. A 1xx block handed to
`WriteHeader` is sent as interim and leaves the implicit 200 for the final
head, together with the interim block's fields.
-/

namespace ReverseHttp.InterimResponse

open Transition Wire BodyQueue NetHttp Forward

/-- What the worker sends on the stream. -/
def script (interims : List Block) (final : Block) (datas : List Bytes) : List Event :=
  (interims ++ [final]).map .headers ++ datas.map .data ++ [.endStream]

def event? : Action → Option Event
  | .tunnel event => some event
  | _ => none

def events (trace : List Action) : List Event := trace.filterMap event?

/-- Neither side breaks the exchange off. -/
def Calm : Action → Prop
  | .readBody alive => alive = true
  | .cancel | .detach | .tunnel (.fail _) | .tunnel (.failBody _) => False
  | _ => True

instance (action : Action) : Decidable (Calm action) := by
  induction action using Forward.Action.casesOn with
  | tunnel event =>
      induction event using Forward.Event.casesOn <;> dsimp only [Calm] <;> infer_instance
  | _ => dsimp only [Calm]; infer_instance

def Ended (st : State) : Prop := st.phase = .returned ∨ st.phase = .panicked

instance (st : State) : Decidable (Ended st) := inferInstanceAs (Decidable (_ ∨ _))

/-- A whole run of `forward` against the worker's script. -/
structure Serves (interims : List Block) (final : Block) (datas : List Bytes)
    (trace : List Action) (last : State) : Prop where
  calm : ∀ action ∈ trace, Calm action
  delivered : events trace = script interims final datas
  ran : run step State.new trace = some last
  ended : Ended last

/-- The caller's final response is the worker's final block and its data. -/
structure Faithful (st : State) (final : Block) (datas : List Bytes) : Prop where
  returned : st.phase = .returned
  head : ∃ header, st.response.final = some (final.code, header) ∧
    ∀ name, header.values name = final.header.values name
  body : st.response.body = datas.flatten

/-- The final block is one `net/http` can send, and an interim block in front
of it is not 101 and hides nothing: the final block is a 200 with its fields. -/
structure Preserved (interims : List Block) (final : Block) (datas : List Bytes) : Prop where
  status : final.code ≤ 999
  fits : allowsBody (final.code, final.header) datas.flatten.length = true
  hidden : ∀ first, interims.head? = some first → first.code ≠ 101 ∧ final.code = 200 ∧
    ∀ name, first.header.values name = final.header.values name

/-! The block that fills the slot. -/

def block? : Event → Option Block
  | .headers block => some block
  | .data _ | .endStream | .fail _ | .failBody _ => none

def firstBlock (received : List Event) : Option Block := received.findSome? block?

@[simp]
theorem firstBlock_snoc (received : List Event) (event : Event) :
    firstBlock (received ++ [event]) = (firstBlock received).or (block? event) := by
  simp [firstBlock, List.findSome?_append]

/-- The status `writeResponse` passes to `WriteHeader`. -/
def writtenStatus (block : Block) : Int := if block.code = 0 then 502 else block.code

def InRange (block : Block) : Prop := 100 ≤ writtenStatus block ∧ writtenStatus block ≤ 999

/-- The status of the final head once `block` went through `WriteHeader`. -/
def shownStatus (block : Block) : Int :=
  if Informational (writtenStatus block) then 200 else writtenStatus block

theorem writeHeader_shown (w : Response) (block : Block) (fresh : w.final = none) :
    match w.writeHeader (writtenStatus block) with
    | none => ¬ InRange block
    | some next => InRange block ∧ next.header = w.header ∧ next.body = w.body ∧
        next.shown = (shownStatus block, w.header) := by
  unfold Response.writeHeader
  simp only [fresh, Option.isSome_none, Bool.false_eq_true, ↓reduceIte]
  by_cases outside : writtenStatus block < 100 ∨ 999 < writtenStatus block
  · simp only [outside, ↓reduceIte, InRange]
    omega
  · have inside : InRange block := by
      unfold InRange
      omega
    by_cases interim : Informational (writtenStatus block)
    · simp [outside, interim, inside, Response.shown, shownStatus]
    · simp [outside, interim, inside, Response.shown, shownStatus]

/-- What the public response owes to the first block of the stream. -/
structure Shows (response : Response) (block : Block) : Prop where
  range : InRange block
  fields : ∀ name, response.header.values name = block.header.values name
  shown : response.shown = (shownStatus block, response.header)

structure Tracks (st : State) : Prop where
  noErr : st.cs.respErr = none
  slot : st.cs.respDone = (firstBlock st.received).isSome
  held : ∀ block, firstBlock st.received = some block →
    st.cs.respStatus = block.code ∧ (st.phase.early = true → st.cs.respHeader = block.header)
  calm : st.cancelled = false ∧ st.detached = false
  closed : Event.endStream ∈ st.received → st.stream.dataDone = true
  shows : st.headWritten = true → ∃ block, firstBlock st.received = some block ∧
    Shows st.response block
  allowed : st.headWritten = true → st.abandoned = false →
    allowsBody st.response.shown st.response.body.length = true
  refused : st.abandoned = true → st.headWritten = true ∧
    st.response.body.length < (payload st.received).length ∧
    allowsBody st.response.shown (payload st.received).length = false
  present : st.phase = .reading → st.abandoned = false
  joining : st.phase = .joining → st.headWritten = true
  returned : st.phase = .returned → st.headWritten = true ∧
    st.response.final = some st.response.shown ∨ st.received = []
  panicked : st.phase = .panicked → ∃ block, firstBlock st.received = some block ∧ ¬ InRange block

theorem tracks_new : Tracks State.new := by
  constructor <;> simp [State.new, ClientStream.new, firstBlock]

/-- The watcher and the body pump touch nothing that is tracked. -/
theorem tracks_flags {st : State} (tracks : Tracks st) (watcher bodyDone : Bool) (resets : Nat) :
    Tracks { st with watcher := watcher, bodyDone := bodyDone, resets := resets } :=
  ⟨tracks.noErr, tracks.slot, tracks.held, tracks.calm, tracks.closed, tracks.shows,
    tracks.allowed, tracks.refused, tracks.present, tracks.joining, tracks.returned,
    tracks.panicked⟩

/-- Nothing was written before the head, so nothing was refused. -/
theorem not_gone_early {st : State} (tracks : Tracks st) (noHead : st.headWritten = false) :
    st.abandoned ≠ true := by
  intro gone
  simpa [noHead] using (tracks.refused gone).1

theorem openForward_tracks {st : State} (sound : Sound st) (tracks : Tracks st)
    (phase : st.phase = .start) (result : OpenResult) : Tracks (openForward st result) := by
  obtain ⟨-, noHead⟩ := sound.early (by simp [phase, Phase.early])
  have unread := sound.unopened phase
  have present := not_gone_early tracks noHead
  have refused : ∀ message status, Tracks (openError message status st) := by
    intro message status
    constructor
    · exact tracks.noErr
    · exact tracks.slot
    · simp [openError, unread, firstBlock]
    · exact tracks.calm
    · simp [openError, unread]
    · simp [openError, noHead]
    · simp [openError, noHead]
    · exact fun gone => absurd gone present
    · simp [openError]
    · simp [openError]
    · exact fun _ => Or.inr unread
    · simp [openError]
  cases result with
  | noWorker => exact refused _ _
  | saturated => exact refused _ _
  | draining => exact refused _ _
  | failed message => exact refused _ _
  | opened id window =>
      constructor
      · exact tracks.noErr
      · exact tracks.slot
      · simp [openForward, unread, firstBlock]
      · exact tracks.calm
      · simp [openForward, unread]
      · simp [openForward, noHead]
      · simp [openForward, noHead]
      · exact fun gone => absurd gone present
      · simp [openForward]
      · simp [openForward]
      · simp [openForward]
      · simp [openForward]

theorem selectResponse_tracks {st : State} (tracks : Tracks st) (phase : st.phase = .waiting) :
    Tracks (selectResponse st) := by
  simp only [selectResponse, tracks.noErr]
  constructor
  · exact tracks.noErr
  · exact tracks.slot
  · intro block first
    obtain ⟨status, header⟩ := tracks.held block first
    exact ⟨status, fun _ => header (by simp [phase, Phase.early])⟩
  · exact tracks.calm
  · exact tracks.closed
  · exact tracks.shows
  · exact tracks.allowed
  · exact tracks.refused
  · simp
  · simp
  · simp
  · simp

/-- The head goes out with the fields and the status of the first block. -/
theorem writeHead_tracks {st : State} (sound : Sound st) (tracks : Tracks st)
    (phase : st.phase = .header) : Tracks (writeHead st) := by
  obtain ⟨fresh, noHead⟩ := sound.early (by simp [phase, Phase.early])
  have ready : (firstBlock st.received).isSome = true := by
    rw [← tracks.slot]
    exact (sound.head (Or.inr phase)).2
  obtain ⟨block, first⟩ := Option.isSome_iff_exists.mp ready
  obtain ⟨status, header⟩ := tracks.held block first
  have header := header (by simp [phase, Phase.early])
  have present := not_gone_early tracks noHead
  have outcome := writeHeader_shown
    { st.response with header := st.response.header.copy st.cs.respHeader } block
    (by simp [fresh, Response.new])
  have sent : (if st.cs.respStatus = 0 then 502 else st.cs.respStatus) = writtenStatus block := by
    rw [status, writtenStatus]
  simp only [writeHead, sent]
  split at outcome
  · rename_i rejected
    rw [rejected]
    constructor
    · exact tracks.noErr
    · exact tracks.slot
    · exact fun other same => ⟨(tracks.held other same).1, by simp [Phase.early]⟩
    · exact tracks.calm
    · exact tracks.closed
    · simp [noHead]
    · simp [noHead]
    · exact fun gone => absurd gone present
    · simp
    · simp
    · simp
    · exact fun _ => ⟨block, first, outcome⟩
  · rename_i response written
    obtain ⟨range, sameHeader, empty, shown⟩ := outcome
    have empty : response.body = [] := by
      rw [empty, fresh]
      rfl
    rw [written]
    constructor
    · exact tracks.noErr
    · exact tracks.slot
    · exact fun other same => ⟨(tracks.held other same).1, by simp [Phase.early]⟩
    · exact tracks.calm
    · exact tracks.closed
    · refine fun _ => ⟨block, first, range, ?_, ?_⟩
      · intro name
        simp only [sameHeader, header, fresh, Response.new]
        rw [Header.values_copy [] block.header name (Header.nodup_ofFields block.fields)]
        rfl
      · rw [shown, sameHeader]
    · intro _ _
      simp [empty, allowsBody_zero]
    · exact fun gone => absurd gone present
    · exact fun _ => by simpa using present
    · simp
    · simp
    · simp

/-- Any change of the public response that keeps its head and, unless the
client is gone, stays within what the head allows. -/
theorem copy_tracks {st : State} (tracks : Tracks st) (phase : st.phase = .reading)
    (stream : Stream) (response : Response) (sameDone : stream.dataDone = st.stream.dataDone)
    (sameHeader : response.header = st.response.header)
    (sameShown : response.shown = st.response.shown)
    (allowed : st.headWritten = true → st.abandoned = false →
      allowsBody response.shown response.body.length = true)
    (present : st.abandoned = false) :
    Tracks { st with stream := stream, response := response } := by
  constructor
  · exact tracks.noErr
  · exact tracks.slot
  · exact tracks.held
  · exact tracks.calm
  · exact fun ended => sameDone ▸ tracks.closed ended
  · intro head
    obtain ⟨block, first, shows⟩ := tracks.shows head
    exact ⟨block, first, shows.range, by simpa [sameHeader] using shows.fields,
      by simpa [sameHeader, sameShown] using shows.shown⟩
  · exact allowed
  · exact fun gone => absurd gone (by simp [present])
  · exact fun _ => present
  · simp [phase]
  · simp [phase]
  · simp [phase]

theorem refused_of_write {st : State} (sound : Sound st) (head : st.headWritten = true)
    (present : st.abandoned = false) {bytes rest : Bytes} (nonempty : bytes ≠ [])
    (taken : pending st.stream = bytes ++ rest)
    (excess : allowsBody st.response.shown (st.response.body.length + bytes.length) = false) :
    st.response.body.length < (payload st.received).length ∧
      allowsBody st.response.shown (payload st.received).length = false := by
  have balanced := sound.bytes.resolve_left (by simp [present])
  have size : (payload st.received).length =
      st.response.body.length + (bytes.length + rest.length) := by
    simp [balanced, copied, head, taken]
  have positive : 0 < bytes.length := List.length_pos_iff.mpr nonempty
  refine ⟨by omega, ?_⟩
  by_contra allowed
  have order : st.response.body.length + bytes.length ≤ (payload st.received).length := by omega
  have smaller := allowsBody_mono order (by simpa using allowed)
  simp [excess] at smaller

theorem readBody_tracks {st next : State} (sound : Sound st) (tracks : Tracks st)
    (phase : st.phase = .reading) (stepped : readBody st true = some next) : Tracks next := by
  have head := sound.reading phase
  have present := tracks.present phase
  rcases readBody_cases sound.queue stepped with ⟨rfl, -, -⟩ |
    ⟨stream, bytes, -, sameDone, taken, -, ⟨rfl, -⟩ | ⟨response, rfl, written⟩ |
      ⟨-, gone⟩ | ⟨response, rfl, written⟩⟩
  · exact ⟨tracks.noErr, tracks.slot, fun block first => ⟨(tracks.held block first).1,
      by simp [Phase.early]⟩, tracks.calm, tracks.closed, tracks.shows, tracks.allowed,
      tracks.refused, by simp, fun _ => head, by simp, by simp⟩
  · exact copy_tracks tracks phase stream st.response sameDone rfl rfl tracks.allowed present
  · obtain ⟨body, shown, header, fits⟩ := write_accepted written
    refine copy_tracks tracks phase stream response sameDone header shown ?_ present
    intro _ _
    by_cases nothing : bytes = []
    · simpa [shown, body, nothing] using tracks.allowed head present
    · simpa [shown, body] using fits nothing
  · simp at gone
  · obtain ⟨rfl, nonempty, excess⟩ := write_refused written
    have refused := refused_of_write sound head present nonempty taken excess
    constructor
    · exact tracks.noErr
    · exact tracks.slot
    · exact fun block first => ⟨(tracks.held block first).1, by simp [abandon, Phase.early]⟩
    · exact tracks.calm
    · exact fun ended => sameDone ▸ tracks.closed ended
    · intro _
      obtain ⟨block, first, shows⟩ := tracks.shows head
      exact ⟨block, first, shows.range, by simpa [abandon] using shows.fields,
        by simpa [abandon] using shows.shown⟩
    · simp [abandon]
    · exact fun _ => ⟨head, by simpa [abandon] using refused⟩
    · simp [abandon]
    · exact fun _ => head
    · simp [abandon]
    · simp [abandon]

theorem joinBody_tracks {st : State} (tracks : Tracks st) (phase : st.phase = .joining) :
    Tracks { st with phase := .returned, response := st.response.finish } := by
  have head := tracks.joining phase
  constructor
  · exact tracks.noErr
  · exact tracks.slot
  · exact fun block first => ⟨(tracks.held block first).1, by simp [Phase.early]⟩
  · exact tracks.calm
  · exact tracks.closed
  · intro _
    obtain ⟨block, first, shows⟩ := tracks.shows head
    exact ⟨block, first, shows.range, by simpa using shows.fields, by simpa using shows.shown⟩
  · simpa using tracks.allowed
  · simpa using tracks.refused
  · simp
  · simp
  · exact fun _ => Or.inl ⟨head, by simp [Response.finish_final]⟩
  · simp

/-- One more event on a registered stream, whatever it does to the slot and to
the queue. A write once refused stays refused, for the body only grows. -/
theorem received_tracks {st : State} (tracks : Tracks st) (registered : st.phase.registered = true)
    (event : Event) (cs : ClientStream) (stream : Stream) (noErr : cs.respErr = none)
    (slot : cs.respDone = (firstBlock (st.received ++ [event])).isSome)
    (held : ∀ block, firstBlock (st.received ++ [event]) = some block →
      cs.respStatus = block.code ∧ (st.phase.early = true → cs.respHeader = block.header))
    (closed : Event.endStream ∈ st.received ++ [event] → stream.dataDone = true) :
    Tracks { st with cs := cs, stream := stream, received := st.received ++ [event] } := by
  have grows : (payload st.received).length ≤ (payload (st.received ++ [event])).length := by simp
  constructor
  · exact noErr
  · exact slot
  · exact held
  · exact tracks.calm
  · exact closed
  · intro head
    obtain ⟨block, first, shows⟩ := tracks.shows head
    exact ⟨block, by simp [first], shows⟩
  · exact tracks.allowed
  · intro gone
    obtain ⟨head, short, excess⟩ := tracks.refused gone
    refine ⟨head, Nat.lt_of_lt_of_le short grows, ?_⟩
    by_contra allowed
    simp [allowsBody_mono grows (by simpa using allowed)] at excess
  · exact tracks.present
  · exact tracks.joining
  · exact fun returned => absurd returned (registered_ne registered).2
  · intro (panicked : st.phase = .panicked)
    simp [panicked, Phase.registered] at registered

/-- Headers fill the slot exactly if no block came before them. -/
theorem deliverHeaders_tracks {st : State} (tracks : Tracks st)
    (registered : st.phase.registered = true) (block : Block) :
    Tracks { applyEvent st (.headers block) with received := st.received ++ [.headers block] } := by
  have closed : Event.endStream ∈ st.received ++ [.headers block] → st.stream.dataDone = true :=
    fun ended => tracks.closed (by simpa using ended)
  cases before : firstBlock st.received with
  | none =>
      have empty : st.cs.respDone = false := by simp [tracks.slot, before]
      apply received_tracks tracks registered (.headers block)
        (st.cs.deliverHeaders block.code block.header) st.stream
      · simpa [ClientStream.deliverHeaders, empty] using tracks.noErr
      · simp [ClientStream.deliverHeaders, empty, before, block?]
      · intro other first
        obtain rfl : block = other := by simpa [before, block?] using first
        simp [ClientStream.deliverHeaders, empty]
      · exact closed
  | some kept =>
      have full : st.cs.respDone = true := by simp [tracks.slot, before]
      have same : st.cs.deliverHeaders block.code block.header = st.cs := by
        simp [ClientStream.deliverHeaders, full]
      apply received_tracks tracks registered (.headers block)
        (st.cs.deliverHeaders block.code block.header) st.stream
      · rw [same]
        exact tracks.noErr
      · simp [same, full, before]
      · intro other first
        obtain rfl : kept = other := by simpa [before] using first
        rw [same]
        exact tracks.held kept before
      · exact closed

theorem event_tracks {st : State} (tracks : Tracks st) (registered : st.phase.registered = true)
    (event : Event) (calm : Calm (.tunnel event)) :
    Tracks { applyEvent st event with received := st.received ++ [event] } := by
  cases event with
  | headers block => exact deliverHeaders_tracks tracks registered block
  | data bytes =>
      have sameDone : (receiveData st.stream none bytes).dataDone = st.stream.dataDone := by
        unfold receiveData
        split <;> rfl
      apply received_tracks tracks registered (.data bytes) st.cs
        (receiveData st.stream none bytes) tracks.noErr
      · simpa [block?] using tracks.slot
      · simpa [block?] using tracks.held
      · exact fun ended => sameDone ▸ tracks.closed (by simpa using ended)
  | endStream =>
      apply received_tracks tracks registered .endStream st.cs (closeData st.stream) tracks.noErr
      · simpa [block?] using tracks.slot
      · simpa [block?] using tracks.held
      · exact fun _ => rfl
  | fail err => exact calm.elim
  | failBody err => exact calm.elim

theorem step_tracks {st next : State} {action : Action} (sound : Sound st) (tracks : Tracks st)
    (calm : Calm action) (stepped : step st action = some next) : Tracks next := by
  cases steps_of_step stepped with
  | openForward result phase => exact openForward_tracks sound tracks phase result
  | selectResponse phase _ => exact selectResponse_tracks tracks phase
  | selectCancelled _ cancelled => simp [tracks.calm.1] at cancelled
  | selectDetached _ detached => simp [tracks.calm.2] at detached
  | writeHead phase => exact writeHead_tracks sound tracks phase
  | readBody phase copied =>
      obtain rfl := calm
      exact readBody_tracks sound tracks phase copied
  | joinBody phase _ => exact joinBody_tracks tracks phase
  | tunnel event registered => exact event_tracks tracks registered event calm
  | watchCancelled _ _ => exact tracks_flags tracks false st.bodyDone (st.resets + 1)
  | watchDone _ _ => exact tracks_flags tracks false st.bodyDone st.resets
  | cancel => exact calm.elim
  | detach => exact calm.elim
  | pumpDone => exact tracks_flags tracks st.watcher true st.resets

/-! Delivering the script. -/

theorem openForward_received (st : State) (result : OpenResult) :
    (openForward st result).received = st.received := by
  cases result <;> rfl

theorem selectResponse_received (st : State) : (selectResponse st).received = st.received := by
  unfold selectResponse
  split <;> rfl

theorem writeHead_received (st : State) : (writeHead st).received = st.received := by
  simp only [writeHead]
  split <;> rfl

theorem readBody_received {st next : State} {alive : Bool} (ok : QueueOk st.stream)
    (copied : readBody st alive = some next) : next.received = st.received := by
  rcases readBody_cases ok copied with ⟨rfl, -⟩ |
    ⟨stream, bytes, -, -, -, -, ⟨rfl, -⟩ | ⟨response, rfl, -⟩ | ⟨rfl, -⟩ | ⟨response, rfl, -⟩⟩ <;>
    rfl

/-- Only tunnel events are recorded, each once. -/
theorem step_received {st next : State} {action : Action} (ok : QueueOk st.stream)
    (stepped : step st action = some next) :
    next.received = st.received ++ (event? action).toList := by
  cases steps_of_step stepped with
  | openForward result _ => simp [event?, openForward_received]
  | selectResponse _ _ => simp [event?, selectResponse_received]
  | writeHead _ => simp [event?, writeHead_received]
  | readBody _ copied => simp [event?, readBody_received ok copied]
  | selectDetached _ _ => simp [event?, replyError]
  | tunnel event _ => simp [event?]
  | selectCancelled _ _ => simp [event?]
  | joinBody _ _ => simp [event?]
  | watchCancelled _ _ => simp [event?]
  | watchDone _ _ => simp [event?]
  | cancel => simp [event?]
  | detach => simp [event?]
  | pumpDone => simp [event?]

theorem endStream_last {interims : List Block} {final : Block} {datas : List Bytes}
    {received rest : List Event} {event : Event}
    (delivered : received ++ event :: rest = script interims final datas) :
    Event.endStream ∉ received := by
  have before : received <+: (interims ++ [final]).map .headers ++ datas.map .data := by
    have short : received ++ [event] <+:
        (interims ++ [final]).map .headers ++ datas.map .data ++ [.endStream] :=
      ⟨rest, by simpa [script] using delivered⟩
    rcases List.prefix_concat_iff.mp short with whole | inside
    · exact (List.append_inj_left' whole rfl) ▸ List.prefix_refl _
    · exact (List.prefix_append _ _).trans inside
  intro ended
  simpa using before.subset ended

/-- A calm run along the script keeps both invariants. -/
theorem run_tracks {interims : List Block} {final : Block} {datas : List Bytes} {last : State}
    (trace : List Action) (st : State) (sound : Sound st) (tracks : Tracks st)
    (calm : ∀ action ∈ trace, Calm action)
    (delivered : st.received ++ events trace = script interims final datas)
    (ran : run step st trace = some last) :
    Sound last ∧ Tracks last ∧ last.received = script interims final datas := by
  induction trace generalizing st with
  | nil =>
      cases ran
      exact ⟨sound, tracks, by simpa [events] using delivered⟩
  | cons action rest ih =>
      obtain ⟨next, stepped, tail⟩ := run_cons ran
      have calmNow := calm action (by simp)
      -- the script itself never breaks the stream and ends with END_STREAM
      have orderly : Orderly st action := by
        cases action with
        | tunnel event =>
            cases event with
            | data bytes => exact endStream_last (by simpa [events, event?] using delivered)
            | fail err => exact calmNow.elim
            | failBody err => exact calmNow.elim
            | headers _ => trivial
            | endStream => trivial
        | _ => trivial
      refine ih next (step_sound sound orderly stepped)
        (step_tracks sound tracks calmNow stepped)
        (fun other member => calm other (by simp [member])) ?_ tail
      rw [step_received sound.queue stepped, ← delivered]
      cases found : event? action <;> simp [events, found]

theorem firstBlock_script (interims : List Block) (final : Block) (datas : List Bytes) :
    firstBlock (script interims final datas) = some (interims.headD final) := by
  cases interims <;> rfl

theorem payload_script (interims : List Block) (final : Block) (datas : List Bytes) :
    payload (script interims final datas) = datas.flatten := by
  have heads : ∀ blocks : List Block, payload (blocks.map .headers) = [] := by
    intro blocks
    simp [payload, Event.bytes]
  have bodies : payload (datas.map .data) = datas.flatten := by
    simp [payload, List.flatMap_map, Event.bytes, List.flatMap_id']
  have split : ∀ front back : List Event,
      payload (front ++ back) = payload front ++ payload back := by
    intro front back
    simp [payload]
  rw [script, payload_snoc, split, heads, bodies]
  simp [Event.bytes]

section Shown

variable {interims : List Block} {final : Block} {datas : List Bytes}

/-- In terms of the block that fills the slot. -/
theorem preserved_iff (interim : ∀ block ∈ interims, 100 ≤ block.code ∧ block.code ≤ 199)
    (isFinal : 200 ≤ final.code) :
    Preserved interims final datas ↔ InRange (interims.headD final) ∧
      shownStatus (interims.headD final) = final.code ∧
      (∀ name, (interims.headD final).header.values name = final.header.values name) ∧
      allowsBody (final.code, final.header) datas.flatten.length = true := by
  cases interims with
  | nil =>
      have written : writtenStatus final = final.code := if_neg (by omega)
      have shown : shownStatus final = final.code := by
        rw [shownStatus, written, if_neg (by unfold Informational; omega)]
      constructor
      · intro preserved
        have bound := preserved.status
        exact ⟨⟨by simp [written]; omega, by simpa [written] using bound⟩, shown, fun _ => rfl,
          preserved.fits⟩
      · rintro ⟨range, -, -, fits⟩
        exact ⟨by simpa [written] using range.2, fits, by simp⟩
  | cons first rest =>
      obtain ⟨low, high⟩ := interim first (by simp)
      have written : writtenStatus first = first.code := if_neg (by omega)
      have range : InRange first := by
        rw [InRange, written]
        omega
      constructor
      · intro preserved
        obtain ⟨plain, ok, same⟩ := preserved.hidden first rfl
        have shown : shownStatus first = 200 := by
          rw [shownStatus, written, if_pos ⟨low, high, plain⟩]
        exact ⟨range, by simp [shown, ok], same, preserved.fits⟩
      · rintro ⟨-, shown, same, fits⟩
        -- 101 is not interim for `net/http`: it would be shown as it is
        by_cases plain : first.code = 101
        · simp only [List.headD_cons, shownStatus, written, plain] at shown
          rw [if_neg (by simp [Informational])] at shown
          omega
        · simp only [List.headD_cons, shownStatus, written] at shown
          rw [if_pos ⟨low, high, plain⟩] at shown
          refine ⟨by omega, fits, ?_⟩
          intro block head
          obtain rfl : first = block := by simpa using head
          exact ⟨plain, shown.symm, same⟩

theorem shows_faithful_iff {st : State} (shows : Shows st.response (interims.headD final))
    (returned : st.phase = .returned) (finished : st.response.final = some st.response.shown)
    (interim : ∀ block ∈ interims, 100 ≤ block.code ∧ block.code ≤ 199)
    (isFinal : 200 ≤ final.code)
    (body : st.abandoned = false → st.response.body = datas.flatten ∧
      allowsBody st.response.shown datas.flatten.length = true)
    (short : st.abandoned = true → st.response.body.length < datas.flatten.length ∧
      allowsBody st.response.shown datas.flatten.length = false) :
    Faithful st final datas ↔ Preserved interims final datas := by
  rw [preserved_iff interim isFinal]
  have sameFields : (∀ name, (interims.headD final).header.values name = final.header.values name) →
      ∀ name, st.response.header.values name = final.header.values name :=
    fun same name => (shows.fields name).trans (same name)
  constructor
  · intro faithful
    obtain ⟨header, head, same⟩ := faithful.head
    rw [finished, shows.shown, Option.some.injEq, Prod.mk.injEq] at head
    obtain ⟨status, rfl⟩ := head
    have present : st.abandoned = false := by
      by_contra gone
      have less := (short (by simpa using gone)).1
      simp [faithful.body] at less
    have fits := (body present).2
    rw [shows.shown, status, allowsBody_congr _ same] at fits
    exact ⟨shows.range, status, fun name => (shows.fields name).symm.trans (same name), fits⟩
  · rintro ⟨-, status, same, fits⟩
    have present : st.abandoned = false := by
      by_contra gone
      have excess := (short (by simpa using gone)).2
      rw [shows.shown, status, allowsBody_congr _ (sameFields same), fits] at excess
      simp at excess
    refine ⟨returned, ⟨st.response.header, ?_, sameFields same⟩, (body present).1⟩
    rw [finished, shows.shown, status]

end Shown

/-! A run against the script always exists: deliver everything, then read. -/

theorem deliver_all (script : List Event) (st : State) (registered : st.phase.registered = true) :
    ∃ next, run step st (script.map .tunnel) = some next ∧ next.phase = st.phase := by
  induction script generalizing st with
  | nil => exact ⟨st, rfl, rfl⟩
  | cons event rest ih =>
      have same : (applyEvent st event).phase = st.phase := by cases event <;> rfl
      obtain ⟨next, ran, phase⟩ :=
        ih { applyEvent st event with received := st.received ++ [event] }
          (by simpa [same] using registered)
      refine ⟨next, ?_, phase.trans same⟩
      simpa [run, step, registered] using ran

/-- A finished body is read to its end. -/
theorem drain (st : State) (ok : QueueOk st.stream) (phase : st.phase = .reading)
    (done : st.stream.dataDone = true) :
    ∃ count next, run step st (List.replicate count (.readBody true)) = some next ∧
      next.phase = .joining ∧ next.bodyDone = st.bodyDone := by
  induction work : remaining st.stream using Nat.strong_induction_on generalizing st with
  | _ _ ih =>
    have enabled : ∃ next, readBody st true = some next := by
      rw [readBody]
      split
      · rename_i parked
        obtain ⟨-, -, -, -, -, waiting⟩ := read_spec ok parked
        simp [done] at waiting
      · exact ⟨_, rfl⟩
      · exact ⟨_, rfl⟩
      · split
        · exact ⟨_, rfl⟩
        · simp only [Bool.not_true, Bool.false_eq_true, ↓reduceIte]
          split <;> exact ⟨_, rfl⟩
    obtain ⟨next, copied⟩ := enabled
    have stepped : step st (.readBody true) = some next := by simp [step, phase, copied]
    have last : next.phase = .joining → next.bodyDone = st.bodyDone →
        ∃ count after, run step st (List.replicate count (.readBody true)) = some after ∧
          after.phase = .joining ∧ after.bodyDone = st.bodyDone :=
      fun joining same => ⟨1, next, by simp [run, stepped], joining, same⟩
    have again : next.phase = .reading → QueueOk next.stream → next.stream.dataDone = true →
        remaining next.stream < remaining st.stream → next.bodyDone = st.bodyDone →
        ∃ count after, run step st (List.replicate count (.readBody true)) = some after ∧
          after.phase = .joining ∧ after.bodyDone = st.bodyDone := by
      intro reading queue nextDone less same
      obtain ⟨count, after, ran, joining, kept⟩ :=
        ih _ (work ▸ less) next queue reading nextDone rfl
      refine ⟨count + 1, after, ?_, joining, kept.trans same⟩
      simpa [List.replicate_succ, run, stepped] using ran
    rcases readBody_cases ok copied with ⟨rfl, -⟩ |
      ⟨stream, bytes, queue, sameDone, -, less, ⟨rfl, -⟩ | ⟨response, rfl, -⟩ |
        ⟨rfl, -⟩ | ⟨response, rfl, -⟩⟩
    · exact last rfl rfl
    · exact again phase queue (sameDone.trans done) less rfl
    · exact again phase queue (sameDone.trans done) less rfl
    · exact last rfl rfl
    · exact last rfl rfl

/-- Open the stream and deliver the whole script before anything is read. -/
def opening (interims : List Block) (final : Block) (datas : List Bytes) : List Action :=
  .openForward (.opened 1 65535) :: (script interims final datas).map .tunnel

section Opening

variable (interims : List Block) (final : Block) (datas : List Bytes)

theorem events_opening (tail : List Action) (silent : events tail = []) :
    events (opening interims final datas ++ tail) = script interims final datas := by
  have echo : ∀ sent : List Event, (sent.map Action.tunnel).filterMap event? = sent := by
    intro sent
    rw [List.filterMap_map]
    exact List.filterMap_some
  simp only [events, opening, List.cons_append, List.filterMap_cons, List.filterMap_append, event?,
    echo] at silent ⊢
  rw [silent, List.append_nil]

theorem calm_opening (tail : List Action) (calm : ∀ action ∈ tail, Calm action) :
    ∀ action ∈ opening interims final datas ++ tail, Calm action := by
  intro action member
  simp only [opening, List.cons_append, List.mem_cons, List.mem_append, List.mem_map] at member
  rcases member with rfl | ⟨event, sent, rfl⟩ | member
  · trivial
  · simp only [script, List.mem_append, List.mem_map, List.mem_singleton] at sent
    rcases sent with (⟨block, -, rfl⟩ | ⟨bytes, -, rfl⟩) | rfl <;> trivial
  · exact calm action member

theorem opening_runs : ∃ st,
    run step State.new (opening interims final datas ++ [.pumpDone, .selectResponse, .writeHead]) =
      some st ∧ st.bodyDone = true ∧ (st.phase = .reading ∨ st.phase = .panicked) := by
  obtain ⟨filled, delivered, phase⟩ := deliver_all (script interims final datas)
    (openForward State.new (.opened 1 65535)) rfl
  have ran : run step State.new (opening interims final datas) = some filled := delivered
  have tracks := (run_tracks (opening interims final datas) State.new sound_new tracks_new
    (by simpa using calm_opening interims final datas [] (by simp))
    (by simpa [State.new] using events_opening interims final datas [] rfl) ran).2
  have waiting : filled.phase = .waiting := phase
  have ready : filled.cs.respDone = true := by
    rw [tracks.1.slot, tracks.2, firstBlock_script]
    rfl
  let header : State := { filled with bodyDone := true, phase := .header }
  have selected : run step filled [.pumpDone, .selectResponse] = some header := by
    simp [run, step, waiting, ready, selectResponse, tracks.1.noErr, header]
  have written : run step header [.writeHead] = some (writeHead header) := by
    simp [run, step, header]
  refine ⟨writeHead header, run_trans ran (run_trans selected written), ?_⟩
  simp only [writeHead]
  split
  · exact ⟨rfl, Or.inr rfl⟩
  · exact ⟨rfl, Or.inl rfl⟩

theorem serves_exists : ∃ trace last, Serves interims final datas trace last := by
  obtain ⟨st, ran, pumped, phase⟩ := opening_runs interims final datas
  rcases phase with reading | panicked
  · obtain ⟨sound, tracks, received⟩ := run_tracks _ State.new sound_new tracks_new
      (calm_opening interims final datas _ (by simp [Calm]))
      (by simpa [State.new] using events_opening interims final datas _ rfl) ran
    have done : st.stream.dataDone = true := tracks.closed (by simp [received, script])
    obtain ⟨count, joined, drained, joining, kept⟩ := drain st sound.queue reading done
    have finished : run step joined [.joinBody] =
        some { joined with phase := .returned, response := joined.response.finish } := by
      simp [run, step, joining, kept, pumped]
    have tail := run_trans drained finished
    refine ⟨_, _, calm_opening interims final datas _ ?_, events_opening interims final datas _ ?_,
      (List.append_assoc _ _ _) ▸ run_trans ran tail, Or.inl rfl⟩
    · intro action member
      simp only [List.mem_append, List.mem_cons, List.mem_replicate, List.not_mem_nil, or_false]
        at member
      rcases member with (rfl | rfl | rfl) | ⟨-, rfl⟩ | rfl <;> trivial
    · have silent : event? (.readBody true) = none := rfl
      simp only [events, List.filterMap_append, List.filterMap_replicate_of_none silent]
      rfl
  · exact ⟨_, st, calm_opening interims final datas _ (by simp [Calm]),
      events_opening interims final datas _ rfl, ran, Or.inr panicked⟩

end Opening

/-- The caller gets the worker's final response exactly when it is sendable and
no interim block hides it. Some run against the script always ends. -/
theorem interim_responses_survive_iff (interims : List Block) (final : Block) (datas : List Bytes)
    (interim : ∀ block ∈ interims, 100 ≤ block.code ∧ block.code ≤ 199)
    (isFinal : 200 ≤ final.code) :
    (∃ trace last, Serves interims final datas trace last) ∧
      ∀ trace last, Serves interims final datas trace last →
        (Faithful last final datas ↔ Preserved interims final datas) := by
  refine ⟨serves_exists interims final datas, ?_⟩
  intro trace last serves
  obtain ⟨sound, tracks, received⟩ := run_tracks trace State.new sound_new tracks_new serves.calm
    (by simpa [State.new] using serves.delivered) serves.ran
  have first : firstBlock last.received = some (interims.headD final) := by
    rw [received, firstBlock_script]
  have bytes : payload last.received = datas.flatten := by rw [received, payload_script]
  rcases serves.ended with returned | panicked
  · have nonempty : last.received ≠ [] := by simp [received, script]
    obtain ⟨head, finished⟩ := (tracks.returned returned).resolve_right nonempty
    obtain ⟨block, same, shows⟩ := tracks.shows head
    obtain rfl : interims.headD final = block := Option.some.inj (first.symm.trans same)
    refine shows_faithful_iff shows returned finished interim isFinal ?_ ?_
    · intro present
      have body : last.response.body = datas.flatten := by
        rcases sound.finished returned head with ⟨-, body⟩ | gone
        · exact body.trans bytes
        · simp [Stopped, present, tracks.calm.1] at gone
      exact ⟨body, body ▸ tracks.allowed head present⟩
    · intro gone
      exact bytes ▸ (tracks.refused gone).2
  · obtain ⟨block, same, outside⟩ := tracks.panicked panicked
    obtain rfl : interims.headD final = block := Option.some.inj (first.symm.trans same)
    constructor
    · intro faithful
      simp [faithful.returned] at panicked
    · intro preserved
      exact absurd ((preserved_iff interim isFinal).mp preserved).1 outside

/-- 103 Early Hints, then 404. -/
def earlyHints : List Action :=
  opening [⟨"103", [("Link", "</style.css>")]⟩] ⟨"404", []⟩ [] ++
    [.pumpDone, .selectResponse, .writeHead, .readBody true, .joinBody]

theorem early_hints_replace_final : ¬ ∀ interims final datas trace last,
    (∀ block ∈ interims, 100 ≤ block.code ∧ block.code ≤ 199) → 200 ≤ final.code →
      Serves interims final datas trace last → Faithful last final datas := by
  intro faithful
  obtain ⟨last, ran⟩ : ∃ last, run step State.new earlyHints = some last :=
    Option.isSome_iff_exists.mp (by decide)
  have outcome : (run step State.new earlyHints).map (fun st =>
      (st.phase, st.response.final.map Prod.fst)) = some (.returned, some 200) := by decide
  rw [ran] at outcome
  simp only [Option.map_some, Option.some.injEq, Prod.mk.injEq] at outcome
  have serves : Serves [⟨"103", [("Link", "</style.css>")]⟩] ⟨"404", []⟩ [] earlyHints last :=
    ⟨by decide, by decide, ran, Or.inl outcome.1⟩
  obtain ⟨header, head, -⟩ := (faithful _ _ _ _ last (by decide) (by decide) serves).head
  have status : Block.code ⟨"404", []⟩ = 200 := by simpa [head] using outcome.2
  exact absurd status (by decide)

theorem interim_responses_survive_iff_early_hints :
    (∃ trace last, Serves [⟨"103", []⟩] ⟨"200", []⟩ [[104, 105]] trace last) ∧
      ∀ trace last, Serves [⟨"103", []⟩] ⟨"200", []⟩ [[104, 105]] trace last →
        (Faithful last ⟨"200", []⟩ [[104, 105]] ↔
          Preserved [⟨"103", []⟩] ⟨"200", []⟩ [[104, 105]]) :=
  interim_responses_survive_iff [⟨"103", []⟩] ⟨"200", []⟩ [[104, 105]] (by decide) (by decide)

end ReverseHttp.InterimResponse
