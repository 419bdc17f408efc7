import ReverseHttp.FrameLimits
import ReverseHttp.History

/-!
The peer's MAX_FRAME_SIZE against what the writer emits. `ApplyPeerSettings`
stores a new value before its ACK is queued; `Write` and `streamRequestBody` read
the value once, before their loops; header blocks are not measured at all.
-/

namespace ReverseHttp.MaxFrameSize

open Transition Wire History FrameLimits
open HeaderCodec (Hpack HeaderMap)

def noteAck (limit : Option Nat) : Intent → Option Nat
  | .settingsAck maxFrameSize => some maxFrameSize
  | _ => limit

/-- The MAX_FRAME_SIZE of the last acknowledged SETTINGS frame. -/
def lastAck (intents : List Intent) : Option Nat := intents.foldl noteAck none

def Carries : Intent → Prop
  | .headers _ | .data _ _ _ => True
  | _ => False

def Event.captures : Event → Bool
  | .beginLoop _ => true
  | _ => false

def Event.stores : Event → Option Nat
  | .storeMaxFrameSize val => some val
  | _ => none

/-- Header lists fit the smallest MAX_FRAME_SIZE. A new value is stored only while
nobody is in a write loop, and nobody enters one before its ACK is queued. -/
def Settled {Enc : Type} (st : State Enc) : Action → Prop
  | .event event =>
      event.headerSize ≤ 16384 ∧
      (Event.stores event = none ∨ Event.stores event = some st.maxFrameSize ∨ st.loops = []) ∧
      (Event.captures event = true → st.applying = false)
  | .write | .exit _ => True

instance {Enc : Type} (st : State Enc) (action : Action) : Decidable (Settled st action) := by
  induction action using FrameLimits.Action.casesOn <;> dsimp only [Settled] <;> infer_instance

/-! Sequences of intents. -/

def Fits (limit : Nat) : Intent → Prop
  | .headers message => listSize message ≤ 16384
  | .data _ payload _ => payload.length ≤ limit
  | _ => True

/-- An intent fits the last limit acknowledged before it. -/
def Within (front : List Intent) (intent : Intent) : Prop :=
  ∀ limit, lastAck front = some limit → Fits limit intent

theorem lastAck_snoc (intents : List Intent) (intent : Intent) :
    lastAck (intents ++ [intent]) = noteAck (lastAck intents) intent := by
  simp [lastAck, List.foldl_append]

theorem mem_of_lastAck {intents : List Intent} {limit : Nat}
    (found : lastAck intents = some limit) : .settingsAck limit ∈ intents := by
  induction intents using List.reverseRecOn with
  | nil => cases found
  | append_singleton rest intent ih =>
      rw [lastAck_snoc] at found
      cases intent with
      | settingsAck maxFrameSize =>
          obtain rfl := Option.some.inj found
          simp
      | windowUpdate _ _ | ping _ | rstStream _ _ | headers _ | data _ _ _ | setMaxDynTab _
      | goAway _ _ => exact List.mem_append_left _ (ih found)

theorem lastAck_append {more : List Intent}
    (quiet : ∀ intent ∈ more, ∀ limit, noteAck limit intent = limit) (intents : List Intent) :
    lastAck (intents ++ more) = lastAck intents := by
  induction more generalizing intents with
  | nil => simp
  | cons intent rest ih =>
      have tail := ih (fun other member => quiet other (List.mem_cons_of_mem _ member))
        (intents ++ [intent])
      rw [lastAck_snoc, quiet intent (by simp)] at tail
      simpa using tail

/-- Intents that are no ACK and fit the last one can follow in any number. -/
theorem within_append {intents : List Intent} (more : List Intent)
    (each : Each Within intents)
    (quiet : ∀ intent ∈ more, ∀ limit, noteAck limit intent = limit)
    (fits : ∀ intent ∈ more, Within intents intent) : Each Within (intents ++ more) := by
  refine each_append more each fun front intent back split limit found => ?_
  rw [lastAck_append (fun other member => quiet other (by simp [split, member]))] at found
  exact fits intent (by simp [split]) limit found

/-! Every settled run. -/

def submitted {Enc : Type} (st : State Enc) : List Intent :=
  st.written.map Written.intent ++ st.queue

/-- The payload of a frame against the intent it was made from. -/
def Framed (frame : Written) : Prop :=
  match frame.intent with
  | .headers message => frame.payload ≤ listSize message
  | .data _ payload _ => frame.payload = payload.length
  | _ => True

structure Valid {Enc : Type} (st : State Enc) : Prop where
  base : Base st
  loops : ∀ loop ∈ st.loops, loop.maxFrame.toInt = st.maxFrameSize
  acked : st.applying = false ∨ st.loops ≠ [] →
    ∀ limit, lastAck (submitted st) = some limit → limit = st.maxFrameSize
  legal : ∀ limit, .settingsAck limit ∈ submitted st → 16384 ≤ limit
  within : Each Within (submitted st)
  framed : ∀ frame ∈ st.written, Framed frame

section Run

variable {Enc Dec : Type} {hpack : Hpack Enc Dec} {role : Role} {st : State Enc}

theorem processed_framed (compact : Compact hpack) (base : Base st) (intent : Intent) :
    Framed ⟨intent, (processIntent hpack st.sender intent).2⟩ := by
  cases intent with
  | headers message => exact block_length compact base.sound message
  | data _ _ _ => exact rfl
  | settingsAck _ | windowUpdate _ _ | ping _ | rstStream _ _ | setMaxDynTab _ | goAway _ _ =>
      trivial

/-- What an event submits fits the last ACK, and only one event submits an ACK. -/
theorem intents_fit (valid : Valid st) {event : Event} (may : Enabled role st event)
    (settled : Settled st (.event event)) (other : event ≠ .settingsAck) :
    ∀ intent ∈ intents st event, (∀ limit, noteAck limit intent = limit) ∧
      Within (submitted st) intent := by
  intro intent member
  cases event with
  | openStream method scheme authority path header ended =>
      obtain rfl := List.mem_singleton.mp member
      exact ⟨fun _ => rfl, fun _ _ => settled.1⟩
  | respond id status header ended =>
      obtain rfl := List.mem_singleton.mp member
      exact ⟨fun _ => rfl, fun _ _ => settled.1⟩
  | chunk loop p credit =>
      obtain ⟨payload, rfl, short⟩ := mem_chunkIntents member
      refine ⟨fun _ => rfl, fun limit found => ?_⟩
      have busy : st.loops ≠ [] := List.ne_nil_of_mem may
      have current := valid.acked (Or.inr busy) limit found
      have captured := valid.loops loop may
      change payload.length ≤ limit
      omega
  | emptyData id ended =>
      obtain rfl := List.mem_singleton.mp member
      exact ⟨fun _ => rfl, fun limit _ => Nat.zero_le limit⟩
  | inboundData id flowLen =>
      simp only [intents, inboundDataIntents] at member
      split at member
      · cases member
      · split at member
        all_goals
          rcases List.mem_pair.mp member with rfl | rfl
          all_goals exact ⟨fun _ => rfl, fun _ _ => trivial⟩
  | settingsAck => exact absurd rfl other
  | reset _ _ | orphan _ | headerTableSize _ | ping _ | goAway _ _ =>
      obtain rfl := List.mem_singleton.mp member
      exact ⟨fun _ => rfl, fun _ _ => trivial⟩
  | accept _ | beginLoop _ | endLoop _ | storeMaxFrameSize _ | maxConcurrentStreams _
  | beginDrain | finish _ => cases member

/-- The limit the loops hold, after an event. -/
theorem bookkeep_loops (valid : Valid st) {event : Event} (settled : Settled st (.event event)) :
    ∀ loop ∈ (bookkeep st event).loops,
      loop.maxFrame.toInt = (bookkeep st event).maxFrameSize := by
  cases event with
  | beginLoop id =>
      refine List.forall_mem_cons.mpr ⟨?_, valid.loops⟩
      exact captureMaxFrame_toInt valid.base.size.1 valid.base.size.2
  | endLoop loop =>
      exact fun other member => valid.loops other (List.mem_of_mem_erase member)
  | storeMaxFrameSize val =>
      rcases settled.2.1 with unstored | same | idle
      · cases unstored
      · obtain rfl := Option.some.inj same
        exact valid.loops
      · intro loop member
        simp only [bookkeep, idle] at member
        cases member
  | openStream _ _ _ _ _ _ | accept _ | respond _ _ _ _ | chunk _ _ _ | emptyData _ _ | reset _ _
  | orphan _ | inboundData _ _ | headerTableSize _ | settingsAck | maxConcurrentStreams _
  | beginDrain | ping _ | goAway _ _ | finish _ => exact valid.loops

/-- Apart from the ACK itself, an event leaves the stored value equal to the last
acknowledged one wherever that matters. -/
theorem bookkeep_acked (valid : Valid st) {event : Event} (settled : Settled st (.event event))
    (other : event ≠ .settingsAck) (may : Enabled role st event)
    (matters : (bookkeep st event).applying = false ∨ (bookkeep st event).loops ≠ [])
    {limit : Nat} (found : lastAck (submitted st) = some limit) :
    limit = (bookkeep st event).maxFrameSize := by
  cases event with
  | beginLoop id => exact valid.acked (Or.inl (settled.2.2 rfl)) limit found
  | endLoop loop => exact valid.acked (Or.inr (List.ne_nil_of_mem may)) limit found
  | storeMaxFrameSize val =>
      rcases matters with idle | busy
      · cases idle
      · rcases settled.2.1 with unstored | same | idle
        · cases unstored
        · obtain rfl := Option.some.inj same
          exact valid.acked (Or.inr busy) limit found
        · exact absurd idle busy
  | settingsAck => exact absurd rfl other
  | openStream _ _ _ _ _ _ | accept _ | respond _ _ _ _ | chunk _ _ _ | emptyData _ _ | reset _ _
  | orphan _ | inboundData _ _ | headerTableSize _ | maxConcurrentStreams _ | beginDrain | ping _
  | goAway _ _ | finish _ => exact valid.acked matters limit found

theorem bookkeep_written (event : Event) : (bookkeep st event).written = st.written := by
  cases event <;> rfl

/-- An event only adds to the end of what has been submitted. -/
theorem submitted_event (st : State Enc) (event : Event) :
    submitted { bookkeep st event with queue := st.queue ++ intents st event } =
      submitted st ++ intents st event := by
  simp [submitted, bookkeep_written]

theorem ack_valid (valid : Valid st) :
    Valid { bookkeep st .settingsAck with queue := st.queue ++ intents st .settingsAck } := by
  have longer := submitted_event st .settingsAck
  refine ⟨⟨valid.base.sound, valid.base.size, valid.base.captured⟩, valid.loops, ?_, ?_, ?_,
    valid.framed⟩
  · intro _ limit found
    rw [longer, intents, lastAck_snoc] at found
    exact (Option.some.inj found).symm
  · intro limit member
    rw [longer, intents] at member
    rcases List.mem_append.mp member with old | new
    · exact valid.legal limit old
    · obtain rfl := Intent.settingsAck.inj (List.mem_singleton.mp new)
      exact valid.base.size.1
  · rw [longer]
    exact each_snoc valid.within fun _ _ => trivial

theorem event_valid (valid : Valid st) {event : Event} (may : Enabled role st event)
    (settled : Settled st (.event event)) :
    Valid { bookkeep st event with queue := st.queue ++ intents st event } := by
  by_cases other : event = .settingsAck
  · exact other ▸ ack_valid valid
  have fit := intents_fit valid may settled other
  have longer := submitted_event st event
  have same := lastAck_append (fun intent member => (fit intent member).1) (submitted st)
  have within := within_append (intents st event) valid.within
    (fun intent member => (fit intent member).1) (fun intent member => (fit intent member).2)
  have base := bookkeep_base valid.base may
  refine ⟨⟨base.sound, base.size, base.captured⟩, bookkeep_loops valid settled, ?_, ?_, ?_, ?_⟩
  · intro matters limit found
    rw [longer, same] at found
    exact bookkeep_acked valid settled other may matters found
  · intro limit member
    rw [longer] at member
    rcases List.mem_append.mp member with old | new
    · exact valid.legal limit old
    · have quiet := (fit _ new).1 none
      cases quiet
  · exact longer ▸ within
  · intro frame member
    exact valid.framed frame (bookkeep_written event ▸ member)

theorem step_valid (compact : Compact hpack) {next : State Enc} {action : Action}
    (valid : Valid st) (settled : Settled st action)
    (stepped : step hpack role st action = some next) : Valid next := by
  have base := step_base valid.base stepped
  cases action with
  | event event =>
      obtain ⟨may, rfl⟩ := enabled stepped
      exact event_valid valid may settled
  | write =>
      obtain ⟨intent, rest, -, head, ⟨-, rfl⟩ | ⟨-, rfl⟩⟩ := write_cases stepped
      · -- the intent moves from the queue to the wire
        have same : submitted { st with
            sender := (processIntent hpack st.sender intent).1
            queue := rest
            written := st.written ++ [⟨intent, (processIntent hpack st.sender intent).2⟩] } =
              submitted st := by
          simp [submitted, head]
        refine ⟨base, valid.loops, ?_, ?_, ?_, ?_⟩
        · exact fun matters limit found => valid.acked matters limit (same ▸ found)
        · exact fun limit member => valid.legal limit (same ▸ member)
        · exact same ▸ valid.within
        · intro frame member
          rcases List.mem_append.mp member with old | new
          · exact valid.framed frame old
          · exact List.mem_singleton.mp new ▸ processed_framed compact valid.base intent
      · exact ⟨base, valid.loops, valid.acked, valid.legal, valid.within, valid.framed⟩
  | exit cause =>
      obtain ⟨-, rfl⟩ := enabled stepped
      exact ⟨base, valid.loops, valid.acked, valid.legal, valid.within, valid.framed⟩

/-- A frame that fits as an intent fits on the wire. -/
theorem payload_le {frame : Written} {limit : Nat} (framed : Framed frame)
    (carries : Carries frame.intent) (legal : 16384 ≤ limit) (fits : Fits limit frame.intent) :
    frame.payload ≤ limit := by
  obtain ⟨intent, payload⟩ := frame
  cases intent with
  | headers message => exact (Nat.le_trans framed fits).trans legal
  | data _ bytes _ => exact Nat.le_trans (Nat.le_of_eq framed) fits
  | settingsAck _ | windowUpdate _ _ | ping _ | rstStream _ _ | setMaxDynTab _ | goAway _ _ =>
      cases carries

end Run

theorem frames_within_max_frame_size {Enc Dec : Type} (hpack : Hpack Enc Dec)
    (compact : Compact hpack) (role : Role) (enc : Enc) (trace : List Action) (last : State Enc)
    (settled : Guarded (step hpack role) Settled (State.new enc) trace)
    (ran : run (step hpack role) (State.new enc) trace = some last) (front : List Written)
    (frame : Written) (emitted : front ++ [frame] <+: last.written)
    (carries : Carries frame.intent) (limit : Nat)
    (inForce : lastAck (front.map Written.intent) = some limit) : frame.payload ≤ limit := by
  have fresh : Valid (State.new enc) := by
    refine ⟨base_new enc, ?_, ?_, ?_, ?_, ?_⟩ <;> simp [State.new, submitted, lastAck, each_nil]
  have valid := run_invariant (fun _ _ _ valid settled stepped =>
    step_valid compact valid settled stepped) fresh settled ran
  have initial : front.map Written.intent ++ [frame.intent] <+: submitted last := by
    have mapped := emitted.map Written.intent
    rw [List.map_append] at mapped
    exact mapped.trans (List.prefix_append _ _)
  have known : .settingsAck limit ∈ submitted last :=
    (List.prefix_append _ _ |>.trans initial).subset (mem_of_lastAck inForce)
  exact payload_le (valid.framed frame (emitted.subset (by simp))) carries
    (valid.legal limit known) (valid.within _ _ initial limit inForce)

theorem textPlain_nodup : (List.map Prod.fst [("Content-Type", ["text/plain"])]).Nodup := by
  decide

def okHeaders : Intent :=
  .headers (.response 1 200 ⟨[("Content-Type", ["text/plain"])], textPlain_nodup⟩ false)

theorem frames_within_max_frame_size_download : ∃ last,
    run (step sampleHpack .worker) (State.new ()) download = some last ∧
      [⟨.settingsAck 20000, 0⟩, ⟨okHeaders, 10⟩] ++ [⟨.data 1 [104, 105] false, 2⟩] <+:
        last.written ∧ (2 : Nat) ≤ 20000 := by
  have computed : (run (step sampleHpack .worker) (State.new ()) download).map
      (fun last => last.written.take 3) =
        some [⟨.settingsAck 20000, 0⟩, ⟨okHeaders, 10⟩, ⟨.data 1 [104, 105] false, 2⟩] := by
    decide +kernel
  obtain ⟨last, ran, taken⟩ := Option.map_eq_some_iff.mp computed
  have emitted : [⟨.settingsAck 20000, 0⟩, ⟨okHeaders, 10⟩] ++ [⟨.data 1 [104, 105] false, 2⟩] <+:
      last.written := by
    rw [List.cons_append, List.cons_append, List.nil_append, ← taken]
    exact List.take_prefix 3 _
  have settled : Guarded (step sampleHpack .worker) Settled (State.new ()) download := by
    decide +kernel
  exact ⟨last, ran, emitted, frames_within_max_frame_size sampleHpack sample_compact .worker ()
    download last settled ran _ _ emitted trivial 20000 rfl⟩

/-- A handler reads the larger limit, and the peer goes back to the smaller one
while its `Write` is in the loop. -/
def shrinking : List Action :=
  [.event (.accept 1), .event (.storeMaxFrameSize 20000), .event .settingsAck, .write,
    .event (.respond 1 200 ⟨[], by decide⟩ false), .write, .event (.beginLoop 1),
    .event (.storeMaxFrameSize 16384), .event .settingsAck, .write]

theorem whole_chunk {p : Bytes} (size : p.length = 20000) :
    chunkIntents ⟨1, 20000⟩ p (some ⟨65535, by decide⟩) = [.data 1 p false] := by
  have want : MachineInt.minimum (Int32.ofNat p.length) 20000 = 20000 := by
    rw [size]
    decide
  have got : (Flow.granted 20000 (some ⟨65535, by decide⟩)).1.toInt.toNat = p.length := by
    rw [size]
    decide
  have alive : (Flow.granted 20000 (some ⟨65535, by decide⟩)).2 = false := by decide
  simp only [chunkIntents, want, got, alive, Bool.false_eq_true, ↓reduceIte, List.take_length]

/-- One more round of the loop, whatever has been stored since. -/
theorem emit_whole_chunk {st : State Unit} {p : Bytes} (size : p.length = 20000)
    (running : st.writer = none) (empty : st.queue = []) (looping : ⟨1, 20000⟩ ∈ st.loops) :
    ∃ last, run (step sampleHpack .worker) st
        [.event (.chunk ⟨1, 20000⟩ p (some ⟨65535, by decide⟩)), .write] = some last ∧
      last.written = st.written ++ [⟨.data 1 p false, 20000⟩] := by
  have may : Enabled .worker st (.chunk ⟨1, 20000⟩ p (some ⟨65535, by decide⟩)) := looping
  have queued : step sampleHpack .worker st
      (.event (.chunk ⟨1, 20000⟩ p (some ⟨65535, by decide⟩))) =
        some { st with queue := [.data 1 p false] } := by
    rw [step, if_pos may]
    simp only [bookkeep, intents, whole_chunk size, empty, List.nil_append]
  have passes : accepted (.data 1 p false) 20000 = true := by simp [accepted, ValidStreamID]
  have still : ({ st with queue := [.data 1 p false] } : State Unit).writer = none := running
  have written := write_head sampleHpack .worker still rfl
  simp only [processIntent, size, passes, ↓reduceIte] at written
  refine ⟨?last, ?ran, ?written⟩
  case ran =>
    rw [run, queued, Option.bind_some, run, written]
    rfl
  case written => rfl

theorem oversized_frame_after_ack : ¬ ∀ trace last,
    run (step sampleHpack .worker) (State.new ()) trace = some last →
    ∀ front frame, front ++ [frame] <+: last.written → Carries frame.intent →
    ∀ limit, lastAck (front.map Written.intent) = some limit → frame.payload ≤ limit := by
  intro claim
  have computed : (run (step sampleHpack .worker) (State.new ()) shrinking).map
      (fun st => (st.writer, st.queue, st.loops, lastAck (st.written.map Written.intent))) =
        some (none, [], [⟨1, 20000⟩], some 16384) := by
    decide +kernel
  obtain ⟨middle, ran, facts⟩ := Option.map_eq_some_iff.mp computed
  simp only [Prod.mk.injEq] at facts
  obtain ⟨running, empty, loops, inForce⟩ := facts
  have size : (List.replicate 20000 0 : Bytes).length = 20000 := List.length_replicate
  obtain ⟨last, more, written⟩ := emit_whole_chunk size running empty (by simp [loops])
  have emitted : middle.written ++ [⟨.data 1 (List.replicate 20000 0) false, 20000⟩] <+:
      last.written := by
    rw [written]
  have short := claim _ last (run_trans ran more) _ _ emitted trivial 16384 inForce
  exact absurd short (by decide)

end ReverseHttp.MaxFrameSize
