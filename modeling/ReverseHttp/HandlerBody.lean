import ReverseHttp.BodyFifo

/-!
The body of a request as the worker's handler reads it. The frame reader pushes DATA, closes
at END_STREAM and fails at RST_STREAM, also when more comes after the reset; the teardown
fails it once more. The events keep apart who reset the stream, which the calls on the body
do not tell.
-/

namespace ReverseHttp.HandlerBody

open Transition Wire BodyQueue
open BodyFifo hiding State Action step Valid step_valid

/-- What happens to the handler's body. -/
inductive Event where
  | push (bytes : Bytes)
  | close
  | pumpReset
  | forwardReset
  | connClosed
  deriving DecidableEq

def Event.call : Event → Call
  | .push bytes => .pushData ⟨none, bytes⟩
  | .close => .closeData
  | .pumpReset | .forwardReset => .failBody .streamReset
  | .connClosed => .failBody .connClosed

def Event.bytes : Event → Bytes
  | .push bytes => bytes
  | .close | .pumpReset | .forwardReset | .connClosed => []

/-- What the request itself does, in contrast to resets and teardown from outside. -/
def Event.own : Event → Bool
  | .push _ | .close | .pumpReset => true
  | .forwardReset | .connClosed => false

def Event.ends : Event → Bool
  | .push _ => false
  | .close | .pumpReset | .forwardReset | .connClosed => true

/-- The error an event leaves for the reads behind it. -/
def Event.failure? : Event → Option H2Error
  | .pumpReset | .forwardReset => some .streamReset
  | .connClosed => some .connClosed
  | .push _ | .close => none

theorem bytes_own (happened : List Event) :
    (happened.filter Event.own).flatMap Event.bytes = happened.flatMap Event.bytes := by
  induction happened with
  | nil => rfl
  | cons event rest ih => cases event <;> simp [List.filter_cons, Event.own, Event.bytes, ih]

/-- A result of `Read`, seen from what has happened to the body by then or later. -/
def Sound (received : List Event) (returned : Bytes) : ReadResult → Prop
  | .eof => .close ∈ received ∧ returned = received.flatMap Event.bytes
  | .failed err =>
      err = .streamReset ∧ (.forwardReset ∈ received ∨
        .pumpReset ∈ received ∧ returned = received.flatMap Event.bytes) ∨
      err = .connClosed ∧ .connClosed ∈ received
  | .data _ | .parked => True

/-- Bytes follow neither the end nor the reset of the pump. -/
def Admissible (received : List Event) (event : Event) : Prop :=
  event.ends = false → .close ∉ received ∧ .pumpReset ∉ received

theorem sound_event {received : List Event} {event : Event} {returned : Bytes}
    {result : ReadResult} (admissible : Admissible received event)
    (sound : Sound received returned result) : Sound (received ++ [event]) returned result := by
  have same : .close ∈ received ∨ .pumpReset ∈ received →
      (received ++ [event]).flatMap Event.bytes = received.flatMap Event.bytes := by
    intro ended
    cases event with
    | push bytes =>
        obtain ⟨unclosed, unreset⟩ := admissible rfl
        exact absurd ended (by simp [unclosed, unreset])
    | close | pumpReset | forwardReset | connClosed => simp [Event.bytes]
  cases result with
  | data _ | parked => trivial
  | eof =>
      obtain ⟨closed, all⟩ := sound
      exact ⟨List.mem_append_left _ closed, all.trans (same (.inl closed)).symm⟩
  | failed err =>
      rcases sound with ⟨reset, forward | ⟨pump, all⟩⟩ | ⟨lost, closed⟩
      · exact .inl ⟨reset, .inl (List.mem_append_left _ forward)⟩
      · exact .inl ⟨reset,
          .inr ⟨List.mem_append_left _ pump, all.trans (same (.inr pump)).symm⟩⟩
      · exact .inr ⟨lost, List.mem_append_left _ closed⟩

/-- A later read adds nothing to a body that was read to its end. -/
theorem sound_read {received : List Event} {returned more : Bytes} {result : ReadResult}
    (within : returned ++ more <+: received.flatMap Event.bytes)
    (sound : Sound received returned result) : Sound received (returned ++ more) result := by
  have still : returned = received.flatMap Event.bytes →
      returned ++ more = received.flatMap Event.bytes := by
    intro all
    refine within.eq_of_length_le ?_
    rw [← all, List.length_append]
    exact Nat.le_add_right _ _
  cases result with
  | data _ | parked => trivial
  | eof => exact ⟨sound.1, still sound.2⟩
  | failed err =>
      rcases sound with ⟨reset, forward | ⟨pump, all⟩⟩ | lost
      · exact .inl ⟨reset, .inl forward⟩
      · exact .inl ⟨reset, .inr ⟨pump, still all⟩⟩
      · exact .inr lost

/-- What the handler's body and its reader owe to what has happened to the body. -/
structure Holds (received : List Event) (body : BodyFifo.State) : Prop where
  accounted : Accounted body.body
  content : body.body.content = received.flatMap Event.bytes
  ended : body.body.ending.isSome = received.any Event.ends
  err : body.body.stream.dataErr = received.findSome? Event.failure?
  awake : ∀ len, body.reader = .waiting len →
    (body.body.returned = body.body.content ∧ body.body.ending = none) ∨ 0 < body.owed
  asks : ∀ len, body.reader = .waiting len ∨ body.reader = .woken len → 0 < len
  sound : ∀ result ∈ body.body.results, Sound received body.body.returned result

theorem holds_opened (stream : Stream) (id : StreamID) (conn : Nat) (window : Int32) :
    Holds [] (BodyFifo.State.opened stream id conn window) where
  accounted := accounted_opened stream id conn window
  content := rfl
  ended := rfl
  err := rfl
  awake := fun len waiting => by cases waiting
  asks := fun len waiting => by rcases waiting with waiting | waiting <;> cases waiting
  sound := fun result member => by cases member

theorem announce_holds {received : List Event} {body next : BodyFifo.State} {event : Event}
    (holds : Holds received body) (admissible : Admissible received event)
    (told : announce body event.call = some next) : Holds (received ++ [event]) next := by
  obtain ⟨after, called, rfl⟩ := Option.map_eq_some_iff.mp told
  have accounted := call_accounted holds.accounted called
  have content : after.content = body.body.content ++ event.bytes := by
    cases event <;> cases called <;> simp [Body.content, Event.bytes]
  have ended : after.ending.isSome = (body.body.ending.isSome || event.ends) := by
    cases event <;> cases called <;> simp [Event.ends]
  have err : after.stream.dataErr = body.body.stream.dataErr.or event.failure? := by
    cases event <;> cases called <;> simp [Event.failure?, BodyQueue.pushData,
      BodyQueue.closeData, BodyQueue.failBody]
  have results : after.results = body.body.results := by
    cases event <;> cases called <;> rfl
  constructor
  · exact accounted
  · simp only [content, holds.content, List.flatMap_append, List.flatMap_singleton]
  · simp only [ended, holds.ended, List.any_append, List.any_cons, List.any_nil, Bool.or_false]
  · simp only [err, holds.err, List.findSome?_append, List.findSome?_singleton]
  · exact fun _ _ => .inr (Nat.succ_pos _)
  · exact holds.asks
  · intro result member
    simp only [Body.returned, results] at member ⊢
    exact sound_event admissible (holds.sound result member)

/-- The result of a read that returns. -/
theorem Holds.result {received : List Event} {body : BodyFifo.State} {len : Nat}
    (holds : Holds received body) {result : ReadResult} {after : Stream} {handles : List Nat}
    (done : BodyQueue.read body.body.stream len = (result, after, handles)) :
    Sound received body.body.returned result := by
  have spec := read_spec holds.accounted.queueOk done
  cases result with
  | data _ | parked => trivial
  | eof =>
      obtain ⟨-, -, -, nothing, -, finished, unfailed⟩ := spec
      have all := (holds.accounted.all_returned.mpr nothing).trans holds.content
      rw [holds.accounted.done, holds.ended, List.any_eq_true] at finished
      obtain ⟨event, member, ends⟩ := finished
      rw [holds.err, List.findSome?_eq_none_iff] at unfailed
      have harmless := unfailed event member
      cases event with
      | close => exact ⟨member, all⟩
      | push _ => cases ends
      | pumpReset | forwardReset | connClosed => cases harmless
  | failed err =>
      obtain ⟨-, -, -, nothing, -, -, failed⟩ := spec
      have all := (holds.accounted.all_returned.mpr nothing).trans holds.content
      rw [holds.err] at failed
      obtain ⟨event, member, cause⟩ := List.exists_of_findSome?_eq_some failed
      cases event with
      | push _ | close => cases cause
      | pumpReset => exact .inl ⟨(Option.some.inj cause).symm, .inr ⟨member, all⟩⟩
      | forwardReset => exact .inl ⟨(Option.some.inj cause).symm, .inl member⟩
      | connClosed => exact .inr ⟨(Option.some.inj cause).symm, member⟩

theorem attempt_holds {received : List Event} {body : BodyFifo.State} {len : Nat}
    (holds : Holds received body) (room : 0 < len) : Holds received (attempt body len) := by
  unfold attempt
  cases called : call body.body (.read len) with
  | none =>
      have waits : (BodyQueue.read body.body.stream len).1 = .parked := by
        simpa [call] using called
      refine { holds with awake := fun _ _ => .inl (holds.accounted.parked waits), asks := ?_ }
      rintro other (waiting | woken)
      · cases waiting
        exact room
      · cases woken
  | some after =>
      have accounted := read_accounted holds.accounted called
      obtain ⟨result, stream, handles, done, -, rfl⟩ := call_read called
      have sameErr := (read_spec holds.accounted.queueOk done).2.2.1
      have within := accounted.content
      rw [returned_append] at within
      have within : body.body.returned ++ resultBytes result <+: received.flatMap Event.bytes :=
        ⟨_, within.trans holds.content⟩
      constructor
      · exact accounted
      · exact holds.content
      · exact holds.ended
      · exact sameErr.trans holds.err
      · exact fun _ waiting => by cases waiting
      · rintro other (waiting | woken)
        · cases waiting
        · cases woken
      · intro other member
        rw [returned_append]
        refine sound_read within ?_
        rcases List.mem_append.mp member with old | new
        · exact holds.sound other old
        · exact List.mem_singleton.mp new ▸ holds.result done

theorem signal_holds {received : List Event} {body next : BodyFifo.State}
    (holds : Holds received body) (stepped : BodyFifo.step body .signal = some next) :
    Holds received next := by
  obtain ⟨-, rfl⟩ := enabled stepped
  -- the signal has woken a reader that waited
  cases reader : body.reader with
  | idle =>
      exact { holds with
        awake := fun _ waiting => by simp [Reader.wake] at waiting
        asks := fun _ asked => by simp [Reader.wake] at asked }
  | waiting len | woken len =>
      refine { holds with
        awake := fun _ waiting => by simp [Reader.wake] at waiting
        asks := ?_ }
      rintro other (waiting | woken)
      · cases waiting
      · cases woken
        exact holds.asks len (by simp [reader])

/-! ## Reading to the end -/

def Reading : BodyFifo.Action → Prop
  | .signal | .resume => True
  | .read len => 0 < len
  | .pushData _ | .closeData | .failBody _ => False

end ReverseHttp.HandlerBody
