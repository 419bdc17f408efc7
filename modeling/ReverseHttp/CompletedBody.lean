import ReverseHttp.BodyFifo

/-!
A body whose END_STREAM has arrived, and the failures that come after it: RST_STREAM
from the peer or the end of the connection. `FailBody` sets the error of a body that is
already complete, and `Read` reports it in the place of EOF.
-/

namespace ReverseHttp.CompletedBody

open Transition Wire BodyQueue BodyFifo

/-- Pushes, then the close, then failures; reads anywhere. -/
def Ordered (b : Body) : Call → Prop
  | .pushData _ => b.ending = none
  | .closeData => True
  | .failBody _ => b.ending = some .closed
  | .read _ => True

/-- Something is left over from the chunk taken last, or queued. -/
def Unread (s : Stream) : Prop := s.body.buf ≠ [] ∨ s.qHead ≠ s.queue.length

/-- Once the completed body has failed, a read finds something unread. -/
def InTime (b : Body) : Call → Prop
  | .read _ => b.stream.dataErr = none ∨ Unread b.stream
  | _ => True

def Admitted (b : Body) (c : Call) : Prop := Ordered b c ∧ InTime b c

instance decidableUnread (s : Stream) : Decidable (Unread s) :=
  inferInstanceAs (Decidable (s.body.buf ≠ [] ∨ s.qHead ≠ s.queue.length))

instance decidableOrdered (b : Body) (c : Call) : Decidable (Ordered b c) := by
  induction c using BodyFifo.Call.casesOn <;> dsimp only [Ordered] <;> infer_instance

instance decidableInTime (b : Body) (c : Call) : Decidable (InTime b c) := by
  induction c using BodyFifo.Call.casesOn <;> dsimp only [InTime] <;> infer_instance

instance decidableAdmitted (b : Body) (c : Call) : Decidable (Admitted b c) :=
  inferInstanceAs (Decidable (Ordered b c ∧ InTime b c))

def Call.fails : Call → Bool
  | .failBody _ => true
  | _ => false

/-! ## The run without the failures -/

/-- The stream as it is when `FailBody` has not been called. -/
def withoutFailure (s : Stream) : Stream := { s with dataErr := none, ctx := some false }

def Body.unfailed (b : Body) : Body := { b with stream := withoutFailure b.stream }

theorem dequeue_withoutFailure (s : Stream) :
    dequeue (withoutFailure s) = ((dequeue s).1, withoutFailure (dequeue s).2) := by
  unfold dequeue compact withoutFailure
  simp only
  split <;> rfl

/-- Only a read that finds nothing looks at the error. -/
theorem read_withoutFailure {s : Stream} (inTime : s.dataErr = none ∨ Unread s) (len : Nat) :
    BodyQueue.read (withoutFailure s) len =
      ((BodyQueue.read s len).1, withoutFailure (BodyQueue.read s len).2.1,
        (BodyQueue.read s len).2.2) := by
  unfold BodyQueue.read
  by_cases leftover : s.body.buf ≠ []
  · have same : (withoutFailure s).body.buf ≠ [] := leftover
    rw [if_pos leftover, if_pos same]
    by_cases last : s.body.buf.drop len = []
    · simp [withoutFailure, last]
    · simp [withoutFailure, last]
  · have same : ¬ (withoutFailure s).body.buf ≠ [] := leftover
    rw [if_neg leftover, if_neg same]
    by_cases drained : s.qHead = s.queue.length
    · have noErr : s.dataErr = none := by
        rcases inTime with noErr | unread
        · exact noErr
        · exact absurd unread (by simp [Unread, drained, not_not.mp leftover])
      have same : (withoutFailure s).qHead = (withoutFailure s).queue.length := drained
      rw [if_pos drained, if_pos same]
      by_cases ended : s.dataDone = true
      · simp [withoutFailure, ended, noErr]
      · simp [withoutFailure, ended]
    · have same : ¬ (withoutFailure s).qHead = (withoutFailure s).queue.length := drained
      rw [if_neg drained, if_neg same, dequeue_withoutFailure]
      by_cases partly : len < (dequeue s).1.data.length
      · simp [withoutFailure, partly]
      · simp [withoutFailure, partly]

theorem failure_hidden {b next : Body} {c : Call} (fails : Call.fails c = true)
    (accounted : Accounted b) (ordered : Ordered b c) (called : call b c = some next) :
    Body.unfailed next = Body.unfailed b := by
  cases c with
  | failBody err =>
      cases called
      have closed : b.ending = some .closed := ordered
      have done : b.stream.dataDone = true := by
        rw [accounted.done, closed]
        rfl
      simp [Body.unfailed, withoutFailure, BodyQueue.failBody, closed, done]
  | pushData chunk | closeData | read len => cases fails

theorem other_shown {b next : Body} {c : Call} (stays : Call.fails c = false)
    (inTime : InTime b c) (called : call b c = some next) :
    call (Body.unfailed b) c = some (Body.unfailed next) := by
  cases c with
  | pushData chunk | closeData =>
      cases called
      rfl
  | failBody err => cases stays
  | read len =>
      obtain ⟨result, after, handles, done, waits, rfl⟩ := call_read called
      have shown := read_withoutFailure inTime len
      rw [done] at shown
      simp [call, Body.unfailed, shown, waits]

/-! ## What the reader has seen -/

/-- The reader has met no failure, and EOF only behind the last byte. -/
structure Complete (b : Body) : Prop extends Accounted b where
  ending : b.ending = none ∨ b.ending = some .closed
  noFailure : ∀ err, .failed err ∉ b.results
  atEnd : .eof ∈ b.results → b.ending = some .closed ∧ pending b.stream = []

theorem read_pending {s after : Stream} {result : ReadResult}
    (outcome : ReadOutcome s after result) (nothing : pending s = []) : pending after = [] := by
  cases result with
  | data bytes =>
      rw [show pending s = bytes ++ pending after from outcome] at nothing
      exact (List.append_eq_nil_iff.mp nothing).2
  | parked | eof | failed err =>
      rw [outcome.2.1]
      exact nothing

/-- A read in time reports no failure: it does what it would do without one. -/
theorem result_ne_failed {s after : Stream} {len : Nat} {result : ReadResult}
    {handles : List Nat} (ok : QueueOk s) (inTime : s.dataErr = none ∨ Unread s)
    (done : BodyQueue.read s len = (result, after, handles)) (err : H2Error) :
    result ≠ .failed err := by
  rintro rfl
  have shown := read_withoutFailure inTime len
  rw [done] at shown
  obtain ⟨-, -, -, -, -, -, failure⟩ := read_spec (s := withoutFailure s) ⟨ok.head⟩ shown
  cases failure

theorem read_complete {b next : Body} {len : Nat} (complete : Complete b)
    (inTime : InTime b (.read len)) (called : call b (.read len) = some next) :
    Complete next := by
  have accounted := read_accounted complete.toAccounted called
  obtain ⟨result, after, handles, done, -, rfl⟩ := call_read called
  obtain ⟨-, -, -, outcome⟩ := read_spec complete.queueOk done
  refine ⟨accounted, complete.ending, ?_, ?_⟩
  · intro err member
    rcases List.mem_append.mp member with old | new
    · exact complete.noFailure err old
    · exact result_ne_failed complete.queueOk inTime done err (List.mem_singleton.mp new).symm
  · intro member
    rcases List.mem_append.mp member with old | new
    · obtain ⟨closed, nothing⟩ := complete.atEnd old
      exact ⟨closed, read_pending outcome nothing⟩
    · cases List.mem_singleton.mp new
      obtain ⟨nothing, rfl, ended, -⟩ := outcome
      refine ⟨complete.ending.resolve_left ?_, nothing⟩
      intro unfinished
      rw [complete.done, unfinished] at ended
      cases ended

theorem call_complete {b next : Body} {c : Call} (complete : Complete b)
    (admitted : Admitted b c) (called : call b c = some next) : Complete next := by
  have accounted := call_accounted complete.toAccounted called
  cases c with
  | pushData chunk =>
      cases called
      refine ⟨accounted, complete.ending, complete.noFailure, fun member => ?_⟩
      -- nothing is pushed behind EOF
      have unfinished : b.ending = none := admitted.1
      rw [(complete.atEnd member).1] at unfinished
      cases unfinished
  | closeData =>
      cases called
      refine ⟨accounted, .inr ?_, complete.noFailure, fun member => ?_⟩
      · rcases complete.ending with unfinished | closed
        · simp [unfinished]
        · simp [closed]
      · obtain ⟨closed, nothing⟩ := complete.atEnd member
        exact ⟨by simp [closed], nothing⟩
  | failBody err =>
      cases called
      have closed : b.ending = some .closed := admitted.1
      exact ⟨accounted, by simp [closed], complete.noFailure,
        fun member => ⟨by simp [closed], (complete.atEnd member).2⟩⟩
  | read len => exact read_complete complete admitted.2 called

theorem complete_opened (s : Stream) (id : StreamID) (conn : Nat) (window : Int32) :
    Complete (Body.opened s id conn window) := by
  refine ⟨accounted_opened s id conn window, .inl rfl, ?_, ?_⟩
  · intro err member
    cases member
  · intro member
    cases member

/-- Without a failure, reads alone bring a closed body to EOF. -/
theorem drain {b : Body} (accounted : Accounted b) (closed : b.stream.dataDone = true)
    (noErr : b.stream.dataErr = none) {len : Nat} (room : 0 < len) :
    ∃ count final, run call b (List.replicate count (.read len)) = some final ∧
      final.results.getLast? = some .eof ∧ final.returned = b.content := by
  induction size : remaining b.stream using Nat.strong_induction_on generalizing b with
  | _ size ih =>
      generalize done : BodyQueue.read b.stream len = outcome
      obtain ⟨result, after, handles⟩ := outcome
      obtain ⟨-, sameDone, sameErr, outcome⟩ := read_spec accounted.queueOk done
      have called (result_ne : result ≠ .parked) : call b (.read len) =
          some { b with stream := after, results := b.results ++ [result] } := by
        simp [call, done, result_ne]
      cases result with
      | parked =>
          rw [outcome.2.2] at closed
          cases closed
      | failed err =>
          rw [outcome.2.2.2] at noErr
          cases noErr
      | eof =>
          refine ⟨1, _, by simp [run, called]; rfl, by simp, ?_⟩
          rw [returned_append]
          simpa [resultBytes] using accounted.all_returned.mpr outcome.1
      | data bytes =>
          have next := call_accounted accounted (called (by simp))
          have smaller := read_progress accounted.queueOk room done
          obtain ⟨count, final, ran, ends, all⟩ :=
            ih (remaining after) (size ▸ smaller) next (sameDone.trans closed)
              (sameErr.trans noErr) rfl
          refine ⟨count + 1, final, ?_, ends, all⟩
          rw [List.replicate_succ, run, called (by simp)]
          exact ran

/-- A completed body stays complete in every run in which no read comes too late: the
results are those of the run without the failures, all bytes come before EOF, and a body
that has not failed is brought there by reads alone. -/
theorem completed_body_stays_complete (s : Stream) (id : StreamID) (conn : Nat)
    (window : Int32) {trace : List Call} {last : Body}
    (admitted : Guarded call Admitted (Body.opened s id conn window) trace)
    (ran : run call (Body.opened s id conn window) trace = some last) :
    (∃ other, run call (Body.opened s id conn window)
        (trace.filter fun c => !Call.fails c) = some other ∧
      other.results = last.results ∧ other.content = last.content) ∧
    (∀ err, .failed err ∉ last.results) ∧
    (.eof ∈ last.results → last.returned = last.content) ∧
    (last.ending = some .closed → last.stream.dataErr = none → ∀ len, 0 < len →
      ∃ count final, run call last (List.replicate count (.read len)) = some final ∧
        final.results.getLast? = some .eof ∧ final.returned = last.content) := by
  have fresh := complete_opened s id conn window
  have keeps : ∀ (b : Body) (c : Call) (next : Body), Complete b → Admitted b c →
      call b c = some next → Complete next :=
    fun _ _ _ complete admitted called => call_complete complete admitted called
  have complete : Complete last := run_invariant keeps fresh admitted ran
  refine ⟨⟨Body.unfailed last, ?_, rfl, rfl⟩, complete.noFailure, ?_, ?_⟩
  · exact run_erase
      (fun b c next fails safe called =>
        failure_hidden fails safe.1.toAccounted safe.2.1 called)
      (fun b c next stays safe called => other_shown stays safe.2.2 called)
      (guarded_invariant keeps fresh admitted) ran
  · intro member
    exact complete.all_returned.mpr (complete.atEnd member).2
  · intro closed noErr len room
    have done : last.stream.dataDone = true := by
      rw [complete.done, closed]
      rfl
    exact drain complete.toAccounted done noErr room

/-- END_STREAM and RST_STREAM arrive before the reader has taken the only chunk. -/
def resetBehindEnd : List Call :=
  [.pushData ⟨some 7, [104, 105]⟩, .closeData, .failBody .streamReset, .read 512, .read 512]

/-- The reader gets both bytes and then the error, where it gets EOF without the
reset. -/
theorem completed_body_fails :
    ¬ ∀ (trace : List Call) (last : Body),
      Guarded call Ordered (Body.opened Stream.zero 1 0 65535) trace →
      run call (Body.opened Stream.zero 1 0 65535) trace = some last →
      ∃ other, run call (Body.opened Stream.zero 1 0 65535)
          (trace.filter fun c => !Call.fails c) = some other ∧
        other.results = last.results := by
  intro holds
  have failed : (run call (Body.opened Stream.zero 1 0 65535) resetBehindEnd).map
      (fun last => last.results) = some [.data [104, 105], .failed .streamReset] := by decide
  have ended : (run call (Body.opened Stream.zero 1 0 65535)
      (resetBehindEnd.filter fun c => !Call.fails c)).map
      (fun last => last.results) = some [.data [104, 105], .eof] := by decide
  obtain ⟨last, ran, results⟩ := Option.map_eq_some_iff.mp failed
  obtain ⟨other, without, same⟩ := holds resetBehindEnd last (by decide) ran
  rw [without, Option.map_some, same, results] at ended
  exact absurd ended (by decide)

/-- The reset behind the end is harmless once the reader has seen EOF. -/
def resetBehindEof : List Call :=
  [.pushData ⟨some 7, [104, 105]⟩, .closeData, .read 512, .read 512, .failBody .streamReset]

theorem completed_body_stays_complete_eof :
    (∃ last, run call (Body.opened Stream.zero 1 0 65535) resetBehindEof = some last ∧
      .eof ∈ last.results ∧ last.returned = last.content) ∧
    ∃ last, run call (Body.opened Stream.zero 1 0 65535)
        [.pushData ⟨some 7, [104, 105]⟩, .closeData] = some last ∧
      ∃ count final, run call last (List.replicate count (.read 1)) = some final ∧
        final.results.getLast? = some .eof ∧ final.returned = last.content := by
  have ran : (run call (Body.opened Stream.zero 1 0 65535) resetBehindEof).map
      (fun last => last.results) = some [.data [104, 105], .eof] := by decide
  obtain ⟨last, ran, results⟩ := Option.map_eq_some_iff.mp ran
  have member : .eof ∈ last.results := by simp [results]
  obtain ⟨-, -, all, -⟩ :=
    completed_body_stays_complete Stream.zero 1 0 65535 (by decide) ran
  obtain ⟨-, -, -, drained⟩ :=
    completed_body_stays_complete Stream.zero 1 0 65535
      (by decide : Guarded call Admitted _ [.pushData ⟨some 7, [104, 105]⟩, .closeData]) rfl
  exact ⟨⟨last, ran, member, all member⟩, _, rfl, drained rfl rfl 1 Nat.one_pos⟩

end ReverseHttp.CompletedBody
