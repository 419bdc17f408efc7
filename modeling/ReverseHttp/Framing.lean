import Mathlib.Data.List.Basic

/-!
Length-prefixed framing over a source that can time out. A read of a fixed
size takes as many deliveries as it needs, and what it had taken is lost when
it is interrupted. A frame is a header of fixed size that tells the length of
its payload, read with two such reads.
-/

namespace ReverseHttp.Framing

universe u
variable {α : Type u}

/-- The source delivers, its read deadline expires at a clock reading, or it
fails for good. -/
inductive Event (α : Type u) where
  | chunk (bytes : List α)
  | expiry (now : Nat)
  | failure
  deriving DecidableEq

def content : List (Event α) → List α
  | [] => []
  | .chunk bytes :: rest => bytes ++ content rest
  | _ :: rest => content rest

/-- What can be read before the next interruption. -/
def ready : List (Event α) → List α
  | .chunk bytes :: rest => bytes ++ ready rest
  | _ => []

/-- The source from its next interruption on. -/
def stop : List (Event α) → List (Event α)
  | .chunk _ :: rest => stop rest
  | events => events

inductive Full (α : Type u) where
  | read (bytes : List α) (rest : List (Event α))
  | timeout (now : Nat) (rest : List (Event α))
  | failed
  | blocked

def readFull : Nat → List (Event α) → Full α
  | 0, events => .read [] events
  | _ + 1, [] => .blocked
  | _ + 1, .expiry now :: rest => .timeout now rest
  | _ + 1, .failure :: _ => .failed
  | want + 1, .chunk bytes :: rest =>
      if want + 1 < bytes.length then
        .read (bytes.take (want + 1)) (.chunk (bytes.drop (want + 1)) :: rest)
      else
        match readFull (want + 1 - bytes.length) rest with
        | .read more rest => .read (bytes ++ more) rest
        | .timeout now rest => .timeout now rest
        | .failed => .failed
        | .blocked => .blocked

/-- How a read that needs more than is ready ends. -/
def interruption : List (Event α) → Full α
  | .expiry now :: rest => .timeout now rest
  | .failure :: _ => .failed
  | _ => .blocked

theorem content_split (events : List (Event α)) :
    content events = ready events ++ content (stop events) := by
  induction events with
  | nil => rfl
  | cons event rest ih =>
      cases event with
      | chunk bytes => simp [content, ready, stop, ih]
      | expiry now => rfl
      | failure => rfl

theorem stop_cases (events : List (Event α)) :
    stop events = [] ∨ (∃ now rest, stop events = .expiry now :: rest) ∨
      ∃ rest, stop events = .failure :: rest := by
  induction events with
  | nil => exact Or.inl rfl
  | cons event rest ih =>
      cases event with
      | chunk bytes => exact ih
      | expiry now => exact Or.inr (Or.inl ⟨now, rest, rfl⟩)
      | failure => exact Or.inr (Or.inr ⟨rest, rfl⟩)

theorem readFull_enough {want : Nat} {events : List (Event α)}
    (enough : want ≤ (ready events).length) :
    ∃ rest, readFull want events = .read ((ready events).take want) rest ∧
      ready rest = (ready events).drop want ∧ stop rest = stop events := by
  induction events generalizing want with
  | nil =>
      obtain rfl : want = 0 := Nat.le_zero.mp enough
      exact ⟨[], rfl, rfl, rfl⟩
  | cons event rest ih =>
      cases want with
      | zero => exact ⟨event :: rest, by simp [readFull], by simp, rfl⟩
      | succ want =>
          cases event with
          | expiry now => exact absurd enough (by simp [ready])
          | failure => exact absurd enough (by simp [ready])
          | chunk bytes =>
              simp only [ready, List.length_append] at enough
              by_cases inside : want + 1 < bytes.length
              · have within : want + 1 ≤ bytes.length := Nat.le_of_lt inside
                refine ⟨.chunk (bytes.drop (want + 1)) :: rest, ?_, ?_, rfl⟩
                · simp [readFull, ready, inside, List.take_append_of_le_length within]
                · simp [ready, List.drop_append_of_le_length within]
              · have covered : bytes.length ≤ want + 1 := Nat.le_of_not_lt inside
                obtain ⟨left, got, readyLeft, stopLeft⟩ :=
                  ih (show want + 1 - bytes.length ≤ (ready rest).length by omega)
                refine ⟨left, ?_, ?_, stopLeft⟩
                · simp only [readFull, if_neg inside, got, ready]
                  rw [List.take_append, List.take_of_length_le covered]
                · rw [readyLeft, ready, List.drop_append, List.drop_of_length_le covered,
                    List.nil_append]

theorem readFull_short {want : Nat} {events : List (Event α)}
    (short : (ready events).length < want) : readFull want events = interruption (stop events) := by
  induction events generalizing want with
  | nil =>
      cases want with
      | zero => exact absurd short (by simp)
      | succ want => rfl
  | cons event rest ih =>
      cases want with
      | zero => exact absurd short (by simp)
      | succ want =>
          cases event with
          | expiry now => rfl
          | failure => rfl
          | chunk bytes =>
              simp only [ready, List.length_append] at short
              simp only [readFull, stop, if_neg (show ¬ want + 1 < bytes.length by omega)]
              rw [ih (show (ready rest).length < want + 1 - bytes.length by omega)]
              -- an interruption is never a successful read
              rcases stop_cases rest with ended | ⟨now, back, expires⟩ | ⟨back, fails⟩
              · rw [ended]
                rfl
              · rw [expires]
                rfl
              · rw [fails]
                rfl

theorem readFull_covered {want : Nat} {events rest : List (Event α)} {bytes : List α}
    (got : readFull want events = .read bytes rest) : want ≤ (ready events).length := by
  by_contra short
  rw [readFull_short (Nat.lt_of_not_le short)] at got
  rcases stop_cases events with ended | ⟨now, back, expires⟩ | ⟨back, fails⟩
  · rw [ended] at got
    cases got
  · rw [expires] at got
    cases got
  · rw [fails] at got
    cases got

theorem readFull_length {want : Nat} {events rest : List (Event α)} {bytes : List α}
    (got : readFull want events = .read bytes rest) : bytes.length = want := by
  have covered := readFull_covered got
  obtain ⟨left, same, -⟩ := readFull_enough covered
  rw [got] at same
  cases same
  exact List.length_take_of_le covered

/-! Frames. -/

structure Format (α : Type u) where
  headerSize : Nat
  lengthOf : List α → Nat
  limit : Nat
  nonempty : 0 < headerSize

structure Frame (format : Format α) where
  header : List α
  payload : List α
  sized : header.length = format.headerSize
  framed : payload.length = format.lengthOf header
  fits : format.lengthOf header ≤ format.limit
  deriving DecidableEq

variable {format : Format α}

def Frame.bytes (frame : Frame format) : List α := frame.header ++ frame.payload

def Frame.size (frame : Frame format) : Nat := frame.bytes.length

def encode (frames : List (Frame format)) : List α := frames.flatMap Frame.bytes

inductive Received (format : Format α) where
  | frame (frame : Frame format) (rest : List (Event α))
  | oversized
  | timeout (now : Nat) (rest : List (Event α))
  | failed
  | blocked

/-- The header, then the payload it announces. -/
def readFrame (format : Format α) (events : List (Event α)) : Received format :=
  match gotHeader : readFull format.headerSize events with
  | .timeout now rest => .timeout now rest
  | .failed => .failed
  | .blocked => .blocked
  | .read header rest =>
      if fits : format.lengthOf header ≤ format.limit then
        match gotPayload : readFull (format.lengthOf header) rest with
        | .timeout now rest => .timeout now rest
        | .failed => .failed
        | .blocked => .blocked
        | .read payload rest =>
            .frame ⟨header, payload, readFull_length gotHeader, readFull_length gotPayload, fits⟩
              rest
      else .oversized

/-- No whole frame is ready. -/
def Incomplete (format : Format α) (events : List (Event α)) : Prop :=
  ∀ (frame : Frame format) (tail : List α), ready events ≠ frame.bytes ++ tail

/-- Everything a read of a frame can do, in terms of what is ready: take a whole
frame, refuse a header, or lose part of a frame to the interruption. -/
inductive Reads (format : Format α) (events : List (Event α)) : Received format → Prop where
  | frame (frame : Frame format) (rest : List (Event α))
      (joined : ready events = frame.bytes ++ ready rest) (stopped : stop rest = stop events) :
      Reads format events (.frame frame rest)
  | oversized (headed : format.headerSize ≤ (ready events).length)
      (large : ¬ format.lengthOf ((ready events).take format.headerSize) ≤ format.limit) :
      Reads format events .oversized
  | timeout (now : Nat) (rest : List (Event α)) (stopped : stop events = .expiry now :: rest)
      (part : Incomplete format events) : Reads format events (.timeout now rest)
  | failed (rest : List (Event α)) (stopped : stop events = .failure :: rest)
      (part : Incomplete format events) : Reads format events .failed
  | blocked (stopped : stop events = []) (part : Incomplete format events) :
      Reads format events .blocked

theorem interruption_cases {want : Nat} {events : List (Event α)}
    (short : (ready events).length < want) :
    (readFull want events = .blocked ∧ stop events = []) ∨
      (∃ now rest, readFull want events = .timeout now rest ∧ stop events = .expiry now :: rest) ∨
      ∃ rest, readFull want events = .failed ∧ stop events = .failure :: rest := by
  rw [readFull_short short]
  rcases stop_cases events with ended | ⟨now, back, expires⟩ | ⟨back, fails⟩
  · exact Or.inl ⟨by rw [ended]; rfl, ended⟩
  · exact Or.inr (Or.inl ⟨now, back, by rw [expires]; rfl, expires⟩)
  · exact Or.inr (Or.inr ⟨back, by rw [fails]; rfl, fails⟩)

theorem reads_header {events : List (Event α)}
    (short : (ready events).length < format.headerSize) :
    Reads format events (readFrame format events) := by
  have part : Incomplete format events := by
    intro frame tail whole
    rw [whole, Frame.bytes, List.length_append, List.length_append, frame.sized] at short
    omega
  unfold readFrame
  rcases interruption_cases short with ⟨read, stopped⟩ | ⟨now, rest, read, stopped⟩ |
    ⟨rest, read, stopped⟩
  all_goals split <;> rename_i got <;> rw [read] at got <;> cases got
  · exact .blocked stopped part
  · exact .timeout now rest stopped part
  · exact .failed rest stopped part

theorem reads_payload {events rest : List (Event α)} {header : List α}
    (gotHeader : readFull format.headerSize events = .read header rest)
    (joined : ready events = header ++ ready rest) (stopRest : stop rest = stop events)
    (fits : format.lengthOf header ≤ format.limit)
    (short : (ready rest).length < format.lengthOf header) :
    Reads format events (readFrame format events) := by
  have part : Incomplete format events := by
    intro frame tail same
    rw [joined, Frame.bytes, List.append_assoc] at same
    have sizes : header.length = frame.header.length := by
      rw [readFull_length gotHeader, frame.sized]
    obtain ⟨rfl, left⟩ := List.append_inj same sizes
    rw [left, List.length_append, frame.framed] at short
    omega
  unfold readFrame
  split <;> rename_i first <;> rw [gotHeader] at first <;> cases first
  simp only [fits, ↓reduceDIte]
  rcases interruption_cases short with ⟨read, stopped⟩ | ⟨now, back, read, stopped⟩ |
    ⟨back, read, stopped⟩
  all_goals
    rw [stopRest] at stopped
    split <;> rename_i got <;> rw [read] at got <;> cases got
  · exact .blocked stopped part
  · exact .timeout now back stopped part
  · exact .failed back stopped part

theorem readFrame_reads (format : Format α) (events : List (Event α)) :
    Reads format events (readFrame format events) := by
  by_cases headed : format.headerSize ≤ (ready events).length
  · obtain ⟨rest, gotHeader, readyRest, stopRest⟩ := readFull_enough headed
    generalize shown : (ready events).take format.headerSize = header at gotHeader
    have joined : ready events = header ++ ready rest := by
      rw [← shown, readyRest, List.take_append_drop]
    by_cases fits : format.lengthOf header ≤ format.limit
    · by_cases whole : format.lengthOf header ≤ (ready rest).length
      · obtain ⟨left, gotPayload, readyLeft, stopLeft⟩ := readFull_enough whole
        unfold readFrame
        split <;> rename_i got <;> rw [gotHeader] at got <;> cases got
        simp only [fits, ↓reduceDIte]
        split <;> rename_i got <;> rw [gotPayload] at got <;> cases got
        refine .frame _ left ?_ (stopLeft.trans stopRest)
        rw [joined, Frame.bytes, List.append_assoc, readyLeft, List.take_append_drop]
      · exact reads_payload gotHeader joined stopRest fits (Nat.lt_of_not_le whole)
    · unfold readFrame
      split <;> rename_i got <;> rw [gotHeader] at got <;> cases got
      simp only [fits, ↓reduceDIte]
      exact .oversized headed (shown ▸ fits)
  · exact reads_header (Nat.lt_of_not_le headed)

theorem Frame.append_inj {left right : Frame format} {leftTail rightTail : List α}
    (same : left.bytes ++ leftTail = right.bytes ++ rightTail) :
    left = right ∧ leftTail = rightTail := by
  obtain ⟨leftHeader, leftPayload, leftSized, leftFramed, leftFits⟩ := left
  obtain ⟨rightHeader, rightPayload, rightSized, rightFramed, rightFits⟩ := right
  simp only [Frame.bytes, List.append_assoc] at same
  obtain ⟨rfl, rest⟩ := List.append_inj same (leftSized.trans rightSized.symm)
  obtain ⟨rfl, tails⟩ := List.append_inj rest (leftFramed.trans rightFramed.symm)
  exact ⟨rfl, tails⟩

theorem Frame.size_pos (frame : Frame format) : 0 < frame.size := by
  have := frame.sized
  have := format.nonempty
  simp only [Frame.size, Frame.bytes, List.length_append]
  omega

/-! Offsets: where the deadline expires, and where frames begin and end. -/

def marks : Nat → List (Event α) → List Nat
  | _, [] => []
  | offset, .chunk bytes :: rest => marks (offset + bytes.length) rest
  | offset, .expiry _ :: rest => offset :: marks offset rest
  | offset, .failure :: rest => marks offset rest

def boundaries : Nat → List (Frame format) → List Nat
  | offset, [] => [offset]
  | offset, frame :: rest => offset :: boundaries (offset + frame.size) rest

theorem marks_stop (offset : Nat) (events : List (Event α)) :
    marks offset events = marks (offset + (ready events).length) (stop events) := by
  induction events generalizing offset with
  | nil => rfl
  | cons event rest ih =>
      cases event with
      | chunk bytes =>
          simp only [marks, ready, stop, List.length_append]
          rw [ih, Nat.add_assoc]
      | expiry now => rfl
      | failure => rfl

theorem le_of_mem_marks {offset mark : Nat} {events : List (Event α)}
    (member : mark ∈ marks offset events) : offset ≤ mark := by
  induction events generalizing offset with
  | nil => simp [marks] at member
  | cons event rest ih =>
      cases event with
      | chunk bytes => exact Nat.le_of_add_right_le (ih member)
      | failure => exact ih member
      | expiry now =>
          rcases List.mem_cons.mp member with rfl | later
          · exact Nat.le_refl _
          · exact ih later

theorem le_of_mem_boundaries {offset mark : Nat} {frames : List (Frame format)}
    (member : mark ∈ boundaries offset frames) : offset ≤ mark := by
  induction frames generalizing offset with
  | nil => exact Nat.le_of_eq (List.mem_singleton.mp member).symm
  | cons frame rest ih =>
      rcases List.mem_cons.mp member with rfl | later
      · exact Nat.le_refl _
      · exact Nat.le_of_add_right_le (ih later)

theorem boundaries_append (offset : Nat) (front back : List (Frame format)) (mark : Nat) :
    mark ∈ boundaries offset (front ++ back) ↔
      mark ∈ boundaries offset front ∨
        mark ∈ boundaries (offset + (encode front).length) back := by
  induction front generalizing offset with
  | nil =>
      cases back <;> simp [boundaries, encode]
  | cons frame rest ih =>
      simp only [List.cons_append, boundaries, List.mem_cons, ih, encode, List.flatMap_cons,
        List.length_append, or_assoc, Frame.size, Nat.add_assoc]

theorem end_mem_boundaries (offset : Nat) (frames : List (Frame format)) :
    offset + (encode frames).length ∈ boundaries offset frames := by
  induction frames generalizing offset with
  | nil => simp [boundaries, encode]
  | cons frame rest ih =>
      have last := ih (offset + frame.size)
      simp only [boundaries, encode, List.flatMap_cons, List.length_append, Frame.size,
        ← Nat.add_assoc] at last ⊢
      exact List.mem_cons_of_mem _ last

/-! What one read does to the offsets. -/

theorem received_frame {events rest : List (Event α)} {frame : Frame format}
    (got : readFrame format events = .frame frame rest) (offset : Nat) :
    content events = frame.bytes ++ content rest ∧
      marks (offset + frame.size) rest = marks offset events := by
  have reads := readFrame_reads format events
  rw [got] at reads
  cases reads with
  | frame _ _ joined stopped =>
      constructor
      · rw [content_split events, content_split rest, joined, stopped, List.append_assoc]
      · rw [marks_stop _ rest, marks_stop _ events, joined, stopped, List.length_append,
          Frame.size, Nat.add_assoc]

theorem received_timeout {events rest : List (Event α)} {now : Nat}
    (got : readFrame format events = .timeout now rest) (offset : Nat) :
    Incomplete format events ∧ content events = ready events ++ content rest ∧
      marks offset events =
        (offset + (ready events).length) :: marks (offset + (ready events).length) rest := by
  have reads := readFrame_reads format events
  rw [got] at reads
  cases reads with
  | timeout _ _ stopped part =>
      refine ⟨part, ?_, ?_⟩
      · rw [content_split, stopped]
        rfl
      · rw [marks_stop, stopped]
        rfl

theorem received_blocked {events : List (Event α)} (got : readFrame format events = .blocked)
    (offset : Nat) :
    Incomplete format events ∧ content events = ready events ∧ marks offset events = [] := by
  have reads := readFrame_reads format events
  rw [got] at reads
  cases reads with
  | blocked stopped part =>
      refine ⟨part, ?_, ?_⟩
      · rw [content_split, stopped]
        exact List.append_nil _
      · rw [marks_stop, stopped]
        rfl

/-! Each read leaves less to do. -/

def work (events : List (Event α)) : Nat := (content events).length + (marks 0 events).length

theorem length_marks (offset : Nat) (events : List (Event α)) :
    (marks offset events).length = (marks 0 events).length := by
  induction events generalizing offset with
  | nil => rfl
  | cons event rest ih =>
      cases event with
      | chunk bytes => exact (ih _).trans (ih _).symm
      | expiry now => exact congrArg (· + 1) (ih _)
      | failure => exact ih _

theorem work_frame {events rest : List (Event α)} {frame : Frame format}
    (got : readFrame format events = .frame frame rest) : work rest < work events := by
  obtain ⟨split, sameMarks⟩ := received_frame got 0
  have size := frame.size_pos
  rw [work, work, split, ← sameMarks, length_marks (0 + frame.size), List.length_append]
  rw [Frame.size] at size
  omega

theorem work_timeout {events rest : List (Event α)} {now : Nat}
    (got : readFrame format events = .timeout now rest) : work rest < work events := by
  obtain ⟨-, split, marked⟩ := received_timeout got 0
  rw [work, work, split, marked, List.length_append, List.length_cons,
    length_marks (0 + (ready events).length)]
  omega

/-! A source whose deadlines only expire between frames. -/

structure Aligned (offset : Nat) (events : List (Event α)) (frames : List (Frame format)) : Prop where
  bytes : content events = encode frames
  between : ∀ mark ∈ marks offset events, mark ∈ boundaries offset frames

theorem aligned_frame {offset : Nat} {events rest : List (Event α)} {frames : List (Frame format)}
    {frame : Frame format} (aligned : Aligned offset events frames)
    (got : readFrame format events = .frame frame rest) :
    ∃ others, frames = frame :: others ∧ Aligned (offset + frame.size) rest others := by
  obtain ⟨split, sameMarks⟩ := received_frame got offset
  have bytes := aligned.bytes
  rw [split] at bytes
  cases frames with
  | nil =>
      have size := frame.size_pos
      rw [encode, List.flatMap_nil, List.append_eq_nil_iff] at bytes
      rw [Frame.size, bytes.1] at size
      exact absurd size (Nat.lt_irrefl 0)
  | cons first others =>
      rw [encode, List.flatMap_cons] at bytes
      obtain ⟨rfl, left⟩ := Frame.append_inj bytes
      refine ⟨others, rfl, left, ?_⟩
      intro mark member
      have beyond := le_of_mem_marks member
      have positive := frame.size_pos
      rw [sameMarks] at member
      rcases List.mem_cons.mp (aligned.between mark member) with rfl | later
      · omega
      · exact later

/-- Nothing is lost to a deadline between frames. -/
theorem aligned_timeout {offset now : Nat} {events rest : List (Event α)}
    {frames : List (Frame format)} (aligned : Aligned offset events frames)
    (got : readFrame format events = .timeout now rest) :
    ready events = [] ∧ Aligned offset rest frames := by
  obtain ⟨part, split, marked⟩ := received_timeout got offset
  rw [aligned.bytes] at split
  have here := aligned.between _ (marked ▸ List.mem_cons_self)
  have nothing : ready events = [] := by
    cases frames with
    | nil => exact (List.append_eq_nil_iff.mp split.symm).1
    | cons first others =>
        rcases List.mem_cons.mp here with start | later
        · exact List.eq_nil_of_length_eq_zero (by omega)
        · -- a later boundary would leave the whole first frame ready
          have enough := le_of_mem_boundaries later
          rw [encode, List.flatMap_cons] at split
          have whole : first.bytes <+: ready events :=
            List.prefix_of_prefix_length_le ⟨_, rfl⟩ ⟨_, split.symm⟩ (by
              rw [Frame.size] at enough
              omega)
          obtain ⟨tail, same⟩ := whole
          exact absurd same.symm (part first tail)
  refine ⟨nothing, ?_, ?_⟩
  · rw [split, nothing]
    rfl
  · intro mark member
    apply aligned.between
    rw [marked, nothing]
    exact List.mem_cons_of_mem _ member

theorem aligned_blocked {offset : Nat} {events : List (Event α)} {frames : List (Frame format)}
    (aligned : Aligned offset events frames) (got : readFrame format events = .blocked) :
    frames = [] := by
  obtain ⟨part, split, -⟩ := received_blocked got offset
  rw [aligned.bytes] at split
  cases frames with
  | nil => rfl
  | cons first others =>
      exact absurd split.symm (part first (encode others))

end ReverseHttp.Framing
