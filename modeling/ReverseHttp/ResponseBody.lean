import ReverseHttp.ServeStream
import Mathlib.Data.List.Flatten

/-!
The body of a response: what one call of `Write` puts on the wire, under any
answers of the connection.
-/

namespace ReverseHttp.ResponseBody

open MachineInt Wire WorkerResponse ServeStream
open NetHttp hiding bodyAllowedForStatus

/-- `Reserve` does not return before there is credit. -/
def Credits (env : Env) : Prop := ∀ k avail, env.grant k = some avail → 0 < avail

theorem credits_of_alive {env : Env} (alive : Alive env) : Credits env := by
  intro k avail granted
  obtain ⟨found, same, positive⟩ := alive.grant k
  rw [same] at granted
  exact Option.some.inj granted ▸ positive

/-- A response that may carry a body, of no declared length, with no error yet. -/
structure Unlimited (rw : ResponseWriter) : Prop where
  clean : rw.err = none
  body : (prepare rw).noBody = false
  undeclared : (prepare rw).declaredCL < 0

/-! One iteration. -/

/-- What one iteration can do with a length that survives the conversion: latch
an error, or send between one byte and all that is left. -/
theorem sendChunk_cases {env : Env} (credits : Credits env) (rw : ResponseWriter)
    {maxFrame : Int32} (positive : 0 < maxFrame.toInt) {p : Bytes} (nonempty : 0 < p.length)
    (short : p.length < 2 ^ 31) :
    (∃ err next, sendChunk env rw maxFrame p = .failed err next ∧ next.err = some err ∧
        next.frames = rw.frames ∧ ¬ Alive env) ∨
      ∃ got reserves next, sendChunk env rw maxFrame p = .sent got next ∧
        next = { rw with
          reserves := reserves
          submits := rw.submits + 1
          frames := rw.frames ++ [.data (p.take got) false]
          written := int64 (rw.written + got) } ∧
        0 < got ∧ got ≤ p.length ∧ (got : Int) ≤ maxFrame.toInt := by
  have wanted := want_pos nonempty short positive
  have kept : (Int32.ofNat p.length).toInt = p.length :=
    Int32.toInt_ofNat'.trans (bmod_of_representable ⟨by omega, by omega⟩)
  have bound := minimum_toInt (Int32.ofNat p.length) maxFrame
  have busy : ¬ minimum (Int32.ofNat p.length) maxFrame ≤ 0 := by
    rw [Int32.le_iff_toInt_le, Int32.toInt_zero]
    omega
  cases granted : env.grant rw.reserves with
  | none =>
      refine Or.inl ⟨.connDead, { rw with reserves := rw.reserves + 1, err := some .connDead }, ?_,
        rfl, rfl, fun alive => ?_⟩
      · simp only [sendChunk, reserve, if_neg busy, granted, ↓reduceIte]
      · obtain ⟨avail, present, -⟩ := alive.grant rw.reserves
        exact absurd present (by simp [granted])
  | some avail =>
      have credit := credits _ _ granted
      rw [Int32.lt_iff_toInt_lt, Int32.toInt_zero] at credit
      generalize smaller : (if minimum (Int32.ofNat p.length) maxFrame < avail then
        minimum (Int32.ofNat p.length) maxFrame else avail) = got
      have range : 0 < got.toInt ∧ got.toInt ≤ (minimum (Int32.ofNat p.length) maxFrame).toInt := by
        rw [← smaller, smaller_toInt]
        omega
      cases answer : env.submit rw.submits with
      | some err =>
          refine Or.inl ⟨err, { rw with
            reserves := rw.reserves + 1
            submits := rw.submits + 1
            err := some err }, ?_, rfl, rfl, fun alive => ?_⟩
          · simp only [sendChunk, reserve, if_neg busy, granted, submit, answer,
              Bool.false_eq_true, ↓reduceIte]
          · exact absurd (alive.submit rw.submits) (by simp [answer])
      | none =>
          refine Or.inr ⟨got.toInt.toNat, rw.reserves + 1, _, ?_, rfl, by omega, by omega, by omega⟩
          simp only [sendChunk, reserve, if_neg busy, granted, submit, answer, smaller,
            Bool.false_eq_true, ↓reduceIte]

/-! One call. -/

section Call

variable {env : Env} (credits : Credits env) (req : Request) (prog : Program)

/-- The payloads one call of `Write` has submitted, for frames of at most `limit` bytes. -/
structure Chunked (limit : Int) (p : Bytes) (chunks : List Bytes) : Prop where
  sizes : ∀ chunk ∈ chunks, 0 < chunk.length ∧ (chunk.length : Int) ≤ limit
  sent : chunks.flatten <+: p

theorem chunked_cons {limit : Int} {p : Bytes} {got : Nat} {chunks : List Bytes}
    (positive : 0 < got) (within : got ≤ p.length) (small : (got : Int) ≤ limit)
    (rest : Chunked limit (p.drop got) chunks) : Chunked limit p (p.take got :: chunks) := by
  have size : (p.take got).length = got := by
    rw [List.length_take]
    omega
  refine ⟨?_, ?_⟩
  · intro chunk member
    rcases List.mem_cons.mp member with rfl | later
    · exact ⟨by omega, by omega⟩
    · exact rest.sizes chunk later
  · obtain ⟨left, whole⟩ := rest.sent
    refine ⟨left, ?_⟩
    rw [List.flatten_cons, List.append_assoc, whole, List.take_append_drop]

include credits

/-- The loop of `Write`: each step but the last sends one payload, and the last
one leaves the loop with the count of what was sent. -/
theorem loop_returns {maxFrame : Int32} (positive : 0 < maxFrame.toInt) (p : Bytes)
    (short : p.length < 2 ^ 31) (total : Nat) (rest : List Op) (rw : ResponseWriter)
    (results : List (Nat × Option WriteErr)) :
    ∃ chunks err next,
      (step env req prog)^[chunks.length + 1] ⟨rw, .writing maxFrame p total rest, results⟩ =
        ⟨next, .calls rest, results ++ [(total + chunks.flatten.length, err)]⟩ ∧
      next.frames = rw.frames ++ datas .data chunks ∧ Chunked maxFrame.toInt p chunks ∧
      (err = none → chunks.flatten = p) ∧ (∀ e, err = some e → next.err = some e ∧ ¬ Alive env) := by
  induction size : p.length using Nat.strong_induction_on generalizing p total rw with
  | _ length ih =>
    by_cases empty : p = []
    · subst empty
      refine ⟨[], none, rw, ?_, by simp [datas], ⟨by simp, by simp⟩, fun _ => rfl, by simp⟩
      simp [step]
    have nonempty : 0 < p.length := List.length_pos_iff.mpr empty
    rcases sendChunk_cases credits rw positive nonempty short with
      ⟨err, next, failed, error, frames, dead⟩ | ⟨got, reserves, next, sent, rfl, advances, most, small⟩
    · refine ⟨[], some err, next, ?_, by simp [datas, frames], ⟨by simp, by simp⟩, by simp, ?_⟩
      · simp only [List.length_nil, Nat.zero_add, Function.iterate_one, step, if_neg empty, failed,
          List.flatten_nil, Nat.add_zero]
      · rintro e ⟨⟩
        exact ⟨error, dead⟩
    · have shrinks : (p.drop got).length < length := by
        rw [List.length_drop]
        omega
      have fewer : (p.drop got).length < 2 ^ 31 := by omega
      obtain ⟨chunks, err, next, ran, frames, chunked, whole, error⟩ :=
        ih _ shrinks (p.drop got) fewer (total + got) _ rfl
      refine ⟨p.take got :: chunks, err, next, ?_, ?_, chunked_cons advances most small chunked, ?_,
        error⟩
      · rw [List.length_cons, Function.iterate_succ_apply]
        simp only [step, if_neg empty, sent]
        rw [ran]
        simp only [List.flatten_cons, List.length_append, List.length_take]
        rw [Nat.min_eq_left most, Nat.add_assoc]
      · rw [frames]
        simp [datas]
      · intro finished
        rw [List.flatten_cons, whole finished, List.take_append_drop]

omit credits in
theorem maxFrame_legal {rw : ResponseWriter} {size : Nat}
    (peer : env.maxFrameSize rw.submits = size) (legal : 16384 ≤ size ∧ size ≤ 16777215) :
    (maxFrame env rw).toInt = size := by
  have kept : (Int32.ofNat size).toInt = size :=
    Int32.toInt_ofNat'.trans (bmod_of_representable ⟨by omega, by omega⟩)
  have positive : ¬ Int32.ofNat size ≤ 0 := by
    rw [Int32.le_iff_toInt_le, Int32.toInt_zero]
    omega
  simp only [maxFrame, peer, if_neg positive, kept]

/-- The final HEADERS, if they are still to be sent. -/
def heading (rw : ResponseWriter) : List Out :=
  if rw.wroteHeaders then [] else [.headers (prepare rw).status (prepare rw).header false]

omit credits in
theorem beginWrite_sent {rw next : ResponseWriter} {p : Bytes} (unlimited : Unlimited rw)
    (sent : writeHeaders env (prepare rw) false = (none, next))
    (same : next.declaredCL = (prepare rw).declaredCL) :
    beginWrite env rw p = if p = [] then .returned 0 none next else .sending next := by
  have undeclared := unlimited.undeclared
  split
  · rename_i empty
    simp only [beginWrite, unlimited.clean, unlimited.body, sent, if_pos empty, Bool.false_eq_true,
      ↓reduceIte]
  · rename_i nonempty
    exact beginWrite_undeclared unlimited.clean unlimited.body sent nonempty (by omega)

omit credits in
/-- `Write` up to its loop fails with the HEADERS, or goes on. -/
theorem beginWrite_unlimited (env : Env) {rw : ResponseWriter} (unlimited : Unlimited rw) (p : Bytes) :
    (∃ err next, beginWrite env rw p = .returned 0 (some err) next ∧ next.err = some err ∧
        next.frames = rw.frames ∧ ¬ Alive env) ∨
      ∃ next, beginWrite env rw p = (if p = [] then .returned 0 none next else .sending next) ∧
        next.frames = rw.frames ++ heading rw ∧
        next.submits = rw.submits + (heading rw).length := by
  obtain ⟨status, noBody, declared, header, same, -⟩ := prepare_same rw
  have kept : (prepare rw).wroteHeaders = rw.wroteHeaders ∧ (prepare rw).frames = rw.frames ∧
      (prepare rw).submits = rw.submits := by
    simp [same]
  have again : prepare (prepare rw) = prepare rw := by rw [same, prepare, if_pos rfl]
  cases wrote : rw.wroteHeaders with
  | true =>
      have sent : writeHeaders env (prepare rw) false = (none, prepare rw) := by
        simp [writeHeaders, kept, wrote]
      refine Or.inr ⟨prepare rw, beginWrite_sent unlimited sent rfl, ?_, ?_⟩
      · simp [heading, wrote, kept]
      · simp [heading, wrote, kept]
  | false =>
      cases answer : env.submit rw.submits with
      | none =>
          have sent : writeHeaders env (prepare rw) false = (none, { prepare rw with
              wroteHeaders := true
              submits := rw.submits + 1
              frames := rw.frames ++ heading rw }) := by
            simp [writeHeaders, kept, wrote, again, submit, answer, latch, heading]
          refine Or.inr ⟨_, beginWrite_sent unlimited sent rfl, rfl, ?_⟩
          simp [heading, wrote]
      | some err =>
          have sent : writeHeaders env (prepare rw) false = (some err, { prepare rw with
              wroteHeaders := true
              submits := rw.submits + 1
              err := some err }) := by
            simp [writeHeaders, kept, wrote, again, submit, answer, latch]
          refine Or.inl ⟨err, { prepare rw with
            wroteHeaders := true
            submits := rw.submits + 1
            err := some err }, ?_, rfl, kept.2.1, fun alive => ?_⟩
          · simp only [beginWrite, unlimited.clean, unlimited.body, sent, Bool.false_eq_true,
              ↓reduceIte]
          · exact absurd (alive.submit rw.submits) (by simp [answer])

end Call

/-! After an error. -/

/-- The handler goes on, or is over, with an error latched. -/
def Latched (err : WriteErr) (m : Machine) : Prop :=
  ((∃ ops, m.control = .calls ops) ∧ m.rw.err = some err) ∨ m.control = .finished

theorem step_latched (env : Env) (req : Request) (prog : Program) {err : WriteErr} {m : Machine}
    (latched : Latched err m) :
    Latched err (step env req prog m) ∧
      ∃ extra, (step env req prog m).results = m.results ++ List.replicate extra (0, some err) := by
  rcases latched with ⟨⟨ops, here⟩, error⟩ | here
  · cases ops with
    | nil =>
        simp only [step, here]
        exact ⟨Or.inr rfl, 0, by simp⟩
    | cons op rest =>
        simp only [step, here]
        cases op with
        | edit change => exact ⟨Or.inl ⟨⟨rest, rfl⟩, error⟩, 0, by simp [call]⟩
        | writeHeader statusCode =>
            have same : writeHeader env m.rw statusCode = m.rw := by simp [writeHeader, error]
            exact ⟨Or.inl ⟨⟨rest, rfl⟩, by simp [call, same, error]⟩, 0, by simp [call]⟩
        | flush =>
            have same : flush env m.rw = m.rw := by simp [flush, error]
            exact ⟨Or.inl ⟨⟨rest, rfl⟩, by simp [call, same, error]⟩, 0, by simp [call]⟩
        | write p =>
            have refused : beginWrite env m.rw p = .returned 0 (some err) m.rw := by
              simp [beginWrite, error]
            simp only [call, refused]
            exact ⟨Or.inl ⟨⟨rest, rfl⟩, error⟩, 1, rfl⟩
  · simp only [step, here]
    exact ⟨Or.inr here, 0, by simp⟩

/-- Every later `Write` returns 0 and the same error. -/
theorem latched_results (env : Env) (req : Request) (prog : Program) {err : WriteErr} {m : Machine}
    (latched : Latched err m) (more : Nat) :
    ∃ extra, ((step env req prog)^[more] m).results =
      m.results ++ List.replicate extra (0, some err) := by
  induction more generalizing m with
  | zero => exact ⟨0, by simp⟩
  | succ more ih =>
      obtain ⟨still, first, once⟩ := step_latched env req prog latched
      obtain ⟨extra, later⟩ := ih still
      refine ⟨first + extra, ?_⟩
      rw [Function.iterate_succ_apply, later, once, List.append_assoc, ← List.replicate_add]

/-- One call of `Write(p)` made in `m`: after `steps` steps it has returned the
number of bytes in `chunks`, its non-empty DATA frames, and `err`. -/
structure Delivered (env : Env) (req : Request) (prog : Program) (m : Machine) (p : Bytes)
    (rest : List Op) (steps : Nat) (chunks : List Bytes) (err : Option WriteErr) : Prop where
  control : ((step env req prog)^[steps] m).control = .calls rest
  result : ((step env req prog)^[steps] m).results =
    m.results ++ [(chunks.flatten.length, err)]
  frames : ∃ opening, opening <+: heading m.rw ∧
    ((step env req prog)^[steps] m).rw.frames = m.rw.frames ++ opening ++ datas .data chunks
  -- one step begins the call, one leaves the loop, each other one sends a payload
  iterations : steps ≤ chunks.length + 2
  chunked : Chunked (env.maxFrameSize (m.rw.submits + (heading m.rw).length)) p chunks
  whole : err = none → chunks.flatten = p
  latched : ∀ e, err = some e → ∀ more, ∃ extra,
    ((step env req prog)^[more] ((step env req prog)^[steps] m)).results =
      m.results ++ (chunks.flatten.length, err) :: List.replicate extra (0, err)

theorem delivered_of_run {env : Env} {req : Request} {prog : Program} {m : Machine} {p : Bytes}
    {rest : List Op} {steps : Nat} {chunks opening : List _} {err : Option WriteErr}
    {next : ResponseWriter}
    (ran : (step env req prog)^[steps] m =
      ⟨next, .calls rest, m.results ++ [(chunks.flatten.length, err)]⟩)
    (opens : opening <+: heading m.rw)
    (frames : next.frames = m.rw.frames ++ opening ++ datas .data chunks)
    (iterations : steps ≤ chunks.length + 2)
    (chunked : Chunked (env.maxFrameSize (m.rw.submits + (heading m.rw).length)) p chunks)
    (whole : err = none → chunks.flatten = p) (error : ∀ e, err = some e → next.err = some e) :
    Delivered env req prog m p rest steps chunks err := by
  refine ⟨by rw [ran], by rw [ran], ⟨opening, opens, by rw [ran]; exact frames⟩, iterations, chunked,
    whole, ?_⟩
  intro e failed more
  have latched : Latched e ((step env req prog)^[steps] m) := by
    rw [ran]
    exact Or.inl ⟨⟨rest, rfl⟩, error e failed⟩
  obtain ⟨extra, later⟩ := latched_results env req prog latched more
  refine ⟨extra, ?_⟩
  rw [later, ran, failed, List.append_assoc, List.singleton_append]

theorem short_write_delivered {env : Env} (req : Request) (prog : Program) {m : Machine}
    {p : Bytes} {rest : List Op} (credits : Credits env)
    (legal : ∀ k, 16384 ≤ env.maxFrameSize k ∧ env.maxFrameSize k ≤ 16777215)
    (called : m.control = .calls (.write p :: rest)) (unlimited : Unlimited m.rw)
    (short : p.length < 2 ^ 31) :
    ∃ steps chunks err, Delivered env req prog m p rest steps chunks err ∧
      (Alive env → err = none) := by
  obtain ⟨rw, control, results⟩ := m
  obtain rfl : control = .calls (.write p :: rest) := called
  change Unlimited rw at unlimited
  rcases beginWrite_unlimited env unlimited p with
    ⟨err, next, begun, error, frames, dead⟩ | ⟨next, begun, frames, submits⟩
  · -- the HEADERS were refused
    have ran : (step env req prog)^[1] ⟨rw, .calls (.write p :: rest), results⟩ =
        ⟨next, .calls rest, results ++ [(([] : List Bytes).flatten.length, some err)]⟩ := by
      simp only [Function.iterate_one, step, call, begun]
      rfl
    refine ⟨1, [], some err, delivered_of_run ran List.nil_prefix ?_ (by simp) ⟨by simp, by simp⟩
      (by simp) ?_, fun alive => absurd alive dead⟩
    · simp [frames, datas]
    · rintro e ⟨⟩
      exact error
  by_cases empty : p = []
  · subst empty
    have ran : (step env req prog)^[1] ⟨rw, .calls (.write [] :: rest), results⟩ =
        ⟨next, .calls rest, results ++ [(([] : List Bytes).flatten.length, none)]⟩ := by
      simp only [Function.iterate_one, step, call, begun, ↓reduceIte]
      rfl
    refine ⟨1, [], none, delivered_of_run ran List.prefix_rfl ?_ (by simp) ⟨by simp, by simp⟩
      (by simp) (by simp), fun _ => rfl⟩
    simp [frames, datas]
  · rw [if_neg empty] at begun
    obtain ⟨chunks, err, last, loop, sent, chunked, whole, error⟩ :=
      loop_returns credits req prog (maxFrame_pos env next) p short 0 rest next results
    have ran : (step env req prog)^[chunks.length + 2] ⟨rw, .calls (.write p :: rest), results⟩ =
        ⟨last, .calls rest, results ++ [(chunks.flatten.length, err)]⟩ := by
      rw [Function.iterate_succ_apply]
      simp only [step, call, begun]
      rw [loop, Nat.zero_add]
    rw [maxFrame_legal (congrArg env.maxFrameSize submits) (legal _)] at chunked
    refine ⟨chunks.length + 2, chunks, err, delivered_of_run ran List.prefix_rfl ?_ (le_refl _)
      chunked whole fun e failed => (error e failed).1, fun alive => ?_⟩
    · rw [sent, frames]
    · cases err with
      | none => rfl
      | some e => exact absurd alive (error e rfl).2

/-- `int32(len(p))` is not positive, or positive and too small: what is left of
`p` never gets below 2^31 bytes, and the call never returns. -/
theorem long_write_never_returns {env : Env} (alive : Alive env) (req : Request) (prog : Program)
    {m : Machine} {p : Bytes} {rest : List Op} (called : m.control = .calls (.write p :: rest))
    (unlimited : Unlimited m.rw) (long : 2 ^ 31 ≤ p.length) (steps : Nat) :
    ((step env req prog)^[steps] m).control ≠ .calls rest := by
  cases steps with
  | zero =>
      rw [Function.iterate_zero_apply, called]
      simp
  | succ steps =>
      obtain ⟨rw, control, results⟩ := m
      obtain rfl : control = .calls (.write p :: rest) := called
      have nonempty : p ≠ [] := by
        rintro rfl
        simp at long
      have begun : Overlong (step env req prog ⟨rw, .calls (.write p :: rest), results⟩) := by
        rcases beginWrite_unlimited env unlimited p with ⟨-, -, -, -, -, dead⟩ | ⟨next, begun, -⟩
        · exact absurd alive dead
        · rw [if_neg nonempty] at begun
          simp only [step, call, begun]
          exact long
      have stuck := overlong_forever alive req prog begun steps
      intro returned
      rw [← Function.iterate_succ_apply, Overlong, returned] at stuck
      exact stuck

/-- A `Write` of fewer than 2^31 bytes sends its argument, or as much of it as
the connection takes; on a live connection no other one does. -/
theorem write_sends_argument (env : Env) (req : Request) (prog : Program) (m : Machine)
    (p : Bytes) (rest : List Op) (credits : Credits env)
    (legal : ∀ k, 16384 ≤ env.maxFrameSize k ∧ env.maxFrameSize k ≤ 16777215)
    (called : m.control = .calls (.write p :: rest)) (unlimited : Unlimited m.rw) :
    (p.length < 2 ^ 31 → ∃ steps chunks err, Delivered env req prog m p rest steps chunks err) ∧
      (Alive env →
        ((∃ steps chunks, Delivered env req prog m p rest steps chunks none) ↔
          p.length < 2 ^ 31)) := by
  refine ⟨fun short => ?_, fun alive => ⟨?_, fun short => ?_⟩⟩
  · obtain ⟨steps, chunks, err, delivered, -⟩ :=
      short_write_delivered req prog credits legal called unlimited short
    exact ⟨steps, chunks, err, delivered⟩
  · rintro ⟨steps, chunks, delivered⟩
    by_contra long
    exact long_write_never_returns alive req prog called unlimited (by omega) steps
      delivered.control
  · obtain ⟨steps, chunks, err, delivered, whole⟩ :=
      short_write_delivered req prog credits legal called unlimited short
    obtain rfl := whole alive
    exact ⟨steps, chunks, delivered⟩

theorem openConn_legal (k : Nat) :
    16384 ≤ openConn.maxFrameSize k ∧ openConn.maxFrameSize k ≤ 16777215 := by
  simp [openConn]

def hello : Program := ⟨[.write [104, 105]], false⟩

theorem write_sends_argument_hello :
    ∃ steps chunks, Delivered openConn get hello (after openConn get hello 1) [104, 105] [] steps
      chunks none := by
  have exactly :=
    (write_sends_argument openConn get hello (after openConn get hello 1) [104, 105] []
      (credits_of_alive openConn_alive) openConn_legal rfl ⟨rfl, rfl, by decide⟩).2 openConn_alive
  exact exactly.mpr (by decide)

theorem huge_write_never_returns :
    ¬ ∀ env req prog count p rest, Alive env →
      (∀ k, 16384 ≤ env.maxFrameSize k ∧ env.maxFrameSize k ≤ 16777215) →
      (after env req prog count).control = .calls (.write p :: rest) →
      Unlimited (after env req prog count).rw →
      ∃ steps, (after env req prog (count + steps)).control = .calls rest := by
  intro claim
  obtain ⟨p, size⟩ : ∃ p : Bytes, p.length = 2 ^ 31 := ⟨_, List.length_replicate (a := 0)⟩
  have unlimited : Unlimited (ResponseWriter.new false) := ⟨rfl, rfl, by decide⟩
  obtain ⟨steps, returned⟩ := claim openConn get ⟨[.write p], false⟩ 1 p [] openConn_alive
    openConn_legal rfl unlimited
  rw [after_add] at returned
  exact long_write_never_returns openConn_alive get _ rfl unlimited size.ge steps returned

end ReverseHttp.ResponseBody
