import ReverseHttp.Flow

/-!
Whole runs of `SendCredit`. The ledger keeps one entry for each completed
operation; exact windows are integer sums over it and never read a machine
window. Stream `id` owns the window at pointer `id`, and an opened stream
stays registered.
-/

namespace ReverseHttp.CreditLedger

open Transition MachineInt Flow

inductive Op where
  | reserve (id : Nat) (want : Int32)
  | addConn (inc : Int32)
  | addStream (id : Nat) (inc : Int32)
  | applyInitialWindow (newSize : Int32)
  | openStream (id : Nat)
  | markDead
  deriving DecidableEq

inductive Entry where
  | granted (id : Nat) (got : Int32)
  | connIncrement (inc : Int32)
  | streamIncrement (id : Nat) (inc : Int32)
  | other

structure Config where
  credit : SendCredit
  window : Nat → Int32
  streams : List Nat
  ledger : List Entry

def Config.new : Config :=
  { credit := SendCredit.new, window := fun _ => 0, streams := [], ledger := [] }

def step (c : Config) : Op → Option Config
  | .reserve id want =>
      if id ∈ c.streams then
        match Flow.reserve c.credit (c.window id) want with
        | .parked => none
        | .returned got _ credit window =>
            some { c with
              credit := credit
              window := Function.update c.window id window
              ledger := .granted id got :: c.ledger }
      else none
  | .addConn inc =>
      some { c with credit := Flow.addConn c.credit inc, ledger := .connIncrement inc :: c.ledger }
  | .addStream id inc =>
      if id ∈ c.streams then
        some { c with
          window := Function.update c.window id (Flow.addStream (c.window id) inc)
          ledger := .streamIncrement id inc :: c.ledger }
      else none
  | .applyInitialWindow newSize =>
      let applied := applyInitialWindowDelta c.credit newSize c.window c.streams
      some { c with credit := applied.1, window := applied.2, ledger := .other :: c.ledger }
  | .openStream id =>
      if id ∈ c.streams then none
      else
        some { c with
          window := Function.update c.window id (initialStreamWindow c.credit)
          streams := id :: c.streams
          ledger := .other :: c.ledger }
  | .markDead =>
      some { c with credit := Flow.markDead c.credit, ledger := .other :: c.ledger }

/-! Exact integer sums over the ledger. -/

def connIncrements : List Entry → Int
  | [] => 0
  | .connIncrement inc :: rest => inc.toInt + connIncrements rest
  | _ :: rest => connIncrements rest

def grantedBytes : List Entry → Int
  | [] => 0
  | .granted _ got :: rest => got.toInt + grantedBytes rest
  | _ :: rest => grantedBytes rest

def streamIncrements (id : Nat) : List Entry → Int
  | [] => 0
  | .streamIncrement other inc :: rest =>
      (if other = id then inc.toInt else 0) + streamIncrements id rest
  | _ :: rest => streamIncrements id rest

def grantedOn (id : Nat) : List Entry → Int
  | [] => 0
  | .granted other got :: rest => (if other = id then got.toInt else 0) + grantedOn id rest
  | _ :: rest => grantedOn id rest

def exactConn (c : Config) : Int :=
  65535 + connIncrements c.ledger - grantedBytes c.ledger

def exactStream (c : Config) (id : Nat) : Int :=
  c.credit.peerInitWindow.toInt + streamIncrements id c.ledger - grantedOn id c.ledger

/-- The peer's side of the contract: legal increments and settings, and no
exact window above 2^31-1 after the step. -/
def Op.InRange : Op → Prop
  | .addConn inc => 1 ≤ inc.toInt
  | .addStream _ inc => 1 ≤ inc.toInt
  | .applyInitialWindow newSize => 0 ≤ newSize.toInt
  | _ => True

instance (op : Op) : Decidable op.InRange := by
  unfold Op.InRange
  split <;> infer_instance

def PeerWithin (c : Config) : Prop :=
  exactConn c ≤ 2 ^ 31 - 1 ∧ ∀ id ∈ c.streams, exactStream c id ≤ 2 ^ 31 - 1

instance (c : Config) : Decidable (PeerWithin c) :=
  inferInstanceAs (Decidable (_ ∧ _))

def Admitted (c : Config) (op : Op) : Prop :=
  op.InRange ∧ ∀ next ∈ step c op, PeerWithin next

instance (c : Config) (op : Op) : Decidable (Admitted c op) :=
  inferInstanceAs (Decidable (_ ∧ _))

/-- Each machine addition or subtraction the operation performs has its exact
integer result. -/
def NoWrap (c : Config) : Op → Prop
  | .reserve id want => ∀ got credit window,
      Flow.reserve c.credit (c.window id) want = .returned got false credit window →
        credit.connSendWindow.toInt = c.credit.connSendWindow.toInt - got.toInt ∧
        window.toInt = (c.window id).toInt - got.toInt
  | .addConn inc =>
      (c.credit.connSendWindow + inc).toInt = c.credit.connSendWindow.toInt + inc.toInt
  | .addStream id inc => (c.window id + inc).toInt = (c.window id).toInt + inc.toInt
  | .applyInitialWindow newSize =>
      (newSize - c.credit.peerInitWindow).toInt =
        newSize.toInt - c.credit.peerInitWindow.toInt ∧
      ∀ id ∈ c.streams, (c.window id + (newSize - c.credit.peerInitWindow)).toInt =
        (c.window id).toInt + (newSize - c.credit.peerInitWindow).toInt
  | .openStream _ => True
  | .markDead => True

/-- What a grant may be, given the windows before the call. -/
def GrantBounded (c : Config) : Op → Prop
  | .reserve id want => 0 < want → ∀ got credit window,
      Flow.reserve c.credit (c.window id) want = .returned got false credit window →
        1 ≤ got.toInt ∧ got.toInt ≤ want.toInt ∧
        got.toInt ≤ (c.window id).toInt ∧ got.toInt ≤ c.credit.connSendWindow.toInt
  | _ => True

/-- The inductive invariant. `floor` is what excludes underflow: a stream can
owe at most what the largest initial window ever let it send, so no sequence
of shrinking settings can push its window below -(2^31-1). -/
structure Conserved (c : Config) : Prop where
  unique : c.streams.Nodup
  conn : c.credit.connSendWindow.toInt = exactConn c
  connNonneg : 0 ≤ c.credit.connSendWindow.toInt
  initNonneg : 0 ≤ c.credit.peerInitWindow.toInt
  stream : ∀ id ∈ c.streams, (c.window id).toInt = exactStream c id
  floor : ∀ id ∈ c.streams,
    -(2 ^ 31 - 1) ≤ streamIncrements id c.ledger - grantedOn id c.ledger
  unopened : ∀ id, id ∉ c.streams →
    streamIncrements id c.ledger = 0 ∧ grantedOn id c.ledger = 0

theorem conserved_new : Conserved Config.new where
  unique := List.nodup_nil
  conn := by decide
  connNonneg := by decide
  initNonneg := by decide
  stream := by simp [Config.new]
  floor := by simp [Config.new]
  unopened := by simp [Config.new, streamIncrements, grantedOn]

/-- The arithmetic of a paid reservation: both windows cover the grant. -/
theorem conserved_paid {c : Config} (valid : Conserved c) {id : Nat} {got : Int32}
    (member : id ∈ c.streams) (positive : 0 < got) (fitsStream : got ≤ c.window id)
    (fitsConn : got ≤ c.credit.connSendWindow) :
    (c.credit.connSendWindow - got).toInt = c.credit.connSendWindow.toInt - got.toInt ∧
      (c.window id - got).toInt = (c.window id).toInt - got.toInt ∧
      Conserved { c with
        credit := { c.credit with connSendWindow := c.credit.connSendWindow - got }
        window := Function.update c.window id (c.window id - got)
        ledger := .granted id got :: c.ledger } := by
  rw [Int32.lt_iff_toInt_lt, Int32.toInt_zero] at positive
  rw [Int32.le_iff_toInt_le] at fitsStream fitsConn
  have connHigh := c.credit.connSendWindow.toInt_lt
  have windowHigh := (c.window id).toInt_lt
  have initHigh := c.credit.peerInitWindow.toInt_lt
  -- a grant is covered by both windows, so neither subtraction goes below zero
  have connExact : (c.credit.connSendWindow - got).toInt =
      c.credit.connSendWindow.toInt - got.toInt :=
    sub_exact ⟨by omega, by omega⟩
  have windowExact : (c.window id - got).toInt = (c.window id).toInt - got.toInt :=
    sub_exact ⟨by omega, by omega⟩
  refine ⟨connExact, windowExact, ?_⟩
  have atConn := valid.conn
  have atStream := valid.stream id member
  unfold exactConn at atConn
  unfold exactStream at atStream
  constructor
  · exact valid.unique
  · simp only [exactConn, connIncrements, grantedBytes, connExact]
    omega
  · simp only [connExact]
    omega
  · exact valid.initNonneg
  · intro other registered
    have old := valid.stream other registered
    unfold exactStream at old
    by_cases same : other = id
    · subst same
      simp only [exactStream, streamIncrements, grantedOn, ↓reduceIte, Function.update_self,
        windowExact]
      omega
    · simp only [exactStream, streamIncrements, grantedOn, Ne.symm same, ↓reduceIte,
        Function.update_of_ne same]
      omega
  · intro other registered
    have old := valid.floor other registered
    by_cases same : other = id
    · subst same
      simp only [streamIncrements, grantedOn, ↓reduceIte]
      omega
    · simp only [streamIncrements, grantedOn, Ne.symm same, ↓reduceIte]
      omega
  · intro other absent
    have old := valid.unopened other absent
    have different : id ≠ other := fun same => absent (same ▸ member)
    simpa [streamIncrements, grantedOn, different] using old

theorem conserved_unpaid {c : Config} (valid : Conserved c) (id : Nat) :
    Conserved { c with
      window := Function.update c.window id (c.window id)
      ledger := .granted id 0 :: c.ledger } := by
  have none : ∀ other, grantedOn other (.granted id 0 :: c.ledger) = grantedOn other c.ledger := by
    intro other
    simp [grantedOn]
  constructor
  · exact valid.unique
  · simpa [exactConn, connIncrements, grantedBytes] using valid.conn
  · exact valid.connNonneg
  · exact valid.initNonneg
  · intro other registered
    simpa [exactStream, none, streamIncrements] using valid.stream other registered
  · intro other registered
    simpa [none, streamIncrements] using valid.floor other registered
  · intro other absent
    simpa [none, streamIncrements] using valid.unopened other absent

theorem reserve_conserved {c next : Config} {id : Nat} {want : Int32} (valid : Conserved c)
    (stepped : step c (.reserve id want) = some next) :
    NoWrap c (.reserve id want) ∧ GrantBounded c (.reserve id want) ∧ Conserved next := by
  by_cases member : id ∈ c.streams
  case neg => simp [step, member] at stepped
  simp only [step, member, ↓reduceIte] at stepped
  cases outcome : Flow.reserve c.credit (c.window id) want with
  | parked => simp [outcome] at stepped
  | returned got dead credit window =>
      simp only [outcome, Option.some.injEq] at stepped
      subst stepped
      rcases reserve_cases outcome with
        ⟨rfl, rfl, rfl, unpaid⟩ | ⟨positive, low, fitsStream, fitsConn, rfl, rfl, rfl⟩
      · refine ⟨?_, ?_, conserved_unpaid valid id⟩
        · intro got credit window same
          rw [outcome] at same
          injection same with sameGot _ sameCredit sameWindow
          simp [← sameGot, ← sameCredit, ← sameWindow]
        · intro wanted got credit window same
          rw [outcome] at same
          injection same with _ alive
          rcases unpaid with nothing | gone
          · rw [Int32.lt_iff_toInt_lt] at wanted
            rw [Int32.le_iff_toInt_le] at nothing
            omega
          · simp [gone] at alive
      · obtain ⟨connExact, windowExact, kept⟩ :=
          conserved_paid valid member positive fitsStream fitsConn
        refine ⟨?_, ?_, kept⟩
        · intro got credit window same
          rw [outcome] at same
          injection same with sameGot _ sameCredit sameWindow
          subst sameGot sameCredit sameWindow
          exact ⟨connExact, windowExact⟩
        · intro _ got credit window same
          rw [outcome] at same
          injection same with sameGot
          subst sameGot
          simp only [Int32.lt_iff_toInt_lt, Int32.le_iff_toInt_le, Int32.toInt_zero] at *
          omega

theorem addConn_conserved {c : Config} {inc : Int32} (valid : Conserved c)
    (positive : 1 ≤ inc.toInt)
    (within : c.credit.connSendWindow.toInt + inc.toInt ≤ 2 ^ 31 - 1) :
    NoWrap c (.addConn inc) ∧
      Conserved { c with
        credit := Flow.addConn c.credit inc
        ledger := .connIncrement inc :: c.ledger } := by
  have low := valid.connNonneg
  have atConn := valid.conn
  unfold exactConn at atConn
  have exact : (c.credit.connSendWindow + inc).toInt =
      c.credit.connSendWindow.toInt + inc.toInt :=
    add_exact ⟨by omega, by omega⟩
  refine ⟨exact, ?_⟩
  constructor
  · exact valid.unique
  · simp only [Flow.addConn, exactConn, connIncrements, grantedBytes, exact]
    omega
  · simp only [Flow.addConn, exact]
    omega
  · exact valid.initNonneg
  · intro id registered
    simpa [Flow.addConn, exactStream, streamIncrements, grantedOn] using
      valid.stream id registered
  · intro id registered
    simpa [streamIncrements, grantedOn] using valid.floor id registered
  · intro id absent
    simpa [streamIncrements, grantedOn] using valid.unopened id absent

theorem addStream_conserved {c : Config} {id : Nat} {inc : Int32} (valid : Conserved c)
    (member : id ∈ c.streams) (positive : 1 ≤ inc.toInt)
    (within : (c.window id).toInt + inc.toInt ≤ 2 ^ 31 - 1) :
    NoWrap c (.addStream id inc) ∧
      Conserved { c with
        window := Function.update c.window id (Flow.addStream (c.window id) inc)
        ledger := .streamIncrement id inc :: c.ledger } := by
  have low := (c.window id).le_toInt
  have exact : (c.window id + inc).toInt = (c.window id).toInt + inc.toInt :=
    add_exact ⟨by omega, by omega⟩
  refine ⟨exact, ?_⟩
  constructor
  · exact valid.unique
  · simpa [exactConn, connIncrements, grantedBytes] using valid.conn
  · exact valid.connNonneg
  · exact valid.initNonneg
  · intro other registered
    have old := valid.stream other registered
    unfold exactStream at old
    by_cases same : other = id
    · subst same
      simp only [exactStream, streamIncrements, grantedOn, ↓reduceIte, Function.update_self,
        Flow.addStream, exact]
      omega
    · simp only [exactStream, streamIncrements, grantedOn, Ne.symm same, ↓reduceIte,
        Function.update_of_ne same]
      omega
  · intro other registered
    have old := valid.floor other registered
    by_cases same : other = id
    · subst same
      simp only [streamIncrements, grantedOn, ↓reduceIte]
      omega
    · simp only [streamIncrements, grantedOn, Ne.symm same, ↓reduceIte]
      omega
  · intro other absent
    have different : id ≠ other := fun same => absent (same ▸ member)
    simpa [streamIncrements, grantedOn, different] using valid.unopened other absent

/-- A setting moves every registered window by the same exact delta. The floor
keeps the result above -2^31 however far the setting shrinks. -/
theorem applyInitialWindow_conserved {c : Config} {newSize : Int32} (valid : Conserved c)
    (legal : 0 ≤ newSize.toInt)
    (within : ∀ id ∈ c.streams, newSize.toInt + streamIncrements id c.ledger -
      grantedOn id c.ledger ≤ 2 ^ 31 - 1) :
    NoWrap c (.applyInitialWindow newSize) ∧
      Conserved { c with
        credit := (applyInitialWindowDelta c.credit newSize c.window c.streams).1
        window := (applyInitialWindowDelta c.credit newSize c.window c.streams).2
        ledger := .other :: c.ledger } := by
  have oldLegal := valid.initNonneg
  have newHigh := newSize.toInt_lt
  have oldHigh := c.credit.peerInitWindow.toInt_lt
  have deltaExact : (newSize - c.credit.peerInitWindow).toInt =
      newSize.toInt - c.credit.peerInitWindow.toInt :=
    sub_exact ⟨by omega, by omega⟩
  have moved : ∀ id ∈ c.streams, (c.window id + (newSize - c.credit.peerInitWindow)).toInt =
      (c.window id).toInt + (newSize - c.credit.peerInitWindow).toInt := by
    intro id registered
    have atStream := valid.stream id registered
    -- the floor excludes underflow, the peer's limit on the exact window overflow
    have bottom := valid.floor id registered
    have top := within id registered
    unfold exactStream at atStream
    exact add_exact ⟨by omega, by omega⟩
  refine ⟨⟨deltaExact, moved⟩, ?_⟩
  constructor
  · exact valid.unique
  · simpa [exactConn, connIncrements, grantedBytes] using valid.conn
  · exact valid.connNonneg
  · exact legal
  · intro id registered
    have atStream := valid.stream id registered
    unfold exactStream at atStream
    simp only [applied_window _ _ _ _ valid.unique, registered, ↓reduceIte, moved id registered,
      exactStream, streamIncrements, grantedOn, applied_credit]
    omega
  · intro id registered
    simpa [streamIncrements, grantedOn] using valid.floor id registered
  · intro id absent
    simpa [streamIncrements, grantedOn] using valid.unopened id absent

theorem openStream_conserved {c : Config} {id : Nat} (valid : Conserved c)
    (fresh : id ∉ c.streams) :
    Conserved { c with
      window := Function.update c.window id (initialStreamWindow c.credit)
      streams := id :: c.streams
      ledger := .other :: c.ledger } := by
  -- no entry names the stream yet, so its exact window is the setting alone
  have untouched := valid.unopened id fresh
  constructor
  · exact List.nodup_cons.mpr ⟨fresh, valid.unique⟩
  · simpa [exactConn, connIncrements, grantedBytes] using valid.conn
  · exact valid.connNonneg
  · exact valid.initNonneg
  · intro other registered
    by_cases same : other = id
    · subst same
      simp only [Function.update_self, initialStreamWindow, exactStream, streamIncrements,
        grantedOn]
      omega
    · have old := valid.stream other (List.mem_of_ne_of_mem same registered)
      simpa [exactStream, streamIncrements, grantedOn, same] using old
  · intro other registered
    by_cases same : other = id
    · subst same
      simp only [streamIncrements, grantedOn]
      omega
    · simpa [streamIncrements, grantedOn] using
        valid.floor other (List.mem_of_ne_of_mem same registered)
  · intro other absent
    simpa [streamIncrements, grantedOn] using
      valid.unopened other (fun old => absent (List.mem_cons_of_mem id old))

theorem markDead_conserved {c : Config} (valid : Conserved c) :
    Conserved { c with credit := Flow.markDead c.credit, ledger := .other :: c.ledger } := by
  constructor
  · exact valid.unique
  · simpa [exactConn, connIncrements, grantedBytes, Flow.markDead] using valid.conn
  · exact valid.connNonneg
  · exact valid.initNonneg
  · intro id registered
    simpa [exactStream, streamIncrements, grantedOn, Flow.markDead] using
      valid.stream id registered
  · intro id registered
    simpa [streamIncrements, grantedOn] using valid.floor id registered
  · intro id absent
    simpa [streamIncrements, grantedOn] using valid.unopened id absent

/-- Everything one admitted operation does: its arithmetic is exact, a grant
is within bounds, and the ledger stays balanced. -/
theorem step_conserved {c next : Config} {op : Op} (valid : Conserved c)
    (admitted : Admitted c op) (stepped : step c op = some next) :
    NoWrap c op ∧ GrantBounded c op ∧ Conserved next := by
  obtain ⟨inRange, peer⟩ := admitted
  have within := peer next (by simp [stepped])
  cases op with
  | reserve id want => exact reserve_conserved valid stepped
  | addConn inc =>
      simp only [step, Option.some.injEq] at stepped
      subst stepped
      have limit := within.1
      simp only [exactConn, connIncrements, grantedBytes] at limit
      have atConn := valid.conn
      unfold exactConn at atConn
      obtain ⟨exact, kept⟩ := addConn_conserved valid inRange (by omega)
      exact ⟨exact, trivial, kept⟩
  | addStream id inc =>
      by_cases member : id ∈ c.streams
      case neg => simp [step, member] at stepped
      simp only [step, member, ↓reduceIte, Option.some.injEq] at stepped
      subst stepped
      have limit := within.2 id member
      simp only [exactStream, streamIncrements, grantedOn, ↓reduceIte] at limit
      have atStream := valid.stream id member
      unfold exactStream at atStream
      obtain ⟨exact, kept⟩ := addStream_conserved valid member inRange (by omega)
      exact ⟨exact, trivial, kept⟩
  | applyInitialWindow newSize =>
      simp only [step, Option.some.injEq] at stepped
      subst stepped
      have limits : ∀ id ∈ c.streams, newSize.toInt + streamIncrements id c.ledger -
          grantedOn id c.ledger ≤ 2 ^ 31 - 1 := by
        intro id registered
        simpa [exactStream, streamIncrements, grantedOn] using within.2 id registered
      obtain ⟨exact, kept⟩ := applyInitialWindow_conserved valid inRange limits
      exact ⟨exact, trivial, kept⟩
  | openStream id =>
      by_cases member : id ∈ c.streams
      · simp [step, member] at stepped
      · simp only [step, member, ↓reduceIte, Option.some.injEq] at stepped
        subst stepped
        exact ⟨trivial, trivial, openStream_conserved valid member⟩
  | markDead =>
      simp only [step, Option.some.injEq] at stepped
      subst stepped
      exact ⟨trivial, trivial, markDead_conserved valid⟩

/-- After any run against a peer that keeps its side of the contract, the
machine windows are the exact ones and the connection window is not negative;
the next operation neither wraps nor grants more than it may. -/
theorem send_credit_conservation (trace : List Op) (last : Config)
    (peer : Guarded step Admitted Config.new trace)
    (ran : run step Config.new trace = some last) :
    last.credit.connSendWindow.toInt =
        65535 + connIncrements last.ledger - grantedBytes last.ledger ∧
      (∀ id ∈ last.streams, (last.window id).toInt =
        last.credit.peerInitWindow.toInt + streamIncrements id last.ledger -
          grantedOn id last.ledger) ∧
      0 ≤ last.credit.connSendWindow.toInt ∧
      ∀ op next, Admitted last op → step last op = some next →
        NoWrap last op ∧ GrantBounded last op := by
  have valid : Conserved last :=
    run_invariant (fun c op next valid admitted stepped =>
      (step_conserved valid admitted stepped).2.2) conserved_new peer ran
  refine ⟨valid.conn, valid.stream, valid.connNonneg, ?_⟩
  intro op next admitted stepped
  obtain ⟨exact, bounded, _⟩ := step_conserved valid admitted stepped
  exact ⟨exact, bounded⟩

/-- A stream sends its whole window, the setting shrinks twice and grows once,
and the stream's window is negative in between. -/
def shrinkingTrace : List Op :=
  [.openStream 1, .reserve 1 100000, .applyInitialWindow 100, .applyInitialWindow 0,
    .addConn 1000, .addStream 1 70000, .reserve 1 7]

theorem send_credit_conservation_shrinking :
    ∃ last, run step Config.new shrinkingTrace = some last ∧
      Guarded step Admitted Config.new shrinkingTrace ∧
      (last.window 1).toInt = last.credit.peerInitWindow.toInt +
        streamIncrements 1 last.ledger - grantedOn 1 last.ledger := by
  obtain ⟨last, ran⟩ : ∃ last, run step Config.new shrinkingTrace = some last :=
    Option.isSome_iff_exists.mp (by decide)
  have peer : Guarded step Admitted Config.new shrinkingTrace := by decide
  have member : 1 ∈ last.streams := by
    have kept : (run step Config.new shrinkingTrace).map Config.streams = some [1] := by decide
    rw [ran] at kept
    simp_all
  exact ⟨last, ran, peer, (send_credit_conservation shrinkingTrace last peer ran).2.1 1 member⟩

end ReverseHttp.CreditLedger
