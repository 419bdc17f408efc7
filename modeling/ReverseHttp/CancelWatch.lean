import ReverseHttp.Transition
import ReverseHttp.Wire

/-!
Any number of `Proxy.forward` calls on one worker and the RST_STREAM(CANCEL)
frames they submit. A call has up to three goroutines: `forward` itself, the
request-body pump started by `openForward` and the context watcher started by
`writeResponse`. Each evaluates `SendRSTStream(cs.h2.ID, ErrCodeCancel)` in two
steps, since the argument is read before the intent is submitted. Objects come
from the shared pool and other tunnels may acquire them too.

`openStream` holds `streamsMu` throughout; letting two of them interleave here
only adds runs. `assigned` is the id `NextStreamID` gave to the call; nothing
but the assignment at the start of the call writes it.
-/

namespace ReverseHttp.CancelWatch

open Transition Wire

/-- `SendRSTStream(cs.h2.ID, ErrCodeCancel)` before and after the field is read. -/
inductive Sending where
  | decided
  | holding (id : StreamID)
  deriving DecidableEq, Repr

/-- Program points of `forward`. The last four are `join` and the deferred clean-up. -/
inductive Phase where
  | idle
  | opening
  | waiting
  | waitReset (sending : Sending)
  | copying
  | copyReset (sending : Sending)
  | joining
  | removing
  | deregistering
  | releasing
  | returned
  deriving DecidableEq, Repr

inductive Goroutine where
  | absent
  | running
  | resetting (sending : Sending)
  | finished
  deriving DecidableEq, Repr

structure Call where
  phase : Phase
  object : Nat
  assigned : StreamID
  /-- `req.Context()` is done -/
  cancelled : Bool
  /-- `doneCh` is closed -/
  copied : Bool
  pump : Goroutine
  watcher : Goroutine
  deriving DecidableEq, Repr

def Call.new : Call :=
  { phase := .idle, object := 0, assigned := 0, cancelled := false, copied := false
    pump := .absent, watcher := .absent }

/-- The stream is in `Conn.streams`, or about to be. -/
def Phase.attached : Phase → Bool
  | .opening | .waiting | .waitReset _ | .copying | .copyReset _ | .joining | .removing => true
  | .idle | .deregistering | .releasing | .returned => false

/-- The call owns its `Stream` object. -/
def Phase.owns (phase : Phase) : Bool :=
  phase.attached || phase = .deregistering || phase = .releasing

inductive Actor where
  | forward
  | pump
  | watcher
  deriving DecidableEq, Repr

def Goroutine.sending : Goroutine → Option Sending
  | .resetting sending => some sending
  | _ => none

def Phase.sending : Phase → Option Sending
  | .waitReset sending | .copyReset sending => some sending
  | _ => none

/-- The reset an actor of the call is in the middle of. -/
def Call.sending (c : Call) : Actor → Option Sending
  | .forward => c.phase.sending
  | .pump => c.pump.sending
  | .watcher => c.watcher.sending

/-- The actor has read `cs.h2.ID`. -/
def Call.hold (c : Call) (id : StreamID) : Actor → Call
  | .forward =>
      match c.phase with
      | .waitReset _ => { c with phase := .waitReset (.holding id) }
      | .copyReset _ => { c with phase := .copyReset (.holding id) }
      | _ => c
  | .pump => { c with pump := .resetting (.holding id) }
  | .watcher => { c with watcher := .resetting (.holding id) }

/-- `SendRSTStream` has returned. A failed public write leaves `writeResponse`,
which closes `doneCh`. -/
def Call.resume (c : Call) : Actor → Call
  | .forward =>
      match c.phase with
      | .waitReset _ => { c with phase := .joining }
      | .copyReset _ => { c with phase := .joining, copied := true }
      | _ => c
  | .pump => { c with pump := .finished }
  | .watcher => { c with watcher := .finished }

inductive Holder where
  | pool
  | call (call : Nat)
  | elsewhere
  deriving DecidableEq, Repr

/-- A submitted RST_STREAM(CANCEL): its call, its stream id, the id the call was
assigned, and whether the call still had its stream in the registry. -/
structure Reset where
  call : Nat
  id : StreamID
  assigned : StreamID
  attached : Bool
  deriving DecidableEq, Repr

/-- `id` is the `ID` field of each object. -/
structure State where
  id : Nat → StreamID
  holder : Nat → Holder
  calls : Nat → Call
  nextStreamID : Nat
  resets : List Reset

def State.new : State :=
  { id := fun _ => 0, holder := fun _ => .pool, calls := fun _ => Call.new
    nextStreamID := 0, resets := [] }

def State.put (st : State) (call : Nat) (c : Call) : State :=
  { st with calls := Function.update st.calls call c }

/-- `waitFails` is the tunnel-gone arm and a `respErr`; `headPanics` is
`w.WriteHeader` rejecting the worker's status, whose panic runs the clean-up
without waiting for the pump. `borrow` and `giveBack` are other tunnels. -/
inductive Action where
  | cancel (call : Nat)
  | acquire (call object : Nat)
  | headersSent (call : Nat) (body : Bool)
  | headersFailed (call : Nat)
  | waitFails (call : Nat)
  | waitCancelled (call : Nat)
  | headWritten (call : Nat)
  | headPanics (call : Nat)
  | copyFails (call : Nat)
  | copyEnds (call : Nat)
  | join (call : Nat)
  | removeStream (call : Nat)
  | deregisterStream (call : Nat)
  | release (call : Nat)
  | pumpFails (call : Nat)
  | pumpEnds (call : Nat)
  | watchCancelled (call : Nat)
  | watchDone (call : Nat)
  | readID (call : Nat) (actor : Actor)
  | submit (call : Nat) (actor : Actor)
  | drop (call : Nat) (actor : Actor)
  | borrow (object : Nat) (id : StreamID)
  | giveBack (object : Nat)
  deriving DecidableEq, Repr

def Goroutine.stopped (g : Goroutine) : Bool := g = .absent || g = .finished

def step (st : State) : Action → Option State
  | .cancel f => some (st.put f { st.calls f with cancelled := true })
  | .acquire f object =>
      if (st.calls f).phase = .idle ∧ st.holder object = .pool then
        let id := nextID st.nextStreamID
        some { st with
          nextStreamID := id
          id := Function.update st.id object id
          holder := Function.update st.holder object (.call f)
          calls := Function.update st.calls f
            { st.calls f with phase := .opening, object := object, assigned := id } }
      else none
  | .headersSent f body =>
      if (st.calls f).phase = .opening then
        some (st.put f { st.calls f with
          phase := .waiting, pump := if body then .running else .absent })
      else none
  -- a failed `openStream` gives the object back itself
  | .headersFailed f =>
      if (st.calls f).phase = .opening then
        some { st with
          holder := Function.update st.holder (st.calls f).object .pool
          calls := Function.update st.calls f { st.calls f with phase := .returned } }
      else none
  | .waitFails f =>
      if (st.calls f).phase = .waiting then
        some (st.put f { st.calls f with phase := .joining })
      else none
  | .waitCancelled f =>
      if (st.calls f).phase = .waiting ∧ (st.calls f).cancelled then
        some (st.put f { st.calls f with phase := .waitReset .decided })
      else none
  | .headWritten f =>
      if (st.calls f).phase = .waiting then
        some (st.put f { st.calls f with phase := .copying, watcher := .running })
      else none
  -- the deferred clean-up runs, and the pump has not been joined
  | .headPanics f =>
      if (st.calls f).phase = .waiting then
        some (st.put f { st.calls f with phase := .removing })
      else none
  | .copyFails f =>
      if (st.calls f).phase = .copying then
        some (st.put f { st.calls f with phase := .copyReset .decided })
      else none
  | .copyEnds f =>
      if (st.calls f).phase = .copying then
        some (st.put f { st.calls f with phase := .joining, copied := true })
      else none
  -- `forward` waits for its pump; nobody waits for the watcher
  | .join f =>
      if (st.calls f).phase = .joining ∧ (st.calls f).pump.stopped then
        some (st.put f { st.calls f with phase := .removing })
      else none
  | .removeStream f =>
      if (st.calls f).phase = .removing then
        some (st.put f { st.calls f with phase := .deregistering })
      else none
  | .deregisterStream f =>
      if (st.calls f).phase = .deregistering then
        some (st.put f { st.calls f with phase := .releasing })
      else none
  | .release f =>
      if (st.calls f).phase = .releasing then
        some { st with
          holder := Function.update st.holder (st.calls f).object .pool
          calls := Function.update st.calls f { st.calls f with phase := .returned } }
      else none
  | .pumpFails f =>
      if (st.calls f).pump = .running then
        some (st.put f { st.calls f with pump := .resetting .decided })
      else none
  | .pumpEnds f =>
      if (st.calls f).pump = .running then
        some (st.put f { st.calls f with pump := .finished })
      else none
  -- with both channels ready, `select` takes either arm
  | .watchCancelled f =>
      if (st.calls f).watcher = .running ∧ (st.calls f).cancelled then
        some (st.put f { st.calls f with watcher := .resetting .decided })
      else none
  | .watchDone f =>
      if (st.calls f).watcher = .running ∧ (st.calls f).copied then
        some (st.put f { st.calls f with watcher := .finished })
      else none
  -- `cs.h2.ID` is whatever the object carries at this moment
  | .readID f actor =>
      if (st.calls f).sending actor = some .decided then
        some (st.put f ((st.calls f).hold (st.id (st.calls f).object) actor))
      else none
  | .submit f actor =>
      match (st.calls f).sending actor with
      | some (.holding id) =>
          some { st.put f ((st.calls f).resume actor) with
            resets := st.resets ++
              [⟨f, id, (st.calls f).assigned, (st.calls f).phase.attached⟩] }
      | _ => none
  -- `submitAsync` gives up once the writer is dead
  | .drop f actor =>
      match (st.calls f).sending actor with
      | some (.holding _) => some (st.put f ((st.calls f).resume actor))
      | _ => none
  -- the pool is shared with the process's other tunnels
  | .borrow object id =>
      if st.holder object = .pool then
        some { st with
          id := Function.update st.id object id
          holder := Function.update st.holder object .elsewhere }
      else none
  | .giveBack object =>
      if st.holder object = .elsewhere then
        some { st with holder := Function.update st.holder object .pool }
      else none

/-- Every RST_STREAM(CANCEL) names the stream its call was assigned and was
submitted while the call had it registered. -/
def OwnResets (st : State) : Prop :=
  ∀ reset ∈ st.resets, reset.id = reset.assigned ∧ reset.attached = true

/-- The pump and the watcher turn to a reset only before the clean-up, and the
clean-up starts only when neither is in the middle of one. -/
def Joined (st : State) : Action → Prop
  | .pumpFails f | .watchCancelled f => (st.calls f).phase.attached = true
  | .removeStream f => (st.calls f).pump.sending = none ∧ (st.calls f).watcher.sending = none
  | _ => True

instance (st : State) (action : Action) : Decidable (Joined st action) := by
  unfold Joined
  split <;> infer_instance

def Sending.Names (assigned : StreamID) : Sending → Prop
  | .decided => True
  | .holding id => id = assigned

/-- As long as a call owns its object, the object carries the id it was assigned;
a reset is under way only before the clean-up. -/
structure CallOk (holder : Nat → Holder) (id : Nat → StreamID) (f : Nat) (c : Call) : Prop where
  fresh : c.phase = .idle ∨ c.phase = .opening → c.pump = .absent ∧ c.watcher = .absent
  owned : c.phase.owns = true → holder c.object = .call f ∧ id c.object = c.assigned
  sends : ∀ actor sending, c.sending actor = some sending →
    c.phase.attached = true ∧ sending.Names c.assigned

structure Valid (st : State) : Prop where
  calls : ∀ f, CallOk st.holder st.id f (st.calls f)
  resets : OwnResets st

theorem callOk_new (holder : Nat → Holder) (id : Nat → StreamID) (f : Nat) :
    CallOk holder id f Call.new := by
  constructor
  · intro _
    exact ⟨rfl, rfl⟩
  · intro owns
    cases owns
  · rintro (_ | _ | _) sending begun <;> cases begun

theorem valid_new : Valid State.new :=
  ⟨fun f => callOk_new _ _ f, by intro reset member; cases member⟩

theorem owns_of_attached {phase : Phase} (attached : phase.attached = true) :
    phase.owns = true := by
  simp [Phase.owns, attached]

theorem attached_of_sending {phase : Phase} {sending : Sending}
    (begun : phase.sending = some sending) : phase.attached = true := by
  cases phase <;> first | rfl | cases begun

section CallOk

variable {holder : Nat → Holder} {id : Nat → StreamID} {f : Nat} {c : Call}

/-- `forward` moves on; leaving the attached phases needs the other two at rest. -/
theorem CallOk.goto (ok : CallOk holder id f c) (phase : Phase) (copied : Bool)
    (owns : c.phase.owns = true) (started : phase ≠ .idle ∧ phase ≠ .opening)
    (names : ∀ sending, phase.sending = some sending → sending.Names c.assigned)
    (settled : phase.attached = true ∨ c.pump.sending = none ∧ c.watcher.sending = none) :
    CallOk holder id f { c with phase := phase, copied := copied } := by
  constructor
  · rintro (idle | opening)
    · exact absurd idle started.1
    · exact absurd opening started.2
  · intro _
    exact ok.owned owns
  · rintro (_ | _ | _) sending begun
    · exact ⟨attached_of_sending begun, names sending begun⟩
    · rcases settled with attached | ⟨pump, _⟩
      · exact ⟨attached, (ok.sends .pump sending begun).2⟩
      · cases pump.symm.trans begun
    · rcases settled with attached | ⟨_, watcher⟩
      · exact ⟨attached, (ok.sends .watcher sending begun).2⟩
      · cases watcher.symm.trans begun

/-- The pump starts, stops or goes on with a reset. -/
theorem CallOk.pumpTo (ok : CallOk holder id f c) (pump : Goroutine)
    (started : c.phase ≠ .idle ∧ c.phase ≠ .opening)
    (pumps : ∀ sending, pump.sending = some sending →
      c.phase.attached = true ∧ sending.Names c.assigned) :
    CallOk holder id f { c with pump := pump } := by
  constructor
  · rintro (idle | opening)
    · exact absurd idle started.1
    · exact absurd opening started.2
  · exact ok.owned
  · rintro (_ | _ | _) sending begun
    · exact ok.sends .forward sending begun
    · exact pumps sending begun
    · exact ok.sends .watcher sending begun

theorem CallOk.watcherTo (ok : CallOk holder id f c) (watcher : Goroutine)
    (started : c.phase ≠ .idle ∧ c.phase ≠ .opening)
    (watches : ∀ sending, watcher.sending = some sending →
      c.phase.attached = true ∧ sending.Names c.assigned) :
    CallOk holder id f { c with watcher := watcher } := by
  constructor
  · rintro (idle | opening)
    · exact absurd idle started.1
    · exact absurd opening started.2
  · exact ok.owned
  · rintro (_ | _ | _) sending begun
    · exact ok.sends .forward sending begun
    · exact ok.sends .pump sending begun
    · exact watches sending begun

theorem CallOk.pump_started (ok : CallOk holder id f c) (running : c.pump ≠ .absent) :
    c.phase ≠ .idle ∧ c.phase ≠ .opening :=
  ⟨fun idle => running (ok.fresh (Or.inl idle)).1,
    fun opening => running (ok.fresh (Or.inr opening)).1⟩

theorem CallOk.watcher_started (ok : CallOk holder id f c) (running : c.watcher ≠ .absent) :
    c.phase ≠ .idle ∧ c.phase ≠ .opening :=
  ⟨fun idle => running (ok.fresh (Or.inl idle)).2,
    fun opening => running (ok.fresh (Or.inr opening)).2⟩

/-- Reading `cs.h2.ID` while the call owns the object gives its own id. -/
theorem CallOk.hold (ok : CallOk holder id f c) {actor : Actor}
    (decided : c.sending actor = some .decided) :
    CallOk holder id f (c.hold (id c.object) actor) := by
  have attached := (ok.sends actor .decided decided).1
  have own := (ok.owned (owns_of_attached attached)).2
  have held : ∀ sending, some (Sending.holding (id c.object)) = some sending →
      sending.Names c.assigned := by
    rintro _ ⟨⟩
    exact own
  cases actor with
  | forward =>
      cases phase : c.phase with
      | waitReset sending =>
          simp only [Call.hold, phase]
          exact ok.goto _ c.copied (owns_of_attached attached) (by simp) held (Or.inl rfl)
      | copyReset sending =>
          simp only [Call.hold, phase]
          exact ok.goto _ c.copied (owns_of_attached attached) (by simp) held (Or.inl rfl)
      | _ => simp [Call.sending, phase, Phase.sending] at decided
  | pump =>
      apply ok.pumpTo
      · apply ok.pump_started
        intro absent
        simp [Call.sending, absent, Goroutine.sending] at decided
      · exact fun sending begun => ⟨attached, held sending begun⟩
  | watcher =>
      apply ok.watcherTo
      · apply ok.watcher_started
        intro absent
        simp [Call.sending, absent, Goroutine.sending] at decided
      · exact fun sending begun => ⟨attached, held sending begun⟩

theorem CallOk.resume (ok : CallOk holder id f c) {actor : Actor} {sending : Sending}
    (begun : c.sending actor = some sending) : CallOk holder id f (c.resume actor) := by
  have attached := (ok.sends actor sending begun).1
  cases actor with
  | forward =>
      cases phase : c.phase with
      | waitReset sending =>
          simp only [Call.resume, phase]
          exact ok.goto .joining c.copied (owns_of_attached attached) (by simp) nofun (Or.inl rfl)
      | copyReset sending =>
          simp only [Call.resume, phase]
          exact ok.goto .joining true (owns_of_attached attached) (by simp) nofun (Or.inl rfl)
      | _ => simp [Call.sending, phase, Phase.sending] at begun
  | pump =>
      apply ok.pumpTo .finished _ nofun
      apply ok.pump_started
      intro absent
      simp [Call.sending, absent, Goroutine.sending] at begun
  | watcher =>
      apply ok.watcherTo .finished _ nofun
      apply ok.watcher_started
      intro absent
      simp [Call.sending, absent, Goroutine.sending] at begun

/-- Changing an object the call does not own is invisible to it. -/
theorem CallOk.elsewhere (ok : CallOk holder id f c) (object : Nat) (taker : Holder)
    (value : StreamID) (other : holder object ≠ .call f) :
    CallOk (Function.update holder object taker) (Function.update id object value) f c := by
  refine ⟨ok.fresh, ?_, ok.sends⟩
  intro owning
  obtain ⟨mine, same⟩ := ok.owned owning
  have apart : c.object ≠ object := by
    rintro rfl
    exact other mine
  rw [Function.update_of_ne apart, Function.update_of_ne apart]
  exact ⟨mine, same⟩

end CallOk

theorem put_valid {st : State} (valid : Valid st) {f : Nat} {c : Call}
    (ok : CallOk st.holder st.id f c) : Valid (st.put f c) := by
  refine ⟨?_, valid.resets⟩
  apply (Function.forall_update_iff st.calls fun g c => CallOk st.holder st.id g c).mpr
  exact ⟨ok, fun g _ => valid.calls g⟩

theorem goto_valid {st : State} (valid : Valid st) {f : Nat} (phase : Phase) (copied : Bool)
    (attached : (st.calls f).phase.attached = true) (started : phase ≠ .idle ∧ phase ≠ .opening)
    (names : ∀ sending, phase.sending = some sending → sending.Names (st.calls f).assigned)
    (settled : phase.attached = true ∨
      (st.calls f).pump.sending = none ∧ (st.calls f).watcher.sending = none) :
    Valid (st.put f { st.calls f with phase := phase, copied := copied }) :=
  put_valid valid
    ((valid.calls f).goto phase copied (owns_of_attached attached) started names settled)

/-- The forward decides to reset its stream. -/
theorem decide_valid {st : State} (valid : Valid st) {f : Nat} {phase : Phase} (copied : Bool)
    (attached : (st.calls f).phase.attached = true) (started : phase ≠ .idle ∧ phase ≠ .opening)
    (decided : phase.sending = some .decided) :
    Valid (st.put f { st.calls f with phase := phase, copied := copied }) := by
  apply goto_valid valid phase copied attached started _ (Or.inl (attached_of_sending decided))
  intro sending begun
  cases decided.symm.trans begun
  trivial

theorem pump_valid {st : State} (valid : Valid st) {f : Nat} (pump : Goroutine)
    (running : (st.calls f).pump = .running)
    (pumps : ∀ sending, pump.sending = some sending →
      (st.calls f).phase.attached = true ∧ sending.Names (st.calls f).assigned) :
    Valid (st.put f { st.calls f with pump := pump }) := by
  have ok := valid.calls f
  exact put_valid valid (ok.pumpTo pump (ok.pump_started (by simp [running])) pumps)

theorem watcher_valid {st : State} (valid : Valid st) {f : Nat} (watcher : Goroutine)
    (running : (st.calls f).watcher = .running)
    (watches : ∀ sending, watcher.sending = some sending →
      (st.calls f).phase.attached = true ∧ sending.Names (st.calls f).assigned) :
    Valid (st.put f { st.calls f with watcher := watcher }) := by
  have ok := valid.calls f
  exact put_valid valid (ok.watcherTo watcher (ok.watcher_started (by simp [running])) watches)

/-- The goroutines of a call outside the attached phases have nothing left to submit. -/
theorem CallOk.settled {holder : Nat → Holder} {id : Nat → StreamID} {f : Nat} {c : Call}
    (ok : CallOk holder id f c) (detached : c.phase.attached = false) :
    c.pump.sending = none ∧ c.watcher.sending = none := by
  have silent : ∀ actor, c.sending actor = none := by
    intro actor
    cases begun : c.sending actor with
    | none => rfl
    | some sending =>
        have attached := (ok.sends actor sending begun).1
        rw [detached] at attached
        cases attached
  exact ⟨silent .pump, silent .watcher⟩

theorem acquire_valid {st : State} (valid : Valid st) {f object : Nat} (id : StreamID)
    (idle : (st.calls f).phase = .idle) (pooled : st.holder object = .pool) :
    ∀ g, CallOk (Function.update st.holder object (.call f)) (Function.update st.id object id) g
      (Function.update st.calls f
        { st.calls f with phase := .opening, object := object, assigned := id } g) := by
  have others : ∀ g, CallOk (Function.update st.holder object (.call f))
      (Function.update st.id object id) g (st.calls g) := by
    intro g
    exact (valid.calls g).elsewhere _ _ _ (by simp [pooled])
  have absent := (valid.calls f).fresh (Or.inl idle)
  apply (Function.forall_update_iff st.calls fun g c =>
    CallOk (Function.update st.holder object (.call f)) (Function.update st.id object id) g c).mpr
  refine ⟨⟨fun _ => absent, ?_, ?_⟩, fun g _ => others g⟩
  · intro _
    exact ⟨Function.update_self .., Function.update_self ..⟩
  · rintro (_ | _ | _) sending begun
    · cases begun
    · simp [Call.sending, absent.1, Goroutine.sending] at begun
    · simp [Call.sending, absent.2, Goroutine.sending] at begun

/-- `h2.Release`, at the end of the clean-up or of a failed `openStream`. -/
theorem release_valid {st : State} (valid : Valid st) {f : Nat}
    (owns : (st.calls f).phase.owns = true)
    (settled : (st.calls f).pump.sending = none ∧ (st.calls f).watcher.sending = none) :
    ∀ g, CallOk (Function.update st.holder (st.calls f).object .pool) st.id g
      (Function.update st.calls f { st.calls f with phase := .returned } g) := by
  have mine := ((valid.calls f).owned owns).1
  apply (Function.forall_update_iff st.calls fun g c =>
    CallOk (Function.update st.holder (st.calls f).object .pool) st.id g c).mpr
  refine ⟨⟨?_, nofun, ?_⟩, ?_⟩
  · rintro (idle | opening)
    · cases idle
    · cases opening
  · rintro (_ | _ | _) sending begun
    · cases begun
    · cases settled.1.symm.trans begun
    · cases settled.2.symm.trans begun
  · intro g apart
    have kept := (valid.calls g).elsewhere (st.calls f).object .pool (st.id (st.calls f).object)
      (by rw [mine]; exact fun same => apart (Holder.call.inj same).symm)
    rwa [Function.update_eq_self] at kept

theorem submit_valid {st : State} (valid : Valid st) {f : Nat} {actor : Actor} {id : StreamID}
    (holding : (st.calls f).sending actor = some (.holding id)) :
    Valid { st.put f ((st.calls f).resume actor) with
      resets := st.resets ++ [⟨f, id, (st.calls f).assigned, (st.calls f).phase.attached⟩] } := by
  refine ⟨(put_valid valid ((valid.calls f).resume holding)).calls, ?_⟩
  intro reset member
  rcases List.mem_append.mp member with before | last
  · exact valid.resets reset before
  · cases List.mem_singleton.mp last
    obtain ⟨attached, names⟩ := (valid.calls f).sends actor _ holding
    exact ⟨names, attached⟩

theorem step_valid {st next : State} {action : Action} (valid : Valid st)
    (joined : Joined st action) (stepped : step st action = some next) : Valid next := by
  cases action with
  | cancel f =>
      cases stepped
      exact put_valid valid ⟨(valid.calls f).fresh, (valid.calls f).owned, (valid.calls f).sends⟩
  | acquire f object =>
      obtain ⟨⟨idle, pooled⟩, rfl⟩ := enabled stepped
      exact ⟨acquire_valid valid _ idle pooled, valid.resets⟩
  | headersSent f body =>
      obtain ⟨opening, rfl⟩ := enabled stepped
      have waiting := (valid.calls f).goto .waiting (st.calls f).copied (by rw [opening]; rfl)
        (by simp) nofun (Or.inl rfl)
      apply put_valid valid
      apply waiting.pumpTo
      · simp
      · intro sending begun
        cases body <;> cases begun
  | headersFailed f =>
      obtain ⟨opening, rfl⟩ := enabled stepped
      have absent := (valid.calls f).fresh (Or.inr opening)
      refine ⟨release_valid valid (by rw [opening]; rfl) ?_, valid.resets⟩
      rw [absent.1, absent.2]
      exact ⟨rfl, rfl⟩
  | waitFails f | headPanics f | copyEnds f =>
      obtain ⟨stands, rfl⟩ := enabled stepped
      exact goto_valid valid _ _ (by rw [stands]; rfl) (by simp) nofun (Or.inl rfl)
  | waitCancelled f =>
      obtain ⟨⟨waiting, _⟩, rfl⟩ := enabled stepped
      exact decide_valid valid _ (by rw [waiting]; rfl) (by simp) rfl
  | headWritten f =>
      obtain ⟨waiting, rfl⟩ := enabled stepped
      have copying := (valid.calls f).goto .copying (st.calls f).copied (by rw [waiting]; rfl)
        (by simp) nofun (Or.inl rfl)
      apply put_valid valid
      exact copying.watcherTo .running (by simp) nofun
  | copyFails f =>
      obtain ⟨copying, rfl⟩ := enabled stepped
      exact decide_valid valid _ (by rw [copying]; rfl) (by simp) rfl
  | join f =>
      obtain ⟨⟨joining, _⟩, rfl⟩ := enabled stepped
      exact goto_valid valid _ _ (by rw [joining]; rfl) (by simp) nofun (Or.inl rfl)
  | removeStream f =>
      -- the guard: no goroutine of the call is between its decision and its submission
      obtain ⟨removing, rfl⟩ := enabled stepped
      exact goto_valid valid _ _ (by rw [removing]; rfl) (by simp) nofun (Or.inr joined)
  | deregisterStream f =>
      obtain ⟨deregistering, rfl⟩ := enabled stepped
      have settled := (valid.calls f).settled (by rw [deregistering]; rfl)
      apply put_valid valid
      exact (valid.calls f).goto _ _ (by rw [deregistering]; rfl) (by simp) nofun (Or.inr settled)
  | release f =>
      obtain ⟨releasing, rfl⟩ := enabled stepped
      have settled := (valid.calls f).settled (by rw [releasing]; rfl)
      exact ⟨release_valid valid (by rw [releasing]; rfl) settled, valid.resets⟩
  | pumpFails f =>
      obtain ⟨running, rfl⟩ := enabled stepped
      apply pump_valid valid _ running
      rintro _ ⟨⟩
      exact ⟨joined, trivial⟩
  | pumpEnds f =>
      obtain ⟨running, rfl⟩ := enabled stepped
      exact pump_valid valid .finished running nofun
  | watchCancelled f =>
      obtain ⟨⟨running, _⟩, rfl⟩ := enabled stepped
      apply watcher_valid valid _ running
      rintro _ ⟨⟩
      exact ⟨joined, trivial⟩
  | watchDone f =>
      obtain ⟨⟨running, _⟩, rfl⟩ := enabled stepped
      exact watcher_valid valid .finished running nofun
  | readID f actor =>
      obtain ⟨decided, rfl⟩ := enabled stepped
      exact put_valid valid ((valid.calls f).hold decided)
  | submit f actor =>
      simp only [step] at stepped
      split at stepped
      case h_2 => cases stepped
      rename_i id holding
      cases stepped
      exact submit_valid valid holding
  | drop f actor =>
      simp only [step] at stepped
      split at stepped
      case h_2 => cases stepped
      rename_i id holding
      cases stepped
      exact put_valid valid ((valid.calls f).resume holding)
  | borrow object id =>
      obtain ⟨pooled, rfl⟩ := enabled stepped
      exact ⟨fun g => (valid.calls g).elsewhere _ _ _ (by simp [pooled]), valid.resets⟩
  | giveBack object =>
      obtain ⟨borrowed, rfl⟩ := enabled stepped
      refine ⟨fun g => ?_, valid.resets⟩
      have kept := (valid.calls g).elsewhere object .pool (st.id object) (by simp [borrowed])
      rwa [Function.update_eq_self] at kept

/-- With the watcher and the pump out of the way before the clean-up, a call
resets only the stream it was given, and only while it has it. -/
theorem cancelled_forward_resets_own_stream {trace : List Action} {last : State}
    (joined : Guarded step Joined State.new trace) (ran : run step State.new trace = some last) :
    OwnResets last :=
  (run_invariant (fun _ _ _ valid joined stepped => step_valid valid joined stepped)
    valid_new joined ran).resets

/-- Call 0 is served and its client leaves at the end; its watcher wakes up only
after call 1 has acquired the same object. -/
def lateWatch : List Action :=
  [.acquire 0 0, .headersSent 0 false, .headWritten 0, .copyEnds 0, .join 0, .cancel 0,
    .removeStream 0, .deregisterStream 0, .release 0,
    .acquire 1 0, .headersSent 1 false,
    .watchCancelled 0, .readID 0 .watcher, .submit 0 .watcher]

theorem late_watcher_resets_other_stream :
    ¬ ∀ trace last, run step State.new trace = some last → OwnResets last := by
  intro always
  have ran : (run step State.new lateWatch).map State.resets = some [⟨0, 3, 1, false⟩] := by
    decide
  obtain ⟨last, reached, resets⟩ := Option.map_eq_some_iff.mp ran
  have own := always lateWatch last reached ⟨0, 3, 1, false⟩ (by simp [resets])
  exact absurd own.1 (by decide)

/-- Both calls are cancelled, one while it waits and one while it copies. -/
def promptWatch : List Action :=
  [.acquire 0 0, .headersSent 0 true, .acquire 1 1, .headersSent 1 false, .headWritten 0,
    .cancel 0, .cancel 1, .watchCancelled 0, .readID 0 .watcher, .waitCancelled 1,
    .readID 1 .forward, .submit 1 .forward, .submit 0 .watcher, .copyFails 0, .readID 0 .forward,
    .submit 0 .forward, .pumpEnds 0, .join 0, .removeStream 0, .deregisterStream 0, .release 0,
    .join 1, .removeStream 1, .deregisterStream 1, .release 1]

theorem prompt_watch_resets_own_stream :
    ∃ last, run step State.new promptWatch = some last ∧
      Guarded step Joined State.new promptWatch ∧ last.resets.length = 3 ∧ OwnResets last := by
  have ran : (run step State.new promptWatch).map (·.resets.length) = some 3 := by decide
  obtain ⟨last, reached, count⟩ := Option.map_eq_some_iff.mp ran
  have joined : Guarded step Joined State.new promptWatch := by decide
  exact ⟨last, reached, joined, count, cancelled_forward_resets_own_stream joined reached⟩

end ReverseHttp.CancelWatch
