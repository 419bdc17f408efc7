import ReverseHttp.Transition
import ReverseHttp.BodyQueue
import Mathlib.Tactic.Common

/-!
Recycling of `Stream` objects across connections. The state holds every
object by address, the registry of each connection (`Conn.streams`) and of
each tunnel (`Worker.streams`, seen through `clientStream.h2`), and for every
frame reader the pointer it obtained from a lookup and has not finished with.
Each mutex-protected section is one action, so a lookup and its effects are
separate steps; the reader may block on the write queue in between.

`phase` is where an object's owner stands; `free` covers both an object in
`streamPool` and one not allocated yet. `owner` is ghost: the connection and
stream id an object was last acquired for.
-/

namespace ReverseHttp.StreamIsolation

open Transition Wire BodyQueue

/-- `acquire → addStream → [addClient] → removeStream → [deregister] → release`.
A failed `sendHeaders` takes the two removals in the other order. -/
inductive Phase where
  | free
  | acquired
  | registered
  | client
  | clientOnly
  | removed
  deriving DecidableEq, Repr

/-- What a frame does to the stream its id was looked up as. -/
inductive Effect where
  | push (chunk : DataChunk)
  | close
  | fail (err : H2Error)
  | credit (inc : Int32)
  deriving DecidableEq

def Effect.apply (s : Stream) : Effect → Stream
  | .push chunk => pushData s chunk
  | .close => closeData s
  | .fail err => failBody s err
  | .credit inc => { s with sendWindow := s.sendWindow + inc }

/-- A frame reader between its lookup and the last effect of the frame. -/
structure Held where
  conn : Nat
  id : StreamID
  object : Nat
  effects : List Effect
  deriving DecidableEq

structure Applied where
  conn : Nat
  id : StreamID
  owner : Option (Nat × StreamID)
  deriving DecidableEq, Repr

structure State where
  object : Nat → Stream
  phase : Nat → Phase
  owner : Nat → Option (Nat × StreamID)
  streams : Nat → StreamID → Option Nat
  clients : Nat → StreamID → Option Nat
  held : List Held
  applied : List Applied

def State.new : State :=
  { object := fun _ => Stream.zero
    phase := fun _ => .free
    owner := fun _ => none
    streams := fun _ _ => none
    clients := fun _ _ => none
    held := []
    applied := [] }

/-- The lookups of the two frame loops. `clientRst` is the proxy's
`getStream` before `cs.fail`; `clientEnd` is `deliverResponse` for a HEADERS
frame with END_STREAM. -/
inductive Received where
  | data (payload : DataChunk) (endStream : Bool)
  | rst
  | windowUpdate (inc : Int32)
  | clientRst
  | clientEnd
  deriving DecidableEq

def Received.effects : Received → List Effect
  | .data payload endStream =>
      (if payload.data = [] then [] else [.push payload]) ++ (if endStream then [.close] else [])
  | .rst => [.fail .streamReset]
  | .windowUpdate inc => [.credit inc]
  | .clientRst => [.fail .streamReset]
  | .clientEnd => [.close]

def Received.lookup (st : State) (conn : Nat) (id : StreamID) : Received → Option Nat
  | .clientRst => st.clients conn id
  | .clientEnd => st.clients conn id
  | _ => st.streams conn id

inductive Action where
  | acquire (object conn : Nat) (id : StreamID) (window : Int32)
  | addStream (object : Nat)
  | addClient (object : Nat)
  | removeStream (object : Nat)
  | deregister (object : Nat)
  | release (object : Nat)
  | receive (conn : Nat) (id : StreamID) (frame : Received)
  | applyNext (held : Held)
  deriving DecidableEq

def setEntry (registry : Nat → StreamID → Option Nat) (key : Nat × StreamID)
    (entry : Option Nat) : Nat → StreamID → Option Nat :=
  fun conn id => if (conn, id) = key then entry else registry conn id

/-- The reader drops its pointer with the last effect of the frame. -/
def resume (h : Held) (others : List Held) : List Held :=
  if h.effects = [] then others else h :: others

/-- The phase an owner moves to when it takes an object out of a registry. -/
def afterRemove : Phase → Option Phase
  | .registered => some .removed
  | .client => some .clientOnly
  | _ => none

def afterDeregister : Phase → Option Phase
  | .client => some .registered
  | .clientOnly => some .removed
  | _ => none

def step (st : State) : Action → Option State
  | .acquire o conn id window =>
      if st.phase o = .free then
        some { st with
          object := Function.update st.object o (BodyQueue.acquire (st.object o) id conn window)
          phase := Function.update st.phase o .acquired
          owner := Function.update st.owner o (some (conn, id)) }
      else none
  | .addStream o =>
      match st.phase o, st.owner o with
      | .acquired, some key =>
          some { st with
            streams := setEntry st.streams key (some o)
            phase := Function.update st.phase o .registered }
      | _, _ => none
  | .addClient o =>
      match st.phase o, st.owner o with
      | .registered, some key =>
          some { st with
            clients := setEntry st.clients key (some o)
            phase := Function.update st.phase o .client }
      | _, _ => none
  | .removeStream o =>
      match afterRemove (st.phase o), st.owner o with
      | some phase, some key =>
          some { st with
            streams := setEntry st.streams key none
            phase := Function.update st.phase o phase }
      | _, _ => none
  | .deregister o =>
      match afterDeregister (st.phase o), st.owner o with
      | some phase, some key =>
          some { st with
            clients := setEntry st.clients key none
            phase := Function.update st.phase o phase }
      | _, _ => none
  | .release o =>
      if st.phase o = .removed then
        some { st with
          object := Function.update st.object o (BodyQueue.release (st.object o)).1
          phase := Function.update st.phase o .free }
      else none
  | .receive conn id frame =>
      -- one reader per connection, which takes frames one after the other
      if ∀ h ∈ st.held, h.conn ≠ conn then
        match frame.lookup st conn id with
        | some o => some { st with held := resume ⟨conn, id, o, frame.effects⟩ st.held }
        | none => some st
      else none
  | .applyNext h =>
      if h ∈ st.held then
        match h.effects with
        | [] => none
        | effect :: rest =>
            some { st with
              object := Function.update st.object h.object (effect.apply (st.object h.object))
              held := resume { h with effects := rest } (st.held.erase h)
              applied := ⟨h.conn, h.id, st.owner h.object⟩ :: st.applied }
      else none

/-- Every effect so far reached an object acquired for the frame's own
connection and stream id. -/
def Isolated (st : State) : Prop :=
  ∀ effect ∈ st.applied, effect.owner = some (effect.conn, effect.id)

/-- The pool hands out only objects that no frame reader still points to. -/
def Unheld (st : State) : Action → Prop
  | .acquire o _ _ _ => ∀ h ∈ st.held, h.object ≠ o
  | _ => True

instance (st : State) (action : Action) : Decidable (Unheld st action) := by
  unfold Unheld
  split <;> infer_instance

/-- Each entry of the registry points to an object acquired for that entry's
key, whose owner has not taken it out yet. -/
def Entries (registry : Nat → StreamID → Option Nat) (owner : Nat → Option (Nat × StreamID))
    (phase : Nat → Phase) (live : Phase → Prop) : Prop :=
  ∀ conn id o, registry conn id = some o → owner o = some (conn, id) ∧ live (phase o)

def InStreams (phase : Phase) : Prop := phase = .registered ∨ phase = .client

def InClients (phase : Phase) : Prop := phase = .client ∨ phase = .clientOnly

/-- Both registries are consistent and every reader's pointer is current. -/
structure Valid (st : State) : Prop where
  streams : Entries st.streams st.owner st.phase InStreams
  clients : Entries st.clients st.owner st.phase InClients
  held : ∀ h ∈ st.held, st.owner h.object = some (h.conn, h.id)
  applied : Isolated st

theorem valid_new : Valid State.new := by
  constructor <;> simp [State.new, Isolated, Entries]

section Entries

variable {registry : Nat → StreamID → Option Nat} {owner : Nat → Option (Nat × StreamID)}
  {phase : Nat → Phase} {live : Phase → Prop} {o : Nat} {key : Nat × StreamID} {moved : Phase}

/-- A phase change keeps every entry as long as it takes no object out. -/
theorem entries_phase (entries : Entries registry owner phase live)
    (kept : live (phase o) → live moved) :
    Entries registry owner (Function.update phase o moved) live := by
  intro conn id other entry
  obtain ⟨owned, present⟩ := entries conn id other entry
  by_cases same : other = o
  · subst same
    exact ⟨owned, by simpa using kept present⟩
  · exact ⟨owned, by simpa [Function.update_of_ne same] using present⟩

/-- An object in no registry may change hands. -/
theorem entries_acquire (entries : Entries registry owner phase live)
    (absent : ¬ live (phase o)) :
    Entries registry (Function.update owner o (some key)) (Function.update phase o moved) live := by
  intro conn id other entry
  obtain ⟨owned, present⟩ := entries conn id other entry
  have elsewhere : other ≠ o := by
    rintro rfl
    exact absent present
  simpa [Function.update_of_ne elsewhere] using And.intro owned present

theorem entries_insert (entries : Entries registry owner phase live)
    (owned : owner o = some key) (present : live moved) :
    Entries (setEntry registry key (some o)) owner (Function.update phase o moved) live := by
  intro conn id other entry
  by_cases here : (conn, id) = key
  · simp only [setEntry, here, ↓reduceIte, Option.some.injEq] at entry
    subst entry
    exact ⟨here ▸ owned, by simpa using present⟩
  · simp only [setEntry, here, ↓reduceIte] at entry
    exact entries_phase entries (fun _ => present) conn id other entry

/-- An object has at most one entry, the one its owner deletes. -/
theorem entries_delete (entries : Entries registry owner phase live)
    (owned : owner o = some key) :
    Entries (setEntry registry key none) owner (Function.update phase o moved) live := by
  intro conn id other entry
  by_cases here : (conn, id) = key
  · simp [setEntry, here] at entry
  · simp only [setEntry, here, ↓reduceIte] at entry
    obtain ⟨ownedOld, present⟩ := entries conn id other entry
    have elsewhere : other ≠ o := by
      rintro rfl
      exact here (Option.some.inj (ownedOld.symm.trans owned))
    exact ⟨ownedOld, by simpa [Function.update_of_ne elsewhere] using present⟩

end Entries

theorem mem_resume {h other : Held} {others : List Held} (member : other ∈ resume h others) :
    other = h ∨ other ∈ others := by
  unfold resume at member
  split at member
  · exact Or.inr member
  · exact List.mem_cons.mp member

/-- A registry lookup returns an object acquired for the key. -/
theorem lookup_owner {st : State} (valid : Valid st) {conn o : Nat} {id : StreamID}
    {frame : Received} (found : frame.lookup st conn id = some o) :
    st.owner o = some (conn, id) := by
  cases frame with
  | clientRst => exact (valid.clients conn id o found).1
  | clientEnd => exact (valid.clients conn id o found).1
  | data payload endStream => exact (valid.streams conn id o found).1
  | rst => exact (valid.streams conn id o found).1
  | windowUpdate inc => exact (valid.streams conn id o found).1

theorem acquire_valid {st next : State} (valid : Valid st) {o conn : Nat} {id : StreamID}
    {window : Int32} (unheld : ∀ h ∈ st.held, h.object ≠ o)
    (stepped : step st (.acquire o conn id window) = some next) : Valid next := by
  simp only [step] at stepped
  split at stepped
  case isFalse => simp at stepped
  rename_i free
  obtain rfl := Option.some.inj stepped
  constructor
  · exact entries_acquire valid.streams (by simp [free, InStreams])
  · exact entries_acquire valid.clients (by simp [free, InClients])
  · -- the only step that changes an owner, hence the only one that needs the guard
    intro h member
    simpa [Function.update_of_ne (unheld h member)] using valid.held h member
  · exact valid.applied

theorem addStream_valid {st next : State} (valid : Valid st) {o : Nat}
    (stepped : step st (.addStream o) = some next) : Valid next := by
  simp only [step] at stepped
  split at stepped
  case h_2 => simp at stepped
  rename_i key acquired owned
  obtain rfl := Option.some.inj stepped
  constructor
  · exact entries_insert valid.streams owned (Or.inl rfl)
  · exact entries_phase valid.clients (by simp [acquired, InClients])
  · exact valid.held
  · exact valid.applied

theorem addClient_valid {st next : State} (valid : Valid st) {o : Nat}
    (stepped : step st (.addClient o) = some next) : Valid next := by
  simp only [step] at stepped
  split at stepped
  case h_2 => simp at stepped
  rename_i key registered owned
  obtain rfl := Option.some.inj stepped
  constructor
  · exact entries_phase valid.streams (fun _ => Or.inr rfl)
  · exact entries_insert valid.clients owned (Or.inl rfl)
  · exact valid.held
  · exact valid.applied

theorem removeStream_valid {st next : State} (valid : Valid st) {o : Nat}
    (stepped : step st (.removeStream o) = some next) : Valid next := by
  simp only [step] at stepped
  split at stepped
  case h_2 => simp at stepped
  rename_i phase key moved owned
  obtain rfl := Option.some.inj stepped
  constructor
  · exact entries_delete valid.streams owned
  · apply entries_phase valid.clients
    rintro (both | alone)
    · rw [both] at moved
      exact Or.inr (Option.some.inj moved).symm
    · simp [alone, afterRemove] at moved
  · exact valid.held
  · exact valid.applied

theorem deregister_valid {st next : State} (valid : Valid st) {o : Nat}
    (stepped : step st (.deregister o) = some next) : Valid next := by
  simp only [step] at stepped
  split at stepped
  case h_2 => simp at stepped
  rename_i phase key moved owned
  obtain rfl := Option.some.inj stepped
  constructor
  · apply entries_phase valid.streams
    rintro (alone | both)
    · simp [alone, afterDeregister] at moved
    · rw [both] at moved
      exact Or.inl (Option.some.inj moved).symm
  · exact entries_delete valid.clients owned
  · exact valid.held
  · exact valid.applied

theorem release_valid {st next : State} (valid : Valid st) {o : Nat}
    (stepped : step st (.release o) = some next) : Valid next := by
  simp only [step] at stepped
  split at stepped
  case isFalse => simp at stepped
  rename_i removed
  obtain rfl := Option.some.inj stepped
  constructor
  · exact entries_phase valid.streams (by simp [removed, InStreams])
  · exact entries_phase valid.clients (by simp [removed, InClients])
  · exact valid.held
  · exact valid.applied

theorem receive_valid {st next : State} (valid : Valid st) {conn : Nat} {id : StreamID}
    {frame : Received} (stepped : step st (.receive conn id frame) = some next) : Valid next := by
  simp only [step] at stepped
  split at stepped
  case isFalse => simp at stepped
  split at stepped
  · rename_i o found
    obtain rfl := Option.some.inj stepped
    refine ⟨valid.streams, valid.clients, ?_, valid.applied⟩
    intro h member
    rcases mem_resume member with rfl | old
    · exact lookup_owner valid found
    · exact valid.held h old
  · obtain rfl := Option.some.inj stepped
    exact valid

theorem applyNext_valid {st next : State} (valid : Valid st) {h : Held}
    (stepped : step st (.applyNext h) = some next) : Valid next := by
  simp only [step] at stepped
  split at stepped
  case isFalse => simp at stepped
  rename_i member
  have owned := valid.held h member
  split at stepped
  · simp at stepped
  · obtain rfl := Option.some.inj stepped
    refine ⟨valid.streams, valid.clients, ?_, ?_⟩
    · intro other kept
      rcases mem_resume kept with rfl | old
      · exact owned
      · exact valid.held other (List.mem_of_mem_erase old)
    · intro effect reached
      rcases List.mem_cons.mp reached with rfl | old
      · exact owned
      · exact valid.applied effect old

theorem step_valid {st next : State} {action : Action} (valid : Valid st)
    (unheld : Unheld st action) (stepped : step st action = some next) : Valid next := by
  cases action with
  | acquire o conn id window => exact acquire_valid valid unheld stepped
  | addStream o => exact addStream_valid valid stepped
  | addClient o => exact addClient_valid valid stepped
  | removeStream o => exact removeStream_valid valid stepped
  | deregister o => exact deregister_valid valid stepped
  | release o => exact release_valid valid stepped
  | receive conn id frame => exact receive_valid valid stepped
  | applyNext h => exact applyNext_valid valid stepped

/-- Isolation holds along every run in which no `Acquire` reuses an object
that a frame reader looked up and has not finished with. -/
theorem isolated_while_unheld (trace : List Action) (last : State)
    (unheld : Guarded step Unheld State.new trace)
    (ran : run step State.new trace = some last) : Isolated last :=
  (run_invariant (fun _ _ _ valid unheld stepped => step_valid valid unheld stepped)
    valid_new unheld ran).applied

/-- A DATA frame of connection 0 is looked up; the handler returns and its
stream is recycled for connection 1 before the bytes are pushed. -/
def recycleTrace : List Action :=
  [.acquire 0 0 1 65535, .addStream 0,
    .receive 0 1 (.data ⟨some 7, [104, 105]⟩ false),
    .removeStream 0, .release 0,
    .acquire 0 1 1 65535, .addStream 0,
    .applyNext ⟨0, 1, 0, [.push ⟨some 7, [104, 105]⟩]⟩]

theorem recycled_stream_receives_foreign_bytes :
    ¬ ∀ trace last, run step State.new trace = some last → Isolated last := by
  intro isolated
  obtain ⟨last, ran⟩ : ∃ last, run step State.new recycleTrace = some last :=
    Option.isSome_iff_exists.mp (by decide)
  have reached : (run step State.new recycleTrace).map State.applied =
      some [⟨0, 1, some (1, 1)⟩] := by decide
  rw [ran] at reached
  have effects : last.applied = [⟨0, 1, some (1, 1)⟩] := Option.some.inj reached
  have same := isolated recycleTrace last ran ⟨0, 1, some (1, 1)⟩ (by simp [effects])
  simp at same

/-- The same frame with the owner's clean-up after the push is isolated. -/
def orderlyTrace : List Action :=
  [.acquire 0 0 1 65535, .addStream 0,
    .receive 0 1 (.data ⟨some 7, [104, 105]⟩ false),
    .applyNext ⟨0, 1, 0, [.push ⟨some 7, [104, 105]⟩]⟩,
    .removeStream 0, .release 0, .acquire 0 1 1 65535, .addStream 0]

theorem isolated_while_unheld_orderly :
    ∃ last, run step State.new orderlyTrace = some last ∧
      Guarded step Unheld State.new orderlyTrace ∧ Isolated last := by
  obtain ⟨last, ran⟩ : ∃ last, run step State.new orderlyTrace = some last :=
    Option.isSome_iff_exists.mp (by decide)
  have unheld : Guarded step Unheld State.new orderlyTrace := by decide
  exact ⟨last, ran, unheld, isolated_while_unheld orderlyTrace last unheld ran⟩

end ReverseHttp.StreamIsolation
