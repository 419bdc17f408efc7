import ReverseHttp.Transition
import ReverseHttp.MachineInt

/-!
Send-side flow control of internal/h2/flow.go. Every method body runs under
`SendCredit.mu`, so each is one atomic step. A stream's window is addressed by
pointer in the source; here a memory maps pointers to windows. `Reserve`
parked in `cond.Wait` is a step that is not enabled.
-/

namespace ReverseHttp.Flow

open Transition MachineInt

def defaultInitialWindow : Int32 := 65535

structure SendCredit where
  connSendWindow : Int32
  peerInitWindow : Int32
  dead : Bool
  deriving DecidableEq

/-- The credit part of `h2.New`. -/
def SendCredit.new : SendCredit :=
  { connSendWindow := defaultInitialWindow
    peerInitWindow := defaultInitialWindow
    dead := false }

inductive Reservation where
  | parked
  | returned (got : Int32) (dead : Bool) (credit : SendCredit) (streamWindow : Int32)

def reserve (sc : SendCredit) (streamWindow want : Int32) : Reservation :=
  if want ≤ 0 then .returned 0 false sc streamWindow
  else if sc.dead then .returned 0 true sc streamWindow
  else
    let avail := minimum streamWindow sc.connSendWindow
    if 0 < avail then
      let got := if want < avail then want else avail
      .returned got false { sc with connSendWindow := sc.connSendWindow - got }
        (streamWindow - got)
    else .parked

def addConn (sc : SendCredit) (delta : Int32) : SendCredit :=
  { sc with connSendWindow := sc.connSendWindow + delta }

def addStream (streamWindow delta : Int32) : Int32 := streamWindow + delta

def addDelta (delta : Int32) (memory : Nat → Int32) (pointer : Nat) : Nat → Int32 :=
  Function.update memory pointer (memory pointer + delta)

def applyInitialWindowDelta (sc : SendCredit) (newSize : Int32) (memory : Nat → Int32)
    (streamWindows : List Nat) : SendCredit × (Nat → Int32) :=
  let delta := newSize - sc.peerInitWindow
  ({ sc with peerInitWindow := newSize },
    if delta ≠ 0 then streamWindows.foldl (addDelta delta) memory else memory)

def initialStreamWindow (sc : SendCredit) : Int32 := sc.peerInitWindow

def markDead (sc : SendCredit) : SendCredit := { sc with dead := true }

/-- What a returned reservation can be: nothing asked for, a dead connection,
or a positive grant that both windows pay for. -/
theorem reserve_cases {sc credit : SendCredit} {streamWindow want got window : Int32}
    {dead : Bool} (returned : reserve sc streamWindow want = .returned got dead credit window) :
    (got = 0 ∧ credit = sc ∧ window = streamWindow ∧ (want ≤ 0 ∨ dead = true)) ∨
    (0 < got ∧ got ≤ want ∧ got ≤ streamWindow ∧ got ≤ sc.connSendWindow ∧ dead = false ∧
      credit = { sc with connSendWindow := sc.connSendWindow - got } ∧
      window = streamWindow - got) := by
  unfold reserve at returned
  by_cases idle : want ≤ 0
  · rw [if_pos idle] at returned
    injection returned with sameGot _ sameCredit sameWindow
    exact Or.inl ⟨sameGot.symm, sameCredit.symm, sameWindow.symm, Or.inl idle⟩
  rw [if_neg idle] at returned
  by_cases gone : sc.dead = true
  · rw [if_pos gone] at returned
    injection returned with sameGot sameDead sameCredit sameWindow
    exact Or.inl ⟨sameGot.symm, sameCredit.symm, sameWindow.symm, Or.inr sameDead.symm⟩
  rw [if_neg gone] at returned
  have smaller := minimum_toInt streamWindow sc.connSendWindow
  revert returned smaller
  generalize minimum streamWindow sc.connSendWindow = avail
  intro returned smaller
  by_cases available : 0 < avail
  · simp only [available, ↓reduceIte] at returned
    injection returned with sameGot sameDead sameCredit sameWindow
    subst sameGot sameCredit sameWindow
    refine Or.inr ⟨?_, ?_, ?_, ?_, sameDead.symm, rfl, rfl⟩ <;>
      simp only [Int32.lt_iff_toInt_lt, Int32.le_iff_toInt_le, Int32.toInt_zero] at * <;>
      split <;> omega
  · simp [available] at returned

/-- `Reserve` waits only on a live connection, with one of the windows used up. -/
theorem reserve_parked {sc : SendCredit} {streamWindow want : Int32}
    (parked : reserve sc streamWindow want = .parked) :
    ¬ want ≤ 0 ∧ sc.dead = false ∧ ¬ (0 < streamWindow ∧ 0 < sc.connSendWindow) := by
  unfold reserve at parked
  split at parked
  · cases parked
  rename_i asked
  split at parked
  · cases parked
  rename_i alive
  simp only [] at parked
  split at parked
  · cases parked
  rename_i spent
  refine ⟨asked, by simpa using alive, ?_⟩
  simp only [Int32.lt_iff_toInt_lt, Int32.toInt_zero, minimum_toInt] at spent ⊢
  omega

/-- Credit that ends the wait of a `Reserve`. -/
abbrev Avail := { avail : Int32 // 0 < avail }

/-- What a `Reserve` finds when it stops waiting; `none` on a dead connection. -/
def found (sc : SendCredit) (streamWindow : Int32) : Option Avail :=
  if ready : 0 < minimum streamWindow sc.connSendWindow ∧ sc.dead = false then
    some ⟨_, ready.1⟩
  else none

/-- The results of `Reserve` from what it finds. -/
def granted (want : Int32) (credit : Option Avail) : Int32 × Bool :=
  if want ≤ 0 then (0, false)
  else
    match credit with
    | none => (0, true)
    | some avail => (if want < avail.val then want else avail.val, false)

/-- The two results of a reservation, by what it found. -/
theorem reserve_result {sc credit : SendCredit} {streamWindow want got window : Int32}
    {dead : Bool} (returned : reserve sc streamWindow want = .returned got dead credit window) :
    (want ≤ 0 ∧ got = 0 ∧ dead = false) ∨
    (¬ want ≤ 0 ∧ sc.dead = true ∧ got = 0 ∧ dead = true) ∨
    (¬ want ≤ 0 ∧ sc.dead = false ∧ 0 < minimum streamWindow sc.connSendWindow ∧
      got = (if want < minimum streamWindow sc.connSendWindow then want
        else minimum streamWindow sc.connSendWindow) ∧ dead = false) := by
  unfold reserve at returned
  by_cases idle : want ≤ 0
  · rw [if_pos idle] at returned
    injection returned with sameGot sameDead
    exact .inl ⟨idle, sameGot.symm, sameDead.symm⟩
  rw [if_neg idle] at returned
  cases gone : sc.dead with
  | true =>
      rw [gone, if_pos rfl] at returned
      injection returned with sameGot sameDead
      exact .inr (.inl ⟨idle, rfl, sameGot.symm, sameDead.symm⟩)
  | false =>
      rw [gone, if_neg (by simp)] at returned
      simp only [] at returned
      split at returned
      · rename_i available
        injection returned with sameGot sameDead
        exact .inr (.inr ⟨idle, rfl, available, sameGot.symm, sameDead.symm⟩)
      · cases returned

/-- Where the windows are an environment, what `granted` makes of them is what `Reserve`
computes. -/
theorem reserve_granted {sc credit : SendCredit} {streamWindow want got window : Int32}
    {dead : Bool} (returned : reserve sc streamWindow want = .returned got dead credit window) :
    granted want (found sc streamWindow) = (got, dead) := by
  unfold granted
  rcases reserve_result returned with
    ⟨idle, rfl, rfl⟩ | ⟨asked, gone, rfl, rfl⟩ | ⟨asked, alive, available, rfl, rfl⟩
  · rw [if_pos idle]
  · rw [if_neg asked, found, dif_neg (by simp [gone])]
  · rw [if_neg asked, found, dif_pos ⟨available, alive⟩]

/-- A wait that was for something ends with the connection dead, or with between
one byte and all that was asked for. -/
theorem granted_cases {want : Int32} (asked : 0 < want.toInt) (credit : Option Avail) :
    (credit = none ∧ granted want credit = (0, true)) ∨
      ∃ got, granted want credit = (got, false) ∧ 0 < got.toInt ∧ got.toInt ≤ want.toInt ∧
        credit ≠ none := by
  have busy : ¬ want ≤ 0 := by
    rw [Int32.le_iff_toInt_le, Int32.toInt_zero]
    omega
  simp only [granted, if_neg busy]
  cases credit with
  | none => exact Or.inl ⟨rfl, rfl⟩
  | some avail =>
      have positive := avail.property
      rw [Int32.lt_iff_toInt_lt, Int32.toInt_zero] at positive
      refine Or.inr ⟨_, rfl, ?_⟩
      rw [smaller_toInt]
      exact ⟨by omega, by omega, by simp⟩

theorem foldl_addDelta (delta : Int32) (memory : Nat → Int32) (pointers : List Nat)
    (unique : pointers.Nodup) (pointer : Nat) :
    pointers.foldl (addDelta delta) memory pointer =
      if pointer ∈ pointers then memory pointer + delta else memory pointer := by
  induction pointers generalizing memory with
  | nil => simp
  | cons head rest ih =>
      obtain ⟨fresh, uniqueRest⟩ := List.nodup_cons.mp unique
      rw [List.foldl_cons, ih _ uniqueRest]
      by_cases same : pointer = head
      · subst same
        simp [fresh, addDelta]
      · simp [same, addDelta]

@[simp]
theorem applied_credit (sc : SendCredit) (newSize : Int32) (memory : Nat → Int32)
    (pointers : List Nat) :
    (applyInitialWindowDelta sc newSize memory pointers).1 =
      { sc with peerInitWindow := newSize } := rfl

/-- A window whose pointer is in the slice moves by the delta, also when the
source skips the loop because the delta is zero. -/
theorem applied_window (sc : SendCredit) (newSize : Int32) (memory : Nat → Int32)
    (pointers : List Nat) (unique : pointers.Nodup) (pointer : Nat) :
    (applyInitialWindowDelta sc newSize memory pointers).2 pointer =
      if pointer ∈ pointers then memory pointer + (newSize - sc.peerInitWindow)
      else memory pointer := by
  unfold applyInitialWindowDelta
  by_cases changed : newSize - sc.peerInitWindow = 0
  · simp [changed]
  · simp only [ne_eq, changed, not_false_eq_true, ↓reduceIte]
    exact foldl_addDelta _ memory pointers unique pointer

end ReverseHttp.Flow
