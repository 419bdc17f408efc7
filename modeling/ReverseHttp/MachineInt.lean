import Mathlib.Algebra.Order.Ring.Int

/-!
Exactness of signed 32-bit arithmetic. A machine result agrees with the
integer result whenever the integer result is representable.
-/

namespace ReverseHttp.MachineInt

def Representable (value : Int) : Prop := -2 ^ 31 ≤ value ∧ value < 2 ^ 31

theorem bmod_of_representable {value : Int} (fits : Representable value) :
    value.bmod (2 ^ 32) = value := by
  obtain ⟨low, high⟩ := fits
  exact Int.bmod_eq_of_le (by omega) (by omega)

theorem add_exact {a b : Int32} (fits : Representable (a.toInt + b.toInt)) :
    (a + b).toInt = a.toInt + b.toInt := by
  rw [Int32.toInt_add, bmod_of_representable fits]

theorem sub_exact {a b : Int32} (fits : Representable (a.toInt - b.toInt)) :
    (a - b).toInt = a.toInt - b.toInt := by
  rw [Int32.toInt_sub, bmod_of_representable fits]

/-- A conversion from an unsigned value that an `int32` can hold. -/
theorem ofNat_exact {value : Nat} (fits : value ≤ 2147483647) :
    (Int32.ofNat value).toInt = value := by
  rw [Int32.toInt_ofNat']
  exact bmod_of_representable ⟨by omega, by omega⟩

/-- A comparison that picks the smaller of two machine integers. -/
theorem smaller_toInt (a b : Int32) : (if a < b then a else b).toInt = min a.toInt b.toInt := by
  split <;> rename_i order <;> rw [Int32.lt_iff_toInt_lt] at order <;> omega

/-- The built-in `min` on two machine integers. -/
def minimum (a b : Int32) : Int32 := if a < b then a else b

theorem minimum_toInt (a b : Int32) : (minimum a b).toInt = min a.toInt b.toInt :=
  smaller_toInt a b

end ReverseHttp.MachineInt
