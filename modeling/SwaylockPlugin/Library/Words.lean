import Mathlib.Algebra.Group.Int.Defs
import Mathlib.Algebra.Group.Nat.Defs

namespace SwaylockPlugin.Library

/-- A value of 64 bits wraps around where it does not fit. -/
def wrap64 (value : Int) : Int := value.bmod (2 ^ 64)

/-- An `int` keeps the low 32 bits of what is stored in it. -/
def wrap32 (value : Int) : Int := value.bmod (2 ^ 32)

theorem wrap32_eq {value : Int} (lower : -2 ^ 31 ≤ value) (upper : value < 2 ^ 31) : wrap32 value = value :=
  Int.bmod_eq_of_le (by omega) (by omega)

theorem wrap64_eq {value : Int} (lower : -2 ^ 63 ≤ value) (upper : value < 2 ^ 63) : wrap64 value = value :=
  Int.bmod_eq_of_le (by omega) (by omega)

theorem wrap32_bounds (value : Int) : -2 ^ 31 ≤ wrap32 value ∧ wrap32 value < 2 ^ 31 := by
  have lower := Int.le_bmod (x := value) (by decide : 0 < 2 ^ 32)
  have upper := Int.bmod_lt (x := value) (by decide : 0 < 2 ^ 32)
  unfold wrap32
  omega

theorem wrap32_emod (value : Int) : wrap32 value % 2 ^ 32 = value % 2 ^ 32 := Int.bmod_emod

theorem wrap32_add (first second : Int) : wrap32 (wrap32 first + second) = wrap32 (first + second) := Int.bmod_add_bmod

end SwaylockPlugin.Library
