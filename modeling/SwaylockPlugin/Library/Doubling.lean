import Mathlib.Algebra.Group.Nat.Defs
import Mathlib.Data.Nat.Log
import Mathlib.Order.Bounds.Basic

namespace SwaylockPlugin.Library

/-- The capacity of a doubling array is no cell for no element, and else the least power of two that is large enough. -/
def doubledCapacity (length : ℕ) : ℕ := if length = 0 then 0 else 2 ^ Nat.clog 2 length

theorem two_pow_clog_isLeast (number : ℕ) :
    IsLeast {power | power.isPowerOfTwo ∧ number ≤ power} (2 ^ Nat.clog 2 number) := by
  constructor
  · exact ⟨⟨_, rfl⟩, Nat.le_pow_clog Nat.one_lt_two number⟩
  · rintro _ ⟨⟨exponent, rfl⟩, above⟩
    apply Nat.pow_le_pow_right Nat.two_pos
    exact (Nat.clog_le_iff_le_pow Nat.one_lt_two).mpr above

theorem doubledCapacity_isLeast {length : ℕ} (filled : 0 < length) :
    IsLeast {power | power.isPowerOfTwo ∧ length ≤ power} (doubledCapacity length) := by
  rw [doubledCapacity, if_neg (by omega)]
  exact two_pow_clog_isLeast length

theorem le_doubledCapacity (length : ℕ) : length ≤ doubledCapacity length := by
  by_cases empty : length = 0
  · omega
  · exact (doubledCapacity_isLeast (by omega)).1.2

theorem doubledCapacity_mono {shorter longer : ℕ} (grows : shorter ≤ longer) :
    doubledCapacity shorter ≤ doubledCapacity longer := by
  by_cases empty : shorter = 0
  · rw [doubledCapacity, if_pos empty]
    omega
  · rw [doubledCapacity, doubledCapacity, if_neg empty, if_neg (by omega)]
    exact Nat.pow_le_pow_right Nat.two_pos (Nat.clog_mono_right 2 grows)

theorem doubledCapacity_le {length exponent : ℕ} (fits : length ≤ 2 ^ exponent) :
    doubledCapacity length ≤ 2 ^ exponent := by
  by_cases empty : length = 0
  · rw [doubledCapacity, if_pos empty]
    omega
  · exact (doubledCapacity_isLeast (by omega)).2 ⟨⟨exponent, rfl⟩, fits⟩

end SwaylockPlugin.Library
