import Mathlib.Algebra.Order.Ring.Rat
import Mathlib.Data.Nat.Log
import Mathlib.Algebra.Order.Field.Basic
import Mathlib.Algebra.Order.AbsoluteValue.Basic
import Mathlib.Tactic.Linarith
import Mathlib.Tactic.Ring

namespace SwaylockPlugin.Library

/-- The nearest integer to a number is the even one where the number is between two. -/
def roundHalfEven (value : Rat) : Int :=
  let below := value.floor
  if value - below < 1 / 2 ∨ value - below = 1 / 2 ∧ below % 2 = 0 then below else below + 1

/-- The largest power of two that is not above the absolute value has this exponent. -/
def binaryExponent (value : Rat) : Int :=
  let guess : Int := (value.num.natAbs.log2 : Int) - value.den.log2
  if |value| < 2 ^ guess then guess - 1 else guess

/-- The last of 24 bits has this value, and small numbers share the value of the least bit. -/
def lastBit (value : Rat) : Rat := 2 ^ max (binaryExponent value - 23) (-149)

/-- A number is rounded to single precision, where the exponent has no upper end. -/
def roundBinary32 (value : Rat) : Rat := roundHalfEven (value / lastBit value) * lastBit value

theorem roundHalfEven_close (value : Rat) : |(roundHalfEven value : Rat) - value| ≤ 1 / 2 := by
  have below := value.floor_le
  have above := value.lt_floor_add_one
  push_cast at above
  unfold roundHalfEven
  dsimp only
  rw [abs_le]
  split
  · rename_i near
    rcases near with near | ⟨between, _⟩
    · constructor <;> linarith
    · constructor <;> linarith
  · rename_i far
    have half : 1 / 2 ≤ value - value.floor := not_lt.mp fun near => far (.inl near)
    push_cast
    constructor <;> linarith

theorem lastBit_pos (value : Rat) : 0 < lastBit value := Rat.zpow_pos (by decide)

theorem roundBinary32_close (value : Rat) : |roundBinary32 value - value| ≤ lastBit value / 2 := by
  have positive := lastBit_pos value
  have close := roundHalfEven_close (value / lastBit value)
  have factored : roundBinary32 value - value =
      ((roundHalfEven (value / lastBit value) : Rat) - value / lastBit value) * lastBit value := by
    rw [sub_mul, div_mul_cancel₀ _ positive.ne']
    rfl
  rw [factored, abs_mul, abs_of_pos positive]
  calc |(roundHalfEven (value / lastBit value) : Rat) - value / lastBit value| * lastBit value
      ≤ 1 / 2 * lastBit value := mul_le_mul_of_nonneg_right close positive.le
    _ = lastBit value / 2 := by ring

theorem abs_num_den (value : Rat) : |value| = (value.num.natAbs : Rat) / value.den := by
  have quotient := Rat.num_div_den value
  have top : ((value.num.natAbs : ℕ) : Rat) = |(value.num : Rat)| := by
    rw [Nat.cast_natAbs, Int.cast_abs]
  conv_lhs => rw [← quotient]
  rw [abs_div, Nat.abs_cast, top]

theorem binaryExponent_le {value : Rat} (filled : value ≠ 0) : (2 : Rat) ^ binaryExponent value ≤ |value| := by
  have top : value.num.natAbs ≠ 0 := Int.natAbs_ne_zero.mpr (Rat.num_ne_zero.mpr filled)
  have lower : (2 : Rat) ^ value.num.natAbs.log2 ≤ value.num.natAbs := by exact_mod_cast Nat.log2_self_le top
  have upper : (value.den : Rat) ≤ 2 ^ (value.den.log2 + 1) := by exact_mod_cast Nat.lt_log2_self.le
  have positive : (0 : Rat) < value.den := by exact_mod_cast value.den_pos
  unfold binaryExponent
  dsimp only
  split
  · rw [abs_num_den, le_div_iff₀ positive]
    calc (2 : Rat) ^ ((value.num.natAbs.log2 : Int) - value.den.log2 - 1) * value.den
        ≤ 2 ^ ((value.num.natAbs.log2 : Int) - value.den.log2 - 1) * 2 ^ (value.den.log2 + 1) :=
          mul_le_mul_of_nonneg_left upper (Rat.zpow_nonneg (by decide))
      _ = 2 ^ value.num.natAbs.log2 := by
          rw [← zpow_natCast, ← zpow_natCast, ← zpow_add₀ (by decide)]
          congr 1
          push_cast
          ring
      _ ≤ value.num.natAbs := lower
  · rename_i reached
    exact not_lt.mp reached

theorem roundBinary32_near {value : Rat} (normal : 2 ^ (-126 : Int) ≤ |value|) :
    |roundBinary32 value - value| ≤ |value| / 2 ^ 24 := by
  have filled : value ≠ 0 := by
    rintro rfl
    exact absurd (normal.trans_eq abs_zero) (not_le.mpr (Rat.zpow_pos (by decide)))
  have half (exponent : Int) : (2 : Rat) ^ (exponent - 23) / 2 = 2 ^ exponent / 2 ^ 24 := by
    rw [zpow_sub₀ (by decide), div_div]
    norm_num
  refine (roundBinary32_close value).trans ?_
  unfold lastBit
  rcases max_cases (binaryExponent value - 23) (-149) with ⟨chosen, _⟩ | ⟨chosen, _⟩
  · rw [chosen, half]
    exact div_le_div_of_nonneg_right (binaryExponent_le filled) (by decide)
  · rw [chosen, show (-149 : Int) = -126 - 23 from rfl, half]
    exact div_le_div_of_nonneg_right normal (by decide)

end SwaylockPlugin.Library
