import SwaylockPlugin.Construction.Options

namespace SwaylockPlugin.ParseColor

open Library Listener

/-- The documented color has six or eight digits, of which the last two of eight are the opacity, and every other string
stands for opaque white. -/
def documentedColor (color : List UInt8) : ℕ :=
  let digits := dropHash color
  if digits.all isHexDigit then
    if digits.length = 6 then hexValue digits * 256 + 255
    else if digits.length = 8 then hexValue digits
    else 0xFFFFFFFF
  else 0xFFFFFFFF

/-- The number in a text leaves only ones in the low 32 bits, because it is too large for the word or because of what
its digits say. -/
def ReadsOnes (model : DataModel) (text : List UInt8) : Prop :=
  2 ^ longBits model ≤ hexValue (hexNumeral text).2 ∨
    hexValue (hexNumeral text).2 % 2 ^ 32 = if (hexNumeral text).1 then 1 else 2 ^ 32 - 1

/-- A text is treated as documented when its length is no length of a color, when it has only digits or is a minus one,
or, where its length only wraps around to the length of a color, when its number leaves only ones. -/
def Treated (model : DataModel) (text : List UInt8) : Prop :=
  if text.length = 6 ∨ text.length = 8 then text.all isHexDigit = true ∨ isMinusOne text = true
  else wrap32 text.length ≠ 6 ∧ wrap32 text.length ≠ 8 ∨ ReadsOnes model text

variable {model : DataModel} {text : List UInt8}

theorem longBits_cases (model : DataModel) : longBits model = 32 ∨ longBits model = 64 := by
  cases model
  · exact .inl rfl
  · exact .inr rfl

theorem strtoul16_ones : strtoul16 (longBits model) text % 2 ^ 32 = 0xFFFFFFFF ↔ ReadsOnes model text := by
  unfold strtoul16 ReadsOnes
  dsimp only
  rcases longBits_cases model with bits | bits
  · rw [bits]
    split
    · omega
    · split <;> omega
  · rw [bits]
    split
    · omega
    · split <;> omega

theorem shiftLeft_or_ones (res : ℕ) : res <<< 8 % 2 ^ 32 ||| 0xFF = res % 2 ^ 24 * 256 + 255 := by
  have high : res <<< 8 % 2 ^ 32 = (res % 2 ^ 24) <<< 8 := by
    rw [Nat.shiftLeft_eq, Nat.shiftLeft_eq]
    omega
  rw [high, ← Nat.shiftLeft_add_eq_or_of_lt (by decide), Nat.shiftLeft_eq]

theorem hexNumeral_lt (mixed : text.all isHexDigit ≠ true) {bound : ℕ} (short : text.length ≤ bound + 1) :
    hexValue (hexNumeral text).2 < 16 ^ bound := by
  have fewer := hexNumeral_short mixed
  exact Nat.lt_of_lt_of_le (hexValue_lt (hexNumeral_hex text)) (Nat.pow_le_pow_right (by decide) (by omega))

theorem strtoul16_color (hex : text.all isHexDigit = true) (short : text.length ≤ 8) :
    strtoul16 (longBits model) text = hexValue text := by
  apply strtoul16_digits hex
  have bound := hexValue_lt hex
  have largest : 16 ^ text.length ≤ 2 ^ 32 := Nat.pow_le_pow_right (by decide) short
  rcases longBits_cases model with bits | bits
  · rw [bits]
    omega
  · rw [bits]
    omega

/-- Six bytes that are not all digits become opaque white when they are a minus one. -/
theorem six_mixed (mixed : text.all isHexDigit ≠ true) (six : text.length = 6) :
    strtoul16 (longBits model) text % 2 ^ 32 % 2 ^ 24 * 256 + 255 = 0xFFFFFFFF ↔ isMinusOne text = true := by
  have small : hexValue (hexNumeral text).2 < 16 ^ 5 := hexNumeral_lt mixed (by omega)
  rw [isMinusOne_iff]
  unfold strtoul16
  dsimp only
  rcases longBits_cases model with bits | bits
  · rw [bits, if_neg (by omega)]
    cases (hexNumeral text).1 <;> simp <;> omega
  · rw [bits, if_neg (by omega)]
    cases (hexNumeral text).1 <;> simp <;> omega

theorem eight_mixed (mixed : text.all isHexDigit ≠ true) (eight : text.length = 8) :
    strtoul16 (longBits model) text % 2 ^ 32 = 0xFFFFFFFF ↔ isMinusOne text = true := by
  have small : hexValue (hexNumeral text).2 < 16 ^ 7 := hexNumeral_lt mixed (by omega)
  rw [strtoul16_ones, isMinusOne_iff]
  unfold ReadsOnes
  rcases longBits_cases model with bits | bits
  · rw [bits]
    cases (hexNumeral text).1 <;> simp <;> omega
  · rw [bits]
    cases (hexNumeral text).1 <;> simp <;> omega

/-- A color is parsed as documented exactly when it is treated so. -/
theorem parseColor_documented (model : DataModel) (color : List UInt8) :
    parseColor model color = documentedColor color ↔ Treated model (dropHash color) := by
  unfold parseColor documentedColor Treated
  dsimp only
  by_cases six : (dropHash color).length = 6
  · have length : wrap32 (dropHash color).length = 6 := by rw [six]; rfl
    have known : (dropHash color).length = 6 ∨ (dropHash color).length = 8 := .inl six
    rw [length, if_neg (by decide), if_pos six, if_pos known, shiftLeft_or_ones]
    by_cases hex : (dropHash color).all isHexDigit = true
    · have bound := hexValue_lt hex
      rw [six] at bound
      rw [if_pos hex, if_pos six, strtoul16_color hex (by omega)]
      refine iff_of_true ?_ (.inl hex)
      omega
    · rw [if_neg hex, six_mixed hex six, or_iff_right hex]
  · rw [if_neg six]
    by_cases eight : (dropHash color).length = 8
    · have length : wrap32 (dropHash color).length = 8 := by rw [eight]; rfl
      have known : (dropHash color).length = 6 ∨ (dropHash color).length = 8 := .inr eight
      rw [length, if_neg (by decide), if_pos known]
      by_cases hex : (dropHash color).all isHexDigit = true
      · have bound := hexValue_lt hex
        rw [eight] at bound
        rw [if_pos hex, if_neg six, if_pos eight, strtoul16_color hex (by omega)]
        refine iff_of_true ?_ (.inl hex)
        omega
      · rw [if_neg hex, eight_mixed hex eight, or_iff_right hex]
    · have default : (if (dropHash color).all isHexDigit = true then
          if (dropHash color).length = 6 then hexValue (dropHash color) * 256 + 255
          else if (dropHash color).length = 8 then hexValue (dropHash color) else 0xFFFFFFFF
        else 0xFFFFFFFF) = 0xFFFFFFFF := by
        rw [if_neg six, if_neg eight, ite_self]
      have unknown : ¬((dropHash color).length = 6 ∨ (dropHash color).length = 8) := by omega
      rw [default, if_neg unknown]
      by_cases other : wrap32 (dropHash color).length ≠ 6 ∧ wrap32 (dropHash color).length ≠ 8
      · rw [if_pos other]
        exact iff_of_true rfl (.inl other)
      · rw [if_neg other, strtoul16_ones, or_iff_right other]

/-- The color `+12345` has a sign instead of a digit and is not opaque white. -/
theorem signed_color_misread :
    ¬ ∀ (model : DataModel) (color : List UInt8), parseColor model color = documentedColor color := by
  intro documented
  have same := documented .lp64 [43, 49, 50, 51, 52, 53]
  exact absurd same (by decide +kernel)

end SwaylockPlugin.ParseColor
