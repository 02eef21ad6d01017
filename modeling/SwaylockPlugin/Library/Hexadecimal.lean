import Mathlib.Algebra.Group.Nat.Defs
import Mathlib.Data.Nat.Basic
import Mathlib.Data.List.Basic
import Mathlib.Data.List.TakeWhile
import Mathlib.Tactic.Ring

namespace SwaylockPlugin.Library

/-- A hexadecimal digit is a decimal digit or one of the letters from a to f in either case. -/
def isHexDigit (byte : UInt8) : Bool :=
  (48 ≤ byte && byte ≤ 57) || (65 ≤ byte && byte ≤ 70) || (97 ≤ byte && byte ≤ 102)

/-- The value of a hexadecimal digit. -/
def hexDigitValue (byte : UInt8) : ℕ :=
  if byte ≤ 57 then byte.toNat - 48 else if byte ≤ 70 then byte.toNat - 55 else byte.toNat - 87

/-- The value of hexadecimal digits, of which the first one is the highest. -/
def hexValue (digits : List UInt8) : ℕ := digits.foldl (fun value digit => value * 16 + hexDigitValue digit) 0

/-- A blank is a space or one of the control characters for white space. -/
def isBlank (byte : UInt8) : Bool := byte == 32 || (9 ≤ byte && byte ≤ 13)

/-- A sign is taken off a text, and a minus is noted. -/
def takeSign : List UInt8 → Bool × List UInt8
  | 45 :: rest => (true, rest)
  | 43 :: rest => (false, rest)
  | text => (false, text)

/-- The prefix `0x` in either case is taken off where a digit follows. -/
def dropHexPrefix : List UInt8 → List UInt8
  | 48 :: letter :: rest =>
      if (letter == 120 || letter == 88) && (rest.head?.any isHexDigit) then rest else 48 :: letter :: rest
  | text => text

/-- A numeral consists of blanks, of a sign, of a prefix and of digits, and what follows does not matter. -/
def hexNumeral (text : List UInt8) : Bool × List UInt8 :=
  let signed := takeSign (text.dropWhile isBlank)
  (signed.1, (dropHexPrefix signed.2).takeWhile isHexDigit)

/-- This is the `strtoul` function with base 16 for words of some bits. A value that is too large gives the largest one,
and a minus negates the value within the word. -/
def strtoul16 (bits : ℕ) (text : List UInt8) : ℕ :=
  let numeral := hexNumeral text
  if 2 ^ bits ≤ hexValue numeral.2 then 2 ^ bits - 1
  else if numeral.1 then (2 ^ bits - hexValue numeral.2) % 2 ^ bits
  else hexValue numeral.2

/-- A hexadecimal digit is less than sixteen, and only the digits zero and one have these values. -/
theorem hexDigitValue_spec {byte : UInt8} (digit : isHexDigit byte = true) :
    hexDigitValue byte < 16 ∧ (hexDigitValue byte = 0 ↔ byte = 48) ∧ (hexDigitValue byte = 1 ↔ byte = 49) := by
  simp only [isHexDigit, Bool.or_eq_true, Bool.and_eq_true, decide_eq_true_eq, UInt8.le_iff_toNat_le] at digit
  simp only [hexDigitValue, UInt8.le_iff_toNat_le, ← UInt8.toNat_inj]
  simp only [UInt8.reduceToNat] at *
  split
  · omega
  · split <;> omega

theorem foldl_hexValue (start : ℕ) (digits : List UInt8) :
    digits.foldl (fun value digit => value * 16 + hexDigitValue digit) start =
      start * 16 ^ digits.length + hexValue digits := by
  induction digits generalizing start with
  | nil => simp [hexValue]
  | cons digit digits ih =>
      have whole : hexValue (digit :: digits) = (0 * 16 + hexDigitValue digit) * 16 ^ digits.length + hexValue digits :=
        ih (0 * 16 + hexDigitValue digit)
      rw [List.foldl_cons, ih, whole, List.length_cons, Nat.pow_succ]
      ring

theorem hexValue_cons (digit : UInt8) (digits : List UInt8) :
    hexValue (digit :: digits) = hexDigitValue digit * 16 ^ digits.length + hexValue digits := by
  rw [hexValue, List.foldl_cons, foldl_hexValue, Nat.zero_mul, Nat.zero_add]

theorem hexValue_lt {digits : List UInt8} (hex : digits.all isHexDigit = true) :
    hexValue digits < 16 ^ digits.length := by
  induction digits with
  | nil => decide
  | cons digit digits ih =>
      rw [List.all_cons, Bool.and_eq_true] at hex
      have tail := ih hex.2
      have first := (hexDigitValue_spec hex.1).1
      have shifted : hexDigitValue digit * 16 ^ digits.length ≤ 15 * 16 ^ digits.length :=
        Nat.mul_le_mul_right _ (by omega)
      rw [hexValue_cons, List.length_cons, Nat.pow_succ]
      omega

theorem hexValue_eq_one {digits : List UInt8} (hex : digits.all isHexDigit = true) :
    hexValue digits = 1 ↔ digits.dropWhile (· == 48) = [49] := by
  induction digits with
  | nil => decide
  | cons digit digits ih =>
      rw [List.all_cons, Bool.and_eq_true] at hex
      obtain ⟨_, zero, one⟩ := hexDigitValue_spec hex.1
      rw [hexValue_cons]
      by_cases blank : digit = 48
      · subst blank
        rw [zero.mpr rfl, Nat.zero_mul, Nat.zero_add, List.dropWhile_cons_of_pos rfl]
        exact ih hex.2
      · rw [List.dropWhile_cons_of_neg (by simpa using blank), List.cons.injEq, ← one]
        have positive : 0 < hexDigitValue digit := Nat.pos_of_ne_zero fun none => blank (zero.mp none)
        cases digits with
        | nil => simp [hexValue]
        | cons second digits =>
            have many : 16 ≤ 16 ^ (second :: digits).length := by
              rw [List.length_cons, Nat.pow_succ]
              have one := Nat.one_le_two_pow (n := digits.length)
              have pow : 0 < 16 ^ digits.length := Nat.pow_pos (by decide)
              omega
            have large : 16 ≤ hexDigitValue digit * 16 ^ (second :: digits).length :=
              Nat.le_trans many (Nat.le_mul_of_pos_left _ positive)
            constructor
            · omega
            · rintro ⟨_, ⟨⟩⟩

/-- A text begins with zeros, of which there may be none, and with a one behind which no digit follows. -/
def beginsWithOne : List UInt8 → Bool
  | [] => false
  | byte :: rest => if byte == 48 then beginsWithOne rest else byte == 49 && !rest.head?.any isHexDigit

/-- A text is a minus one when blanks, a minus, a prefix that may be missing and a one are at its begin. -/
def isMinusOne (text : List UInt8) : Bool :=
  let signed := takeSign (text.dropWhile isBlank)
  signed.1 && beginsWithOne (dropHexPrefix signed.2)

/-- The digits at the begin of a text have the value one when the text begins with a one. -/
theorem beginsWithOne_iff (text : List UInt8) :
    beginsWithOne text = true ↔ hexValue (text.takeWhile isHexDigit) = 1 := by
  rw [hexValue_eq_one List.all_takeWhile]
  induction text with
  | nil => decide
  | cons byte rest ih =>
      unfold beginsWithOne
      by_cases zero : byte = 48
      · subst zero
        rw [if_pos (beq_self_eq_true _), ih, List.takeWhile_cons_of_pos rfl, List.dropWhile_cons_of_pos rfl]
      · rw [if_neg (by simpa using zero)]
        by_cases digit : isHexDigit byte = true
        · rw [List.takeWhile_cons_of_pos digit, List.dropWhile_cons_of_neg (by simpa using zero), List.cons.injEq,
            Bool.and_eq_true, beq_iff_eq]
          apply and_congr_right
          intro _
          cases rest with
          | nil => simp
          | cons next rest => cases digit : isHexDigit next <;> simp [digit]
        · have other : byte ≠ 49 := by
            rintro rfl
            exact digit rfl
          rw [List.takeWhile_cons_of_neg digit]
          simp [other]

theorem isMinusOne_iff (text : List UInt8) :
    isMinusOne text = true ↔ (hexNumeral text).1 = true ∧ hexValue (hexNumeral text).2 = 1 := by
  unfold isMinusOne hexNumeral
  dsimp only
  rw [Bool.and_eq_true, beginsWithOne_iff]

theorem hexNumeral_hex (text : List UInt8) : (hexNumeral text).2.all isHexDigit = true := List.all_takeWhile

theorem takeSign_suffix (text : List UInt8) : (takeSign text).2 <:+ text := by
  unfold takeSign
  split
  · exact List.suffix_cons _ _
  · exact List.suffix_cons _ _
  · exact List.suffix_rfl

theorem dropHexPrefix_suffix (text : List UInt8) : dropHexPrefix text <:+ text := by
  unfold dropHexPrefix
  split
  · split
    · exact (List.suffix_cons _ _).trans (List.suffix_cons _ _)
    · exact List.suffix_rfl
  · exact List.suffix_rfl

theorem hexNumeral_short {text : List UInt8} (mixed : text.all isHexDigit ≠ true) :
    (hexNumeral text).2.length < text.length := by
  have tail : dropHexPrefix (takeSign (text.dropWhile isBlank)).2 <:+ text :=
    (dropHexPrefix_suffix _).trans ((takeSign_suffix _).trans (List.dropWhile_suffix _))
  have front : (hexNumeral text).2 <+: dropHexPrefix (takeSign (text.dropWhile isBlank)).2 := List.takeWhile_prefix _
  have bound := front.length_le
  have room := tail.length_le
  rcases Nat.lt_or_ge (hexNumeral text).2.length text.length with shorter | longer
  · exact shorter
  · have whole := tail.eq_of_length (by omega)
    have same := front.eq_of_length (by omega)
    rw [whole] at same
    have hex := hexNumeral_hex text
    rw [same] at hex
    exact absurd hex mixed

theorem digit_plain {byte : UInt8} (digit : isHexDigit byte = true) :
    isBlank byte = false ∧ byte ≠ 45 ∧ byte ≠ 43 ∧ byte ≠ 120 ∧ byte ≠ 88 := by
  simp only [isHexDigit, Bool.or_eq_true, Bool.and_eq_true, decide_eq_true_eq, UInt8.le_iff_toNat_le] at digit
  simp only [isBlank, Bool.or_eq_false_iff, Bool.and_eq_false_iff, decide_eq_false_iff_not, beq_eq_false_iff_ne, ne_eq,
    UInt8.le_iff_toNat_le, ← UInt8.toNat_inj]
  simp only [UInt8.reduceToNat] at *
  omega

theorem takeSign_digits {text : List UInt8} (hex : text.all isHexDigit = true) : takeSign text = (false, text) := by
  unfold takeSign
  split
  · exact absurd rfl (digit_plain (List.all_eq_true.mp hex _ List.mem_cons_self)).2.1
  · exact absurd rfl (digit_plain (List.all_eq_true.mp hex _ List.mem_cons_self)).2.2.1
  · rfl

theorem dropHexPrefix_digits {text : List UInt8} (hex : text.all isHexDigit = true) : dropHexPrefix text = text := by
  unfold dropHexPrefix
  split
  · rename_i letter rest
    obtain ⟨_, _, _, lower, upper⟩ :=
      digit_plain (List.all_eq_true.mp hex letter (List.mem_cons_of_mem _ List.mem_cons_self))
    rw [beq_false_of_ne lower, beq_false_of_ne upper]
    rfl
  · rfl

theorem hexNumeral_digits {text : List UInt8} (hex : text.all isHexDigit = true) : hexNumeral text = (false, text) := by
  have solid : text.dropWhile isBlank = text := by
    cases text with
    | nil => rfl
    | cons byte rest =>
        have plain := (digit_plain (List.all_eq_true.mp hex byte List.mem_cons_self)).1
        exact List.dropWhile_cons_of_neg (by simp [plain])
  have whole : text.takeWhile isHexDigit = text := List.takeWhile_eq_self_iff.mpr (List.all_eq_true.mp hex)
  unfold hexNumeral
  rw [solid, takeSign_digits hex]
  dsimp only
  rw [dropHexPrefix_digits hex, whole]

theorem strtoul16_digits {bits : ℕ} {text : List UInt8} (hex : text.all isHexDigit = true)
    (fits : hexValue text < 2 ^ bits) : strtoul16 bits text = hexValue text := by
  unfold strtoul16
  rw [hexNumeral_digits hex]
  dsimp only
  rw [if_neg (by omega), if_neg Bool.false_ne_true]

end SwaylockPlugin.Library
