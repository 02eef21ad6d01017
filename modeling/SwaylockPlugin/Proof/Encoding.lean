import Mathlib.Algebra.Group.Nat.Defs
import SwaylockPlugin.Construction.Password
import Mathlib.Data.List.TakeWhile

namespace SwaylockPlugin

section Bytes

/-- A continuation byte is told from the first byte of a character by its two highest bits. -/
theorem continuationByte_continues (ch shift : UInt32) : continuationByte ch shift &&& 0xc0 = 0x80 := by
  unfold continuationByte
  rw [UInt32.toUInt8_or, UInt32.toUInt8_and]
  apply UInt8.toBitVec_inj.mp
  have every : ∀ bits : BitVec 8, ((bits &&& 0x3f#8) ||| 0x80#8) &&& 0xc0#8 = 0x80#8 := by decide
  exact every (ch >>> shift).toUInt8.toBitVec

theorem firstByte_starts (byte mark : UInt8) (marks : mark = 0xc0 ∨ mark = 0xe0 ∨ mark = 0xf0) :
    (byte ||| mark) &&& 0xc0 ≠ 0x80 ∧ byte ||| mark ≠ 0 := by
  have bits : ((byte ||| mark) &&& 0xc0).toBitVec ≠ 0x80#8 ∧ (byte ||| mark).toBitVec ≠ 0#8 := by
    rcases marks with rfl | rfl | rfl
    · exact (by decide : ∀ bits : BitVec 8,
        (bits ||| 0xc0#8) &&& 0xc0#8 ≠ 0x80#8 ∧ bits ||| 0xc0#8 ≠ 0#8) byte.toBitVec
    · exact (by decide : ∀ bits : BitVec 8,
        (bits ||| 0xe0#8) &&& 0xc0#8 ≠ 0x80#8 ∧ bits ||| 0xe0#8 ≠ 0#8) byte.toBitVec
    · exact (by decide : ∀ bits : BitVec 8,
        (bits ||| 0xf0#8) &&& 0xc0#8 ≠ 0x80#8 ∧ bits ||| 0xf0#8 ≠ 0#8) byte.toBitVec
  exact ⟨fun same => bits.1 (congrArg UInt8.toBitVec same), fun zero => bits.2 (congrArg UInt8.toBitVec zero)⟩

theorem toUInt8_toNat {ch : UInt32} (small : ch < 0x80) : ch.toUInt8.toNat = ch.toNat := by
  have below : ch.toNat < 128 := UInt32.lt_iff_toNat_lt.mp small
  rw [UInt32.toNat_toUInt8]
  omega

theorem singleByte_starts {ch : UInt32} (small : ch < 0x80) :
    ch.toUInt8 &&& 0xc0 ≠ 0x80 ∧ (ch ≠ 0 → ch.toUInt8 ≠ 0) := by
  have same := toUInt8_toNat small
  have below : ch.toNat < 128 := UInt32.lt_iff_toNat_lt.mp small
  constructor
  · intro continues
    have bounded : ch.toUInt8 &&& 0xc0 ≤ ch.toUInt8 := UInt8.and_le_left
    rw [continues, UInt8.le_iff_toNat_le, same] at bounded
    have large : (0x80 : UInt8).toNat = 128 := rfl
    omega
  · intro other zero
    apply other
    apply UInt32.toNat_inj.mp
    rw [← same, zero]
    rfl

theorem utf8Encode_split (ch : UInt32) : ∃ first rest, utf8Encode ch = first :: rest ∧
    first &&& 0xc0 ≠ 0x80 ∧ (∀ byte ∈ rest, byte &&& 0xc0 = 0x80) ∧ rest.length + 1 = utf8Chsize ch ∧
    (ch ≠ 0 → first ≠ 0) := by
  have all (shifts : List UInt32) : ∀ byte ∈ shifts.map (continuationByte ch), byte &&& 0xc0 = 0x80 := by
    intro byte member
    obtain ⟨shift, _, rfl⟩ := List.mem_map.mp member
    exact continuationByte_continues ch shift
  unfold utf8Encode utf8Chsize
  by_cases one : ch < 0x80
  · rw [if_pos one, if_pos one]
    obtain ⟨starts, nonzero⟩ := singleByte_starts one
    exact ⟨_, _, rfl, starts, all [], rfl, nonzero⟩
  · rw [if_neg one, if_neg one]
    by_cases two : ch < 0x800
    · rw [if_pos two, if_pos two, UInt32.toUInt8_or]
      obtain ⟨starts, nonzero⟩ := firstByte_starts (ch >>> 6).toUInt8 0xc0 (.inl rfl)
      exact ⟨_, _, rfl, starts, all [0], rfl, fun _ => nonzero⟩
    · rw [if_neg two, if_neg two]
      by_cases three : ch < 0x10000
      · rw [if_pos three, if_pos three, UInt32.toUInt8_or]
        obtain ⟨starts, nonzero⟩ := firstByte_starts (ch >>> 12).toUInt8 0xe0 (.inr (.inl rfl))
        exact ⟨_, _, rfl, starts, all [6, 0], rfl, fun _ => nonzero⟩
      · rw [if_neg three, if_neg three, UInt32.toUInt8_or]
        obtain ⟨starts, nonzero⟩ := firstByte_starts (ch >>> 18).toUInt8 0xf0 (.inr (.inr rfl))
        exact ⟨_, _, rfl, starts, all [12, 6, 0], rfl, fun _ => nonzero⟩

theorem utf8Encode_length (ch : UInt32) : (utf8Encode ch).length = utf8Chsize ch := by
  obtain ⟨first, rest, encoded, _, _, size, _⟩ := utf8Encode_split ch
  rw [encoded, List.length_cons, size]

theorem utf8Encode_nonzero {ch : UInt32} (other : ch ≠ 0) : ∀ byte ∈ utf8Encode ch, byte ≠ 0 := by
  obtain ⟨first, rest, encoded, _, continues, _, nonzero⟩ := utf8Encode_split ch
  intro byte member
  rw [encoded] at member
  rcases List.mem_cons.mp member with rfl | inner
  · exact nonzero other
  · rintro rfl
    exact absurd (continues 0 inner) (by decide)

theorem lastSizeFrom_continues {first : UInt8} (starts : first &&& 0xc0 ≠ 0x80) (before rest : List UInt8)
    (continues : ∀ byte ∈ rest, byte &&& 0xc0 = 0x80) (size : Nat) :
    lastSizeFrom (rest ++ first :: before) size = size + rest.length + 1 := by
  induction rest generalizing size with
  | nil => simp [lastSizeFrom, starts]
  | cons byte rest ih =>
      have inner := ih (fun other member => continues other (List.mem_cons_of_mem _ member)) (size + 1)
      simp only [List.cons_append, lastSizeFrom, continues byte List.mem_cons_self, inner, List.length_cons]
      simp
      omega

end Bytes

/-- The text of some characters is their encodings in a row. -/
def encodeText (text : List UInt32) : List UInt8 := text.flatMap utf8Encode

theorem encodeText_snoc (text : List UInt32) (ch : UInt32) :
    encodeText (text ++ [ch]) = encodeText text ++ utf8Encode ch := by
  simp [encodeText]

/-- The password holds a text when its memory starts with it and a zero byte and has room for more. -/
structure SwaylockPassword.Spells (password : SwaylockPassword) (text : List UInt32) : Prop where
  memory : ∃ rest, password.buffer = encodeText text ++ 0 :: rest
  len : password.len = (encodeText text).length
  nonzero : ∀ ch ∈ text, ch ≠ 0
  room : password.len + 1 < password.bufferLen

namespace SwaylockPassword.Spells

variable {password : SwaylockPassword} {text : List UInt32}

theorem bytes (spells : password.Spells text) : ∀ byte ∈ encodeText text, byte ≠ 0 := by
  intro byte member
  obtain ⟨ch, inside, encoded⟩ := List.mem_flatMap.mp member
  exact utf8Encode_nonzero (spells.nonzero ch inside) byte encoded

theorem textIn (spells : password.Spells text) : textIn password.buffer = encodeText text := by
  obtain ⟨rest, memory⟩ := spells.memory
  unfold SwaylockPlugin.textIn
  rw [memory, List.takeWhile_append_of_pos]
  · simp
  · intro byte member
    simpa using spells.bytes byte member

theorem terminated (spells : password.Spells text) : password.buffer[password.len]? = some 0 := by
  obtain ⟨rest, memory⟩ := spells.memory
  rw [memory, spells.len]
  simp

theorem handed (spells : password.Spells text) :
    password.buffer.take (password.len + 1) = encodeText text ++ [0] := by
  obtain ⟨rest, memory⟩ := spells.memory
  rw [memory, spells.len, List.take_length_add_append]
  rfl

theorem clear (spells : password.Spells text) : password.clear.Spells [] where
  memory := by
    obtain ⟨size, enough⟩ := Nat.exists_eq_add_of_lt spells.room
    refine ⟨List.replicate (password.len + size + 1) 0, ?_⟩
    change List.replicate password.bufferLen 0 = _
    rw [enough, show password.len + 1 + size + 1 = (password.len + size + 1) + 1 by omega, List.replicate_succ]
    rfl
  len := rfl
  nonzero _ member := nomatch member
  room := by
    have room := spells.room
    change 0 + 1 < (List.replicate password.bufferLen 0).length
    rw [List.length_replicate]
    omega

theorem lastSize {ch : UInt32} (spells : password.Spells (text ++ [ch])) :
    utf8LastSize password.buffer = utf8Chsize ch := by
  obtain ⟨first, rest, encoded, starts, continues, size, _⟩ := utf8Encode_split ch
  unfold utf8LastSize
  rw [spells.textIn, encodeText_snoc, encoded, List.reverse_append, List.reverse_cons, List.append_assoc,
    List.singleton_append, lastSizeFrom_continues starts]
  · rw [List.length_reverse]
    omega
  · intro byte member
    exact continues byte (List.mem_reverse.mp member)

theorem empty_iff (spells : password.Spells text) : password.len = 0 ↔ text = [] := by
  rw [spells.len, List.length_eq_zero_iff]
  constructor
  · intro none_
    cases text with
    | nil => rfl
    | cons ch text =>
        obtain ⟨first, rest, encoded, _⟩ := utf8Encode_split ch
        simp [encodeText, encoded] at none_
  · rintro rfl
    rfl

theorem backspace (spells : password.Spells text) :
    password.backspace.Spells text.dropLast ∧ password.backspace.bufferLen = password.bufferLen := by
  unfold SwaylockPassword.backspace
  rcases List.eq_nil_or_concat text with rfl | ⟨before, ch, rfl⟩
  · rw [if_pos (spells.empty_iff.mpr rfl)]
    exact ⟨spells, rfl⟩
  · rw [List.concat_eq_append] at spells ⊢
    have some_ : password.len ≠ 0 := fun none_ => by simpa using spells.empty_iff.mp none_
    obtain ⟨rest, memory⟩ := spells.memory
    have size := spells.lastSize
    have width := utf8Encode_length ch
    have len : password.len - utf8LastSize password.buffer = (encodeText before).length := by
      rw [size, spells.len, encodeText_snoc, List.length_append, width]
      omega
    rw [if_neg some_, List.dropLast_concat]
    dsimp only
    rw [len]
    obtain ⟨first, inner, encoded, _⟩ := utf8Encode_split ch
    have cut : password.buffer.set (encodeText before).length 0 =
        encodeText before ++ 0 :: (inner ++ 0 :: rest) := by
      rw [memory, encodeText_snoc, encoded]
      simp
    refine ⟨⟨⟨_, cut⟩, rfl, fun other member => ?_, ?_⟩, List.length_set⟩
    · exact spells.nonzero other (List.mem_append_left _ member)
    · have room := spells.room
      have whole := spells.len
      rw [encodeText_snoc, List.length_append] at whole
      simp only [SwaylockPassword.bufferLen, List.length_set] at room ⊢
      omega

theorem appendCh (spells : password.Spells text) {ch : UInt32} (other : ch ≠ 0) :
    (password.appendCh ch).Spells (if password.len + utf8Chsize ch + 1 < password.bufferLen then text ++ [ch]
      else text) ∧ (password.appendCh ch).bufferLen = password.bufferLen := by
  unfold SwaylockPassword.appendCh
  by_cases fits : password.len + utf8Chsize ch + 1 < password.bufferLen
  · rw [if_neg (Nat.not_le.mpr fits), if_pos fits]
    dsimp only
    obtain ⟨rest, memory⟩ := spells.memory
    have width := utf8Encode_length ch
    have start : password.buffer.take password.len = encodeText text := by
      rw [memory, spells.len, List.take_left]
    obtain ⟨byte, after, behind⟩ : ∃ byte after,
        password.buffer.drop (password.len + (utf8Encode ch).length) = byte :: after := by
      apply List.exists_cons_of_length_pos
      rw [List.length_drop, width]
      exact Nat.sub_pos_of_lt (Nat.lt_of_succ_lt fits)
    have len : password.len + utf8Chsize ch = (encodeText (text ++ [ch])).length := by
      rw [encodeText_snoc, List.length_append, width, spells.len]
    have written : (writeBytes password.buffer password.len (utf8Encode ch)).set (password.len + utf8Chsize ch) 0 =
        encodeText (text ++ [ch]) ++ 0 :: after := by
      rw [len, writeBytes, start, behind, ← encodeText_snoc]
      simp
    have kept : ((writeBytes password.buffer password.len (utf8Encode ch)).set
        (password.len + utf8Chsize ch) 0).length = password.bufferLen := by
      have cut := congrArg List.length behind
      rw [List.length_drop] at cut
      rw [written, List.length_append, List.length_cons, ← len, ← width]
      rw [List.length_cons] at cut
      have room : password.len + (utf8Encode ch).length + 1 < password.buffer.length := by
        rw [width]
        exact fits
      change _ = password.buffer.length
      omega
    refine ⟨⟨⟨_, written⟩, len, fun some_ member => ?_, ?_⟩, kept⟩
    · rcases List.mem_append.mp member with old | new
      · exact spells.nonzero some_ old
      · rw [List.mem_singleton.mp new]
        exact other
    · change _ < List.length _
      rw [kept]
      exact fits
  · rw [if_pos (Nat.not_lt.mp fits), if_neg fits]
    exact ⟨spells, rfl⟩

/-- A character is refused exactly when it does not fit together with two more bytes. -/
theorem refused_iff (spells : password.Spells text) {ch : UInt32} (other : ch ≠ 0) :
    password.appendCh ch = password ↔ password.bufferLen ≤ password.len + utf8Chsize ch + 1 := by
  have appended := (spells.appendCh other).1
  constructor
  · intro same
    by_contra fits
    rw [Nat.not_le] at fits
    rw [if_pos fits, same] at appended
    have longer := appended.len
    have positive := utf8Encode_length ch
    obtain ⟨first, rest, encoded, _⟩ := utf8Encode_split ch
    rw [spells.len, encodeText_snoc, List.length_append, encoded, List.length_cons] at longer
    omega
  · intro full
    unfold SwaylockPassword.appendCh
    rw [if_pos full]

end SwaylockPassword.Spells

section Unicode

theorem mask_shifted (value : UInt32) (shift bits : Nat) (mask : UInt8) (narrow : shift < 32)
    (masks : mask.toNat = 2 ^ bits - 1) (small : value.toNat < 2 ^ (shift + bits)) :
    (value >>> UInt32.ofNat shift).toUInt8 &&& mask = (value >>> UInt32.ofNat shift).toUInt8 := by
  have byte : (value >>> UInt32.ofNat shift).toUInt8.toNat = value.toNat / 2 ^ shift % 256 := by
    rw [UInt32.toNat_toUInt8, UInt32.toNat_shiftRight, UInt32.toNat_ofNat',
      Nat.mod_eq_of_lt (by omega : shift < 2 ^ 32), Nat.mod_eq_of_lt narrow, Nat.shiftRight_eq_div_pow]
  have below : value.toNat / 2 ^ shift < 2 ^ bits := by
    apply Nat.div_lt_of_lt_mul
    rw [← Nat.pow_add]
    exact small
  apply UInt8.toNat_inj.mp
  rw [UInt8.toNat_and, masks, Nat.and_two_pow_sub_one_eq_mod, byte]
  exact Nat.mod_eq_of_lt (Nat.lt_of_le_of_lt (Nat.mod_le _ _) below)

theorem utf8Encode_char (ch : Char) : utf8Encode ch.val = String.utf8EncodeChar ch := by
  have bounded : ch.val.toNat < 2 ^ (18 + 3) := by
    rcases ch.valid with low | ⟨_, high⟩
    · exact Nat.lt_of_lt_of_le low (by decide)
    · exact Nat.lt_of_lt_of_le high (by decide)
  rw [String.utf8EncodeChar_eq_utf8EncodeCharFast]
  unfold utf8Encode String.utf8EncodeCharFast continuationByte
  dsimp only
  generalize ch.val = value at bounded
  have step (limit most : UInt32) (next : limit.toNat = most.toNat + 1) : value < limit ↔ value ≤ most := by
    rw [UInt32.lt_iff_toNat_lt, UInt32.le_iff_toNat_le, next, Nat.lt_succ_iff]
  have below (most : UInt32) (bits : Nat) (next : most.toNat + 1 = 2 ^ bits) (small : value ≤ most) :
      value.toNat < 2 ^ bits := by
    rw [← next]
    exact Nat.lt_succ_of_le (UInt32.le_iff_toNat_le.mp small)
  simp only [step 0x80 0x7f rfl, step 0x800 0x7ff rfl, step 0x10000 0xffff rfl, UInt32.toUInt8_or,
    UInt32.toUInt8_and]
  split
  · rfl
  · split
    · rename_i small
      have masked := mask_shifted value 6 5 0x1f (by decide) rfl (below 0x7ff 11 rfl small)
      rw [show UInt32.ofNat 6 = 6 from rfl] at masked
      rw [masked]
      simp
    · split
      · rename_i small
        have masked := mask_shifted value 12 4 0x0f (by decide) rfl (below 0xffff 16 rfl small)
        rw [show UInt32.ofNat 12 = 12 from rfl] at masked
        rw [masked]
        simp
      · have masked := mask_shifted value 18 3 0x07 (by decide) rfl bounded
        rw [show UInt32.ofNat 18 = 18 from rfl] at masked
        rw [masked]
        simp

end Unicode

end SwaylockPlugin
