import SwaylockPlugin.Construction.Render

namespace SwaylockPlugin.Render

open Library

/-- A buffer is backed when all of its bytes are mapped and shared, and when cairo draws inside of them. -/
structure Backed (buf created : PoolBuffer) (width height : ℕ) : Prop where
  mapped : created.data.bytes = some ((4 * width * height : ℕ) : Int)
  shared : if 4 * width * height = 0 then created.buffer = buf.buffer
    else created.buffer = some ⟨(4 * width * height : ℕ), width, height, (4 * width : ℕ)⟩
  drawn : ∃ surface, created.surface = some surface ∧ surface.data = created.data ∧ surface.stride = (4 * width : ℕ) ∧
    surface.stride * surface.height ≤ (4 * width * height : ℕ)

/-- A buffer is refused, or its size fits into an `int`, and a buffer that is not empty is mapped. -/
def Sized (memory : Memory) (width height : ℕ) : Prop :=
  4 * width * height % 2 ^ 32 ≠ 0 ∧ (memory.opened && memory.truncated) = false ∨
    4 * width < 2 ^ 31 ∧ 4 * width * height < 2 ^ 31 ∧ (memory.mapped = true ∨ width * height = 0)

theorem stride_wrapped (width : ℕ) : wrap32 width * 4 % 2 ^ 32 = 4 * (width : Int) % 2 ^ 32 := by
  have same := wrap32_emod width
  generalize wrap32 width = kept at same
  omega

theorem size_wrapped (width height : ℕ) :
    (wrap32 width * 4 % 2 ^ 32) * wrap32 height % 2 ^ 32 = 4 * (width : Int) * height % 2 ^ 32 := by
  rw [stride_wrapped, Int.mul_emod, wrap32_emod, Int.emod_emod, ← Int.mul_emod]

/-- The size in 32 bits of four bytes for each pixel. -/
def wrappedSize (width height : ℕ) : Int := 4 * (width : Int) * height % 2 ^ 32

section

variable {memory : Memory} {buf : PoolBuffer} {width height : ℕ}

theorem createBuffer_empty (empty : wrappedSize width height = 0) :
    createBuffer memory buf (wrap32 width) (wrap32 height) =
      some (buf.dress (wrap32 width) (wrap32 height) (4 * width % 2 ^ 32) 0 .null) := by
  unfold createBuffer
  dsimp only
  rw [size_wrapped, stride_wrapped]
  change (if 0 < wrappedSize width height then _ else some (buf.dress _ _ _ (wrappedSize width height) .null)) = _
  rw [empty, if_neg (Int.lt_irrefl 0)]

theorem createBuffer_refused (filled : wrappedSize width height ≠ 0)
    (refused : (memory.opened && memory.truncated) = false) :
    createBuffer memory buf (wrap32 width) (wrap32 height) = none := by
  have positive : 0 ≤ wrappedSize width height := Int.emod_nonneg _ (by decide)
  unfold createBuffer
  dsimp only
  rw [size_wrapped]
  change (if 0 < wrappedSize width height then _ else _) = _
  rw [if_pos (by omega)]
  cases opened : memory.opened with
  | false => rfl
  | true =>
      rw [opened, Bool.true_and] at refused
      rw [refused]
      rfl

theorem createBuffer_filled (filled : wrappedSize width height ≠ 0)
    (made : (memory.opened && memory.truncated) = true) :
    createBuffer memory buf (wrap32 width) (wrap32 height) =
      some (({ buf with
        buffer := some ⟨wrap32 (wrappedSize width height), wrap32 width, wrap32 height, wrap32 (4 * width % 2 ^ 32)⟩
        }).dress (wrap32 width) (wrap32 height) (4 * width % 2 ^ 32) (wrappedSize width height)
          (if memory.mapped then .mapping (wrappedSize width height) else .failed)) := by
  have positive : 0 ≤ wrappedSize width height := Int.emod_nonneg _ (by decide)
  obtain ⟨opened, truncated⟩ := Bool.and_eq_true_iff.mp made
  unfold createBuffer
  dsimp only
  rw [size_wrapped, stride_wrapped]
  change (if 0 < wrappedSize width height then _ else _) = _
  rw [if_pos (by omega), opened, truncated]
  rfl

end

theorem wrappedSize_eq (width height : ℕ) : wrappedSize width height = ((4 * width * height : ℕ) : Int) % 2 ^ 32 := by
  rw [wrappedSize]
  push_cast
  rfl

theorem lengths_fit {width height : ℕ} (filled : width * height ≠ 0) (size : 4 * width * height < 2 ^ 31) :
    wrap32 width = width ∧ wrap32 height = height := by
  have wide : 0 < width := Nat.pos_of_ne_zero fun none => filled (by rw [none, Nat.zero_mul])
  have high : 0 < height := Nat.pos_of_ne_zero fun none => filled (by rw [none, Nat.mul_zero])
  have rows : width * 1 ≤ width * height := Nat.mul_le_mul_left width high
  have columns : 1 * height ≤ width * height := Nat.mul_le_mul_right height wide
  rw [Nat.mul_assoc] at size
  exact ⟨wrap32_eq (by omega) (by omega), wrap32_eq (by omega) (by omega)⟩

theorem stride_kept (width : ℕ) : wrap32 (4 * (width : Int) % 2 ^ 32) = (4 * width : ℕ) ↔ 4 * width < 2 ^ 31 := by
  constructor
  · intro same
    have bounds := wrap32_bounds (4 * (width : Int) % 2 ^ 32)
    omega
  · intro fits
    rw [Int.emod_eq_of_lt (by omega) (by omega), wrap32_eq (by omega) (by omega)]
    omega

theorem dress_drawn (buf : PoolBuffer) {width height : ℕ} (size : Int) (data : BufferData) (stride : 4 * width < 2 ^ 31)
    (inside : ((4 * width : ℕ) : Int) * wrap32 height ≤ ((4 * width * height : ℕ) : Int)) :
    ∃ surface, (buf.dress (wrap32 width) (wrap32 height) (4 * width % 2 ^ 32) size data).surface = some surface ∧
      surface.data = data ∧ surface.stride = (4 * width : ℕ) ∧
      surface.stride * surface.height ≤ (4 * width * height : ℕ) := by
  have kept := (stride_kept width).mpr stride
  refine ⟨⟨data, wrap32 width, wrap32 height, wrap32 (4 * width % 2 ^ 32)⟩, rfl, rfl, ?_⟩
  dsimp only
  rw [kept]
  exact ⟨rfl, inside⟩

theorem backed_empty {buf : PoolBuffer} {width height : ℕ} (empty : width * height = 0) (stride : 4 * width < 2 ^ 31) :
    Backed buf (buf.dress (wrap32 width) (wrap32 height) (4 * width % 2 ^ 32) 0 .null) width height := by
  have none : 4 * width * height = 0 := by rw [Nat.mul_assoc, empty]
  refine ⟨?_, ?_, dress_drawn buf 0 .null stride ?_⟩
  · rw [none]
    rfl
  · rw [if_pos none]
    rfl
  · rw [none]
    rcases Nat.mul_eq_zero.mp empty with rfl | rfl
    · exact Int.le_of_eq (Int.zero_mul _)
    · rw [show wrap32 ((0 : ℕ) : Int) = 0 from rfl, Int.mul_zero]
      exact Int.le_refl 0

/-- For every width and height that is asked for, a buffer that is created is backed exactly when it is sized. -/
theorem createBuffer_backed (memory : Memory) (buf : PoolBuffer) (width height : UInt32) :
    (∀ created, createBuffer memory buf (wrap32 width.toNat) (wrap32 height.toNat) = some created →
      Backed buf created width.toNat height.toNat) ↔ Sized memory width.toNat height.toNat := by
  generalize width.toNat = width
  generalize height.toNat = height
  have size := wrappedSize_eq width height
  have product : 4 * width * height = 4 * (width * height) := Nat.mul_assoc 4 width height
  constructor
  · intro backed
    by_cases empty : wrappedSize width height = 0
    · obtain ⟨mapped, _, surface, same, _, stride, _⟩ := backed _ (createBuffer_empty empty)
      cases same
      dsimp only at stride
      have none : (0 : Int) = ((4 * width * height : ℕ) : Int) := Option.some.inj mapped
      have kept := (stride_kept width).mp stride
      exact .inr ⟨kept, by omega, .inr (by omega)⟩
    · cases made : memory.opened && memory.truncated with
      | false => exact .inl ⟨by omega, made⟩
      | true =>
          obtain ⟨mapped, shared, surface, same, _, stride, _⟩ := backed _ (createBuffer_filled empty made)
          cases same
          dsimp only at stride
          have kept := (stride_kept width).mp stride
          cases granted : memory.mapped with
          | false =>
              rw [granted] at mapped
              cases mapped
          | true =>
              rw [granted] at mapped
              have whole : wrappedSize width height = ((4 * width * height : ℕ) : Int) := Option.some.inj mapped
              rw [if_neg (by omega)] at shared
              dsimp only [PoolBuffer.dress] at shared
              rw [Option.some.injEq, WlBuffer.mk.injEq] at shared
              have pool := shared.1
              have bounds := wrap32_bounds (wrappedSize width height)
              exact .inr ⟨kept, by omega, .inl granted⟩
  · rintro (⟨filled, refused⟩ | ⟨stride, fits, known⟩) created computed
    · rw [createBuffer_refused (by omega) refused] at computed
      cases computed
    · by_cases empty : width * height = 0
      · rw [createBuffer_empty (by omega)] at computed
        cases computed
        exact backed_empty empty stride
      · obtain ⟨wide, high⟩ := lengths_fit empty fits
        have granted : memory.mapped = true := known.resolve_right empty
        have whole : wrappedSize width height = ((4 * width * height : ℕ) : Int) := by omega
        cases made : memory.opened && memory.truncated with
        | false =>
            rw [createBuffer_refused (by omega) made] at computed
            cases computed
        | true =>
            rw [createBuffer_filled (by omega) made, granted, if_pos rfl] at computed
            cases computed
            refine ⟨?_, ?_, dress_drawn _ _ _ stride ?_⟩
            · exact congrArg some whole
            · rw [if_neg (by omega)]
              have pool : wrap32 ((4 * width * height : ℕ) : Int) = ((4 * width * height : ℕ) : Int) :=
                wrap32_eq (by omega) (by omega)
              dsimp only [PoolBuffer.dress]
              rw [whole, pool, wide, high, (stride_kept width).mpr stride]
            · rw [high]
              push_cast
              exact Int.le_refl _

/-- An indicator with a radius of 16384 gets a buffer with fewer bytes than four for each pixel. -/
theorem wide_indicator_unbacked :
    indicatorSize 16384 0 1 .none = some (32769, 32769) ∧
      ¬ ∀ (memory : Memory) (buf created : PoolBuffer) (width height : UInt32),
        createBuffer memory buf (wrap32 width.toNat) (wrap32 height.toNat) = some created →
        Backed buf created width.toNat height.toNat := by
  refine ⟨by decide +kernel, fun backed => ?_⟩
  have short : (createBuffer ⟨true, true, true⟩ .zero (wrap32 (32769 : UInt32).toNat) (wrap32 (32769 : UInt32).toNat)).any
      (fun created => created.data.bytes == some 262148) = true := by decide +kernel
  obtain ⟨created, computed, bytes⟩ := (Option.any_eq_true _ _).mp short
  have mapped := (backed _ _ created _ _ computed).mapped
  rw [eq_of_beq bytes] at mapped
  exact absurd mapped (by decide +kernel)

end SwaylockPlugin.Render
