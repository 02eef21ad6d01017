import SwaylockPlugin.Proof.PoolBuffer

namespace SwaylockPlugin.Render

open Library

/-- The lengths of a buffer are positive and its size fits into an `int`. -/
def fitting (width height : Int) : Bool :=
  decide (0 < width) && decide (0 < height) && decide (4 * width * height < 2 ^ 31)

/-- A buffer has the lengths that are asked for. -/
def PoolBuffer.suits (buffer : PoolBuffer) (width height : Int) : Bool :=
  buffer.buffer.isSome && decide (buffer.width = width) && decide (buffer.height = height)

/-- The system gives memory. -/
def Memory.granted (memory : Memory) : Bool := memory.opened && memory.truncated && memory.mapped

/-- A frame can be drawn when the buffer has a fitting size and one of the two is not busy, which suits or can be
created. -/
def drawable {Picture : Type} (surface : IndicatorSurface Picture) (look : Look Picture) (memory : Memory) : Bool :=
  (indicatorSize surface.radius surface.thickness surface.scale look.texts).any fun size =>
    fitting size.1 size.2 && (freeBuffer surface.indicatorBuffers).any fun index =>
      (surface.indicatorBuffers index).suits size.1 size.2 || memory.granted

/-- Every event that draws a frame finds that it can be drawn. A damage draws where no frame is pending, and a frame
that is done draws where something was damaged meanwhile. -/
def drawsWhole {Picture : Type} (surface : IndicatorSurface Picture) : RenderEvent Picture → Bool
  | .damage look memory => surface.frame || drawable surface look memory
  | .frameDone memory => !surface.dirty || drawable surface surface.look memory
  | .release _ => true

section Buffers

variable {memory : Memory} {width height : Int}

theorem createBuffer_paints (buffer : PoolBuffer) (fits : fitting width height = true) (granted : memory.granted = true) :
    ∃ created, createBuffer memory buffer (wrap32 width) (wrap32 height) = some created ∧
      ∀ busy, { created with busy }.paints = true := by
  simp only [fitting, Bool.and_eq_true, decide_eq_true_eq] at fits
  obtain ⟨⟨wide, high⟩, small⟩ := fits
  obtain ⟨made, mapped⟩ := Bool.and_eq_true_iff.mp granted
  obtain ⟨columns, rfl⟩ := Int.eq_ofNat_of_zero_le (Int.le_of_lt wide)
  obtain ⟨rows, rfl⟩ := Int.eq_ofNat_of_zero_le (Int.le_of_lt high)
  have size : 4 * columns * rows < 2 ^ 31 := by exact_mod_cast small
  have filled : columns * rows ≠ 0 := Nat.mul_ne_zero (by omega) (by omega)
  have product : 4 * columns * rows = 4 * (columns * rows) := Nat.mul_assoc 4 columns rows
  have whole := wrappedSize_eq columns rows
  obtain ⟨keptColumns, keptRows⟩ := lengths_fit filled size
  have atLeast : columns * 1 ≤ columns * rows := Nat.mul_le_mul_left columns (by omega)
  have stride := (stride_kept columns).mpr (by omega)
  have area : ((4 * columns : ℕ) : Int) * rows = ((4 * columns * rows : ℕ) : Int) := by
    push_cast
    rfl
  refine ⟨_, createBuffer_filled (by omega) made, fun busy => ?_⟩
  rw [mapped, if_pos rfl]
  simp only [PoolBuffer.paints, PoolBuffer.dress, Option.isSome_some, Option.any_some, BufferData.bytes, stride,
    keptColumns, keptRows, area, Bool.true_and, Bool.and_eq_true, decide_eq_true_eq]
  omega

theorem fitting_kept (fits : fitting width height = true) : width % 2 ^ 32 = width ∧ height % 2 ^ 32 = height := by
  simp only [fitting, Bool.and_eq_true, decide_eq_true_eq] at fits
  obtain ⟨⟨wide, high⟩, small⟩ := fits
  have columns : width * 1 ≤ width * height := Int.mul_le_mul_of_nonneg_left (by omega) (by omega)
  have rows : 1 * height ≤ width * height := Int.mul_le_mul_of_nonneg_right (by omega) (by omega)
  rw [Int.mul_assoc] at small
  exact ⟨Int.emod_eq_of_lt (by omega) (by omega), Int.emod_eq_of_lt (by omega) (by omega)⟩

theorem getNextBuffer_paints {pool : Fin 2 → PoolBuffer}
    (painted : ∀ index, (pool index).buffer.isSome = true → (pool index).paints = true)
    (fits : fitting width height = true) {index : Fin 2} (free : freeBuffer pool = some index)
    (ready : ((pool index).suits width height || memory.granted) = true) :
    ∃ buffer : PoolBuffer, buffer.paints = true ∧
      getNextBuffer memory pool width height = (some index, Function.update pool index buffer) := by
  obtain ⟨keptWidth, keptHeight⟩ := fitting_kept fits
  unfold getNextBuffer
  rw [free]
  dsimp only
  rw [keptWidth, keptHeight]
  by_cases other : (pool index).width ≠ width ∨ (pool index).height ≠ height
  · have unsuited : (pool index).suits width height = false := by
      unfold PoolBuffer.suits
      rcases other with wider | higher
      · rw [decide_eq_false wider, Bool.and_false, Bool.false_and]
      · rw [decide_eq_false higher, Bool.and_false]
    rw [unsuited, Bool.false_or] at ready
    obtain ⟨created, computed, paints⟩ := createBuffer_paints .zero fits ready
    refine ⟨{ created with busy := true }, paints true, ?_⟩
    have missing : PoolBuffer.zero.buffer.isNone = true := rfl
    rw [if_pos other, if_pos missing, computed]
  · rw [if_neg other]
    cases there : (pool index).buffer with
    | none =>
        have unsuited : (pool index).suits width height = false := by
          unfold PoolBuffer.suits
          rw [there]
          rfl
        rw [unsuited, Bool.false_or] at ready
        obtain ⟨created, computed, paints⟩ := createBuffer_paints (pool index) fits ready
        refine ⟨{ created with busy := true }, paints true, ?_⟩
        rw [Option.isNone_none, if_pos rfl, computed]
    | some buffer =>
        refine ⟨{ pool index with busy := true }, painted index (by rw [there]; rfl), ?_⟩
        rw [Option.isNone_some, if_neg Bool.false_ne_true]

end Buffers

variable {Picture : Type} {surface next : IndicatorSurface Picture} {latest : Option Picture}

/-- The observer notes the picture for the lock state at the most recent damage. -/
def latestDamage (latest : Option Picture) (_ : IndicatorSurface Picture) : RenderEvent Picture → Option Picture
  | .damage look _ => some look.picture
  | _ => latest

/-- The indicator is up to date when it is as damaged last unless the surface is dirty. -/
structure UpToDate (surface : IndicatorSurface Picture) (latest : Option Picture) : Prop where
  configured : surface.configured = true
  hasBuffer : surface.hasBuffer = true
  painted : ∀ index, (surface.indicatorBuffers index).buffer.isSome = true →
    (surface.indicatorBuffers index).paints = true
  look : ∀ picture, latest = some picture → surface.look.picture = picture
  shown : ∀ picture, latest = some picture → surface.dirty = false → surface.shown = some picture

theorem renderFrame_draws (upToDate : UpToDate surface latest) {memory : Memory}
    (ready : drawable surface surface.look memory = true) :
    ∃ buffers, surface.renderFrame memory = .ok (true, { surface with
      indicatorBuffers := buffers
      kept := some (some surface.look.picture) }) ∧
      ∀ index, (buffers index).buffer.isSome = true → (buffers index).paints = true := by
  obtain ⟨⟨width, height⟩, size, found⟩ := (Option.any_eq_true _ _).mp ready
  obtain ⟨fits, found⟩ := Bool.and_eq_true_iff.mp found
  obtain ⟨index, free, suits⟩ := (Option.any_eq_true _ _).mp found
  obtain ⟨buffer, paints, taken⟩ := getNextBuffer_paints upToDate.painted fits free suits
  refine ⟨Function.update surface.indicatorBuffers index buffer, ?_, ?_⟩
  · unfold IndicatorSurface.renderFrame
    rw [size]
    dsimp only
    rw [taken]
    dsimp only
    rw [Function.update_self, if_pos paints]
  · intro other there
    by_cases same : other = index
    · subst same
      rw [Function.update_self]
      exact paints
    · rw [Function.update_of_ne same] at there ⊢
      exact upToDate.painted other there

theorem UpToDate.render (upToDate : UpToDate surface latest) {memory : Memory}
    (ready : surface.dirty = true → surface.frame = false → drawable surface surface.look memory = true) :
    ∃ next, surface.render memory = .ok next ∧ UpToDate next latest := by
  unfold IndicatorSurface.render
  rw [upToDate.configured, upToDate.hasBuffer, Bool.not_true, if_neg Bool.false_ne_true, if_neg Bool.false_ne_true]
  cases dirty : surface.dirty with
  | false => exact ⟨surface, rfl, upToDate⟩
  | true =>
      cases frame : surface.frame with
      | true => exact ⟨surface, rfl, upToDate⟩
      | false =>
          obtain ⟨buffers, drawn, painted⟩ := renderFrame_draws upToDate (ready dirty frame)
          rw [drawn]
          refine ⟨_, rfl, ⟨upToDate.configured, upToDate.hasBuffer, painted, upToDate.look, ?_⟩⟩
          intro picture known _
          exact congrArg some (upToDate.look picture known)

theorem UpToDate.step (upToDate : UpToDate surface latest) {event : RenderEvent Picture}
    (draws : drawsWhole surface event = true) :
    ∃ next, handleRender surface event = .ok next ∧ UpToDate next (latestDamage latest surface event) := by
  cases event with
  | damage look memory =>
      have damaged : UpToDate { surface with look := look, dirty := true } (some look.picture) :=
        ⟨upToDate.configured, upToDate.hasBuffer, upToDate.painted, fun picture known => Option.some.inj known,
          fun _ _ clean => by cases clean⟩
      refine damaged.render fun _ idle => ?_
      have idle : surface.frame = false := idle
      change (surface.frame || drawable surface look memory) = true at draws
      rw [idle, Bool.false_or] at draws
      exact draws
  | frameDone memory =>
      have done : UpToDate { surface with frame := false } latest :=
        ⟨upToDate.configured, upToDate.hasBuffer, upToDate.painted, upToDate.look, upToDate.shown⟩
      refine done.render fun dirty _ => ?_
      have dirty : surface.dirty = true := dirty
      change (!surface.dirty || drawable surface surface.look memory) = true at draws
      rw [dirty, Bool.not_true, Bool.false_or] at draws
      exact draws
  | release index =>
      refine ⟨_, rfl, ⟨upToDate.configured, upToDate.hasBuffer, fun other there => ?_, upToDate.look, upToDate.shown⟩⟩
      change (bufferRelease surface.indicatorBuffers index other).buffer.isSome = true at there
      change (bufferRelease surface.indicatorBuffers index other).paints = true
      unfold bufferRelease at there ⊢
      by_cases same : other = index
      · subst same
        rw [Function.update_self] at there ⊢
        exact upToDate.painted other there
      · rw [Function.update_of_ne same] at there ⊢
        exact upToDate.painted other there

/-- In every run whose frames can all be drawn, an indicator without damage and without a pending frame shows what it
was damaged with last. -/
theorem indicator_current {surface : IndicatorSurface Picture} {latest : Option Picture}
    (reachable : (((rendering Picture).machine.guarded drawsWhole).observed none latestDamage).Reachable
      (surface, latest))
    (clean : surface.dirty = false) (_ : surface.frame = false) {picture : Picture}
    (damaged : latest = some picture) : surface.shown = some picture := by
  have upToDate : UpToDate surface latest := by
    refine reachable.invariant (fun pair => UpToDate pair.1 pair.2) ?_ ?_
    · rintro ⟨first, _⟩ ⟨start, rfl⟩
      refine ⟨start.configured, start.hasBuffer, fun index there => ?_, fun _ known => ?_, fun _ known => ?_⟩
      · change (first.indicatorBuffers index).buffer.isSome = true at there
        rw [start.fresh] at there
        cases there
      · cases known
      · cases known
    · rintro ⟨first, note⟩ event ⟨second, _⟩ before ⟨⟨⟨_, handled⟩, draws⟩, rfl⟩
      obtain ⟨next, computed, after⟩ := UpToDate.step before draws
      cases computed.symm.trans handled
      exact after
  exact upToDate.shown picture damaged clean

/-- An output of usual size starts with a picture that was not yet damaged. -/
def usualSurface : IndicatorSurface ℕ where
  width := 1920
  height := 1080
  scale := 1
  radius := 50
  thickness := 10
  hasBuffer := true
  dirty := false
  frame := false
  look := ⟨0, .none⟩
  indicatorBuffers := fun _ => .zero
  kept := none
  shown := none

theorem usualSurface_start : StartSurface usualSurface := ⟨by decide +kernel, rfl, rfl, rfl⟩

/-- The system gives all memory that is asked for. -/
def allMemory : Memory := ⟨true, true, true⟩

/-- Three pictures are shown one after the other when the compositor releases a buffer in time. -/
theorem indicator_current_third :
    ∃ surface : IndicatorSurface ℕ, surface.dirty = false ∧ surface.frame = false ∧ surface.shown = some 3 := by
  obtain ⟨⟨surface, latest⟩, reachable, passed⟩ := (rendering ℕ).play_guarded_observed drawsWhole none latestDamage
    [.damage ⟨1, .none⟩ allMemory, .frameDone allMemory, .damage ⟨2, .none⟩ allMemory, .release 1,
      .damage ⟨3, .none⟩ allMemory, .frameDone allMemory, .frameDone allMemory]
    (fun pair => pair.2 == some 3 && !pair.1.dirty && !pair.1.frame) usualSurface_start (by decide +kernel)
  simp only [Bool.and_eq_true, beq_iff_eq, Bool.not_eq_true'] at passed
  obtain ⟨⟨damaged, clean⟩, idle⟩ := passed
  exact ⟨surface, clean, idle, indicator_current reachable clean idle damaged⟩

/-- While the compositor holds both buffers, the third picture is lost and the second one stays. -/
theorem held_buffers_lose_update :
    ¬ ∀ (surface : IndicatorSurface ℕ) (latest : Option ℕ),
      ((rendering ℕ).machine.observed none latestDamage).Reachable (surface, latest) →
      surface.dirty = false → surface.frame = false → ∀ picture, latest = some picture → surface.shown = some picture := by
  intro current
  obtain ⟨⟨surface, latest⟩, reachable, passed⟩ := (rendering ℕ).play_observed none latestDamage
    [.damage ⟨1, .none⟩ allMemory, .frameDone allMemory, .damage ⟨2, .none⟩ allMemory, .frameDone allMemory,
      .damage ⟨3, .none⟩ allMemory, .frameDone allMemory]
    (fun pair => pair.2 == some 3 && !pair.1.dirty && !pair.1.frame && pair.1.shown == some 2) usualSurface_start
    (by decide +kernel)
  simp only [Bool.and_eq_true, beq_iff_eq, Bool.not_eq_true'] at passed
  obtain ⟨⟨⟨damaged, clean⟩, idle⟩, stale⟩ := passed
  have shown := current surface latest reachable clean idle 3 damaged
  rw [stale] at shown
  cases shown

end SwaylockPlugin.Render
