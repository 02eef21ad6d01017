import SwaylockPlugin.Proof.Limits
import SwaylockPlugin.Proof.Presents
import SwaylockPlugin.Proof.Callbacks

namespace SwaylockPlugin

open Library

section Arithmetic

variable {value : Int32} {bound : UInt32}

theorem toNat_toUInt32 (positive : 0 ≤ value.toInt) : (value.toUInt32.toNat : Int) = value.toInt := by
  have ordered : (0 : Int32) ≤ value := Int32.le_iff_toInt_le.mpr positive
  rw [Int32.toNat_toUInt32_of_le ordered]
  exact Int.toNat_of_nonneg positive

theorem toUInt32_eq_iff (positive : 0 ≤ value.toInt) : value.toUInt32 = bound ↔ value.toInt = (bound.toNat : Int) := by
  rw [← toNat_toUInt32 positive, ← UInt32.toNat_inj]
  omega

theorem wlFixedToInt_toInt (positive : 0 ≤ value.toInt) : (wlFixedToInt value).toInt = value.toInt / 256 := by
  unfold wlFixedToInt
  rw [Int32.toInt_div_of_ne_right value 256 (by decide)]
  exact Int.tdiv_eq_ediv_of_nonneg positive

theorem wlFixedToInt_nonneg (positive : 0 ≤ value.toInt) : 0 ≤ (wlFixedToInt value).toInt := by
  rw [wlFixedToInt_toInt positive]
  exact Int.ediv_nonneg positive (by decide)

theorem wlFixedFromInt_wlFixedToInt (positive : 0 ≤ value.toInt) :
    wlFixedFromInt (wlFixedToInt value) = value ↔ value.toInt % 256 = 0 := by
  have below := value.toInt_lt
  rw [← Int32.toInt_inj]
  unfold wlFixedFromInt
  rw [Int32.toInt_mul, wlFixedToInt_toInt positive]
  have factor : (256 : Int32).toInt = 256 := rfl
  rw [factor, Int.bmod_eq_of_le (by omega) (by omega)]
  omega

theorem quotient_iff {size quotient : UInt32} (positive : 1 ≤ value.toInt) :
    size % value.toUInt32 = 0 ∧ size / value.toUInt32 = quotient ↔
      (size.toNat : Int) = value.toInt * quotient.toNat := by
  have same : (value.toUInt32.toNat : Int) = value.toInt := toNat_toUInt32 (by omega)
  rw [← UInt32.toNat_inj, ← UInt32.toNat_inj, UInt32.toNat_mod, UInt32.toNat_div, ← same, ← Int.natCast_mul,
    Int.natCast_inj]
  have factor : 0 < value.toUInt32.toNat := by omega
  constructor
  · rintro ⟨exact_, divided⟩
    rw [← divided]
    exact (Nat.mul_div_cancel' (Nat.dvd_of_mod_eq_zero exact_)).symm
  · intro product
    rw [product]
    exact ⟨Nat.mul_mod_right _ _, Nat.mul_div_cancel_left _ factor⟩

end Arithmetic

section Viewports

/-- A part of a viewport is valid where it is unset or has an area. -/
def viewportLimits : Limits where
  scale _ := True
  transform _ := True
  destination pair := pair = (-1, -1) ∨ 0 < pair.1.toInt ∧ 0 < pair.2.toInt
  source area := area = (Extent.unset, Extent.unset, Extent.unset, Extent.unset) ∨
    0 < area.2.2.1.toInt ∧ 0 < area.2.2.2.toInt

theorem source_of_accepted {x y width height : WlFixed} (accepted : sourceAccepted x y width height = true) :
    viewportLimits.source (x, y, width, height) := by
  simp only [sourceAccepted, Bool.not_and, Bool.not_or, Bool.not_not, Bool.or_eq_true, Bool.and_eq_true,
    Bool.not_eq_true', decide_eq_false_iff_not, beq_iff_eq, Int32.le_iff_toInt_le, Int32.lt_iff_toInt_lt] at accepted
  rcases accepted with ⟨⟨_, wide⟩, high⟩ | ⟨⟨⟨rfl, rfl⟩, rfl⟩, rfl⟩
  · exact .inr ⟨Int.not_le.mp wide, Int.not_le.mp high⟩
  · exact .inl rfl

theorem destination_of_accepted {width height : Int32} (accepted : destinationAccepted width height = true) :
    viewportLimits.destination (width, height) := by
  simp only [destinationAccepted, Bool.not_and, Bool.not_or, Bool.not_not, Bool.or_eq_true, Bool.and_eq_true,
    Bool.not_eq_true', decide_eq_false_iff_not, beq_iff_eq, Int32.le_iff_toInt_le] at accepted
  rcases accepted with ⟨wide, high⟩ | ⟨rfl, rfl⟩
  · exact .inr ⟨Int.not_le.mp wide, Int.not_le.mp high⟩
  · exact .inl rfl

theorem viewportLimits_permits (request : Request) : viewportLimits.Permits request := by
  cases request with
  | surface id call => cases call <;> trivial
  | object id call =>
      cases call with
      | setSource => exact source_of_accepted
      | setDestination => exact destination_of_accepted
      | _ => trivial
  | _ => trivial

theorem viewports_valid {state : SwaylockState} (reachable : swaylock.machine.Reachable state) :
    Limited viewportLimits state.scene := by
  have open_ : (swaylock.machine.restrict fun _ _ => True).Reachable state := reachable.restrict fun _ _ => trivial
  refine Limited.of_reachable ⟨trivial, trivial, .inl rfl, .inl rfl⟩ ?_ open_
  exact fun _ _ _ _ request _ => viewportLimits_permits request

end Viewports

section Verdicts

variable {surface : ForwardSurface}

theorem checkCommit_accepts : checkCommit surface = .ok none ↔
    committedSize surface = .ok (.ok (surface.lastAckedWidth, surface.lastAckedHeight)) := by
  unfold checkCommit
  cases computed : committedSize surface with
  | error error => exact ⟨nofun, nofun⟩
  | ok verdict =>
      cases verdict with
      | error error => exact ⟨nofun, nofun⟩
      | ok size =>
          obtain ⟨width, height⟩ := size
          change (if width != surface.lastAckedWidth || height != surface.lastAckedHeight then _ else _) = _ ↔ _
          split
          · rename_i differs
            refine ⟨nofun, ?_⟩
            rintro ⟨⟩
            simp at differs
          · rename_i same
            simp only [Bool.or_eq_true, bne_iff_ne, ne_eq, not_or, Decidable.not_not] at same
            rw [same.1, same.2]
            exact ⟨fun _ => rfl, fun _ => rfl⟩

/-- The size that a commit must have is the acknowledged one. -/
def ForwardSurface.ackedSize (surface : ForwardSurface) : Int × Int :=
  (surface.lastAckedWidth.toNat, surface.lastAckedHeight.toNat)

theorem Extent.scaled_eq {extent : Extent} (valid : viewportLimits.destination extent.destination) :
    extent.scaled = (extent.destination.1 != -1) := by
  unfold Extent.scaled
  rcases valid with unset | ⟨wide, _⟩
  · rw [unset]
    rfl
  · have set : extent.destination.1 ≠ -1 := fun same => absurd (same ▸ wide) (by decide)
    rw [bne_iff_ne.mpr set, bne_iff_ne.mpr fun same => set (congrArg Prod.fst same)]

theorem Extent.cropped_eq {extent : Extent} (valid : viewportLimits.source extent.source) :
    extent.cropped = (extent.source.2.2.1 != Extent.unset) := by
  unfold Extent.cropped
  rcases valid with unset | ⟨wide, _⟩
  · rw [unset]
    rfl
  · have set : extent.source.2.2.1 ≠ Extent.unset := fun same => absurd (same ▸ wide) (by decide)
    rw [bne_iff_ne.mpr set, bne_iff_ne.mpr fun same => set (congrArg (fun area => area.2.2.1) same)]

theorem accepts_scaled (valid : viewportLimits.Meets surface.committed.extent)
    (scaled : surface.committed.extent.scaled = true) :
    checkCommit surface = .ok none ↔ (surface.committed.extent.destination.1.toInt,
      surface.committed.extent.destination.2.toInt) = surface.ackedSize := by
  have set := (Extent.scaled_eq valid.destination).symm.trans scaled
  obtain ⟨wide, high⟩ := valid.destination.resolve_left fun unset => by
    rw [unset] at set
    cases set
  change (surface.committed.viewportDestWidth != -1) = true at set
  change 0 < surface.committed.viewportDestWidth.toInt at wide
  change 0 < surface.committed.viewportDestHeight.toInt at high
  rw [checkCommit_accepts]
  unfold committedSize ForwardSurface.ackedSize
  dsimp only
  rw [if_pos set]
  change Except.ok _ = _ ↔ _
  rw [Except.ok.injEq, Except.ok.injEq, Prod.mk.injEq, Prod.mk.injEq, toUInt32_eq_iff (Int.le_of_lt wide),
    toUInt32_eq_iff (Int.le_of_lt high)]
  rfl

theorem accepts_cropped (valid : viewportLimits.Meets surface.committed.extent)
    (scaled : surface.committed.extent.scaled = false) (cropped : surface.committed.extent.cropped = true) :
    checkCommit surface = .ok none ↔
      surface.committed.extent.source.2.2.1.whole? = some surface.ackedSize.1 ∧
        surface.committed.extent.source.2.2.2.whole? = some surface.ackedSize.2 := by
  have unset := (Extent.scaled_eq valid.destination).symm.trans scaled
  have set := (Extent.cropped_eq valid.source).symm.trans cropped
  obtain ⟨wide, high⟩ := valid.source.resolve_left fun unset => by
    rw [unset] at set
    cases set
  change (surface.committed.viewportDestWidth != -1) = false at unset
  change (surface.committed.viewportSourceW != wlFixedFromInt (-1)) = true at set
  change 0 < surface.committed.viewportSourceW.toInt at wide
  change 0 < surface.committed.viewportSourceH.toInt at high
  change _ ↔ surface.committed.viewportSourceW.whole? = _ ∧ surface.committed.viewportSourceH.whole? = _
  rw [checkCommit_accepts]
  unfold committedSize ForwardSurface.ackedSize WlFixed.whole?
  dsimp only
  rw [if_neg (by simp [unset]), if_pos set]
  have whole := and_congr (wlFixedFromInt_wlFixedToInt (Int.le_of_lt wide)) (wlFixedFromInt_wlFixedToInt (Int.le_of_lt high))
  by_cases integral : wlFixedFromInt (wlFixedToInt surface.committed.viewportSourceW) = surface.committed.viewportSourceW ∧
      wlFixedFromInt (wlFixedToInt surface.committed.viewportSourceH) = surface.committed.viewportSourceH
  · have divides := whole.mp integral
    rw [if_neg (by simp [integral]), if_pos divides.1, if_pos divides.2]
    change Except.ok _ = _ ↔ _
    rw [Except.ok.injEq, Except.ok.injEq, Prod.mk.injEq, toUInt32_eq_iff (wlFixedToInt_nonneg (Int.le_of_lt wide)),
      toUInt32_eq_iff (wlFixedToInt_nonneg (Int.le_of_lt high)), wlFixedToInt_toInt (Int.le_of_lt wide),
      wlFixedToInt_toInt (Int.le_of_lt high), Option.some.injEq, Option.some.injEq]
  · have broken := integral ∘ whole.mpr
    rw [if_pos (by simpa using not_and_or.mp integral)]
    refine iff_of_false ?_ fun both => broken ⟨?_, ?_⟩
    · split <;> exact nofun
    · by_contra odd
      rw [if_neg odd] at both
      cases both.1
    · by_contra odd
      rw [if_neg odd] at both
      cases both.2

theorem doesTransformTransposeSize_false (transform : Int32) : doesTransformTransposeSize transform = false := by
  unfold doesTransformTransposeSize
  split <;> rfl

theorem accepts_plain (valid : viewportLimits.Meets surface.committed.extent)
    (enlarged : 1 ≤ surface.committed.extent.scale.toInt)
    (scaled : surface.committed.extent.scaled = false) (cropped : surface.committed.extent.cropped = false) :
    checkCommit surface = .ok none ↔
      surface.committedBufferWidth.toNat = surface.committed.extent.scale.toInt * surface.ackedSize.1 ∧
        surface.committedBufferHeight.toNat = surface.committed.extent.scale.toInt * surface.ackedSize.2 := by
  have unset := (Extent.scaled_eq valid.destination).symm.trans scaled
  have none_ := (Extent.cropped_eq valid.source).symm.trans cropped
  change (surface.committed.viewportDestWidth != -1) = false at unset
  change (surface.committed.viewportSourceW != wlFixedFromInt (-1)) = false at none_
  change 1 ≤ surface.committed.bufferScale.toInt at enlarged
  change _ ↔ _ = surface.committed.bufferScale.toInt * _ ∧ _ = surface.committed.bufferScale.toInt * _
  have nonzero : surface.committed.bufferScale ≠ 0 := fun same => absurd (same ▸ enlarged) (by decide)
  rw [checkCommit_accepts]
  unfold committedSize ForwardSurface.ackedSize
  dsimp only
  rw [if_neg (by simp [unset]), if_neg (by simp [none_]), if_neg (by simpa using nonzero), ← quotient_iff enlarged,
    ← quotient_iff enlarged]
  split
  · rename_i remains
    simp only [Bool.or_eq_true, bne_iff_ne, ne_eq] at remains
    refine iff_of_false nofun ?_
    rintro ⟨⟨wide, _⟩, high, _⟩
    exact remains.elim (fun broken => broken wide) fun broken => broken high
  · rename_i exact_
    simp only [Bool.or_eq_true, bne_iff_ne, ne_eq, not_or, Decidable.not_not] at exact_
    rw [doesTransformTransposeSize_false, if_neg Bool.false_ne_true]
    change Except.ok _ = _ ↔ _
    rw [Except.ok.injEq, Except.ok.injEq, Prod.mk.injEq]
    exact and_congr (and_iff_right exact_.1).symm (and_iff_right exact_.2).symm

theorem localSize_cropped {wide high : WlFixed} {size : Int × Int} : (do
      let width ← wide.whole?
      let height ← high.whole?
      return (width, height)) = some size ↔ wide.whole? = some size.1 ∧ high.whole? = some size.2 := by
  cases wide.whole? with
  | none => exact iff_of_false nofun fun both => nomatch both.1
  | some width =>
      cases high.whole? with
      | none => exact iff_of_false nofun fun both => nomatch both.2
      | some height =>
          change some (width, height) = some size ↔ _
          rw [Option.some_inj, Option.some_inj, Option.some_inj, Prod.ext_iff]

theorem Extent.bufferSize_eq {extent : Extent} {width height : Nat} {size : Int × Int}
    (enlarged : 1 ≤ extent.scale.toInt) : extent.bufferSize width height = some size ↔
      if turns extent.transform then height = extent.scale.toInt * size.1 ∧ width = extent.scale.toInt * size.2
      else width = extent.scale.toInt * size.1 ∧ height = extent.scale.toInt * size.2 := by
  have exactly (length : Nat) (part : Int) : (length : Int) % extent.scale.toInt = 0 ∧
      (length : Int) / extent.scale.toInt = part ↔ (length : Int) = extent.scale.toInt * part := by
    constructor
    · rintro ⟨divides, rfl⟩
      exact (Int.mul_ediv_cancel' (Int.dvd_of_emod_eq_zero divides)).symm
    · intro product
      rw [product]
      exact ⟨Int.mul_emod_right _ _, Int.mul_ediv_cancel_left _ (by omega)⟩
  have both (one two : Nat) : (if (one : Int) % extent.scale.toInt = 0 ∧ (two : Int) % extent.scale.toInt = 0 then
      some ((one : Int) / extent.scale.toInt, (two : Int) / extent.scale.toInt) else none) = some size ↔
      one = extent.scale.toInt * size.1 ∧ two = extent.scale.toInt * size.2 := by
    rw [← exactly, ← exactly]
    split
    · rename_i divides
      rw [Option.some.injEq, Prod.ext_iff]
      exact and_congr (and_iff_right divides.1).symm (and_iff_right divides.2).symm
    · rename_i broken
      exact iff_of_false nofun fun same => broken ⟨same.1.1, same.2.1⟩
  unfold Extent.bufferSize
  dsimp only
  split
  · exact both height width
  · exact both width height

/-- A commit is misjudged where a buffer that is not square is turned without a viewport and has the acknowledged size
on one of its sides up to its scale, before or after the turn. -/
structure Misjudged (extent : Extent) (width height : Nat) (acked : Int × Int) : Prop where
  scaled : extent.scaled = false
  cropped : extent.cropped = false
  turned : turns extent.transform = true
  oblong : width ≠ height
  fits : (width = extent.scale.toInt * acked.1 ∧ height = extent.scale.toInt * acked.2) ∨
    (height = extent.scale.toInt * acked.1 ∧ width = extent.scale.toInt * acked.2)

theorem verdict_correct (valid : viewportLimits.Meets surface.committed.extent)
    (enlarged : 1 ≤ surface.committed.extent.scale.toInt) :
    (checkCommit surface = .ok none ↔ surface.committed.extent.localSize surface.committedBufferWidth.toNat
        surface.committedBufferHeight.toNat = some surface.ackedSize) ↔
      ¬ Misjudged surface.committed.extent surface.committedBufferWidth.toNat surface.committedBufferHeight.toNat
        surface.ackedSize := by
  unfold Extent.localSize
  cases scaled : surface.committed.extent.scaled with
  | true =>
      rw [accepts_scaled valid scaled, if_pos rfl, Option.some.injEq]
      exact iff_of_true Iff.rfl fun misjudged => nomatch scaled.symm.trans misjudged.scaled
  | false =>
      rw [if_neg Bool.false_ne_true]
      cases cropped : surface.committed.extent.cropped with
      | true =>
          rw [accepts_cropped valid scaled cropped, if_pos rfl]
          refine iff_of_true ?_ fun misjudged => nomatch cropped.symm.trans misjudged.cropped
          exact localSize_cropped.symm
      | false =>
          rw [accepts_plain valid enlarged scaled cropped, if_neg Bool.false_ne_true, Extent.bufferSize_eq enlarged]
          cases turned : turns surface.committed.extent.transform with
          | false =>
              rw [if_neg Bool.false_ne_true]
              exact iff_of_true Iff.rfl fun misjudged => nomatch turned.symm.trans misjudged.turned
          | true =>
              rw [if_pos rfl]
              constructor
              · intro judged misjudged
                refine misjudged.oblong (Int.natCast_inj.mp ?_)
                rcases misjudged.fits with upright | lying
                · exact upright.1.trans (judged.mp upright).1.symm
                · exact (judged.mpr lying).1.trans lying.1.symm
              · intro sound
                by_cases square : surface.committedBufferWidth.toNat = surface.committedBufferHeight.toNat
                · rw [square]
                · refine iff_of_false (fun upright => ?_) fun lying => ?_
                  · exact sound ⟨scaled, cropped, turned, square, .inl upright⟩
                  · exact sound ⟨scaled, cropped, turned, square, .inr lying⟩

end Verdicts

section Checks

/-- A commit evaluates its size check on the surface after its pending state was applied to its output. -/
def checkedSurface (scene : Scene) (id : SurfaceId) : Handled (Option ForwardSurface) := do
  let surface ← scene.forward id
  if surface.inert then return none
  else do
    let scene ← commitSubsurface scene id surface
    let surface ← scene.forward id
    match surface.swaySurface with
    | none => return none
    | some outputId =>
        if !surface.hasBeenConfigured || surface.pending.attachment == .null then return none
        else do
          let output ← scene.output outputId
          let scene ← applyPendingSurfaceUpdates scene id (.lock outputId) output.surface
          let surface ← scene.forward id
          return some surface

/-- A commit of a surface comes to its size check through these states. -/
structure Checks (scene : Scene) (id : SurfaceId) (surface : ForwardSurface) (middle : Scene) (current : ForwardSurface)
    (output : OutputId) (record : SwaylockSurface) (applied : Scene) (checked : ForwardSurface) : Prop where
  before : scene.forwardSurfaces.cell id = some surface
  active : surface.inert = false
  nested : commitSubsurface scene id surface = .ok middle
  between : middle.forwardSurfaces.cell id = some current
  presents : Presents current output
  shown : middle.outputs.cell output = some record
  layer : applyPendingSurfaceUpdates middle id (.lock output) record.surface = .ok applied
  after : applied.forwardSurfaces.cell id = some checked

variable {scene middle applied : Scene} {id : SurfaceId} {surface current checked : ForwardSurface} {output : OutputId}
  {record : SwaylockSurface}

theorem checkedSurface_checks (evaluates : checkedSurface scene id = .ok (some checked)) :
    ∃ surface middle current output record applied,
      Checks scene id surface middle current output record applied checked := by
  obtain ⟨surface, found, evaluates⟩ := bind_ok.mp evaluates
  have before := demand_ok.mp found
  split at evaluates
  · cases evaluates
  rename_i active
  obtain ⟨middle, nested, evaluates⟩ := bind_ok.mp evaluates
  obtain ⟨current, found, evaluates⟩ := bind_ok.mp evaluates
  have between := demand_ok.mp found
  split at evaluates
  · cases evaluates
  rename_i output role
  split at evaluates
  · cases evaluates
  rename_i drawn
  obtain ⟨record, shown, evaluates⟩ := bind_ok.mp evaluates
  obtain ⟨applied, layer, evaluates⟩ := bind_ok.mp evaluates
  obtain ⟨final, found, evaluates⟩ := bind_ok.mp evaluates
  have after := demand_ok.mp found
  cases evaluates
  simp only [Bool.or_eq_true, Bool.not_eq_true', beq_iff_eq, not_or, Bool.not_eq_false] at drawn
  exact ⟨surface, middle, current, output, record, applied, before, (Bool.not_eq_true _).mp active, nested, between,
    ⟨role, drawn.1, drawn.2⟩, demand_ok.mp shown, layer, after⟩

namespace Checks

theorem commit (checks : Checks scene id surface middle current output record applied checked) :
    nestedSurfaceCommit scene id = (do
      match ← checkCommit checked with
      | some error => return (applied.postError checked.client (.commit error), .rejected error)
      | none =>
          let scene ← acceptCommit applied id output
          return (scene, .forwarded)) := by
  unfold nestedSurfaceCommit Scene.forward
  rw [checks.before]
  change (if surface.inert then _ else _) = _
  rw [checks.active, if_neg Bool.false_ne_true, checks.nested]
  change (demand _ (middle.forwardSurfaces.cell id) >>= _) = _
  rw [checks.between]
  change (match current.swaySurface with | none => _ | some outputId => _) = _
  rw [checks.presents.role]
  change commitInRole middle id current output = _
  unfold commitInRole
  rw [checks.presents.configured, if_neg (by decide), if_neg (by simpa using checks.presents.drawn)]
  unfold commitLayerSurface Scene.output
  rw [checks.shown]
  change (applyPendingSurfaceUpdates middle id (.lock output) record.surface >>= _) = _
  rw [checks.layer]
  change (demand _ (applied.forwardSurfaces.cell id) >>= _) = _
  rw [checks.after]
  rfl

end Checks

/-- The size that a commit gives a surface is that of its pending buffer or else that of its last one. -/
def presentedSize (scene : Scene) (surface : ForwardSurface) : UInt32 × UInt32 :=
  match surface.pending.attachment with
  | .buffer buffer =>
      match scene.forwardBuffers.cell buffer with
      | some record => (record.width, record.height)
      | none => (0, 0)
  | _ => (surface.committedBufferWidth, surface.committedBufferHeight)

theorem ackPendingConfigure_returns (fatal : Halt) (live : scene.outputs.live output = true) :
    Delivers fatal (ackPendingConfigure scene output) fun next => next.outputs.live output = true := by
  obtain ⟨record, shown⟩ := Heap.live_iff.mp live
  refine .read shown ?_
  split
  · exact .pure ((Heap.live_modify _ output _ output).trans live)
  · exact .pure live

theorem acceptCommit_returns (found : scene.forwardSurfaces.cell id = some surface)
    (live : scene.outputs.live output = true) : ∃ next, acceptCommit scene id output = .ok next := by
  have drawn : (if surface.committed.attachment != .null then
      scene.setOutput output fun output => { output with hasBuffer := true } else scene).outputs.live output = true := by
    split
    · exact (scene.outputs.live_modify output _ output).trans live
    · exact live
  have returns (fatal : Halt) : Delivers fatal (acceptCommit scene id output) fun _ => True := by
    refine .read found ?_
    refine (ackPendingConfigure_returns fatal drawn).bind fun acked live => ?_
    obtain ⟨record, shown⟩ := Heap.live_iff.mp live
    refine .via (fun _ => True) ?_ fun disarmed _ => .pure trivial
    exact .read shown (.pure trivial)
  obtain ⟨next, accepted, _⟩ := Delivers.returns .assertion returns
  exact ⟨next, accepted⟩

/-- A surface proposes the same over a part of a commit. -/
structure Proposes (scene : Scene) (surface : ForwardSurface) (next : Scene) (taken : ForwardSurface) : Prop where
  pending : taken.pending = surface.pending
  acked : taken.ackedSize = surface.ackedSize
  sized : surface.pending.attachment = .committed →
    (taken.committedBufferWidth, taken.committedBufferHeight) = (surface.committedBufferWidth, surface.committedBufferHeight)
  buffers : ∀ buffer record, next.forwardBuffers.cell buffer = some record →
    ∃ old, scene.forwardBuffers.cell buffer = some old ∧ record.width = old.width ∧ record.height = old.height

theorem proposes_of_presented {target : Target} {requests : List SurfaceRequest} {size : UInt32 × UInt32}
    (stacking : Stacks id target requests (surface.presented size) scene middle)
    (found : middle.forwardSurfaces.cell id = some current) : Proposes scene surface middle current := by
  obtain ⟨record, there, same⟩ := stacking.seen
  cases found.symm.trans there
  have pending : current.pending = surface.pending :=
    (congrArg ForwardSurface.pending same).trans ForwardSurface.presented_pending
  have attached : current.attachments = (surface.takeAttachment size).attachments :=
    (congrArg ForwardSurface.attachments same).trans ForwardSurface.presented_attachments
  have turned : current.roleCore = surface.roleCore :=
    (congrArg ForwardSurface.roleCore same).trans ForwardSurface.presented_roleCore
  refine ⟨pending, ?_, fun committed => ?_, stacking.buffers⟩
  · exact congrArg (fun core => ((core.cycle.lastAckedWidth.toNat : Int), (core.cycle.lastAckedHeight.toNat : Int))) turned
  · rw [ForwardSurface.takeAttachment_attachments, committed] at attached
    exact congrArg (fun core => (core.width, core.height)) attached

theorem proposes_of_nested (before : scene.forwardSurfaces.cell id = some surface)
    (nested : commitSubsurface scene id surface = .ok middle) (between : middle.forwardSurfaces.cell id = some current) :
    Proposes scene surface middle current := by
  unfold commitSubsurface at nested
  split at nested
  · obtain ⟨framed, applies, nested⟩ := bind_ok.mp nested
    cases nested
    obtain ⟨_, _, size, _, stacking⟩ := applyPendingSurfaceUpdates_stacks before surface.extSurface framed applies
    obtain ⟨pending, acked, sized, buffers⟩ := proposes_of_presented stacking between
    exact ⟨pending, acked, sized, buffers⟩
  · cases nested
    cases before.symm.trans between
    exact ⟨rfl, rfl, fun _ => rfl, fun _ record there => ⟨record, there, rfl, rfl⟩⟩

theorem SurfaceState.extent_of_look {one two : SurfaceState} (same : one.look = two.look) : one.extent = two.extent :=
  congrArg (fun look : Look => (⟨look.bufferScale, look.bufferTransform, (look.viewportDestWidth, look.viewportDestHeight),
    (look.viewportSourceX, look.viewportSourceY, look.viewportSourceW, look.viewportSourceH)⟩ : Extent)) same

namespace Checks

theorem checked_eq (checks : Checks scene id surface middle current output record applied checked) :
    checked.committed.extent = surface.pending.extent ∧
      (checked.committedBufferWidth, checked.committedBufferHeight) = presentedSize scene surface ∧
      checked.ackedSize = surface.ackedSize := by
  have proposes := proposes_of_nested checks.before checks.nested checks.between
  obtain ⟨reachable, _, size, sizes, stacking⟩ :=
    applyPendingSurfaceUpdates_stacks checks.between record.surface applied checks.layer
  have again := proposes_of_presented stacking checks.after
  obtain ⟨last, there, same⟩ := stacking.seen
  cases checks.after.symm.trans there
  have look : checked.committed.look = current.pending.look :=
    (congrArg (fun surface => surface.committed.look) same).trans ForwardSurface.presented_look
  have attached : checked.attachments = (current.takeAttachment size).attachments :=
    (congrArg ForwardSurface.attachments same).trans ForwardSurface.presented_attachments
  refine ⟨?_, ?_, again.acked.trans proposes.acked⟩
  · exact (SurfaceState.extent_of_look look).trans (congrArg SurfaceState.extent proposes.pending)
  · have drawn := checks.presents.drawn
    rw [ForwardSurface.takeAttachment_attachments] at attached
    rw [proposes.pending] at attached reachable drawn sizes
    unfold presentedSize
    cases pending : surface.pending.attachment with
    | null => exact absurd pending drawn
    | unreachable => exact absurd pending reachable
    | committed => exact (again.sized (proposes.pending ▸ pending)).trans (proposes.sized pending)
    | buffer buffer =>
        rw [pending] at attached
        obtain ⟨found, there, rfl⟩ := sizes buffer pending
        obtain ⟨old, before, width, height⟩ := proposes.buffers buffer found there
        simp only [before]
        have sized : (checked.committedBufferWidth, checked.committedBufferHeight) = (found.width, found.height) :=
          congrArg (fun core => (core.width, core.height)) attached
        rw [sized, width, height]

theorem forwarded_iff (checks : Checks scene id surface middle current output record applied checked) :
    (∃ next, nestedSurfaceCommit scene id = .ok (next, .forwarded)) ↔ checkCommit checked = .ok none := by
  rw [checks.commit]
  constructor
  · rintro ⟨next, forwarded⟩
    obtain ⟨verdict, judged, forwarded⟩ := bind_ok.mp forwarded
    cases verdict with
    | some error => cases forwarded
    | none => exact judged
  · intro judged
    rw [judged]
    obtain ⟨_, _, size, _, stacking⟩ :=
      applyPendingSurfaceUpdates_stacks checks.between record.surface applied checks.layer
    have kept := stacking.outputs output
    rw [checks.shown] at kept
    obtain ⟨there, shown, _⟩ := Option.map_eq_some_iff.mp kept
    obtain ⟨next, accepted⟩ := acceptCommit_returns checks.after (Heap.live_iff.mpr ⟨there, shown⟩)
    exact ⟨next, bind_ok.mpr ⟨none, rfl, bind_ok.mpr ⟨next, accepted, rfl⟩⟩⟩

end Checks

/-- A size check that meets the extents of a surface accepts exactly the acknowledged size unless it is misjudged. -/
theorem commit_judges_size {state : SwaylockState} (reachable : swaylock.machine.Reachable state) {id : SurfaceId}
    {surface checked : ForwardSurface} (present : state.scene.forwardSurfaces.cell id = some surface)
    (evaluates : checkedSurface state.scene id = .ok (some checked)) (enlarged : 1 ≤ surface.pending.bufferScale.toInt) :
    ((∃ next, nestedSurfaceCommit state.scene id = .ok (next, .forwarded)) ↔
        surface.pending.extent.localSize (presentedSize state.scene surface).1.toNat
          (presentedSize state.scene surface).2.toNat = some surface.ackedSize) ↔
      ¬ Misjudged surface.pending.extent (presentedSize state.scene surface).1.toNat
        (presentedSize state.scene surface).2.toNat surface.ackedSize := by
  obtain ⟨old, middle, current, output, record, applied, checks⟩ := checkedSurface_checks evaluates
  cases present.symm.trans checks.before
  obtain ⟨extent, size, acked⟩ := checks.checked_eq
  have valid := ((viewports_valid reachable).surfaces id surface present).1
  change viewportLimits.Meets surface.pending.extent at valid
  rw [checks.forwarded_iff, ← extent, ← size, ← acked]
  exact verdict_correct (extent ▸ valid) (extent ▸ enlarged)

/-- A plugin that drew attaches a buffer that stands on its side and turns it. -/
def turnedEvents : List Event :=
  presentingEvents ++ [.scene (.request 0 (.createBuffer 50 100)), .scene (.request 0 (.surface 0 (.attach (some 1)))),
    .scene (.request 0 (.surface 0 (.setBufferTransform 1)))]

/-- A scene has a surface whose size check a commit evaluates. -/
def evaluatesCheck (scene : Scene) (id : SurfaceId) (test : ForwardSurface → Bool) : Bool :=
  (scene.forwardSurfaces.cell id).any test &&
    match checkedSurface scene id with
    | .ok (some _) => true
    | _ => false

theorem evaluatesCheck_some {test : ForwardSurface → Bool} (passed : evaluatesCheck scene id test = true) :
    ∃ surface checked, scene.forwardSurfaces.cell id = some surface ∧ test surface = true ∧
      checkedSurface scene id = .ok (some checked) := by
  obtain ⟨there, evaluated⟩ := Bool.and_eq_true_iff.mp passed
  obtain ⟨surface, present, tested⟩ := (Option.any_eq_true _ _).mp there
  split at evaluated
  · rename_i checked evaluates
    exact ⟨surface, checked, present, tested, evaluates⟩
  · cases evaluated

/-- The commit of a buffer that is not turned is judged by its size. -/
theorem commit_judges_size_upright : ∃ (state : SwaylockState) (surface : ForwardSurface),
    state.scene.forwardSurfaces.cell 0 = some surface ∧
      (((∃ next, nestedSurfaceCommit state.scene 0 = .ok (next, .forwarded)) ↔
          surface.pending.extent.localSize (presentedSize state.scene surface).1.toNat
            (presentedSize state.scene surface).2.toNat = some surface.ackedSize) ↔
        ¬ Misjudged surface.pending.extent (presentedSize state.scene surface).1.toNat
          (presentedSize state.scene surface).2.toNat surface.ackedSize) := by
  obtain ⟨state, reachable, passed⟩ := swaylock.play_reachable (presentingEvents.map Event.obliged)
    (fun state => evaluatesCheck state.scene 0 fun surface => decide (1 ≤ surface.pending.bufferScale.toInt))
    (startState_initial _ _ _) (by decide +kernel : (swaylock.play defaultState _).any _ = true)
  obtain ⟨surface, checked, present, enlarged, evaluates⟩ := evaluatesCheck_some passed
  exact ⟨state, surface, present, commit_judges_size reachable present evaluates (of_decide_eq_true enlarged)⟩

/-- A buffer that is turned into the acknowledged size is rejected. -/
theorem turned_buffer_rejected : ¬ ∀ state : SwaylockState, swaylock.machine.Reachable state →
    ∀ id surface checked, state.scene.forwardSurfaces.cell id = some surface →
      checkedSurface state.scene id = .ok (some checked) → 1 ≤ surface.pending.bufferScale.toInt →
      0 < (presentedSize state.scene surface).1 → 0 < (presentedSize state.scene surface).2 →
      ((∃ next, nestedSurfaceCommit state.scene id = .ok (next, .forwarded)) ↔
        surface.pending.extent.localSize (presentedSize state.scene surface).1.toNat
          (presentedSize state.scene surface).2.toNat = some surface.ackedSize) := by
  intro claim
  obtain ⟨state, reachable, passed⟩ := swaylock.play_reachable (turnedEvents.map Event.obliged)
    (fun state => (evaluatesCheck state.scene 0 fun surface => decide (1 ≤ surface.pending.bufferScale.toInt) &&
      decide (0 < (presentedSize state.scene surface).1) && decide (0 < (presentedSize state.scene surface).2) &&
      surface.pending.extent.localSize (presentedSize state.scene surface).1.toNat
        (presentedSize state.scene surface).2.toNat == some surface.ackedSize) &&
      match nestedSurfaceCommit state.scene 0 with
      | .ok (_, outcome) => outcome == .rejected .sizeMismatch
      | .error _ => false)
    (startState_initial _ _ _) (by decide +kernel : (swaylock.play defaultState _).any _ = true)
  obtain ⟨evaluated, rejected⟩ := Bool.and_eq_true_iff.mp passed
  obtain ⟨surface, checked, present, tested, evaluates⟩ := evaluatesCheck_some evaluated
  simp only [Bool.and_eq_true, decide_eq_true_eq, beq_iff_eq] at tested
  obtain ⟨⟨⟨enlarged, wide⟩, high⟩, size⟩ := tested
  obtain ⟨next, forwarded⟩ :=
    (claim state reachable 0 surface checked present evaluates enlarged wide high).mpr size
  rw [forwarded] at rejected
  cases rejected

end Checks

section Scales

/-- A buffer is not shrunk by its scale. -/
def scaleLimits : Limits where
  scale scale := 1 ≤ scale.toInt
  transform _ := True
  destination _ := True
  source _ := True

/-- A plugin asks for scales that are not below one. -/
def scalesUp (_ : SwaylockState) (occurrence : Occurrence) : Bool :=
  match occurrence.event with
  | .scene (.request _ (.surface _ (.setBufferScale scale))) => decide (1 ≤ scale.toInt)
  | _ => true

/-- A size check divides by a scale that is the same without its sign and not zero. -/
structure DividesSafely (checked : ForwardSurface) : Prop where
  enlarged : 1 ≤ checked.committed.bufferScale.toInt
  unsigned : (checked.committed.bufferScale.toUInt32.toNat : Int) = checked.committed.bufferScale.toInt
  defined : checkCommit checked ≠ .error .divisionByZero

theorem dividesSafely_iff {checked : ForwardSurface} :
    DividesSafely checked ↔ 1 ≤ checked.committed.bufferScale.toInt := by
  refine ⟨DividesSafely.enlarged, fun enlarged => ⟨enlarged, toNat_toUInt32 (by omega), ?_⟩⟩
  have nonzero : checked.committed.bufferScale ≠ 0 := fun same => absurd (same ▸ enlarged) (by decide)
  have sized : committedSize checked ≠ .error .divisionByZero := by
    unfold committedSize
    dsimp only
    split
    · exact nofun
    split
    · split
      · split <;> exact nofun
      · exact nofun
    rw [if_neg (by simpa using nonzero)]
    split
    · exact nofun
    · split <;> exact nofun
  unfold checkCommit
  intro failed
  cases computed : committedSize checked with
  | error error =>
      rw [computed] at failed
      cases failed
      exact sized computed
  | ok verdict =>
      rw [computed] at failed
      cases verdict with
      | error error => cases failed
      | ok size =>
          change (if _ then _ else _) = _ at failed
          split at failed <;> cases failed

theorem commit_dividesSafely_iff {scene : Scene} {id : SurfaceId} {surface checked : ForwardSurface}
    (present : scene.forwardSurfaces.cell id = some surface) (evaluates : checkedSurface scene id = .ok (some checked)) :
    DividesSafely checked ↔ 1 ≤ surface.pending.bufferScale.toInt := by
  obtain ⟨old, middle, current, output, record, applied, checks⟩ := checkedSurface_checks evaluates
  cases present.symm.trans checks.before
  have scale : checked.committed.bufferScale = surface.pending.bufferScale :=
    congrArg Extent.scale checks.checked_eq.1
  rw [dividesSafely_iff, scale]

/-- While plugins ask for scales that are not below one, every size check divides safely. -/
theorem size_checks_divide_safely {state : SwaylockState}
    (reachable : (swaylock.machine.guarded scalesUp).Reachable state) {id : SurfaceId} {checked : ForwardSurface}
    (evaluates : checkedSurface state.scene id = .ok (some checked)) : DividesSafely checked := by
  have limited : Limited scaleLimits state.scene := by
    have base : 1 ≤ (1 : Int32).toInt := by decide
    refine Limited.of_reachable ⟨base, trivial, trivial, trivial⟩ (fun state occurrence meets client request is => ?_)
      reachable
    obtain ⟨event, env⟩ := occurrence
    cases is
    cases request with
    | surface id call =>
        cases call with
        | setBufferScale scale =>
            have enlarged : 1 ≤ scale.toInt := of_decide_eq_true meets
            exact enlarged
        | _ => trivial
    | object id call =>
        cases call with
        | setSource | setDestination => exact fun _ => trivial
        | _ => trivial
    | _ => trivial
  obtain ⟨surface, _, _, _, _, _, checks⟩ := checkedSurface_checks evaluates
  exact (commit_dividesSafely_iff checks.before evaluates).mpr (limited.surfaces id surface checks.before).1.scale

/-- A plugin that draws at scale two has a size check that divides safely. -/
theorem size_checks_divide_safely_twice : ∃ (state : SwaylockState) (checked : ForwardSurface),
    checkedSurface state.scene 0 = .ok (some checked) ∧ DividesSafely checked := by
  obtain ⟨state, reachable, passed⟩ := swaylock.play_guarded scalesUp
    ((presentingEvents ++ [Event.scene (.request 0 (.surface 0 (.setBufferScale 2)))]).map Event.obliged)
    (fun state => evaluatesCheck state.scene 0 fun _ => true)
    (startState_initial _ _ _) (by decide +kernel : ((swaylock.guarded _).play defaultState _).any _ = true)
  obtain ⟨surface, checked, _, _, evaluates⟩ := evaluatesCheck_some passed
  exact ⟨state, checked, evaluates, size_checks_divide_safely reachable evaluates⟩

/-- A plugin that asks for scale zero lets the size check divide by zero. -/
theorem zero_scale_checked : ¬ ∀ state : SwaylockState, swaylock.machine.Reachable state →
    ∀ id checked, checkedSurface state.scene id = .ok (some checked) → DividesSafely checked := by
  intro claim
  obtain ⟨state, reachable, passed⟩ := swaylock.play_reachable
    ((presentingEvents ++ [Event.scene (.request 0 (.surface 0 (.setBufferScale 0)))]).map Event.obliged)
    (fun state => evaluatesCheck state.scene 0 fun surface => surface.pending.bufferScale == 0)
    (startState_initial _ _ _) (by decide +kernel : (swaylock.play defaultState _).any _ = true)
  obtain ⟨surface, checked, present, zero, evaluates⟩ := evaluatesCheck_some passed
  have enlarged := (commit_dividesSafely_iff present evaluates).mp (claim state reachable 0 checked evaluates)
  rw [beq_iff_eq.mp zero] at enlarged
  exact absurd enlarged (by decide)

end Scales

end SwaylockPlugin
