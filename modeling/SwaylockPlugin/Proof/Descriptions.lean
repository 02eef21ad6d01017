import SwaylockPlugin.Library.Listing
import SwaylockPlugin.Proof.Sharing

namespace SwaylockPlugin.Color

open Library

/-- A list of each plugin's description holds exactly the surfaces that name the description, each once. -/
def Linked (descs : Heap ForwardDesc) (list : ForwardDesc → List SurfaceId) (named : SurfaceId → Option DescId) : Prop :=
  ∀ desc id, (descs.cell desc).elim 0 (fun record => (list record).count id) = (named id == some desc).toNat

namespace Linked

variable {descs : Heap ForwardDesc} {list : ForwardDesc → List SurfaceId} {named : SurfaceId → Option DescId}
  {id : SurfaceId} {desc : DescId}

theorem present (linked : Linked descs list named) (names : named id = some desc) :
    ∃ record, descs.cell desc = some record ∧ id ∈ list record :=
  Enlists.present linked names

theorem names (linked : Linked descs list named) {record : ForwardDesc} (found : descs.cell desc = some record)
    (listed : id ∈ list record) : named id = some desc :=
  Enlists.names linked found listed

theorem modify (linked : Linked descs list named) (target : DescId) {change : ForwardDesc → ForwardDesc}
    (same : ∀ record, list (change record) = list record) : Linked (descs.modify target change) list named :=
  Enlists.modify linked target same

theorem remove (linked : Linked descs list named) (names : named id = some desc) {change : ForwardDesc → ForwardDesc}
    (erases : ∀ record, list (change record) = (list record).erase id) :
    Linked (descs.modify desc change) list (Function.update named id none) :=
  Enlists.remove linked names erases

theorem add (linked : Linked descs list named) (free : named id = none) {record : ForwardDesc}
    (found : descs.cell desc = some record) {change : ForwardDesc → ForwardDesc}
    (adds : ∀ record, list (change record) = id :: list record) :
    Linked (descs.modify desc change) list (Function.update named id (some desc)) :=
  Enlists.add linked free found adds

theorem free (linked : Linked descs list named) {record : ForwardDesc} (found : descs.cell desc = some record)
    (empty : list record = []) : Linked (descs.free desc) list named :=
  Enlists.free linked found empty

theorem alloc (linked : Linked descs list named) {record : ForwardDesc} (empty : list record = []) :
    Linked (descs.alloc record) list named :=
  Enlists.alloc linked empty

end Linked

/-- A plugin's description is referenced while it has a resource or a surface in one of its lists. -/
def ForwardDesc.referenced (record : ForwardDesc) : Bool :=
  record.resource || !record.committedSurfaces.isEmpty || !record.pendingSurfaces.isEmpty

/-- The upstream descriptions are shared, the lists hold the surfaces that name the descriptions, and every description
of a plugin is referenced. -/
structure Held (scene : ColorScene) (pending committed : SurfaceId → Option DescId) (held : PropertiesId → Nat) :
    Prop where
  shared : Shared scene.descriptions scene.properties scene.descs held
  pendings : Linked scene.descs ForwardDesc.pendingSurfaces pending
  committeds : Linked scene.descs ForwardDesc.committedSurfaces committed
  kept : ∀ id record, scene.descs.cell id = some record → record.referenced = true

/-- A scene is trimmed when its description states are spared and its surfaces and the descriptions that have a resource
are kept. -/
structure Trims (scene next : ColorScene) : Prop where
  spares : Spares scene next
  surfaces : next.surfaces = scene.surfaces
  colorSurfaces : next.colorSurfaces = scene.colorSurfaces
  descs : ∀ id record, scene.descs.cell id = some record → record.resource = true →
    ∃ new, next.descs.cell id = some new ∧ new.resource = true

theorem Trims.rfl {scene : ColorScene} : Trims scene scene :=
  ⟨.rfl, Eq.refl _, Eq.refl _, fun _ record present has => ⟨record, present, has⟩⟩

theorem Trims.trans {first second third : ColorScene} (before : Trims first second) (after : Trims second third) :
    Trims first third := by
  refine ⟨before.spares.trans after.spares, after.surfaces.trans before.surfaces,
    after.colorSurfaces.trans before.colorSurfaces, fun id record present has => ?_⟩
  obtain ⟨middle, between, still⟩ := before.descs id record present has
  exact after.descs id middle between still

theorem Trims.setDesc {scene : ColorScene} (target : DescId) {change : ForwardDesc → ForwardDesc}
    (same : ∀ record, (change record).resource = record.resource) : Trims scene (scene.setDesc target change) := by
  refine ⟨Spares.rfl.elsewhere _ _ _, Eq.refl _, Eq.refl _, fun id record present has => ?_⟩
  by_cases here : id = target
  · subst here
    refine ⟨change record, ?_, (same record).trans has⟩
    exact (scene.descs.cell_modify_self id change).trans (congrArg (Option.map change) present)
  · exact ⟨record, (scene.descs.cell_modify_other change here).trans present, has⟩

variable {fatal : Halt} {scene : ColorScene} {pending committed : SurfaceId → Option DescId}
  {held : PropertiesId → Nat}

theorem deleteImageDescIfUnreferenced_delivers {id : DescId} {record : ForwardDesc}
    (present : scene.descs.cell id = some record)
    (shared : Shared scene.descriptions scene.properties scene.descs held)
    (pendings : Linked scene.descs ForwardDesc.pendingSurfaces pending)
    (committeds : Linked scene.descs ForwardDesc.committedSurfaces committed)
    (kept : ∀ other, other ≠ id → ∀ record, scene.descs.cell other = some record → record.referenced = true) :
    Delivers fatal (deleteImageDescIfUnreferenced scene id) fun next =>
      Held next pending committed held ∧ Trims scene next := by
  refine .read present ?_
  split
  · rename_i referenced
    refine .pure ⟨⟨shared, pendings, committeds, fun other found there => ?_⟩, .rfl⟩
    by_cases here : other = id
    · subst here
      rw [present] at there
      cases there
      exact referenced
    · exact kept other here found there
  · rename_i unreferenced
    simp only [Bool.or_eq_true, Bool.not_eq_true', not_or, Bool.not_eq_true, Bool.not_eq_false, List.isEmpty_iff]
      at unreferenced
    obtain ⟨⟨resource, noneCommitted⟩, nonePending⟩ := unreferenced
    refine (releaseDescription_delivers present shared).bind ?_
    rintro _ ⟨sharedAfter, spares, descriptions, properties, rfl⟩
    refine .pure ⟨⟨sharedAfter, pendings.free present nonePending, committeds.free present noneCommitted, ?_⟩,
      ⟨⟨rfl, rfl, spares.later, spares.listens, spares.properties⟩, rfl, rfl, ?_⟩⟩
    · intro other found there
      by_cases here : other = id
      · rw [here, Heap.cell_free_self] at there
        cases there
      · exact kept other here found (scene.descs.old_of_free there)
    · intro other found there has
      have here : other ≠ id := by
        rintro rfl
        rw [present] at there
        cases there
        exact absurd (has.symm.trans resource) (by decide)
      exact ⟨found, (scene.descs.cell_free_other here).trans there, has⟩

theorem unlinkDesc_delivers {desc : DescId} {record : ForwardDesc} {remove : ForwardDesc → ForwardDesc}
    {pendingAfter committedAfter : SurfaceId → Option DescId} (holds : Held scene pending committed held)
    (found : scene.descs.cell desc = some record)
    (same : ∀ record, remove record = { record with
      pendingSurfaces := (remove record).pendingSurfaces, committedSurfaces := (remove record).committedSurfaces })
    (pendings : Linked (scene.descs.modify desc remove) ForwardDesc.pendingSurfaces pendingAfter)
    (committeds : Linked (scene.descs.modify desc remove) ForwardDesc.committedSurfaces committedAfter) :
    Delivers fatal (unlinkDesc scene remove (some desc)) fun next =>
      Held next pendingAfter committedAfter held ∧ Trims scene next := by
  have shared : Shared scene.descriptions scene.properties (scene.descs.modify desc remove) held :=
    holds.shared.modify_desc desc (fun record => by rw [same record]) fun record => by rw [same record]
  have trimmed : Trims scene (scene.setDesc desc remove) :=
    .setDesc desc fun record => by rw [same record]
  refine .read found (Delivers.weaken (deleteImageDescIfUnreferenced_delivers
    ((Heap.cell_modify_self _ _ _).trans (congrArg _ found)) shared pendings committeds ?_) ?_)
  · intro other here record there
    exact holds.kept other record ((Heap.cell_modify_other _ _ here).symm.trans there)
  · exact fun next after => ⟨after.1, trimmed.trans after.2⟩

theorem dropPendingDesc_delivers {id : SurfaceId} {surface : ForwardColor} (holds : Held scene pending committed held)
    (names : pending id = surface.pendingDesc) :
    Delivers fatal (dropPendingDesc scene id surface) fun next =>
      Held next (Function.update pending id none) committed held ∧ Trims scene next := by
  unfold dropPendingDesc
  cases named : surface.pendingDesc with
  | none =>
      refine .pure ⟨?_, .rfl⟩
      rw [Function.update_eq_self_iff.mpr (names.trans named).symm]
      exact holds
  | some desc =>
      obtain ⟨record, found, _⟩ := holds.pendings.present (names.trans named)
      exact unlinkDesc_delivers holds found (fun _ => rfl) (holds.pendings.remove (names.trans named) fun _ => rfl)
        (holds.committeds.modify desc fun _ => rfl)

theorem dropCommittedDesc_delivers {id : SurfaceId} {surface : ForwardColor} (holds : Held scene pending committed held)
    (names : committed id = surface.committedDesc) :
    Delivers fatal (dropCommittedDesc scene id surface) fun next =>
      Held next pending (Function.update committed id none) held ∧ Trims scene next := by
  unfold dropCommittedDesc
  cases named : surface.committedDesc with
  | none =>
      refine .pure ⟨?_, .rfl⟩
      rw [Function.update_eq_self_iff.mpr (names.trans named).symm]
      exact holds
  | some desc =>
      obtain ⟨record, found, _⟩ := holds.committeds.present (names.trans named)
      exact unlinkDesc_delivers holds found (fun _ => rfl) (holds.pendings.modify desc fun _ => rfl)
        (holds.committeds.remove (names.trans named) fun _ => rfl)

end SwaylockPlugin.Color
