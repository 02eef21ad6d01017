import SwaylockPlugin.Proof.Assertions
import SwaylockPlugin.Proof.Partners
import SwaylockPlugin.Proof.Tree

namespace SwaylockPlugin

open Library

/-- A surface keeps its client and its layer surface, and it gets neither an output nor a parent. -/
structure ForwardSurface.Sheds (before after : ForwardSurface) : Prop where
  client : after.client = before.client
  layer : after.layerSurface = before.layerSurface
  output : after.swaySurface = before.swaySurface ∨ after.swaySurface = none
  parent : after.subsurfaceParent = before.subsurfaceParent ∨ after.subsurfaceParent = none

namespace ForwardSurface.Sheds

variable {one two three : ForwardSurface}

theorem refl (surface : ForwardSurface) : surface.Sheds surface := ⟨rfl, rfl, .inl rfl, .inl rfl⟩

theorem trans (first : one.Sheds two) (second : two.Sheds three) : one.Sheds three where
  client := second.client.trans first.client
  layer := second.layer.trans first.layer
  output := second.output.elim (fun same => same ▸ first.output) .inr
  parent := second.parent.elim (fun same => same ▸ first.parent) .inr

end ForwardSurface.Sheds

/-- The connection and the roles of a surface. -/
def ForwardSurface.place (surface : ForwardSurface) :
    WlClientId × Option ResourceId × Option OutputId × Option SurfaceId :=
  (surface.client, surface.layerSurface, surface.swaySurface, surface.subsurfaceParent)

theorem SurfaceGroup.mask_place (group : SurfaceGroup) (assigned : group ≠ .assigned) (tree : group ≠ .tree)
    (surface : ForwardSurface) : (group.mask surface).place = surface.place := by
  cases group <;> first | rfl | exact absurd rfl assigned | exact absurd rfl tree

/-- Every surface is new without a role or kept no more than its roles. -/
def ShedsRoles (first second : Scene) : Prop :=
  ∀ id after, second.forwardSurfaces.cell id = some after →
    after.swaySurface = none ∧ after.subsurfaceParent = none ∨
      ∃ before, first.forwardSurfaces.cell id = some before ∧ before.Sheds after

namespace ShedsRoles

variable {first second third scene : Scene}

theorem same (surfaces : second.forwardSurfaces = first.forwardSurfaces) : ShedsRoles first second :=
  fun _ after present => .inr ⟨after, surfaces ▸ present, .refl after⟩

theorem trans (one : ShedsRoles first second) (two : ShedsRoles second third) : ShedsRoles first third := by
  intro id after present
  rcases two id after present with fresh | ⟨middle, there, late⟩
  · exact .inl fresh
  · rcases one id middle there with ⟨output, parent⟩ | ⟨before, start, early⟩
    · refine .inl ⟨?_, ?_⟩
      · rcases late.output with same | gone
        · exact same.trans output
        · exact gone
      · rcases late.parent with same | gone
        · exact same.trans parent
        · exact gone
    · exact .inr ⟨before, start, early.trans late⟩

theorem setForward (scene : Scene) (id : SurfaceId) {change : ForwardSurface → ForwardSurface}
    (sheds : ∀ surface, ForwardSurface.Sheds surface (change surface)) :
    ShedsRoles scene (scene.setForward id change) := by
  intro other after present
  obtain ⟨before, there, ⟨_, rfl⟩ | ⟨_, rfl⟩⟩ := scene.forwardSurfaces.old_of_modify present
  · exact .inr ⟨before, there, sheds before⟩
  · exact .inr ⟨after, there, .refl after⟩

theorem of_changes {effects : List Effect} (changes : Changes effects first second)
    (apart : ∀ effect ∈ effects, effect ∉ [Effect.surface .assigned, .surface .tree]) :
    ShedsRoles first second := by
  intro id after present
  have seen (group : SurfaceGroup) (listed : Effect.surface group ∈ effects) (surface : ForwardSurface) :
      (group.mask surface).place = surface.place := by
    refine group.mask_place ?_ ?_ surface <;> rintro rfl <;> exact apart _ listed (by simp)
  rcases changes.viewed ForwardSurface.place seen present with ⟨client, version, fresh⟩ | ⟨before, there, same⟩
  · exact .inl ⟨congrArg (·.2.2.1) fresh, congrArg (·.2.2.2) fresh⟩
  · exact .inr ⟨before, there, congrArg (·.1) same, congrArg (·.2.1) same, .inl (congrArg (·.2.2.1) same),
      .inl (congrArg (·.2.2.2) same)⟩

theorem andThen {rest : Handled Scene} (start : ShedsRoles first second) (after : Ensures rest (ShedsRoles second)) :
    Ensures rest (ShedsRoles first) :=
  after.weaken fun _ kept => start.trans kept

theorem of_aside (aside : Aside first second) : ShedsRoles first second := by
  intro id after present
  obtain ⟨before, there, layer, kept⟩ := aside.roles id after present
  have same := aside.forward id
  rw [present, there, Option.map_some, Option.map_some, Option.some.injEq] at same
  have client := congrArg ForwardSurface.client same
  have parent := congrArg ForwardSurface.subsurfaceParent same
  exact .inr ⟨before, there, client, layer, kept.imp (·.1) (·.1), .inl parent⟩

theorem unlinked {change : ForwardSurface → ForwardSurface}
    (sheds : ∀ surface, ForwardSurface.Sheds surface (change surface)) (link : Option SurfaceId) :
    Ensures (unlinkEntry scene change link) (ShedsRoles scene) := by
  cases link with
  | none => exact .pure (same rfl)
  | some owner => exact .read fun _ _ => .pure (setForward scene owner sheds)

theorem parted (id : SurfaceId) : Ensures (destroySubsurfaceParts scene id) (ShedsRoles scene) := by
  apply Ensures.read
  intro surface _
  have told : ShedsRoles scene (if surface.extSubsurface then scene.tell (.subsurface id .destroy) else scene) := by
    split <;> exact same rfl
  have cleared : ShedsRoles scene
      ((if surface.extSubsurface then scene.tell (.subsurface id .destroy) else scene).setForward id
        fun surface => { surface with extSubsurface := false, extSurface := .none }) :=
    told.trans (setForward _ id fun _ => ⟨rfl, rfl, .inl rfl, .inl rfl⟩)
  refine .via (ShedsRoles scene) ?_ fun pending shed => ?_
  · refine cleared.andThen (unlinked ?_ _)
    exact fun _ => ⟨rfl, rfl, .inl rfl, .inl rfl⟩
  refine .via (ShedsRoles scene) ?_ fun committed shed => ?_
  · refine shed.andThen (unlinked ?_ _)
    exact fun _ => ⟨rfl, rfl, .inl rfl, .inl rfl⟩
  exact .pure (shed.trans (setForward committed id fun _ => ⟨rfl, rfl, .inl rfl, .inr rfl⟩))

theorem destroyed (owned : Owned) : Ensures (destroyOwned scene owned) (ShedsRoles scene) := by
  intro last ended
  cases destroyOwned_cases owned last ended with
  | @surface id _ handled =>
      obtain ⟨surface, hidden, released, detached, undescribed, cleared, parted_, destroys⟩ :=
        surfaceHandleResourceDestroy_parts id last handled
      have left : ShedsRoles scene undescribed := of_changes destroys.leaves (by simp)
      have objects : ShedsRoles undescribed cleared := of_changes destroys.clears (by simp)
      have tree : ShedsRoles cleared parted_ := parted id parted_ destroys.tree
      exact ((left.trans objects).trans tree).trans (of_changes destroys.frees (by simp))
  | buffer handled => exact of_changes (bufferHandleResourceDestroy_changes _ _ handled) (by simp)
  | imageDesc changes => exact of_changes changes (by simp)
  | parted handled => exact (parted _ _ handled).trans (same rfl)
  | resource changes => exact (of_changes changes (by simp)).trans (same rfl)

theorem emptied {env : Environment} (emptied : Emptied env first second) : ShedsRoles first second := by
  obtain ⟨before, after, early, computed, late⟩ := emptied
  have shed : ShedsRoles before after :=
    Ensures.foldlM (fun _ => same rfl) trans (fun _ item => destroyed item) env.owned before after computed
  exact ((of_aside early).trans shed).trans (of_aside late)

end ShedsRoles

/-- A layer surface request names no output or an output that the plugin has a resource for. -/
def namedOutput (scene : Scene) (client : WlClientId) : Option ResourceId → Option (Option OutputId)
  | none => some none
  | some resource =>
      match ownedRole scene client resource with
      | some (.output output) => some (some output)
      | _ => none

/-- A layer surface request is for the output that it names or for the own output of the plugin. -/
def layerSurfaceOutput (scene : Scene) (client : WlClientId) (resource : Option ResourceId) : Option OutputId :=
  (namedOutput scene client resource).bind (layerOutput scene client)

/-- A surface alone takes the layer role on an output that the plugin serves. -/
structure Links (client : WlClientId) (id : SurfaceId) (output : OutputId) (first second : Scene) : Prop where
  served : ∃ target bg record, first.outputs.cell output = some target ∧ target.pluginSurface = none ∧
    clientForSurface first target = some bg ∧ first.bgClients.cell bg = some record ∧ record.client = client
  free : ∃ surface, first.forwardSurfaces.cell id = some surface ∧ surface.swaySurface = none
  others : ∀ other after, other ≠ id → second.forwardSurfaces.cell other = some after →
    ∃ before, first.forwardSurfaces.cell other = some before ∧ before.Sheds after
  own : ∀ after, second.forwardSurfaces.cell id = some after → ∃ before,
    first.forwardSurfaces.cell id = some before ∧ after.client = before.client ∧
    after.subsurfaceParent = before.subsurfaceParent ∧ after.swaySurface = some output ∧
    after.layerSurface.isSome = true

/-- A surface alone becomes a subsurface. -/
structure Hangs (child : SurfaceId) (first second : Scene) : Prop where
  free : ∃ surface, first.forwardSurfaces.cell child = some surface ∧ surface.layerSurface = none
  others : ∀ other after, other ≠ child → second.forwardSurfaces.cell other = some after →
    ∃ before, first.forwardSurfaces.cell other = some before ∧ before.Sheds after
  own : ∀ after, second.forwardSurfaces.cell child = some after → ∃ before,
    first.forwardSurfaces.cell child = some before ∧ after.client = before.client ∧
    after.layerSurface = before.layerSurface ∧ after.swaySurface = before.swaySurface

theorem Links.of_same {client : WlClientId} {id : SurfaceId} {output : OutputId} {first second third : Scene}
    (links : Links client id output first second) (same : third.forwardSurfaces = second.forwardSurfaces) :
    Links client id output first third where
  served := links.served
  free := links.free
  others other after apart present := links.others other after apart (same ▸ present)
  own after present := links.own after (same ▸ present)

theorem Changes.surfaces_eq {effects : List Effect} {first second : Scene} (changes : Changes effects first second)
    (plain : ∀ effect ∈ effects, effect ∈ [Effect.plugin, .serial]) :
    second.forwardSurfaces = first.forwardSurfaces := by
  induction changes with
  | refl => rfl
  | step _ listed change ih =>
      refine Eq.trans ?_ ih
      have plain := plain _ listed
      cases change with
      | surface => simp at plain
      | sweep => simp at plain
      | createSurface => simp at plain
      | freeSurface => simp at plain
      | _ => rfl

section Requests

variable {scene : Scene} {client : WlClientId} {id : SurfaceId}

theorem linkLayerSurface_links {output : OutputId} {target : SwaylockSurface} {surface : ForwardSurface}
    (there : scene.outputs.cell output = some target) (alone : target.pluginSurface = none)
    (present : scene.forwardSurfaces.cell id = some surface) (free : surface.swaySurface = none) :
    Ensures (linkLayerSurface scene client id output) (Links client id output scene) := by
  refine .read fun shown found => .read fun bg service => .read fun record known => .check fun owner => ?_
  have same : shown = { target with pluginSurface := some id } := by
    change (scene.outputs.modify output _).cell output = _ at found
    rw [Heap.cell_modify_self, there] at found
    exact (Option.some.inj found).symm
  have service : clientForSurface scene target = some bg := by
    rw [same] at service
    exact service
  refine .via (fun taken => taken.1.forwardSurfaces = (assumeRole scene id output).forwardSurfaces) ?_ ?_
  · exact (takeSerial_changes _).weaken fun taken changes => changes.surfaces_eq (by simp)
  · intro taken kept
    have linked : (scene.forwardSurfaces.modify id fun surface => { surface with swaySurface := some output }) =
        taken.1.forwardSurfaces := kept.symm
    refine .pure ⟨⟨target, bg, record, there, alone, service, known, ?_⟩, ⟨surface, present, free⟩, ?_, ?_⟩
    · simpa using owner
    · intro other after apart shown
      change (taken.1.forwardSurfaces.modify id _).cell other = _ at shown
      rw [← linked, Heap.cell_modify_other _ _ apart, Heap.cell_modify_other _ _ apart] at shown
      exact ⟨after, shown, .refl after⟩
    · intro after shown
      change (taken.1.forwardSurfaces.modify id _).cell id = _ at shown
      rw [← linked, Heap.cell_modify_self, Heap.cell_modify_self, present] at shown
      cases shown
      exact ⟨surface, present, rfl, rfl, rfl, rfl⟩

theorem wlrLayerShellGetLayerSurface_links (named : Option OutputId) :
    Ensures (wlrLayerShellGetLayerSurface scene client id named) fun next => ShedsRoles scene next ∨
      ∃ output, layerOutput scene client named = some output ∧ Links client id output scene next := by
  unfold wlrLayerShellGetLayerSurface
  split
  · exact .pure (.inl (.same rfl))
  · rename_i output requested
    refine .read fun target there => .read fun surface present => ?_
    split
    · exact .pure (.inl (.same rfl))
    · rename_i alone
      simp only [Bool.or_eq_true, Option.isSome_iff_ne_none, ne_eq, not_or, not_not] at alone
      refine (linkLayerSurface_links there alone.1 present alone.2).bind fun linked links => ?_
      split
      · refine (announceScale_changes id _).weaken fun last told => .inr ⟨output, requested, ?_⟩
        exact links.of_same (told.surfaces_eq (by simp))
      · exact .pure (.inr ⟨output, requested, links⟩)

theorem getLayerSurface_links (resource : Option ResourceId) :
    Ensures (getLayerSurface scene client id resource) fun next => ShedsRoles scene next ∨
      ∃ output, layerSurfaceOutput scene client resource = some output ∧ Links client id output scene next := by
  cases resource with
  | none => exact wlrLayerShellGetLayerSurface_links none
  | some resource =>
      unfold getLayerSurface
      dsimp only
      split
      · rename_i output owned
        have named : namedOutput scene client (some resource) = some (some output) := by
          simp only [namedOutput, owned]
        refine (wlrLayerShellGetLayerSurface_links (some output)).weaken fun next ends => ends.imp_right ?_
        rintro ⟨screen, requested, links⟩
        refine ⟨screen, ?_, links⟩
        unfold layerSurfaceOutput
        rw [named]
        exact requested
      · exact .pure (.inl (.same rfl))

theorem subcompositorGetSubsurface_hangs (child parent : SurfaceId) :
    Ensures (subcompositorGetSubsurface scene client child parent) fun next =>
      ShedsRoles scene next ∨ Hangs child scene next := by
  refine (subcompositorGetSubsurface_parents client child parent).weaken fun next parents => ?_
  cases parents with
  | refused error => exact .inl (.same rfl)
  | @hung surface _ present unlayered =>
      refine .inr ⟨⟨surface, present, unlayered⟩, ?_, ?_⟩
      · intro other after apart shown
        obtain ⟨middle, there, ⟨_, rfl⟩ | ⟨_, rfl⟩⟩ := Heap.old_of_modify _ shown
        · have there := (Heap.cell_modify_other _ _ apart).symm.trans there
          exact ⟨middle, there, rfl, rfl, .inl rfl, .inl rfl⟩
        · have there := (Heap.cell_modify_other _ _ apart).symm.trans there
          exact ⟨after, there, .refl after⟩
      · intro after shown
        obtain ⟨middle, there, ⟨_, rfl⟩ | ⟨_, rfl⟩⟩ := Heap.old_of_modify _ shown
        all_goals
          change (scene.forwardSurfaces.modify child _).cell child = _ at there
          rw [Heap.cell_modify_self, present] at there
          cases there
          exact ⟨surface, present, rfl, rfl, rfl⟩

end Requests

/-- The roles of the surfaces change by a layer surface request, by a subsurface request or by being shed. -/
inductive RoleStep (scene : Scene) : Event → Scene → Prop
  | shed {event : Event} {next : Scene} (sheds : ShedsRoles scene next) : RoleStep scene event next
  | links {client : WlClientId} {id : SurfaceId} {resource : Option ResourceId} {output : OutputId} {next : Scene}
      (requested : layerSurfaceOutput scene client resource = some output) (owned : ownsSurface scene client id = true)
      (links : Links client id output scene next) :
      RoleStep scene (.scene (.request client (.surface id (.getLayerSurface resource)))) next
  | hangs {client : WlClientId} {child parent : SurfaceId} {next : Scene} (hangs : Hangs child scene next) :
      RoleStep scene (.scene (.request client (.surface child (.getSubsurface parent)))) next

theorem handleRequest_roleStep {scene : Scene} (client : WlClientId) (request : Request) :
    Ensures (handleRequest scene client request) (RoleStep scene (.scene (.request client request))) := by
  intro next handled
  have step := handleRequest_step client request next handled
  cases step with
  | plain changes => exact .shed (.of_changes changes (by simp))
  | bound => exact .shed (.of_changes (Allotted.bound _ client _).changes (by simp))
  | layered _ =>
      rename_i id resource _
      change (if ownsSurface scene client id then getLayerSurface scene client id resource else _) = _ at handled
      split at handled
      · rename_i owned
        rcases getLayerSurface_links resource next handled with sheds | ⟨output, requested, links⟩
        · exact .shed sheds
        · exact .links requested owned links
      · cases handled
        exact .shed (.same rfl)
  | surface version => exact .shed (.of_changes (compositorCreateSurface_changes _ client version) (by simp))
  | buffer width height => exact .shed (.same rfl)
  | attached _ _ handled => exact .shed (.of_changes (nestedSurfaceAttach_changes _ _ next handled) (by simp))
  | framed id => exact .shed (.of_changes (nestedSurfaceFrame_changes client id) (by simp))
  | committed _ handled => exact .shed (.of_changes (nestedSurfaceCommit_changes _ _ handled) (by simp))
  | parented _ _ handled => exact (subcompositorGetSubsurface_hangs _ _ next handled).elim .shed .hangs
  | extended _ extended => exact .shed (.of_changes extended.changes (by simp))
  | placedAbove _ _ handled =>
      obtain rfl | ⟨parent, change, rfl⟩ | rfl := placeSubsurface_cases client _ _ _ _ next handled
      · exact .shed (.same rfl)
      · exact .shed (.setForward scene parent fun _ => ⟨rfl, rfl, .inl rfl, .inl rfl⟩)
      · exact .shed (.same rfl)
  | placedBelow _ _ handled =>
      obtain rfl | ⟨parent, change, rfl⟩ | rfl := placeSubsurface_cases client _ _ _ _ next handled
      · exact .shed (.same rfl)
      · exact .shed (.setForward scene parent fun _ => ⟨rfl, rfl, .inl rfl, .inl rfl⟩)
      · exact .shed (.same rfl)
  | destroyed _ before handled =>
      exact .shed ((ShedsRoles.of_changes before (by simp)).trans (ShedsRoles.destroyed _ next handled))

section Steps

variable {state next : SwaylockState} {occurrence : Occurrence}

theorem roleStep_of_step (moved : swaylock.machine.step state occurrence next) :
    RoleStep state.scene occurrence.event next.scene := by
  have step := objectStep_of_step moved
  obtain ⟨event, env⟩ := occurrence
  dsimp only at step ⊢
  cases step with
  | aside changes => exact .shed (.of_aside changes)
  | emptied _ _ _ emptied => exact .shed (.emptied emptied)
  | presented handled => exact .shed (.of_changes (bgFrameHandleDone_changes env _ next.scene handled) (by simp))
  | request _ handled => exact handleRequest_roleStep _ _ next.scene handled

end Steps

/-- A surface on an output has a layer surface, and the plugin that it belongs to may have no other output. -/
structure Outfits (scene : Scene) (surface : ForwardSurface) (output : OutputId) : Prop where
  layer : surface.layerSurface.isSome = true
  known : surface.client < scene.wlClients.next
  seated : ∀ bg record, scene.bgClients.cell bg = some record → record.client = surface.client →
    record.uniqueOutput = none ∨ record.uniqueOutput = some output

/-- Every surface on an output is outfitted for it. -/
def Outfitted (scene : Scene) : Prop :=
  ∀ id surface output, scene.forwardSurfaces.cell id = some surface → surface.swaySurface = some output →
    Outfits scene surface output

section Outfitted

theorem PlaceGuard.serves {scene : Scene} (guard : PlaceGuard none scene) {output : OutputId} {target : SwaylockSurface}
    {bg : BgClientId} {record : SwaylockBgClient} (there : scene.outputs.cell output = some target)
    (service : clientForSurface scene target = some bg) (known : scene.bgClients.cell bg = some record) :
    record.uniqueOutput = none ∨ record.uniqueOutput = some output := by
  have seat (place : Option OutputId) (named : scene.place place = some bg) : record.uniqueOutput = place := by
    obtain ⟨entry, found, unique⟩ := guard.placing place bg named
    cases known.symm.trans found
    exact unique
  unfold clientForSurface at service
  cases client : target.client with
  | none =>
      rw [client] at service
      exact .inl (seat none service)
  | some own =>
      rw [client] at service
      refine .inr (seat (some output) ?_)
      change (scene.outputs.cell output).bind _ = _
      rw [there]
      exact client.trans service

variable {first second : Scene} {before after : ForwardSurface} {output : OutputId}

theorem Outfits.kept (outfits : Outfits first before output) (hires : Hires first second)
    (client : after.client = before.client) (layer : after.layerSurface = before.layerSurface) :
    Outfits second after output where
  layer := layer ▸ outfits.layer
  known := client ▸ Nat.lt_of_lt_of_le outfits.known hires.connections
  seated bg record found shared := by
    rcases hires.records bg record found with ⟨old, known, seat⟩ | fresh
    · have owner : old.client = record.client := congrArg Prod.fst seat
      have unique : old.uniqueOutput = record.uniqueOutput := congrArg Prod.snd seat
      exact unique ▸ outfits.seated bg old known ((owner.trans shared).trans client)
    · exact absurd (client ▸ shared ▸ fresh) (Nat.not_le_of_lt outfits.known)

theorem Outfitted.sheds (outfitted : Outfitted first) (hires : Hires first second) {id : SurfaceId}
    (there : first.forwardSurfaces.cell id = some before) (sheds : before.Sheds after)
    (role : after.swaySurface = some output) : Outfits second after output := by
  rcases sheds.output with same | gone
  · exact (outfitted id before output there (same.symm.trans role)).kept hires sheds.client sheds.layer
  · cases gone.symm.trans role

theorem Links.outfits {client : WlClientId} {id : SurfaceId} (links : Links client id output first second)
    (guard : PlaceGuard none first) (hires : Hires first second) (owned : ownsSurface first client id = true)
    (present : second.forwardSurfaces.cell id = some after) : Outfits second after output := by
  obtain ⟨target, bg, record, there, _, service, known, owner⟩ := links.served
  obtain ⟨before, found, kept, _, _, layer⟩ := links.own after present
  obtain ⟨surface, shown, owns⟩ := (Option.any_eq_true _ _).mp owned
  cases found.symm.trans shown
  have client : after.client = record.client := (kept.trans (eq_of_beq owns)).trans owner.symm
  refine ⟨layer, ?_, fun other entry placed shared => ?_⟩
  · exact client ▸ Nat.lt_of_lt_of_le (guard.below bg record known) hires.connections
  · rcases hires.records other entry placed with ⟨old, stood, seat⟩ | fresh
    · have same : old.client = entry.client := congrArg Prod.fst seat
      have unique : old.uniqueOutput = entry.uniqueOutput := congrArg Prod.snd seat
      cases guard.apart other bg old record stood known ((same.trans shared).trans client)
      cases known.symm.trans stood
      exact unique ▸ guard.serves there service known
    · have below := guard.below bg record known
      exact absurd (client ▸ shared ▸ fresh) (Nat.not_le_of_lt below)

theorem Outfitted.step {event : Event} (outfitted : Outfitted first) (guard : PlaceGuard none first)
    (hires : Hires first second) (step : RoleStep first event second) : Outfitted second := by
  intro id after output present role
  cases step with
  | shed sheds =>
      rcases sheds id after present with ⟨free, _⟩ | ⟨before, there, sheds⟩
      · cases free.symm.trans role
      · exact outfitted.sheds hires there sheds role
  | @links client target resource screen _ requested owned links =>
      by_cases same : id = target
      · subst same
        obtain ⟨_, _, _, _, on, _⟩ := links.own after present
        cases on.symm.trans role
        exact links.outfits guard hires owned present
      · obtain ⟨before, there, sheds⟩ := links.others id after same present
        exact outfitted.sheds hires there sheds role
  | @hangs _ child _ _ hangs =>
      by_cases same : id = child
      · subst same
        obtain ⟨before, there, client, layer, on⟩ := hangs.own after present
        exact (outfitted id before output there (on.symm.trans role)).kept hires client layer
      · obtain ⟨before, there, sheds⟩ := hangs.others id after same present
        exact outfitted.sheds hires there sheds role

end Outfitted

theorem outfitted_of_reachable {state : SwaylockState} (reachable : swaylock.machine.Reachable state) :
    Outfitted state.scene := by
  refine reachable.invariant_under (fun state => PlaceGuard none state.scene) (fun state => Outfitted state.scene)
    (fun _ before => placeGuard_of_reachable before) (fun start initial id surface output present => ?_) ?_
  · rw [initial.surfaces.1] at present
    cases present
  · intro _ _ _ guard outfitted moved
    exact outfitted.step guard (.step (moved_of_step moved)) (roleStep_of_step moved)

end SwaylockPlugin
