import SwaylockPlugin.Proof.Callbacks
import SwaylockPlugin.Proof.SurfaceRoles

namespace SwaylockPlugin

open Library

/-- No surface has both an output and a parent. -/
def RolesApart (scene : Scene) : Prop :=
  ∀ id surface, scene.forwardSurfaces.cell id = some surface →
    surface.swaySurface = none ∨ surface.subsurfaceParent = none

/-- A layer surface asks for a parent, or a subsurface asks for a layer surface on a live output. -/
def asksOther (scene : Scene) (client : WlClientId) (id : SurfaceId) : SurfaceCall → Bool
  | .getSubsurface _ => (scene.forwardSurfaces.cell id).any fun surface =>
      surface.layerSurface.isSome || surface.swaySurface.isSome
  | .getLayerSurface resource => (scene.forwardSurfaces.cell id).any (fun surface => surface.subsurfaceParent.isSome) &&
      ((layerSurfaceOutput scene client resource).bind scene.outputs.cell).isSome
  | _ => false

/-- A subsurface without an output asks for a layer surface on an output without a plugin surface. -/
def linksChild (scene : Scene) (client : WlClientId) (id : SurfaceId) : SurfaceCall → Bool
  | .getLayerSurface resource => (scene.forwardSurfaces.cell id).any (fun surface =>
      surface.subsurfaceParent.isSome && surface.swaySurface.isNone) &&
      ((layerSurfaceOutput scene client resource).bind scene.outputs.cell).any fun output => output.pluginSurface.isNone
  | _ => false

/-- A request is answered with a protocol error and does nothing else. -/
def Rejects (scene : Scene) (client : WlClientId) (id : SurfaceId) (call : SurfaceCall) : Prop :=
  ∃ error, handleSurface scene client id call = .ok (scene.postError client error)

/-- No subsurface becomes the plugin surface of an output. -/
def linksNoChild (state : SwaylockState) (occurrence : Occurrence) : Bool :=
  match occurrence.event with
  | .scene (.request client (.surface id call)) => !linksChild state.scene client id call
  | _ => true

section Requests

variable {scene : Scene} {client : WlClientId} {id : SurfaceId} {surface : ForwardSurface}

theorem getLayerSurface_eq {resource : Option ResourceId} {output : OutputId} {target : SwaylockSurface}
    (requested : layerSurfaceOutput scene client resource = some output)
    (there : scene.outputs.cell output = some target) (present : scene.forwardSurfaces.cell id = some surface) :
    getLayerSurface scene client id resource =
      if target.pluginSurface.isSome || surface.swaySurface.isSome then .ok (scene.postError client .implementation)
      else do
        let linked ← linkLayerSurface scene client id output
        if surface.fractionalScale.isSome then announceScale linked id (some output) else return linked := by
  have shell (named : Option OutputId) (found : layerOutput scene client named = some output) :
      wlrLayerShellGetLayerSurface scene client id named =
        if target.pluginSurface.isSome || surface.swaySurface.isSome then .ok (scene.postError client .implementation)
        else do
          let linked ← linkLayerSurface scene client id output
          if surface.fractionalScale.isSome then announceScale linked id (some output) else return linked := by
    unfold wlrLayerShellGetLayerSurface Scene.output Scene.forward
    rw [found]
    dsimp only
    rw [there, present]
    rfl
  obtain ⟨named, owned, found⟩ := Option.bind_eq_some_iff.mp requested
  cases resource with
  | none =>
      cases owned
      exact shell none found
  | some resource =>
      have shown : ∃ screen, ownedRole scene client resource = some (.output screen) ∧ named = some screen := by
        unfold namedOutput at owned
        dsimp only at owned
        split at owned
        · rename_i screen role
          exact ⟨screen, role, (Option.some.inj owned).symm⟩
        · cases owned
      obtain ⟨screen, role, rfl⟩ := shown
      unfold getLayerSurface
      dsimp only
      rw [role]
      exact shell (some screen) found

theorem getLayerSurface_rejects {resource : Option ResourceId} (present : scene.forwardSurfaces.cell id = some surface)
    (asks : asksOther scene client id (.getLayerSurface resource) = true) :
    Rejects scene client id (.getLayerSurface resource) ↔
      linksChild scene client id (.getLayerSurface resource) = false := by
  unfold asksOther at asks
  unfold linksChild
  dsimp only at asks ⊢
  rw [present] at asks ⊢
  obtain ⟨child, live⟩ := Bool.and_eq_true_iff.mp asks
  obtain ⟨target, found⟩ := Option.isSome_iff_exists.mp live
  obtain ⟨output, requested, there⟩ := Option.bind_eq_some_iff.mp found
  have child : surface.subsurfaceParent.isSome = true := child
  rw [found, Option.any_some, Option.any_some, child, Bool.true_and]
  change (∃ error, getLayerSurface scene client id resource = _) ↔ _
  rw [getLayerSurface_eq requested there present]
  split
  · rename_i taken
    refine iff_of_true ⟨.implementation, rfl⟩ ?_
    rcases (Bool.or_eq_true _ _).mp taken with partner | on
    · rw [Option.isNone_eq_false_iff.mpr partner, Bool.and_false]
    · rw [Option.isNone_eq_false_iff.mpr on, Bool.false_and]
  · rename_i alone
    simp only [Bool.or_eq_true, Option.isSome_iff_ne_none, ne_eq, not_or, not_not] at alone
    rw [alone.1, alone.2]
    refine iff_of_false ?_ nofun
    rintro ⟨error, computed⟩
    obtain ⟨linked, linking, computed⟩ := bind_ok.mp computed
    have links := linkLayerSurface_links there alone.1 present alone.2 linked linking
    have kept : (scene.postError client error).forwardSurfaces = linked.forwardSurfaces := by
      split at computed
      · exact (announceScale_changes id _ _ computed).surfaces_eq (by simp)
      · cases computed
        rfl
    have still : linked.forwardSurfaces.cell id = some surface := by
      rw [← kept]
      exact present
    obtain ⟨_, _, _, _, on, _⟩ := links.own surface still
    cases alone.2.symm.trans on

theorem getSubsurface_rejects {parent : SurfaceId} (present : scene.forwardSurfaces.cell id = some surface)
    (layered : surface.layerSurface.isSome = true) : Rejects scene client id (.getSubsurface parent) := by
  by_cases owned : ownsSurface scene client parent = true
  · refine ⟨.badSurface, ?_⟩
    change (if ownsSurface scene client parent then subcompositorGetSubsurface scene client id parent else _) = _
    rw [if_pos owned]
    unfold subcompositorGetSubsurface Scene.forward
    rw [present]
    change (if surface.layerSurface.isSome || surface.subsurfaceParent.isSome then _ else _) = _
    rw [layered]
    rfl
  · refine ⟨.invalidObject, ?_⟩
    change (if ownsSurface scene client parent then _ else Except.ok (invalidObject scene client)) = _
    rw [if_neg owned]
    rfl

end Requests

section Runs

variable {state next : SwaylockState} {occurrence : Occurrence}

theorem RolesApart.step (apart : RolesApart state.scene) (outfitted : Outfitted state.scene)
    (moved : swaylock.machine.step state occurrence next) (meets : linksNoChild state occurrence = true) :
    RolesApart next.scene := by
  have step := roleStep_of_step moved
  obtain ⟨event, env⟩ := occurrence
  dsimp only at step
  have shed {id : SurfaceId} {before after : ForwardSurface} (there : state.scene.forwardSurfaces.cell id = some before)
      (sheds : before.Sheds after) : after.swaySurface = none ∨ after.subsurfaceParent = none := by
    rcases apart id before there with free | root
    · exact .inl (sheds.output.elim (fun same => same.trans free) fun gone => gone)
    · exact .inr (sheds.parent.elim (fun same => same.trans root) fun gone => gone)
  intro id after present
  cases step with
  | shed sheds =>
      rcases sheds id after present with ⟨free, _⟩ | ⟨before, there, sheds⟩
      · exact .inl free
      · exact shed there sheds
  | @links client target resource output _ requested owned links =>
      by_cases same : id = target
      · subst same
        obtain ⟨before, there, _, kept, _, _⟩ := links.own after present
        obtain ⟨surface, found, free⟩ := links.free
        cases there.symm.trans found
        obtain ⟨screen, _, _, live, alone, _⟩ := links.served
        refine .inr (kept.trans ?_)
        have chosen : (layerSurfaceOutput state.scene client resource).bind state.scene.outputs.cell = some screen := by
          rw [requested]
          exact live
        have meets : (!linksChild state.scene client id (.getLayerSurface resource)) = true := meets
        unfold linksChild at meets
        dsimp only at meets
        rw [there, chosen, Option.any_some, Option.any_some, free, alone] at meets
        simpa using meets
      · obtain ⟨before, there, sheds⟩ := links.others id after same present
        exact shed there sheds
  | @hangs _ child _ _ hangs =>
      by_cases same : id = child
      · subst same
        obtain ⟨before, there, _, _, on⟩ := hangs.own after present
        obtain ⟨surface, found, bare⟩ := hangs.free
        cases there.symm.trans found
        refine .inl (on.trans ?_)
        cases role : before.swaySurface with
        | none => rfl
        | some output =>
            have layered := (outfitted id before output there role).layer
            rw [bare] at layered
            cases layered
      · obtain ⟨before, there, sheds⟩ := hangs.others id after same present
        exact shed there sheds

/-- In every run that makes no subsurface the plugin surface of an output the roles stay apart. -/
theorem rolesApart_of_reachable (reachable : (swaylock.machine.guarded linksNoChild).Reachable state) :
    RolesApart state.scene := by
  refine reachable.invariant_under (fun state => Outfitted state.scene) (fun state => RolesApart state.scene)
    (fun _ before => outfitted_of_reachable before.of_restrict) (fun start initial id surface present => ?_)
    fun _ _ _ outfitted apart moved => apart.step outfitted moved.1 moved.2
  rw [initial.surfaces.1] at present
  cases present

end Runs

/-- While no subsurface becomes the plugin surface of an output, no surface has an output and a parent, and in every
reachable state exactly such a request for a second role is not rejected. -/
theorem roles_stay_apart (state : SwaylockState) :
    ((swaylock.machine.guarded linksNoChild).Reachable state → RolesApart state.scene) ∧
      (swaylock.machine.Reachable state → ∀ client id call, ownsSurface state.scene client id = true →
        asksOther state.scene client id call = true →
          (Rejects state.scene client id call ↔ linksChild state.scene client id call = false)) := by
  refine ⟨fun reachable => rolesApart_of_reachable reachable, ?_⟩
  intro reachable client id call owned asks
  obtain ⟨surface, present, _⟩ := (Option.any_eq_true _ _).mp owned
  cases call with
  | getLayerSurface resource => exact getLayerSurface_rejects present asks
  | getSubsurface parent =>
      refine iff_of_true (getSubsurface_rejects present ?_) rfl
      unfold asksOther at asks
      dsimp only at asks
      rw [present, Option.any_some, Bool.or_eq_true] at asks
      rcases asks with layered | on
      · exact layered
      · obtain ⟨output, role⟩ := Option.isSome_iff_exists.mp on
        exact (outfitted_of_reachable reachable id surface output present role).layer
  | _ => cases asks

/-- A plugin makes two surfaces, and an output without a plugin surface is shown to it. -/
def pairedEvents : List Event :=
  [.scene (.outputAdded 1), .scene (.outputDone 0), .scene (.outputDescReady 0), .start, .check true,
    .scene (.configure 0 7 100 50)] ++ ([.getRegistry, .bindOutput 0, .createSurface 4, .createSurface 4] :
    List Request).map fun request => .scene (.request 0 request)

/-- A layer surface that asks for a parent is rejected, and its roles stay apart. -/
theorem roles_stay_apart_layered : ∃ state : SwaylockState, RolesApart state.scene ∧
    asksOther state.scene 0 0 (.getSubsurface 1) = true ∧ Rejects state.scene 0 0 (.getSubsurface 1) := by
  obtain ⟨state, reachable, passed⟩ := swaylock.play_guarded linksNoChild
    ((pairedEvents ++ [Event.scene (.request 0 (.surface 0 (.getLayerSurface (some 0))))]).map Event.obliged)
    (fun state => ownsSurface state.scene 0 0 && asksOther state.scene 0 0 (.getSubsurface 1))
    (startState_initial _ _ _) (by decide +kernel : ((swaylock.guarded _).play defaultState _).any _ = true)
  obtain ⟨owned, asks⟩ := Bool.and_eq_true_iff.mp passed
  refine ⟨state, (roles_stay_apart state).1 reachable, asks, ?_⟩
  exact ((roles_stay_apart state).2 reachable.of_restrict 0 0 _ owned asks).mpr rfl

/-- A subsurface that asks for a layer surface gets an output beside its parent. -/
theorem subsurface_gets_output :
    ¬ ∀ state : SwaylockState, swaylock.machine.Reachable state → RolesApart state.scene := by
  intro claim
  obtain ⟨state, reachable, passed⟩ := swaylock.play_reachable
    ((pairedEvents ++ ([.surface 0 (.getSubsurface 1), .surface 0 (.getLayerSurface (some 0))] :
      List Request).map fun request => Event.scene (.request 0 request)).map Event.obliged)
    (fun state => (state.scene.forwardSurfaces.cell 0).any fun surface =>
      surface.swaySurface.isSome && surface.subsurfaceParent.isSome)
    (startState_initial _ _ _) (by decide +kernel : (swaylock.play defaultState _).any _ = true)
  obtain ⟨surface, present, both⟩ := (Option.any_eq_true _ _).mp passed
  obtain ⟨on, child⟩ := Bool.and_eq_true_iff.mp both
  rcases claim state reachable 0 surface present with free | root
  · rw [free] at on
    cases on
  · rw [root] at child
    cases child

end SwaylockPlugin
