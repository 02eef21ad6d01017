import SwaylockPlugin.Proof.Callbacks
import SwaylockPlugin.Proof.Configures
import SwaylockPlugin.Proof.Presents
import SwaylockPlugin.Proof.SurfaceRoles

namespace SwaylockPlugin

open Library

/-- A commit sends the initial configure alone or posts a protocol error to the plugin. -/
def AnswersCommit (scene : Scene) (id : SurfaceId) (client : WlClientId) : Prop :=
  ∃ next outcome told, nestedSurfaceCommit scene id = .ok (next, outcome) ∧ next.wire = scene.wire ++ told ∧
    ((outcome = .initialConfigure ∧ ∃ serial width height, told = [.plugin (.configure id serial width height)]) ∨
      ∃ error, Message.plugin (.error client error) ∈ told)

section Commit

variable {scene : Scene} {id : SurfaceId} {surface : ForwardSurface}

theorem applyAttachment_drawn (target : Target) (present : scene.forwardSurfaces.cell id = some surface)
    (layered : surface.layerSurface.isSome = true) :
    Ensures (applyAttachment scene id target) fun _ => surface.pending.attachment ≠ .null := by
  refine .read fun current found => ?_
  rw [present] at found
  cases found
  cases pending : surface.pending.attachment with
  | null =>
      refine (unlinkCommittedAttachment_sends target present _).bind fun _ _ => .check fun bare => ?_
      rw [Option.isNone_eq_false_iff.mpr layered] at bare
      cases bare
  | _ => exact fun _ _ => nofun

theorem applyPendingSurfaceUpdates_drawn (target : Target) (background : AugmentedSurface)
    (present : scene.forwardSurfaces.cell id = some surface) (layered : surface.layerSurface.isSome = true) :
    Ensures (applyPendingSurfaceUpdates scene id target background) fun _ => surface.pending.attachment ≠ .null := by
  rw [applyPendingSurfaceUpdates_split]
  refine (applyLook_sends present background).bind fun looked look => ?_
  obtain ⟨description, look⟩ := look
  refine (applyAttachment_drawn target look.cell layered).bind fun attached drawn => ?_
  exact fun _ _ => drawn

theorem commitSubsurface_drawn (present : scene.forwardSurfaces.cell id = some surface)
    (layered : surface.layerSurface.isSome = true) : Ensures (commitSubsurface scene id surface) fun middle =>
      (surface.subsurfaceParent = none ∧ middle = scene) ∨ surface.pending.attachment ≠ .null ∧
        ∃ current, middle.forwardSurfaces.cell id = some current ∧ current.pending = surface.pending ∧
          current.swaySurface = surface.swaySurface ∧ current.hasBeenConfigured = surface.hasBeenConfigured := by
  unfold commitSubsurface
  split
  · have drawn := applyPendingSurfaceUpdates_drawn (.ext id) surface.extSurface present layered
    have stacking := @applyPendingSurfaceUpdates_stacks scene id surface (Target.ext id) present surface.extSurface
    refine (drawn.both stacking).bind fun applied parts => .pure (.inr ⟨parts.1, ?_⟩)
    obtain ⟨_, _, _, size, _, stacking⟩ := parts
    obtain ⟨current, there, same⟩ := stacking.seen
    have presented : (surface.presented size).pending = surface.pending := ForwardSurface.presented_pending
    have turned : current.roleCore = surface.roleCore :=
      (congrArg ForwardSurface.roleCore same).trans ForwardSurface.presented_roleCore
    have configured : current.hasBeenConfigured = surface.hasBeenConfigured :=
      congrArg (fun core : RoleCore => core.cycle.hasBeenConfigured) turned
    have pending := (congrArg ForwardSurface.pending same).trans presented
    exact ⟨current, there, pending, congrArg RoleCore.role turned, configured⟩
  · rename_i root
    exact .pure (.inl ⟨by simpa using root, rfl⟩)

theorem sendInitialConfigure_bare (output : OutputId) (present : scene.forwardSurfaces.cell id = some surface) :
    Ensures (sendInitialConfigure scene id output) fun _ => surface.pending.attachment = .null := by
  refine .read fun record _ => (takeSerial_spec scene _).bind fun result taken => ?_
  obtain ⟨next, pluginSerial⟩ := result
  obtain ⟨bgClients, rfl⟩ := taken
  refine .read fun current found => .check fun bare => .pure ?_
  change ((scene.forwardSurfaces.modify id _).modify id _).cell id = some current at found
  rw [Heap.cell_modify_self, Heap.cell_modify_self, present] at found
  cases found
  simpa using bare

theorem nestedSurfaceCommit_bare {output : OutputId} (present : scene.forwardSurfaces.cell id = some surface)
    (role : surface.swaySurface = some output) (layered : surface.layerSurface.isSome = true)
    (first : surface.hasBeenConfigured = false) (active : surface.inert = false) :
    Ensures (nestedSurfaceCommit scene id) fun _ =>
      surface.subsurfaceParent = none ∧ surface.pending.attachment = .null := by
  refine .read fun found there => ?_
  rw [present] at there
  cases there
  rw [active]
  refine (commitSubsurface_drawn present layered).bind fun middle ends => .read fun current found => ?_
  rcases ends with ⟨root, rfl⟩ | ⟨drawn, between, there, pending, kept, configured⟩
  · rw [present] at found
    cases found
    rw [role]
    unfold commitInRole
    rw [first]
    exact (sendInitialConfigure_bare output present).bind fun _ bare => .pure ⟨root, bare⟩
  · rw [there] at found
    cases found
    rw [kept, role]
    unfold commitInRole
    rw [configured, first]
    refine (sendInitialConfigure_bare output there).bind fun _ bare => ?_
    exact absurd (pending ▸ bare) drawn

theorem sendInitialConfigure_tells {output : OutputId} {target : SwaylockSurface} {bg : BgClientId}
    {record : SwaylockBgClient} (present : scene.forwardSurfaces.cell id = some surface)
    (bare : surface.pending.attachment = .null) (there : scene.outputs.cell output = some target)
    (service : clientForSurface scene target = some bg) (known : scene.bgClients.cell bg = some record) :
    ∃ next, sendInitialConfigure scene id output = .ok next ∧
      next.wire = scene.wire ++ [.plugin (.configure id record.serial target.width target.height)] := by
  unfold sendInitialConfigure takeSerial Scene.output Scene.bgClient
  rw [there]
  change ∃ next, ((demand _ (clientForSurface scene target) >>= fun _ => _) >>= fun _ => _) = _ ∧ _
  rw [service]
  change ∃ next, ((demand _ (scene.bgClients.cell bg) >>= fun _ => _) >>= fun _ => _) = _ ∧ _
  rw [known]
  change ∃ next, (demand _ ((((scene.forwardSurfaces.modify id _).modify id _).cell id)) >>= fun _ => _) = _ ∧ _
  rw [Heap.cell_modify_self, Heap.cell_modify_self, present]
  change ∃ next, (check (surface.pending.attachment == .null) >>= fun _ => _) = _ ∧ _
  rw [bare]
  exact ⟨_, rfl, rfl⟩

theorem nestedSurfaceCommit_unmapped {output : OutputId} (present : scene.forwardSurfaces.cell id = some surface)
    (role : surface.swaySurface = some output) (layered : surface.layerSurface.isSome = true)
    (configured : surface.hasBeenConfigured = true) (active : surface.inert = false)
    (bare : surface.pending.attachment = .null) :
    Ensures (nestedSurfaceCommit scene id) fun result => surface.subsurfaceParent = none ∧
      result = if surface.committed.attachment = .null then (scene, .withoutBuffer)
        else (scene.postError surface.client (.commit .unmapped), .rejected .unmapped) := by
  refine .read fun found there => ?_
  rw [present] at there
  cases there
  rw [active]
  refine (commitSubsurface_drawn present layered).bind fun middle ends => .read fun current found => ?_
  rcases ends with ⟨root, rfl⟩ | ⟨drawn, _⟩
  · rw [present] at found
    cases found
    rw [role]
    unfold commitInRole
    rw [configured, bare]
    by_cases empty : surface.committed.attachment = .null
    · rw [empty]
      exact .pure ⟨root, rfl⟩
    · rw [if_neg empty]
      change Ensures (if surface.committed.attachment == .null then _ else _) _
      rw [if_neg fun same => empty (beq_iff_eq.mp same)]
      exact .pure ⟨root, rfl⟩
  · exact absurd bare drawn

theorem nestedSurfaceCommit_root {output : OutputId} (present : scene.forwardSurfaces.cell id = some surface)
    (role : surface.swaySurface = some output) (active : surface.inert = false)
    (root : surface.subsurfaceParent = none) :
    nestedSurfaceCommit scene id = commitInRole scene id surface output := by
  unfold nestedSurfaceCommit Scene.forward
  rw [present]
  change (if surface.inert then _ else commitSubsurface scene id surface >>= fun _ => _) = _
  rw [active]
  unfold commitSubsurface
  rw [root]
  change (demand _ (scene.forwardSurfaces.cell id) >>= fun _ => _) = _
  rw [present]
  change (Except.ok surface >>= _) = _
  rw [ok_bind, role]

theorem nestedSurfaceCommit_inert (present : scene.forwardSurfaces.cell id = some surface)
    (inert : surface.inert = true) : nestedSurfaceCommit scene id = .ok (scene, .inert) := by
  unfold nestedSurfaceCommit Scene.forward
  rw [present]
  exact if_pos inert

theorem Outfits.staffed {output : OutputId} {target : SwaylockSurface} (outfits : Outfits scene surface output)
    (guard : PlaceGuard none scene) (there : scene.outputs.cell output = some target) {own : BgClientId}
    (listed : recordOf scene surface.client = some own) :
    ∃ bg record, clientForSurface scene target = some bg ∧ scene.bgClients.cell bg = some record := by
  obtain ⟨_, entry, known, owner⟩ := recordOf_some listed
  have placed := guard.placed own entry known
  unfold clientForSurface
  cases client : target.client with
  | some other =>
      have named : scene.place (some output) = some other := by
        change (scene.outputs.cell output).bind _ = _
        rw [there]
        exact client
      obtain ⟨record, found, _⟩ := guard.placing (some output) other named
      exact ⟨other, record, rfl, found⟩
  | none =>
      rcases outfits.seated own entry known owner with main | unique
      · rw [main] at placed
        exact ⟨own, entry, placed, known⟩
      · rw [unique] at placed
        change (scene.outputs.cell output).bind _ = _ at placed
        rw [there] at placed
        cases client.symm.trans placed

end Commit

/-- A commit in the layer role finds nothing pending on a surface that never was a subsurface. -/
def ForwardSurface.commitsBare (surface : ForwardSurface) : Prop :=
  surface.inert = false ∧ surface.subsurfaceParent = none ∧ surface.pending.attachment = .null

/-- A first commit in the layer role is answered exactly where the surface has nothing pending, no parent and was no
subsurface before, and a surface that was configured for an earlier output is answered only where it is mapped. -/
theorem first_commit_answered {state : SwaylockState} (reachable : swaylock.machine.Reachable state) {env : Environment}
    {client : WlClientId} {id : SurfaceId} {surface : ForwardSurface}
    (allowed : enabled state ⟨.scene (.request client (.surface id .commit)), env⟩ = true)
    (present : state.scene.forwardSurfaces.cell id = some surface) (owned : surface.client = client)
    (role : surface.swaySurface.isSome = true) :
    (surface.hasBeenConfigured = false → (AnswersCommit state.scene id client ↔ surface.commitsBare)) ∧
      (surface.hasBeenConfigured = true → surface.pending.attachment = .null →
        (AnswersCommit state.scene id client ↔ surface.commitsBare ∧ surface.committed.attachment ≠ .null)) := by
  obtain ⟨output, role⟩ := Option.isSome_iff_exists.mp role
  have outfits := outfitted_of_reachable reachable id surface output present role
  -- An inert surface is told nothing, so that neither a configure nor an error answers its commit.
  have active (answers : AnswersCommit state.scene id client) : surface.inert = false := by
    by_contra inert
    obtain ⟨next, outcome, told, computed, wire, ends⟩ := answers
    rw [nestedSurfaceCommit_inert present ((Bool.not_eq_false _).mp inert)] at computed
    cases computed
    have silent : told = [] := List.self_eq_append_right.mp wire
    subst silent
    rcases ends with ⟨same, _⟩ | ⟨_, listed⟩
    · cases same
    · cases listed
  constructor
  · intro first
    constructor
    · intro answers
      have active := active answers
      obtain ⟨next, outcome, told, computed, _⟩ := answers
      exact ⟨active, nestedSurfaceCommit_bare present role outfits.layer first active _ computed⟩
    · rintro ⟨active, root, bare⟩
      obtain ⟨target, there, _⟩ := partnered_of_reachable reachable id surface output present role nofun
      obtain ⟨listed, _⟩ := request_enabled allowed
      obtain ⟨own, found⟩ : ∃ own, recordOf state.scene surface.client = some own := by
        rw [owned]
        unfold registered at listed
        cases found : recordOf state.scene client with
        | some own => exact ⟨own, rfl⟩
        | none =>
            rw [found] at listed
            cases listed
      obtain ⟨bg, record, service, known⟩ := outfits.staffed (placeGuard_of_reachable reachable) there found
      obtain ⟨next, sends, wire⟩ := sendInitialConfigure_tells present bare there service known
      refine ⟨next, .initialConfigure, _, ?_, wire, .inl ⟨rfl, _, _, _, rfl⟩⟩
      rw [nestedSurfaceCommit_root present role active root]
      unfold commitInRole
      rw [first]
      change (sendInitialConfigure state.scene id output >>= fun _ => _) = _
      rw [sends]
      rfl
  · intro configured bare
    constructor
    · intro answers
      have active := active answers
      obtain ⟨next, outcome, told, computed, wire, ends⟩ := answers
      obtain ⟨root, result⟩ :=
        nestedSurfaceCommit_unmapped present role outfits.layer configured active bare _ computed
      refine ⟨⟨active, root, bare⟩, fun empty => ?_⟩
      rw [if_pos empty] at result
      cases result
      have silent : told = [] := List.self_eq_append_right.mp wire
      subst silent
      rcases ends with ⟨same, _⟩ | ⟨_, listed⟩
      · cases same
      · cases listed
    · rintro ⟨⟨active, root, _⟩, mapped⟩
      refine ⟨state.scene.postError client (.commit .unmapped), .rejected .unmapped,
        [.plugin (.error client (.commit .unmapped))], ?_, rfl, .inr ⟨_, List.mem_singleton_self _⟩⟩
      rw [nestedSurfaceCommit_root present role active root]
      unfold commitInRole
      rw [configured, bare, ← owned]
      change (if surface.committed.attachment == .null then _ else _) = _
      rw [if_neg fun same => mapped (beq_iff_eq.mp same)]
      rfl

/-- A plugin makes a surface and a buffer for the output that it is shown. -/
def preparedEvents : List Event :=
  [.scene (.outputAdded 1), .scene (.outputDone 0), .scene (.outputDescReady 0), .start, .check true,
    .scene (.configure 0 7 100 50)] ++ ([.getRegistry, .bindOutput 0, .createSurface 4, .createBuffer 100 50] :
    List Request).map fun request => .scene (.request 0 request)

/-- The first commit of a surface without a buffer is answered. -/
theorem first_commit_answered_bare : ∃ (state : SwaylockState) (surface : ForwardSurface),
    state.scene.forwardSurfaces.cell 0 = some surface ∧ surface.hasBeenConfigured = false ∧
      (AnswersCommit state.scene 0 0 ↔ surface.commitsBare) := by
  obtain ⟨state, reachable, passed⟩ := swaylock.play_reachable
    ((preparedEvents ++ [Event.scene (.request 0 (.surface 0 (.getLayerSurface (some 0))))]).map Event.obliged)
    (fun state => enabled state (Event.scene (.request 0 (.surface 0 .commit))).obliged &&
      (state.scene.forwardSurfaces.cell 0).any fun surface =>
        surface.client == 0 && surface.swaySurface.isSome && !surface.hasBeenConfigured)
    (startState_initial _ _ _) (by decide +kernel : (swaylock.play defaultState _).any _ = true)
  obtain ⟨allowed, tested⟩ := Bool.and_eq_true_iff.mp passed
  obtain ⟨surface, present, tested⟩ := (Option.any_eq_true _ _).mp tested
  simp only [Bool.and_eq_true, beq_iff_eq, Bool.not_eq_true'] at tested
  obtain ⟨⟨owned, role⟩, first⟩ := tested
  exact ⟨state, surface, present, first, (first_commit_answered reachable allowed present owned role).1 first⟩

/-- A surface with a buffer that was attached before its first commit in the layer role fails the assertion. -/
theorem first_commit_with_buffer : ¬ ∀ state : SwaylockState, swaylock.machine.Reachable state →
    ∀ env client id surface, enabled state ⟨.scene (.request client (.surface id .commit)), env⟩ = true →
      state.scene.forwardSurfaces.cell id = some surface → surface.client = client →
        surface.swaySurface.isSome = true → surface.hasBeenConfigured = false →
          AnswersCommit state.scene id client := by
  intro claim
  obtain ⟨state, reachable, passed⟩ := swaylock.play_reachable
    ((preparedEvents ++ ([.surface 0 (.attach (some 0)), .surface 0 (.getLayerSurface (some 0))] :
      List Request).map fun request => Event.scene (.request 0 request)).map Event.obliged)
    (fun state => enabled state (Event.scene (.request 0 (.surface 0 .commit))).obliged &&
      ((state.scene.forwardSurfaces.cell 0).any fun surface =>
        surface.client == 0 && surface.swaySurface.isSome && !surface.hasBeenConfigured) &&
      !(nestedSurfaceCommit state.scene 0).toBool)
    (startState_initial _ _ _) (by decide +kernel : (swaylock.play defaultState _).any _ = true)
  simp only [Bool.and_eq_true, Option.any_eq_true, beq_iff_eq, Bool.not_eq_true'] at passed
  obtain ⟨⟨allowed, surface, present, ⟨owned, role⟩, first⟩, failed⟩ := passed
  obtain ⟨next, outcome, told, computed, _⟩ := claim state reachable _ 0 0 surface allowed present owned role first
  rw [computed] at failed
  cases failed

end SwaylockPlugin
