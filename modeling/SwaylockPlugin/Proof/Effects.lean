import SwaylockPlugin.Construction.Program

namespace SwaylockPlugin

open Library

/-- The fields of a plugin surface fall into these groups. -/
inductive SurfaceGroup where
  | role
  | assigned
  | attachment
  | content
  | size
  | objects
  | frames
  | position
  | stack
  | tree
  deriving DecidableEq

/-- A state without its content keeps its attachment, its stacks and what decides its size. -/
def SurfaceState.plain (state : SurfaceState) : SurfaceState :=
  { defaultSurfaceState with
    attachment := state.attachment
    bufferScale := state.bufferScale
    bufferTransform := state.bufferTransform
    viewportDestWidth := state.viewportDestWidth
    viewportDestHeight := state.viewportDestHeight
    viewportSourceX := state.viewportSourceX
    viewportSourceY := state.viewportSourceY
    viewportSourceW := state.viewportSourceW
    viewportSourceH := state.viewportSourceH
    subsurfacesAbove := state.subsurfacesAbove
    subsurfacesBelow := state.subsurfacesBelow }

/-- A state without what decides its size keeps everything else. -/
def SurfaceState.unsized (state : SurfaceState) : SurfaceState :=
  { state with
    bufferScale := 1
    bufferTransform := 0
    viewportDestWidth := -1
    viewportDestHeight := -1
    viewportSourceX := -1
    viewportSourceY := -1
    viewportSourceW := -1
    viewportSourceH := -1 }

/-- A state without its stacks keeps everything else. -/
def SurfaceState.unstacked (state : SurfaceState) : SurfaceState :=
  { state with subsurfacesAbove := [], subsurfacesBelow := [] }

/-- The mask of a group hides the fields of the group. -/
def SurfaceGroup.mask : SurfaceGroup → ForwardSurface → ForwardSurface
  | .role, surface => { surface with
      hasBeenConfigured := false
      lastUsedPluginSerial := 0
      lastAckedWidth := 0
      lastAckedHeight := 0
      serialTable := [] }
  | .assigned, surface => { surface with
      layerSurface := none
      swaySurface := none
      inert := false
      lastUsedPluginSerial := 0 }
  | .attachment, surface => { surface with
      pending := { surface.pending with attachment := .null }
      committed := { surface.committed with attachment := .null, offsetX := 0, offsetY := 0 }
      committedBufferWidth := 0
      committedBufferHeight := 0 }
  | .content, surface => { surface with
      bufferDamage := []
      oldDamage := []
      pending := surface.pending.plain
      committed := surface.committed.plain }
  | .size, surface => { surface with
      pending := surface.pending.unsized
      committed := surface.committed.unsized }
  | .objects, surface => { surface with
      subsurface := none
      viewport := none
      fractionalScale := none
      colorSurface := none
      colorRepresentation := none }
  | .frames, surface => { surface with frameCallbacks := [] }
  | .position, surface => { surface with
      subsurfPendingEntry := ⟨0, 0, false, surface.subsurfPendingEntry.link⟩ }
  | .stack, surface => { surface with
      extSubsurface := false
      subsurfCommittedEntry := ⟨0, 0, false, none⟩
      committed := surface.committed.unstacked }
  | .tree, surface => { surface with
      inert := false
      subsurfaceParent := none
      extSurface := .none
      extSubsurface := false
      subsurfPendingEntry := ⟨0, 0, false, none⟩
      subsurfCommittedEntry := ⟨0, 0, false, none⟩
      pending := surface.pending.unstacked
      committed := surface.committed.unstacked }

/-- The fields of an output fall into these groups. -/
inductive OutputGroup where
  | client
  | timer
  | plugin
  | presented
  | screen
  deriving DecidableEq

/-- The mask of a group hides the fields of the group. -/
def OutputGroup.mask : OutputGroup → SwaylockSurface → SwaylockSurface
  | .client, output => { output with client := none, created := false }
  | .timer, output => { output with
      surface := .none
      extSessionLockSurface := false
      fractionalScale := false
      clientSubmissionTimer := none }
  | .plugin, output => { output with pluginSurface := none }
  | .presented, output => { output with
      framePending := false
      framePendingSince := ⟨0, 0⟩
      frameLastDone := ⟨0, 0⟩ }
  | .screen, output => { SwaylockSurface.allocated output.outputGlobalName output.colorOutput with
      surface := output.surface
      extSessionLockSurface := output.extSessionLockSurface
      fractionalScale := output.fractionalScale
      pluginSurface := output.pluginSurface
      framePending := output.framePending
      framePendingSince := output.framePendingSince
      frameLastDone := output.frameLastDone
      client := output.client
      created := output.created
      clientSubmissionTimer := output.clientSubmissionTimer }

/-- A handler has some of these effects on a scene. -/
inductive Effect where
  | output (group : OutputGroup)
  | addOutput
  | removeOutput
  | surface (group : SurfaceGroup)
  | createSurface
  | freeSurface
  | buffer
  | desc
  | resource
  | callbacks
  | await
  | serial
  | client
  | arm
  | armIndicator
  | disarm
  | upstream
  | reshape
  | restack
  | plugin
  | done
  | display
  deriving DecidableEq

/-- Completed frame callbacks and messages for a plugin, for an upstream subsurface and on the shape of an upstream surface are effects of their own. -/
def Message.effect : Message → Effect
  | .plugin (.callbackDone _) => .done
  | .plugin _ => .plugin
  | .subsurface _ _ => .restack
  | .surface _ (.setBufferTransform _) => .reshape
  | .surface _ (.setDestination _ _) => .reshape
  | .surface _ (.setSource _ _ _ _) => .reshape
  | _ => .upstream

theorem Message.surface_effect (target : Target) (request : SurfaceRequest) :
    (Message.surface target request).effect = .upstream ∨ (Message.surface target request).effect = .reshape := by
  cases request <;> simp [Message.effect]

theorem Message.effect_mem (message : Message) :
    message.effect ∈ [.upstream, .reshape, .restack, .plugin, .done] := by
  cases message with
  | surface target request => rcases Message.surface_effect target request with effect | effect <;> simp [effect]
  | plugin message => cases message <;> simp [Message.effect]
  | _ => simp [Message.effect]

/-- A message may complete a frame callback. -/
def Message.completes : Message → Option ResourceId
  | .plugin (.callbackDone callback) => some callback
  | _ => none

theorem Message.completes_none {message : Message} (other : message.effect ≠ .done) : message.completes = none := by
  cases message with
  | plugin message =>
      cases message with
      | callbackDone => exact absurd rfl other
      | _ => rfl
  | _ => rfl

/-- Frame callbacks are done in the order of the messages. -/
def callbacksDone (wire : List Message) : List ResourceId :=
  wire.filterMap Message.completes

theorem callbacksDone_append (wire : List Message) {told : List Message} (other : ∀ message ∈ told, message.effect ≠ .done) :
    callbacksDone (wire ++ told) = callbacksDone wire := by
  have silent : told.filterMap Message.completes = [] :=
    List.filterMap_eq_nil_iff.mpr fun message member => Message.completes_none (other message member)
  rw [callbacksDone, List.filterMap_append, silent, List.append_nil]
  rfl

/-- A timer callback that works on the scene belongs to a client, an output or the hidden check. -/
def TimerCallback.onScene : TimerCallback → Bool
  | .hiddenCheckTimeout => true
  | .clientConnectionTimeout _ => true
  | .outputRedrawTimeout _ => true
  | _ => false

/-- A timer callback that works on the indicator clears the password or makes a part of the indicator idle. -/
def TimerCallback.onIndicator : TimerCallback → Bool
  | .setInputIdle => true
  | .setAuthIdle => true
  | .clearPassword => true
  | _ => false

/-- A scene changes in one of these ways, each of which has one effect. -/
inductive Change (scene : Scene) : Effect → Scene → Prop
  | output {group : OutputGroup} (id : OutputId) {change : SwaylockSurface → SwaylockSurface}
      (kept : ∀ output, group.mask (change output) = group.mask output) :
      Change scene (.output group) (scene.setOutput id change)
  | addOutput (record : SwaylockSurface) (bare : record.client = none ∧ record.clientSubmissionTimer = none) :
      Change scene .addOutput { scene with
        surfaces := scene.outputs.next :: scene.surfaces
        outputs := scene.outputs.alloc record }
  | delistOutput (id : OutputId) : Change scene .removeOutput { scene with surfaces := scene.surfaces.erase id }
  | freeOutput (id : OutputId) : Change scene .removeOutput { scene with outputs := scene.outputs.free id }
  | surface {group : SurfaceGroup} (id : SurfaceId) {change : ForwardSurface → ForwardSurface}
      (kept : ∀ surface, group.mask (change surface) = group.mask surface) :
      Change scene (.surface group) (scene.setForward id change)
  | sweep {group : SurfaceGroup} {change : SurfaceId → ForwardSurface → ForwardSurface}
      (kept : ∀ id surface, group.mask (change id surface) = group.mask surface) :
      Change scene (.surface group) { scene with forwardSurfaces := scene.forwardSurfaces.mapAll change }
  | createSurface (client : WlClientId) (version : Nat) :
      Change scene .createSurface (compositorCreateSurface scene client version)
  | freeSurface (id : SurfaceId) :
      Change scene .freeSurface { scene with forwardSurfaces := scene.forwardSurfaces.free id }
  | buffers (heap : Heap ForwardBuffer) : Change scene .buffer { scene with forwardBuffers := heap }
  | descs (heap : Heap ForwardImageDesc) (next : UpstreamDesc) :
      Change scene .desc { scene with imageDescs := heap, nextDescription := next }
  | resources (heap : Heap Resource) : Change scene .resource { scene with resources := heap }
  | callbacks {change : CallbackId → FrameCallbacks → FrameCallbacks}
      (kept : ∀ id callbacks, (change id callbacks).swaySurface = callbacks.swaySurface) :
      Change scene .callbacks { scene with frameCallbacks := scene.frameCallbacks.mapAll change }
  | await (heap : Heap FrameCallbacks) : Change scene .await { scene with frameCallbacks := heap }
  | serial (id : BgClientId) :
      Change scene .serial (scene.setBgClient id fun record => { record with serial := record.serial + 1 })
  | clients (records : Heap SwaylockBgClient) (connections : Heap WlClient) (list : List BgClientId)
      (main : Option BgClientId) (fallBack : Bool) :
      Change scene .client { scene with
        bgClients := records
        wlClients := connections
        clients := list
        mainClient := main
        startClientlessMode := fallBack }
  | arm (ms : Int) {callback : TimerCallback} (onScene : callback.onScene = true) :
      Change scene .arm (scene.addTimer ms callback).1
  | armIndicator (ms : Int) {callback : TimerCallback} (onIndicator : callback.onIndicator = true) :
      Change scene .armIndicator (scene.addTimer ms callback).1
  | hiddenCheck (timer : Option TimerId) : Change scene .arm { scene with hiddenCheckTimer := timer }
  | disarm (timer : TimerId) : Change scene .disarm (scene.removeTimer timer)
  | tell (message : Message) : Change scene message.effect (scene.tell message)
  | error (client : WlClientId) (error : PluginError) : Change scene .plugin (scene.postError client error)
  | display (up : scene.display = true) : Change scene .display (destroyDisplay scene)

/-- A scene changes step by step with no effects but the listed ones. -/
inductive Changes (effects : List Effect) : Scene → Scene → Prop
  | refl (scene : Scene) : Changes effects scene scene
  | step {first middle last : Scene} {effect : Effect} :
      Changes effects first middle → effect ∈ effects → Change middle effect last → Changes effects first last

namespace Changes

variable {effects : List Effect} {first second third : Scene}

theorem trans (one : Changes effects first second) (two : Changes effects second third) :
    Changes effects first third := by
  induction two with
  | refl => exact one
  | step _ listed change ih => exact .step ih listed change

theorem single {effect : Effect} (change : Change first effect second) (listed : effect ∈ effects) :
    Changes effects first second :=
  .step (.refl first) listed change

theorem widen {more : List Effect} (changes : Changes effects first second)
    (listed : ∀ effect ∈ effects, effect ∈ more) : Changes more first second := by
  induction changes with
  | refl => exact .refl _
  | step _ member change ih => exact .step ih (listed _ member) change

theorem foldl {Item : Type} {body : Scene → Item → Scene} (each : ∀ state item, Changes effects state (body state item))
    (items : List Item) (scene : Scene) : Changes effects scene (items.foldl body scene) := by
  induction items generalizing scene with
  | nil => exact .refl scene
  | cons item items ih => exact (each scene item).trans (ih (body scene item))

theorem foldlM {Item : Type} {body : Scene → Item → Handled Scene}
    (each : ∀ state item, Ensures (body state item) (Changes effects state)) (items : List Item) (scene : Scene) :
    Ensures (items.foldlM body scene) (Changes effects scene) :=
  .foldlM .refl .trans each items scene

theorem setOutput (group : OutputGroup) (scene : Scene) (id : OutputId)
    {change : SwaylockSurface → SwaylockSurface}
    (kept : ∀ output, group.mask (change output) = group.mask output)
    (listed : Effect.output group ∈ effects) : Changes effects scene (scene.setOutput id change) :=
  single (.output id kept) listed

theorem setForward (group : SurfaceGroup) (scene : Scene) (id : SurfaceId)
    {change : ForwardSurface → ForwardSurface}
    (kept : ∀ surface, group.mask (change surface) = group.mask surface)
    (listed : Effect.surface group ∈ effects) : Changes effects scene (scene.setForward id change) :=
  single (.surface id kept) listed

theorem setPending (scene : Scene) (id : SurfaceId) {change : SurfaceState → SurfaceState}
    (plain : ∀ pending, (change pending).plain = pending.plain)
    (listed : Effect.surface .content ∈ effects) : Changes effects scene (scene.setPending id change) := by
  apply setForward .content scene id _ listed
  intro surface
  simp only [SurfaceGroup.mask, plain]

theorem setBuffer (scene : Scene) (id : BufferId) (change : ForwardBuffer → ForwardBuffer)
    (listed : Effect.buffer ∈ effects) : Changes effects scene (scene.setBuffer id change) :=
  single (.buffers _) listed

theorem setImageDesc (scene : Scene) (id : DescId) (change : ForwardImageDesc → ForwardImageDesc)
    (listed : Effect.desc ∈ effects) : Changes effects scene (scene.setImageDesc id change) :=
  single (.descs _ scene.nextDescription) listed

theorem setBgClient (scene : Scene) (id : BgClientId) (change : SwaylockBgClient → SwaylockBgClient)
    (listed : Effect.client ∈ effects) : Changes effects scene (scene.setBgClient id change) :=
  single (.clients _ scene.wlClients scene.clients scene.mainClient scene.startClientlessMode) listed

theorem tell (scene : Scene) (message : Message) (listed : message.effect ∈ effects) :
    Changes effects scene (scene.tell message) :=
  single (.tell message) listed

theorem setSize (scene : Scene) (id : SurfaceId) {change : SurfaceState → SurfaceState}
    (unsized : ∀ pending, (change pending).unsized = pending.unsized)
    (listed : Effect.surface .size ∈ effects) : Changes effects scene (scene.setPending id change) := by
  apply setForward .size scene id _ listed
  intro surface
  simp only [SurfaceGroup.mask, unsized]

theorem requestAll (scene : Scene) (target : Target) (requests : List SurfaceRequest)
    (listed : ∀ request ∈ requests, (Message.surface target request).effect ∈ effects) :
    Changes effects scene (scene.requestAll target requests) := by
  induction requests generalizing scene with
  | nil =>
      have same : scene.requestAll target [] = scene := by simp [Scene.requestAll]
      rw [same]
      exact refl scene
  | cons request requests ih =>
      have split : scene.requestAll target (request :: requests) =
          (scene.tell (.surface target request)).requestAll target requests := by
        simp [Scene.requestAll, Scene.tell]
      rw [split]
      refine (tell scene _ (listed request List.mem_cons_self)).trans (ih _ ?_)
      exact fun later member => listed later (List.mem_cons_of_mem _ member)

theorem requestAny (scene : Scene) (target : Target) (requests : List SurfaceRequest)
    (upstream : Effect.upstream ∈ effects) (reshape : Effect.reshape ∈ effects) :
    Changes effects scene (scene.requestAll target requests) := by
  refine requestAll scene target requests fun request _ => ?_
  rcases Message.surface_effect target request with effect | effect
  · exact effect ▸ upstream
  · exact effect ▸ reshape

theorem postError (scene : Scene) (client : WlClientId) (error : PluginError)
    (listed : Effect.plugin ∈ effects) : Changes effects scene (scene.postError client error) :=
  single (.error client error) listed

theorem addTimer (scene : Scene) (ms : Int) {callback : TimerCallback} (onScene : callback.onScene = true)
    (listed : Effect.arm ∈ effects) : Changes effects scene (scene.addTimer ms callback).1 :=
  single (.arm ms onScene) listed

theorem removeTimer? (scene : Scene) (timer : Option TimerId) (listed : Effect.disarm ∈ effects) :
    Changes effects scene (scene.removeTimer? timer) := by
  cases timer with
  | none => exact refl scene
  | some timer => exact single (.disarm timer) listed

theorem createResource (scene : Scene) (client : WlClientId) (role : Role)
    (listed : Effect.resource ∈ effects) : Changes effects scene (scene.createResource client role).1 :=
  single (.resources _) listed

theorem destroyResource (scene : Scene) (id : ResourceId) (listed : Effect.resource ∈ effects) :
    Changes effects scene (scene.destroyResource id) :=
  single (.resources _) listed

theorem settings (changes : Changes effects first second) :
    second.args = first.args ∧ second.globals = first.globals ∧ second.descriptors = first.descriptors := by
  induction changes with
  | refl => exact ⟨rfl, rfl, rfl⟩
  | step _ _ change ih => cases change <;> exact ih

theorem display (changes : Changes effects first second) (absent : Effect.display ∉ effects) :
    second.display = first.display := by
  induction changes with
  | refl => rfl
  | step _ listed change ih =>
      rw [← ih]
      cases change with
      | display => exact absurd listed absent
      | _ => rfl

theorem resources (changes : Changes effects first second) (absent : Effect.resource ∉ effects) :
    second.resources = first.resources := by
  induction changes with
  | refl => rfl
  | step _ listed change ih =>
      rw [← ih]
      cases change with
      | resources => exact absurd listed absent
      | _ => rfl

theorem callbacks (changes : Changes effects first second) (absent : Effect.callbacks ∉ effects)
    (unawaited : Effect.await ∉ effects) : second.frameCallbacks = first.frameCallbacks := by
  induction changes with
  | refl => rfl
  | step _ listed change ih =>
      rw [← ih]
      cases change with
      | callbacks => exact absurd listed absent
      | await => exact absurd listed unawaited
      | _ => rfl

theorem buffers (changes : Changes effects first second) (absent : Effect.buffer ∉ effects) :
    second.forwardBuffers = first.forwardBuffers := by
  induction changes with
  | refl => rfl
  | step _ listed change ih =>
      rw [← ih]
      cases change with
      | buffers => exact absurd listed absent
      | _ => rfl

theorem surfaces {View : Type} (view : ForwardSurface → View) (changes : Changes effects first second)
    (seen : ∀ group, Effect.surface group ∈ effects → ∀ surface, view (group.mask surface) = view surface)
    (create : Effect.createSurface ∉ effects) (free : Effect.freeSurface ∉ effects) :
    (∀ id, (second.forwardSurfaces.cell id).map view = (first.forwardSurfaces.cell id).map view) ∧
      second.forwardSurfaces.next = first.forwardSurfaces.next := by
  induction changes with
  | refl => exact ⟨fun _ => rfl, rfl⟩
  | step _ listed change ih =>
      obtain ⟨views, next⟩ := ih
      cases change with
      | surface id kept =>
          refine ⟨fun other => (Heap.view_modify _ id _ view (fun record _ => ?_) other).trans (views other), next⟩
          rw [← seen _ listed, kept, seen _ listed]
      | sweep kept =>
          refine ⟨fun other => (Heap.view_mapAll _ _ view (fun id record => ?_) other).trans (views other), next⟩
          rw [← seen _ listed, kept, seen _ listed]
      | createSurface => exact absurd listed create
      | freeSurface => exact absurd listed free
      | _ => exact ⟨views, next⟩

theorem viewed {View : Type} (view : ForwardSurface → View) (changes : Changes effects first second)
    (seen : ∀ group, Effect.surface group ∈ effects → ∀ surface, view (group.mask surface) = view surface)
    {id : SurfaceId} {after : ForwardSurface} (present : second.forwardSurfaces.cell id = some after) :
    (∃ client version, view after = view (.allocated client version)) ∨
      ∃ before, first.forwardSurfaces.cell id = some before ∧ view after = view before := by
  induction changes generalizing after with
  | refl => exact .inr ⟨after, present, rfl⟩
  | @step middle _ _ _ listed change ih =>
      have along {old : ForwardSurface} (there : middle.forwardSurfaces.cell id = some old) (same : view after = view old) :
          (∃ client version, view after = view (.allocated client version)) ∨
            ∃ before, first.forwardSurfaces.cell id = some before ∧ view after = view before := by
        rw [same]
        exact ih there
      cases change with
      | surface target kept =>
          obtain ⟨old, there, ⟨_, rfl⟩ | ⟨_, rfl⟩⟩ := middle.forwardSurfaces.old_of_modify present
          · refine along there ?_
            rw [← seen _ listed, kept, seen _ listed]
          · exact along there rfl
      | sweep kept =>
          obtain ⟨old, there, rfl⟩ := Option.map_eq_some_iff.mp present
          refine along there ?_
          rw [← seen _ listed, kept, seen _ listed]
      | createSurface client version =>
          obtain ⟨_, rfl⟩ | ⟨_, there⟩ := middle.forwardSurfaces.old_of_alloc present
          · exact .inl ⟨client, version, rfl⟩
          · exact along there rfl
      | freeSurface => exact along (middle.forwardSurfaces.old_of_free present) rfl
      | _ => exact along present rfl

theorem wire (changes : Changes effects first second) :
    ∃ told, second.wire = first.wire ++ told ∧ ∀ message ∈ told, message.effect ∈ effects := by
  induction changes with
  | refl => exact ⟨[], (List.append_nil _).symm, nofun⟩
  | @step middle _ _ _ listed change ih =>
      obtain ⟨told, grown, heard⟩ := ih
      have extended (message : Message) (effect : message.effect ∈ effects) : ∃ more,
          middle.wire ++ [message] = first.wire ++ more ∧ ∀ message ∈ more, message.effect ∈ effects := by
        refine ⟨told ++ [message], by rw [grown, List.append_assoc], fun other member => ?_⟩
        rcases List.mem_append.mp member with before | last
        · exact heard other before
        · rw [List.mem_singleton.mp last]
          exact effect
      cases change with
      | tell message => exact extended message listed
      | error client error => exact extended _ listed
      | _ => exact ⟨told, grown, heard⟩

theorem callbacksDone (changes : Changes effects first second) (other : .done ∉ effects) :
    callbacksDone second.wire = callbacksDone first.wire := by
  obtain ⟨told, grown, heard⟩ := changes.wire
  rw [grown]
  exact callbacksDone_append _ fun message member done => other (done ▸ heard message member)

theorem outputs {View : Type} (view : SwaylockSurface → View) (changes : Changes effects first second)
    (seen : ∀ group, Effect.output group ∈ effects → ∀ output, view (group.mask output) = view output)
    (add : Effect.addOutput ∉ effects) (remove : Effect.removeOutput ∉ effects) (id : OutputId) :
    (second.outputs.cell id).map view = (first.outputs.cell id).map view := by
  induction changes with
  | refl => rfl
  | step _ listed change ih =>
      rw [← ih]
      cases change with
      | output target kept =>
          refine Heap.view_modify _ target _ view (fun record _ => ?_) id
          rw [← seen _ listed, kept, seen _ listed]
      | addOutput => exact absurd listed add
      | delistOutput => rfl
      | freeOutput => exact absurd listed remove
      | _ => rfl

end Changes

end SwaylockPlugin
