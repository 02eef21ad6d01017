import SwaylockPlugin.Abstract.Cycle
import SwaylockPlugin.Proof.Footprints

namespace SwaylockPlugin

open Library

theorem requestsOn_append (target : Target) (first second : List Message) :
    requestsOn target (first ++ second) = requestsOn target first ++ requestsOn target second :=
  List.filterMap_append

theorem requestsOn_requests (target : Target) (requests : List SurfaceRequest) :
    requestsOn target (requests.map (.surface target)) = requests := by
  induction requests with
  | nil => rfl
  | cons request requests ih =>
      have here : requestsOn target [.surface target request] = [request] := by simp [requestsOn]
      rw [List.map_cons, ← List.singleton_append, requestsOn_append, here, ih]
      rfl

/-- A message addresses a surface when it is a request on it or restacks a subsurface. -/
def Message.addresses (target : Target) : Message → Bool
  | .surface upstream _ => upstream == target
  | .subsurface _ _ => true
  | _ => false

/-- A surface without its place in the upstream stack is the same at each of its places. -/
def ForwardSurface.unplaced (surface : ForwardSurface) : ForwardSurface :=
  { surface with
    extSubsurface := false
    subsurfCommittedEntry := ⟨0, 0, false, none⟩ }

section Presented

/-- A committed record takes the pending look over. -/
def SurfaceState.takeLook (committed pending : SurfaceState) : SurfaceState :=
  { pending with
    attachment := committed.attachment
    offsetX := committed.offsetX
    offsetY := committed.offsetY
    subsurfacesAbove := committed.subsurfacesAbove
    subsurfacesBelow := committed.subsurfacesBelow }

/-- The offset of an attach request is the pending one of a surface before version five. -/
def ForwardSurface.attachOffset (surface : ForwardSurface) : Int32 × Int32 :=
  if surface.version ≥ 5 then (0, 0) else (surface.pending.offsetX, surface.pending.offsetY)

/-- A pending buffer is attached again at each commit. -/
def ForwardSurface.attachRequests (surface : ForwardSurface) (size : UInt32 × UInt32) : List SurfaceRequest :=
  match surface.pending.attachment with
  | .buffer buffer =>
      [.attach (.plugin buffer) size.1 size.2 surface.attachOffset.1 surface.attachOffset.2]
  | _ => []

/-- A surface commits its pending attachment with the size of the buffer. -/
def ForwardSurface.takeAttachment (surface : ForwardSurface) (size : UInt32 × UInt32) : ForwardSurface :=
  match surface.pending.attachment with
  | .null => { surface with committed := { surface.committed with attachment := .null } }
  | .buffer buffer =>
      { surface with
        committed := { surface.committed with
          offsetX := if surface.version < 5 then surface.pending.offsetX else surface.committed.offsetX
          offsetY := if surface.version < 5 then surface.pending.offsetY else surface.committed.offsetY
          attachment := .buffer buffer }
        committedBufferWidth := size.1
        committedBufferHeight := size.2 }
  | .unreachable | .committed => surface

/-- A surface of version five or later moves its content when the pending offset is another. -/
def ForwardSurface.moves (surface : ForwardSurface) : Bool :=
  (surface.committed.offsetX != surface.pending.offsetX ||
    surface.committed.offsetY != surface.pending.offsetY) && decide (surface.version ≥ 5)

/-- A surface that moves its content sends the offset. -/
def ForwardSurface.offsetRequests (surface : ForwardSurface) : List SurfaceRequest :=
  if surface.moves then [.offset surface.pending.offsetX surface.pending.offsetY] else []

/-- A surface that moves its content commits the pending offset. -/
def ForwardSurface.takeOffset (surface : ForwardSurface) : ForwardSurface :=
  if surface.moves then
    { surface with committed := { surface.committed with
        offsetX := surface.pending.offsetX
        offsetY := surface.pending.offsetY } }
  else surface

/-- The damage of a surface is sent in both coordinate systems. -/
def ForwardSurface.damageRequests (surface : ForwardSurface) : List SurfaceRequest :=
  surface.bufferDamage.map .damageBuffer ++ surface.oldDamage.map .damage

/-- A surface with requested frame callbacks asks for one upstream callback. -/
def ForwardSurface.frameRequests (surface : ForwardSurface) : List SurfaceRequest :=
  if surface.frameCallbacks.isEmpty then [] else [.frame]

/-- A surface commits the pending stacks. -/
def ForwardSurface.takeStacks (surface : ForwardSurface) : ForwardSurface :=
  { surface with committed := { surface.committed with
      subsurfacesAbove := surface.pending.subsurfacesAbove
      subsurfacesBelow := surface.pending.subsurfacesBelow } }

/-- A surface that commits its pending look keeps everything else. -/
def ForwardSurface.takeLook (surface : ForwardSurface) : ForwardSurface :=
  { surface with committed := surface.committed.takeLook surface.pending }

/-- A surface that commits its attachment commits its pending look first. -/
def ForwardSurface.takeContent (surface : ForwardSurface) (size : UInt32 × UInt32) : ForwardSurface :=
  surface.takeLook.takeAttachment size

/-- A surface is presented when its whole pending state is committed. -/
def ForwardSurface.presented (surface : ForwardSurface) (size : UInt32 × UInt32) : ForwardSurface :=
  { (surface.takeContent size).takeOffset.takeStacks with bufferDamage := [], oldDamage := [], frameCallbacks := [] }

/-- The requests after the look carry the attachment, the offset, the damage and the frame callback. -/
def ForwardSurface.contentRequests (surface : ForwardSurface) (size : UInt32 × UInt32) : List SurfaceRequest :=
  surface.attachRequests size ++ (surface.takeContent size).offsetRequests ++ surface.damageRequests ++
    surface.frameRequests

theorem ForwardSurface.takeAttachment_kept (surface : ForwardSurface) (size : UInt32 × UInt32) :
    { surface.takeAttachment size with
      committed := surface.committed
      committedBufferWidth := surface.committedBufferWidth
      committedBufferHeight := surface.committedBufferHeight } = surface := by
  unfold takeAttachment
  split <;> rfl

theorem ForwardSurface.takeOffset_kept (surface : ForwardSurface) :
    { surface.takeOffset with committed := surface.committed } = surface := by
  unfold takeOffset
  split <;> rfl

theorem ForwardSurface.takeContent_kept (surface : ForwardSurface) (size : UInt32 × UInt32) :
    { (surface.takeContent size).takeOffset with
      committed := surface.committed
      committedBufferWidth := surface.committedBufferWidth
      committedBufferHeight := surface.committedBufferHeight } = surface := by
  have offset := (surface.takeContent size).takeOffset_kept
  have attachment := surface.takeLook.takeAttachment_kept size
  have changed := congrArg (fun kept : ForwardSurface => { kept with
    committed := surface.committed
    committedBufferWidth := surface.committedBufferWidth
    committedBufferHeight := surface.committedBufferHeight }) offset
  exact changed.trans (congrArg (fun kept : ForwardSurface => { kept with committed := surface.committed }) attachment)

end Presented

/-- A part of a commit changes one plugin surface and sends requests on its upstream surface. -/
structure Applies {View : Type} (view : ForwardSurface → View) (id : SurfaceId) (target : Target)
    (requests : List SurfaceRequest) (new : ForwardSurface) (first second : Scene) : Prop where
  args : second.args = first.args
  display : second.display = first.display
  surfaces : second.surfaces = first.surfaces
  nextOutput : second.outputs.next = first.outputs.next
  nextSurface : second.forwardSurfaces.next = first.forwardSurfaces.next
  outputs : ∀ output, (second.outputs.cell output).map SwaylockSurface.core =
    (first.outputs.cell output).map SwaylockSurface.core
  cells : ∀ surface, (second.forwardSurfaces.cell surface).map view =
    if surface = id then some (view new) else (first.forwardSurfaces.cell surface).map view
  buffers : ∀ buffer record, second.forwardBuffers.cell buffer = some record →
    ∃ old, first.forwardBuffers.cell buffer = some old ∧ record.width = old.width ∧ record.height = old.height
  wire : ∃ messages, second.wire = first.wire ++ messages ∧ requestsOn target messages = requests ∧
    ∀ message ∈ messages, message.addresses target = true

namespace Applies

variable {View : Type} {view : ForwardSurface → View} {id : SurfaceId} {target : Target}
  {requests early late : List SurfaceRequest} {new middle old : ForwardSurface} {first second third : Scene}

theorem trans (one : Applies view id target early middle first second)
    (two : Applies view id target late new second third) :
    Applies view id target (early ++ late) new first third where
  args := two.args.trans one.args
  display := two.display.trans one.display
  surfaces := two.surfaces.trans one.surfaces
  nextOutput := two.nextOutput.trans one.nextOutput
  nextSurface := two.nextSurface.trans one.nextSurface
  outputs output := (two.outputs output).trans (one.outputs output)
  cells surface := by
    rw [two.cells, one.cells]
    split <;> rfl
  buffers buffer record present := by
    obtain ⟨between, found, width, height⟩ := two.buffers buffer record present
    obtain ⟨old, there, oldWidth, oldHeight⟩ := one.buffers buffer between found
    exact ⟨old, there, width.trans oldWidth, height.trans oldHeight⟩
  wire := by
    obtain ⟨start, grown, startRequests, startOwn⟩ := one.wire
    obtain ⟨rest, grownAgain, restRequests, restOwn⟩ := two.wire
    refine ⟨start ++ rest, by rw [grownAgain, grown, List.append_assoc], ?_, ?_⟩
    · rw [requestsOn_append, startRequests, restRequests]
    · intro message member
      rcases List.mem_append.mp member with before | after
      · exact startOwn message before
      · exact restOwn message after

theorem coarsen {Coarse : Type} (applies : Applies view id target requests new first second) (forget : View → Coarse) :
    Applies (fun surface => forget (view surface)) id target requests new first second where
  args := applies.args
  display := applies.display
  surfaces := applies.surfaces
  nextOutput := applies.nextOutput
  nextSurface := applies.nextSurface
  outputs := applies.outputs
  cells surface := by
    have same := congrArg (Option.map forget) (applies.cells surface)
    rw [Option.map_map] at same
    refine same.trans ?_
    split
    · rfl
    · rw [Option.map_map]
      rfl
  buffers := applies.buffers
  wire := applies.wire

theorem congr (applies : Applies view id target requests middle first second) (same : view new = view middle) :
    Applies view id target requests new first second :=
  { applies with cells := fun surface => by rw [applies.cells, same] }

theorem silent (present : first.forwardSurfaces.cell id = some old)
    (same : (second.args, second.display, second.surfaces, second.outputs, second.forwardSurfaces, second.wire) =
      (first.args, first.display, first.surfaces, first.outputs, first.forwardSurfaces, first.wire))
    (buffers : ∀ buffer record, second.forwardBuffers.cell buffer = some record →
      ∃ old, first.forwardBuffers.cell buffer = some old ∧ record.width = old.width ∧ record.height = old.height) :
    Applies view id target [] old first second := by
  simp only [Prod.mk.injEq] at same
  obtain ⟨args, display, surfaces, outputs, forward, wire⟩ := same
  refine ⟨args, display, surfaces, by rw [outputs], by rw [forward], fun output => by rw [outputs], fun surface => ?_,
    buffers, [], by rw [wire, List.append_nil], rfl, nofun⟩
  rw [forward]
  split
  · rename_i here
    rw [here, present]
    rfl
  · rfl

theorem refl (scene : Scene) (present : scene.forwardSurfaces.cell id = some old) :
    Applies view id target [] old scene scene :=
  silent present rfl fun _ record there => ⟨record, there, rfl, rfl⟩

theorem speaks (scene : Scene) (present : scene.forwardSurfaces.cell id = some old) (target : Target)
    (requests : List SurfaceRequest) :
    Applies view id target requests old scene (scene.requestAll target requests) := by
  have rest : Applies view id target [] old scene scene := refl scene present
  refine { rest with wire := ⟨requests.map (.surface target), rfl, requestsOn_requests target requests, ?_⟩ }
  intro message member
  obtain ⟨request, _, rfl⟩ := List.mem_map.mp member
  simp [Message.addresses]

theorem changes (scene : Scene) (present : scene.forwardSurfaces.cell id = some old) (target : Target)
    (change : ForwardSurface → ForwardSurface) :
    Applies view id target [] (change old) scene (scene.setForward id change) := by
  have rest : Applies view id target [] old scene scene := refl scene present
  refine { rest with cells := fun surface => ?_ }
  change ((scene.forwardSurfaces.modify id change).cell surface).map view = _
  rw [Heap.cell_modify]
  split
  · rename_i same
    rw [same, present]
    rfl
  · rfl

theorem commits (scene : Scene) (present : scene.forwardSurfaces.cell id = some old) (target : Target)
    (change : SurfaceState → SurfaceState) :
    Applies view id target [] { old with committed := change old.committed } scene (scene.setCommitted id change) :=
  changes scene present target fun surface => { surface with committed := change surface.committed }

theorem sends (scene : Scene) (present : scene.forwardSurfaces.cell id = some old) (target : Target)
    (requests : List SurfaceRequest) (change : ForwardSurface → ForwardSurface) :
    Applies view id target requests (change old) scene ((scene.requestAll target requests).setForward id change) := by
  have both := (@speaks _ view id old scene present target requests).trans
    (changes (scene.requestAll target requests) present target change)
  rw [List.append_nil] at both
  exact both

theorem cell (applies : Applies (fun surface => surface) id target requests new first second) :
    second.forwardSurfaces.cell id = some new := by
  have same := applies.cells id
  rw [if_pos rfl, Option.map_id'] at same
  exact same

theorem seen (applies : Applies view id target requests new first second) :
    ∃ record, second.forwardSurfaces.cell id = some record ∧ view record = view new := by
  have same := applies.cells id
  rw [if_pos rfl] at same
  exact Option.map_eq_some_iff.mp same

end Applies

/-- A part of a commit is seen in full. -/
abbrev Sends := Applies fun surface => surface

variable {scene : Scene} {id : SurfaceId} {old : ForwardSurface} {target : Target}

section Looks

theorem forwardChanged_sends (present : scene.forwardSurfaces.cell id = some old) (available : Bool)
    {changed : SurfaceState → SurfaceState → Bool}
    {requests : SurfaceState → SurfaceState → List SurfaceRequest}
    {record : SurfaceState → SurfaceState → SurfaceState}
    (kept : changed old.committed old.pending = false → record old.committed old.pending = old.committed) :
    Ensures (forwardChanged scene id target available changed requests record)
      (Sends id target (if changed old.committed old.pending then requests old.committed old.pending else [])
        { old with committed := record old.committed old.pending } scene) := by
  refine .read fun surface found => ?_
  rw [present] at found
  cases found
  cases differs : changed old.committed old.pending with
  | true =>
      rw [if_pos rfl, if_pos rfl]
      exact .check fun _ => .pure (Applies.sends scene present target _ fun surface =>
        { surface with committed := record surface.committed surface.pending })
  | false =>
      rw [if_neg Bool.false_ne_true, if_neg Bool.false_ne_true]
      apply Ensures.pure
      rw [kept differs]
      exact .refl scene present

theorem Applies.ofDescs {View : Type} {view : ForwardSurface → View} {next : Scene}
    (present : scene.forwardSurfaces.cell id = some old) (changes : Changes [.desc] scene next) :
    Applies view id target [] old scene next := by
  have same : ∃ heap number, next = { scene with imageDescs := heap, nextDescription := number } := by
    induction changes with
    | refl => exact ⟨scene.imageDescs, scene.nextDescription, rfl⟩
    | step _ listed change ih =>
        obtain ⟨heap, number, rfl⟩ := ih
        cases change with
        | descs heap number => exact ⟨heap, number, rfl⟩
        | tell message =>
            have heard := message.effect_mem
            rw [List.mem_singleton.mp listed] at heard
            simp at heard
        | _ => simp at listed
  obtain ⟨heap, number, rfl⟩ := same
  exact .silent present rfl fun _ record there => ⟨record, there, rfl, rfl⟩

theorem sendImageDescription_sends (present : scene.forwardSurfaces.cell id = some old) :
    Ensures (sendImageDescription scene target old.pending.renderIntent old.pending.imageDesc) fun last =>
      ∃ description, Sends id target [imageRequest old.pending.look description] old scene last := by
  cases named : old.pending.imageDesc with
  | none =>
      have request : imageRequest old.pending.look 0 = .unsetImageDescription := by
        simp [imageRequest, SurfaceState.look, named]
      refine .pure ⟨0, ?_⟩
      rw [request]
      exact .speaks scene present target [.unsetImageDescription]
  | some desc =>
      refine .read fun record _ => .pure ⟨record.description, ?_⟩
      have request : imageRequest old.pending.look record.description =
          .setImageDescription desc record.description old.pending.renderIntent := by
        simp [imageRequest, SurfaceState.look, named]
      rw [request]
      exact .speaks scene present target [.setImageDescription desc record.description old.pending.renderIntent]

theorem exchangeDesc_sends (target : Target) (present : scene.forwardSurfaces.cell id = some old) :
    Ensures (exchangeDesc scene id old.committed.imageDesc old.pending.imageDesc) (Sends id target []
      { old with committed := { old.committed with imageDesc := old.pending.imageDesc } } scene) := by
  unfold exchangeDesc
  split
  · refine (dropCommittedDesc_changes id old.committed.imageDesc).bind fun dropped changes => ?_
    have left : Sends id target [] old scene dropped := .ofDescs present changes
    have taken : Sends id target [] { old with committed := { old.committed with imageDesc := old.pending.imageDesc } }
        dropped (dropped.setCommitted id fun committed => { committed with imageDesc := old.pending.imageDesc }) :=
      .commits dropped left.cell target fun committed => { committed with imageDesc := old.pending.imageDesc }
    cases named : old.pending.imageDesc with
    | none =>
        rw [named] at taken
        exact .pure (left.trans taken)
    | some desc =>
        rw [named] at taken
        refine (changeImageDesc_changes desc _).weaken fun last changes => ?_
        exact (left.trans taken).trans (.ofDescs taken.cell changes)
  · rename_i same
    have same : old.committed.imageDesc = old.pending.imageDesc := by simpa using same
    rw [← same]
    exact .pure (.refl scene present)

theorem applyImageDescription_sends (present : scene.forwardSurfaces.cell id = some old)
    (background : AugmentedSurface) :
    Ensures (applyImageDescription scene id target background) fun last => ∃ description,
      Sends id target (if old.committed.imageDesc != old.pending.imageDesc ||
          old.committed.renderIntent != old.pending.renderIntent then [imageRequest old.pending.look description] else [])
        { old with committed := { old.committed with
            imageDesc := old.pending.imageDesc
            renderIntent := old.pending.renderIntent } } scene last := by
  refine .read fun surface found => ?_
  rw [present] at found
  cases found
  split
  · refine .check fun _ => (sendImageDescription_sends present).bind fun sent told => ?_
    obtain ⟨description, told⟩ := told
    refine (exchangeDesc_sends target told.cell).bind fun exchanged exchange => .pure ⟨description, ?_⟩
    exact (told.trans exchange).trans (.commits exchanged exchange.cell target fun committed =>
      { committed with renderIntent := old.pending.renderIntent })
  · rename_i same
    simp only [Bool.or_eq_true, bne_iff_ne, ne_eq, not_or, Decidable.not_not] at same
    refine .pure ⟨0, ?_⟩
    simp only [← same.1, ← same.2]
    exact .refl scene present

theorem applyLook_sends (present : scene.forwardSurfaces.cell id = some old) (background : AugmentedSurface) :
    Ensures (applyLook scene id target background) fun last => ∃ description,
      Sends id target (lookRequests description old.committed.look old.pending.look) old.takeLook scene last := by
  refine (forwardChanged_sends present true fun same => ?_).bind fun scaled scale => ?_
  · have same : old.committed.bufferScale = old.pending.bufferScale := by simpa using same
    simp only [← same]
  refine (forwardChanged_sends scale.cell true fun same => ?_).bind fun transformed transform => ?_
  · have same : old.committed.bufferTransform = old.pending.bufferTransform := by simpa using same
    simp only [← same]
  refine (forwardChanged_sends transform.cell background.viewport fun same => ?_).bind fun placed destination => ?_
  · simp only [Bool.or_eq_false_iff, bne_eq_false_iff_eq] at same
    simp only [← same.1, ← same.2]
  refine (forwardChanged_sends destination.cell background.viewport fun same => ?_).bind fun cropped source => ?_
  · simp only [Bool.or_eq_false_iff, bne_eq_false_iff_eq] at same
    simp only [← same.1.1.1, ← same.1.1.2, ← same.1.2, ← same.2]
  refine (forwardChanged_sends source.cell background.colorRepSurface fun same => ?_).bind fun colored color => ?_
  · simp only [Bool.or_eq_false_iff, bne_eq_false_iff_eq] at same
    obtain ⟨⟨⟨⟨⟨⟨one, two⟩, three⟩, four⟩, five⟩, six⟩, seven⟩ := same
    simp only [← one, ← two, ← three, ← four, ← five, ← six, ← seven]
  refine (applyImageDescription_sends color.cell background).weaken fun last image => ?_
  obtain ⟨description, image⟩ := image
  exact ⟨description, ((((scale.trans transform).trans destination).trans source).trans color).trans image⟩

end Looks

section Contents

/-- The size that an attachment presents is that of its buffer. -/
def Scene.Sizes (scene : Scene) (attachment : Attachment) (size : UInt32 × UInt32) : Prop :=
  ∀ buffer, attachment = .buffer buffer →
    ∃ record, scene.forwardBuffers.cell buffer = some record ∧ size = (record.width, record.height)

theorem Applies.ofBuffer {View : Type} {view : ForwardSurface → View} (present : scene.forwardSurfaces.cell id = some old)
    (buffer : BufferId) {change : ForwardBuffer → ForwardBuffer}
    (kept : ∀ record, (change record).width = record.width ∧ (change record).height = record.height) :
    Applies view id target [] old scene (scene.setBuffer buffer change) := by
  refine .silent present rfl fun other record there => ?_
  obtain ⟨before, found, ⟨_, rfl⟩ | ⟨_, rfl⟩⟩ := scene.forwardBuffers.old_of_modify there
  · exact ⟨before, found, (kept before).1, (kept before).2⟩
  · exact ⟨record, found, rfl, rfl⟩

theorem unlinkCommittedAttachment_sends (target : Target) (present : scene.forwardSurfaces.cell id = some old)
    (attachment : Attachment) :
    Ensures (unlinkCommittedAttachment scene id attachment) (Sends id target [] old scene) := by
  cases attachment with
  | null => exact .pure (.refl scene present)
  | unreachable => exact .pure (.refl scene present)
  | committed => exact .throw
  | buffer buffer => exact .read fun _ _ => .check fun _ => .pure (.ofBuffer present buffer fun _ => ⟨rfl, rfl⟩)

theorem applyAttachment_sends (present : scene.forwardSurfaces.cell id = some old) :
    Ensures (applyAttachment scene id target) fun last => old.pending.attachment ≠ .unreachable ∧
      ∃ size, scene.Sizes old.pending.attachment size ∧
        Sends id target (old.attachRequests size) (old.takeAttachment size) scene last := by
  refine .read fun surface found => ?_
  rw [present] at found
  cases found
  unfold ForwardSurface.attachRequests ForwardSurface.takeAttachment
  cases pending : old.pending.attachment with
  | committed => exact .pure ⟨nofun, (0, 0), nofun, .refl scene present⟩
  | unreachable => exact .throw
  | null =>
      refine (unlinkCommittedAttachment_sends target present _).bind fun unlinked apart => .check fun _ => .pure ?_
      exact ⟨nofun, (0, 0), nofun, apart.trans (.commits unlinked apart.cell target fun committed =>
        { committed with attachment := .null })⟩
  | buffer buffer =>
      refine (unlinkCommittedAttachment_sends target present _).bind fun unlinked apart => ?_
      refine .read fun record there => .pure ⟨nofun, (record.width, record.height), fun name same => ?_, ?_⟩
      · cases same
        obtain ⟨before, found, width, height⟩ := apart.buffers buffer record there
        exact ⟨before, found, by rw [width, height]⟩
      · have offset : old.attachOffset = (if old.version ≥ 5 then 0 else old.pending.offsetX,
            if old.version ≥ 5 then 0 else old.pending.offsetY) := by
          unfold ForwardSurface.attachOffset
          split <;> rfl
        rw [offset]
        have sent : Sends id target _ _ unlinked _ := .sends unlinked apart.cell target
          [.attach (.plugin buffer) record.width record.height (if old.version ≥ 5 then 0 else old.pending.offsetX)
            (if old.version ≥ 5 then 0 else old.pending.offsetY)] fun surface =>
            { surface with
              committed := { surface.committed with
                offsetX := if surface.version < 5 then surface.pending.offsetX else surface.committed.offsetX
                offsetY := if surface.version < 5 then surface.pending.offsetY else surface.committed.offsetY
                attachment := .buffer buffer }
              committedBufferWidth := record.width
              committedBufferHeight := record.height }
        exact (apart.trans sent).trans (.ofBuffer sent.cell buffer fun _ => ⟨rfl, rfl⟩)

theorem applyOffset_sends (present : scene.forwardSurfaces.cell id = some old) :
    Ensures (applyOffset scene id target) (Sends id target old.offsetRequests old.takeOffset scene) := by
  refine .read fun surface found => ?_
  rw [present] at found
  cases found
  unfold ForwardSurface.offsetRequests ForwardSurface.takeOffset ForwardSurface.moves
  split
  · exact .pure (.sends scene present target [.offset old.pending.offsetX old.pending.offsetY] fun surface =>
      { surface with committed := { surface.committed with
          offsetX := old.pending.offsetX
          offsetY := old.pending.offsetY } })
  · exact .pure (.refl scene present)

theorem applyDamage_sends (present : scene.forwardSurfaces.cell id = some old) :
    Ensures (applyDamage scene id target)
      (Sends id target old.damageRequests { old with bufferDamage := [], oldDamage := [] } scene) := by
  refine .read fun surface found => ?_
  rw [present] at found
  cases found
  exact .pure (.sends scene present target old.damageRequests fun surface =>
    { surface with bufferDamage := [], oldDamage := [] })

end Contents

section Stacks

/-- A part of a commit is seen apart from the places of the surfaces. -/
abbrev Stacks := Applies ForwardSurface.unplaced

namespace Applies

variable {requests : List SurfaceRequest} {first second : Scene}

theorem place (part : Stacks id target requests old first second) (child : SurfaceId)
    {change : ForwardSurface → ForwardSurface} (placed : ∀ surface, (change surface).unplaced = surface.unplaced) :
    Stacks id target requests old first (second.setForward child change) :=
  { part with
    cells := fun surface => by
      rw [← part.cells surface]
      exact second.forwardSurfaces.view_modify child change _ (fun surface _ => placed surface) surface }

theorem restack (part : Stacks id target requests old first second) (child : SurfaceId) (request : SubsurfaceRequest) :
    Stacks id target requests old first (second.tell (.subsurface child request)) := by
  obtain ⟨messages, grown, sent, own⟩ := part.wire
  refine { part with wire := ⟨messages ++ [.subsurface child request], ?_, ?_, ?_⟩ }
  · change second.wire ++ _ = _
    rw [grown, List.append_assoc]
  · rw [requestsOn_append, sent]
    exact List.append_nil _
  · intro message member
    rcases List.mem_append.mp member with before | last
    · exact own message before
    · rw [List.mem_singleton.mp last]
      rfl

theorem alter (part : Stacks id target requests old first second) (change : ForwardSurface → ForwardSurface)
    (congruent : ∀ one two : ForwardSurface, one.unplaced = two.unplaced → (change one).unplaced = (change two).unplaced) :
    Stacks id target requests (change old) first (second.setForward id change) := by
  obtain ⟨record, present, same⟩ := part.seen
  have changed : Stacks id target [] (change record) second (second.setForward id change) :=
    .changes second present target change
  have both := part.trans (changed.congr (congruent old record same.symm))
  rw [List.append_nil] at both
  exact both

theorem commit (part : Stacks id target requests old first second) (change : SurfaceState → SurfaceState) :
    Stacks id target requests { old with committed := change old.committed } first (second.setCommitted id change) :=
  part.alter (fun surface => { surface with committed := change surface.committed }) fun _ _ same =>
    congrArg (fun surface : ForwardSurface => { surface with committed := change surface.committed }) same

theorem link (part : Stacks id target requests old first second) (child : SurfaceId)
    (insert : SurfaceState → SurfaceState) :
    Stacks id target requests { old with committed := insert old.committed } first
      (linkCommittedEntry second id child insert) := by
  have placed : Stacks id target requests old first (second.setForward child fun entry =>
      { entry with subsurfCommittedEntry := { entry.subsurfCommittedEntry with link := some id } }) :=
    part.place child fun _ => rfl
  exact placed.commit insert

end Applies

theorem ensureExtSubsurface_stacks (target : Target) {requests : List SurfaceRequest} {first : Scene}
    (part : Stacks id target requests old first scene) (child : SurfaceId) (entry : ForwardSurface) :
    Ensures (ensureExtSubsurface scene id child entry) (Stacks id target requests old first) := by
  unfold ensureExtSubsurface
  split
  · exact .pure part
  · refine .read fun surface _ => .read fun output _ => .pure ?_
    exact (part.restack child (.create output)).place child fun _ => rfl

theorem applyPendingSubsurfEntry_stacks (target : Target) {requests : List SurfaceRequest} {first : Scene}
    (part : Stacks id target requests old first scene) (child : SurfaceId) :
    Ensures (applyPendingSubsurfEntry scene id child) (Stacks id target requests old first) := by
  refine .read fun entry _ => (ensureExtSubsurface_stacks target part child entry).bind fun ensured part => .pure ?_
  exact ((part.restack child _).restack child _).place child fun _ => rfl

theorem applySubsurfacesAbove_stacks (target last : Target) {requests : List SurfaceRequest} {first : Scene}
    (part : Stacks id target requests old first scene) (children : List SurfaceId) :
    Ensures (applySubsurfacesAbove scene id last children) (Stacks id target requests
      { old with committed := { old.committed with
          subsurfacesAbove := old.committed.subsurfacesAbove ++ children } } first) := by
  induction children generalizing scene old last with
  | nil =>
      rw [List.append_nil]
      exact .pure part
  | cons child children ih =>
      refine (applyPendingSubsurfEntry_stacks target part child).bind fun applied part => ?_
      rw [List.append_cons]
      have linked := (part.restack child (.placeAbove last)).link child fun committed =>
        { committed with subsurfacesAbove := committed.subsurfacesAbove ++ [child] }
      exact ih (.ext child) linked

theorem applySubsurfacesBelow_stacks (target last : Target) {requests : List SurfaceRequest} {first : Scene}
    (part : Stacks id target requests old first scene) (children : List SurfaceId) :
    Ensures (applySubsurfacesBelow scene id last children) (Stacks id target requests
      { old with committed := { old.committed with
          subsurfacesBelow := children.reverse ++ old.committed.subsurfacesBelow } } first) := by
  induction children generalizing scene old last with
  | nil => exact .pure part
  | cons child children ih =>
      refine (applyPendingSubsurfEntry_stacks target part child).bind fun applied part => ?_
      rw [List.reverse_cons, List.append_assoc]
      have linked := (part.restack child (.placeBelow last)).link child fun committed =>
        { committed with subsurfacesBelow := child :: committed.subsurfacesBelow }
      exact ih (.ext child) linked

theorem applySubsurfaces_stacks (present : scene.forwardSurfaces.cell id = some old) :
    Ensures (applySubsurfaces scene id target) (Stacks id target [] old.takeStacks scene) := by
  refine .read fun surface found => ?_
  rw [present] at found
  cases found
  have start : Stacks id target [] old scene scene := .refl scene present
  have unlinked (children : List SurfaceId) (state : Scene) (part : Stacks id target [] old scene state) :
      Stacks id target [] old scene (unlinkCommittedEntries state children) := by
    unfold unlinkCommittedEntries
    induction children generalizing state with
    | nil => exact part
    | cons child children ih => exact ih _ (part.place child fun _ => rfl)
  have cleared := (unlinked (old.committed.subsurfacesAbove ++ old.committed.subsurfacesBelow.reverse) scene start).commit
    fun committed => { committed with subsurfacesAbove := [], subsurfacesBelow := [] }
  refine (applySubsurfacesAbove_stacks target target cleared old.pending.subsurfacesAbove).bind fun above part => ?_
  refine (applySubsurfacesBelow_stacks target target part old.pending.subsurfacesBelow.reverse).weaken fun last part => ?_
  rw [List.reverse_reverse, List.append_nil] at part
  exact part

end Stacks

theorem startFramePending_stacks {record : ForwardSurface} (target : Target) (output : Option OutputId)
    (present : scene.forwardSurfaces.cell id = some record) :
    Ensures (startFramePending scene output) (Stacks id target [] record scene) := by
  cases output with
  | none => exact .pure (.refl scene present)
  | some output =>
      refine .read fun record _ => ?_
      split
      · exact .pure (.refl scene present)
      · apply Ensures.pure
        have rest : Stacks id target [] _ scene scene := .refl scene present
        exact { rest with outputs := scene.outputs.view_modify output _ _ fun _ _ => rfl }

theorem applyFrameCallbacks_stacks {record : ForwardSurface} (present : scene.forwardSurfaces.cell id = some record) :
    Ensures (applyFrameCallbacks scene id target)
      (Stacks id target record.frameRequests { record with frameCallbacks := [] } scene) := by
  refine .read fun surface found => ?_
  rw [present] at found
  cases found
  unfold ForwardSurface.frameRequests
  split
  · rename_i empty
    have same : record.frameCallbacks = [] := List.isEmpty_iff.mp empty
    rw [← same]
    exact .pure (.refl scene present)
  · have sent : Stacks id target [.frame] record scene (scene.request target .frame) :=
      .speaks scene present target [.frame]
    have there : (scene.request target .frame).forwardSurfaces.cell id = some record := present
    refine (startFramePending_stacks target record.swaySurface there).bind fun started part => .pure ?_
    have both := sent.trans part
    have waits : Stacks id target [.frame] record scene { started with
        frameCallbacks := started.frameCallbacks.alloc ⟨record.frameCallbacks, record.swaySurface⟩ } :=
      ⟨both.args, both.display, both.surfaces, both.nextOutput, both.nextSurface, both.outputs, both.cells,
        both.buffers, both.wire⟩
    exact waits.alter (fun surface => { surface with frameCallbacks := [] }) fun _ _ same =>
      congrArg (fun surface : ForwardSurface => { surface with frameCallbacks := [] }) same

theorem applyPendingSurfaceUpdates_stacks (present : scene.forwardSurfaces.cell id = some old)
    (background : AugmentedSurface) :
    Ensures (applyPendingSurfaceUpdates scene id target background) fun last =>
      old.pending.attachment ≠ .unreachable ∧ ∃ description size, scene.Sizes old.pending.attachment size ∧
        Stacks id target (lookRequests description old.committed.look old.pending.look ++ old.contentRequests size)
          (old.presented size) scene last := by
  rw [applyPendingSurfaceUpdates_split]
  refine (applyLook_sends present background).bind fun looked look => ?_
  obtain ⟨description, look⟩ := look
  refine (applyAttachment_sends look.cell).bind fun attached attachment => ?_
  obtain ⟨reachable, size, sizes, attachment⟩ := attachment
  refine (applyOffset_sends attachment.cell).bind fun moved offset => ?_
  refine (applyDamage_sends offset.cell).bind fun damaged damage => ?_
  refine (applySubsurfaces_stacks damage.cell).bind fun stacked stacking => ?_
  obtain ⟨record, there, same⟩ := stacking.seen
  refine (applyFrameCallbacks_stacks there).weaken fun last frames => ⟨reachable, description, size, ?_, ?_⟩
  · intro buffer named
    obtain ⟨record, found, sized⟩ := sizes buffer named
    obtain ⟨before, stood, width, height⟩ := look.buffers buffer record found
    exact ⟨before, stood, by rw [sized, width, height]⟩
  · have full := ((((look.trans attachment).trans offset).trans damage).coarsen ForwardSurface.unplaced).trans stacking
    have kept := old.takeContent_kept size
    have requested := congrArg ForwardSurface.frameCallbacks kept
    have records := congrArg ForwardSurface.damageRequests kept
    have callbacks : record.frameCallbacks = old.frameCallbacks :=
      (congrArg ForwardSurface.frameCallbacks same).trans requested
    have frame : record.frameRequests = old.frameRequests := by
      unfold ForwardSurface.frameRequests
      rw [callbacks]
    have cleared : ({ record with frameCallbacks := [] } : ForwardSurface).unplaced = (old.presented size).unplaced :=
      congrArg (fun surface : ForwardSurface => { surface with frameCallbacks := [] }) same
    have all := full.trans (frames.congr cleared.symm)
    rw [frame, show (old.takeLook.takeAttachment size).takeOffset.damageRequests = old.damageRequests from records] at all
    unfold ForwardSurface.contentRequests
    simp only [List.append_assoc, List.append_nil] at all ⊢
    exact all

end SwaylockPlugin
