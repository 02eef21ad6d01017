import SwaylockPlugin.Abstract.Core
import SwaylockPlugin.Construction.LayerShell
import SwaylockPlugin.Library.Machine

namespace SwaylockPlugin

open Library

/-- The plugin surface of an output shows its configure cycle and its committed look. -/
structure PluginView where
  cycle : PluginCycle
  committed : Look

/-- A plugin surface is viewed through its core. -/
def SurfaceCore.view (core : SurfaceCore) : PluginView := ⟨core.roleCore.cycle, core.committed⟩

/-- The cycle of one output consists of the output, its plugin surface and its entries. -/
structure CycleView where
  display : Bool
  output : Option OutputCore
  plugin : Option PluginView
  log : List Entry

/-- The plugin surface of an output has a cycle of its own. -/
def CycleView.pluginCycle (view : CycleView) : Option PluginCycle := view.plugin.map PluginView.cycle

theorem pluginCycle_some {view : CycleView} {plugin : PluginView} (found : view.plugin = some plugin) :
    view.pluginCycle = some plugin.cycle := by
  rw [CycleView.pluginCycle, found]
  rfl

/-- The cycle of an output takes one of these steps. -/
inductive CycleEvent where
  | appear
  | vanish
  | create
  | configure (serial width height : UInt32)
  | answer (serial width height : UInt32)
  | ackNewest
  | fallback
  | teardown
  | link (surface : SurfaceId) (plugin : PluginView)
  | unlink
  | initial
  | take (serial : UInt32)
  | refuse (serial : UInt32)
  | update (absorbed : Bool) (pending : Look)
  | content (requests : List SurfaceRequest)
  | accept
  | render

/-- A size is present when neither of its sides is zero. -/
def sized (width height : UInt32) : Bool := decide (0 < width) && decide (0 < height)

namespace OutputCore

/-- An output that was just allocated has no size and no serial. -/
def allocated : OutputCore := (SwaylockSurface.allocated 0 false).core

/-- A configure event is recorded in the output. -/
def record (core : OutputCore) (serial width height : UInt32) : OutputCore :=
  { core with width := width, height := height, newestSerial := serial }

/-- With the nested server up a configure event waits, and the first one is kept for the first plugin. -/
def await (core : OutputCore) (serial width height : UInt32) : OutputCore :=
  { core.record serial width height with
    firstConfigureSerial :=
      if !sized core.width core.height && sized width height then serial else core.firstConfigureSerial
    usedFirstConfigure :=
      if !sized core.width core.height && sized width height then false else core.usedFirstConfigure
    hasNewerSerial := true }

/-- The pending acknowledgement of an output goes out with the next accepted commit. -/
def waiting (core : OutputCore) : List UInt32 :=
  if core.hasPendingAckConf then [core.pendingUpstreamSerial] else []

/-- An accepted commit acknowledges what waits and leaves a buffer. -/
def accepted (core : OutputCore) : OutputCore :=
  { core with
    hasBuffer := true
    hasPendingAckConf := false
    hasNewerSerial :=
      if core.hasPendingAckConf && core.pendingUpstreamSerial == core.newestSerial then false
      else core.hasNewerSerial }

/-- The first configure of a plugin surface answers the first, the newest or no upstream configure. -/
def initialPair (core : OutputCore) (pluginSerial : UInt32) : SerialPair :=
  if !core.usedFirstConfigure then
    ⟨pluginSerial, core.firstConfigureSerial, core.width, core.height, false⟩
  else if core.hasNewerSerial then ⟨pluginSerial, core.newestSerial, core.width, core.height, false⟩
  else ⟨pluginSerial, 0, core.width, core.height, true⟩

/-- A serial pair that is not local waits for the next accepted commit. -/
def awaitPair (core : OutputCore) (pair : SerialPair) : OutputCore :=
  if pair.localOnly then core
  else { core with hasPendingAckConf := true, pendingUpstreamSerial := pair.upstreamSerial }

@[simp] theorem awaitPair_pluginSurface (core : OutputCore) (pair : SerialPair) :
    (core.awaitPair pair).pluginSurface = core.pluginSurface := by
  unfold awaitPair
  split <;> rfl

end OutputCore

namespace PluginCycle

/-- A serial pair joins the end of the table. -/
def push (cycle : PluginCycle) (pair : SerialPair) : PluginCycle :=
  { cycle with serialTable := cycle.serialTable ++ [pair] }

/-- A configured plugin surface is told the new size of an output that keeps one. -/
def told (cycle : PluginCycle) (pluginSerial serial width height : UInt32) (resized : Bool) : PluginCycle :=
  if resized && cycle.hasBeenConfigured then
    cycle.push ⟨pluginSerial, serial, width, height, false⟩
  else cycle

/-- A plugin surface is configured for the first time. -/
def start (cycle : PluginCycle) (pair : SerialPair) : PluginCycle :=
  { cycle.push pair with hasBeenConfigured := true }

/-- A plugin surface acknowledges a pair of its table. -/
def use (cycle : PluginCycle) (serial : UInt32) (pair : SerialPair) (rest : List SerialPair) : PluginCycle :=
  { cycle with
    lastUsedPluginSerial := serial
    lastAckedWidth := pair.configWidth
    lastAckedHeight := pair.configHeight
    serialTable := rest }

/-- The serials of a table that are not local stand in order. -/
def serials (cycle : PluginCycle) : List UInt32 :=
  (cycle.serialTable.filter fun pair => !pair.localOnly).map SerialPair.upstreamSerial

/-- A plugin surface that was not configured has an empty table and acknowledged no size. -/
def Untouched (cycle : PluginCycle) : Prop :=
  cycle.hasBeenConfigured = false →
    cycle.serialTable = [] ∧ cycle.lastAckedWidth = 0 ∧ cycle.lastAckedHeight = 0

end PluginCycle

/-- The image description of a look is set or unset upstream. -/
def imageRequest (pending : Look) (description : UpstreamDesc) : SurfaceRequest :=
  match pending.imageDesc with
  | none => .unsetImageDescription
  | some desc => .setImageDescription desc description pending.renderIntent

/-- The changed values of a look are sent upstream in the order of the source. -/
def lookRequests (description : UpstreamDesc) (committed pending : Look) : List SurfaceRequest :=
  (if committed.bufferScale != pending.bufferScale then [.setBufferScale pending.bufferScale] else []) ++
  (if committed.bufferTransform != pending.bufferTransform then
    [.setBufferTransform pending.bufferTransform] else []) ++
  (if committed.viewportDestWidth != pending.viewportDestWidth ||
      committed.viewportDestHeight != pending.viewportDestHeight then
    [.setDestination pending.viewportDestWidth pending.viewportDestHeight] else []) ++
  (if committed.viewportSourceX != pending.viewportSourceX ||
      committed.viewportSourceY != pending.viewportSourceY ||
      committed.viewportSourceW != pending.viewportSourceW ||
      committed.viewportSourceH != pending.viewportSourceH then
    [.setSource committed.viewportSourceX committed.viewportSourceY
      committed.viewportSourceW committed.viewportSourceH] else []) ++
  (if committed.hasAlphaMode != pending.hasAlphaMode || committed.alphaMode != pending.alphaMode ||
      committed.hasChromaLocation != pending.hasChromaLocation ||
      committed.chromaLocation != pending.chromaLocation ||
      committed.hasCoefRange != pending.hasCoefRange ||
      committed.coefficients != pending.coefficients || committed.range != pending.range then
    [.recreateColorRepresentation] ++
      (if pending.hasAlphaMode then [.setAlphaMode pending.alphaMode] else []) ++
      (if pending.hasChromaLocation then [.setChromaLocation pending.chromaLocation] else []) ++
      (if pending.hasCoefRange then [.setCoefficientsAndRange pending.coefficients pending.range] else [])
    else []) ++
  (if committed.imageDesc != pending.imageDesc || committed.renderIntent != pending.renderIntent then
    [imageRequest pending description] else [])

/-- A request is plain when it neither sets a value of a look nor commits. -/
def SurfaceRequest.plain : SurfaceRequest → Bool
  | .attach _ _ _ _ _ | .offset _ _ | .damageBuffer _ | .damage _ | .frame => true
  | _ => false

/-- The entries of an accepted commit are the acknowledgement that waits and the commit itself. -/
def OutputCore.acceptEntries (core : OutputCore) : List Entry :=
  core.waiting.map .acknowledged ++ [.request .commit]

/-- The entries of a fallback fill the lock surface with a plain buffer of its size. -/
def OutputCore.fallbackEntries (core : OutputCore) : List Entry :=
  [.request (.setBufferScale 1), .request (.attach .fallback core.width core.height 0 0),
    .request (.damageBuffer ⟨0, 0, int32Max, int32Max⟩), .request .commit]

/-- Each event changes the cycle of an output in its own way. -/
inductive CycleStep (view : CycleView) : CycleEvent → CycleView → Prop
  | appear : view.output = none → view.plugin = none → view.log = [] →
      CycleStep view .appear { view with output := some .allocated }
  | vanish : CycleStep view .vanish { view with output := none, plugin := none }
  | create {core : OutputCore} : view.output = some core →
      CycleStep view .create { view with output := some { core with extSessionLockSurface := true } }
  | configure {core : OutputCore} {serial width height : UInt32} (pluginSerial : UInt32) :
      view.display = true → view.output = some core → serial ∉ issuedIn view.log →
      CycleStep view (.configure serial width height) { view with
        output := some (core.await serial width height)
        plugin := view.plugin.map fun plugin => { plugin with
          cycle := plugin.cycle.told pluginSerial serial width height
            (sized core.width core.height && sized width height) }
        log := view.log ++ [.configured serial width height] }
  | answer {core : OutputCore} {serial width height : UInt32} :
      view.display = false → view.output = some core → serial ∉ issuedIn view.log →
      CycleStep view (.answer serial width height) { view with
        output := some { core.record serial width height with hasNewerSerial := false }
        log := view.log ++ [.configured serial width height, .acknowledged serial] }
  | ackNewest {core : OutputCore} : view.display = false → view.output = some core →
      core.hasNewerSerial = true →
      CycleStep view .ackNewest { view with
        output := some { core with hasNewerSerial := false }
        log := view.log ++ [.acknowledged core.newestSerial] }
  | fallback {core : OutputCore} : view.display = false → view.output = some core →
      core.hasNewerSerial = false → (sized core.width core.height = true ∨ issuedIn view.log ≠ []) →
      CycleStep view .fallback { view with
        output := some { core with hasBuffer := true }
        log := view.log ++ core.fallbackEntries }
  | teardown : CycleStep view .teardown { view with display := false }
  | link {core : OutputCore} {surface : SurfaceId} {plugin : PluginView} (pluginSerial : UInt32) :
      view.display = true → view.output = some core → view.plugin = none → plugin.cycle.Untouched →
      CycleStep view (.link surface plugin) { view with
        output := some { core with pluginSurface := some surface }
        plugin := some { plugin with cycle := { plugin.cycle with lastUsedPluginSerial := pluginSerial } } }
  | unlink {core : OutputCore} : view.output = some core →
      CycleStep view .unlink { view with
        output := some { core with pluginSurface := none }
        plugin := none }
  | initial {core : OutputCore} {plugin : PluginView} (pluginSerial : UInt32) :
      view.display = true → view.output = some core → view.plugin = some plugin →
      plugin.cycle.hasBeenConfigured = false →
      CycleStep view .initial { view with
        output := some { core with usedFirstConfigure := true }
        plugin := some { plugin with cycle := plugin.cycle.start (core.initialPair pluginSerial) } }
  | take {core : OutputCore} {plugin : PluginView} {serial : UInt32} {pair : SerialPair}
      {rest : List SerialPair} :
      view.display = true → view.output = some core → view.plugin = some plugin →
      takePair serial plugin.cycle.serialTable = some (pair, rest) →
      CycleStep view (.take serial) { view with
        output := some (core.awaitPair pair)
        plugin := some { plugin with cycle := plugin.cycle.use serial pair rest } }
  | refuse {plugin : PluginView} {serial : UInt32} : view.plugin = some plugin →
      CycleStep view (.refuse serial) { view with
        plugin := some { plugin with cycle := { plugin.cycle with lastUsedPluginSerial := serial } } }
  | update {plugin : PluginView} {absorbed : Bool} {pending : Look} (description : UpstreamDesc) :
      view.display = true → view.plugin = some plugin →
      CycleStep view (.update absorbed pending) { view with
        plugin := some { plugin with committed := pending }
        log := view.log ++
          (if absorbed then [] else (lookRequests description plugin.committed pending).map .request) }
  | content {requests : List SurfaceRequest} : view.display = true →
      (∀ request ∈ requests, request.plain = true) → CycleStep view (.content requests) { view with log := view.log ++ requests.map .request }
  | accept {core : OutputCore} {plugin : PluginView} : view.display = true → view.output = some core →
      view.plugin = some plugin → sized plugin.cycle.lastAckedWidth plugin.cycle.lastAckedHeight = true →
      CycleStep view .accept { view with
        output := some core.accepted
        log := view.log ++ core.acceptEntries }
  | render {core : OutputCore} : view.output = some core → core.hasBuffer = true →
      CycleStep view .render { view with log := view.log ++ [.request .frame, .request .commit] }

/-- The cycle of an output that does not exist yet is empty, and the nested server is up. -/
def CycleView.Fresh (view : CycleView) : Prop :=
  view.display = true ∧ view.output = none ∧ view.plugin = none ∧ view.log = []

/-- The major events set up a configure cycle or exchange its look. -/
def CycleEvent.major : CycleEvent → Bool
  | .configure _ _ _ | .answer _ _ _ | .link _ _ | .initial | .update _ _ => true
  | _ => false

/-- A lenient condition restricts only major events, and no update that changes nothing. -/
structure Lenient (meets : CycleView → CycleEvent → Prop) : Prop where
  minor : ∀ view event, event.major = false → meets view event
  settled : ∀ view plugin, view.plugin = some plugin → meets view (.update false plugin.committed)

/-- The configure cycle of an output is a machine of its own. -/
def cycle : Machine CycleView CycleEvent where
  initial := CycleView.Fresh
  step := CycleStep

end SwaylockPlugin
