import SwaylockPlugin.Proof.Assertions
import SwaylockPlugin.Proof.Delivery
import SwaylockPlugin.Proof.Fallback
import SwaylockPlugin.Proof.Teardown

namespace SwaylockPlugin

open Library

/-- A message may be an event for a plugin. -/
def Message.pluginEvent : Message → Option PluginEvent
  | .plugin event => some event
  | _ => none

/-- The events for plugins stand in the order in which they were sent. -/
def pluginEvents (wire : List Message) : List PluginEvent := wire.filterMap Message.pluginEvent

theorem Message.pluginEvent_none {message : Message} (plugin : message.effect ≠ .plugin) (done : message.effect ≠ .done) :
    message.pluginEvent = none := by
  cases message with
  | plugin event =>
      cases event with
      | callbackDone => exact absurd rfl done
      | _ => exact absurd rfl plugin
  | _ => rfl

section Handlers

variable {scene : Scene} {env : Environment}

theorem Changes.unsent {effects : List Effect} {first second : Scene} (changes : Changes effects first second)
    (plugin : Effect.plugin ∉ effects) (done : Effect.done ∉ effects) :
    pluginEvents second.wire = pluginEvents first.wire := by
  obtain ⟨told, grown, heard⟩ := changes.wire
  have silent : told.filterMap Message.pluginEvent = [] := by
    refine List.filterMap_eq_nil_iff.mpr fun message member => Message.pluginEvent_none ?_ ?_
    · exact fun same => plugin (same ▸ heard message member)
    · exact fun same => done (same ▸ heard message member)
  rw [grown, pluginEvents, List.filterMap_append, silent, List.append_nil]
  rfl

end Handlers

section Steps

variable {state next : SwaylockState} {occurrence : Occurrence}

end Steps

section Sends

variable {scene next : Scene} {env : Environment}

end Sends

section Runs

variable {state next : SwaylockState}

end Runs

end SwaylockPlugin
