import SwaylockPlugin.Abstract.Cycle
import SwaylockPlugin.Library.Sequence

namespace SwaylockPlugin

open Library

section Serials

variable {log added : List Entry}

@[simp] theorem issuedIn_append (first second : List Entry) :
    issuedIn (first ++ second) = issuedIn first ++ issuedIn second := List.filterMap_append

@[simp] theorem ackedIn_append (first second : List Entry) :
    ackedIn (first ++ second) = ackedIn first ++ ackedIn second := List.filterMap_append

@[simp] theorem issuedIn_requests (requests : List SurfaceRequest) :
    issuedIn (requests.map .request) = [] := by
  unfold issuedIn
  rw [List.filterMap_map]
  exact List.filterMap_eq_nil_iff.mpr fun _ _ => rfl

@[simp] theorem ackedIn_requests (requests : List SurfaceRequest) :
    ackedIn (requests.map .request) = [] := by
  unfold ackedIn
  rw [List.filterMap_map]
  exact List.filterMap_eq_nil_iff.mpr fun _ _ => rfl

@[simp] theorem issuedIn_acknowledged (serials : List UInt32) :
    issuedIn (serials.map .acknowledged) = [] := by
  unfold issuedIn
  rw [List.filterMap_map]
  exact List.filterMap_eq_nil_iff.mpr fun _ _ => rfl

@[simp] theorem ackedIn_acknowledged (serials : List UInt32) :
    ackedIn (serials.map .acknowledged) = serials := by
  unfold ackedIn
  rw [List.filterMap_map]
  exact List.filterMap_some

/-- A commit comes after an acknowledgement wherever it stands. -/
def CommitsAcked (log : List Entry) : Prop :=
  ∀ before after, log = before ++ .request .commit :: after → ackedIn before ≠ []

theorem split_append {before after : List Entry} {entry : Entry} (same : log ++ added = before ++ entry :: after) :
    (∃ rest, log = before ++ entry :: rest) ∨ ∃ middle, before = log ++ middle ∧ added = middle ++ entry :: after := by
  rcases List.append_eq_append_iff.mp same with ⟨middle, rfl, rest⟩ | ⟨middle, rfl, rest⟩
  · exact .inr ⟨middle, rfl, rest⟩
  · cases middle with
    | nil => exact .inr ⟨[], by rw [List.append_nil, List.append_nil], rest.symm⟩
    | cons entry middle =>
        obtain ⟨rfl, _⟩ := List.cons.inj rest
        exact .inl ⟨middle, rfl⟩

theorem CommitsAcked.append (old : CommitsAcked log)
    (new : ∀ before after, added = before ++ .request .commit :: after → ackedIn (log ++ before) ≠ []) :
    CommitsAcked (log ++ added) := by
  intro before after same
  rcases split_append same with ⟨rest, earlier⟩ | ⟨middle, rfl, later⟩
  · exact old before rest earlier
  · exact new middle after later

theorem CommitsAcked.append_of_acked (old : CommitsAcked log) (acked : ackedIn log ≠ []) :
    CommitsAcked (log ++ added) := by
  apply old.append
  intro before _ _
  rw [ackedIn_append]
  exact List.append_ne_nil_of_left_ne_nil acked _

theorem CommitsAcked.append_of_none (old : CommitsAcked log) (none_ : Entry.request .commit ∉ added) :
    CommitsAcked (log ++ added) := by
  apply old.append
  intro before after same
  exact absurd (same ▸ List.mem_append_right before (List.mem_cons_self)) none_

/-- Each acknowledgement of a log continues the acknowledged serials among the ones that were issued before it. -/
def AcksInTurn (log : List Entry) : Prop :=
  ∀ before serial after, log = before ++ .acknowledged serial :: after →
    (ackedIn before ++ [serial]).Sublist (issuedIn before)

theorem AcksInTurn.append (old : AcksInTurn log) (new : ∀ before serial after,
    added = before ++ .acknowledged serial :: after →
      (ackedIn (log ++ before) ++ [serial]).Sublist (issuedIn (log ++ before))) : AcksInTurn (log ++ added) := by
  intro before serial after same
  rcases split_append same with ⟨rest, earlier⟩ | ⟨middle, rfl, later⟩
  · exact old before serial rest earlier
  · exact new middle serial after later

/-- Entries without a configure event may be appended while the serials stay in order. -/
theorem AcksInTurn.append_of_unissued (old : AcksInTurn log) (unissued : issuedIn added = [])
    (ordered : (ackedIn (log ++ added)).Sublist (issuedIn (log ++ added))) : AcksInTurn (log ++ added) := by
  refine old.append fun before serial after same => ?_
  have silent : issuedIn before = [] := by
    rw [same, issuedIn_append] at unissued
    exact (List.append_eq_nil_iff.mp unissued).1
  have part : (ackedIn (log ++ before) ++ [serial]).Sublist (ackedIn (log ++ added)) := by
    have split : log ++ added = (log ++ before ++ [.acknowledged serial]) ++ after := by
      rw [same, List.append_assoc, List.append_assoc, List.singleton_append]
    have acked : ackedIn (log ++ before ++ [.acknowledged serial]) = ackedIn (log ++ before) ++ [serial] :=
      ackedIn_append _ _
    rw [split, ackedIn_append _ after, acked]
    exact List.sublist_append_left _ _
  rw [issuedIn_append, unissued, List.append_nil] at ordered
  rw [issuedIn_append log before, silent, List.append_nil]
  exact part.trans ordered

end Serials

/-- The log of an output has distinct serials, acknowledges them in order, and commits after that. -/
structure LogOrder (log : List Entry) : Prop where
  nodup : (issuedIn log).Nodup
  acked : (ackedIn log).Sublist (issuedIn log)
  commits : CommitsAcked log

/-- The output knows its newest serial, and whether it was acknowledged. -/
structure OutputOrder (core : OutputCore) (log : List Entry) : Prop where
  newest : issuedIn log ≠ [] → (issuedIn log).getLast? = some core.newestSerial
  present : sized core.width core.height = true → issuedIn log ≠ []
  current : issuedIn log ≠ [] → core.hasNewerSerial = false →
    (ackedIn log).getLast? = some core.newestSerial
  newer : core.hasNewerSerial = true → (ackedIn log ++ [core.newestSerial]).Sublist (issuedIn log)
  drawn : core.hasBuffer = true → ackedIn log ≠ []

/-- A configured plugin surface will acknowledge later serials only, and each of them once. -/
structure PluginOrder (core : OutputCore) (log : List Entry) (cycle : PluginCycle) : Prop where
  table : (ackedIn log ++ cycle.serials).Sublist (issuedIn log)
  tail : ∀ pair ∈ cycle.serialTable.tail, pair.localOnly = false
  head : ∀ pair ∈ cycle.serialTable, pair.localOnly = true →
    core.hasPendingAckConf = false ∧ ackedIn log ≠ []
  used : sized cycle.lastAckedWidth cycle.lastAckedHeight = true →
    (ackedIn log ++ core.waiting ++ cycle.serials).Sublist (issuedIn log) ∧
      ackedIn log ++ core.waiting ≠ []

/-- A plugin surface that was configured without a size stays without one. -/
structure PluginDull (core : OutputCore) (cycle : PluginCycle) : Prop where
  size : sized core.width core.height = false
  table : ∀ pair ∈ cycle.serialTable, sized pair.configWidth pair.configHeight = false
  used : sized cycle.lastAckedWidth cycle.lastAckedHeight = false

/-- While the nested server is up, the output and its plugin surface agree on what is left. -/
structure ServerOrder (core : OutputCore) (plugin : Option PluginCycle) (log : List Entry) : Prop where
  settled : sized core.width core.height = true → core.hasNewerSerial = false →
    core.hasPendingAckConf = false
  unused : sized core.width core.height = true → core.usedFirstConfigure = false →
    (ackedIn log ++ [core.firstConfigureSerial]).Sublist (issuedIn log) ∧
      ∀ cycle, plugin = some cycle → cycle.hasBeenConfigured = false
  configured : ∀ cycle, plugin = some cycle → cycle.hasBeenConfigured = true →
    PluginOrder core log cycle ∨ PluginDull core cycle

/-- The cycle of an output is in order. -/
structure CycleOrder (view : CycleView) : Prop where
  log : LogOrder view.log
  output : ∀ core, view.output = some core → OutputOrder core view.log
  untouched : ∀ cycle, view.pluginCycle = some cycle → cycle.Untouched
  server : view.display = true → ∀ core, view.output = some core →
    ServerOrder core view.pluginCycle view.log

/-- A configure event that brings a size finds no configured plugin surface, and a plugin surface gets the
role before it is configured. -/
def inTurn (view : CycleView) : CycleEvent → Prop
  | .configure _ width height => ∀ core, view.output = some core → sized core.width core.height = false →
      sized width height = true → ∀ cycle, view.pluginCycle = some cycle → cycle.hasBeenConfigured = false
  | .link _ plugin => plugin.cycle.hasBeenConfigured = false
  | _ => True

theorem takePair_split {serial : UInt32} {table rest : List SerialPair} {pair : SerialPair}
    (found : takePair serial table = some (pair, rest)) : ∃ before, table = before ++ pair :: rest := by
  induction table with
  | nil => cases found
  | cons first table ih =>
      unfold takePair at found
      split at found
      · cases found
        exact ⟨[], rfl⟩
      · obtain ⟨before, rfl⟩ := ih found
        exact ⟨first :: before, rfl⟩

section Requests

variable {view : CycleView} (requests : List SurfaceRequest)

theorem LogOrder.afterRequests {log : List Entry} (order : LogOrder log)
    (none_ : SurfaceRequest.commit ∉ requests) : LogOrder (log ++ requests.map .request) where
  nodup := by simpa using order.nodup
  acked := by simpa using order.acked
  commits := by
    apply order.commits.append_of_none
    intro member
    obtain ⟨request, present, same⟩ := List.mem_map.mp member
    cases same
    exact none_ present

theorem OutputOrder.afterRequests {core : OutputCore} {log : List Entry} (order : OutputOrder core log) :
    OutputOrder core (log ++ requests.map .request) where
  newest := by simpa using order.newest
  present := by simpa using order.present
  current := by simpa using order.current
  newer := by simpa using order.newer
  drawn := by simpa using order.drawn

theorem PluginOrder.afterRequests {core : OutputCore} {log : List Entry} {cycle : PluginCycle}
    (order : PluginOrder core log cycle) : PluginOrder core (log ++ requests.map .request) cycle where
  table := by simpa using order.table
  tail := order.tail
  head := by simpa using order.head
  used := by simpa using order.used

theorem ServerOrder.afterRequests {core : OutputCore} {plugin : Option PluginCycle} {log : List Entry}
    (order : ServerOrder core plugin log) : ServerOrder core plugin (log ++ requests.map .request) where
  settled := order.settled
  unused := by simpa using order.unused
  configured current same done := by
    rcases order.configured current same done with ordered | dull
    · exact .inl (ordered.afterRequests requests)
    · exact .inr dull

theorem CycleOrder.afterRequests (order : CycleOrder view) (none_ : SurfaceRequest.commit ∉ requests) :
    CycleOrder { view with log := view.log ++ requests.map .request } where
  log := order.log.afterRequests requests none_
  output core present := (order.output core present).afterRequests requests
  untouched := order.untouched
  server up core present := (order.server up core present).afterRequests requests

end Requests

end SwaylockPlugin
