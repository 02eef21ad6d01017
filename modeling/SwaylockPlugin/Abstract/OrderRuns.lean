import SwaylockPlugin.Abstract.OrderSteps

namespace SwaylockPlugin

open Library

section Step

variable {view next : CycleView} {core : OutputCore} {plugin : PluginView} {serial width height : UInt32}

theorem CycleOrder.appear (order : CycleOrder view) (noPlugin : view.plugin = none) (empty : view.log = []) :
    CycleOrder { view with output := some .allocated } := by
  refine ⟨order.log, fun core same => ?_, order.untouched, fun _ core same => ?_⟩
  · cases same
    change OutputOrder OutputCore.allocated view.log
    rw [empty]
    refine ⟨fun issued => absurd rfl issued, ?_, fun issued => absurd rfl issued, ?_, ?_⟩
    · intro size
      cases size
    · intro newer
      cases newer
    · intro buffer
      cases buffer
  · cases same
    change ServerOrder OutputCore.allocated view.pluginCycle view.log
    rw [CycleView.pluginCycle, noPlugin]
    refine ⟨?_, ?_, fun cycle same => (by cases same)⟩
    · intro size
      cases size
    · intro size
      cases size

theorem CycleOrder.vanish (order : CycleOrder view) :
    CycleOrder { view with output := none, plugin := none } :=
  ⟨order.log, fun _ same => (by cases same), fun _ same => (by cases same), fun _ _ same => (by cases same)⟩

theorem CycleOrder.create (order : CycleOrder view) (present : view.output = some core) :
    CycleOrder { view with output := some { core with extSessionLockSurface := true } } := by
  refine ⟨order.log, fun other same => ?_, order.untouched, fun up other same => ?_⟩
  · cases same
    have output := order.output core present
    exact ⟨output.newest, output.present, output.current, output.newer, output.drawn⟩
  · cases same
    have server := order.server up core present
    refine ⟨server.settled, server.unused, fun cycle same done => ?_⟩
    rcases server.configured cycle same done with left | dull
    · exact .inl ⟨left.table, left.tail, left.head, left.used⟩
    · exact .inr ⟨dull.size, dull.table, dull.used⟩

theorem CycleOrder.configure (order : CycleOrder view) (up : view.display = true)
    (present : view.output = some core) (fresh : serial ∉ issuedIn view.log) (pluginSerial : UInt32)
    (turn : sized core.width core.height = false → sized width height = true →
      ∀ cycle, view.pluginCycle = some cycle → cycle.hasBeenConfigured = false) :
    CycleOrder { view with
      output := some (core.await serial width height)
      plugin := view.plugin.map fun plugin => { plugin with
        cycle := plugin.cycle.told pluginSerial serial width height
          (sized core.width core.height && sized width height) }
      log := view.log ++ [.configured serial width height] } := by
  have mapped : (view.plugin.map fun plugin => { plugin with
      cycle := plugin.cycle.told pluginSerial serial width height
        (sized core.width core.height && sized width height) }).map PluginView.cycle =
      view.pluginCycle.map fun cycle => cycle.told pluginSerial serial width height
        (sized core.width core.height && sized width height) := by
    simp only [CycleView.pluginCycle, Option.map_map, Function.comp_def]
  refine ⟨order.log.issue fresh, fun other same => ?_, fun cycle same => ?_, fun _ other same => ?_⟩
  · cases same
    exact (order.output core present).await order.log serial width height
  · change (view.plugin.map _).map PluginView.cycle = some cycle at same
    rw [mapped] at same
    obtain ⟨old, found, rfl⟩ := Option.map_eq_some_iff.mp same
    unfold PluginCycle.told
    split
    · rename_i done
      intro blank
      rw [Bool.and_eq_true] at done
      exact absurd (done.2.symm.trans blank) (by decide)
    · exact order.untouched old found
  · cases same
    change ServerOrder _ ((view.plugin.map _).map PluginView.cycle) _
    rw [mapped]
    exact (order.server up core present).await order.log turn pluginSerial serial

theorem CycleOrder.answer (order : CycleOrder view) (down : view.display = false)
    (fresh : serial ∉ issuedIn view.log) :
    CycleOrder { view with
      output := some { core.record serial width height with hasNewerSerial := false }
      log := view.log ++ [.configured serial width height, .acknowledged serial] } := by
  have issued : LogOrder (view.log ++ [.configured serial width height]) := order.log.issue fresh
  have next : (ackedIn (view.log ++ [.configured serial width height]) ++ [serial]).Sublist
      (issuedIn (view.log ++ [.configured serial width height])) := by
    simp only [ackedIn_append, issuedIn_append]
    exact (List.append_nil (ackedIn view.log)).symm ▸ order.log.acked.append (List.Sublist.refl [serial])
  refine ⟨?_, fun other same => ?_, order.untouched, fun up => absurd (up.symm.trans down) (by decide)⟩
  · have both := issued.acknowledge next
    rw [List.append_assoc] at both
    exact both
  · cases same
    exact .answer serial width height

theorem CycleOrder.ackNewest (order : CycleOrder view) (down : view.display = false)
    (present : view.output = some core) (newer : core.hasNewerSerial = true) :
    CycleOrder { view with
      output := some { core with hasNewerSerial := false }
      log := view.log ++ [.acknowledged core.newestSerial] } := by
  have output := order.output core present
  refine ⟨order.log.acknowledge (output.newer newer), fun other same => ?_, order.untouched,
    fun up => absurd (up.symm.trans down) (by decide)⟩
  cases same
  exact output.ackNewest

theorem CycleOrder.fallback (order : CycleOrder view) (down : view.display = false)
    (present : view.output = some core) (idle : core.hasNewerSerial = false)
    (configured : sized core.width core.height = true ∨ issuedIn view.log ≠ []) :
    CycleOrder { view with
      output := some { core with hasBuffer := true }
      log := view.log ++ core.fallbackEntries } := by
  have output := order.output core present
  have issued : issuedIn view.log ≠ [] := by
    rcases configured with size | issued
    · exact output.present size
    · exact issued
  have acked : ackedIn view.log ≠ [] := by
    intro none_
    have last := output.current issued idle
    rw [none_] at last
    cases last
  have requests : core.fallbackEntries = List.map .request [.setBufferScale 1,
      .attach .fallback core.width core.height 0 0, .damageBuffer ⟨0, 0, int32Max, int32Max⟩, .commit] := rfl
  rw [requests]
  refine ⟨order.log.drawn acked _, fun other same => ?_, order.untouched,
    fun up => absurd (up.symm.trans down) (by decide)⟩
  cases same
  have after := output.afterRequests [.setBufferScale 1,
    .attach .fallback core.width core.height 0 0, .damageBuffer ⟨0, 0, int32Max, int32Max⟩, .commit]
  refine ⟨after.newest, after.present, after.current, after.newer, fun _ => ?_⟩
  rw [ackedIn_append]
  exact List.append_ne_nil_of_left_ne_nil acked _

theorem CycleOrder.link (order : CycleOrder view) (up : view.display = true)
    (present : view.output = some core) (untouched : plugin.cycle.Untouched)
    (turn : plugin.cycle.hasBeenConfigured = false) (surface : SurfaceId) (pluginSerial : UInt32) :
    CycleOrder { view with
      output := some { core with pluginSurface := some surface }
      plugin := some { plugin with cycle := { plugin.cycle with lastUsedPluginSerial := pluginSerial } } } := by
  have output := order.output core present
  have server := order.server up core present
  refine ⟨order.log, fun other same => ?_, fun cycle same => ?_, fun _ other same => ?_⟩
  · cases same
    exact ⟨output.newest, output.present, output.current, output.newer, output.drawn⟩
  · cases same
    exact untouched
  · cases same
    refine ⟨server.settled, fun size first => ⟨(server.unused size first).1, fun cycle same => ?_⟩,
      fun cycle same done => ?_⟩
    · cases same
      exact turn
    · cases same
      exact absurd (done.symm.trans turn) (by decide)

theorem CycleOrder.unlink (order : CycleOrder view) (present : view.output = some core) :
    CycleOrder { view with output := some { core with pluginSurface := none }, plugin := none } := by
  have output := order.output core present
  refine ⟨order.log, fun other same => ?_, fun cycle same => (by cases same), fun up other same => ?_⟩
  · cases same
    exact ⟨output.newest, output.present, output.current, output.newer, output.drawn⟩
  · cases same
    have server := order.server up core present
    exact ⟨server.settled, fun size first => ⟨(server.unused size first).1, fun cycle same => (by cases same)⟩,
      fun cycle same => (by cases same)⟩

theorem CycleOrder.initial (order : CycleOrder view) (up : view.display = true)
    (present : view.output = some core) (found : view.plugin = some plugin)
    (blank : plugin.cycle.hasBeenConfigured = false) (pluginSerial : UInt32) :
    CycleOrder { view with
      output := some { core with usedFirstConfigure := true }
      plugin := some { plugin with cycle := plugin.cycle.start (core.initialPair pluginSerial) } } := by
  have cycle := pluginCycle_some found
  have output := order.output core present
  refine ⟨order.log, fun other same => ?_, fun started same => ?_, fun _ other same => ?_⟩
  · cases same
    exact ⟨output.newest, output.present, output.current, output.newer, output.drawn⟩
  · cases same
    intro done
    cases done
  · cases same
    exact (order.server up core present).initial output order.log (order.untouched _ cycle) blank pluginSerial

theorem CycleOrder.take (order : CycleOrder view) (up : view.display = true)
    (present : view.output = some core) (found : view.plugin = some plugin) {pair : SerialPair}
    {rest : List SerialPair} (taken : takePair serial plugin.cycle.serialTable = some (pair, rest)) :
    CycleOrder { view with
      output := some (core.awaitPair pair)
      plugin := some { plugin with cycle := plugin.cycle.use serial pair rest } } := by
  have cycle := pluginCycle_some found
  have output := order.output core present
  have server := order.server up core present
  rw [cycle] at server
  refine ⟨order.log, fun other same => ?_, fun used same => ?_, fun _ other same => ?_⟩
  · cases same
    unfold OutputCore.awaitPair
    split
    · exact output
    · exact ⟨output.newest, output.present, output.current, output.newer, output.drawn⟩
  · cases same
    intro blank
    have empty := (order.untouched _ cycle blank).1
    rw [empty] at taken
    cases taken
  · cases same
    exact server.take output order.log (order.untouched _ cycle) taken

theorem CycleOrder.refuse (order : CycleOrder view) (found : view.plugin = some plugin) :
    CycleOrder { view with
      plugin := some { plugin with cycle := { plugin.cycle with lastUsedPluginSerial := serial } } } := by
  have cycle := pluginCycle_some found
  refine ⟨order.log, order.output, fun refused same => ?_, fun up core present => ?_⟩
  · cases same
    exact order.untouched plugin.cycle cycle
  · have server := order.server up core present
    refine ⟨server.settled, fun size first => ?_, fun refused same done => ?_⟩
    · obtain ⟨next, blank⟩ := server.unused size first
      refine ⟨next, fun refused same => ?_⟩
      cases same
      exact blank plugin.cycle cycle
    · cases same
      rcases server.configured plugin.cycle cycle done with left | dull
      · exact .inl ⟨left.table, left.tail, left.head, left.used⟩
      · exact .inr ⟨dull.size, dull.table, dull.used⟩

theorem CycleOrder.update (order : CycleOrder view) (found : view.plugin = some plugin) (absorbed : Bool)
    (pending : Look) (description : UpstreamDesc) :
    CycleOrder { view with
      plugin := some { plugin with committed := pending }
      log := view.log ++
        (if absorbed then [] else (lookRequests description plugin.committed pending).map .request) } := by
  have requests := order.afterRequests _
    (commit_notMem_lookRequests description plugin.committed pending)
  have same : CycleView.pluginCycle { view with plugin := some { plugin with committed := pending } } =
      view.pluginCycle := by
    rw [CycleView.pluginCycle, CycleView.pluginCycle, found]
    rfl
  cases absorbed with
  | true =>
      simp only [if_true, List.append_nil]
      exact ⟨order.log, order.output, same ▸ order.untouched, same ▸ order.server⟩
  | false => exact ⟨requests.log, requests.output, same ▸ requests.untouched, same ▸ requests.server⟩

theorem CycleOrder.accept (order : CycleOrder view) (up : view.display = true)
    (present : view.output = some core) (found : view.plugin = some plugin)
    (size : sized plugin.cycle.lastAckedWidth plugin.cycle.lastAckedHeight = true) :
    CycleOrder { view with output := some core.accepted, log := view.log ++ core.acceptEntries } := by
  have cycle := pluginCycle_some found
  have server := order.server up core present
  rw [cycle] at server
  obtain ⟨left, after⟩ := server.accept (order.untouched _ cycle) size
  obtain ⟨behind, acked⟩ := left.used size
  have next : (ackedIn view.log ++ core.waiting).Sublist (issuedIn view.log) :=
    (List.sublist_append_left _ _).trans behind
  refine ⟨?_, fun other same => ?_, order.untouched, fun _ other same => ?_⟩
  · have acknowledged := order.log.acknowledge next
    have committed := acknowledged.drawn (by simpa using acked) [.commit]
    rw [List.append_assoc] at committed
    exact committed
  · cases same
    exact (order.output core present).accept order.log next acked
  · cases same
    change ServerOrder _ view.pluginCycle _
    rw [cycle]
    exact after

theorem CycleOrder.render (order : CycleOrder view) (present : view.output = some core)
    (buffer : core.hasBuffer = true) :
    CycleOrder { view with log := view.log ++ [.request .frame, .request .commit] } := by
  have acked := (order.output core present).drawn buffer
  refine ⟨order.log.drawn acked [.frame, .commit], fun other same => ?_, order.untouched,
    fun up other same => ?_⟩
  · exact (order.output other same).afterRequests [.frame, .commit]
  · exact (order.server up other same).afterRequests [.frame, .commit]

theorem CycleOrder.step (order : CycleOrder view) {event : CycleEvent} (turn : inTurn view event)
    (step : CycleStep view event next) : CycleOrder next := by
  cases step with
  | appear absent noPlugin empty => exact order.appear noPlugin empty
  | vanish => exact order.vanish
  | create present => exact order.create present
  | configure pluginSerial up present fresh =>
      exact order.configure up present fresh pluginSerial (turn _ present)
  | answer down present fresh => exact order.answer down fresh
  | ackNewest down present newer => exact order.ackNewest down present newer
  | fallback down present idle configured => exact order.fallback down present idle configured
  | teardown => exact ⟨order.log, order.output, order.untouched, fun up => (by cases up)⟩
  | link pluginSerial up present noPlugin untouched => exact order.link up present untouched turn _ pluginSerial
  | unlink present => exact order.unlink present
  | initial pluginSerial up present found blank => exact order.initial up present found blank pluginSerial
  | take up present found taken => exact order.take up present found taken
  | refuse found => exact order.refuse found
  | update description up found => exact order.update found _ _ description
  | content _ plain => exact order.afterRequests _ (commit_notMem_of_plain plain)
  | accept up present found size => exact order.accept up present found size
  | render present buffer => exact order.render present buffer

theorem CycleOrder.fresh (fresh : view.Fresh) : CycleOrder view := by
  obtain ⟨_, absent, noPlugin, empty⟩ := fresh
  refine ⟨?_, fun core same => ?_, fun cycle same => ?_, fun _ core same => ?_⟩
  · rw [empty]
    exact ⟨List.nodup_nil, List.Sublist.refl [], fun before after same => by simp at same⟩
  · rw [absent] at same
    cases same
  · rw [CycleView.pluginCycle, noPlugin] at same
    cases same
  · rw [absent] at same
    cases same

theorem CycleOrder.of_reachable (reachable : (cycle.restrict inTurn).Reachable view) : CycleOrder view := by
  apply reachable.invariant CycleOrder
  · exact fun _ fresh => .fresh fresh
  · intro _ _ _ order moved
    exact order.step moved.2 moved.1

theorem AcksInTurn.step (turn : AcksInTurn view.log) (order : LogOrder next.log) {event : CycleEvent}
    (step : CycleStep view event next) : AcksInTurn next.log := by
  have requests (added : List SurfaceRequest) (order : LogOrder (view.log ++ added.map .request)) :
      AcksInTurn (view.log ++ added.map .request) := turn.append_of_unissued (issuedIn_requests added) order.acked
  cases step with
  | configure =>
      refine turn.append fun before serial after same => ?_
      have member : Entry.acknowledged serial ∈ before ++ .acknowledged serial :: after :=
        List.mem_append_right _ List.mem_cons_self
      rw [← same] at member
      cases List.mem_singleton.mp member
  | @answer core serial width height =>
      refine turn.append fun before acked after same => ?_
      have ordered := order.acked
      -- The configure event stands in front of its acknowledgement.
      cases before with
      | nil => cases same
      | cons first before =>
          obtain ⟨rfl, same⟩ := List.cons.inj same
          cases before with
          | nil =>
              cases same
              rw [issuedIn_append, ackedIn_append] at ordered ⊢
              have silent : ackedIn [.configured serial width height] = [] := rfl
              rw [silent, List.append_nil]
              exact ordered
          | cons second before =>
              have empty := (List.cons.inj same).2
              simp at empty
  | ackNewest => exact turn.append_of_unissued rfl order.acked
  | fallback => exact turn.append_of_unissued rfl order.acked
  | @update _ absorbed =>
      cases absorbed with
      | true =>
          dsimp only
          rw [if_pos rfl, List.append_nil]
          exact turn
      | false => exact requests _ order
  | content => exact requests _ order
  | accept =>
      refine turn.append_of_unissued ?_ order.acked
      unfold OutputCore.acceptEntries
      rw [issuedIn_append, issuedIn_acknowledged]
      rfl
  | render => exact requests [.frame, .commit] order
  | _ => exact turn

theorem AcksInTurn.of_reachable (reachable : (cycle.restrict inTurn).Reachable view) : AcksInTurn view.log := by
  refine reachable.invariant_under CycleOrder (fun view => AcksInTurn view.log) (fun _ => .of_reachable) ?_ ?_
  · rintro view ⟨_, _, _, empty⟩ before serial after same
    rw [empty] at same
    cases before <;> cases same
  · exact fun view event next order turn moved => turn.step (order.step moved.2 moved.1).log moved.1

end Step

end SwaylockPlugin
