import SwaylockPlugin.Abstract.OrderRuns
import SwaylockPlugin.Proof.Callbacks
import SwaylockPlugin.Proof.Cycles

namespace SwaylockPlugin

open Library

/-- The acknowledgements of an output are in order when each serial was issued, goes out once and in the order of the
issue, when no commit of the lock surface comes before them, and when the output knows whether one is missing. -/
structure AcknowledgesInOrder (scene : Scene) (id : OutputId) : Prop where
  known : ∀ serial ∈ acknowledged id scene.wire, serial ∈ issued id scene.wire
  once : (acknowledged id scene.wire).Nodup
  ordered : (acknowledged id scene.wire).Sublist (issued id scene.wire)
  committed : ∀ before after, scene.wire = before ++ .surface (.lock id) .commit :: after →
    acknowledged id before ≠ []
  newest : ∀ output, scene.outputs.cell id = some output → issued id scene.wire ≠ [] →
    (output.hasNewerSerial = false ↔ (acknowledged id scene.wire).getLast? = some output.newestSerial)

/-- An output acknowledges what was issued when each serial was issued before, goes out for the first time and was issued
after those that went out before, when no commit of the lock surface comes first, and when the output knows whether the
newest serial went out last. -/
structure AcknowledgesIssued (scene : Scene) (id : OutputId) : Prop where
  each : ∀ before serial after, scene.wire = before ++ .ackConfigure id serial :: after →
    serial ∈ issued id before ∧ serial ∉ acknowledged id before ∧
      ∀ earlier ∈ acknowledged id before, [earlier, serial].Sublist (issued id before)
  committed : ∀ before after, scene.wire = before ++ .surface (.lock id) .commit :: after →
    acknowledged id before ≠ []
  newest : ∀ output, scene.outputs.cell id = some output → issued id scene.wire ≠ [] →
    (output.hasNewerSerial = false ↔ (acknowledged id scene.wire).getLast? = some output.newestSerial)

/-- A configure event brings a size to an output without one while its plugin surface is configured. -/
def resumesConfigured (scene : Scene) (output : OutputId) (width height : UInt32) : Bool :=
  scene.display && sized width height && (scene.outputs.cell output).any fun record =>
    !sized record.width record.height &&
      (record.pluginSurface.bind scene.forwardSurfaces.cell).any fun surface => surface.hasBeenConfigured

/-- A surface that was configured before asks for the layer role on an output without a plugin surface. -/
def linksConfigured (scene : Scene) (client : WlClientId) (id : SurfaceId) (resource : Option ResourceId) : Bool :=
  (scene.forwardSurfaces.cell id).any (fun surface => surface.swaySurface.isNone && surface.hasBeenConfigured) &&
    ((layerSurfaceOutput scene client resource).bind scene.outputs.cell).any fun output => output.pluginSurface.isNone

/-- No size reaches an output without one whose plugin surface is configured, and no configured surface gets the
layer role. -/
def configuresInTurn (state : SwaylockState) (occurrence : Occurrence) : Bool :=
  match occurrence.event with
  | .scene (.configure output _ width height) => !resumesConfigured state.scene output width height
  | .scene (.request client (.surface id (.getLayerSurface resource))) =>
      !linksConfigured state.scene client id resource
  | _ => true

theorem inTurn_lenient : Lenient inTurn := by
  refine ⟨fun view event minor => ?_, fun _ _ _ => trivial⟩
  cases event with
  | configure => cases minor
  | answer => cases minor
  | link => cases minor
  | _ => trivial

section Runs

variable {scene : Scene}

theorem inTurn_configure {output : OutputId} {width height : UInt32} (serial : UInt32) (up : scene.display = true)
    (turn : resumesConfigured scene output width height = false) :
    inTurn (scene.cycleView output) (.configure serial width height) := by
  intro core present none_ size cycle served
  by_contra configured
  obtain ⟨record, there, rfl⟩ := Option.map_eq_some_iff.mp present
  obtain ⟨plugin, found, rfl⟩ := Option.map_eq_some_iff.mp served
  obtain ⟨surface, linked, viewed⟩ := Option.bind_eq_some_iff.mp found
  obtain ⟨owner, present, linked⟩ := Option.bind_eq_some_iff.mp linked
  obtain ⟨other, again, rfl⟩ := Option.map_eq_some_iff.mp present
  cases there.symm.trans again
  obtain ⟨plugged, live, rfl⟩ := Option.map_eq_some_iff.mp viewed
  have linked : record.pluginSurface = some surface := linked
  have none_ : sized record.width record.height = false := none_
  have configured : plugged.hasBeenConfigured = true := (Bool.not_eq_false _).mp configured
  unfold resumesConfigured at turn
  rw [up, size, there, Option.any_some, none_, linked, Option.bind_some, live, Option.any_some, configured] at turn
  cases turn

theorem blank_of_links {client : WlClientId} {output : OutputId} {id : SurfaceId} {resource : Option ResourceId} {target : SwaylockSurface}
    {surface : ForwardSurface} (turn : linksConfigured scene client id resource = false)
    (chosen : layerSurfaceOutput scene client resource = some output) (there : scene.outputs.cell output = some target)
    (alone : target.pluginSurface = none) (present : scene.forwardSurfaces.cell id = some surface)
    (free : surface.swaySurface = none) : surface.hasBeenConfigured = false := by
  by_contra configured
  have configured : surface.hasBeenConfigured = true := (Bool.not_eq_false _).mp configured
  unfold linksConfigured at turn
  rw [present, chosen, Option.any_some, Option.bind_some, there, Option.any_some, free, alone, configured] at turn
  cases turn

theorem admits_of_configuresInTurn {state : SwaylockState} {occurrence : Occurrence} {event : SceneEvent}
    (turn : configuresInTurn state occurrence = true) (same : occurrence.event = .scene event) :
    AdmitsScene inTurn state.scene event := by
  obtain ⟨_, env⟩ := occurrence
  dsimp only at same
  subst same
  cases event with
  | configure output serial width height =>
      have turn : (!resumesConfigured state.scene output width height) = true := turn
      exact ⟨fun up => inTurn_configure serial up ((Bool.not_eq_true' _).mp turn), fun _ => trivial⟩
  | request client request =>
      cases request with
      | surface id call =>
          cases call with
          | getLayerSurface resource =>
              have turn : (!linksConfigured state.scene client id resource) = true := turn
              exact fun _ _ _ => blank_of_links ((Bool.not_eq_true' _).mp turn)
          | commit => exact fun _ _ _ _ => ⟨fun _ _ => trivial, fun _ => trivial, fun _ _ _ => trivial⟩
          | _ => trivial
      | _ => trivial
  | _ => trivial

theorem AcknowledgesInOrder.of_cycle {id : OutputId} (order : CycleOrder (scene.cycleView id)) :
    AcknowledgesInOrder scene id := by
  have log : LogOrder (entriesOf id scene.wire) := order.log
  refine ⟨?_, ?_, ?_, ?_, ?_⟩
  · rw [issued_eq, acknowledged_eq]
    exact fun serial member => log.acked.subset member
  · rw [acknowledged_eq]
    exact log.acked.nodup log.nodup
  · rw [issued_eq, acknowledged_eq]
    exact log.acked
  · intro before after same
    rw [acknowledged_eq]
    refine log.commits _ (entriesOf id after) ?_
    rw [same, entriesOf_append, entriesOf_cons]
    simp only [Message.entry, if_true, Option.toList_some, List.singleton_append]
  · intro output present issued_
    rw [issued_eq] at issued_
    rw [acknowledged_eq]
    have known : OutputOrder output.core (entriesOf id scene.wire) := by
      refine order.output output.core ?_
      change (scene.outputs.cell id).map SwaylockSurface.core = _
      rw [present]
      rfl
    constructor
    · exact fun current => known.current issued_ current
    · intro last
      by_contra newer
      -- A newest serial that is still to be acknowledged cannot have been acknowledged before.
      have next := known.newer ((Bool.not_eq_false _).mp newer)
      have apart := List.nodup_append.mp (next.nodup log.nodup)
      exact apart.2.2 _ (List.mem_of_getLast? last) _ (List.mem_singleton_self _) rfl

/-- An output whose cycle is in order and acknowledges in turn acknowledges what was issued. -/
theorem AcknowledgesIssued.of_cycle {id : OutputId} (order : CycleOrder (scene.cycleView id))
    (turn : AcksInTurn (entriesOf id scene.wire)) : AcknowledgesIssued scene id where
  each before serial after same := by
    have log : entriesOf id scene.wire = entriesOf id before ++ .acknowledged serial :: entriesOf id after := by
      rw [same, entriesOf_append, entriesOf_cons]
      simp only [Message.entry, if_true, Option.toList_some, List.singleton_append]
    have next := turn (entriesOf id before) serial (entriesOf id after) log
    have distinct : (issuedIn (entriesOf id before)).Nodup := by
      have nodup : (issuedIn (entriesOf id scene.wire)).Nodup := order.log.nodup
      rw [log, issuedIn_append] at nodup
      exact (List.nodup_append.mp nodup).1
    rw [issued_eq, acknowledged_eq]
    refine ⟨next.subset (List.mem_append_right _ (List.mem_singleton_self serial)), fun again => ?_, fun earlier acked => ?_⟩
    · have apart := (List.nodup_append.mp (next.nodup distinct)).2.2
      exact apart serial again serial (List.mem_singleton_self serial) rfl
    · exact ((List.singleton_sublist.mpr acked).append (.refl [serial])).trans next
  committed := (AcknowledgesInOrder.of_cycle order).committed
  newest := (AcknowledgesInOrder.of_cycle order).newest

end Runs

/-- In every run in which no configured surface gets the layer role and no size reaches an output without one whose
plugin surface is configured, every output acknowledges what was issued. -/
theorem acknowledges_issued {state : SwaylockState}
    (reachable : (swaylock.machine.guarded configuresInTurn).Reachable state) (id : OutputId) :
    AcknowledgesIssued state.scene id := by
  obtain ⟨_, cycles⟩ := cycles_of_reachable inTurn_lenient
    (fun _ _ _ _ turn same => admits_of_configuresInTurn turn same) reachable
  exact .of_cycle (.of_reachable (cycles id)) (.of_reachable (cycles id))

/-- A serial that is acknowledged was issued and is the first one to go out where a plugin draws. -/
theorem acknowledges_issued_drawn : ∃ (state : SwaylockState) (before after : List Message),
    state.scene.wire = before ++ .ackConfigure 0 7 :: after ∧ 7 ∈ issued 0 before ∧ 7 ∉ acknowledged 0 before := by
  obtain ⟨state, reachable, passed⟩ := swaylock.play_guarded configuresInTurn (presentingEvents.map Event.obliged)
    (fun state => state.scene.wire.contains (.ackConfigure 0 7)) (startState_initial _ _ _)
    (by decide +kernel : ((swaylock.guarded _).play defaultState _).any _ = true)
  obtain ⟨before, after, same⟩ := List.append_of_mem (List.contains_iff_mem.mp passed)
  obtain ⟨known, fresh, _⟩ := (acknowledges_issued reachable 0).each before 7 after same
  exact ⟨state, before, after, same, known, fresh⟩

/-- An output loses its size and gets it back while its plugin surface is configured, and the next plugin surface
answers the earlier configure event. -/
def shrunkEvents : List Event :=
  presentingEvents ++
    [.scene (.configure 0 8 0 0), .scene (.configure 0 9 100 50), .scene (.configure 0 10 100 50)] ++
    ([.object 1 (.ackConfigure 100002), .surface 0 .commit, .surface 0 .destroy, .createSurface 4,
      .surface 1 (.getLayerSurface (some 0)), .surface 1 .commit, .object 3 (.ackConfigure 100004),
      .surface 1 (.attach (some 0)), .surface 1 .commit] : List Request).map fun request => .scene (.request 0 request)

/-- A serial is acknowledged after a later one where a plugin surface outlives the size of its output. -/
theorem earlier_serial_acknowledged_last :
    ¬ ∀ state, swaylock.machine.Reachable state → ∀ id, AcknowledgesIssued state.scene id := by
  intro claim
  obtain ⟨state, reachable, passed⟩ := swaylock.play_reachable (shrunkEvents.map Event.obliged)
    (fun state => (List.range state.scene.wire.length).any fun index =>
      state.scene.wire[index]? == some (.ackConfigure 0 9) &&
        acknowledged 0 (state.scene.wire.take index) == [7, 10] && issued 0 (state.scene.wire.take index) == [7, 8, 9, 10])
    (startState_initial _ _ _) (by decide +kernel : (swaylock.play defaultState _).any _ = true)
  obtain ⟨index, _, found⟩ := List.any_eq_true.mp passed
  simp only [Bool.and_eq_true, beq_iff_eq] at found
  obtain ⟨⟨here, acked⟩, sent⟩ := found
  obtain ⟨inside, entry⟩ := List.getElem?_eq_some_iff.mp here
  have split : state.scene.wire = state.scene.wire.take index ++ .ackConfigure 0 9 :: state.scene.wire.drop (index + 1) := by
    rw [← entry, List.getElem_cons_drop, List.take_append_drop]
  have ordered := ((claim state reachable 0).each _ 9 _ split).2.2 10 (by rw [acked]; decide)
  rw [sent] at ordered
  revert ordered
  decide

/-- In every run in which no configured surface gets the layer role and no size reaches an output without one whose
plugin surface is configured, every output acknowledges its configure events in order. -/
theorem acknowledges_in_order {state : SwaylockState}
    (reachable : (swaylock.machine.guarded configuresInTurn).Reachable state) (id : OutputId) :
    AcknowledgesInOrder state.scene id := by
  obtain ⟨_, cycles⟩ := cycles_of_reachable inTurn_lenient
    (fun _ _ _ _ turn same => admits_of_configuresInTurn turn same) reachable
  exact .of_cycle (.of_reachable (cycles id))

/-- The acknowledgements of an output that a plugin draws on are in order. -/
theorem acknowledges_in_order_drawn : ∃ state : SwaylockState,
    acknowledged 0 state.scene.wire = [7] ∧ AcknowledgesInOrder state.scene 0 := by
  obtain ⟨state, reachable, passed⟩ := swaylock.play_guarded configuresInTurn (presentingEvents.map Event.obliged)
    (fun state => acknowledged 0 state.scene.wire == [7]) (startState_initial _ _ _)
    (by decide +kernel : ((swaylock.guarded _).play defaultState _).any _ = true)
  exact ⟨state, beq_iff_eq.mp passed, acknowledges_in_order reachable 0⟩

end SwaylockPlugin
