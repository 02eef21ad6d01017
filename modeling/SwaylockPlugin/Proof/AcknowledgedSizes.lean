import SwaylockPlugin.Abstract.Sizes
import SwaylockPlugin.Proof.Acknowledgements
import SwaylockPlugin.Proof.ForwardedCommits

namespace SwaylockPlugin

open Library

/-- The size of a forwarded commit is the one that the last acknowledged configure event brought. -/
def CommittedInSize (surface : ForwardSurface) (output : OutputId) (next : Scene) : Prop :=
  ∃ serial, (acknowledged output next.wire).getLast? = some serial ∧
    Message.configured output serial surface.lastAckedWidth surface.lastAckedHeight ∈ next.wire

/-- A first commit answers the first configure event of an output whose size changed since. -/
def answersStale (scene : Scene) (id : SurfaceId) : Bool :=
  (scene.forwardSurfaces.cell id).any fun surface => !surface.hasBeenConfigured && surface.swaySurface.any fun output =>
    (scene.outputs.cell output).any fun record => !record.usedFirstConfigure && sized record.width record.height &&
      !scene.wire.contains (.configured output record.firstConfigureSerial record.width record.height)

/-- No first commit answers a configure event of another size, and no configured surface gets the layer role. -/
def answersInSize (state : SwaylockState) (occurrence : Occurrence) : Bool :=
  match occurrence.event with
  | .scene (.request _ (.surface id .commit)) => !answersStale state.scene id
  | .scene (.request client (.surface id (.getLayerSurface resource))) =>
      !linksConfigured state.scene client id resource
  | _ => true

theorem answersSizes_lenient : Lenient answersSizes := by
  refine ⟨fun view event minor => ?_, fun _ _ _ => trivial⟩
  cases event with
  | initial => cases minor
  | link => cases minor
  | _ => trivial

section Runs

variable {scene : Scene} {output : OutputId}

theorem configured_entry {wire : List Message} {serial width height : UInt32} :
    Entry.configured serial width height ∈ entriesOf output wire ↔
      Message.configured output serial width height ∈ wire := by
  unfold entriesOf
  rw [List.mem_filterMap]
  constructor
  · rintro ⟨message, member, named⟩
    cases message with
    | configured target =>
        unfold Message.entry at named
        dsimp only at named
        split at named
        · rename_i same
          cases named
          rw [← same]
          exact member
        · cases named
    | ackConfigure =>
        unfold Message.entry at named
        dsimp only at named
        split at named <;> cases named
    | surface target request =>
        cases target with
        | lock =>
            unfold Message.entry at named
            dsimp only at named
            split at named <;> cases named
        | ext => cases named
    | subsurface => cases named
    | plugin => cases named
  · exact fun member => ⟨_, member, if_pos rfl⟩

theorem answersSizes_initial {id : SurfaceId} {surface : ForwardSurface} {look : Look}
    (answers : answersStale scene id = false) (present : scene.forwardSurfaces.cell id = some surface)
    (role : surface.swaySurface = some output) (blank : surface.hasBeenConfigured = false) :
    answersSizes { scene.cycleView output with plugin := some ⟨surface.cycle, look⟩ } .initial := by
  intro core found first size
  obtain ⟨record, there, rfl⟩ := Option.map_eq_some_iff.mp found
  have first : record.usedFirstConfigure = false := first
  have size : sized record.width record.height = true := size
  refine configured_entry.mpr ?_
  by_contra absent
  have absent : Message.configured output record.firstConfigureSerial record.width record.height ∉ scene.wire := absent
  have absent : scene.wire.contains
      (Message.configured output record.firstConfigureSerial record.width record.height) = false := by simpa using absent
  unfold answersStale at answers
  rw [present, Option.any_some, blank, role, Option.any_some, there, Option.any_some, first, size, absent] at answers
  cases answers

theorem admits_of_answersInSize {state : SwaylockState} {occurrence : Occurrence} {event : SceneEvent}
    (answers : answersInSize state occurrence = true) (same : occurrence.event = .scene event) :
    AdmitsScene answersSizes state.scene event := by
  obtain ⟨_, env⟩ := occurrence
  dsimp only at same
  subst same
  cases event with
  | configure => exact ⟨fun _ => trivial, fun _ => trivial⟩
  | request client request =>
      cases request with
      | surface id call =>
          cases call with
          | getLayerSurface resource =>
              have answers : (!linksConfigured state.scene client id resource) = true := answers
              exact fun _ _ _ => blank_of_links ((Bool.not_eq_true' _).mp answers)
          | commit =>
              have answers : (!answersStale state.scene id) = true := answers
              intro surface output present role
              refine ⟨fun blank look => ?_, fun _ => trivial, fun _ _ _ => trivial⟩
              exact answersSizes_initial ((Bool.not_eq_true' _).mp answers) present role blank
          | _ => trivial
      | _ => trivial
  | _ => trivial

theorem Forwards.committedInSize {id : SurfaceId} {surface : ForwardSurface} {next : Scene}
    (forwards : Forwards scene surface output next) (sizes : CycleSizes (scene.cycleView output))
    (guard : SceneGuard none scene) (up : scene.display = true) (present : scene.forwardSurfaces.cell id = some surface)
    (role : surface.swaySurface = some output) : CommittedInSize surface output next := by
  obtain ⟨_, size, core, description, content, stands, plain, view⟩ := forwards
  obtain ⟨_, target, there, linked⟩ := guard.links.served output id surface present role
  have shown : (scene.cycleView output).pluginCycle = some surface.cycle := by
    rw [Scene.cycleView_linked present there linked]
    rfl
  have held := (sizes.plugin up core surface.cycle stands shown).held _ _ ⟨size, .inl ⟨rfl, rfl⟩⟩
  obtain ⟨serial, last, configured⟩ := held
  have log : entriesOf output next.wire = _ := congrArg CycleView.log view
  refine ⟨serial, ?_, ?_⟩
  · rw [acknowledged_eq, log, ← last]
    refine congrArg List.getLast? ?_
    refine (ackedIn_accept core _).trans ?_
    rw [ackedIn_append, ackedIn_requests, List.append_nil]
  · refine configured_entry.mp ?_
    rw [log]
    exact List.mem_append_left _ (List.mem_append_left _ configured)

theorem cycleSizes_of_reachable {state : SwaylockState} (reachable : (swaylock.machine.guarded answersInSize).Reachable state)
    (output : OutputId) : CycleSizes (state.scene.cycleView output) := by
  obtain ⟨_, cycles⟩ := cycles_of_reachable answersSizes_lenient
    (fun _ _ _ _ answers same => admits_of_answersInSize answers same) reachable
  exact .of_reachable (cycles output)

end Runs

/-- In every run in which no configured surface gets the layer role and each first commit answers a configure event of
the size that its output has, every commit is forwarded in the size that was acknowledged last. -/
theorem forwarded_commits_sized {state : SwaylockState}
    (reachable : (swaylock.machine.guarded answersInSize).Reachable state) (up : state.scene.display = true)
    {id : SurfaceId} {surface : ForwardSurface} {output : OutputId} {next : Scene}
    (present : state.scene.forwardSurfaces.cell id = some surface) (role : surface.swaySurface = some output)
    (commits : nestedSurfaceCommit state.scene id = .ok (next, .forwarded)) : CommittedInSize surface output next := by
  have guard := (guarded_of_reachable reachable.of_restrict).1
  have forwards := nestedSurfaceCommit_forwarded up guard (attached_of_reachable reachable.of_restrict) present role _
    commits rfl
  exact forwards.committedInSize (cycleSizes_of_reachable reachable output) guard up present role

/-- A commit of a plugin is forwarded in the size that the plugin acknowledged. -/
theorem forwarded_commits_sized_drawn : ∃ (state : SwaylockState) (surface : ForwardSurface) (next : Scene),
    nestedSurfaceCommit state.scene 0 = .ok (next, .forwarded) ∧ CommittedInSize surface 0 next := by
  obtain ⟨state, reachable, passed⟩ := swaylock.play_guarded answersInSize (presentingEvents.map Event.obliged)
    (fun state => state.scene.display && ((state.scene.forwardSurfaces.cell 0).any fun surface =>
      surface.swaySurface == some 0) && endsForwarded state.scene 0) (startState_initial _ _ _)
    (by decide +kernel : ((swaylock.guarded _).play defaultState _).any _ = true)
  simp only [Bool.and_eq_true, Option.any_eq_true, beq_iff_eq] at passed
  obtain ⟨⟨up, surface, present, role⟩, forwarded⟩ := passed
  obtain ⟨next, commits⟩ := forwarded_of_test forwarded
  exact ⟨state, surface, next, commits, forwarded_commits_sized reachable up present role commits⟩

/-- A plugin draws, the output is resized, and the plugin attaches a buffer of the new size. -/
def reconfiguredEvents : List Event :=
  presentingEvents ++ [.scene (.configure 0 8 200 80)] ++ ([.object 1 (.ackConfigure 100002), .createBuffer 200 80,
    .surface 0 (.attach (some 1))] : List Request).map fun request => .scene (.request 0 request)

/-- An output is resized before the first commit of its plugin, which then attaches a buffer of the new size. -/
def staleEvents : List Event :=
  presentingEvents.take 6 ++ [.scene (.configure 0 8 200 80)] ++ (presentingEvents.drop 6).take 6 ++
    ([.createBuffer 200 80, .surface 0 (.attach (some 0))] : List Request).map fun request => .scene (.request 0 request)

/-- In every run in which no configured surface gets the layer role and each first commit answers a configure event of
the size that its output has, a step that forwards a commit has the size that was acknowledged last. -/
theorem commits_in_acknowledged_size {state next : SwaylockState}
    (reachable : (swaylock.machine.guarded answersInSize).Reachable state) {client : WlClientId} {env : Environment}
    {id : SurfaceId} {surface : ForwardSurface} {output : OutputId}
    (moved : swaylock.machine.step state ⟨.scene (.request client (.surface id .commit)), env⟩ next)
    (owned : ownsSurface state.scene client id = true) (ends : endsForwarded state.scene id = true)
    (present : state.scene.forwardSurfaces.cell id = some surface) (role : surface.swaySurface = some output) :
    CommittedInSize surface output next.scene := by
  obtain ⟨up, commits⟩ := forwarded_of_step moved owned ends
  have guard := (guarded_of_reachable reachable.of_restrict).1
  have forwards := nestedSurfaceCommit_forwarded up guard (attached_of_reachable reachable.of_restrict) present role _
    commits rfl
  exact forwards.committedInSize (cycleSizes_of_reachable reachable output) guard up present role

/-- A commit after a resize has the new size, and its serial was acknowledged. -/
theorem commits_in_acknowledged_size_resized : ∃ (next : SwaylockState) (surface : ForwardSurface),
    surface.lastAckedWidth = 200 ∧ CommittedInSize surface 0 next.scene := by
  obtain ⟨state, next, reachable, moved, passed⟩ := (swaylock.guarded answersInSize).play_step
    (reconfiguredEvents.map Event.obliged) (Event.scene (.request 0 (.surface 0 .commit))).obliged
    (fun state _ => ownsSurface state.scene 0 0 && endsForwarded state.scene 0 &&
      (state.scene.forwardSurfaces.cell 0).any fun surface =>
        surface.swaySurface == some 0 && surface.lastAckedWidth == 200) (startState_initial _ _ _)
    (by decide +kernel : ((swaylock.guarded _).play defaultState _).any _ = true)
  rw [swaylock.guarded_machine] at reachable moved
  simp only [Bool.and_eq_true, Option.any_eq_true, beq_iff_eq] at passed
  obtain ⟨⟨owned, ends⟩, surface, present, role, width⟩ := passed
  exact ⟨next, surface, width, commits_in_acknowledged_size reachable moved.1 owned ends present role⟩

/-- A first commit after a resize acknowledges the serial of the first configure event with the size of the last one. -/
theorem first_commit_in_other_size : ¬ ∀ (state next : SwaylockState) (client : WlClientId) (env : Environment)
    (id : SurfaceId) (surface : ForwardSurface) (output : OutputId), swaylock.machine.Reachable state →
      swaylock.machine.step state ⟨.scene (.request client (.surface id .commit)), env⟩ next →
        ownsSurface state.scene client id = true → endsForwarded state.scene id = true →
          state.scene.forwardSurfaces.cell id = some surface → surface.swaySurface = some output →
            CommittedInSize surface output next.scene := by
  intro claim
  obtain ⟨state, next, reachable, moved, passed⟩ := swaylock.play_step
    (staleEvents.map Event.obliged) (Event.scene (.request 0 (.surface 0 .commit))).obliged
    (fun state next => ownsSurface state.scene 0 0 && endsForwarded state.scene 0 &&
      acknowledged 0 next.scene.wire == [7] && (state.scene.forwardSurfaces.cell 0).any fun surface =>
        surface.swaySurface == some 0 && !next.scene.wire.contains
          (.configured 0 7 surface.lastAckedWidth surface.lastAckedHeight)) (startState_initial _ _ _)
    (by decide +kernel : (swaylock.play defaultState _).any _ = true)
  simp only [Bool.and_eq_true, Option.any_eq_true, beq_iff_eq, Bool.not_eq_true', List.contains_eq_mem,
    decide_eq_false_iff_not] at passed
  obtain ⟨⟨⟨owned, ends⟩, sent⟩, surface, present, role, other⟩ := passed
  obtain ⟨serial, last, configured⟩ := claim state next 0 _ 0 surface 0 reachable moved owned ends present role
  rw [sent] at last
  cases last
  exact other configured

end SwaylockPlugin
