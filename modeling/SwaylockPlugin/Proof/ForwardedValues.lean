import SwaylockPlugin.Abstract.Values
import SwaylockPlugin.Proof.Callbacks
import SwaylockPlugin.Proof.ForwardedCommits

namespace SwaylockPlugin

open Library

namespace Agreement

variable (agreement : Agreement)

/-- A surface that gets the layer role agrees with the values in force on the lock surface of the output. -/
def linksInForce (scene : Scene) (client : WlClientId) (id : SurfaceId) (resource : Option ResourceId) : Bool :=
  (layerSurfaceOutput scene client resource).all fun output => (scene.outputs.cell output).all fun target =>
    (scene.forwardSurfaces.cell id).all fun surface => target.pluginSurface.isSome || surface.swaySurface.isSome ||
      (agreement.decideAgrees (contentOf (.lock output) scene.wire).sent surface.committed.look).decide

/-- A surface in the layer role commits a look that may be sent, or taken over where it is a subsurface too. -/
def commitsInForce (scene : Scene) (id : SurfaceId) : Bool :=
  (scene.forwardSurfaces.cell id).all fun surface => surface.swaySurface.isNone ||
    if surface.subsurfaceParent.isSome then
      (agreement.decideAbsorbs surface.committed.look surface.pending.look).decide
    else (agreement.decideSends surface.committed.look surface.pending.look).decide

/-- Each surface agrees with the values in force when it gets the layer role, and with the looks that it commits. -/
def kept (state : SwaylockState) (occurrence : Occurrence) : Bool :=
  match occurrence.event with
  | .scene (.request client (.surface id (.getLayerSurface resource))) =>
      agreement.linksInForce state.scene client id resource
  | .scene (.request _ (.surface id .commit)) => agreement.commitsInForce state.scene id
  | _ => true

end Agreement

section Runs

variable {agreement : Agreement} {scene : Scene} {id : SurfaceId} {surface : ForwardSurface} {output : OutputId}

theorem sent_eq (output : OutputId) (wire : List Message) :
    (contentOf (.lock output) wire).sent = valuesIn (entriesOf output wire) := by
  unfold contentOf valuesIn
  rw [requestsOn_eq]
  have start : LastSent.initial = SurfaceContent.initial.sent := rfl
  rw [start]
  generalize SurfaceContent.initial = content
  generalize requestsIn (entriesOf output wire) = requests
  induction requests generalizing content with
  | nil => rfl
  | cons request requests ih =>
      have same : (content.receive request).sent = content.sent.receive request := by cases request <;> rfl
      rw [List.foldl_cons, List.foldl_cons, ih, same]

theorem Agreement.meets_of_commitsInForce (commits : agreement.commitsInForce scene id = true)
    (present : scene.forwardSurfaces.cell id = some surface) (role : surface.swaySurface = some output) :
    if surface.subsurfaceParent.isSome then agreement.absorbs surface.committed.look surface.pending.look
    else agreement.sends surface.committed.look surface.pending.look := by
  unfold Agreement.commitsInForce at commits
  rw [present, Option.all_some, role] at commits
  split
  · rename_i nested
    rw [nested] at commits
    exact @of_decide_eq_true _ (agreement.decideAbsorbs _ _) commits
  · rename_i root
    rw [if_neg root] at commits
    exact @of_decide_eq_true _ (agreement.decideSends _ _) commits

theorem Agreement.agrees_of_linksInForce {client : WlClientId} {resource : Option ResourceId} {target : SwaylockSurface}
    (links : agreement.linksInForce scene client id resource = true)
    (chosen : layerSurfaceOutput scene client resource = some output) (there : scene.outputs.cell output = some target)
    (alone : target.pluginSurface = none) (present : scene.forwardSurfaces.cell id = some surface)
    (free : surface.swaySurface = none) :
    agreement.agrees (contentOf (.lock output) scene.wire).sent surface.committed.look := by
  unfold Agreement.linksInForce at links
  rw [chosen, Option.all_some, there, Option.all_some, present, Option.all_some, alone, free] at links
  exact @of_decide_eq_true _ (agreement.decideAgrees _ _) links

theorem Agreement.admits_of_kept {state : SwaylockState} {occurrence : Occurrence} {event : SceneEvent}
    (kept : agreement.kept state occurrence = true) (same : occurrence.event = .scene event)
    (shows : ∀ id surface output, state.scene.forwardSurfaces.cell id = some surface →
      surface.swaySurface = some output → (state.scene.cycleView output).plugin = some surface.view) :
    AdmitsScene agreement.meets state.scene event := by
  obtain ⟨_, env⟩ := occurrence
  dsimp only at same
  subst same
  cases event with
  | configure => exact ⟨fun _ => trivial, fun _ => trivial⟩
  | request client request =>
      cases request with
      | surface id call =>
          cases call with
          | getLayerSurface resource =>
              intro output target surface chosen there alone present free
              have agrees := agreement.agrees_of_linksInForce kept chosen there alone present free
              rw [sent_eq] at agrees
              exact agrees
          | commit =>
              intro surface output present role
              have allowed := agreement.meets_of_commitsInForce kept present role
              refine ⟨fun _ _ => trivial, fun nested plugin found => ?_, fun root _ _ plugin found => ?_⟩
              · cases (shows id surface output present role).symm.trans found
                rw [if_pos nested] at allowed
                exact allowed
              · cases (shows id surface output present role).symm.trans found
                rw [root] at allowed
                exact allowed
          | _ => trivial
      | _ => trivial
  | _ => trivial

theorem SceneGuard.plugin (guard : SceneGuard none scene) (present : scene.forwardSurfaces.cell id = some surface)
    (role : surface.swaySurface = some output) : (scene.cycleView output).plugin = some surface.view := by
  obtain ⟨_, core, there, linked⟩ := guard.links.served output id surface present role
  rw [Scene.cycleView_linked present there linked]

theorem Agreement.holds_of_reachable {state : SwaylockState}
    (reachable : (swaylock.machine.guarded agreement.kept).Reachable state) (output : OutputId) :
    agreement.Holds (state.scene.cycleView output) := by
  obtain ⟨_, cycles⟩ := cycles_of_reachable agreement.lenient (fun state _ _ before kept same =>
    agreement.admits_of_kept kept same fun _ _ _ present role =>
      (guarded_of_reachable before.of_restrict).1.plugin present role) reachable
  exact .of_reachable (cycles output)

theorem current_of_commit {target : Target} {wire : List Message} {requests : List SurfaceRequest}
    (ends : requestsOn target wire = requests ++ [.commit]) :
    (contentOf target wire).current = some (contentOf target wire).sent := by
  unfold contentOf
  rw [ends, List.foldl_append]
  rfl

theorem Forwards.current {next : Scene} (forwards : Forwards scene surface output next) :
    (contentOf (.lock output) next.wire).current = some (contentOf (.lock output) next.wire).sent := by
  obtain ⟨_, _, core, description, content, _, _, view⟩ := forwards
  have log : entriesOf output next.wire = _ := congrArg CycleView.log view
  refine @current_of_commit _ _ (requestsIn ((scene.cycleView output).log ++
    (lookRequests description surface.shownLook surface.pending.look ++ content).map .request)) ?_
  have acks : requestsIn core.acceptEntries = [.commit] := by
    unfold OutputCore.acceptEntries OutputCore.waiting
    split <;> rfl
  rw [requestsOn_eq, log, ← acks]
  exact List.filterMap_append

theorem Forwards.agrees {next : Scene} (forwards : Forwards scene surface output next)
    (holds : agreement.Holds (scene.cycleView output)) (up : scene.display = true)
    (plugin : (scene.cycleView output).plugin = some surface.view)
    (allowed : if surface.subsurfaceParent.isSome then agreement.absorbs surface.committed.look surface.pending.look
      else agreement.sends surface.committed.look surface.pending.look) :
    agreement.agrees (contentOf (.lock output) next.wire).sent surface.pending.look := by
  have before : agreement.agrees (valuesIn (scene.cycleView output).log) surface.committed.look :=
    holds up surface.view plugin
  obtain ⟨_, _, core, description, content, _, plain, view⟩ := forwards
  have log : entriesOf output next.wire = _ := congrArg CycleView.log view
  have looked : agreement.agrees ((lookRequests description surface.shownLook surface.pending.look).foldl
      LastSent.receive (valuesIn (scene.cycleView output).log)) surface.pending.look := by
    unfold ForwardSurface.shownLook
    split at allowed
    · rename_i nested
      rw [if_pos nested]
      exact agreement.sent _ _ _ description (agreement.absorbed _ _ _ before allowed) (agreement.settled _)
    · rename_i root
      rw [if_neg root]
      exact agreement.sent _ _ _ description before allowed
  have received := agreement.receives looked fun request member => .inl (plain request member)
  rw [sent_eq, log]
  refine (show agreement.agrees (valuesIn (_ ++ core.acceptEntries)) _ from ?_)
  rw [valuesIn_accept, valuesIn_requests, List.foldl_append]
  exact received

theorem Forwards.recorded {next : Scene} (forwards : Forwards scene surface output next) (guard : SceneGuard none scene)
    (present : scene.forwardSurfaces.cell id = some surface) (role : surface.swaySurface = some output) :
    ∃ after, next.forwardSurfaces.cell id = some after ∧ after.committed.look = surface.pending.look := by
  obtain ⟨_, _, core, _, _, stands, _, view⟩ := forwards
  obtain ⟨_, target, there, linked⟩ := guard.links.served output id surface present role
  cases there.symm.trans stands
  have shown : (next.outputCore output).bind OutputCore.pluginSurface = some id := by
    rw [show next.outputCore output = some core.accepted from congrArg CycleView.output view]
    exact linked
  have plugin : ((next.outputCore output).bind OutputCore.pluginSurface).bind next.pluginView =
      some ⟨surface.cycle, surface.pending.look⟩ := congrArg CycleView.plugin view
  rw [shown] at plugin
  obtain ⟨after, there, same⟩ := Option.map_eq_some_iff.mp plugin
  exact ⟨after, there, congrArg PluginView.committed same⟩

/-- A step that forwards a commit in a run that keeps an agreement leaves values in force that agree with the pending
look, which stands in the committed record. -/
theorem agrees_of_step {state next : SwaylockState} {client : WlClientId} {env : Environment}
    (reachable : (swaylock.machine.guarded agreement.kept).Reachable state)
    (moved : (swaylock.machine.guarded agreement.kept).step state ⟨.scene (.request client (.surface id .commit)), env⟩ next)
    (owned : ownsSurface state.scene client id = true) (ends : endsForwarded state.scene id = true)
    (present : state.scene.forwardSurfaces.cell id = some surface) (role : surface.swaySurface = some output) :
    (∃ values, (contentOf (.lock output) next.scene.wire).current = some values ∧
      agreement.agrees values surface.pending.look) ∧
    ∃ after, next.scene.forwardSurfaces.cell id = some after ∧ after.committed.look = surface.pending.look := by
  obtain ⟨moved, kept⟩ := moved
  obtain ⟨up, commits⟩ := forwarded_of_step moved owned ends
  have guard := (guarded_of_reachable reachable.of_restrict).1
  have forwards := nestedSurfaceCommit_forwarded up guard (attached_of_reachable reachable.of_restrict) present role _
    commits rfl
  refine ⟨⟨_, forwards.current, ?_⟩, forwards.recorded guard present role⟩
  exact forwards.agrees (Agreement.holds_of_reachable reachable output) up (guard.plugin present role)
    (Agreement.meets_of_commitsInForce kept present role)

end Runs

/-- While each surface that gets the layer role agrees with the values in force, and none commits a new look as a
subsurface, every forwarded commit makes the pending scale, transform, destination, color representation and image
description current, and the pending source too while no commit changes the source. -/
theorem forwarded_values {state : SwaylockState} (reachable : swaylock.machine.Reachable state)
    (up : state.scene.display = true) {client : WlClientId} {env : Environment} {id : SurfaceId}
    {surface : ForwardSurface} {output : OutputId} {next : Scene}
    (present : state.scene.forwardSurfaces.cell id = some surface) (role : surface.swaySurface = some output)
    (commits : nestedSurfaceCommit state.scene id = .ok (next, .forwarded)) :
    ∃ values, (contentOf (.lock output) next.wire).current = some values ∧
      ((swaylock.machine.guarded Agreement.shown.kept).Reachable state →
        Agreement.shown.kept state ⟨.scene (.request client (.surface id .commit)), env⟩ = true →
        values.Shows surface.pending.look) ∧
      ((swaylock.machine.guarded Agreement.whole.kept).Reachable state →
        Agreement.whole.kept state ⟨.scene (.request client (.surface id .commit)), env⟩ = true →
        values.Shows surface.pending.look ∧ values.source = surface.pending.look.values.source) := by
  have guard := (guarded_of_reachable reachable).1
  have plugin := guard.plugin present role
  have forwards := nestedSurfaceCommit_forwarded up guard (attached_of_reachable reachable) present role _ commits rfl
  refine ⟨_, forwards.current, fun keeps kept => ?_, fun keeps kept => ?_⟩
  · exact forwards.agrees (Agreement.holds_of_reachable keeps output) up plugin
      (Agreement.meets_of_commitsInForce kept present role)
  · exact forwards.agrees (Agreement.holds_of_reachable keeps output) up plugin
      (Agreement.meets_of_commitsInForce kept present role)

/-- A plugin sets a scale and a transform, and its next commit is forwarded. -/
def scaledEvents : List Event :=
  presentingEvents ++ ([.surface 0 (.setBufferScale 2), .surface 0 (.setBufferTransform 2), .createBuffer 200 100,
    .surface 0 (.attach (some 1))] : List Request).map fun request => .scene (.request 0 request)

/-- A forwarded commit makes a new scale and a new transform current. -/
theorem forwarded_values_scaled : ∃ (state : SwaylockState) (surface : ForwardSurface) (next : Scene)
    (values : LastSent), nestedSurfaceCommit state.scene 0 = .ok (next, .forwarded) ∧
      surface.pending.bufferScale = 2 ∧ (contentOf (.lock 0) next.wire).current = some values ∧
        values.Shows surface.pending.look ∧ values.source = surface.pending.look.values.source := by
  obtain ⟨state, reachable, passed⟩ := swaylock.play_guarded Agreement.whole.kept (scaledEvents.map Event.obliged)
    (fun state => state.scene.display && ((state.scene.forwardSurfaces.cell 0).any fun surface =>
      surface.swaySurface == some 0 && surface.pending.bufferScale == 2) &&
      endsForwarded state.scene 0 &&
      Agreement.whole.kept state (Event.scene (.request 0 (.surface 0 .commit))).obliged)
    (startState_initial _ _ _) (by decide +kernel : ((swaylock.guarded _).play defaultState _).any _ = true)
  simp only [Bool.and_eq_true, Option.any_eq_true, beq_iff_eq] at passed
  obtain ⟨⟨⟨up, surface, present, role, scale⟩, forwarded⟩, kept⟩ := passed
  obtain ⟨next, commits⟩ := forwarded_of_test forwarded
  obtain ⟨values, current, _, whole⟩ := forwarded_values reachable.of_restrict up present role commits
  obtain ⟨shows, source⟩ := whole reachable kept
  exact ⟨state, surface, next, values, commits, scale, current, shows, source⟩

/-- After a forwarded commit the values that were sent last are the pending ones of a surface and stand in its record. -/
structure SentPending (id : SurfaceId) (surface : ForwardSurface) (output : OutputId) (next : Scene) : Prop where
  sent : ∃ values, (contentOf (.lock output) next.wire).current = some values ∧ values.Shows surface.pending.look ∧
    values.source = surface.pending.look.values.source
  recorded : ∃ after, next.forwardSurfaces.cell id = some after ∧ after.committed.look = surface.pending.look

/-- While no commit of a layer surface changes the viewport source, and each surface that gets the layer role agrees with
the values in force, a step that forwards a commit sends all pending values and records them. -/
theorem commits_send_pending {state next : SwaylockState}
    (reachable : (swaylock.machine.guarded Agreement.whole.kept).Reachable state) {client : WlClientId} {env : Environment}
    {id : SurfaceId} {surface : ForwardSurface} {output : OutputId}
    (moved : (swaylock.machine.guarded Agreement.whole.kept).step state
      ⟨.scene (.request client (.surface id .commit)), env⟩ next)
    (owned : ownsSurface state.scene client id = true) (ends : endsForwarded state.scene id = true)
    (present : state.scene.forwardSurfaces.cell id = some surface) (role : surface.swaySurface = some output) :
    SentPending id surface output next.scene := by
  obtain ⟨sent, recorded⟩ := agrees_of_step reachable moved owned ends present role
  exact ⟨sent, recorded⟩

/-- A new scale and a new transform are sent and recorded. -/
theorem commits_send_pending_scaled : ∃ (next : SwaylockState) (surface : ForwardSurface),
    surface.pending.bufferScale = 2 ∧ SentPending 0 surface 0 next.scene := by
  obtain ⟨state, next, reachable, moved, passed⟩ := (swaylock.guarded Agreement.whole.kept).play_step
    (scaledEvents.map Event.obliged) (Event.scene (.request 0 (.surface 0 .commit))).obliged
    (fun state _ => ownsSurface state.scene 0 0 && endsForwarded state.scene 0 &&
      (state.scene.forwardSurfaces.cell 0).any fun surface =>
        surface.swaySurface == some 0 && surface.pending.bufferScale == 2) (startState_initial _ _ _)
    (by decide +kernel : ((swaylock.guarded _).play defaultState _).any _ = true)
  rw [swaylock.guarded_machine] at reachable moved
  simp only [Bool.and_eq_true, Option.any_eq_true, beq_iff_eq] at passed
  obtain ⟨⟨owned, ends⟩, surface, present, role, scale⟩ := passed
  exact ⟨next, surface, scale, commits_send_pending reachable moved owned ends present role⟩

/-- A plugin sets a viewport source of the size of its output and attaches a buffer. -/
def croppedEvents : List Event :=
  presentingEvents ++ ([.surface 0 .getViewport, .object 3 (.setSource 0 0 25600 12800), .createBuffer 100 50,
    .surface 0 (.attach (some 1))] : List Request).map fun request => .scene (.request 0 request)

/-- A commit that changes the viewport source sends the source from before the change. -/
theorem changed_source_sent_late : ¬ ∀ (state next : SwaylockState) (client : WlClientId) (env : Environment)
    (id : SurfaceId) (surface : ForwardSurface) (output : OutputId), swaylock.machine.Reachable state →
      swaylock.machine.step state ⟨.scene (.request client (.surface id .commit)), env⟩ next →
        ownsSurface state.scene client id = true → endsForwarded state.scene id = true →
          state.scene.forwardSurfaces.cell id = some surface → surface.swaySurface = some output →
            SentPending id surface output next.scene := by
  intro claim
  obtain ⟨state, next, reachable, moved, passed⟩ := swaylock.play_step (croppedEvents.map Event.obliged)
    (Event.scene (.request 0 (.surface 0 .commit))).obliged
    (fun state next => ownsSurface state.scene 0 0 && endsForwarded state.scene 0 &&
      (state.scene.forwardSurfaces.cell 0).any fun surface => surface.swaySurface == some 0 &&
        (contentOf (.lock 0) next.scene.wire).current.any fun values =>
          values.source != surface.pending.look.values.source) (startState_initial _ _ _)
    (by decide +kernel : (swaylock.play defaultState _).any _ = true)
  simp only [Bool.and_eq_true, Option.any_eq_true, beq_iff_eq, bne_iff_ne] at passed
  obtain ⟨⟨owned, ends⟩, surface, present, role, values, shown, other⟩ := passed
  obtain ⟨sent, current, _, source⟩ := (claim state next 0 _ 0 surface 0 reachable moved owned ends present role).sent
  cases shown.symm.trans current
  exact other source

/-- The scale, the transform and the destination in force on a lock surface are the pending ones of a surface. -/
def PlacedPending (surface : ForwardSurface) (output : OutputId) (next : Scene) : Prop :=
  ∃ values, (contentOf (.lock output) next.wire).current = some values ∧
    values.placing = surface.pending.look.values.placing

/-- While each surface that gets the layer role agrees with the scale, the transform and the destination in force, and
none changes them in a commit as a subsurface, those of each surface are in force after its forwarded commits. -/
theorem replacements_placed {state next : SwaylockState}
    (reachable : (swaylock.machine.guarded Agreement.placed.kept).Reachable state) {client : WlClientId} {env : Environment}
    {id : SurfaceId} {surface : ForwardSurface} {output : OutputId}
    (moved : (swaylock.machine.guarded Agreement.placed.kept).step state
      ⟨.scene (.request client (.surface id .commit)), env⟩ next)
    (owned : ownsSurface state.scene client id = true) (ends : endsForwarded state.scene id = true)
    (present : state.scene.forwardSurfaces.cell id = some surface) (role : surface.swaySurface = some output) :
    PlacedPending surface output next.scene :=
  (agrees_of_step reachable moved owned ends present role).1

/-- A surface is destroyed, and another one of the same plugin takes its place and attaches a buffer. -/
def replacingEvents : List Event :=
  ([.surface 0 .commit, .surface 0 .destroy, .createSurface 4, .surface 1 (.getLayerSurface (some 0)), .surface 1 .commit,
    .object 3 (.ackConfigure 100003), .createBuffer 100 50, .surface 1 (.attach (some 1))] : List Request).map
      fun request => .scene (.request 0 request)

/-- A surface that takes the place of one with the protocol defaults has its own values in force. -/
theorem replacements_placed_plain : ∃ (next : SwaylockState) (surface : ForwardSurface),
    PlacedPending surface 0 next.scene := by
  obtain ⟨state, next, reachable, moved, passed⟩ := (swaylock.guarded Agreement.placed.kept).play_step
    ((presentingEvents ++ replacingEvents).map Event.obliged) (Event.scene (.request 0 (.surface 1 .commit))).obliged
    (fun state _ => ownsSurface state.scene 0 1 && endsForwarded state.scene 1 &&
      (state.scene.forwardSurfaces.cell 1).any fun surface => surface.swaySurface == some 0) (startState_initial _ _ _)
    (by decide +kernel : ((swaylock.guarded _).play defaultState _).any _ = true)
  rw [swaylock.guarded_machine] at reachable moved
  simp only [Bool.and_eq_true, Option.any_eq_true, beq_iff_eq] at passed
  obtain ⟨⟨owned, ends⟩, surface, present, role⟩ := passed
  exact ⟨next, surface, replacements_placed reachable moved owned ends present role⟩

/-- A surface that takes the place of one with another scale is shown in the scale of that one. -/
theorem replacement_in_old_scale : ¬ ∀ (state next : SwaylockState) (client : WlClientId) (env : Environment)
    (id : SurfaceId) (surface : ForwardSurface) (output : OutputId), swaylock.machine.Reachable state →
      swaylock.machine.step state ⟨.scene (.request client (.surface id .commit)), env⟩ next →
        ownsSurface state.scene client id = true → endsForwarded state.scene id = true →
          state.scene.forwardSurfaces.cell id = some surface → surface.swaySurface = some output →
            PlacedPending surface output next.scene := by
  intro claim
  obtain ⟨state, next, reachable, moved, passed⟩ := swaylock.play_step
    ((scaledEvents ++ replacingEvents.dropLast ++ [Event.scene (.request 0 (.surface 1 (.attach (some 2))))]).map
      Event.obliged) (Event.scene (.request 0 (.surface 1 .commit))).obliged
    (fun state next => ownsSurface state.scene 0 1 && endsForwarded state.scene 1 &&
      (state.scene.forwardSurfaces.cell 1).any fun surface => surface.swaySurface == some 0 &&
        (contentOf (.lock 0) next.scene.wire).current.any fun values =>
          values.bufferScale != surface.pending.bufferScale) (startState_initial _ _ _)
    (by decide +kernel : (swaylock.play defaultState _).any _ = true)
  simp only [Bool.and_eq_true, Option.any_eq_true, beq_iff_eq, bne_iff_ne] at passed
  obtain ⟨⟨owned, ends⟩, surface, present, role, values, shown, other⟩ := passed
  obtain ⟨sent, current, placing⟩ := claim state next 0 _ 1 surface 0 reachable moved owned ends present role
  cases shown.symm.trans current
  exact other (congrArg Prod.fst placing)

end SwaylockPlugin
