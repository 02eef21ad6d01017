import SwaylockPlugin.Proof.Cycles

namespace SwaylockPlugin

open Library

variable {scene : Scene} {id : SurfaceId} {old : ForwardSurface} {output : OutputId}

/-- A forwarded commit takes the pending look over, sends the requests, and goes out after what waits. -/
def CycleView.forwarded (view : CycleView) (core : OutputCore) (cycle : PluginCycle) (pending : Look)
    (requests : List SurfaceRequest) : CycleView :=
  { view with
    output := some core.accepted
    plugin := some ⟨cycle, pending⟩
    log := view.log ++ requests.map .request ++ core.acceptEntries }

/-- The upstream lock surface was shown the committed look, or the pending one where the surface is a subsurface too. -/
def ForwardSurface.shownLook (surface : ForwardSurface) : Look :=
  if surface.subsurfaceParent.isSome then surface.pending.look else surface.committed.look

/-- A commit is forwarded when the cycle of its output takes the pending look, what changed of it and some content. -/
structure Forwards (scene : Scene) (surface : ForwardSurface) (output : OutputId) (next : Scene) : Prop where
  configured : surface.hasBeenConfigured = true
  size : sized surface.lastAckedWidth surface.lastAckedHeight = true
  view : ∃ core description content, scene.outputCore output = some core ∧
    (∀ request ∈ content, request.plain = true) ∧ next.cycleView output =
      (scene.cycleView output).forwarded core surface.cycle surface.pending.look
        (lookRequests description surface.shownLook surface.pending.look ++ content)

theorem commitLayerSurface_forwards (guard : SceneGuard none scene) (attached : Attached scene)
    (present : scene.forwardSurfaces.cell id = some old) (role : old.swaySurface = some output)
    (drawn : old.pending.attachment ≠ .null) :
    Ensures (commitLayerSurface scene id output) fun result => result.2 = .forwarded →
      sized old.lastAckedWidth old.lastAckedHeight = true ∧
      ∃ core description content, scene.outputCore output = some core ∧ (∀ request ∈ content, request.plain = true) ∧
        result.1.cycleView output = (scene.cycleView output).forwarded core old.cycle old.pending.look
          (lookRequests description old.committed.look old.pending.look ++ content) := by
  have commits : CommitsTo id old (.lock output) := .inr ⟨output, rfl, role⟩
  refine .read fun record _ => ?_
  intro result computed outcome
  obtain ⟨framed, applied, computed⟩ := bind_ok.mp computed
  obtain ⟨reachable, description, size, sizes, part⟩ :=
    applyPendingSurfaceUpdates_stacks present record.surface framed applied
  obtain ⟨_, _, _, _, parts⟩ := applyPendingSurfaceUpdates_parts id (.lock output) record.surface framed applied
  have after : Attached framed := attached.updated ⟨_, _, _, _, framed, parts, .refl framed⟩
  have turned : (old.presented size).roleCore = old.roleCore := ForwardSurface.presented_roleCore
  have viewed := part.cycleView_self present turned commits guard.links role
  have surfaces := part.guarded present reachable sizes after guard.surfaces
  obtain ⟨presented, there, same⟩ := part.seen
  obtain ⟨found, read, computed⟩ := bind_ok.mp computed
  obtain ⟨verdict, checked, computed⟩ := bind_ok.mp computed
  have read : framed.forwardSurfaces.cell id = some found := demand_ok.mp read
  cases there.symm.trans read
  cases verdict with
  | some error =>
      cases computed
      cases outcome
  | none =>
      obtain ⟨accepted, accepts, computed⟩ := bind_ok.mp computed
      cases computed
      have cycle : presented.cycle = old.cycle :=
        congrArg RoleCore.cycle ((congrArg ForwardSurface.roleCore same).trans turned)
      have shown : presented.committed.attachment ≠ .null := by
        have attachment := congrArg (fun surface : ForwardSurface => surface.committed.attachment) same
        change presented.committed.attachment = (old.presented size).committed.attachment at attachment
        rw [attachment]
        exact presented_drawn (guard.surfaces.records id old present) reachable drawn
      have accepted_ := sized_of_accepted (surfaces.records id presented there) shown checked
      obtain ⟨_, core, stands, _⟩ := guard.links.served output id old present role
      have stays : framed.outputCore output = some core := (part.outputs output).trans stands
      obtain ⟨target, live, rfl⟩ := Option.map_eq_some_iff.mp stays
      have ends := (acceptCommit_accepts there live shown accepted accepts).view
      rw [viewed, ForwardSurface.presented_look] at ends
      refine ⟨?_, target.core, description, old.contentRequests size, stands,
        ForwardSurface.contentRequests_plain, ends⟩
      have width : presented.lastAckedWidth = old.lastAckedWidth := congrArg PluginCycle.lastAckedWidth cycle
      have height : presented.lastAckedHeight = old.lastAckedHeight := congrArg PluginCycle.lastAckedHeight cycle
      rw [← width, ← height]
      exact accepted_

theorem nestedSurfaceCommit_forwarded (up : scene.display = true) (guard : SceneGuard none scene)
    (attached : Attached scene) (present : scene.forwardSurfaces.cell id = some old)
    (role : old.swaySurface = some output) :
    Ensures (nestedSurfaceCommit scene id) fun result => result.2 = .forwarded →
      Forwards scene old output result.1 := by
  refine .read fun surface found => ?_
  rw [present] at found
  cases found
  split
  · exact .pure nofun
  refine (commitSubsurface_advances lenient_always up attached present fun _ _ _ => trivial).bind fun middle parts => ?_
  obtain ⟨advances, attached, up, record, there, turned, pending, viewed, ends⟩ := parts
  have middleGuard := (advances guard).guard
  have view := viewed output role guard.links
  refine .read fun current found => ?_
  rw [there] at found
  cases found
  have serves : record.swaySurface = some output := (congrArg RoleCore.role turned).trans role
  rw [serves]
  have cycle : record.cycle = old.cycle := congrArg RoleCore.cycle turned
  dsimp only
  unfold commitInRole
  split
  · intro result computed outcome
    obtain ⟨_, _, computed⟩ := bind_ok.mp computed
    cases computed
    cases outcome
  rename_i done
  have done : record.hasBeenConfigured = true := by simpa using done
  split
  · split
    · exact .pure nofun
    · exact .pure nofun
  rename_i drawn
  have drawn : record.pending.attachment ≠ .null := by simpa using drawn
  refine (commitLayerSurface_forwards middleGuard attached there serves drawn).weaken fun result forwards outcome => ?_
  obtain ⟨size, core, description, content, stands, plain, last⟩ := forwards outcome
  have shown : record.committed.look = old.shownLook := by
    unfold ForwardSurface.shownLook
    rcases ends with ⟨root, rfl⟩ | ⟨nested, looked⟩
    · cases present.symm.trans there
      rw [root]
      rfl
    · rw [if_pos nested, looked]
  have width : record.lastAckedWidth = old.lastAckedWidth := congrArg PluginCycle.lastAckedWidth cycle
  have height : record.lastAckedHeight = old.lastAckedHeight := congrArg PluginCycle.lastAckedHeight cycle
  have configured : record.hasBeenConfigured = old.hasBeenConfigured := congrArg PluginCycle.hasBeenConfigured cycle
  have kept : (scene.cycleView output).output = some core := by
    have same : (middle.cycleView output).output = (scene.cycleView output).output := by rw [view]
    exact same.symm.trans stands
  refine ⟨configured ▸ done, width ▸ height ▸ size, core, description, content, kept, plain, ?_⟩
  rw [last, view, shown, cycle, pending]
  rfl

/-- A test shows whether a commit is forwarded. -/
def endsForwarded (scene : Scene) (id : SurfaceId) : Bool :=
  match nestedSurfaceCommit scene id with
  | .ok (_, .forwarded) => true
  | _ => false

theorem forwarded_of_test (passed : endsForwarded scene id = true) :
    ∃ next, nestedSurfaceCommit scene id = .ok (next, .forwarded) := by
  unfold endsForwarded at passed
  split at passed
  · rename_i next computed
    exact ⟨next, computed⟩
  · cases passed

/-- A commit of the owner of a surface that ends forwarded is forwarded in a step, with the nested server up. -/
theorem forwarded_of_step {state next : SwaylockState} {client : WlClientId} {id : SurfaceId} {env : Environment}
    (moved : swaylock.machine.step state ⟨.scene (.request client (.surface id .commit)), env⟩ next)
    (owned : ownsSurface state.scene client id = true) (ends : endsForwarded state.scene id = true) :
    state.scene.display = true ∧ nestedSurfaceCommit state.scene id = .ok (next.scene, .forwarded) := by
  have allowed : ((state.polling && state.scene.display) && (openConnection state.scene client && _ && _)) = true := moved.1
  simp only [Bool.and_eq_true] at allowed
  refine ⟨allowed.1.2, ?_⟩
  obtain ⟨last, forwards⟩ := forwarded_of_test ends
  obtain ⟨scene, handled, same⟩ := bind_ok.mp moved.2
  cases same
  change (if ownsSurface state.scene client id then _ else _) = Except.ok scene at handled
  rw [if_pos owned] at handled
  obtain ⟨result, commits, same⟩ := bind_ok.mp handled
  cases forwards.symm.trans commits
  cases same
  exact forwards

end SwaylockPlugin
