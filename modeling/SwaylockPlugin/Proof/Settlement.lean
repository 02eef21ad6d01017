import SwaylockPlugin.Abstract.Settlement
import SwaylockPlugin.Proof.Callbacks
import SwaylockPlugin.Proof.Cycles
import SwaylockPlugin.Proof.Fallback
import SwaylockPlugin.Proof.MainLoop
import SwaylockPlugin.Proof.Teardown

namespace SwaylockPlugin

open Library

/-- An output is buffered when it exists and a buffer was committed to it. -/
def Scene.buffered (scene : Scene) (id : OutputId) : Bool := (scene.outputs.cell id).any SwaylockSurface.hasBuffer

/-- While the nested server is up, an output that owes a plain frame has no buffer, and after that its cycle is settled. -/
structure Owes (id : OutputId) (owes : Bool) (scene : Scene) : Prop where
  up : scene.display = true → owes = true → scene.buffered id = false
  down : (scene.cycleView id).Settled owes

/-- A handler settles an output when its cycle takes steps of its own and it still owes what it owed. -/
structure Settles (id : OutputId) (first second : Scene) : Prop where
  advances : Advances unanswered none first second
  owes : SceneGuard none first → (first.cycleView id).Records → ∀ owes, Owes id owes first → Owes id owes second

variable {scene first second third : Scene} {id : OutputId} {env : Environment} {owes : Bool}

section Views

theorem buffered_congr (same : (second.outputs.cell id).map SwaylockSurface.hasBuffer =
    (first.outputs.cell id).map SwaylockSurface.hasBuffer) : second.buffered id = first.buffered id := by
  have shown (scene : Scene) :
      scene.buffered id = ((scene.outputs.cell id).map SwaylockSurface.hasBuffer).any fun buffer => buffer := by
    rw [Option.any_map]
    rfl
  rw [shown, shown, same]

theorem Changes.buffered {effects : List Effect} (changes : Changes effects first second)
    (screen : Effect.output .screen ∉ effects) (add : Effect.addOutput ∉ effects)
    (remove : Effect.removeOutput ∉ effects) (id : OutputId) : second.buffered id = first.buffered id := by
  refine buffered_congr (changes.outputs SwaylockSurface.hasBuffer (fun group listed output => ?_) add remove id)
  cases group with
  | screen => exact absurd listed screen
  | _ => rfl

theorem Quiet.buffered (quiet : Quiet first second) (id : OutputId) : second.buffered id = first.buffered id := by
  apply buffered_congr
  have same := congrArg (Option.map OutputCore.hasBuffer) (quiet.outputs id)
  rw [Option.map_map, Option.map_map] at same
  exact same

theorem Advanced.records {meets : CycleView → CycleEvent → Prop} (advanced : Advanced meets none first second)
    (records : (first.cycleView id).Records) : (second.cycleView id).Records := by
  obtain ⟨events, run⟩ := advanced.runs id (Option.some_ne_none id)
  refine run.preserves CycleView.Records (fun view event next records moved => ?_) records
  exact records.step moved.1

/-- Steps without the nested server keep a cycle settled unless they answer a configure event. -/
theorem Advanced.settled (advanced : Advanced unanswered none first second) (down : first.display = false)
    (records : (first.cycleView id).Records) (settled : (first.cycleView id).Settled owes) :
    (second.cycleView id).Settled owes := by
  obtain ⟨events, run⟩ := advanced.runs id (Option.some_ne_none id)
  exact settled.run records down run

theorem Advanced.settled_of_kept (advanced : Advanced unanswered none first second)
    (display : second.display = first.display) (records : (first.cycleView id).Records)
    (settled : (first.cycleView id).Settled owes) : (second.cycleView id).Settled owes := by
  cases before : first.display with
  | false => exact advanced.settled before records settled
  | true =>
      intro down
      have up : second.display = true := display.trans before
      exact absurd (up.symm.trans down) Bool.noConfusion

end Views

namespace Settles

theorem refl (scene : Scene) : Settles id scene scene := ⟨.refl scene, fun _ _ _ owed => owed⟩

theorem trans (one : Settles id first second) (two : Settles id second third) : Settles id first third := by
  refine ⟨one.advances.trans two.advances, fun guard records owes owed => ?_⟩
  have advanced := one.advances guard
  exact two.owes advanced.guard (advanced.records records) owes (one.owes guard records owes owed)

theorem of_kept (advances : Advances unanswered none first second) (display : second.display = first.display)
    (buffered : second.buffered id = first.buffered id) : Settles id first second := by
  refine ⟨advances, fun guard records owes owed => ⟨fun up owing => ?_, ?_⟩⟩
  · rw [buffered]
    exact owed.up (display.symm.trans up) owing
  · exact (advances guard).settled_of_kept display records owed.down

theorem of_quiet (quiet : Quiet first second) : Settles id first second :=
  of_kept quiet.advances quiet.display (quiet.buffered id)

theorem of_changes {effects : List Effect} (advances : Advances unanswered none first second)
    (changes : Changes effects first second) (display : Effect.display ∉ effects)
    (screen : Effect.output .screen ∉ effects) (add : Effect.addOutput ∉ effects)
    (remove : Effect.removeOutput ∉ effects) : Settles id first second :=
  of_kept advances (changes.display display) (changes.buffered screen add remove id)

end Settles

section Fallback

variable {other : OutputId}

theorem render_other (scene : Scene) (apart : other ≠ id) :
    (render scene id).outputs.cell other = scene.outputs.cell other := by
  unfold render
  split
  · rfl
  · split
    · rfl
    · exact Heap.cell_modify_other _ _ apart

theorem renderDirty_other (scene : Scene) (apart : other ≠ id) :
    (renderDirty scene id).outputs.cell other = scene.outputs.cell other :=
  (render_other _ apart).trans (Heap.cell_modify_other _ _ apart)

theorem ackNewest_other (scene : Scene) (apart : other ≠ id) :
    (ackNewest scene id).outputs.cell other = scene.outputs.cell other := by
  unfold ackNewest
  split
  · rfl
  · split
    · exact Heap.cell_modify_other _ _ apart
    · rfl

theorem renderFallbackSurface_other (scene : Scene) (env : Environment) (apart : other ≠ id) :
    (renderFallbackSurface scene env id).outputs.cell other = scene.outputs.cell other := by
  unfold renderFallbackSurface
  split
  · rfl
  · split
    · exact Heap.cell_modify_other _ _ apart
    · rfl

theorem fallBackSurface_other (scene : Scene) (env : Environment) (apart : other ≠ id) :
    (fallBackSurface scene env id).outputs.cell other = scene.outputs.cell other := by
  unfold fallBackSurface
  split
  · rfl
  · split
    · rfl
    · split
      · exact renderDirty_other scene apart
      · exact ((renderDirty_other _ apart).trans (renderFallbackSurface_other _ env apart)).trans
          (ackNewest_other scene apart)

theorem settled_of_absent (absent : scene.outputs.cell id = none) : (scene.cycleView id).Settled owes := by
  intro _ core present
  have none_ : scene.outputCore id = none := by
    rw [Scene.outputCore, absent]
    rfl
  exact absurd (none_.symm.trans present) (Option.some_ne_none core).symm

theorem renderFallbackSurface_settled (created : env.createBuffer id = true) (records : (scene.cycleView id).Records)
    (ready : ∀ output, scene.outputs.cell id = some output → output.hasNewerSerial = false ∧
      issuedIn (entriesOf id scene.wire) ≠ []) :
    ((renderFallbackSurface scene env id).cycleView id).Settled owes := by
  unfold renderFallbackSurface
  split
  · rename_i absent
    exact settled_of_absent absent
  · rename_i output present
    rw [if_pos created, @Scene.cycleView_setOutput (scene.requestAll (.lock id) _) id output present _ rfl,
      Scene.cycleView_requestAll]
    intro _ core same _
    cases same
    obtain ⟨idle, issued⟩ := ready output present
    have known := records output.core (Scene.outputCore_of_present present)
    exact ⟨rfl, fun _ => .fallback (known.newest issued) (known.acknowledged issued idle) idle⟩

theorem fallBackSurface_settled (created : env.createBuffer id = true) (down : scene.display = false)
    (guard : SceneGuard none scene) (records : (scene.cycleView id).Records)
    (owed : owes = true → scene.buffered id = false) :
    ((fallBackSurface scene env id).cycleView id).Settled owes := by
  unfold fallBackSurface
  split
  · rename_i absent
    exact settled_of_absent absent
  · rename_i output present
    have core := Scene.outputCore_of_present present
    split
    · rename_i narrow
      intro _ other same size
      cases core.symm.trans same
      rw [not_sized, Bool.not_eq_true'] at narrow
      exact absurd (narrow.symm.trans size) Bool.noConfusion
    · rename_i positive
      rw [not_sized, Bool.not_eq_true', Bool.not_eq_false] at positive
      split
      · rename_i buffer
        refine (renderDirty_advances unanswered_lenient scene id guard).settled down records ?_
        intro _ other same _
        cases core.symm.trans same
        refine ⟨buffer, fun owing => ?_⟩
        have none_ := owed owing
        rw [Scene.buffered, present, Option.any_some, buffer] at none_
        cases none_
      · have acked := ackNewest_advances unanswered_lenient down id guard
        have still : (ackNewest scene id).display = false := (ackNewest_display scene id).trans down
        have known := acked.records records
        have current := ackNewest_current present
        have issued : issuedIn (entriesOf id (ackNewest scene id).wire) ≠ [] :=
          (known _ (Scene.outputCore_of_present current)).present positive
        have ready : ∀ output, (ackNewest scene id).outputs.cell id = some output → output.hasNewerSerial = false ∧
            issuedIn (entriesOf id (ackNewest scene id).wire) ≠ [] := by
          intro other found
          cases current.symm.trans found
          exact ⟨rfl, issued⟩
        have filled := renderFallbackSurface_advances unanswered_lenient still env id
          (fun output found => ⟨(ready output found).1, .inr (ready output found).2⟩) acked.guard
        refine (renderDirty_advances unanswered_lenient _ id filled.guard).settled ?_ (filled.records known)
          (renderFallbackSurface_settled created known ready)
        exact (renderFallbackSurface_display _ env id).trans still

theorem fallBackSurfaces_settled (created : env.createBuffer id = true) {surfaces : List OutputId}
    (listed : id ∈ surfaces) (down : scene.display = false) (guard : SceneGuard none scene)
    (records : (scene.cycleView id).Records) (owed : owes = true → scene.buffered id = false) :
    ((surfaces.foldl (fun scene id => fallBackSurface scene env id) scene).cycleView id).Settled owes := by
  induction surfaces generalizing scene with
  | nil => cases listed
  | cons output surfaces ih =>
      obtain ⟨advances, still⟩ := fallBackSurface_advances unanswered_lenient env scene output down
      have advanced := advances guard
      have known := advanced.records records
      by_cases same : id = output
      · subst same
        have settled := fallBackSurface_settled created down guard records owed
        have rest := foldl_keeps DownAdvances.refl DownAdvances.trans (fallBackSurface_advances unanswered_lenient env)
          surfaces (fallBackSurface scene env id) still
        exact (rest.1 advanced.guard).settled still known settled
      · have later := (List.mem_cons.mp listed).resolve_left same
        refine ih later still advanced.guard known fun owing => ?_
        rw [Scene.buffered, fallBackSurface_other scene env same]
        exact owed owing

theorem setupClientlessMode_settles (created : env.createBuffer id = true) (scene : Scene) :
    Settles id scene (setupClientlessMode scene env) := by
  refine ⟨setupClientlessMode_advances unanswered_lenient scene env, fun guard records owes owed => ⟨fun up => ?_, ?_⟩⟩
  · rw [setupClientlessMode_down] at up
    cases up
  unfold setupClientlessMode
  split
  · rename_i up
    dsimp only
    have resumed : Quiet scene (resumeAllClients scene env) := resumeAllClients_quiet scene env
    have cancelled : Quiet (resumeAllClients scene env)
        ((resumeAllClients scene env).surfaces.foldl cancelSubmissionTimer (resumeAllClients scene env)) :=
      foldl_keeps Frame.refl Frame.trans cancelSubmissionTimer_quiet _ _
    have quiet := resumed.trans cancelled
    have ended := (Quiet.advances quiet).trans (destroyDisplay_advances unanswered_lenient _) guard
    have known := ended.records records
    generalize (resumeAllClients scene env).surfaces.foldl cancelSubmissionTimer (resumeAllClients scene env) =
      cleared at quiet ended known
    by_cases listed : id ∈ (destroyDisplay cleared).surfaces
    · refine fallBackSurfaces_settled created listed rfl ended.guard known fun owing => ?_
      have kept : (destroyDisplay cleared).buffered id = cleared.buffered id := rfl
      rw [kept, Quiet.buffered quiet id]
      exact owed.up up owing
    · have rest := foldl_keeps DownAdvances.refl DownAdvances.trans (fallBackSurface_advances unanswered_lenient env)
        (destroyDisplay cleared).surfaces (destroyDisplay cleared) rfl
      refine (rest.1 ended.guard).settled rfl known (settled_of_absent ?_)
      by_contra present
      obtain ⟨output, there⟩ := Option.ne_none_iff_exists'.mp present
      exact listed ((ended.guard.links.listed id).mpr ⟨Scene.outputCore_isSome there, Option.some_ne_none id⟩)
  · exact owed.down

end Fallback

section Handlers

theorem Settles.of_retimed (kept : Retimed first second) : Settles id first second := by
  refine .of_kept kept.advances ?_ ?_
  · obtain ⟨_, _, _, rfl⟩ := kept
    rfl
  · obtain ⟨_, _, _, rfl⟩ := kept
    rfl

theorem createLockSurface_settles {record : SwaylockSurface} {output : OutputId}
    (present : scene.outputs.cell output = some record) : Settles id scene (createLockSurface scene output) := by
  refine .of_kept (createLockSurface_advances unanswered_lenient present) rfl (buffered_congr ?_)
  have kept := scene.outputs.view_modify output (fun record => { record with
    surface := ⟨true, scene.globals.viewporter, scene.globals.colorRepresentation, scene.globals.colorManagement⟩
    extSessionLockSurface := true
    fractionalScale := scene.globals.fractionalScale
    clientSubmissionTimer := some (scene.addTimer timeoutSurface (.outputRedrawTimeout output)).2 })
    SwaylockSurface.hasBuffer (fun _ _ => rfl) id
  exact kept

theorem settles_teardown (created : env.createBuffer id = true) : Teardown env (Settles id) where
  refl := .refl
  trans := .trans
  tended quiet _ := .of_quiet quiet
  retimed := .of_retimed
  noted scene output _ core _ := .of_quiet (.setOutput scene output core)
  locked := createLockSurface_settles
  destroyed scene client := by
    have advances : Ensures (wlClientDestroy scene client env.owned) (Advances unanswered none scene) :=
      wlClientDestroy_advances unanswered_lenient scene client env.owned
    refine (advances.both (wlClientDestroy_changes client env.owned)).weaken fun _ ended => ?_
    exact .of_changes ended.1 ended.2 (by simp) (by simp) (by simp) (by simp)
  fallen := setupClientlessMode_settles created

end Handlers

section Configures

variable {output : OutputId}

theorem render_own (scene : Scene) (output : OutputId) : Own output scene (render scene output) := by
  unfold render
  split
  · exact .ofQuiet (.refl _)
  · split
    · exact .ofQuiet (.refl _)
    · have marked : Own output scene
          (scene.setOutput output fun output => { output with dirty := false, frame := true }) :=
        .setOutput scene output fun _ => rfl
      exact marked.trans (.requestAll _ output [.frame, .commit])

theorem renderDirty_own (scene : Scene) (output : OutputId) : Own output scene (renderDirty scene output) := by
  have marked : Own output scene (scene.setOutput output fun output => { output with dirty := true }) :=
    .setOutput scene output fun _ => rfl
  exact marked.trans (render_own _ output)

theorem renderFallbackSurface_own (scene : Scene) (env : Environment) (output : OutputId) :
    Own output scene (renderFallbackSurface scene env output) := by
  unfold renderFallbackSurface
  split
  · exact .ofQuiet (.refl scene)
  · split
    · exact (Own.requestAll scene output _).trans (.setOutput _ output fun _ => rfl)
    · exact .ofQuiet (.refl scene)

/-- A configure event that is answered at once is acknowledged. -/
def acknowledgeConfigure (scene : Scene) (output : OutputId) (serial width height : UInt32) : Scene :=
  ((recordConfigure scene output serial width height).tell (.ackConfigure output serial)).setOutput output fun output =>
    { output with hasNewerSerial := false }

theorem answerConfigure_acknowledges (down : scene.display = false) (first : Bool) (serial width height : UInt32) :
    answerConfigure (recordConfigure scene output serial width height) env output first serial =
      .ok (renderFallbackSurface (acknowledgeConfigure scene output serial width height) env output) := by
  unfold answerConfigure
  rw [if_neg (show ¬ (recordConfigure scene output serial width height).display = true from
    fun up => absurd (up.symm.trans down) Bool.noConfusion)]
  rfl

theorem acknowledgeConfigure_own (scene : Scene) (output : OutputId) (serial width height : UInt32) :
    Own output scene (acknowledgeConfigure scene output serial width height) := by
  have told : Own output (recordConfigure scene output serial width height)
      ((recordConfigure scene output serial width height).tell (.ackConfigure output serial)) :=
    .tell _ output fun other apart => if_neg (Ne.symm apart)
  exact ((recordConfigure_own serial width height scene output).trans told).trans (.setOutput _ output fun _ => rfl)

theorem cycleView_acknowledgeConfigure {record : SwaylockSurface} (present : scene.outputs.cell output = some record)
    (serial width height : UInt32) :
    (acknowledgeConfigure scene output serial width height).cycleView output = { scene.cycleView output with
      output := some { record.core.record serial width height with hasNewerSerial := false }
      log := (scene.cycleView output).log ++ [.configured serial width height, .acknowledged serial] } := by
  have stays : ((recordConfigure scene output serial width height).tell (.ackConfigure output serial)).outputs.cell
      output = some { record with width := width, height := height, newestSerial := serial } :=
    cell_recordConfigure serial width height present
  have entry : (Message.ackConfigure output serial).entry output = some (.acknowledged serial) := if_pos rfl
  unfold acknowledgeConfigure
  rw [Scene.cycleView_setOutput _ stays rfl, Scene.cycleView_tell, entry,
    cycleView_recordConfigure serial width height present, Option.toList_some, List.append_assoc]
  rfl

theorem answerConfigure_answers (down : scene.display = false) (first : Bool) (serial width height : UInt32) :
    Ensures (answerConfigure (recordConfigure scene output serial width height) env output first serial)
      fun answered => answered =
        renderFallbackSurface (acknowledgeConfigure scene output serial width height) env output :=
  fun _ computed =>
    Except.ok.inj (computed.symm.trans (answerConfigure_acknowledges down first serial width height))

theorem extSessionLockSurfaceV1HandleConfigure_own (down : scene.display = false) (serial width height : UInt32) :
    Ensures (extSessionLockSurfaceV1HandleConfigure scene env output serial width height) (Own output scene) := by
  refine .read fun record _ => (answerConfigure_answers down _ serial width height).bind ?_
  rintro answered rfl
  have filled := (acknowledgeConfigure_own scene output serial width height).trans (renderFallbackSurface_own _ env output)
  have drawn := filled.trans (renderDirty_own _ output)
  dsimp only
  split
  · exact (armRedraw_quiet _ output).weaken fun _ armed => drawn.trans (.ofQuiet armed)
  · exact .pure drawn

theorem extSessionLockSurfaceV1HandleConfigure_settled (created : env.createBuffer output = true)
    (down : scene.display = false) (guard : SceneGuard none scene) (records : (scene.cycleView output).Records)
    {serial width height : UInt32} (fresh : serial ∉ issuedIn (entriesOf output scene.wire)) :
    Ensures (extSessionLockSurfaceV1HandleConfigure scene env output serial width height) fun next =>
      (next.cycleView output).Settled owes := by
  refine .read fun record present => ?_
  have advances : Ensures (answerConfigure (recordConfigure scene output serial width height) env output
      (record.width == 0 || record.height == 0) serial) (Advances (fun _ _ => True) none scene) :=
    answerConfigure_down lenient_always present down env _ fresh trivial
  refine (advances.both (answerConfigure_answers down _ serial width height)).bind ?_
  rintro answered ⟨advances, rfl⟩
  have advanced := advances guard
  have view := cycleView_acknowledgeConfigure present serial width height
  have settled : ((renderFallbackSurface (acknowledgeConfigure scene output serial width height) env
      output).cycleView output).Settled owes := by
    have known : ((acknowledgeConfigure scene output serial width height).cycleView output).Records := by
      rw [view]
      intro core same
      cases same
      exact .answer _ _ _ _
    refine renderFallbackSurface_settled created known fun changed there => ?_
    have shown : (acknowledgeConfigure scene output serial width height).outputCore output = _ :=
      congrArg CycleView.output view
    have log : entriesOf output (acknowledgeConfigure scene output serial width height).wire = _ :=
      congrArg CycleView.log view
    rw [Scene.outputCore_of_present there] at shown
    refine ⟨congrArg OutputCore.hasNewerSerial (Option.some.inj shown), ?_⟩
    rw [log]
    simp [issuedIn]
  have still : (renderFallbackSurface (acknowledgeConfigure scene output serial width height) env output).display =
      false := (renderFallbackSurface_display _ env output).trans down
  have drawn := renderDirty_advances unanswered_lenient _ output advanced.guard
  have last := drawn.settled still (advanced.records records) settled
  dsimp only
  split
  · refine (armRedraw_quiet _ output).weaken fun next armed => ?_
    rw [armed.roles.cycleView output]
    exact last
  · exact .pure last

end Configures

section Runs

/-- An event configures an output when it brings a configure event for it. -/
def Event.configures (id : OutputId) : Event → Bool
  | .scene (.configure output _ _ _) => output == id
  | _ => false

/-- An output owes a plain frame when it has no buffer at the end of the nested server or is configured after that. -/
def owesFrame (id : OutputId) (owes : Bool) (state : SwaylockState) (occurrence : Occurrence) : Bool :=
  if state.scene.display then !state.scene.buffered id else owes || occurrence.event.configures id

/-- Every buffer for an output can be created. -/
def createsBuffers (id : OutputId) (_ : SwaylockState) (occurrence : Occurrence) : Bool :=
  occurrence.env.createBuffer id

/-- The frame of an output is plain when the fallback buffer was attached last, when it is current at scale one in the
size of the output, and when the newest configure event is acknowledged. -/
structure ShowsPlain (scene : Scene) (id : OutputId) (output : SwaylockSurface) : Prop where
  buffer : (requestsOn (.lock id) scene.wire).foldl attach none = some .fallback
  size : (contentOf (.lock id) scene.wire).current.bind LastSent.content = some (output.width, output.height)
  scale : (contentOf (.lock id) scene.wire).current.map LastSent.bufferScale = some 1
  newest : (issued id scene.wire).getLast? = some output.newestSerial
  acknowledged : output.newestSerial ∈ acknowledged id scene.wire
  idle : output.hasNewerSerial = false

/-- Without the nested server an output is settled when it has a buffer as soon as it has a size, and shows the plain
frame that it owes. -/
structure SettledOutput (scene : Scene) (id : OutputId) (owes : Bool) : Prop where
  buffered : ∀ output, scene.outputs.cell id = some output → sized output.width output.height = true →
    output.hasBuffer = true
  plain : owes = true → ∀ output, scene.outputs.cell id = some output → sized output.width output.height = true →
    ShowsPlain scene id output

theorem ShowsPlain.of_frame {output : SwaylockSurface} (plain : PlainFrame output.core (entriesOf id scene.wire)) :
    ShowsPlain scene id output := by
  have content : contentOf (.lock id) scene.wire = contentIn (entriesOf id scene.wire) := by
    unfold contentOf contentIn
    rw [requestsOn_eq]
  refine ⟨?_, ?_, ?_, ?_, ?_, plain.idle⟩
  · rw [requestsOn_eq]
    exact plain.buffer
  · rw [content, plain.current]
    exact plain.size
  · rw [content, plain.current]
    exact congrArg some plain.scale
  · rw [issued_eq]
    exact plain.newest
  · rw [acknowledged_eq]
    exact plain.acknowledged

theorem SettledOutput.of_cycle (settled : (scene.cycleView id).Settled owes) (down : scene.display = false) :
    SettledOutput scene id owes where
  buffered _ present size := (settled down _ (Scene.outputCore_of_present present) size).1
  plain owing _ present size := .of_frame ((settled down _ (Scene.outputCore_of_present present) size).2 owing)

theorem admitsScene_unanswered {event : SceneEvent}
    (up : ∀ output serial width height, event = .configure output serial width height → scene.display = true) :
    AdmitsScene unanswered scene event := by
  unfold AdmitsScene
  split
  · refine ⟨fun _ => trivial, fun down => ?_⟩
    exact absurd ((up _ _ _ _ rfl).symm.trans down) Bool.noConfusion
  · exact fun _ _ _ _ _ _ _ _ => trivial
  · exact fun _ _ _ _ => ⟨fun _ _ => trivial, fun _ => trivial, fun _ _ _ => trivial⟩
  · trivial

variable {state next : SwaylockState} {occurrence : Occurrence}

theorem owes_of_settled (settled : (state.scene.cycleView id).Settled owes)
    (other : state.scene.display = true ∨ occurrence.event.configures id = false) :
    Owes id (owesFrame id owes state occurrence) state.scene := by
  unfold owesFrame
  constructor
  · intro up owing
    rw [if_pos up] at owing
    simpa using owing
  · intro down
    have down : state.scene.display = false := down
    have other := other.resolve_left fun up => absurd (up.symm.trans down) Bool.noConfusion
    rw [down, if_neg Bool.false_ne_true, other, Bool.or_false]
    exact settled down

theorem handleScene_of_step {event : SceneEvent} (moved : swaylock.machine.step state ⟨.scene event, env⟩ next) :
    sceneEnabled state.scene env event = true ∧
      handleScene state.scene env state.runDisplay event = .ok next.scene := by
  obtain ⟨allowed, computed⟩ := moved
  change enabled state ⟨.scene event, env⟩ = true at allowed
  obtain ⟨scene, handled, rest⟩ := bind_ok.mp computed
  cases rest
  refine ⟨?_, handled⟩
  simp only [enabled] at allowed
  split at allowed
  · exact ((Bool.and_eq_true _ _).mp allowed).2
  · exact ((Bool.and_eq_true _ _).mp allowed).2

theorem settled_of_configure (created : env.createBuffer id = true) (guard : SceneGuard none state.scene)
    (records : (state.scene.cycleView id).Records) (settled : (state.scene.cycleView id).Settled owes)
    {output : OutputId} {serial width height : UInt32}
    (moved : swaylock.machine.step state ⟨.scene (.configure output serial width height), env⟩ next) :
    (next.scene.cycleView id).Settled
      (owesFrame id owes state ⟨.scene (.configure output serial width height), env⟩) := by
  obtain ⟨permitted, handled⟩ := handleScene_of_step moved
  cases down : state.scene.display with
  | true =>
      intro stays
      have kept : next.scene.display = state.scene.display := handleScene_display state.scene state.runDisplay rfl _ handled
      exact absurd ((kept.trans down).symm.trans stays) Bool.noConfusion
  | false =>
      have fresh : serial ∉ issuedIn (entriesOf output state.scene.wire) := by
        have fresh := ((Bool.and_eq_true _ _).mp permitted).2
        rw [issued_eq] at fresh
        simpa using fresh
      by_cases same : id = output
      · subst same
        exact extSessionLockSurfaceV1HandleConfigure_settled created down guard records fresh _ handled
      · have own := extSessionLockSurfaceV1HandleConfigure_own down serial width height _ handled
        have calm : Event.configures id (.scene (.configure output serial width height)) = false :=
          beq_eq_false_iff_ne.mpr (Ne.symm same)
        unfold owesFrame
        rw [own.cycleView guard.links same, down, if_neg Bool.false_ne_true]
        dsimp only
        rw [calm, Bool.or_false]
        exact settled

theorem settled_of_step (creates : createsBuffers id state occurrence = true) (guard : SceneGuard none state.scene)
    (attached : Attached state.scene) (records : (state.scene.cycleView id).Records)
    (settled : (state.scene.cycleView id).Settled owes) (moved : swaylock.machine.step state occurrence next) :
    (next.scene.cycleView id).Settled (owesFrame id owes state occurrence) := by
  obtain ⟨event, env⟩ := occurrence
  have created : env.createBuffer id = true := creates
  by_cases configures : ∃ output serial width height, event = .scene (.configure output serial width height)
  · obtain ⟨output, serial, width, height, rfl⟩ := configures
    exact settled_of_configure created guard records settled moved
  have calm : Event.configures id event = false := by
    unfold Event.configures
    split
    · exact absurd ⟨_, _, _, _, rfl⟩ configures
    · rfl
  have owed : Owes id (owesFrame id owes state ⟨event, env⟩) state.scene := owes_of_settled settled (.inr calm)
  by_cases kept : next.scene.display = state.scene.display
  · have admitted : ∀ scene, event = .scene scene → AdmitsScene unanswered state.scene scene := fun scene same =>
      admitsScene_unanswered fun output serial width height brings =>
        absurd ⟨output, serial, width, height, same.trans (congrArg Event.scene brings)⟩ configures
    have advanced := advances_of_step unanswered_lenient attached moved admitted guard
    exact advanced.settled_of_kept kept records owed.down
  · have settles := (settles_teardown created).of_step moved kept
    exact (settles.owes guard records _ owed).down

theorem settled_of_reachable {pair : SwaylockState × Bool} (reachable : ((swaylock.machine.guarded (createsBuffers
    id)).observed false (owesFrame id)).Reachable pair) : (pair.1.scene.cycleView id).Settled pair.2 := by
  have known (pair : SwaylockState × Bool) (before : ((swaylock.machine.guarded (createsBuffers id)).observed false
      (owesFrame id)).Reachable pair) : swaylock.machine.Reachable pair.1 := before.of_observed.of_restrict
  refine reachable.invariant_under (fun pair => swaylock.machine.Reachable pair.1)
    (fun pair => (pair.1.scene.cycleView id).Settled pair.2) known ?_ ?_
  · rintro ⟨state, owes⟩ ⟨initial, _⟩ down
    exact absurd (initial.display.1.symm.trans down) Bool.noConfusion
  · rintro ⟨state, owes⟩ occurrence ⟨next, owed⟩ before settled ⟨⟨moved, creates⟩, observed⟩
    obtain ⟨guard, cycles⟩ := guarded_of_reachable before
    have observed : owed = owesFrame id owes state occurrence := observed
    rw [observed]
    exact settled_of_step creates guard (attached_of_reachable before) (.of_reachable (cycles id)) settled moved

end Runs

/-- In every run in which the buffers for an output can be created, the output is settled once the nested server is gone:
it has a buffer as soon as it has a size, and it shows a plain frame of its size with the newest configure event
acknowledged when it had no buffer at the end of the server or was configured after that. -/
theorem fallback_settles {id : OutputId} {state : SwaylockState} {owes : Bool}
    (reachable : ((swaylock.machine.guarded (createsBuffers id)).observed false (owesFrame id)).Reachable (state, owes))
    (down : state.scene.display = false) : SettledOutput state.scene id owes :=
  .of_cycle (settled_of_reachable reachable) down

/-- An output that is resized after the nested server shows a plain frame of its new size. -/
theorem fallback_settles_resized : ∃ (state : SwaylockState) (output : SwaylockSurface),
    state.scene.outputs.cell 0 = some output ∧ (output.width, output.height) = (200, 80) ∧
      ShowsPlain state.scene 0 output := by
  obtain ⟨⟨state, owes⟩, reachable, passed⟩ := swaylock.play_guarded_observed (createsBuffers 0) false (owesFrame 0)
    (resizedEvents [] [.surface 0, .buffer 0, .resource 0, .resource 1, .resource 2])
    (fun pair => !pair.1.scene.display && pair.2 && (pair.1.scene.outputs.cell 0).any fun output =>
      (output.width, output.height) == (200, 80)) (startState_initial _ _ _)
    (by decide +kernel : (((swaylock.guarded _).observed _ _).play (defaultState, _) _).any _ = true)
  simp only [Bool.and_eq_true, Bool.not_eq_true', Option.any_eq_true, beq_iff_eq] at passed
  obtain ⟨⟨down, owing⟩, output, present, size⟩ := passed
  have positive : sized output.width output.height = true := by
    obtain ⟨width, height⟩ := Prod.mk.inj size
    rw [width, height]
    rfl
  exact ⟨state, output, present, size, (fallback_settles reachable down).plain owing output present positive⟩

end SwaylockPlugin
