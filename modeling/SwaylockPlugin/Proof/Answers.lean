import SwaylockPlugin.Proof.Settlement

namespace SwaylockPlugin

open Library

/-- An output answers its newest configure event when the serial is acknowledged and the buffer that was committed last
on its lock surface has the size of the output. -/
structure AnswersNewest (scene : Scene) (id : OutputId) (output : SwaylockSurface) : Prop where
  acknowledged : ∃ serial, (issued id scene.wire).getLast? = some serial ∧ serial ∈ acknowledged id scene.wire
  size : (contentOf (.lock id) scene.wire).current.bind LastSent.content = some (output.width, output.height)

/-- An output with a buffer is drawn at once when it has a size in pixels and waits for no frame callback. -/
def SwaylockSurface.redraws (output : SwaylockSurface) : Bool :=
  !(output.width * output.scale.toUInt32 == 0 || output.height * output.scale.toUInt32 == 0) && !output.frame

/-- What was sent to a lock surface becomes current where its output is drawn at once. -/
def Scene.redrawn (scene : Scene) (id : OutputId) (output : SwaylockSurface) : Option LastSent :=
  if output.redraws then some (contentOf (.lock id) scene.wire).sent else (contentOf (.lock id) scene.wire).current

/-- An output without a buffer needs one that can be created, and another one needs its newest serial acknowledged and
a buffer of its size before the nested server ends. -/
def EndsAnswered (scene : Scene) (env : Environment) (id : OutputId) (output : SwaylockSurface) : Prop :=
  if output.hasBuffer then output.newestSerial ∈ acknowledged id scene.wire ∧
    (scene.redrawn id output).bind LastSent.content = some (output.width, output.height)
  else env.createBuffer id = true

section Panels

theorem ackNewest_own (scene : Scene) (output : OutputId) : Own output scene (ackNewest scene output) := by
  unfold ackNewest
  split
  · exact .ofQuiet (.refl scene)
  · rename_i record _
    split
    · have told : Own output scene (scene.tell (.ackConfigure output record.newestSerial)) :=
        .tell scene output fun _ apart => if_neg (Ne.symm apart)
      exact told.trans (.setOutput _ output fun _ => rfl)
    · exact .ofQuiet (.refl scene)

theorem fallBackSurface_own (scene : Scene) (env : Environment) (output : OutputId) :
    Own output scene (fallBackSurface scene env output) := by
  unfold fallBackSurface
  split
  · exact .ofQuiet (.refl scene)
  · split
    · exact .ofQuiet (.refl scene)
    · split
      · exact renderDirty_own scene output
      · exact ((ackNewest_own scene output).trans (renderFallbackSurface_own _ env output)).trans (renderDirty_own _ output)

/-- Changes with these effects touch the panel of an output, the list of the outputs or the entries of an output. -/
abbrev panelEffects : List Effect := [.output .screen, .addOutput, .removeOutput, .upstream, .reshape]

variable {id : OutputId} {first second third : Scene}

/-- Two scenes agree on the panel and the entries of an output and list the same outputs. -/
structure KeepsPanel (id : OutputId) (first second : Scene) : Prop where
  panel : (second.outputs.cell id).map SwaylockSurface.panel = (first.outputs.cell id).map SwaylockSurface.panel
  surfaces : second.surfaces = first.surfaces
  entries : entriesOf id second.wire = entriesOf id first.wire

theorem Changes.listed {effects : List Effect} (changes : Changes effects first second)
    (add : Effect.addOutput ∉ effects) (remove : Effect.removeOutput ∉ effects) : second.surfaces = first.surfaces := by
  induction changes with
  | refl => rfl
  | step _ listed change ih =>
      rw [← ih]
      cases change with
      | addOutput => exact absurd listed add
      | delistOutput => exact absurd listed remove
      | _ => rfl

theorem Message.aside_of_effect {message : Message} (upstream : message.effect ≠ .upstream)
    (reshape : message.effect ≠ .reshape) : message.aside = true := by
  cases message with
  | surface target request =>
      rcases Message.surface_effect target request with effect | effect
      · exact absurd effect upstream
      · exact absurd effect reshape
  | configured => exact absurd rfl upstream
  | ackConfigure => exact absurd rfl upstream
  | subsurface => rfl
  | plugin => rfl

namespace KeepsPanel

theorem refl (scene : Scene) : KeepsPanel id scene scene := ⟨rfl, rfl, rfl⟩

theorem trans (one : KeepsPanel id first second) (two : KeepsPanel id second third) : KeepsPanel id first third :=
  ⟨two.panel.trans one.panel, two.surfaces.trans one.surfaces, two.entries.trans one.entries⟩

theorem of_changes {effects : List Effect} (changes : Changes effects first second)
    (apart : ∀ effect ∈ effects, effect ∉ panelEffects) : KeepsPanel id first second := by
  have absent {effect : Effect} (listed : effect ∈ panelEffects) : effect ∉ effects :=
    fun member => apart effect member listed
  refine ⟨?_, changes.listed (absent (by simp)) (absent (by simp)), ?_⟩
  · refine changes.outputs SwaylockSurface.panel (fun group listed output => ?_) (absent (by simp)) (absent (by simp)) id
    cases group with
    | screen => exact absurd listed (absent (by simp))
    | _ => rfl
  · obtain ⟨told, grown, heard⟩ := changes.wire
    have aside : ∀ message ∈ told, message.aside = true := fun message member => by
      refine Message.aside_of_effect (fun upstream => ?_) fun reshape => ?_
      · exact absent (by simp) (upstream ▸ heard message member)
      · exact absent (by simp) (reshape ▸ heard message member)
    rw [grown, entriesOf_append, entriesOf_aside id aside, List.append_nil]

theorem setOutput (scene : Scene) (output : OutputId) {change : SwaylockSurface → SwaylockSurface}
    (kept : ∀ record, (change record).panel = record.panel) : KeepsPanel id scene (scene.setOutput output change) :=
  ⟨scene.outputs.view_modify output change SwaylockSurface.panel (fun record _ => kept record) id, rfl, rfl⟩

theorem fallBackSurface {output : OutputId} (scene : Scene) (env : Environment) (apart : id ≠ output) :
    KeepsPanel id scene (fallBackSurface scene env output) := by
  refine ⟨congrArg (Option.map SwaylockSurface.panel) (fallBackSurface_other scene env apart),
    (fallBackSurface_changes env output).listed (by simp) (by simp), ?_⟩
  obtain ⟨messages, grown, silent⟩ := (fallBackSurface_own scene env output).wire
  rw [grown, entriesOf_append, silent id apart, List.append_nil]

end KeepsPanel

end Panels

section Falls

variable {id : OutputId} {env : Environment} {first second third : Scene}

/-- A handler keeps what the end of the nested server reads of an output, or lets the output fall back in between. -/
inductive FellBack (env : Environment) (id : OutputId) (first second : Scene) : Prop
  | kept (kept : KeepsPanel id first second) (display : second.display = first.display)
  | fell {middle : Scene} (up : first.display = true) (before : KeepsPanel id first middle)
      (after : KeepsPanel id (fallBackSurface middle env id) second) (down : second.display = false)

/-- A handler lets a listed output fall back at most once. -/
def FallsBack (env : Environment) (id : OutputId) (first second : Scene) : Prop :=
  first.surfaces.Nodup → id ∈ first.surfaces → FellBack env id first second

theorem FellBack.surfaces (fell : FellBack env id first second) : second.surfaces = first.surfaces := by
  cases fell with
  | kept kept => exact kept.surfaces
  | @fell middle up before after =>
      have falls : (fallBackSurface middle env id).surfaces = middle.surfaces :=
        (fallBackSurface_changes env id).listed (by simp) (by simp)
      exact after.surfaces.trans (falls.trans before.surfaces)

theorem FellBack.trans (one : FellBack env id first second) (two : FellBack env id second third) :
    FellBack env id first third := by
  cases one with
  | kept kept display =>
      cases two with
      | kept again same => exact .kept (kept.trans again) (same.trans display)
      | fell up before after down => exact .fell (display.symm.trans up) (kept.trans before) after down
  | fell up before after down =>
      cases two with
      | kept again same => exact .fell up before (after.trans again) (same.trans down)
      | fell still => exact absurd (still.symm.trans down) Bool.noConfusion

theorem fallBackSurfaces_fell (env : Environment) {surfaces : List OutputId} (nodup : surfaces.Nodup) (listed : id ∈ surfaces)
    (scene : Scene) : ∃ middle, KeepsPanel id scene middle ∧
      KeepsPanel id (fallBackSurface middle env id) (surfaces.foldl (fun scene id => fallBackSurface scene env id) scene) := by
  have others (rest : List OutputId) (apart : id ∉ rest) (scene : Scene) :
      KeepsPanel id scene (rest.foldl (fun scene id => fallBackSurface scene env id) scene) := by
    induction rest generalizing scene with
    | nil => exact .refl scene
    | cons output rest ih =>
        obtain ⟨other, later⟩ := List.ne_and_not_mem_of_not_mem_cons apart
        exact (KeepsPanel.fallBackSurface scene env other).trans (ih later _)
  induction surfaces generalizing scene with
  | nil => cases listed
  | cons output surfaces ih =>
      obtain ⟨fresh, distinct⟩ := List.nodup_cons.mp nodup
      by_cases same : id = output
      · subst same
        exact ⟨scene, .refl scene, others surfaces fresh _⟩
      · have later := (List.mem_cons.mp listed).resolve_left same
        obtain ⟨middle, before, after⟩ := ih distinct later (fallBackSurface scene env output)
        exact ⟨middle, (KeepsPanel.fallBackSurface scene env same).trans before, after⟩

theorem setupClientlessMode_fallsBack (scene : Scene) : FallsBack env id scene (setupClientlessMode scene env) := by
  intro nodup listed
  have down : (setupClientlessMode scene env).display = false := setupClientlessMode_down
  unfold setupClientlessMode at down ⊢
  split
  · rename_i up
    rw [if_pos up] at down
    have resumed : KeepsPanel id scene (resumeAllClients scene env) :=
      .of_changes (resumeAllClients_changes env) (by simp)
    have cancelled : KeepsPanel id (resumeAllClients scene env)
        ((resumeAllClients scene env).surfaces.foldl cancelSubmissionTimer (resumeAllClients scene env)) :=
      .of_changes (Changes.foldl (fun _ id => cancelSubmissionTimer_changes id) _ _) (by simp)
    have cleared := resumed.trans cancelled
    dsimp only at down ⊢
    generalize (resumeAllClients scene env).surfaces.foldl cancelSubmissionTimer (resumeAllClients scene env) =
      ended at cleared down
    have same : (destroyDisplay ended).surfaces = scene.surfaces := cleared.surfaces
    rw [same] at down ⊢
    obtain ⟨middle, before, after⟩ := fallBackSurfaces_fell env nodup listed (destroyDisplay ended)
    have closed : KeepsPanel id ended (destroyDisplay ended) := ⟨rfl, rfl, rfl⟩
    exact .fell up ((cleared.trans closed).trans before) after down
  · exact .kept (.refl scene) rfl

theorem fallsBack_teardown : Teardown env (FallsBack env id) where
  refl scene _ _ := .kept (.refl scene) rfl
  trans one two nodup listed := by
    have fell := one nodup listed
    exact fell.trans (two (fell.surfaces ▸ nodup) (fell.surfaces ▸ listed))
  tended quiet changes _ _ := .kept (.of_changes changes (by simp)) quiet.display
  retimed kept _ _ := by
    obtain ⟨_, _, _, rfl⟩ := kept
    exact .kept ⟨rfl, rfl, rfl⟩ rfl
  noted scene output _ _ panel _ _ := .kept (.setOutput scene output panel) rfl
  locked {scene output _} _ _ _ := by
    have armed : KeepsPanel id scene (scene.addTimer timeoutSurface (.outputRedrawTimeout output)).1 := ⟨rfl, rfl, rfl⟩
    exact .kept (armed.trans (.setOutput _ output fun _ => rfl)) rfl
  destroyed scene client := by
    refine (wlClientDestroy_changes client env.owned).weaken fun _ changes _ _ => ?_
    exact .kept (.of_changes changes (by simp)) (changes.display (by simp))
  fallen := setupClientlessMode_fallsBack

end Falls

section Entries

variable {scene : Scene} {id : OutputId} {env : Environment} {output : SwaylockSurface} {log : List Entry}

/-- The entries of a drawn frame are its frame request and its commit. -/
def SwaylockSurface.drawnEntries (output : SwaylockSurface) : List Entry :=
  if output.redraws then [.request .frame, .request .commit] else []

/-- The entries of a fallback without a buffer acknowledge the newest serial that waits and fill the lock surface. -/
def SwaylockSurface.filledEntries (output : SwaylockSurface) (created : Bool) : List Entry :=
  (if output.hasNewerSerial then [.acknowledged output.newestSerial] else []) ++
    (if created then output.core.fallbackEntries ++ output.drawnEntries else [])

/-- A log answers its newest configure event in a size. -/
def AnsweredIn (log : List Entry) (width height : UInt32) : Prop :=
  (∃ serial, (issuedIn log).getLast? = some serial ∧ serial ∈ ackedIn log) ∧
    (contentIn log).current.bind LastSent.content = some (width, height)

theorem contentOf_eq (id : OutputId) (wire : List Message) :
    contentOf (.lock id) wire = contentIn (entriesOf id wire) := by
  unfold contentOf contentIn
  rw [requestsOn_eq]

theorem answersNewest_iff : AnswersNewest scene id output ↔
    AnsweredIn (entriesOf id scene.wire) output.width output.height := by
  unfold AnsweredIn
  rw [← issued_eq, ← acknowledged_eq, ← contentOf_eq]
  exact ⟨fun answers => ⟨answers.acknowledged, answers.size⟩, fun answered => ⟨answered.1, answered.2⟩⟩

theorem panel_eq {other : SwaylockSurface} (same : other.panel = output.panel) :
    other.width = output.width ∧ other.height = output.height ∧ other.newestSerial = output.newestSerial ∧
      other.hasNewerSerial = output.hasNewerSerial ∧ other.hasBuffer = output.hasBuffer ∧
      other.redraws = output.redraws := by
  have width : other.width = output.width := congrArg Panel.width same
  have height : other.height = output.height := congrArg Panel.height same
  have scale : other.scale = output.scale := congrArg Panel.scale same
  have frame : other.frame = output.frame := congrArg Panel.frame same
  refine ⟨width, height, congrArg Panel.newestSerial same, congrArg Panel.hasNewerSerial same,
    congrArg Panel.hasBuffer same, ?_⟩
  rw [SwaylockSurface.redraws, width, height, scale, frame]
  rfl

/-- An output has a size and entries in a scene. -/
def Scene.sizedEntries (scene : Scene) (id : OutputId) : Option (UInt32 × UInt32) × List Entry :=
  ((scene.outputs.cell id).map fun output => (output.width, output.height), entriesOf id scene.wire)

theorem renderDirty_draws (present : scene.outputs.cell id = some output) (buffer : output.hasBuffer = true) :
    (renderDirty scene id).sizedEntries id =
      (some (output.width, output.height), entriesOf id scene.wire ++ output.drawnEntries) := by
  have marked : (scene.setOutput id fun output => { output with dirty := true }).outputs.cell id =
      some { output with dirty := true } := by
    change (scene.outputs.modify id _).cell id = _
    rw [Heap.cell_modify_self, present]
    rfl
  unfold renderDirty render SwaylockSurface.drawnEntries
  rw [marked]
  dsimp only
  have still : (output.width * output.scale.toUInt32 == 0 || output.height * output.scale.toUInt32 == 0 ||
      !output.hasBuffer || !true || output.frame) = !output.redraws := by
    unfold SwaylockSurface.redraws
    rw [buffer, Bool.not_true, Bool.or_false, Bool.or_false, Bool.not_and, Bool.not_not, Bool.not_not]
  rw [still]
  cases draws : output.redraws with
  | false =>
      rw [if_pos (by rfl), if_neg Bool.false_ne_true, List.append_nil, Scene.sizedEntries, marked]
      rfl
  | true =>
      rw [if_neg (by decide), if_pos rfl]
      have drawn := congrArg CycleView.log (Scene.cycleView_requestAll ((scene.setOutput id fun output =>
        { output with dirty := true }).setOutput id fun output => { output with dirty := false, frame := true }) id
        [.frame, .commit])
      refine Prod.ext ?_ drawn
      change (((scene.outputs.modify id _).modify id _).cell id).map _ = _
      rw [Heap.cell_modify_self, Heap.cell_modify_self, present]
      rfl

theorem renderDirty_blank (present : scene.outputs.cell id = some output) (buffer : output.hasBuffer = false) :
    (renderDirty scene id).sizedEntries id = scene.sizedEntries id := by
  have marked : (scene.setOutput id fun output => { output with dirty := true }).outputs.cell id =
      some { output with dirty := true } := by
    change (scene.outputs.modify id _).cell id = _
    rw [Heap.cell_modify_self, present]
    rfl
  unfold renderDirty render
  rw [marked]
  dsimp only
  rw [buffer, Bool.not_false, Bool.or_true, Bool.true_or, Bool.true_or, if_pos rfl, Scene.sizedEntries, marked,
    Scene.sizedEntries, present]
  rfl

theorem ackNewest_entries (present : scene.outputs.cell id = some output) :
    entriesOf id (ackNewest scene id).wire =
      entriesOf id scene.wire ++ if output.hasNewerSerial then [.acknowledged output.newestSerial] else [] := by
  unfold ackNewest
  rw [present]
  dsimp only
  split
  · have told := congrArg CycleView.log (scene.cycleView_tell id (.ackConfigure id output.newestSerial))
    have entry : (Message.ackConfigure id output.newestSerial).entry id = some (.acknowledged output.newestSerial) :=
      if_pos rfl
    rw [entry] at told
    exact told
  · rw [List.append_nil]

theorem fallBackSurface_entries (env : Environment) (present : scene.outputs.cell id = some output)
    (positive : sized output.width output.height = true) :
    (fallBackSurface scene env id).sizedEntries id = (some (output.width, output.height), entriesOf id scene.wire ++
      if output.hasBuffer then output.drawnEntries else output.filledEntries (env.createBuffer id)) := by
  have wide : ¬ (output.width == 0 || output.height == 0) = true := by
    rw [not_sized, positive]
    decide
  unfold fallBackSurface
  rw [present]
  dsimp only
  rw [if_neg wide]
  cases buffer : output.hasBuffer with
  | true =>
      rw [if_pos rfl, if_pos rfl]
      exact renderDirty_draws present buffer
  | false =>
      rw [if_neg Bool.false_ne_true, if_neg Bool.false_ne_true]
      have current := ackNewest_current present
      have acked := ackNewest_entries present
      generalize ackNewest scene id = told at current acked
      unfold renderFallbackSurface SwaylockSurface.filledEntries
      rw [current]
      dsimp only
      cases env.createBuffer id with
      | false =>
          rw [if_neg Bool.false_ne_true, if_neg Bool.false_ne_true, renderDirty_blank current buffer, Scene.sizedEntries,
            current, acked, List.append_nil]
          rfl
      | true =>
          rw [if_pos rfl, if_pos rfl]
          have filled : ((told.requestAll (.lock id) [.setBufferScale 1, .attach .fallback output.width output.height 0 0,
              .damageBuffer ⟨0, 0, int32Max, int32Max⟩, .commit]).setOutput id fun output =>
                { output with hasBuffer := true }).outputs.cell id =
              some { output with hasNewerSerial := false, hasBuffer := true } := by
            change (told.outputs.modify id _).cell id = _
            rw [Heap.cell_modify_self, current]
            rfl
          rw [renderDirty_draws filled rfl]
          have requested := congrArg CycleView.log (told.cycleView_requestAll id [.setBufferScale 1,
            .attach .fallback output.width output.height 0 0, .damageBuffer ⟨0, 0, int32Max, int32Max⟩, .commit])
          refine Prod.ext rfl ?_
          change entriesOf id (told.requestAll (.lock id) _).wire ++ output.drawnEntries = _
          have log : entriesOf id (told.requestAll (.lock id) [.setBufferScale 1,
              .attach .fallback output.width output.height 0 0, .damageBuffer ⟨0, 0, int32Max, int32Max⟩,
              .commit]).wire = entriesOf id told.wire ++ output.core.fallbackEntries := requested
          rw [log, acked, List.append_assoc, List.append_assoc]

theorem PlainFrame.answered {core : OutputCore} (plain : PlainFrame core log) : AnsweredIn log core.width core.height := by
  refine ⟨⟨_, plain.newest, plain.acknowledged⟩, ?_⟩
  rw [plain.current]
  exact plain.size

theorem answeredIn_drawn {width height : UInt32} : AnsweredIn (log ++ output.drawnEntries) width height ↔
    (∃ serial, (issuedIn log).getLast? = some serial ∧ serial ∈ ackedIn log) ∧
      (if output.redraws then some (contentIn log).sent else (contentIn log).current).bind LastSent.content =
        some (width, height) := by
  unfold SwaylockSurface.drawnEntries AnsweredIn
  cases output.redraws with
  | false => rw [if_neg Bool.false_ne_true, if_neg Bool.false_ne_true, List.append_nil]
  | true =>
      have content := contentIn_requests log [.frame, .commit]
      change contentIn (log ++ [.request .frame, .request .commit]) = ⟨(contentIn log).sent, some (contentIn log).sent⟩
        at content
      have issued : issuedIn [.request .frame, .request .commit] = [] := rfl
      have acked : ackedIn [.request .frame, .request .commit] = [] := rfl
      rw [if_pos rfl, if_pos rfl, issuedIn_append, ackedIn_append, issued, acked, List.append_nil, List.append_nil, content]

theorem answeredIn_filled (records : RecordsNewest output.core log) (positive : sized output.width output.height = true) :
    AnsweredIn (log ++ output.filledEntries true) output.width output.height := by
  have known := records.present positive
  have acked : output.newestSerial ∈
      ackedIn (log ++ if output.hasNewerSerial then [.acknowledged output.newestSerial] else []) := by
    rw [ackedIn_append, List.mem_append]
    cases newer : output.hasNewerSerial with
    | false => exact .inl (records.acknowledged known newer)
    | true => exact .inr (List.mem_singleton_self _)
  have issued : (issuedIn (log ++ if output.hasNewerSerial then [.acknowledged output.newestSerial] else [])).getLast? =
      some output.newestSerial := by
    have silent : issuedIn (if output.hasNewerSerial then [.acknowledged output.newestSerial] else []) = [] := by
      split <;> rfl
    rw [issuedIn_append, silent, List.append_nil]
    exact records.newest known
  have plain := @PlainFrame.fallback { output.core with hasNewerSerial := false } _ issued acked rfl
  unfold SwaylockSurface.filledEntries SwaylockSurface.drawnEntries
  rw [if_pos rfl, ← List.append_assoc, ← List.append_assoc]
  cases output.redraws with
  | false =>
      rw [if_neg Bool.false_ne_true, List.append_nil]
      exact plain.answered
  | true => exact plain.render.answered

theorem not_answeredIn_unfilled (silent : Entry.request .commit ∉ log) {width height : UInt32} :
    ¬ AnsweredIn (log ++ output.filledEntries false) width height := by
  have quiet : Entry.request .commit ∉ log ++ output.filledEntries false := by
    unfold SwaylockSurface.filledEntries
    rw [if_neg Bool.false_ne_true, List.append_nil, List.mem_append]
    refine not_or.mpr ⟨silent, ?_⟩
    split <;> simp
  rintro ⟨_, shown⟩
  rw [current_of_uncommitted quiet] at shown
  cases shown

end Entries

section Steps

variable {state next : SwaylockState} {occurrence : Occurrence} {id : OutputId}

theorem fellBack_of_step (guard : SceneGuard none state.scene) (moved : swaylock.machine.step state occurrence next)
    (up : state.scene.display = true) (down : next.scene.display = false)
    (listed : id ∈ state.scene.surfaces) : ∃ middle, KeepsPanel id state.scene middle ∧
      KeepsPanel id (fallBackSurface middle occurrence.env id) next.scene := by
  have ends : next.scene.display ≠ state.scene.display := fun same => absurd (same.trans up) (down ▸ Bool.false_ne_true)
  obtain ⟨event, env⟩ := occurrence
  cases fallsBack_teardown.of_step moved ends guard.links.nodup listed with
  | kept _ same => exact absurd same ends
  | fell _ before after => exact ⟨_, before, after⟩

theorem listed_of_present (guard : SceneGuard none state.scene) {output : SwaylockSurface}
    (present : state.scene.outputs.cell id = some output) : id ∈ state.scene.surfaces :=
  (guard.links.listed id).mpr ⟨Scene.outputCore_isSome present, Option.some_ne_none id⟩

end Steps

/-- In a step in which the nested server ends, an output with a size answers its newest configure event exactly when it
ends answered: it has no buffer and one can be created, or it showed a buffer of its size with the serial acknowledged. -/
theorem fall_back_answers_iff {state next : SwaylockState} {occurrence : Occurrence}
    (reachable : swaylock.machine.Reachable state) (moved : swaylock.machine.step state occurrence next)
    (up : state.scene.display = true) (down : next.scene.display = false) {id : OutputId} {output : SwaylockSurface}
    (present : state.scene.outputs.cell id = some output) (positive : sized output.width output.height = true) :
    ∃ last, next.scene.outputs.cell id = some last ∧ (last.width, last.height) = (output.width, output.height) ∧
      (AnswersNewest next.scene id last ↔ EndsAnswered state.scene occurrence.env id output) := by
  obtain ⟨guard, cycles⟩ := guarded_of_reachable reachable
  have core := Scene.outputCore_of_present present
  have records : RecordsNewest output.core (entriesOf id state.scene.wire) :=
    CycleView.Records.of_reachable (cycles id) output.core core
  have bare : output.hasBuffer = false → Entry.request .commit ∉ entriesOf id state.scene.wire :=
    CycleView.Bare.of_reachable (cycles id) output.core core
  obtain ⟨middle, before, after⟩ := fellBack_of_step guard moved up down (listed_of_present guard present)
  obtain ⟨fell, there, same⟩ := Option.map_eq_some_iff.mp (before.panel.trans (congrArg _ present))
  obtain ⟨width, height, serial, newer, buffer, redraws⟩ := panel_eq same
  have large : sized fell.width fell.height = true := by
    rw [width, height]
    exact positive
  have falls := fallBackSurface_entries occurrence.env there large
  obtain ⟨shown, visible, size⟩ := Option.map_eq_some_iff.mp (congrArg Prod.fst falls)
  obtain ⟨last, stays, equal⟩ := Option.map_eq_some_iff.mp (after.panel.trans (congrArg _ visible))
  obtain ⟨wide, high, _⟩ := panel_eq equal
  have extent : (last.width, last.height) = (output.width, output.height) := by
    rw [wide, high, size, width, height]
  have log : entriesOf id next.scene.wire = entriesOf id state.scene.wire ++
      if fell.hasBuffer then fell.drawnEntries else fell.filledEntries (occurrence.env.createBuffer id) := by
    rw [after.entries, ← before.entries]
    exact congrArg Prod.snd falls
  refine ⟨last, stays, extent, ?_⟩
  obtain ⟨widths, heights⟩ := Prod.mk.inj extent
  rw [answersNewest_iff, log, widths, heights, EndsAnswered, buffer]
  cases drawn : output.hasBuffer with
  | true =>
      rw [if_pos rfl, if_pos rfl, answeredIn_drawn, redraws, Scene.redrawn, contentOf_eq, acknowledged_eq]
      have newest := records.newest (records.present positive)
      refine and_congr ⟨fun ⟨answered, last, acked⟩ => ?_, fun acked => ⟨_, newest, acked⟩⟩ Iff.rfl
      rw [newest] at last
      cases last
      exact acked
  | false =>
      rw [if_neg Bool.false_ne_true, if_neg Bool.false_ne_true]
      cases occurrence.env.createBuffer id with
      | true =>
          have records : RecordsNewest fell.core (entriesOf id state.scene.wire) :=
            records.congr width height serial fun idle => .inl (newer.symm.trans idle)
          have answered := answeredIn_filled records large
          rw [width, height] at answered
          exact ⟨fun _ => rfl, fun _ => answered⟩
      | false => exact ⟨fun answered => absurd answered (not_answeredIn_unfilled (bare drawn)), fun made => (by cases made)⟩

/-- The connection of the only plugin ends without another start. -/
def pluginLost (owned : List Owned) : Occurrence :=
  ⟨.scene (.clientGone 0), { Environment.obliging with spawn := fun _ => none, owned := owned }⟩

/-- An output that was configured and not drawn on answers when the nested server ends. -/
theorem fall_back_answers_iff_blank : ∃ (next : SwaylockState) (last : SwaylockSurface),
    next.scene.outputs.cell 0 = some last ∧ (last.width, last.height) = (100, 50) ∧ AnswersNewest next.scene 0 last := by
  obtain ⟨state, next, reachable, moved, passed⟩ := swaylock.play_step
    ((presentingEvents.take 6).map Event.obliged ++ [pluginLost []]) (Event.scene .nestedDispatched).obliged
    (fun first last => first.scene.display && !last.scene.display && (first.scene.outputs.cell 0).any fun output =>
      (output.width, output.height) == (100, 50) && !output.hasBuffer)
    (startState_initial _ _ _) (by decide +kernel : (swaylock.play defaultState _).any _ = true)
  simp only [Bool.and_eq_true, Bool.not_eq_true', Option.any_eq_true, beq_iff_eq] at passed
  obtain ⟨⟨up, down⟩, output, present, size, blank⟩ := passed
  have positive : sized output.width output.height = true := by
    obtain ⟨width, height⟩ := Prod.mk.inj size
    rw [width, height]
    rfl
  obtain ⟨last, there, same, answers⟩ := fall_back_answers_iff reachable moved up down present positive
  refine ⟨next, last, there, same.trans size, answers.mpr ?_⟩
  unfold EndsAnswered
  rw [blank, if_neg Bool.false_ne_true]
  rfl

/-- An output that a plugin drew on and that was resized after that keeps its newest configure event unanswered. -/
theorem drawn_output_unanswered : ¬ ∀ (state next : SwaylockState) (occurrence : Occurrence),
    swaylock.machine.Reachable state → swaylock.machine.step state occurrence next → state.scene.display = true →
      next.scene.display = false → ∀ id last, next.scene.outputs.cell id = some last →
        sized last.width last.height = true → AnswersNewest next.scene id last := by
  intro claim
  obtain ⟨state, next, reachable, moved, passed⟩ := swaylock.play_step
    ((presentingEvents ++ [Event.scene (.configure 0 8 200 80)]).map Event.obliged ++
      [pluginLost [.surface 0, .buffer 0, .resource 0, .resource 1, .resource 2]]) (Event.scene .nestedDispatched).obliged
    (fun first last => first.scene.display && !last.scene.display && issued 0 last.scene.wire == [7, 8] &&
      acknowledged 0 last.scene.wire == [7] && (last.scene.outputs.cell 0).any fun output =>
        sized output.width output.height)
    (startState_initial _ _ _) (by decide +kernel : (swaylock.play defaultState _).any _ = true)
  simp only [Bool.and_eq_true, Bool.not_eq_true', Option.any_eq_true, beq_iff_eq] at passed
  obtain ⟨⟨⟨⟨up, down⟩, sent⟩, acked⟩, last, present, positive⟩ := passed
  obtain ⟨serial, newest, answered⟩ := (claim state next _ reachable moved up down 0 last present positive).acknowledged
  rw [sent] at newest
  rw [acked] at answered
  cases newest
  revert answered
  decide

end SwaylockPlugin
