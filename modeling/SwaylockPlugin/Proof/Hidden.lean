import SwaylockPlugin.Proof.Callbacks

namespace SwaylockPlugin

open Library

section Settling

variable {scene : Scene} {env : Environment}

/-- A signal reaches the process group of a client. -/
def reached (env : Environment) (record : SwaylockBgClient) : Prop :=
  0 < record.pid ∧ env.kill record.pid = true

instance (record : SwaylockBgClient) : Decidable (reached env record) := instDecidableAnd

/-- A client is paused or resumed where its signal reaches it. -/
def settled (env : Environment) (paused : Bool) (record : SwaylockBgClient) : SwaylockBgClient :=
  { record with paused := if reached env record then paused else record.paused }

theorem settled_settled (paused : Bool) (record : SwaylockBgClient) :
    settled env paused (settled env paused record) = settled env paused record := by
  have same : (if reached env record then paused else if reached env record then paused else record.paused) =
      if reached env record then paused else record.paused := by
    split <;> rfl
  exact congrArg (fun paused => { record with paused := paused }) same

theorem setClientPaused_cell (id other : BgClientId) (paused : Bool) :
    (setClientPaused scene env id paused).bgClients.cell other =
      if other = id then (scene.bgClients.cell other).map (settled env paused) else scene.bgClients.cell other := by
  unfold setClientPaused
  cases present : scene.bgClients.cell id with
  | none =>
      change scene.bgClients.cell other = _
      split
      · rename_i same
        rw [same, present]
        rfl
      · rfl
  | some record =>
      have kept (same : settled env paused record = record) :
          scene.bgClients.cell other =
            if other = id then (scene.bgClients.cell other).map (settled env paused)
            else scene.bgClients.cell other := by
        split
        · rename_i here
          rw [here, present, Option.map_some, same]
        · rfl
      dsimp only
      split
      · rename_i still
        have same : (if reached env record then paused else record.paused) = record.paused := by
          split
          · rename_i reaches
            simp only [Bool.or_eq_true, decide_eq_true_eq, beq_iff_eq, Bool.not_eq_true', reaches.2,
              Bool.true_eq_false, or_false, Int.not_le.mpr reaches.1, false_or] at still
            exact still.symm
          · rfl
        exact kept (congrArg (fun paused => { record with paused := paused }) same)
      · rename_i moves
        simp only [Bool.or_eq_true, decide_eq_true_eq, beq_iff_eq, Bool.not_eq_true', not_or, Int.not_le,
          Bool.not_eq_false] at moves
        change (scene.bgClients.modify id _).cell other = _
        rw [Heap.cell_modify]
        split
        · rename_i here
          have reaches : reached env record := ⟨moves.1.1, moves.2⟩
          rw [here, present, Option.map_some, Option.map_some, settled, if_pos reaches]
        · rfl

theorem clientIsHidden_setClientPaused (id other : BgClientId) (paused : Bool) :
    clientIsHidden (setClientPaused scene env id paused) other = clientIsHidden scene other := by
  unfold setClientPaused
  split
  · rfl
  · split <;> rfl

theorem foldl_settled (id : BgClientId) (clients : List BgClientId) :
    (clients.foldl (fun scene id => setClientPaused scene env id (clientIsHidden scene id)) scene).bgClients.cell id =
      if id ∈ clients then (scene.bgClients.cell id).map (settled env (clientIsHidden scene id))
      else scene.bgClients.cell id := by
  induction clients generalizing scene with
  | nil => rfl
  | cons first rest ih =>
      rw [List.foldl_cons, ih, setClientPaused_cell, clientIsHidden_setClientPaused]
      by_cases same : id = first
      · subst same
        rw [if_pos rfl, if_pos List.mem_cons_self, Option.map_map]
        have twice : settled env (clientIsHidden scene id) ∘ settled env (clientIsHidden scene id) =
            settled env (clientIsHidden scene id) := funext (settled_settled _)
        rw [twice, ite_self]
      · rw [if_neg same]
        simp only [List.mem_cons, same, false_or]

theorem hiddenCheckTimeout_cell {id : BgClientId} (listed : id ∈ scene.clients) :
    (hiddenCheckTimeout scene env).bgClients.cell id =
      (scene.bgClients.cell id).map (settled env (clientIsHidden scene id)) := by
  have armed (scene : Scene) : (armHiddenCheck scene).bgClients = scene.bgClients := by
    unfold armHiddenCheck
    split <;> rfl
  unfold hiddenCheckTimeout
  rw [armed, foldl_settled, if_pos listed]
  rfl

theorem hiddenCheck_cell {state next : SwaylockState} {timer : TimerId} {result : InputResult}
    (moved : swaylock.machine.step state ⟨.timer timer result, env⟩ next)
    (due : state.scene.eventloop.due state.scene.clock timer = some .hiddenCheckTimeout) {id : BgClientId}
    (listed : id ∈ state.scene.clients) :
    next.scene.bgClients.cell id =
      (state.scene.bgClients.cell id).map (settled env (clientIsHidden state.scene id)) := by
  have handled : dispatchTimer state env timer result = .ok next := moved.2
  unfold dispatchTimer at handled
  rw [due] at handled
  cases handled
  exact hiddenCheckTimeout_cell listed

end Settling

section History

/-- What is noted about the frames of a run are the notes of its callbacks and the marks of its outputs. -/
structure FrameHistory where
  notes : CallbackId → FrameNote
  marks : OutputId → CallbackId

/-- An observer marks for each output the first frame callback that came after a frame of it was last done. -/
def doneMarks (marks : OutputId → CallbackId) (state : SwaylockState) (event : Event) : OutputId → CallbackId :=
  match event with
  | .scene (.backgroundFrameDone done) =>
      match (state.scene.frameCallbacks.cell done).bind FrameCallbacks.swaySurface with
      | some output => Function.update marks output state.scene.frameCallbacks.next
      | none => marks
  | _ => marks

/-- An observer notes the frame callbacks and marks the outputs. -/
def frameHistory (history : FrameHistory) (state : SwaylockState) (occurrence : Occurrence) : FrameHistory :=
  ⟨frameNotes history.notes state occurrence, doneMarks history.marks state occurrence.event⟩

/-- Before any request nothing is noted and nothing is marked. -/
def noHistory : FrameHistory := ⟨noFrames, fun _ => 0⟩

theorem backgroundFrameDone_ends {state next : SwaylockState} {done : CallbackId} {env : Environment}
    (moved : swaylock.machine.step state ⟨.scene (.backgroundFrameDone done), env⟩ next) :
    (state.scene.frameCallbacks.cell done).isSome = true ∧ next.scene.frameCallbacks.cell done = none := by
  obtain ⟨scene, handled, same⟩ := bind_ok.mp moved.2
  cases same
  obtain ⟨record, present, view⟩ := bgFrameHandleDone_view env done scene handled
  have requests := congrArg (fun view => view.requests done) (view fun id => (noFrames id).time)
  refine ⟨by rw [present]; rfl, Option.map_eq_none_iff.mp (requests.trans (Function.update_self ..))⟩

theorem presenting_marked {state : SwaylockState} {history : FrameHistory}
    (reachable : (swaylock.machine.observed noHistory frameHistory).Reachable (state, history)) :
    (presenting.observed (fun _ => 0) fun marks view event => view.frameMarks marks event).Reachable
      (noted state.scene history.notes, history.marks) := by
  refine reachable.invariant (fun pair => (presenting.observed (fun _ => 0) fun marks view event =>
    view.frameMarks marks event).Reachable (noted pair.1.scene pair.2.notes, pair.2.marks)) ?_ ?_
  · rintro ⟨state, history⟩ ⟨start, rfl⟩
    exact .initial ⟨noted_initial start noFrames, rfl⟩
  · rintro ⟨state, history⟩ occurrence ⟨next, _⟩ before ⟨moved, rfl⟩
    obtain ⟨event, env⟩ := occurrence
    rcases frameStep_noted history.notes moved with same | ⟨shown, shows, step⟩
    · have still : doneMarks history.marks state event = history.marks := by
        unfold doneMarks
        split
        · rename_i done
          obtain ⟨outstanding, ended⟩ := backgroundFrameDone_ends moved
          have requests : (Option.map _ (next.scene.frameCallbacks.cell done)).isSome =
              (Option.map _ (state.scene.frameCallbacks.cell done)).isSome :=
            congrArg (fun view => (view.requests done).isSome) same
          rw [Option.isSome_map, Option.isSome_map, outstanding] at requests
          exact absurd (requests.symm.trans (congrArg Option.isSome ended)) (by decide)
        · rfl
      change (presenting.observed _ _).Reachable (noted next.scene (frameNotes history.notes state ⟨event, env⟩),
        doneMarks history.marks state event)
      rw [same, still]
      exact before
    · have marks : doneMarks history.marks state event =
          (noted state.scene history.notes).frameMarks history.marks shown := by
        cases shows with
        | completed done =>
            simp only [doneMarks, FrameView.frameMarks, noted, Scene.frameView]
            cases state.scene.frameCallbacks.cell done <;> rfl
        | _ => rfl
      exact .step before ⟨step, marks⟩

end History

section Checks

/-- An output of a client is in the list and was not freed. -/
def Serves (scene : Scene) (id : BgClientId) (output : OutputId) (record : SwaylockSurface) : Prop :=
  output ∈ scene.surfaces ∧ scene.outputs.cell output = some record ∧ clientForSurface scene record = some id

/-- An output is being presented while every frame callback that was requested for it since one was last done waits for
less than the threshold. -/
def BeingPresented (scene : Scene) (history : FrameHistory) (output : OutputId) : Prop :=
  ∀ callbacks record, scene.frameCallbacks.cell callbacks = some record → record.swaySurface = some output →
    history.marks output ≤ callbacks →
    scene.clock.msSince (history.notes callbacks).time < scene.args.hiddenTimeoutMs

/-- An output is stalled when it awaits a frame for the threshold or longer. -/
def Stalled (scene : Scene) (record : SwaylockSurface) : Prop :=
  record.framePending = true ∧ scene.args.hiddenTimeoutMs ≤ scene.clock.msSince record.framePendingSince

/-- An output is idle when it awaits no frame and none was done within the threshold. -/
def Idle (scene : Scene) (record : SwaylockSurface) : Prop :=
  record.framePending = false ∧
    (record.frameLastDone.tvSec = 0 ∨ scene.args.hiddenTimeoutMs ≤ scene.clock.msSince record.frameLastDone)

variable {scene : Scene} {record : SwaylockSurface}

theorem presentation_stalled : presentation scene record = .stalled ↔ Stalled scene record := by
  unfold presentation Stalled
  split
  · rename_i pending
    split
    · rename_i late
      exact ⟨fun _ => ⟨pending, late⟩, fun _ => rfl⟩
    · rename_i early
      exact ⟨nofun, fun stalled => absurd stalled.2 early⟩
  · rename_i still
    split <;> exact ⟨nofun, fun stalled => absurd stalled.1 still⟩

theorem presentation_visible :
    presentation scene record ≠ .visible ↔ Stalled scene record ∨ Idle scene record := by
  unfold presentation Stalled Idle
  split
  · rename_i pending
    simp only [pending, Bool.true_eq_false, false_and, or_false, true_and]
    split
    · rename_i late
      exact ⟨fun _ => late, fun _ => nofun⟩
    · rename_i early
      exact ⟨fun visible => absurd rfl visible, fun late => absurd late early⟩
  · rename_i still
    simp only [Bool.not_eq_true] at still
    simp only [still, Bool.false_eq_true, false_and, false_or, true_and]
    split
    · rename_i lately
      simp only [Bool.and_eq_true, bne_iff_ne, ne_eq, decide_eq_true_eq] at lately
      refine ⟨fun visible => absurd rfl visible, fun idle => ?_⟩
      rcases idle with never | late
      · exact absurd never lately.1
      · exact absurd lately.2 (Int.not_lt.mpr late)
    · rename_i silent
      simp only [Bool.and_eq_true, bne_iff_ne, ne_eq, decide_eq_true_eq, not_and, Int.not_lt] at silent
      refine ⟨fun _ => ?_, fun _ => nofun⟩
      by_cases never : record.frameLastDone.tvSec = 0
      · exact .inl never
      · exact .inr (silent never)

/-- A client is hidden when an output of it is stalled and each of them is stalled or idle. -/
theorem clientIsHidden_iff (id : BgClientId) : clientIsHidden scene id = true ↔
    (∀ output record, Serves scene id output record → Stalled scene record ∨ Idle scene record) ∧
      ∃ output record, Serves scene id output record ∧ Stalled scene record := by
  unfold clientIsHidden
  simp only [Bool.and_eq_true, List.all_eq_true, List.any_eq_true, List.mem_filter, List.mem_filterMap, beq_iff_eq,
    bne_iff_ne, presentation_visible, presentation_stalled, and_imp, forall_exists_index]
  constructor
  · rintro ⟨every, record, ⟨⟨output, listed, present⟩, served⟩, stalled⟩
    exact ⟨fun output record serves => every record output serves.1 serves.2.1 serves.2.2,
      output, record, ⟨listed, present, served⟩, stalled⟩
  · rintro ⟨every, output, record, ⟨listed, present, served⟩, stalled⟩
    exact ⟨fun record output listed present served => every output record ⟨listed, present, served⟩,
      record, ⟨⟨output, listed, present⟩, served⟩, stalled⟩

/-- A hidden check leaves a client running when one of its outputs is being presented. -/
def SparesPresented (scene : Scene) (history : FrameHistory) (id : BgClientId) (next : Scene) : Prop :=
  (∃ output record, Serves scene id output record ∧ BeingPresented scene history output) →
    ∀ client, next.bgClients.cell id = some client → client.paused = false

/-- A client that its signal reaches has no presented output that is idle next to a stalled one unless another output
is neither, and a client that its signal does not reach was running. -/
def EvidencePrevails (scene : Scene) (history : FrameHistory) (env : Environment) (id : BgClientId) : Prop :=
  ∀ client, scene.bgClients.cell id = some client →
    (reached env client → (∃ output record, Serves scene id output record ∧ BeingPresented scene history output ∧
        Idle scene record) →
      (∃ output record, Serves scene id output record ∧ Stalled scene record) →
      ∃ output record, Serves scene id output record ∧ ¬ Stalled scene record ∧ ¬ Idle scene record) ∧
    (¬ reached env client → (∃ output record, Serves scene id output record ∧ BeingPresented scene history output) →
      client.paused = false)

theorem not_stalled_of_presented {state : SwaylockState} {history : FrameHistory}
    (reachable : (swaylock.machine.observed noHistory frameHistory).Reachable (state, history)) {output : OutputId}
    {record : SwaylockSurface} (present : state.scene.outputs.cell output = some record)
    (presented : BeingPresented state.scene history output) : ¬ Stalled state.scene record := by
  rintro ⟨pending, late⟩
  have timed := FrameView.timed_of_reachable (presenting_marked reachable)
  obtain ⟨callbacks, request, awaited, named, later, time⟩ :=
    timed.awaited output _ (noted_of_output history.notes present) pending
  obtain ⟨made, there, rfl⟩ := callback_of_noted awaited
  have early := presented callbacks made there named later
  have same : (history.notes callbacks).time = record.framePendingSince := time
  rw [same] at early
  exact absurd late (Int.not_le.mpr early)

/-- A hidden check spares the clients with presented outputs exactly where the evidence of them prevails. -/
theorem hidden_check_spares_iff {state next : SwaylockState} {history : FrameHistory}
    (reachable : (swaylock.machine.observed noHistory frameHistory).Reachable (state, history)) {timer : TimerId}
    {result : InputResult} {env : Environment} (moved : swaylock.machine.step state ⟨.timer timer result, env⟩ next)
    (due : state.scene.eventloop.due state.scene.clock timer = some .hiddenCheckTimeout) {id : BgClientId}
    (listed : id ∈ state.scene.clients) :
    SparesPresented state.scene history id next.scene ↔ EvidencePrevails state.scene history env id := by
  have cell := hiddenCheck_cell moved due listed
  unfold SparesPresented EvidencePrevails
  rw [cell]
  cases present : state.scene.bgClients.cell id with
  | none => simp only [Option.map_none, reduceCtorEq, false_implies, implies_true]
  | some client =>
      simp only [Option.map_some, Option.some.injEq, forall_eq']
      unfold settled
      by_cases reaches : reached env client
      · rw [if_pos reaches]
        simp only [reaches, not_true_eq_false, false_implies, and_true, true_implies]
        constructor
        · rintro spares ⟨output, record, serves, presented, _⟩ stalled
          have shown := spares ⟨output, record, serves, presented⟩
          by_contra none_
          have hidden : clientIsHidden state.scene id = true := by
            refine (clientIsHidden_iff id).mpr ⟨fun other record serves => ?_, stalled⟩
            by_contra neither
            obtain ⟨running, busy⟩ := not_or.mp neither
            exact none_ ⟨other, record, serves, running, busy⟩
          exact absurd (hidden.symm.trans shown) (by decide)
        · rintro prevails ⟨output, record, serves, presented⟩
          by_contra paused
          rw [Bool.not_eq_false] at paused
          obtain ⟨every, stalled⟩ := (clientIsHidden_iff id).mp paused
          have idle := (every output record serves).resolve_left
            (not_stalled_of_presented reachable serves.2.1 presented)
          obtain ⟨other, shown, serves, running, busy⟩ := prevails ⟨output, record, serves, presented, idle⟩ stalled
          rcases every other shown serves with stalls | rests
          · exact running stalls
          · exact busy rests
      · rw [if_neg reaches]
        simp only [reaches, false_implies, true_and, not_false_eq_true, true_implies]

/-- A plugin draws on two outputs, and the compositor presents the first of them. -/
def oneDarkEvents : List Event :=
  [.scene (.outputAdded 1), .scene (.outputAdded 2), .scene (.outputDone 0), .scene (.outputDone 1),
    .scene (.outputDescReady 0), .scene (.outputDescReady 1), .start, .check true, .locked, .sweep, .pollDone,
    .check true, .readiness true, .daemonize true, .startGrace none, .armHiddenCheck, .check true,
    .scene (.configure 0 7 100 50), .scene (.configure 1 8 100 50), .scene (.request 0 .getRegistry),
    .scene (.request 0 (.bindOutput 0)), .scene (.request 0 (.bindOutput 1)),
    .scene (.request 0 (.createSurface 4)), .scene (.request 0 (.createSurface 4)),
    .scene (.request 0 (.surface 0 (.getLayerSurface (some 0)))),
    .scene (.request 0 (.surface 1 (.getLayerSurface (some 1)))),
    .scene (.request 0 (.surface 0 .commit)), .scene (.request 0 (.surface 1 .commit)),
    .scene (.request 0 (.object 2 (.ackConfigure 100002))), .scene (.request 0 (.object 3 (.ackConfigure 100003))),
    .scene (.request 0 (.createBuffer 100 50)), .scene (.request 0 (.surface 0 (.attach (some 0)))),
    .scene (.request 0 (.surface 0 .frame)), .scene (.request 0 (.surface 0 .commit)),
    .scene (.request 0 (.surface 1 (.attach (some 0)))), .scene (.request 0 (.surface 1 .frame)),
    .scene (.request 0 (.surface 1 .commit)), .tick ⟨1, 0⟩, .scene (.backgroundFrameDone 0)]

/-- The hidden check of that run is due. -/
def darkCheck : Occurrence := Event.obliged (.timer 3 ⟨0, true⟩)

/-- The main plugin is listed, and the hidden check that is due leaves it paused or running as stated. -/
def checksTo (paused : Bool) (state : SwaylockState) : Bool :=
  enabled state darkCheck && decide (state.scene.eventloop.due state.scene.clock 3 = some .hiddenCheckTimeout) &&
    state.scene.clients.elem 0 && (swaylock.next state darkCheck).toOption.any fun next =>
      (next.scene.bgClients.cell 0).any fun client => client.paused == paused

theorem checksTo_step {paused : Bool} {state : SwaylockState} (passed : checksTo paused state = true) :
    state.scene.eventloop.due state.scene.clock 3 = some .hiddenCheckTimeout ∧ 0 ∈ state.scene.clients ∧
      ∃ next client, swaylock.machine.step state darkCheck next ∧ next.scene.bgClients.cell 0 = some client ∧
        client.paused = paused := by
  simp only [checksTo, Bool.and_eq_true, decide_eq_true_eq, List.elem_iff, Option.any_eq_true, beq_iff_eq] at passed
  obtain ⟨⟨⟨allowed, due⟩, listed⟩, next, computed, client, present, same⟩ := passed
  refine ⟨due, listed, next, client, ⟨allowed, ?_⟩, present, same⟩
  cases ran : swaylock.next state darkCheck with
  | error halt =>
      rw [ran] at computed
      cases computed
  | ok other =>
      rw [ran] at computed
      cases computed
      rfl

/-- The plugin keeps running while its first output was drawn within the threshold. -/
theorem hidden_check_spares_drawn : ∃ (state next : SwaylockState) (history : FrameHistory),
    next.scene.bgClients.cell 0 ≠ none ∧
      (SparesPresented state.scene history 0 next.scene ↔ EvidencePrevails state.scene history .obliging 0) := by
  obtain ⟨⟨state, history⟩, reachable, passed⟩ := swaylock.play_observed noHistory frameHistory
    ((oneDarkEvents ++ [Event.tick ⟨5, 0⟩, .sweep]).map Event.obliged) (fun pair => checksTo false pair.1)
    (startState_initial { SwaylockArgs.default with pauseWhenHidden := true } .complete .opened)
    (by decide +kernel : ((swaylock.observed _ _).play (_, _) _).any _ = true)
  obtain ⟨due, listed, next, client, moved, present, _⟩ := checksTo_step passed
  exact ⟨state, next, history, by rw [present]; exact nofun, hidden_check_spares_iff reachable moved due listed⟩

/-- A plugin that draws rarely on a presented output is paused when another output is dark. -/
theorem hidden_check_pauses_presented : ¬ ∀ (state next : SwaylockState) (history : FrameHistory),
    (swaylock.machine.observed noHistory frameHistory).Reachable (state, history) →
      ∀ timer result env, swaylock.machine.step state ⟨.timer timer result, env⟩ next →
      state.scene.eventloop.due state.scene.clock timer = some .hiddenCheckTimeout →
      ∀ id ∈ state.scene.clients, SparesPresented state.scene history id next.scene := by
  intro claim
  obtain ⟨⟨state, history⟩, reachable, passed⟩ := swaylock.play_observed noHistory frameHistory
    ((oneDarkEvents ++ [Event.tick ⟨7, 0⟩, .sweep]).map Event.obliged)
    (fun pair => checksTo true pair.1 && pair.1.scene.surfaces.elem 0 &&
      (pair.1.scene.outputs.cell 0).any (fun output => clientForSurface pair.1.scene output == some 0) &&
      everyCallback pair.1.scene fun _ record => record.swaySurface != some 0)
    (startState_initial { SwaylockArgs.default with pauseWhenHidden := true } .complete .opened)
    (by decide +kernel : ((swaylock.observed _ _).play (_, _) _).any _ = true)
  simp only [Bool.and_eq_true, List.elem_iff, Option.any_eq_true, beq_iff_eq] at passed
  obtain ⟨⟨⟨checks, shown⟩, record, there, served⟩, silent⟩ := passed
  obtain ⟨due, listed, next, client, moved, present, paused⟩ := checksTo_step checks
  have presented : BeingPresented state.scene history 0 := by
    intro callbacks record made named
    exact absurd named (by simpa using everyCallback_cell silent made)
  have spared := claim state next history reachable 3 _ _ moved due 0 listed ⟨0, record, ⟨shown, there, served⟩, presented⟩
  exact absurd (paused.symm.trans (spared client present)) (by decide)

end Checks

end SwaylockPlugin
