import SwaylockPlugin.Proof.Places

namespace SwaylockPlugin

open Library

namespace Loop

variable {FdCallback TimerCallback : Type} {loop : Loop FdCallback TimerCallback}
  {holds : TimerCallback → Option TimerId}

/-- The owners of a loop hold the names of armed timers that call them back. -/
structure Held (loop : Loop FdCallback TimerCallback) (holds : TimerCallback → Option TimerId) : Prop where
  timed : loop.WellTimed
  armed : ∀ owner id, holds owner = some id → loop.Armed id owner

namespace Held

theorem below (held : loop.Held holds) {owner : TimerCallback} {id : TimerId} (own : holds owner = some id) :
    id < loop.nextTimer :=
  held.timed.armed_below (held.armed owner id own)

theorem same (held : loop.Held holds) {next : Loop FdCallback TimerCallback} (timers : next.timers = loop.timers)
    (names : next.nextTimer = loop.nextTimer) : next.Held holds := by
  refine ⟨⟨?_, ?_⟩, fun owner id own => ?_⟩
  · rw [timers, names]
    exact held.timed.below
  · rw [timers]
    exact held.timed.nodup
  · unfold Armed
    rw [timers]
    exact held.armed owner id own

theorem freeTimer (held : loop.Held holds) {id : TimerId} (unheld : ∀ owner, holds owner ≠ some id) :
    (loop.freeTimer id).Held holds where
  timed := held.timed.filter _
  armed owner other own := by
    apply (held.armed owner other own).freeTimer
    rintro rfl
    exact unheld owner own

theorem sweep (held : loop.Held holds) : loop.sweep.Held holds where
  timed := ⟨(held.timed.filter _).below, (held.timed.filter _).nodup⟩
  armed owner id own := (held.armed owner id own).sweep

/-- A timer that was armed is not held once its owner forgot it and others hold new names only. -/
theorem forgotten (held : loop.Held holds) {owner : TimerCallback} {id : TimerId} (armed : loop.Armed id owner)
    {left : TimerCallback → Option TimerId}
    (less : ∀ other name, left other = some name → holds other = some name ∧ other ≠ owner ∨ loop.nextTimer ≤ name)
    (other : TimerCallback) : left other ≠ some id := by
  intro own
  rcases less other id own with ⟨before, apart⟩ | new
  · exact apart (held.timed.armed_unique (held.armed other id before) armed)
  · exact absurd (held.timed.armed_below armed) (Nat.not_lt.mpr new)

end Held

/-- Timers are handed on when the owners hold armed timers as before, and only new names are newly held. -/
structure Hands (first : Loop FdCallback TimerCallback) (holds : TimerCallback → Option TimerId)
    (second : Loop FdCallback TimerCallback) (after : TimerCallback → Option TimerId) : Prop where
  held : first.Held holds → second.Held after
  later : first.Later second
  fresh : ∀ owner id, after owner = some id → holds owner = some id ∨ first.nextTimer ≤ id

namespace Hands

variable {first second third : Loop FdCallback TimerCallback} {one two three : TimerCallback → Option TimerId}

theorem same (timers : second.timers = first.timers) (names : second.nextTimer = first.nextTimer)
    (owners : two = one) : Hands first one second two := by
  subst owners
  exact ⟨fun held => held.same timers names, .same timers names, fun _ _ own => .inl own⟩

theorem trans (before : Hands first one second two) (after : Hands second two third three) :
    Hands first one third three where
  held held := after.held (before.held held)
  later := before.later.trans after.later
  fresh owner id own := by
    rcases after.fresh owner id own with there | new
    · exact before.fresh owner id there
    · exact .inr (Nat.le_trans before.later.next new)

theorem unheld (hands : Hands first one second two) {id : TimerId} (below : id < first.nextTimer)
    (unheld : ∀ owner, one owner ≠ some id) (owner : TimerCallback) : two owner ≠ some id := by
  intro own
  rcases hands.fresh owner id own with there | new
  · exact unheld owner there
  · exact absurd below (Nat.not_lt.mpr new)

section Owner

variable [DecidableEq TimerCallback]

theorem forget (loop : Loop FdCallback TimerCallback) (holds : TimerCallback → Option TimerId) (owner : TimerCallback) :
    Hands loop holds loop (Function.update holds owner none) := by
  have before (other : TimerCallback) (id : TimerId) (own : Function.update holds owner none other = some id) :
      holds other = some id := by
    rw [Function.update_apply] at own
    split at own
    · cases own
    · exact own
  exact ⟨fun held => ⟨held.timed, fun other id own => held.armed other id (before other id own)⟩, .same rfl rfl,
    fun other id own => .inl (before other id own)⟩

theorem arm (loop : Loop FdCallback TimerCallback) (holds : TimerCallback → Option TimerId) (now : Timespec) (ms : Int)
    (owner : TimerCallback) :
    Hands loop holds (loop.addTimer now ms owner) (Function.update holds owner (some loop.nextTimer)) where
  held held := by
    refine ⟨held.timed.addTimer now ms owner, fun other id own => (armed_addTimer now ms owner).mpr ?_⟩
    rw [Function.update_apply] at own
    split at own
    · cases own
      exact .inl ⟨rfl, by assumption⟩
    · exact .inr (held.armed other id own)
  later := .addTimer loop now ms owner
  fresh other id own := by
    rw [Function.update_apply] at own
    split at own
    · cases own
      exact .inr (Nat.le_refl _)
    · exact .inl own

theorem cancel (loop : Loop FdCallback TimerCallback) (holds : TimerCallback → Option TimerId) (owner : TimerCallback) :
    Hands loop holds (loop.removeTimer? (holds owner)) (Function.update holds owner none) where
  held held := by
    cases own : holds owner with
    | none =>
        rw [← own, Function.update_eq_self]
        exact own.symm ▸ held
    | some timer =>
        refine ⟨held.timed.removeTimer timer, fun other id kept => ?_⟩
        rw [Function.update_apply] at kept
        split at kept
        · cases kept
        · rename_i apart
          have armed := held.armed other id kept
          refine armed.removeTimer ?_
          rintro rfl
          exact apart (held.timed.armed_unique armed (held.armed owner id own))
  later := .removeTimer? loop _
  fresh other id own := (forget loop holds owner).fresh other id own

end Owner

end Hands

end Loop

namespace Scene

theorem removeTimer?_eq (scene : Scene) (timer : Option TimerId) :
    scene.removeTimer? timer = { scene with eventloop := scene.eventloop.removeTimer? timer } := by
  cases timer <;> rfl

/-- The timers of the scene are held in it, and the others outside. -/
def holds (scene : Scene) (outside : TimerCallback → Option TimerId) : TimerCallback → Option TimerId
  | .hiddenCheckTimeout => scene.hiddenCheckTimer
  | .clientConnectionTimeout client => (scene.bgClients.cell client).bind SwaylockBgClient.clientConnectTimer
  | .outputRedrawTimeout output => (scene.outputs.cell output).bind SwaylockSurface.clientSubmissionTimer
  | callback => outside callback

variable {first second third : Scene}

theorem holds_same (hidden : second.hiddenCheckTimer = first.hiddenCheckTimer)
    (clients : ∀ id, (second.bgClients.cell id).bind SwaylockBgClient.clientConnectTimer =
      (first.bgClients.cell id).bind SwaylockBgClient.clientConnectTimer)
    (outputs : ∀ id, (second.outputs.cell id).bind SwaylockSurface.clientSubmissionTimer =
      (first.outputs.cell id).bind SwaylockSurface.clientSubmissionTimer)
    {outside : TimerCallback → Option TimerId} : second.holds outside = first.holds outside := by
  funext owner
  cases owner with
  | hiddenCheckTimeout => exact hidden
  | clientConnectionTimeout client => exact clients client
  | outputRedrawTimeout output => exact outputs output
  | _ => rfl

theorem holds_hidden (timer : Option TimerId) (hidden : second.hiddenCheckTimer = timer)
    (clients : second.bgClients = first.bgClients) (outputs : second.outputs = first.outputs)
    {outside : TimerCallback → Option TimerId} :
    second.holds outside = Function.update (first.holds outside) .hiddenCheckTimeout timer := by
  funext owner
  rw [Function.update_apply]
  cases owner with
  | hiddenCheckTimeout => exact hidden
  | clientConnectionTimeout client => exact congrArg (fun heap : Heap SwaylockBgClient => (heap.cell client).bind _) clients
  | outputRedrawTimeout output => exact congrArg (fun heap : Heap SwaylockSurface => (heap.cell output).bind _) outputs
  | _ => rfl

theorem holds_client (id : BgClientId) (timer : Option TimerId) (hidden : second.hiddenCheckTimer = first.hiddenCheckTimer)
    (clients : ∀ other, (second.bgClients.cell other).bind SwaylockBgClient.clientConnectTimer =
      if other = id then timer else (first.bgClients.cell other).bind SwaylockBgClient.clientConnectTimer)
    (outputs : ∀ id, (second.outputs.cell id).bind SwaylockSurface.clientSubmissionTimer =
      (first.outputs.cell id).bind SwaylockSurface.clientSubmissionTimer)
    {outside : TimerCallback → Option TimerId} :
    second.holds outside = Function.update (first.holds outside) (.clientConnectionTimeout id) timer := by
  funext owner
  rw [Function.update_apply]
  cases owner with
  | hiddenCheckTimeout => exact hidden
  | clientConnectionTimeout client =>
      refine (clients client).trans ?_
      simp only [TimerCallback.clientConnectionTimeout.injEq]
      rfl
  | outputRedrawTimeout output => exact outputs output
  | _ => rfl

theorem holds_output (id : OutputId) (timer : Option TimerId) (hidden : second.hiddenCheckTimer = first.hiddenCheckTimer)
    (clients : second.bgClients = first.bgClients)
    (outputs : ∀ other, (second.outputs.cell other).bind SwaylockSurface.clientSubmissionTimer =
      if other = id then timer else (first.outputs.cell other).bind SwaylockSurface.clientSubmissionTimer)
    {outside : TimerCallback → Option TimerId} :
    second.holds outside = Function.update (first.holds outside) (.outputRedrawTimeout id) timer := by
  funext owner
  rw [Function.update_apply]
  cases owner with
  | hiddenCheckTimeout => exact hidden
  | clientConnectionTimeout client => exact congrArg (fun heap : Heap SwaylockBgClient => (heap.cell client).bind _) clients
  | outputRedrawTimeout output =>
      refine (outputs output).trans ?_
      simp only [TimerCallback.outputRedrawTimeout.injEq]
      rfl
  | _ => rfl

theorem holds_forgetConnect (scene : Scene) (id : BgClientId) {outside : TimerCallback → Option TimerId} :
    (scene.setBgClient id fun record => { record with clientConnectTimer := none }).holds outside =
      Function.update (scene.holds outside) (.clientConnectionTimeout id) none := by
  refine holds_client id none ?_ (fun other => ?_) fun _ => ?_
  · rfl
  · refine (scene.bgClients.bind_modify id _ _ other).trans ?_
    rw [Option.bind_fun_none]
  · rfl

theorem holds_forgetRedraw (scene : Scene) (id : OutputId) {outside : TimerCallback → Option TimerId} :
    (scene.setOutput id fun output => { output with clientSubmissionTimer := none }).holds outside =
      Function.update (scene.holds outside) (.outputRedrawTimeout id) none := by
  refine holds_output id none ?_ ?_ fun other => ?_
  · rfl
  · rfl
  · refine (scene.outputs.bind_modify id _ _ other).trans ?_
    rw [Option.bind_fun_none]

/-- A handler of the scene hands the timers on at one time, whoever holds the others. -/
structure Hands (first second : Scene) : Prop where
  clock : second.clock = first.clock
  loop : ∀ outside, Loop.Hands first.eventloop (first.holds outside) second.eventloop (second.holds outside)

namespace Hands

theorem refl (scene : Scene) : Hands scene scene := ⟨rfl, fun _ => .same rfl rfl rfl⟩

theorem trans (one : Hands first second) (two : Hands second third) : Hands first third :=
  ⟨two.clock.trans one.clock, fun outside => (one.loop outside).trans (two.loop outside)⟩

theorem of_still (still : Still first second) : Hands first second := by
  refine ⟨still.settings.2, fun outside => ?_⟩
  refine .same (by rw [still.eventloop]) (by rw [still.eventloop]) (holds_same still.hiddenCheckTimer ?_ ?_)
  · intro id
    have view := congrArg (Option.map SwaylockBgClient.clientConnectTimer) (still.records id)
    rw [Option.map_map, Option.map_map] at view
    exact bind_congr view
  · intro id
    rcases still.outputs id with view | ⟨absent, output, there, _, untimed⟩
    · have timers := congrArg (Option.map Service.clientSubmissionTimer) view
      rw [Option.map_map, Option.map_map] at timers
      exact bind_congr timers
    · rw [absent, there]
      exact untimed

theorem forgot (owner : TimerCallback) (clock : second.clock = first.clock) (loop : second.eventloop = first.eventloop)
    (owners : ∀ outside, second.holds outside = Function.update (first.holds outside) owner none) :
    Hands first second := by
  refine ⟨clock, fun outside => ?_⟩
  rw [loop, owners]
  exact .forget first.eventloop _ owner

theorem armed (now : Timespec) (ms : Int) (owner : TimerCallback) (clock : second.clock = first.clock)
    (loop : second.eventloop = first.eventloop.addTimer now ms owner)
    (owners : ∀ outside, second.holds outside =
      Function.update (first.holds outside) owner (some first.eventloop.nextTimer)) : Hands first second := by
  refine ⟨clock, fun outside => ?_⟩
  rw [loop, owners]
  exact .arm first.eventloop _ now ms owner

theorem cancelled (timer : Option TimerId) (owner : TimerCallback) (own : ∀ outside, first.holds outside owner = timer)
    (clock : second.clock = first.clock) (loop : second.eventloop = first.eventloop.removeTimer? timer)
    (owners : ∀ outside, second.holds outside = Function.update (first.holds outside) owner none) :
    Hands first second := by
  refine ⟨clock, fun outside => ?_⟩
  rw [loop, owners, ← own outside]
  exact .cancel first.eventloop _ owner

theorem outputs_of_lasting (lasting : Lasting first second) (id : OutputId) :
    (second.outputs.cell id).bind SwaylockSurface.clientSubmissionTimer =
      (first.outputs.cell id).bind SwaylockSurface.clientSubmissionTimer := by
  have timers := congrArg (Option.map SwaylockSurface.clientSubmissionTimer) (lasting.outputs id)
  rw [Option.map_map, Option.map_map] at timers
  exact bind_congr timers

theorem of_cleaned {id : BgClientId} {record : SwaylockBgClient} (cleaned : Cleaned first id record second) :
    Hands first second := by
  refine .cancelled record.clientConnectTimer (.clientConnectionTimeout id) (fun _ => ?_)
    cleaned.lasting.settings.2 ?_ fun outside => ?_
  · simp [holds, cleaned.present]
  · rw [cleaned.eventloop, removeTimer?_eq]
  · refine holds_client id none cleaned.lasting.hiddenCheckTimer (fun other => ?_) (outputs_of_lasting cleaned.lasting)
    rw [cleaned.records]
    split <;> rfl

theorem of_connected {output : Option OutputId} {pid : Int} (connected : Connected first output pid second) :
    Hands first second := by
  refine .armed first.clock timeoutConnect (.clientConnectionTimeout first.bgClients.next)
    connected.lasting.settings.2 connected.eventloop fun outside => ?_
  refine holds_client _ _ connected.lasting.hiddenCheckTimer (fun other => ?_) (outputs_of_lasting connected.lasting)
  rw [connected.records]
  split <;> rfl

theorem of_registered {id : BgClientId} {record : SwaylockBgClient} (registered : Registered first id record second) :
    Hands first second := by
  refine .cancelled record.clientConnectTimer (.clientConnectionTimeout id) (fun _ => ?_)
    registered.lasting.settings.2 ?_ fun outside => ?_
  · simp [holds, registered.present]
  · rw [registered.eventloop, removeTimer?_eq]
  · refine holds_client id none registered.lasting.hiddenCheckTimer (fun other => ?_)
      (outputs_of_lasting registered.lasting)
    rw [registered.records, Heap.bind_modify, Option.bind_fun_none]

theorem cancelSubmissionTimer (scene : Scene) (id : OutputId) : Hands scene (cancelSubmissionTimer scene id) := by
  unfold SwaylockPlugin.cancelSubmissionTimer
  split
  · exact .refl scene
  · rename_i output present
    rw [removeTimer?_eq]
    refine .cancelled output.clientSubmissionTimer (.outputRedrawTimeout id) (fun _ => ?_) rfl rfl fun outside => ?_
    · simp [holds, present]
    · refine holds_output id none ?_ ?_ fun other => ?_
      · rfl
      · rfl
      · refine (scene.outputs.bind_modify id _ _ other).trans ?_
        rw [Option.bind_fun_none]

theorem armOutput {scene : Scene} {id : OutputId} {output : SwaylockSurface} (present : scene.outputs.cell id = some output)
    (ms : Int) {change : SwaylockSurface → SwaylockSurface}
    (timed : ∀ output, (change output).clientSubmissionTimer = some scene.eventloop.nextTimer) :
    Hands scene ((scene.addTimer ms (.outputRedrawTimeout id)).1.setOutput id change) := by
  refine .armed scene.clock ms (.outputRedrawTimeout id) rfl rfl fun outside => ?_
  refine holds_output id _ ?_ ?_ fun other => ?_
  · rfl
  · rfl
  · refine (scene.outputs.bind_modify id _ _ other).trans ?_
    rw [present, Option.bind_some, timed]

theorem armHiddenCheck (scene : Scene) : Hands scene (armHiddenCheck scene) := by
  unfold SwaylockPlugin.armHiddenCheck
  split
  · refine .armed scene.clock hiddenCheckInterval .hiddenCheckTimeout rfl rfl fun outside => ?_
    apply holds_hidden <;> rfl
  · exact .refl scene

theorem dropOutput (scene : Scene) (id : OutputId) :
    Hands scene (scene.dropOutput id ((scene.outputs.cell id).bind SwaylockSurface.clientSubmissionTimer)) := by
  unfold Scene.dropOutput
  rw [removeTimer?_eq]
  refine .cancelled _ (.outputRedrawTimeout id) (fun _ => rfl) rfl rfl fun outside => ?_
  refine holds_output id none ?_ ?_ fun other => ?_
  · rfl
  · rfl
  · change ((scene.outputs.free id).cell other).bind _ = _
    rw [Heap.cell_free]
    split <;> rfl

theorem forgetConnect (scene : Scene) (id : BgClientId) :
    Hands scene (scene.setBgClient id fun record => { record with clientConnectTimer := none }) := by
  exact .forgot (.clientConnectionTimeout id) rfl rfl fun _ => holds_forgetConnect scene id

theorem forgetRedraw (scene : Scene) (id : OutputId) :
    Hands scene (scene.setOutput id fun output => { output with clientSubmissionTimer := none }) := by
  exact .forgot (.outputRedrawTimeout id) rfl rfl fun _ => holds_forgetRedraw scene id

theorem armRedraw (scene : Scene) (id : OutputId) : Ensures (armRedraw scene id) (Hands scene) := by
  refine .read fun output present => ?_
  split
  · exact .pure (.refl scene)
  · exact .pure (.armOutput present timeoutSurface fun _ => rfl)

theorem of_move {bounds : Bounds} {one two : Option OutputId × Scene} (move : Move bounds one two) : Hands one.2 two.2 := by
  cases move with
  | quiet changes => exact .of_still (changes.still fun _ => id)
  | pause scene env client paused =>
      obtain ⟨records, same, _, _, running⟩ := setClientPaused_records scene env client paused
      rw [same]
      refine ⟨rfl, fun outside => ?_⟩
      have owners : ({ scene with bgClients := records } : Scene).holds outside = scene.holds outside := ?_
      · exact .same rfl rfl owners
      refine holds_same ?_ (fun id => ?_) fun _ => ?_
      · rfl
      · have timers := congrArg (Option.map SwaylockBgClient.clientConnectTimer) (running id)
        rw [Option.map_map, Option.map_map] at timers
        exact bind_congr timers
      · rfl
  | hang | delist => exact ⟨rfl, fun _ => .same rfl rfl rfl⟩
  | finish scene id =>
      refine ⟨rfl, fun outside => ?_⟩
      refine .same ?_ ?_ (holds_same ?_ (fun _ => ?_) fun other => ?_)
      · rfl
      · rfl
      · rfl
      · rfl
      · refine (scene.outputs.bind_modify id _ _ other).trans ?_
        split
        · rename_i same
          rw [same]
        · rfl
  | register handled =>
      rcases clientResourceCreate_registered _ _ handled with rfl | ⟨_, _, registered⟩
      · exact .refl _
      · exact .of_registered registered
  | forgetConnect scene id => exact .forgetConnect scene id
  | clean handled =>
      obtain ⟨_, cleaned⟩ := cleanupClient_cleaned _ _ handled
      exact .of_cleaned cleaned
  | died _ handled =>
      obtain ⟨record, cleaned, cleaning, ⟨_, rfl⟩ | ⟨_, pid, connected⟩⟩ := clientDestroyed_ends _ _ handled
      · exact .trans (.of_cleaned cleaning) ⟨rfl, fun _ => .same rfl rfl rfl⟩
      · exact .trans (.of_cleaned cleaning) (.of_connected connected)
  | start _ _ _ handled => exact .of_connected (connectPlugin_connected _ _ _ handled)
  | lock present => exact .armOutput present timeoutSurface fun _ => rfl
  | @redraw _ scene next id handled => exact armRedraw scene id next handled
  | cancel scene id => exact .cancelSubmissionTimer scene id
  | forgetRedraw scene id => exact .forgetRedraw scene id
  | forgetHidden scene =>
      refine .forgot .hiddenCheckTimeout rfl rfl fun outside => ?_
      apply holds_hidden <;> rfl
  | armHidden scene => exact .armHiddenCheck scene
  | @remove _ scene cleaned env id output present handled =>
      have timer : (scene.outputs.cell id).bind SwaylockSurface.clientSubmissionTimer = output.clientSubmissionTimer := by
        rw [present, Option.bind_some]
      rcases cleanupServing_cleaned _ _ handled with ⟨_, rfl⟩ | ⟨_, _, _, cleaning⟩
      · rw [← timer]
        exact .dropOutput _ id
      · rw [← timer, ← outputs_of_lasting cleaning.lasting]
        exact .trans (.of_cleaned cleaning) (.dropOutput cleaned id)
  | display => exact ⟨rfl, fun _ => .same rfl rfl rfl⟩

theorem of_moves {bounds : Bounds} {creating : Option OutputId} (moves : Moves bounds creating first second) :
    Hands first second :=
  moves.keep (fun _ scene => Hands first scene) (fun move before => before.trans (of_move move)) (.refl first)

theorem of_changes {effects : List Effect} (changes : Changes effects first second)
    (quiet : ∀ effect ∈ effects, effect ∈ quietEffects) : Hands first second :=
  of_still (changes.still quiet)

end Hands

end Scene

end SwaylockPlugin
