import SwaylockPlugin.Proof.Clock
import SwaylockPlugin.Proof.LoopTimers
import SwaylockPlugin.Proof.Reminders
import SwaylockPlugin.Proof.Repeat

namespace SwaylockPlugin

open Library

/-- These events lead to a handled key, by a press outside the grace period or by a repeat. -/
def handlesKey (state : SwaylockState) : Event → Bool
  | .key _ pressed _ _ _ => pressed && state.xkb.state && state.graceTimer.isNone
  | .timer timer _ =>
      match state.scene.eventloop.due state.scene.clock timer with
      | some (.keyboardRepeat _) => true
      | _ => false
  | _ => false

/-- An event tends the timers, and a timer that fires is freed once nobody holds it. -/
inductive TendStep (state : SwaylockState) : Event → SwaylockState → Prop
  | tick (now : Timespec) : TendStep state (.tick now) { state with scene := { state.scene with clock := now } }
  | tended {event : Event} {next : SwaylockState} (tends : Tends (handlesKey state event) state next)
      (reminded : Reminded state → Reminded next) : TendStep state event next
  | fired {timer : TimerId} {result : InputResult} {middle : SwaylockState}
      (tends : Tends (handlesKey state (.timer timer result)) state middle)
      (reminded : Reminded state → Reminded middle) (unheld : state.Timed → ∀ owner, middle.holds owner ≠ some timer) :
      TendStep state (.timer timer result) (freeTimer middle timer)
  | swept (phase : Phase) : TendStep state .sweep { state with
      scene := { state.scene with eventloop := state.scene.eventloop.sweep }
      phase := phase }

section Seats

variable {key : Bool} {state : SwaylockState} {id : SeatId} {seat : SwaylockSeat}

theorem setSeat_own (state : SwaylockState) (id : SeatId) {change : SwaylockSeat → SwaylockSeat}
    (kept : ∀ seat, (change seat).repeatTimer = seat.repeatTimer) : (state.setSeat id change).own = state.own := by
  funext owner
  cases owner with
  | keyboardRepeat other =>
      refine (state.seats.bind_modify id change _ other).trans ?_
      split
      · rename_i same
        simp only [kept, same]
        rfl
      · rfl
  | _ => rfl

theorem setSeat_timer (present : state.seats.cell id = some seat) {scene : Scene} {change : SwaylockSeat → SwaylockSeat}
    {timer : Option TimerId} (timed : ∀ seat, (change seat).repeatTimer = timer) :
    ({ state with scene := scene }.setSeat id change).own = Function.update state.own (.keyboardRepeat id) timer := by
  funext owner
  rw [Function.update_apply]
  cases owner with
  | keyboardRepeat other =>
      refine (state.seats.bind_modify id change _ other).trans ?_
      rw [present, Option.bind_some, timed]
      simp only [TimerCallback.keyboardRepeat.injEq]
      rfl
  | _ => rfl

theorem stopSeat_tends (present : state.seats.cell id = some seat) : Tends key state (state.stopSeat id seat.repeatTimer) := by
  refine .cancel (.keyboardRepeat id) rfl ?_ (setSeat_timer present fun _ => rfl)
  have own : state.own (.keyboardRepeat id) = seat.repeatTimer := by
    change (state.seats.cell id).bind _ = _
    rw [present]
    rfl
  rw [own]
  rfl

theorem armSeat_tends (present : state.seats.cell id = some seat) (ms : Int) (change : SwaylockSeat → SwaylockSeat) :
    Tends key state (state.armSeat id ms change) :=
  .arm (.keyboardRepeat id) ms rfl rfl (setSeat_timer present fun _ => rfl) nofun

theorem keyboardKey_tendStep (pressed : Bool) (sym codepoint : UInt32) (result : InputResult) :
    Ensures (keyboardKey state id pressed sym codepoint result.random result.written)
      (TendStep state (.key id pressed sym codepoint result)) := by
  unfold keyboardKey
  split
  · exact .pure (.tended (.refl state) fun reminded => reminded)
  · rename_i loaded
    split
    · exact .pure (.tended (.same rfl rfl rfl rfl) fun reminded => reminded.same rfl rfl rfl ⟨rfl, rfl, rfl⟩)
    · rename_i elapsed
      have handles : handlesKey state (.key id pressed sym codepoint result) = pressed := by
        cases pressed with
        | false => rfl
        | true =>
            have loaded : state.xkb.state = true := by simpa using loaded
            have late : state.graceTimer = none := by simpa using elapsed
            simp [handlesKey, loaded, late]
      have handled : Tends pressed state
            (if pressed then swaylockHandleKey state (.ofCode sym) codepoint result.random result.written else state) ∧
          (Reminded state → Reminded
            (if pressed then swaylockHandleKey state (.ofCode sym) codepoint result.random result.written else state)) := by
        split
        · rename_i down
          exact ⟨down ▸ swaylockHandleKey_tends state _ _ _ _, fun reminded => reminded.swaylockHandleKey _ _ _ _⟩
        · exact ⟨.refl state, fun reminded => reminded⟩
      dsimp only
      generalize (if pressed then swaylockHandleKey state (.ofCode sym) codepoint result.random result.written
        else state) = middle at handled
      obtain ⟨tends, reminds⟩ := handled
      refine .via (fun stopped => Tends pressed state stopped ∧ (Reminded state → Reminded stopped)) ?_ ?_
      · refine .read fun seat present => .pure ⟨tends.trans (stopSeat_tends present), fun reminded => ?_⟩
        exact (reminds reminded).same rfl rfl rfl ⟨rfl, rfl, rfl⟩
      · rintro stopped ⟨tends, reminds⟩
        refine .read fun seat present => ?_
        split
        · refine .pure (.tended (handles.symm ▸ tends.trans (armSeat_tends present _ (.repeating sym codepoint))) fun reminded => ?_)
          exact (reminds reminded).same rfl rfl rfl ⟨rfl, rfl, rfl⟩
        · exact .pure (.tended (handles.symm ▸ tends) reminds)

end Seats

section Timers

variable {state : SwaylockState} {env : Environment} {timer : TimerId} {result : InputResult}

theorem unheld_of_forgotten {owner : TimerCallback} (due : state.scene.eventloop.due state.scene.clock timer = some owner)
    {first middle : SwaylockState} (loop : first.scene.eventloop = state.scene.eventloop)
    (forgot : first.holds = Function.update state.holds owner none)
    (hands : Loop.Hands first.scene.eventloop first.holds middle.scene.eventloop middle.holds) (timed : state.Timed) :
    ∀ other, middle.holds other ≠ some timer := by
  have armed := Loop.armed_of_due due
  refine hands.unheld (loop ▸ timed.timed.armed_below armed) fun other => ?_
  refine timed.forgotten armed (fun another name own => .inl ?_) other
  rw [forgot, Function.update_apply] at own
  split at own
  · cases own
  · exact ⟨own, by assumption⟩

theorem fired_outside {owner : TimerCallback} (due : state.scene.eventloop.due state.scene.clock timer = some owner)
    (outside : owner.onScene = false) (first : SwaylockState) {middle : SwaylockState} (scene : first.scene = state.scene)
    (own : first.own = Function.update state.own owner none)
    (tends : Tends (handlesKey state (.timer timer result)) first middle) (reminded : Reminded state → Reminded middle) :
    TendStep state (.timer timer result) (freeTimer middle timer) := by
  have forgot : first.holds = Function.update state.holds owner none := by
    unfold SwaylockState.holds
    rw [scene]
    exact Scene.holds_outside state.scene outside own
  exact .fired ((Tends.forget owner outside scene own).trans tends) reminded
    (unheld_of_forgotten due (by rw [scene]) forgot tends.hands)

theorem fired_inside {owner : TimerCallback} (due : state.scene.eventloop.due state.scene.clock timer = some owner)
    (first : Scene) {last : Scene} (loop : first.eventloop = state.scene.eventloop)
    (forgot : first.holds state.own = Function.update (state.scene.holds state.own) owner none)
    (forgets : state.scene.Hands first) (hands : first.Hands last) :
    TendStep state (.timer timer result) (freeTimer { state with scene := last } timer) := by
  refine .fired ((Tends.scene forgets).trans (.scene hands)) (fun reminded => ?_) ?_
  · exact reminded.same rfl rfl rfl ⟨rfl, rfl, rfl⟩
  · have start : ({ state with scene := first } : SwaylockState).scene.eventloop = state.scene.eventloop := loop
    exact unheld_of_forgotten due start forgot (hands.loop state.own)

theorem dispatchTimer_tendStep : Ensures (dispatchTimer state env timer result) (TendStep state (.timer timer result)) := by
  refine .read fun callback due => ?_
  cases callback with
  | setInputIdle =>
      have forgot : ({ state with inputIdleTimer := none } : SwaylockState).own =
          Function.update state.own .setInputIdle none := by
        funext owner
        cases owner <;> rfl
      exact .pure (fired_outside due rfl { state with inputIdleTimer := none } rfl forgot (setInputIdle_tends state) fun reminded =>
        ⟨fun shown => absurd rfl shown, reminded.auth, reminded.password⟩)
  | setAuthIdle =>
      have forgot : ({ state with authIdleTimer := none } : SwaylockState).own =
          Function.update state.own .setAuthIdle none := by
        funext owner
        cases owner <;> rfl
      exact .pure (fired_outside due rfl { state with authIdleTimer := none } rfl forgot (setAuthIdle_tends state) fun reminded =>
        ⟨reminded.input, nofun, reminded.password⟩)
  | clearPassword =>
      have forgot : ({ state with clearPasswordTimer := none } : SwaylockState).own =
          Function.update state.own .clearPassword none := by
        funext owner
        cases owner <;> rfl
      exact .pure (fired_outside due rfl { state with clearPasswordTimer := none } rfl forgot (clearPassword_tends state) fun reminded =>
        ⟨fun _ => rfl, reminded.auth, fun typed => absurd rfl typed⟩)
  | hiddenCheckTimeout =>
      have forgets : Move .lasting (none, state.scene) (none, { state.scene with hiddenCheckTimer := none }) :=
        .forgetHidden state.scene
      have moves : Moves .lasting none { state.scene with hiddenCheckTimer := none } (hiddenCheckTimeout state.scene env) :=
        Moves.trans (.foldl (fun scene id => .single (.pause scene env id _ fun _ => rfl)) _ _) (.single (.armHidden _))
      refine .pure (fired_inside due { state.scene with hiddenCheckTimer := none } rfl ?_ (.of_move forgets) (.of_moves moves))
      apply Scene.holds_hidden <;> rfl
  | graceTimeout =>
      have forgot : ({ state with graceTimer := none } : SwaylockState).own =
          Function.update state.own .graceTimeout none := by
        funext owner
        cases owner <;> rfl
      have elapsed : Tends (handlesKey state (.timer timer result)) { state with graceTimer := none } (graceTimeout state) :=
        .same rfl rfl rfl rfl
      exact .pure (fired_outside due rfl { state with graceTimer := none } rfl forgot elapsed fun reminded =>
        reminded.same rfl rfl rfl ⟨rfl, rfl, rfl⟩)
  | clientConnectionTimeout client =>
      have forgets := Scene.Hands.forgetConnect state.scene client
      have runs : Ensures (clientConnectionTimeout state.scene env client) (Scene.Hands (state.scene.setBgClient client
          fun record => { record with clientConnectTimer := none })) :=
        .read fun _ _ => (clientTimeout_moves client).weaken fun _ moves =>
          (.of_moves (moves : Moves .lasting none _ _))
      refine Ensures.bind (runs.bind fun last hands => .pure ?_) fun middle fired => .pure fired
      refine fired_inside due _ ?_ (Scene.holds_forgetConnect state.scene client) forgets hands
      rfl
  | outputRedrawTimeout output =>
      have forgets := Scene.Hands.forgetRedraw state.scene output
      have runs : Ensures (outputRedrawTimeout state.scene env output) (Scene.Hands (state.scene.setOutput output
          fun output => { output with clientSubmissionTimer := none })) := by
        refine .read fun record _ => ?_
        dsimp only
        split
        · exact .pure (.refl _)
        · exact (clientTimeout_moves _).weaken fun _ moves => .of_moves (moves : Moves .lasting none _ _)
      refine Ensures.bind (runs.bind fun last hands => .pure ?_) fun middle fired => .pure fired
      refine fired_inside due _ ?_ (Scene.holds_forgetRedraw state.scene output) forgets hands
      rfl
  | keyboardRepeat seat =>
      refine .via (fun middle => TendStep state (.timer timer result) (freeTimer middle timer)) ?_ fun middle fired => .pure fired
      refine .read fun record present => .pure ?_
      have handles : handlesKey state (.timer timer result) = true := by
        simp [handlesKey, due]
      have armed : Tends true state (state.armSeat seat record.repeatPeriodMs fun seat => seat) :=
        armSeat_tends present _ _
      have tends := swaylockHandleKey_tends (state.armSeat seat record.repeatPeriodMs fun seat => seat)
        (.ofCode record.repeatSym) record.repeatCodepoint result.random result.written
      refine .fired (handles.symm ▸ armed.trans tends) (fun reminded => ?_) fun timed => ?_
      · apply Reminded.swaylockHandleKey
        exact reminded.same rfl rfl rfl ⟨rfl, rfl, rfl⟩
      · have due := Loop.armed_of_due due
        refine tends.hands.unheld ?_ ?_
        · exact Nat.lt_succ_of_lt (timed.timed.armed_below due)
        · refine timed.forgotten due fun other name own => ?_
          have owns : (state.armSeat seat record.repeatPeriodMs fun seat => seat).holds =
              Function.update state.holds (.keyboardRepeat seat) (some state.scene.eventloop.nextTimer) :=
            Scene.holds_outside _ rfl (setSeat_timer present fun _ => rfl)
          rw [owns, Function.update_apply] at own
          split at own
          · cases own
            exact .inr (Nat.le_refl _)
          · exact .inl ⟨own, by assumption⟩

end Timers

section Grace

variable {key : Bool} {state : SwaylockState}

theorem cancelGrace_tends {timer : TimerId} (set_ : state.graceTimer = some timer) :
    Tends key state { state.removeTimer? (some timer) with graceTimer := none } := by
  refine .cancel .graceTimeout rfl ?_ ?_
  · change _ = state.scene.removeTimer? state.graceTimer
    rw [set_]
    rfl
  · funext owner
    cases owner <;> rfl

theorem lockIn_tends : Tends key state (lockIn state) := by
  unfold lockIn
  split
  · exact .refl state
  · rename_i timer set_
    exact (cancelGrace_tends set_).trans (.same rfl rfl rfl rfl)

theorem sleepIn_tends : Tends key state (sleepIn state) := by
  unfold sleepIn
  dsimp only
  split
  · exact .same rfl rfl rfl rfl
  · rename_i timer set_
    exact (cancelGrace_tends set_).trans (.same rfl rfl rfl rfl)

theorem startGracePeriod_tends (watcher : Option (Int × Int)) : Tends key state (startGracePeriod state watcher) := by
  unfold startGracePeriod
  split
  · split
    · exact .same rfl rfl rfl rfl
    · rename_i sleepCommR sleepCommW
      have armed : Tends key state
          { (state.addTimer (graceDelay state.scene.args.graceTime) .graceTimeout).1 with
            sleepCommR := sleepCommR
            sleepCommW := sleepCommW
            graceTimer := some state.scene.eventloop.nextTimer } := by
        refine .arm .graceTimeout _ rfl rfl ?_ nofun
        funext owner
        cases owner <;> rfl
      exact armed.trans (.same rfl rfl rfl rfl)
  · exact .same rfl rfl rfl rfl

theorem grace_reminded (reminded : Reminded state) (watcher : Option (Int × Int)) :
    Reminded (lockIn state) ∧ Reminded (sleepIn state) ∧ Reminded (startGracePeriod state watcher) := by
  refine ⟨?_, ?_, ?_⟩
  · unfold lockIn
    split <;> exact reminded.same rfl rfl rfl ⟨rfl, rfl, rfl⟩
  · unfold sleepIn
    dsimp only
    split <;> exact reminded.same rfl rfl rfl ⟨rfl, rfl, rfl⟩
  · unfold startGracePeriod
    split
    · split <;> exact reminded.same rfl rfl rfl ⟨rfl, rfl, rfl⟩
    · exact reminded.same rfl rfl rfl ⟨rfl, rfl, rfl⟩

end Grace

section Steps

variable {state next : SwaylockState}

theorem TendStep.idle {event : Event} (scene : next.scene = state.scene) (own : next.own = state.own)
    (input : next.inputState = state.inputState) (auth : next.authState = state.authState)
    (password : next.password = state.password) : TendStep state event next := by
  have timers (owner : TimerCallback) : next.own owner = state.own owner := congrFun own owner
  refine .tended (.same ?_ ?_ ?_ ?_) fun reminded => reminded.same input auth password
    ⟨timers .setInputIdle, timers .setAuthIdle, timers .clearPassword⟩
  · rw [scene]
  · rw [scene]
  · rw [scene]
  · unfold SwaylockState.holds
    rw [scene, own]

theorem TendStep.scene {event : Event} {scene : Scene} (hands : state.scene.Hands scene) (phase : Phase) :
    TendStep state event { state with scene := scene, phase := phase } :=
  .tended ((Tends.scene hands).shown rfl rfl) fun reminded => reminded.same rfl rfl rfl ⟨rfl, rfl, rfl⟩

theorem tendStep_of_step {occurrence : Occurrence} (moved : swaylock.machine.step state occurrence next) :
    TendStep state occurrence.event next := by
  obtain ⟨event, env⟩ := occurrence
  obtain ⟨allowed, handled⟩ := moved
  revert next
  change Ensures (handleEvent state env event) (TendStep state event)
  cases event with
  | tick now => exact .pure (.tick now)
  | scene event =>
      exact (handleScene_moves state.runDisplay event).bind fun scene moves => .pure (.scene (.of_moves moves) state.phase)
  | timer timer result => exact dispatchTimer_tendStep
  | seatAdded =>
      refine .pure (.idle rfl ?_ rfl rfl rfl)
      funext owner
      cases owner with
      | keyboardRepeat id =>
          change ((state.seats.alloc _).cell id).bind _ = (state.seats.cell id).bind _
          rw [Heap.cell_alloc]
          split
          · rename_i new
            rw [new, Heap.cell_next]
            rfl
          · rfl
      | _ => rfl
  | seatCapabilities seat pointer keyboard =>
      exact .read fun _ _ => .pure (.idle rfl (setSeat_own state seat fun _ => rfl) rfl rfl rfl)
  | keymap loaded => exact .pure (.idle rfl rfl rfl rfl rfl)
  | key seat pressed sym codepoint result => exact keyboardKey_tendStep pressed sym codepoint result
  | keyboardLeave seat =>
      refine .read fun record present => .pure (.tended (stopSeat_tends present) fun reminded => ?_)
      exact reminded.same rfl rfl rfl ⟨rfl, rfl, rfl⟩
  | modifiers layoutSame capsLock control =>
      refine .pure ?_
      unfold keyboardModifiers
      split
      · exact .idle rfl rfl rfl rfl rfl
      · dsimp only
        split
        · have noted : Tends false state { state with xkb := { state.xkb with capsLock := capsLock } } := .same rfl rfl rfl rfl
          have drawn := noted.trans (.damage _)
          exact .tended (drawn.shown rfl rfl) fun reminded => reminded.same rfl rfl rfl ⟨rfl, rfl, rfl⟩
        · exact .idle rfl rfl rfl rfl rfl
  | repeatInfo seat rate delay =>
      exact .read fun _ _ => .pure (.idle rfl (setSeat_own state seat fun _ => rfl) rfl rfl rfl)
  | pointerEnter seat x y =>
      refine .read fun _ _ => ?_
      split
      · exact .pure (.idle rfl rfl rfl rfl rfl)
      · exact .pure (.idle rfl (setSeat_own state seat fun _ => rfl) rfl rfl rfl)
  | pointerMotion seat x y =>
      intro next computed
      have kept := wlPointerMotion_repeatView state seat x y next computed
      have same := wlPointerMotion_ok computed
      refine .idle (by rw [same]) ?_ (by rw [same]) (by rw [same]) (by rw [same])
      funext owner
      cases owner with
      | keyboardRepeat id =>
          have timers := congrArg (Option.map fun view => view.2.2) (kept id)
          rw [Option.map_map, Option.map_map] at timers
          exact bind_congr timers
      | _ =>
          rw [same]
          rfl
  | commReply success =>
      refine .pure ?_
      unfold commIn
      dsimp only
      split
      · exact .idle rfl rfl rfl rfl rfl
      · refine .tended ?_ fun reminded => ⟨reminded.input, fun _ => rfl, reminded.password⟩
        have noted : Tends false state { state with
            comm := { state.comm with replies := state.comm.replies + 1 }
            authState := .invalid } := .same rfl rfl rfl rfl
        have scheduled := noted.trans (scheduleAuthIdle_tends _)
        refine Tends.trans ?_ (.damage _)
        exact scheduled.shown rfl rfl
  | lockNow => exact .pure (.tended lockIn_tends fun reminded => (grace_reminded reminded none).1)
  | sleepNotice => exact .pure (.tended sleepIn_tends fun reminded => (grace_reminded reminded none).2.1)
  | sweep => exact .pure (.swept _)
  | start =>
      have added : Tends false state (addDescriptors { state with sleepCommR := -1, sleepCommW := -1 }) := .same rfl rfl rfl rfl
      intro next computed
      obtain ⟨created, creates, computed⟩ := bind_ok.mp computed
      obtain ⟨started, starts, computed⟩ := bind_ok.mp computed
      cases computed
      have moves : Moves .lasting none _ started := (createSurfaces_moves (fun _ => rfl) _ creates).trans (startMainPlugin_moves _ starts)
      refine .tended ((added.trans (.scene (.of_moves moves))).shown rfl rfl) fun reminded => ?_
      exact reminded.same rfl rfl rfl ⟨rfl, rfl, rfl⟩
  | startGrace watcher =>
      exact .pure (.tended (startGracePeriod_tends watcher) fun reminded => (grace_reminded reminded watcher).2.2)
  | armHiddenCheck => exact .pure (.scene (.armHiddenCheck state.scene) .runCheck)
  | resume =>
      have moves : Moves .lasting none state.scene (resumeAllClients state.scene env) := resumeAllClients_moves
      exact .pure (.scene (.of_moves moves) .unlock)
  | _ =>
      refine (handleEvent_plain state env rfl).weaken ?_
      rintro _ ⟨_, _, _, _, _, rfl⟩
      exact .tended (.same rfl rfl rfl rfl) fun reminded => reminded.same rfl rfl rfl ⟨rfl, rfl, rfl⟩

theorem TendStep.timed {event : Event} (step : TendStep state event next) (timed : state.Timed) : next.Timed := by
  cases step with
  | tick now => exact timed.same rfl rfl
  | tended tends => exact tends.hands.held timed
  | fired tends _ unheld => exact (tends.hands.held timed).freeTimer (unheld timed)
  | swept phase => exact timed.sweep

theorem timed_initial (start : InitialState state) : state.Timed := by
  obtain ⟨loop, hidden⟩ := start.eventloop
  obtain ⟨input, auth, clear⟩ := start.timers
  refine ⟨loop ▸ Loop.create_wellTimed, fun owner id own => ?_⟩
  cases owner with
  | setInputIdle => cases input.symm.trans own
  | setAuthIdle => cases auth.symm.trans own
  | clearPassword => cases clear.symm.trans own
  | hiddenCheckTimeout => cases hidden.symm.trans own
  | graceTimeout => cases start.grace.symm.trans own
  | clientConnectionTimeout client =>
      change (state.scene.bgClients.cell client).bind _ = some id at own
      rw [start.plugins.1] at own
      cases own
  | outputRedrawTimeout output =>
      change (state.scene.outputs.cell output).bind _ = some id at own
      rw [start.outputs.1] at own
      cases own
  | keyboardRepeat seat =>
      change (state.seats.cell seat).bind _ = some id at own
      rw [start.keyboard.2] at own
      cases own

theorem timed_of_reachable (reachable : swaylock.machine.Reachable state) : state.Timed :=
  reachable.invariant SwaylockState.Timed (fun _ => timed_initial) fun _ _ _ timed moved =>
    (tendStep_of_step moved).timed timed

/-- The object with which a timer calls back is alive. -/
def TimerCallback.alive (state : SwaylockState) : TimerCallback → Bool
  | .clientConnectionTimeout client => state.scene.bgClients.live client
  | .outputRedrawTimeout output => state.scene.outputs.live output
  | .keyboardRepeat seat => state.seats.live seat
  | _ => true

theorem alive_of_held {owner : TimerCallback} {id : TimerId} (own : state.holds owner = some id) :
    owner.alive state = true := by
  have present {Record : Type} {heap : Heap Record} {address : Nat} {field : Record → Option TimerId}
      (held : (heap.cell address).bind field = some id) : heap.live address = true := by
    obtain ⟨record, there, _⟩ := Option.bind_eq_some_iff.mp held
    exact Heap.live_iff.mpr ⟨record, there⟩
  cases owner with
  | clientConnectionTimeout | outputRedrawTimeout | keyboardRepeat => exact present own
  | _ => rfl

end Steps

/-- The loop calls a timer back at most once, after its expiry and not after it was removed, it uses no timer that was
freed, and each field that holds a timer names one that is armed and calls back with an object that is alive. -/
theorem timers_sound {Callback Data : Type} :
    (∀ loop notes, ((EventLoop.polling Callback Data).machine.observed EventLoop.TimerNotes.none
      EventLoop.TimerNotes.follow).Reachable (loop, notes) →
        (∀ after id, loop.attended = false → EventLoop.handleLoop loop .turn = .ok after →
          after.stage.rings id = true → EventLoop.Rings loop notes id) ∧
        ∀ event, EventLoop.loopEnabled loop event = true → EventLoop.handleLoop loop event ≠ .error .timer) ∧
    ∀ state, swaylock.machine.Reachable state → ∀ owner id, state.holds owner = some id →
      state.scene.eventloop.Armed id owner ∧ owner.alive state = true := by
  refine ⟨fun loop notes reachable => EventLoop.rings_once reachable, fun state reachable owner id own => ?_⟩
  exact ⟨(timed_of_reachable reachable).armed owner id own, alive_of_held own⟩

/-- A timer that has expired is called back, and the clear timer of a typed password is armed. -/
theorem timers_sound_ringing :
    (∃ loop : EventLoop.LoopState Unit Unit, ∃ notes, ∃ after id, EventLoop.handleLoop loop .turn = .ok after ∧
      after.stage.rings id = true ∧ EventLoop.Rings loop notes id) ∧
    ∃ (state : SwaylockState) (id : TimerId), state.clearPasswordTimer = some id ∧ state.scene.eventloop.Armed id .clearPassword := by
  constructor
  · obtain ⟨⟨loop, notes⟩, reachable, passed⟩ := (EventLoop.polling Unit Unit).play_observed EventLoop.TimerNotes.none
      EventLoop.TimerNotes.follow [.addTimer 5 () (), .passes ⟨1, 0⟩, .poll none, .turn]
      (fun pair => !pair.1.attended && (EventLoop.handleLoop pair.1 .turn).toOption.any fun after => after.stage.rings 0)
      (⟨⟨0, 0⟩, rfl⟩ : (EventLoop.polling Unit Unit).initial (.create ⟨0, 0⟩))
      (by decide +kernel : (((EventLoop.polling Unit Unit).observed _ _).play _ _).any _ = true)
    rw [Bool.and_eq_true, Bool.not_eq_true'] at passed
    obtain ⟨after, turned, rings⟩ := (Option.any_eq_true _ _).mp passed.2
    have turned : EventLoop.handleLoop loop .turn = .ok after := by
      cases computed : EventLoop.handleLoop loop .turn with
      | error fault =>
          rw [computed] at turned
          cases turned
      | ok last =>
          rw [computed] at turned
          cases turned
          rfl
    exact ⟨loop, notes, after, 0, turned, rings, (timers_sound.1 loop notes reachable).1 after 0 passed.1 turned rings⟩
  · obtain ⟨state, reachable, passed⟩ := swaylock.play_reachable (holdingEvents.map Event.obliged)
      (fun state => state.clearPasswordTimer.isSome) (startState_initial _ _ _)
      (by decide +kernel : (swaylock.play defaultState _).any _ = true)
    obtain ⟨id, own⟩ := Option.isSome_iff_exists.mp passed
    exact ⟨state, id, own, ((@timers_sound Unit Unit).2 state reachable .clearPassword id own).1⟩

/-- The observer notes when the last key was handled. -/
def lastHandled (last : Option Timespec) (state : SwaylockState) (occurrence : Occurrence) : Option Timespec :=
  if handlesKey state occurrence.event then some state.scene.clock else last

/-- The clock is read as the system gives it. -/
def readsClock (state : SwaylockState) (_ : Occurrence) : Bool := state.scene.clock.normal

/-- What is shown or typed ends by a timer, the typed password ten seconds after the last key at the latest. -/
structure Tended (state : SwaylockState) (last : Option Timespec) : Prop where
  timed : state.Timed
  reminded : Reminded state
  clears : ∀ timer ∈ state.scene.eventloop.timers, timer.removed = false → state.clearPasswordTimer = some timer.id →
    ∃ handled, last = some handled ∧ timer.expiry.nanos ≤ handled.nanos + 10000000000
  read : ∀ handled, last = some handled → handled.normal = true ∧ state.scene.clock.before handled = false

namespace Tended

variable {state next : SwaylockState} {last : Option Timespec}

theorem initial (start : InitialState state) : Tended state none := by
  obtain ⟨input, auth, clear⟩ := start.timers
  refine ⟨timed_initial start, ⟨fun shown => ?_, fun invalid => ?_, fun typed => ?_⟩, fun _ _ _ own => ?_, nofun⟩
  · exact absurd start.indicator.2.1 shown
  · cases start.indicator.1.symm.trans invalid
  · exact absurd start.password.1 typed
  · cases clear.symm.trans own

theorem unbefore (now : Timespec) : now.before now = false := by
  simp [Timespec.before]

theorem tends (tended : Tended state last) {key : Bool} (tends : Tends key state next)
    (reminded : Reminded state → Reminded next) (reads : state.scene.clock.normal = true) :
    Tended next (if key then some state.scene.clock else last) where
  timed := tends.hands.held tended.timed
  reminded := reminded tended.reminded
  clears timer member kept own := by
    rcases tends.clears tended.timed timer member kept own with ⟨there, before⟩ | ⟨rfl, late⟩
    · obtain ⟨handled, noted, soon⟩ := tended.clears timer there kept before
      cases key with
      | false => exact ⟨handled, noted, soon⟩
      | true =>
          obtain ⟨normal, past⟩ := tended.read handled noted
          have earlier := Timespec.nanos_le normal reads past
          exact ⟨_, rfl, by omega⟩
    · refine ⟨_, rfl, ?_⟩
      rw [late, Timespec.after_nanos]
      omega
  read handled noted := by
    rw [tends.clock]
    cases key with
    | false => exact tended.read handled noted
    | true =>
        cases noted
        exact ⟨reads, unbefore _⟩

theorem step (tended : Tended state last) {occurrence : Occurrence} (moved : swaylock.machine.step state occurrence next)
    (reads : state.scene.clock.normal = true) : Tended next (lastHandled last state occurrence) := by
  have step := tendStep_of_step moved
  have timed := step.timed tended.timed
  obtain ⟨event, env⟩ := occurrence
  have allowed : enabled state ⟨event, env⟩ = true := moved.1
  clear moved
  cases step with
  | tick now =>
      refine ⟨timed, tended.reminded.same rfl rfl rfl ⟨rfl, rfl, rfl⟩, tended.clears, fun handled noted => ?_⟩
      obtain ⟨normal, past⟩ := tended.read handled noted
      exact ⟨normal, EventLoop.past_passes past (by simpa [enabled] using allowed)⟩
  | tended tends reminded => exact tended.tends tends reminded reads
  | fired tends reminded unheld =>
      have middle := tended.tends tends reminded reads
      refine ⟨timed, middle.reminded.same rfl rfl rfl ⟨rfl, rfl, rfl⟩, ?_, middle.read⟩
      exact fun timer member => middle.clears timer (List.mem_of_mem_filter member)
  | swept phase =>
      refine ⟨timed, tended.reminded.same rfl rfl rfl ⟨rfl, rfl, rfl⟩, ?_, tended.read⟩
      exact fun timer member => tended.clears timer (List.mem_of_mem_filter member)

theorem of_reachable
    (reachable : ((swaylock.machine.guarded readsClock).observed none lastHandled).Reachable (state, last)) :
    Tended state last := by
  refine reachable.invariant (fun pair => Tended pair.1 pair.2) ?_ ?_
  · rintro ⟨state, last⟩ ⟨start, rfl⟩
    exact .initial start
  · rintro ⟨state, last⟩ occurrence ⟨next, _⟩ tended ⟨⟨moved, reads⟩, rfl⟩
    exact tended.step moved reads

end Tended

/-- A typed password is cleared at most ten seconds after the last key, and what is shown of keys and of a refusal ends. -/
theorem shown_and_typed_end {state : SwaylockState} {last : Option Timespec}
    (reachable : ((swaylock.machine.guarded readsClock).observed none lastHandled).Reachable (state, last)) :
    (state.password.len ≠ 0 → ∃ handled, last = some handled ∧ ∃ timer ∈ state.scene.eventloop.timers,
      state.clearPasswordTimer = some timer.id ∧ timer.callback = .clearPassword ∧ timer.removed = false ∧
        timer.expiry.nanos ≤ handled.nanos + 10000000000) ∧
    (state.inputState ≠ .idle → ∃ timer, state.inputIdleTimer = some timer ∧
      state.scene.eventloop.Armed timer .setInputIdle) ∧
    (state.authState = .invalid → ∃ timer, state.authIdleTimer = some timer ∧
      state.scene.eventloop.Armed timer .setAuthIdle) := by
  have tended := Tended.of_reachable reachable
  refine ⟨fun typed => ?_, fun shown => ?_, fun invalid => ?_⟩
  · obtain ⟨id, own⟩ := Option.isSome_iff_exists.mp (tended.reminded.password typed)
    obtain ⟨timer, member, rfl, called, kept⟩ := tended.timed.armed .clearPassword id own
    obtain ⟨handled, noted, soon⟩ := tended.clears timer member kept own
    exact ⟨handled, noted, timer, member, own, called, kept, soon⟩
  · obtain ⟨id, own⟩ := Option.isSome_iff_exists.mp (tended.reminded.input shown)
    exact ⟨id, own, tended.timed.armed .setInputIdle id own⟩
  · obtain ⟨id, own⟩ := Option.isSome_iff_exists.mp (tended.reminded.auth invalid)
    exact ⟨id, own, tended.timed.armed .setAuthIdle id own⟩

/-- A password whose last character was typed at the start is cleared within the first ten seconds. -/
theorem shown_and_typed_end_typed : ∃ state : SwaylockState, state.password.len = 1 ∧
    ∃ timer ∈ state.scene.eventloop.timers, state.clearPasswordTimer = some timer.id ∧
      timer.callback = .clearPassword ∧ timer.removed = false ∧ timer.expiry.nanos ≤ 10000000000 := by
  obtain ⟨⟨state, last⟩, reachable, passed⟩ := swaylock.play_guarded_observed readsClock none lastHandled
    (holdingEvents.map Event.obliged) (fun pair => pair.1.password.len == 1 && pair.2 == some ⟨0, 0⟩)
    (startState_initial _ _ _) (by decide +kernel : (((swaylock.guarded _).observed _ _).play (defaultState, _) _).any _ = true)
  rw [Bool.and_eq_true, beq_iff_eq, beq_iff_eq] at passed
  obtain ⟨typed, rfl⟩ : state.password.len = 1 ∧ last = some ⟨0, 0⟩ := passed
  obtain ⟨handled, noted, timer, member, own, called, kept, soon⟩ :=
    (shown_and_typed_end reachable).1 (by rw [typed]; exact Nat.one_ne_zero)
  cases noted
  exact ⟨state, typed, timer, member, own, called, kept, soon⟩

end SwaylockPlugin
