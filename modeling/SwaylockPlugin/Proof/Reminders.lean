import SwaylockPlugin.Proof.Owners

namespace SwaylockPlugin

open Library

namespace SwaylockState

/-- The timers of the indicator, of the grace period and of the seats are held outside the scene. -/
def own (state : SwaylockState) : TimerCallback → Option TimerId
  | .setInputIdle => state.inputIdleTimer
  | .setAuthIdle => state.authIdleTimer
  | .clearPassword => state.clearPasswordTimer
  | .graceTimeout => state.graceTimer
  | .keyboardRepeat seat => (state.seats.cell seat).bind SwaylockSeat.repeatTimer
  | _ => none

/-- Each callback has an owner whose field holds its timer. -/
def holds (state : SwaylockState) : TimerCallback → Option TimerId := state.scene.holds state.own

/-- The fields of a state hold armed timers that call back what they are for. -/
abbrev Timed (state : SwaylockState) : Prop := state.scene.eventloop.Held state.holds

end SwaylockState

theorem Scene.holds_outside (scene : Scene) {own next : TimerCallback → Option TimerId} {owner : TimerCallback}
    {timer : Option TimerId} (outside : owner.onScene = false) (owns : next = Function.update own owner timer) :
    scene.holds next = Function.update (scene.holds own) owner timer := by
  subst owns
  funext other
  rw [Function.update_apply]
  cases other with
  | hiddenCheckTimeout | clientConnectionTimeout | outputRedrawTimeout =>
      rw [if_neg]
      · rfl
      · rintro rfl
        cases outside
  | _ => exact Function.update_apply own owner timer _

/-- A handler hands the timers on, and a clear timer that it arms for a key expires ten seconds later. -/
structure Tends (key : Bool) (first second : SwaylockState) : Prop where
  hands : Loop.Hands first.scene.eventloop first.holds second.scene.eventloop second.holds
  clock : second.scene.clock = first.scene.clock
  clears : first.Timed → ∀ timer ∈ second.scene.eventloop.timers, timer.removed = false →
    second.clearPasswordTimer = some timer.id →
      (timer ∈ first.scene.eventloop.timers ∧ first.clearPasswordTimer = some timer.id) ∨
        key = true ∧ timer.expiry = first.scene.clock.after 10000

namespace Tends

variable {key : Bool} {first second third : SwaylockState}

theorem trans (one : Tends key first second) (two : Tends key second third) : Tends key first third where
  hands := one.hands.trans two.hands
  clock := two.clock.trans one.clock
  clears timed timer member kept own := by
    rcases two.clears (one.hands.held timed) timer member kept own with ⟨there, before⟩ | late
    · exact one.clears timed timer there kept before
    · rw [one.clock] at late
      exact .inr late

theorem keep (hands : Loop.Hands first.scene.eventloop first.holds second.scene.eventloop second.holds)
    (clock : second.scene.clock = first.scene.clock)
    (clear : second.clearPasswordTimer = none ∨ second.clearPasswordTimer = first.clearPasswordTimer) :
    Tends key first second where
  hands := hands
  clock := clock
  clears timed timer member kept own := by
    rcases clear with forgotten | same
    · cases forgotten.symm.trans own
    · rw [same] at own
      rcases hands.later.armed timer member kept with there | new
      · exact .inl ⟨there, own⟩
      · have held : first.holds .clearPassword = some timer.id := own
        exact absurd (timed.below held) (Nat.not_lt.mpr new)

theorem same (timers : second.scene.eventloop.timers = first.scene.eventloop.timers)
    (names : second.scene.eventloop.nextTimer = first.scene.eventloop.nextTimer)
    (clock : second.scene.clock = first.scene.clock) (owners : second.holds = first.holds) : Tends key first second :=
  keep (.same timers names owners) clock (.inr (congrFun owners .clearPassword))

theorem refl (state : SwaylockState) : Tends key state state := same rfl rfl rfl rfl

theorem scene {scene : Scene} (hands : first.scene.Hands scene) : Tends key first { first with scene := scene } :=
  keep (hands.loop first.own) hands.clock (.inr rfl)

theorem forget (owner : TimerCallback) (outside : owner.onScene = false) (scene : second.scene = first.scene)
    (own : second.own = Function.update first.own owner none) : Tends key first second := by
  refine keep ?_ (by rw [scene]) ?_
  · unfold SwaylockState.holds
    rw [scene, Scene.holds_outside first.scene outside own]
    exact .forget _ _ owner
  · have clear := congrFun own .clearPassword
    rw [Function.update_apply] at clear
    split at clear
    · exact .inl clear
    · exact .inr clear

theorem cancel (owner : TimerCallback) (outside : owner.onScene = false)
    (scene : second.scene = first.scene.removeTimer? (first.own owner))
    (own : second.own = Function.update first.own owner none) : Tends key first second := by
  have same : first.scene.holds first.own owner = first.own owner := by
    cases owner with
    | hiddenCheckTimeout | clientConnectionTimeout | outputRedrawTimeout => cases outside
    | _ => rfl
  refine keep ?_ ?_ ?_
  · unfold SwaylockState.holds
    rw [scene, Scene.removeTimer?_eq, Scene.holds_outside _ outside own, ← same]
    exact .cancel _ _ owner
  · rw [scene, Scene.removeTimer?_eq]
  · have clear := congrFun own .clearPassword
    rw [Function.update_apply] at clear
    split at clear
    · exact .inl clear
    · exact .inr clear

theorem arm (owner : TimerCallback) (ms : Int) (outside : owner.onScene = false)
    (scene : second.scene = (first.scene.addTimer ms owner).1)
    (own : second.own = Function.update first.own owner (some first.scene.eventloop.nextTimer))
    (clear : owner = .clearPassword → key = true ∧ ms = 10000) : Tends key first second := by
  have hands : Loop.Hands first.scene.eventloop first.holds second.scene.eventloop second.holds := by
    unfold SwaylockState.holds
    rw [scene, Scene.holds_outside _ outside own]
    exact .arm _ _ _ ms owner
  have clock : second.scene.clock = first.scene.clock := by rw [scene]; rfl
  have pointer := congrFun own .clearPassword
  rw [Function.update_apply] at pointer
  split at pointer
  · rename_i same
    refine ⟨hands, clock, fun timed timer member kept held => .inr ⟨(clear same.symm).1, ?_⟩⟩
    have named : some timer.id = some first.scene.eventloop.nextTimer := held.symm.trans pointer
    rw [scene] at member
    rcases List.mem_cons.mp member with rfl | old
    · rw [← (clear same.symm).2]
    · have below := timed.timed.below timer old
      rw [Option.some.inj named] at below
      exact absurd below (Nat.lt_irrefl _)
  · exact keep hands clock (.inr pointer)

theorem shown (before : Tends key first second) (scene : third.scene = second.scene) (own : third.own = second.own) :
    Tends key first third := by
  refine before.trans (.same ?_ ?_ ?_ ?_)
  · rw [scene]
  · rw [scene]
  · rw [scene]
  · unfold SwaylockState.holds
    rw [scene, own]

theorem damage (state : SwaylockState) : Tends key state state.damage := by
  have drawn : Changes renderEffects state.scene (damageState state.scene) := damageState_changes
  exact scene (.of_changes drawn (by simp))

end Tends

section Functions

variable {key : Bool} (state : SwaylockState)

theorem cancelInputIdle_tends : Tends key state (cancelInputIdle state) := by
  refine .cancel .setInputIdle rfl rfl ?_
  funext owner
  cases owner <;> rfl

theorem scheduleInputIdle_tends : Tends key state (scheduleInputIdle state) := by
  refine (cancelInputIdle_tends state).trans (.arm .setInputIdle 1500 rfl rfl ?_ nofun)
  funext owner
  cases owner <;> rfl

theorem scheduleAuthIdle_tends : Tends key state (scheduleAuthIdle state) := by
  have cancelled : Tends key state { state.removeTimer? state.authIdleTimer with authIdleTimer := none } := by
    refine .cancel .setAuthIdle rfl rfl ?_
    funext owner
    cases owner <;> rfl
  refine cancelled.trans (.arm .setAuthIdle 3000 rfl rfl ?_ nofun)
  funext owner
  cases owner <;> rfl

theorem cancelPasswordClear_tends : Tends key state (cancelPasswordClear state) := by
  refine .cancel .clearPassword rfl rfl ?_
  funext owner
  cases owner <;> rfl

theorem schedulePasswordClear_tends : Tends true state (schedulePasswordClear state) := by
  refine (cancelPasswordClear_tends state).trans (.arm .clearPassword 10000 rfl rfl ?_ fun _ => ⟨rfl, rfl⟩)
  funext owner
  cases owner <;> rfl

theorem writeCommRequest_tends (written : Bool) : Tends key state (writeCommRequest state written) := .same rfl rfl rfl rfl

theorem updateHighlight_tends (random : Nat) : Tends key state (updateHighlight state random) := by
  have moved (start : Nat) : Tends key state { state with highlightStart := start } := .same rfl rfl rfl rfl
  exact moved _

theorem submitPassword_tends (written : Bool) : Tends key state (submitPassword state written) := by
  unfold submitPassword
  split
  · exact .refl state
  · split
    · exact .refl state
    · have noted : Tends key state { state with inputState := .idle, authState := .validating } := .same rfl rfl rfl rfl
      have cancelled := (noted.trans (cancelPasswordClear_tends _)).trans (cancelInputIdle_tends _)
      have sent := cancelled.trans (writeCommRequest_tends _ written)
      dsimp only
      split
      · exact sent.trans (.damage _)
      · refine Tends.trans (Tends.trans (sent.trans ?_) (scheduleAuthIdle_tends _)) (.damage _)
        exact .same rfl rfl rfl rfl

theorem clearByKey_tends : Tends key state (clearByKey state) := by
  have noted : Tends key state { state with password := state.password.clear, inputState := .clear } := .same rfl rfl rfl rfl
  exact ((noted.trans (cancelPasswordClear_tends _)).trans (scheduleInputIdle_tends _)).trans (.damage _)

theorem eraseByKey_tends (random : Nat) : Tends true state (eraseByKey state random) := by
  unfold eraseByKey
  split
  · exact clearByKey_tends state
  · dsimp only
    refine Tends.trans (Tends.trans ?_ (scheduleInputIdle_tends _)) (.damage _)
    split
    · have noted : Tends true state { state with password := state.password.backspace, inputState := .backspace } :=
        .same rfl rfl rfl rfl
      exact (noted.trans (schedulePasswordClear_tends _)).trans (updateHighlight_tends _ random)
    · have noted : Tends true state { state with password := state.password.backspace, inputState := .clear } :=
        .same rfl rfl rfl rfl
      exact noted.trans (cancelPasswordClear_tends _)

theorem touchByKey_tends : Tends true state (touchByKey state) := by
  have noted : Tends true state { state with inputState := .neutral } := .same rfl rfl rfl rfl
  exact ((noted.trans (schedulePasswordClear_tends _)).trans (scheduleInputIdle_tends _)).trans (.damage _)

theorem appendByKey_tends (codepoint : UInt32) (random : Nat) : Tends true state (appendByKey state codepoint random) := by
  unfold appendByKey
  split
  · exact .refl state
  · have noted : Tends true state { state with password := state.password.appendCh codepoint, inputState := .letter } :=
      .same rfl rfl rfl rfl
    have scheduled := (noted.trans (schedulePasswordClear_tends _)).trans (scheduleInputIdle_tends _)
    exact (scheduled.trans (updateHighlight_tends _ random)).trans (.damage _)

theorem swaylockHandleKey_tends (keysym : Keysym) (codepoint : UInt32) (random : Nat) (written : Bool) :
    Tends true state (swaylockHandleKey state keysym codepoint random written) := by
  apply swaylockHandleKey_cases (Tends true state)
  · exact submitPassword_tends state written
  · exact eraseByKey_tends state random
  · exact clearByKey_tends state
  · exact touchByKey_tends state
  · exact appendByKey_tends state codepoint random

theorem setInputIdle_tends : Tends key { state with inputIdleTimer := none } (setInputIdle state) := by
  have noted : Tends key { state with inputIdleTimer := none }
      { state with inputIdleTimer := none, inputState := .idle } := .same rfl rfl rfl rfl
  exact noted.trans (.damage _)

theorem setAuthIdle_tends : Tends key { state with authIdleTimer := none } (setAuthIdle state) := by
  have noted : Tends key { state with authIdleTimer := none }
      { state with authIdleTimer := none, authState := .idle } := .same rfl rfl rfl rfl
  exact noted.trans (.damage _)

theorem clearPassword_tends : Tends key { state with clearPasswordTimer := none } (clearPassword state) := by
  have noted : Tends key { state with clearPasswordTimer := none }
      { state with clearPasswordTimer := none, inputState := .clear } := .same rfl rfl rfl rfl
  refine Tends.trans ?_ (.damage _)
  exact (noted.trans (scheduleInputIdle_tends _)).trans (.same rfl rfl rfl rfl)

end Functions

/-- What is shown or typed has a timer that ends it. -/
structure Reminded (state : SwaylockState) : Prop where
  input : state.inputState ≠ .idle → state.inputIdleTimer.isSome = true
  auth : state.authState = .invalid → state.authIdleTimer.isSome = true
  password : state.password.len ≠ 0 → state.clearPasswordTimer.isSome = true

namespace Reminded

variable {state next : SwaylockState}

theorem same (reminded : Reminded state) (input : next.inputState = state.inputState)
    (auth : next.authState = state.authState) (password : next.password = state.password)
    (timers : next.inputIdleTimer = state.inputIdleTimer ∧ next.authIdleTimer = state.authIdleTimer ∧
      next.clearPasswordTimer = state.clearPasswordTimer) : Reminded next where
  input := by
    rw [input, timers.1]
    exact reminded.input
  auth := by
    rw [auth, timers.2.1]
    exact reminded.auth
  password := by
    rw [password, timers.2.2]
    exact reminded.password

theorem submitPassword (reminded : Reminded state) (written : Bool) : Reminded (submitPassword state written) := by
  unfold SwaylockPlugin.submitPassword
  split
  · exact reminded
  · split
    · exact reminded
    · cases written with
      | true => exact ⟨fun shown => absurd rfl shown, nofun, fun typed => absurd rfl typed⟩
      | false => exact ⟨fun shown => absurd rfl shown, fun _ => rfl, fun typed => absurd rfl typed⟩

theorem clearByKey (reminded : Reminded state) : Reminded (clearByKey state) :=
  ⟨fun _ => rfl, reminded.auth, fun typed => absurd rfl typed⟩

theorem eraseByKey (reminded : Reminded state) (random : Nat) : Reminded (eraseByKey state random) := by
  unfold SwaylockPlugin.eraseByKey
  split
  · exact reminded.clearByKey
  · dsimp only
    split
    · exact ⟨fun _ => rfl, reminded.auth, fun _ => rfl⟩
    · rename_i left
      refine ⟨fun _ => rfl, reminded.auth, fun typed => absurd ?_ typed⟩
      change state.password.backspace.len = 0
      by_cases empty : state.password.len = 0
      · unfold SwaylockPassword.backspace
        rw [if_pos empty, empty]
      · simpa [empty] using left

theorem touchByKey (reminded : Reminded state) : Reminded (touchByKey state) :=
  ⟨fun _ => rfl, reminded.auth, fun _ => rfl⟩

theorem appendByKey (reminded : Reminded state) (codepoint : UInt32) (random : Nat) :
    Reminded (appendByKey state codepoint random) := by
  unfold SwaylockPlugin.appendByKey
  split
  · exact reminded
  · exact ⟨fun _ => rfl, reminded.auth, fun _ => rfl⟩

theorem swaylockHandleKey (reminded : Reminded state) (keysym : Keysym) (codepoint : UInt32) (random : Nat)
    (written : Bool) : Reminded (swaylockHandleKey state keysym codepoint random written) := by
  apply swaylockHandleKey_cases Reminded
  · exact reminded.submitPassword written
  · exact reminded.eraseByKey random
  · exact reminded.clearByKey
  · exact reminded.touchByKey
  · exact reminded.appendByKey codepoint random

end Reminded

end SwaylockPlugin
