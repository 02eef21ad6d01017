import SwaylockPlugin.Proof.Unlock

namespace SwaylockPlugin

open Library

/-- A key press of a seat arms its repeat outside the grace period. -/
def armsRepeat (state : SwaylockState) (id : SeatId) : Event → Bool
  | .key seat pressed _ _ _ =>
      seat == id && pressed && state.xkb.state && state.graceTimer.isNone &&
        state.seatIs id fun seat => decide (0 < seat.repeatPeriodMs)
  | _ => false

/-- These events must end the repeat of a seat. -/
def Event.endsRepeat (id : SeatId) : Event → Bool
  | .key seat pressed _ _ _ => seat == id && !pressed
  | .keyboardLeave seat => seat == id
  | .seatCapabilities seat _ keyboard => seat == id && !keyboard
  | .keymap loaded => !loaded
  | .repeatInfo seat rate _ => seat == id && decide (rate ≤ 0)
  | _ => false

/-- The observer notes for each seat the events since a key press last armed its repeat. -/
def sinceArmed (since : SeatId → Option (List Event)) (state : SwaylockState) (occurrence : Occurrence) :
    SeatId → Option (List Event) := fun id =>
  if armsRepeat state id occurrence.event then some [] else (since id).map (· ++ [occurrence.event])

/-- The repeat timer of a seat is set. -/
def SwaylockState.repeats (state : SwaylockState) (id : SeatId) : Bool :=
  state.seatIs id fun seat => seat.repeatTimer.isSome

/-- A keyboard is withdrawn, a keymap lost and an unusable rate announced only while no key is repeated. -/
def changedAtRest (state : SwaylockState) (occurrence : Occurrence) : Bool :=
  match occurrence.event with
  | .seatCapabilities id _ keyboard => keyboard || !state.repeats id
  | .keymap loaded => loaded || !(List.range state.seats.next).any state.repeats
  | .repeatInfo id rate _ => decide (0 < rate ∧ rate ≤ 1000) || !state.repeats id
  | _ => true

/-- What a repeat needs of its seat. -/
def SwaylockSeat.repeatView (seat : SwaylockSeat) : Bool × Int × Option TimerId :=
  (seat.keyboard, seat.repeatPeriodMs, seat.repeatTimer)

theorem wlPointerEnter_repeatView (state : SwaylockState) (id : SeatId) (x y : WlFixed) :
    Ensures (wlPointerEnter state id x y) fun next => ∀ other,
      (next.seats.cell other).map SwaylockSeat.repeatView = (state.seats.cell other).map SwaylockSeat.repeatView := by
  refine .read fun _ _ => ?_
  split
  · exact .pure fun _ => rfl
  · refine .pure fun other => ?_
    apply Heap.view_modify
    intro seat _
    rfl

theorem wlPointerMotion_repeatView (state : SwaylockState) (id : SeatId) (x y : WlFixed) :
    Ensures (wlPointerMotion state id x y) fun next => ∀ other,
      (next.seats.cell other).map SwaylockSeat.repeatView = (state.seats.cell other).map SwaylockSeat.repeatView := by
  refine .read fun seat present => ?_
  split
  · exact .pure fun _ => rfl
  · have started : (startInterval seat state.scene.clock.tvSec).repeatView = seat.repeatView := by
      unfold startInterval
      split <;> rfl
    have moved (old : SwaylockSeat) (there : state.seats.cell id = some old) :
        { startInterval seat state.scene.clock.tvSec with lastMouseX := x, lastMouseY := y }.repeatView =
          old.repeatView := by
      cases present.symm.trans there
      exact started
    dsimp only
    split
    · exact .pure fun other => Heap.view_modify state.seats id _ _ moved other
    · exact .pure fun other => Heap.view_modify state.seats id _ _ moved other

/-- A repeat timer that is armed and not spare belongs to its seat, whose key is still held. -/
structure RepeatGuard (spare : Option TimerId) (state : SwaylockState) (since : SeatId → Option (List Event)) :
    Prop where
  timed : state.scene.eventloop.WellTimed
  owned : ∀ timer id, some timer ≠ spare → state.scene.eventloop.Armed timer (.keyboardRepeat id) →
    ∃ seat, state.seats.cell id = some seat ∧ seat.repeatTimer = some timer
  held : ∀ id seat, state.seats.cell id = some seat → seat.repeatTimer.isSome = true →
    seat.keyboard = true ∧ state.xkb.state = true ∧ 0 < seat.repeatPeriodMs ∧
      ∃ events, since id = some events ∧ ∀ event ∈ events, event.endsRepeat id = false

namespace RepeatGuard

variable {spare : Option TimerId} {state next : SwaylockState} {since after : SeatId → Option (List Event)} {event : Event}

theorem others (guard : RepeatGuard spare state since) (timed : next.scene.eventloop.WellTimed)
    (repeats : ∀ timer id, next.scene.eventloop.Armed timer (.keyboardRepeat id) →
      state.scene.eventloop.Armed timer (.keyboardRepeat id))
    (keymap : next.xkb.state = state.xkb.state)
    (seats : ∀ id, (next.seats.cell id).map SwaylockSeat.repeatView =
      (state.seats.cell id).map SwaylockSeat.repeatView) : RepeatGuard spare next since where
  timed := timed
  owned timer id kept armed := by
    obtain ⟨seat, present, own⟩ := guard.owned timer id kept (repeats timer id armed)
    have view := seats id
    rw [present, Option.map_some, Option.map_eq_some_iff] at view
    obtain ⟨new, there, same⟩ := view
    exact ⟨new, there, (congrArg (fun view => view.2.2) same).trans own⟩
  held id seat present set_ := by
    have view := seats id
    rw [present, Option.map_some] at view
    obtain ⟨old, there, same⟩ := Option.map_eq_some_iff.mp view.symm
    obtain ⟨keyboard, period, timer⟩ : old.keyboard = seat.keyboard ∧
        old.repeatPeriodMs = seat.repeatPeriodMs ∧ old.repeatTimer = seat.repeatTimer := by
      simpa [SwaylockSeat.repeatView] using same
    rw [keymap, ← keyboard, ← period]
    exact guard.held id old there (timer ▸ set_)

theorem background (guard : RepeatGuard spare state since) (quiet : Background state next) :
    RepeatGuard spare next since :=
  guard.others (quiet.scene.timed guard.timed) (quiet.scene.repeats guard.timed) quiet.keymap
    fun id => by rw [quiet.seats]

theorem noted (guard : RepeatGuard spare state since) (before : SwaylockState) {occurrence : Occurrence}
    (lasting : ∀ id seat, state.seats.cell id = some seat → seat.repeatTimer.isSome = true →
      occurrence.event.endsRepeat id = false) : RepeatGuard spare state (sinceArmed since before occurrence) where
  timed := guard.timed
  owned := guard.owned
  held id seat present set_ := by
    obtain ⟨keyboard, loaded, period, events, here, kept⟩ := guard.held id seat present set_
    refine ⟨keyboard, loaded, period, ?_⟩
    unfold sinceArmed
    split
    · exact ⟨[], rfl, fun _ member => (nomatch member)⟩
    · refine ⟨events ++ [occurrence.event], by rw [here, Option.map_some], fun event member => ?_⟩
      rcases List.mem_append.mp member with old | new
      · exact kept event old
      · rw [List.mem_singleton.mp new]
        exact lasting id seat present set_

theorem setSeat (guard : RepeatGuard spare state since) (id : SeatId) {change : SwaylockSeat → SwaylockSeat}
    (timer : ∀ seat, (change seat).repeatTimer = seat.repeatTimer)
    (usable : ∀ seat, state.seats.cell id = some seat → seat.repeatTimer.isSome = true →
      seat.keyboard = true → 0 < seat.repeatPeriodMs →
      (change seat).keyboard = true ∧ 0 < (change seat).repeatPeriodMs) :
    RepeatGuard spare (state.setSeat id change) since where
  timed := guard.timed
  owned armedTimer target kept armed := by
    obtain ⟨seat, present, own⟩ := guard.owned armedTimer target kept armed
    by_cases same : target = id
    · refine ⟨change seat, ?_, (timer seat).trans own⟩
      change (state.seats.modify id change).cell target = _
      rw [same, Heap.cell_modify_self, ← same, present, Option.map_some]
    · exact ⟨seat, (Heap.cell_modify_other _ _ same).trans present, own⟩
  held target seat present set_ := by
    obtain ⟨old, there, ⟨same, rfl⟩ | ⟨_, rfl⟩⟩ := Heap.old_of_modify state.seats present
    · rw [timer] at set_
      obtain ⟨keyboard, loaded, period, notes⟩ := guard.held target old there set_
      obtain ⟨keyboard', period'⟩ := usable old (same ▸ there) set_ keyboard period
      exact ⟨keyboard', loaded, period', notes⟩
    · exact guard.held target _ there set_

theorem stopSeat (guard : RepeatGuard spare state since) {id : SeatId} {seat : SwaylockSeat}
    (present : state.seats.cell id = some seat) : RepeatGuard spare (state.stopSeat id seat.repeatTimer) since := by
  have removed : RepeatGuard spare (state.removeTimer? seat.repeatTimer) since := guard.background (.removeTimer? state _)
  have seats : (state.removeTimer? seat.repeatTimer).seats = state.seats :=
    (Background.removeTimer? state seat.repeatTimer).seats
  refine ⟨removed.timed, fun timer target kept armed => ?_, fun target record found set_ => ?_⟩
  · obtain ⟨owner, there, own⟩ := removed.owned timer target kept armed
    have apart : target ≠ id := by
      rintro rfl
      rw [seats, present] at there
      cases there
      -- The loop has just marked this timer removed.
      have gone : (state.scene.eventloop.removeTimer timer).Armed timer (.keyboardRepeat target) := by
        unfold SwaylockState.stopSeat SwaylockState.removeTimer? at armed
        rw [own] at armed
        exact armed
      exact (Loop.Armed.of_removeTimer guard.timed gone).2 rfl
    exact ⟨owner, (Heap.cell_modify_other _ _ apart).trans there, own⟩
  · obtain ⟨old, there, ⟨_, rfl⟩ | ⟨_, rfl⟩⟩ := Heap.old_of_modify _ found
    · cases set_
    · exact removed.held target _ there set_

theorem stopSeat_apart {id target : SeatId} {timer : Option TimerId} {seat : SwaylockSeat}
    (present : (state.stopSeat id timer).seats.cell target = some seat) (set_ : seat.repeatTimer.isSome = true) :
    target ≠ id := by
  obtain ⟨old, _, ⟨_, rfl⟩ | ⟨apart, _⟩⟩ := Heap.old_of_modify _ present
  · cases set_
  · exact apart

theorem stopSeat_unarmed (guard : RepeatGuard none state since) {id : SeatId} {seat : SwaylockSeat}
    (present : state.seats.cell id = some seat) (timer : TimerId) :
    ¬ (state.stopSeat id seat.repeatTimer).scene.eventloop.Armed timer (.keyboardRepeat id) := by
  intro armed
  obtain ⟨owner, there, own⟩ := (guard.stopSeat present).owned timer id nofun armed
  exact stopSeat_apart there (by rw [own]; rfl) rfl

theorem armSeat (guard : RepeatGuard spare state since) {id : SeatId} {ms : Int}
    {change : SwaylockSeat → SwaylockSeat} {seat : SwaylockSeat} (present : state.seats.cell id = some seat)
    (alone : ∀ timer, state.scene.eventloop.Armed timer (.keyboardRepeat id) → some timer = spare)
    (loaded : state.xkb.state = true) (keyboard : (change seat).keyboard = true)
    (period : 0 < (change seat).repeatPeriodMs)
    (notes : ∃ events, since id = some events ∧ ∀ event ∈ events, event.endsRepeat id = false) :
    RepeatGuard spare (state.armSeat id ms change) since := by
  refine ⟨guard.timed.addTimer _ _ _, fun timer target kept armed => ?_, fun target record found set_ => ?_⟩
  · rcases (Loop.armed_addTimer state.scene.clock ms _).mp armed with ⟨rfl, same⟩ | old
    · cases same
      refine ⟨{ change seat with repeatTimer := some state.scene.eventloop.nextTimer }, ?_, rfl⟩
      change (state.seats.modify id _).cell id = _
      rw [Heap.cell_modify_self, present, Option.map_some]
    · have apart : target ≠ id := by
        rintro rfl
        exact kept (alone timer old)
      obtain ⟨owner, found, own⟩ := guard.owned timer target kept old
      exact ⟨owner, (Heap.cell_modify_other _ _ apart).trans found, own⟩
  · obtain ⟨old, there, ⟨same, rfl⟩ | ⟨_, rfl⟩⟩ := Heap.old_of_modify state.seats found
    · rw [same, present] at there
      cases there
      exact ⟨keyboard, loaded, period, same ▸ notes⟩
    · exact guard.held target _ there set_

theorem spared (guard : RepeatGuard none state since) (timer : TimerId) : RepeatGuard (some timer) state since where
  timed := guard.timed
  owned other id _ := guard.owned other id nofun
  held := guard.held

theorem freed {timer : TimerId} (guard : RepeatGuard (some timer) state since) :
    RepeatGuard none (freeTimer state timer) since where
  timed := guard.timed.filter _
  owned other id _ armed := by
    obtain ⟨old, apart⟩ := armed.of_freeTimer
    exact guard.owned other id (fun same => apart (Option.some.inj same)) old
  held := guard.held

theorem sameTimers (guard : RepeatGuard spare state since)
    (timers : next.scene.eventloop.timers = state.scene.eventloop.timers)
    (names : next.scene.eventloop.nextTimer = state.scene.eventloop.nextTimer)
    (keymap : next.xkb.state = state.xkb.state)
    (seats : ∀ id, (next.seats.cell id).map SwaylockSeat.repeatView =
      (state.seats.cell id).map SwaylockSeat.repeatView) : RepeatGuard spare next since := by
  refine guard.others ⟨?_, ?_⟩ (fun timer id armed => ?_) keymap seats
  · rw [timers, names]
    exact guard.timed.below
  · rw [timers]
    exact guard.timed.nodup
  · rw [Loop.Armed, timers] at armed
    exact armed

theorem startGrace (guard : RepeatGuard spare state since) (watcher : Option (Int × Int)) :
    RepeatGuard spare (startGracePeriod state watcher) since := by
  unfold startGracePeriod
  split
  · split
    · exact guard.sameTimers rfl rfl rfl fun _ => rfl
    · have armed : RepeatGuard spare (state.addTimer (graceDelay state.scene.args.graceTime) .graceTimeout).1 since :=
        guard.background ⟨.addTimer state.scene _ nofun, rfl, rfl, rfl, rfl, rfl⟩
      exact armed.sameTimers rfl rfl rfl fun _ => rfl
  · exact guard.sameTimers rfl rfl rfl fun _ => rfl

theorem sleepIn (guard : RepeatGuard spare state since) : RepeatGuard spare (sleepIn state) since := by
  unfold SwaylockPlugin.sleepIn
  dsimp only
  split
  · exact guard.sameTimers rfl rfl rfl fun _ => rfl
  · rename_i timer _
    have removed := guard.background (.removeTimer? state (some timer))
    exact removed.sameTimers rfl rfl rfl fun _ => rfl

theorem seatAdded (guard : RepeatGuard spare state since) :
    RepeatGuard spare { state with seats := state.seats.alloc .allocated } since where
  timed := guard.timed
  owned timer id kept armed := by
    obtain ⟨seat, present, own⟩ := guard.owned timer id kept armed
    exact ⟨seat, Heap.cell_alloc_of_live _ _ present, own⟩
  held id seat present set_ := by
    change (state.seats.alloc .allocated).cell id = some seat at present
    rw [Heap.cell_alloc] at present
    split at present
    · cases present
      cases set_
    · exact guard.held id seat present set_

theorem keymap (guard : RepeatGuard spare state since) {loaded : Bool}
    (rests : loaded = true ∨ ∀ id seat, state.seats.cell id = some seat → seat.repeatTimer = none) :
    RepeatGuard spare (keyboardKeymap state loaded) since where
  timed := guard.timed
  owned := guard.owned
  held id seat present set_ := by
    obtain ⟨keyboard, _, period, notes⟩ := guard.held id seat present set_
    rcases rests with loaded | rests
    · exact ⟨keyboard, loaded, period, notes⟩
    · rw [rests id seat present] at set_
      cases set_

theorem step (guard : RepeatGuard none state since) {occurrence : Occurrence}
    (device : DeviceStep state occurrence.event next) (meets : changedAtRest state occurrence = true) :
    RepeatGuard none next (sinceArmed since state occurrence) := by
  obtain ⟨event, env⟩ := occurrence
  have noted (lasting : ∀ id, event.endsRepeat id = false) : RepeatGuard none state (sinceArmed since state ⟨event, env⟩) :=
    guard.noted state fun id _ _ _ => lasting id
  have resting {id : SeatId} {seat : SwaylockSeat} (rests : state.repeats id = false)
      (present : state.seats.cell id = some seat) : seat.repeatTimer = none := by
    simpa [SwaylockState.repeats, SwaylockState.seatIs, present] using rests
  cases device with
  | background other quiet =>
      have lasting (id : SeatId) : event.endsRepeat id = false := by
        cases event with
        | keymap | key | keyboardLeave | seatCapabilities | repeatInfo => cases other
        | _ => rfl
      exact (noted lasting).background quiet
  | @graceOver _ middle _ other _ before phase after =>
      have lasting (id : SeatId) : event.endsRepeat id = false := by
        cases event with
        | keymap | key | keyboardLeave | seatCapabilities | repeatInfo => cases other
        | _ => rfl
      have elapsed : RepeatGuard none (graceTimeout middle) (sinceArmed since state ⟨event, env⟩) :=
        ((noted lasting).background before).sameTimers rfl rfl rfl fun _ => rfl
      exact elapsed.background after
  | sleepNotice => exact (noted fun _ => rfl).sleepIn
  | startGrace watcher due fresh => exact (noted fun _ => rfl).startGrace watcher
  | start due runs quiet =>
      have begun : RepeatGuard none (addDescriptors { state with sleepCommR := -1, sleepCommW := -1 }) _ :=
        (noted fun _ => rfl).sameTimers rfl rfl rfl fun _ => rfl
      exact begun.background quiet
  | sweep polling =>
      have same := noted fun _ => rfl
      have swept : RepeatGuard none { state with
          scene := { state.scene with eventloop := state.scene.eventloop.sweep } } _ :=
        same.others ⟨(same.timed.filter _).below, (same.timed.filter _).nodup⟩
          (fun _ _ armed => Loop.Armed.of_sweep armed) rfl fun _ => rfl
      exact swept.sameTimers rfl rfl rfl fun _ => rfl
  | seatAdded => exact (noted fun _ => rfl).seatAdded
  | seatCapabilities id pointer keyboard =>
      have rests : keyboard = true ∨ state.repeats id = false := by simpa [changedAtRest] using meets
      refine RepeatGuard.setSeat (guard.noted state fun target seat present set_ => ?_) id (fun _ => rfl)
        fun seat present set_ _ period => ⟨?_, period⟩
      · rcases rests with rfl | rests
        · exact Bool.and_false _
        · by_cases same : id = target
          · rw [resting rests (same ▸ present)] at set_
            cases set_
          · simp [Event.endsRepeat, same]
      · rcases rests with keyboard | rests
        · exact keyboard
        · rw [resting rests present] at set_
          cases set_
  | keymap loaded =>
      have rests : loaded = true ∨ ∀ id seat, state.seats.cell id = some seat → seat.repeatTimer = none := by
        rcases (show loaded = true ∨ ∀ id < state.seats.next, state.repeats id = false by
          simpa [changedAtRest] using meets) with loaded | rests
        · exact .inl loaded
        · exact .inr fun id seat present => resting (rests id (state.seats.live_below present)) present
      refine RepeatGuard.keymap (guard.noted state fun id seat present set_ => ?_) rests
      rcases rests with rfl | rests
      · rfl
      · rw [rests id seat present] at set_
        cases set_
  | keyIgnored ignored quiet =>
      refine RepeatGuard.background (guard.noted state fun id seat present set_ => ?_) quiet
      rcases ignored with unloaded | rfl
      · have loaded := (guard.held id seat present set_).2.1
        rw [unloaded] at loaded
        cases loaded
      · exact Bool.and_false _
  | @keyStopped id pressed _ _ _ handled seat quiet present =>
      have stopped := (guard.background quiet).stopSeat (quiet.seats ▸ present)
      refine stopped.noted state fun target record found set_ => ?_
      have apart := stopSeat_apart found set_
      simp [Event.endsRepeat, apart.symm]
  | @keyArmed id sym codepoint result handled seat loaded has quiet present repeats late =>
      have there : handled.seats.cell id = some seat := quiet.seats ▸ present
      have before := guard.background quiet
      have stopped : RepeatGuard none (handled.stopSeat id seat.repeatTimer)
          (sinceArmed since state ⟨.key id true sym codepoint result, env⟩) :=
        (before.stopSeat there).noted state fun target _ _ _ => Bool.and_false (id == target)
      have empty : armsRepeat state id (.key id true sym codepoint result) = true := by
        simp [armsRepeat, loaded, late, SwaylockState.seatIs, present, repeats]
      have rests : (handled.stopSeat id seat.repeatTimer).seats.cell id = some { seat with repeatTimer := none } := by
        change (handled.seats.modify id _).cell id = _
        rw [Heap.cell_modify_self, there, Option.map_some]
      refine stopped.armSeat rests (fun timer armed => ?_) ?_ has repeats
        ⟨[], if_pos empty, fun _ member => (by cases member)⟩
      · exact absurd armed (before.stopSeat_unarmed there timer)
      · exact quiet.keymap.trans loaded
  | @keyboardLeave id seat present =>
      have stopped := guard.stopSeat present
      refine stopped.noted state fun target record found set_ => ?_
      have apart := stopSeat_apart found set_
      simp [Event.endsRepeat, apart.symm]
  | repeatInfo id rate delay =>
      have rests : (0 < rate ∧ rate ≤ 1000) ∨ state.repeats id = false := by simpa [changedAtRest] using meets
      refine RepeatGuard.setSeat (guard.noted state fun target seat present set_ => ?_) id (fun _ => rfl)
        fun seat present set_ keyboard _ => ⟨keyboard, ?_⟩
      · rcases rests with ⟨positive, _⟩ | rests
        · simp [Event.endsRepeat, positive]
        · by_cases same : id = target
          · rw [resting rests (same ▸ present)] at set_
            cases set_
          · simp [Event.endsRepeat, same]
      · rcases rests with ⟨positive, small⟩ | rests
        · rw [if_neg (by omega)]
          exact (Int.le_ediv_iff_mul_le positive).mpr (by omega)
        · rw [resting rests present] at set_
          cases set_
  | @repeated timer _ id seat middle due present quiet =>
      have same := noted fun _ => rfl
      have own (other : TimerId) (armed : state.scene.eventloop.Armed other (.keyboardRepeat id)) :
          seat.repeatTimer = some other := by
        obtain ⟨record, there, own⟩ := guard.owned other id (Option.some_ne_none other) armed
        cases present.symm.trans there
        exact own
      have mine := own timer (Loop.armed_of_due due)
      obtain ⟨keyboard, loaded, period, notes⟩ := same.held id seat present (by rw [mine]; rfl)
      have armed : RepeatGuard (some timer) (state.armSeat id seat.repeatPeriodMs fun seat => seat) _ :=
        (same.spared timer).armSeat present (fun other armed => (own other armed).symm.trans mine) loaded keyboard
          period notes
      exact (armed.background quiet).freed
  | pointerEnter entered =>
      have same := wlPointerEnter_ok entered
      refine (noted fun _ => rfl).sameTimers ?_ ?_ ?_ (wlPointerEnter_repeatView state _ _ _ _ entered)
      all_goals rw [same]
  | pointerMotion moved =>
      have same := wlPointerMotion_ok moved
      refine (noted fun _ => rfl).sameTimers ?_ ?_ ?_ (wlPointerMotion_repeatView state _ _ _ _ moved)
      all_goals rw [same]

/-- The guard holds in every run in which the keyboard changes only while no key is repeated. -/
theorem of_reachable (reachable : ((swaylock.machine.guarded changedAtRest).observed (fun _ => none) sinceArmed).Reachable
    (state, since)) : RepeatGuard none state since := by
  refine reachable.invariant (fun pair => RepeatGuard none pair.1 pair.2) ?_ ?_
  · rintro ⟨state, since⟩ ⟨start, rfl⟩
    have loop : state.scene.eventloop = .create := start.eventloop.1
    have seats : state.seats = .empty := start.keyboard.2
    refine ⟨loop ▸ Loop.create_wellTimed, fun timer id _ armed => ?_, fun id seat present => ?_⟩
    · obtain ⟨_, member, _⟩ := loop ▸ armed
      cases member
    · rw [seats] at present
      cases present
  · rintro ⟨state, since⟩ occurrence ⟨next, _⟩ guard ⟨⟨moved, meets⟩, rfl⟩
    exact guard.step (deviceStep_of_step moved) meets

end RepeatGuard

/-- A key is repeated only while its keyboard and keymap are there and nothing has ended the repeat since the press. -/
theorem repeat_since_press {state : SwaylockState} {since : SeatId → Option (List Event)}
    (reachable : ((swaylock.machine.guarded changedAtRest).observed (fun _ => none) sinceArmed).Reachable
      (state, since)) :
    (∀ id seat, state.seats.cell id = some seat → seat.repeatTimer.isSome = true →
      seat.keyboard = true ∧ state.xkb.state = true ∧ 0 < seat.repeatPeriodMs ∧
        ∃ events, since id = some events ∧ ∀ event ∈ events, event.endsRepeat id = false) ∧
    ∀ timer id, state.scene.eventloop.due state.scene.clock timer = some (.keyboardRepeat id) →
      ∃ seat, state.seats.cell id = some seat ∧ seat.repeatTimer = some timer := by
  have guard := RepeatGuard.of_reachable reachable
  exact ⟨guard.held, fun timer id due => guard.owned timer id nofun (Loop.armed_of_due due)⟩

/-- A user holds a key on a keyboard with a repeat rate. -/
def holdingEvents : List Event :=
  [.start, .check true, .seatAdded, .seatCapabilities 0 true true, .keymap true, .repeatInfo 0 25 600,
    .key 0 true 0x61 0x61 ⟨0, true⟩]

/-- A held key is repeated with a keyboard and a keymap. -/
theorem repeat_since_press_held : ∃ state : SwaylockState,
    state.repeats 0 = true ∧ state.xkb.state = true := by
  obtain ⟨⟨state, since⟩, reachable, passed⟩ := (swaylock.guarded changedAtRest).play_observed (fun _ => none)
    sinceArmed (holdingEvents.map Event.obliged) (fun pair => pair.1.repeats 0) (startState_initial _ _ _)
    (by decide +kernel : (((swaylock.guarded _).observed _ _).play (defaultState, _) _).any _ = true)
  rw [Program.guarded_machine] at reachable
  obtain ⟨seat, present, set_⟩ := (Option.any_eq_true _ _).mp passed
  exact ⟨state, passed, ((repeat_since_press reachable).1 0 seat present set_).2.1⟩

/-- A seat whose keyboard is withdrawn goes on repeating the key that was held. -/
theorem repeat_outlives_keyboard : ¬ ∀ (state : SwaylockState) (since : SeatId → Option (List Event)),
    (swaylock.machine.observed (fun _ => none) sinceArmed).Reachable (state, since) →
    ∀ id seat, state.seats.cell id = some seat → seat.repeatTimer.isSome = true → seat.keyboard = true := by
  intro claim
  obtain ⟨⟨state, since⟩, reachable, passed⟩ := swaylock.play_observed (fun _ => none) sinceArmed
    ((holdingEvents ++ [Event.seatCapabilities 0 true false]).map Event.obliged)
    (fun pair => pair.1.seatIs 0 fun seat => seat.repeatTimer.isSome && !seat.keyboard) (startState_initial _ _ _)
    (by decide +kernel : ((swaylock.observed _ _).play (defaultState, _) _).any _ = true)
  obtain ⟨seat, present, holds⟩ := (Option.any_eq_true _ _).mp passed
  rw [Bool.and_eq_true] at holds
  have keyboard := claim state since reachable 0 seat present holds.1
  rw [keyboard] at holds
  exact absurd holds.2 Bool.false_ne_true

end SwaylockPlugin
