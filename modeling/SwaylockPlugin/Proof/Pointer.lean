import SwaylockPlugin.Proof.Unlock
import Mathlib.Data.Int.Order.Lemmas
import Mathlib.Algebra.Order.Field.Rat
import Mathlib.Tactic.Ring

namespace SwaylockPlugin

open Library

/-- A position is one that the compositor reported, in 256ths of a pixel. -/
abbrev Position := WlFixed × WlFixed

/-- The observer notes where a pointer was reported since it entered its surface, whether it entered during the
grace period, and in which second it first moved during it. -/
structure PointerNote where
  reported : List Position
  entered : Bool
  firstMotion : Option Int

/-- A pointer that never entered was not reported. -/
def PointerNote.blank : PointerNote := ⟨[], false, none⟩

/-- A pointer that enters a surface is reported there for the first time. -/
def PointerNote.enter (grace : Bool) (position : Position) : PointerNote := ⟨[position], grace, none⟩

/-- A pointer that moves is reported once more. -/
def PointerNote.move (note : PointerNote) (grace : Bool) (second : Int) (position : Position) : PointerNote where
  reported := note.reported ++ [position]
  entered := note.entered
  firstMotion := if grace then note.firstMotion <|> some second else note.firstMotion

/-- The observer keeps one note for each seat. -/
def pointerNote (notes : SeatId → PointerNote) (state : SwaylockState) (occurrence : Occurrence) :
    SeatId → PointerNote :=
  match occurrence.event with
  | .pointerEnter seat x y => Function.update notes seat (.enter state.graceTimer.isSome (x, y))
  | .pointerMotion seat x y =>
      Function.update notes seat
        ((notes seat).move state.graceTimer.isSome state.scene.clock.tvSec (x, y))
  | _ => notes

/-- The square of the exact distance between two positions in pixels. -/
def squaredDistance (first second : Position) : Rat :=
  let dx : Rat := ((second.1.toInt - first.1.toInt : Int) : Rat) / 256
  let dy : Rat := ((second.2.toInt - first.2.toInt : Int) : Rat) / 256
  dx * dx + dy * dy

/-- A motion during the grace period follows an enter during it or a motion during it in another second. -/
def measurable (state : SwaylockState) (notes : SeatId → PointerNote) (event : Event) : Bool :=
  match event with
  | .pointerMotion seat _ _ =>
      state.graceTimer.isNone || (notes seat).entered ||
        (notes seat).firstMotion.any fun second => second != state.scene.clock.tvSec
  | _ => true

/-- A motion that ends the lock leads far away from a position that was reported earlier on the same surface. -/
def MovedFromReported (state : SwaylockState) (notes : SeatId → PointerNote) (event : Event)
    (next : SwaylockState) : Prop :=
  ∀ seat x y, event = .pointerMotion seat x y → state.runDisplay = true → next.runDisplay = false →
    ∃ earlier ∈ (notes seat).reported,
      state.scene.args.gracePointerHysteresis * state.scene.args.gracePointerHysteresis ≤
        squaredDistance earlier (x, y)

section Distance

theorem wrapped_square (first second : WlFixed) :
    (second - first).toInt * (second - first).toInt ≤
      (second.toInt - first.toInt) * (second.toInt - first.toInt) := by
  apply Int.natAbs_le_iff_mul_self_le.mp
  rw [Int32.toInt_sub, Int.bmod_def]
  omega

theorem squaredDistance_ge (first second : Position) :
    wlFixedToDouble (second.1 - first.1) * wlFixedToDouble (second.1 - first.1) +
        wlFixedToDouble (second.2 - first.2) * wlFixedToDouble (second.2 - first.2) ≤
      squaredDistance first second := by
  have square (value : Int) : (value : Rat) / 256 * ((value : Rat) / 256) = ((value * value : Int) : Rat) / 65536 := by
    rw [Rat.intCast_mul]
    ring
  have each (first second : WlFixed) :
      (((second - first).toInt * (second - first).toInt : Int) : Rat) / 65536 ≤
        (((second.toInt - first.toInt) * (second.toInt - first.toInt) : Int) : Rat) / 65536 := by
    apply div_le_div_of_nonneg_right
    · exact Rat.intCast_le_intCast.mpr (wrapped_square first second)
    · decide
  unfold squaredDistance wlFixedToDouble
  dsimp only
  rw [square, square, square, square]
  exact add_le_add (each first.1 second.1) (each first.2 second.2)

end Distance

/-- The seat's reference is a reported position when its pointer entered or moved during the grace period. -/
structure SeatNoted (seat : SwaylockSeat) (note : PointerNote) : Prop where
  entered : note.entered = true → (seat.intervalStartX, seat.intervalStartY) ∈ note.reported
  last : note.entered = true ∨ note.firstMotion.isSome = true →
    (seat.lastMouseX, seat.lastMouseY) ∈ note.reported
  moved : ∀ second, note.firstMotion = some second →
    seat.lastInterval = second ∨ (seat.intervalStartX, seat.intervalStartY) ∈ note.reported

theorem SeatNoted.idle (seat : SwaylockSeat) {note : PointerNote} (entered : note.entered = false)
    (moved : note.firstMotion = none) : SeatNoted seat note where
  entered enters := by
    rw [entered] at enters
    cases enters
  last either := by
    rw [entered, moved] at either
    rcases either with enters | moves
    · cases enters
    · cases moves
  moved second moves := by
    rw [moved] at moves
    cases moves

/-- The pointer of a seat is the part that the grace period reads. -/
def SwaylockSeat.pointerView (seat : SwaylockSeat) : Int × Position × Position :=
  (seat.lastInterval, (seat.intervalStartX, seat.intervalStartY), (seat.lastMouseX, seat.lastMouseY))

theorem SeatNoted.keep {old seat : SwaylockSeat} {note : PointerNote} (noted : SeatNoted old note)
    (same : seat.pointerView = old.pointerView) : SeatNoted seat note := by
  obtain ⟨interval, start, last⟩ : seat.lastInterval = old.lastInterval ∧
      (seat.intervalStartX, seat.intervalStartY) = (old.intervalStartX, old.intervalStartY) ∧
      (seat.lastMouseX, seat.lastMouseY) = (old.lastMouseX, old.lastMouseY) := by
    simpa [SwaylockSeat.pointerView] using same
  refine ⟨fun enters => ?_, fun either => ?_, fun second moves => ?_⟩
  · rw [start]
    exact noted.entered enters
  · rw [last]
    exact noted.last either
  · rw [interval, start]
    exact noted.moved second moves

theorem SeatNoted.enter (seat : SwaylockSeat) (now : Int) (x y : WlFixed) :
    SeatNoted { seat with
      lastInterval := now
      intervalStartX := x
      intervalStartY := y
      lastMouseX := x
      lastMouseY := y } (.enter true (x, y)) :=
  ⟨fun _ => List.mem_singleton_self _, fun _ => List.mem_singleton_self _, fun _ moves => (nomatch moves)⟩

/-- A pointer that moves during the grace period is measured from where it was reported, once it is measurable. -/
theorem SeatNoted.reference {seat : SwaylockSeat} {note : PointerNote} (noted : SeatNoted seat note) {now : Int}
    (settled : note.entered = true ∨ ∃ second, note.firstMotion = some second ∧ second ≠ now) :
    ((startInterval seat now).intervalStartX, (startInterval seat now).intervalStartY) ∈ note.reported := by
  unfold startInterval
  split
  · rename_i same
    rcases settled with enters | ⟨second, moves, other⟩
    · exact noted.entered enters
    · rcases noted.moved second moves with first | later
      · exact absurd (same.trans first).symm other
      · exact later
  · apply noted.last
    rcases settled with enters | ⟨second, moves, _⟩
    · exact .inl enters
    · exact .inr (by rw [moves]; rfl)

theorem SeatNoted.move {seat : SwaylockSeat} {note : PointerNote} (noted : SeatNoted seat note) (now : Int)
    (x y : WlFixed) :
    SeatNoted { startInterval seat now with lastMouseX := x, lastMouseY := y } (note.move true now (x, y)) where
  entered enters := List.mem_append_left _ (noted.reference (.inl enters))
  last _ := List.mem_append_right _ (List.mem_singleton_self _)
  moved second moves := by
    have current : (startInterval seat now).lastInterval = now := by
      unfold startInterval
      split
      · rename_i same
        exact same.symm
      · rfl
    change (note.firstMotion <|> some now) = some second at moves
    by_cases same : second = now
    · exact .inl (current.trans same.symm)
    · cases first : note.firstMotion with
      | none =>
          rw [first] at moves
          exact absurd (Option.some.inj moves).symm same
      | some earlier =>
          rw [first] at moves
          cases moves
          exact .inr (List.mem_append_left _ (noted.reference (.inr ⟨second, first, same⟩)))

/-- The notes of a run are sound while the grace period lasts, idle before it, and blank for seats to come. -/
structure PointerGuard (state : SwaylockState) (notes : SeatId → PointerNote) : Prop where
  early : state.phase.pastGrace = false → ∀ seat, (notes seat).entered = false ∧ (notes seat).firstMotion = none
  absent : ∀ seat, state.seats.next ≤ seat → notes seat = .blank
  seats : state.graceTimer.isSome = true → ∀ id seat, state.seats.cell id = some seat → SeatNoted seat (notes id)

/-- The pointers of all seats stay where they are. -/
def SamePointers (first second : Heap SwaylockSeat) : Prop :=
  second.next = first.next ∧
    ∀ id, (second.cell id).map SwaylockSeat.pointerView = (first.cell id).map SwaylockSeat.pointerView

namespace SamePointers

variable {first second third : Heap SwaylockSeat}

theorem of_eq (same : second = first) : SamePointers first second := by
  rw [same]
  exact ⟨rfl, fun _ => rfl⟩

theorem trans (one : SamePointers first second) (two : SamePointers second third) : SamePointers first third :=
  ⟨two.1.trans one.1, fun id => (two.2 id).trans (one.2 id)⟩

theorem modify (seats : Heap SwaylockSeat) (id : SeatId) (change : SwaylockSeat → SwaylockSeat)
    (kept : ∀ seat, (change seat).pointerView = seat.pointerView) : SamePointers seats (seats.modify id change) :=
  ⟨rfl, seats.view_modify id change _ fun seat _ => kept seat⟩

end SamePointers

theorem DeviceStep.pointers {state next : SwaylockState} {event : Event} (step : DeviceStep state event next) :
    event = .seatAdded ∧ next.seats = state.seats.alloc .allocated ∨
    (∃ seat x y, event = .pointerEnter seat x y ∧ wlPointerEnter state seat x y = .ok next) ∨
    (∃ seat x y, event = .pointerMotion seat x y ∧ wlPointerMotion state seat x y = .ok next) ∨
    (∀ seat x y, event ≠ .pointerEnter seat x y ∧ event ≠ .pointerMotion seat x y) ∧
      SamePointers state.seats next.seats := by
  have device (other : event.direct = false) (seat : SeatId) (x y : WlFixed) :
      event ≠ .pointerEnter seat x y ∧ event ≠ .pointerMotion seat x y := by
    constructor <;> (rintro rfl; cases other)
  have kept {next : SwaylockState} (still : ∀ seat x y, event ≠ .pointerEnter seat x y ∧ event ≠ .pointerMotion seat x y)
      (same : SamePointers state.seats next.seats) :
      event = .seatAdded ∧ next.seats = state.seats.alloc .allocated ∨
      (∃ seat x y, event = .pointerEnter seat x y ∧ wlPointerEnter state seat x y = .ok next) ∨
      (∃ seat x y, event = .pointerMotion seat x y ∧ wlPointerMotion state seat x y = .ok next) ∨
      (∀ seat x y, event ≠ .pointerEnter seat x y ∧ event ≠ .pointerMotion seat x y) ∧
        SamePointers state.seats next.seats :=
    .inr (.inr (.inr ⟨still, same⟩))
  cases step with
  | background other quiet => exact kept (device other) (.of_eq quiet.seats)
  | graceOver other _ before _ after => exact kept (device other) (.of_eq (after.seats.trans before.seats))
  | sleepNotice =>
      refine kept (fun _ _ _ => ⟨nofun, nofun⟩) (.of_eq ?_)
      unfold sleepIn
      cases state.graceTimer <;> rfl
  | startGrace watcher =>
      refine kept (fun _ _ _ => ⟨nofun, nofun⟩) (.of_eq ?_)
      unfold startGracePeriod
      split
      · cases watcher <;> rfl
      · rfl
  | start _ _ quiet => exact kept (fun _ _ _ => ⟨nofun, nofun⟩) (.of_eq quiet.seats)
  | sweep => exact kept (fun _ _ _ => ⟨nofun, nofun⟩) (.of_eq rfl)
  | seatAdded => exact .inl ⟨rfl, rfl⟩
  | seatCapabilities id => exact kept (fun _ _ _ => ⟨nofun, nofun⟩) (.modify state.seats id _ fun _ => rfl)
  | keymap => exact kept (fun _ _ _ => ⟨nofun, nofun⟩) (.of_eq rfl)
  | keyIgnored _ quiet => exact kept (fun _ _ _ => ⟨nofun, nofun⟩) (.of_eq quiet.seats)
  | @keyStopped id _ _ _ _ handled _ quiet =>
      refine kept (fun _ _ _ => ⟨nofun, nofun⟩) ((SamePointers.of_eq quiet.seats).trans ?_)
      exact .modify handled.seats id _ fun _ => rfl
  | @keyArmed id _ _ _ handled seat _ _ quiet =>
      refine kept (fun _ _ _ => ⟨nofun, nofun⟩) ((SamePointers.of_eq quiet.seats).trans ?_)
      have stopped : SamePointers handled.seats (handled.stopSeat id seat.repeatTimer).seats :=
        .modify handled.seats id _ fun _ => rfl
      exact stopped.trans (.modify _ id _ fun _ => rfl)
  | @keyboardLeave id => exact kept (fun _ _ _ => ⟨nofun, nofun⟩) (.modify state.seats id _ fun _ => rfl)
  | repeatInfo id => exact kept (fun _ _ _ => ⟨nofun, nofun⟩) (.modify state.seats id _ fun _ => rfl)
  | @repeated _ _ id _ _ _ _ quiet =>
      refine kept (device rfl) (SamePointers.trans ?_ (.of_eq quiet.seats))
      exact .modify state.seats id _ fun _ => rfl
  | pointerEnter entered => exact .inr (.inl ⟨_, _, _, rfl, entered⟩)
  | pointerMotion moved => exact .inr (.inr (.inl ⟨_, _, _, rfl, moved⟩))

namespace PointerGuard

variable {state next : SwaylockState} {notes : SeatId → PointerNote}

theorem early_step (guard : PointerGuard state notes) (grace : GraceGuard state.lockCore) (occurrence : Occurrence)
    (early : state.phase.pastGrace = false) (seat : SeatId) :
    (pointerNote notes state occurrence seat).entered = false ∧
      (pointerNote notes state occurrence seat).firstMotion = none := by
  have idle := guard.early early seat
  have unset : state.graceTimer.isSome = false := by
    by_contra set_
    have past : state.phase.pastGrace = true := grace.past ((Bool.not_eq_false _).mp set_)
    rw [early] at past
    cases past
  obtain ⟨event, env⟩ := occurrence
  cases event with
  | pointerEnter id x y =>
      simp only [pointerNote, unset, Function.update_apply]
      split
      · exact ⟨rfl, rfl⟩
      · exact idle
  | pointerMotion id x y =>
      simp only [pointerNote, unset, Function.update_apply]
      split
      · rename_i same
        exact ⟨same ▸ idle.1, same ▸ idle.2⟩
      · exact idle
  | _ => exact idle

theorem enter_seats {id : SeatId} {x y : WlFixed} (set_ : state.graceTimer.isSome = true) :
    Ensures (wlPointerEnter state id x y) fun next =>
      (∃ seat, state.seats.cell id = some seat) ∧ next.seats = state.seats.modify id fun seat => { seat with
        lastInterval := state.scene.clock.tvSec
        intervalStartX := x
        intervalStartY := y
        lastMouseX := x
        lastMouseY := y } := by
  refine .read fun seat present => ?_
  rw [← Option.not_isSome, set_]
  exact .pure ⟨⟨seat, present⟩, rfl⟩

theorem motion_seats {id : SeatId} {x y : WlFixed} (set_ : state.graceTimer.isSome = true) :
    Ensures (wlPointerMotion state id x y) fun next => ∃ seat, state.seats.cell id = some seat ∧
      (next.seats = state.seats.modify id fun _ =>
        { startInterval seat state.scene.clock.tvSec with lastMouseX := x, lastMouseY := y }) ∧
      (state.runDisplay = true → next.runDisplay = false →
        movedFar state.scene.args (startInterval seat state.scene.clock.tvSec) x y = true) := by
  refine .read fun seat present => ?_
  rw [← Option.not_isSome, set_]
  refine .pure ⟨seat, present, ?_, fun running stopped => ?_⟩
  · split <;> rfl
  · by_contra near
    rw [if_neg near] at stopped
    exact absurd (running.symm.trans stopped) (by decide)

theorem idle_seats {id : SeatId} {x y : WlFixed} (unset : state.graceTimer.isSome = false) :
    Ensures (wlPointerEnter state id x y) (fun next => (∃ seat, state.seats.cell id = some seat) ∧ next = state) ∧
      Ensures (wlPointerMotion state id x y) fun next => (∃ seat, state.seats.cell id = some seat) ∧ next = state := by
  constructor
  · refine .read fun seat present => ?_
    rw [← Option.not_isSome, unset]
    exact .pure ⟨⟨seat, present⟩, rfl⟩
  · refine .read fun seat present => ?_
    rw [← Option.not_isSome, unset]
    exact .pure ⟨⟨seat, present⟩, rfl⟩

theorem notes_still {occurrence : Occurrence} (still : ∀ seat x y, occurrence.event ≠ .pointerEnter seat x y ∧
    occurrence.event ≠ .pointerMotion seat x y) : pointerNote notes state occurrence = notes := by
  obtain ⟨event, env⟩ := occurrence
  cases event with
  | pointerEnter => exact absurd rfl (still _ _ _).1
  | pointerMotion => exact absurd rfl (still _ _ _).2
  | _ => rfl

theorem absent_step {occurrence : Occurrence} (guard : PointerGuard state notes)
    (device : DeviceStep state occurrence.event next) :
    ∀ seat, next.seats.next ≤ seat → pointerNote notes state occurrence seat = .blank := by
  have live {id : SeatId} (there : ∃ seat, state.seats.cell id = some seat) {note : PointerNote}
      {seats : Heap SwaylockSeat} (same : seats.next = state.seats.next) :
      ∀ seat, seats.next ≤ seat → Function.update notes id note seat = .blank := by
    intro seat above
    obtain ⟨record, present⟩ := there
    have below := state.seats.live_below present
    rw [same] at above
    rw [Function.update_of_ne (Nat.ne_of_gt (Nat.lt_of_lt_of_le below above))]
    exact guard.absent seat above
  rcases device.pointers with ⟨added, seats⟩ | ⟨id, x, y, event, entered⟩ | ⟨id, x, y, event, moved⟩ | ⟨still, same⟩
  · intro seat above
    rw [notes_still (by rw [added]; exact fun _ _ _ => ⟨nofun, nofun⟩)]
    rw [seats] at above
    exact guard.absent seat (Nat.le_of_succ_le above)
  · simp only [pointerNote, event]
    cases timer : state.graceTimer.isSome with
    | true =>
        obtain ⟨there, seats⟩ := enter_seats timer next entered
        exact live there (by rw [seats]; rfl)
    | false =>
        obtain ⟨there, rfl⟩ := (idle_seats timer).1 next entered
        exact live there rfl
  · simp only [pointerNote, event]
    cases timer : state.graceTimer.isSome with
    | true =>
        obtain ⟨seat, present, seats, _⟩ := motion_seats timer next moved
        exact live ⟨seat, present⟩ (by rw [seats]; rfl)
    | false =>
        obtain ⟨there, rfl⟩ := (idle_seats timer).2 next moved
        exact live there rfl
  · intro seat above
    rw [notes_still still]
    exact guard.absent seat (same.1 ▸ above)

theorem step {occurrence : Occurrence} (guard : PointerGuard state notes) (grace : GraceGuard state.lockCore)
    (lock : LockStep state occurrence.event next.lockCore) (device : DeviceStep state occurrence.event next) :
    PointerGuard next (pointerNote notes state occurrence) := by
  have early (before : next.phase.pastGrace = false) : state.phase.pastGrace = false := by
    by_contra past
    have later : next.phase.pastGrace = true := lock.pastGrace ((Bool.not_eq_false _).mp past)
    rw [before] at later
    cases later
  have unstarted (set_ : next.graceTimer.isSome = true) (unset : state.graceTimer = none) :
      state.phase.pastGrace = false := by
    by_contra past
    have none_ : next.graceTimer = none := lock.graceTimer unset (.inl fun due => past (by rw [due]; rfl))
    rw [none_] at set_
    cases set_
  have noted (set_ : next.graceTimer.isSome = true) {id : SeatId} {seat : SwaylockSeat}
      (present : state.seats.cell id = some seat) : SeatNoted seat (notes id) := by
    cases timer : state.graceTimer with
    | none =>
        have idle := guard.early (unstarted set_ timer) id
        exact .idle seat idle.1 idle.2
    | some running => exact guard.seats (by rw [timer]; rfl) id seat present
  refine ⟨fun before seat => guard.early_step grace occurrence (early before) seat, guard.absent_step device,
    fun set_ id seat present => ?_⟩
  rcases device.pointers with ⟨added, seats⟩ | ⟨at_, x, y, event, entered⟩ | ⟨at_, x, y, event, moved⟩ | ⟨still, same⟩
  · rw [notes_still (by rw [added]; exact fun _ _ _ => ⟨nofun, nofun⟩)]
    rw [seats, Heap.cell_alloc] at present
    split at present
    · rename_i new
      rw [guard.absent id (Nat.le_of_eq new.symm)]
      exact .idle seat rfl rfl
    · exact noted set_ present
  · have running : state.graceTimer.isSome = true := by
      rw [wlPointerEnter_ok entered] at set_
      exact set_
    obtain ⟨_, seats⟩ := enter_seats running next entered
    simp only [pointerNote, event, running, Function.update_apply]
    rw [seats] at present
    obtain ⟨old, found, ⟨rfl, rfl⟩ | ⟨apart, rfl⟩⟩ := Heap.old_of_modify _ present
    · rw [if_pos rfl]
      exact .enter old state.scene.clock.tvSec x y
    · rw [if_neg apart]
      exact noted set_ found
  · have running : state.graceTimer.isSome = true := by
      rw [wlPointerMotion_ok moved] at set_
      exact set_
    obtain ⟨before, there, seats, _⟩ := motion_seats running next moved
    simp only [pointerNote, event, running, Function.update_apply]
    rw [seats] at present
    obtain ⟨old, found, ⟨rfl, rfl⟩ | ⟨apart, rfl⟩⟩ := Heap.old_of_modify _ present
    · rw [if_pos rfl]
      exact (noted set_ there).move state.scene.clock.tvSec x y
    · rw [if_neg apart]
      exact noted set_ found
  · rw [notes_still still]
    have view := same.2 id
    rw [present, Option.map_some] at view
    obtain ⟨old, found, kept⟩ := Option.map_eq_some_iff.mp view.symm
    exact (noted set_ found).keep kept.symm

theorem of_reachable (reachable : (swaylock.machine.observed (fun _ => .blank) pointerNote).Reachable (state, notes)) :
    PointerGuard state notes := by
  refine reachable.invariant_under (fun pair => GraceGuard pair.1.lockCore)
    (fun pair => PointerGuard pair.1 pair.2) ?_ ?_ ?_
  · exact fun _ before => GraceGuard.of_reachable before.of_observed
  · rintro ⟨state, notes⟩ ⟨start, rfl⟩
    refine ⟨fun _ _ => ⟨rfl, rfl⟩, fun _ _ => rfl, fun set_ => ?_⟩
    rw [show state.graceTimer = none from start.grace] at set_
    cases set_
  · rintro ⟨state, notes⟩ occurrence ⟨next, _⟩ grace guard ⟨moved, rfl⟩
    exact guard.step grace (lockStep_of_step moved) (deviceStep_of_step moved)

end PointerGuard

/-- A motion that ends the lock leads far away from where the pointer was reported, where it is measurable. -/
theorem pointer_unlocks_after_moving {state : SwaylockState} {notes : SeatId → PointerNote}
    (reachable : (swaylock.machine.observed (fun _ => .blank) pointerNote).Reachable (state, notes))
    {occurrence : Occurrence} {next : SwaylockState} (moved : swaylock.machine.step state occurrence next)
    (measured : measurable state notes occurrence.event = true) :
    MovedFromReported state notes occurrence.event next := by
  rintro id x y event running stopped
  have guard := PointerGuard.of_reachable reachable
  have motion : wlPointerMotion state id x y = .ok next := by
    have handled := moved.2
    change handleEvent state occurrence.env occurrence.event = .ok next at handled
    rw [event] at handled
    exact handled
  cases timer : state.graceTimer.isSome with
  | false =>
      obtain ⟨_, rfl⟩ := (PointerGuard.idle_seats timer).2 next motion
      rw [running] at stopped
      cases stopped
  | true =>
      obtain ⟨seat, present, _, far⟩ := PointerGuard.motion_seats timer next motion
      have settled : (notes id).entered = true ∨
          ∃ second, (notes id).firstMotion = some second ∧ second ≠ state.scene.clock.tvSec := by
        simpa [measurable, event, ← Option.not_isSome, timer, Option.any_eq_true] using measured
      refine ⟨_, (guard.seats timer id seat present).reference settled, ?_⟩
      refine le_trans (of_decide_eq_true (far running stopped)) ?_
      exact squaredDistance_ge ((startInterval seat state.scene.clock.tvSec).intervalStartX,
        (startInterval seat state.scene.clock.tvSec).intervalStartY) (x, y)

/-- The pointer enters a surface and moves during the grace period. -/
def pointerEvents : List Event :=
  [.seatAdded, .seatCapabilities 0 true false, .start, .check true, .locked, .sweep, .pollDone, .check true,
    .readiness true, .daemonize true, .startGrace (some (9, 10)), .armHiddenCheck, .check true, .pointerEnter 0 25600 25600]

/-- A pointer that entered at a hundred pixels during the grace period ends the lock twenty pixels further. -/
theorem pointer_unlocks_after_twenty_pixels : ∃ (state next : SwaylockState) (notes : SeatId → PointerNote),
    state.runDisplay = true ∧ next.runDisplay = false ∧
      MovedFromReported state notes (.pointerMotion 0 30720 25600) next := by
  obtain ⟨⟨state, notes⟩, reachable, passed⟩ := swaylock.play_observed (fun _ => .blank) pointerNote
    (pointerEvents.map Event.obliged)
    (fun pair => pair.1.runDisplay && measurable pair.1 pair.2 (.pointerMotion 0 30720 25600) &&
      (swaylock.play pair.1 [Event.obliged (.pointerMotion 0 30720 25600)]).any fun next => !next.runDisplay)
    (startState_initial _ _ _) (by decide +kernel : ((swaylock.observed _ _).play (graceState, _) _).any _ = true)
  simp only [Bool.and_eq_true] at passed
  obtain ⟨⟨running, measured⟩, played⟩ := passed
  obtain ⟨next, path, stopped⟩ := swaylock.play_runs _ _ played
  obtain ⟨_, rest, moved⟩ := Machine.Run.last_step [] path
  cases rest
  exact ⟨state, next, notes, running, by simpa using stopped,
    pointer_unlocks_after_moving reachable moved measured⟩

/-- The pointer enters before the grace period and is reported at the same position during it. -/
def restingEvents : List Event :=
  [.seatAdded, .seatCapabilities 0 true false, .start, .check true, .locked, .pointerEnter 0 25600 25600, .sweep,
    .pollDone, .check true, .readiness true, .daemonize true, .startGrace (some (9, 10)), .armHiddenCheck, .check true]

/-- A pointer that entered before the grace period ends the lock without having moved. -/
theorem pointer_unlocks_at_rest : ¬ ∀ (state : SwaylockState) (notes : SeatId → PointerNote),
    (swaylock.machine.observed (fun _ => .blank) pointerNote).Reachable (state, notes) →
    ∀ occurrence next, swaylock.machine.step state occurrence next →
      MovedFromReported state notes occurrence.event next := by
  intro claim
  obtain ⟨⟨state, notes⟩, reachable, passed⟩ := swaylock.play_observed (fun _ => .blank) pointerNote
    (restingEvents.map Event.obliged)
    (fun pair => pair.1.runDisplay && decide ((pair.2 0).reported = [(25600, 25600)]) &&
      decide (pair.1.scene.args.gracePointerHysteresis = 10) &&
      (swaylock.play pair.1 [Event.obliged (.pointerMotion 0 25600 25600)]).any fun next => !next.runDisplay)
    (startState_initial _ _ _) (by decide +kernel : ((swaylock.observed _ _).play (graceState, _) _).any _ = true)
  simp only [Bool.and_eq_true, decide_eq_true_eq] at passed
  obtain ⟨⟨⟨running, reported⟩, threshold⟩, played⟩ := passed
  obtain ⟨next, path, stopped⟩ := swaylock.play_runs _ _ played
  obtain ⟨_, rest, moved⟩ := Machine.Run.last_step [] path
  cases rest
  obtain ⟨earlier, member, far⟩ := claim state notes reachable _ next moved 0 25600 25600 rfl running
    (by simpa using stopped)
  rw [reported, List.mem_singleton] at member
  rw [member, threshold] at far
  exact absurd far (by decide +kernel)

end SwaylockPlugin
