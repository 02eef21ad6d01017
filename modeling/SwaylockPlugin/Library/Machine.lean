import Mathlib.Logic.Relation

namespace SwaylockPlugin.Library

/-- A machine has initial states and steps that an event selects. -/
structure Machine (State Event : Type) where
  initial : State → Prop
  step : State → Event → State → Prop

namespace Machine

variable {State Event : Type} (machine : Machine State Event)

/-- A run takes one step for each of its events, in order. -/
inductive Run : State → List Event → State → Prop
  | rest (state : State) : Run state [] state
  | step {first second last : State} {event : Event} {events : List Event} :
      machine.step first event second → Run second events last → Run first (event :: events) last

/-- A state is reachable when a run leads to it from an initial state. -/
inductive Reachable : State → Prop
  | initial {state : State} : machine.initial state → Reachable state
  | step {state next : State} {event : Event} :
      Reachable state → machine.step state event next → Reachable next

/-- The restriction keeps the steps that meet a condition on the state before them. -/
def restrict (meets : State → Event → Prop) : Machine State Event where
  initial := machine.initial
  step state event next := machine.step state event next ∧ meets state event

/-- The guarded machine keeps the steps that pass a test of the state before them. -/
abbrev guarded (test : State → Event → Bool) : Machine State Event :=
  machine.restrict fun state event => test state event = true

variable {machine}

/-- What holds at the start and over each step from a reachable state holds in every reachable state. -/
theorem Reachable.invariant (Holds : State → Prop) (start : ∀ state, machine.initial state → Holds state)
    (preserved : ∀ state event next, Holds state → machine.step state event next → Holds next)
    {state : State} (reachable : machine.Reachable state) : Holds state := by
  induction reachable with
  | initial first => exact start _ first
  | step _ moved ih => exact preserved _ _ _ ih moved

theorem Reachable.invariant_under (Known Holds : State → Prop)
    (known : ∀ state, machine.Reachable state → Known state)
    (start : ∀ state, machine.initial state → Holds state)
    (preserved : ∀ state event next, Known state → Holds state → machine.step state event next → Holds next)
    {state : State} (reachable : machine.Reachable state) : Holds state := by
  induction reachable with
  | initial first => exact start _ first
  | step before moved ih => exact preserved _ _ _ (known _ before) ih moved

theorem Reachable.of_restrict {meets : State → Event → Prop} {state : State}
    (reachable : (machine.restrict meets).Reachable state) : machine.Reachable state := by
  induction reachable with
  | initial first => exact .initial first
  | step _ moved ih => exact .step ih moved.1

theorem Reachable.restrict {state : State} (reachable : machine.Reachable state) {meets : State → Event → Prop}
    (every : ∀ state event, meets state event) : (machine.restrict meets).Reachable state := by
  induction reachable with
  | initial first => exact .initial first
  | step _ moved ih => exact .step ih ⟨moved, every _ _⟩

theorem Reachable.run {first last : State} {events : List Event} (reachable : machine.Reachable first)
    (run : machine.Run first events last) : machine.Reachable last := by
  induction run with
  | rest => exact reachable
  | step moved _ ih => exact ih (.step reachable moved)

theorem Run.append {first second third : State} {before after : List Event} (start : machine.Run first before second)
    (rest : machine.Run second after third) : machine.Run first (before ++ after) third := by
  induction start with
  | rest => exact rest
  | step moved _ ih => exact .step moved (ih rest)

theorem Run.single {first second : State} {event : Event} (moved : machine.step first event second) :
    machine.Run first [event] second :=
  .step moved (.rest second)

theorem Run.restrict {first last : State} {events : List Event} (run : machine.Run first events last)
    (meets : State → Event → Prop) (every : ∀ state, ∀ event ∈ events, meets state event) :
    (machine.restrict meets).Run first events last := by
  induction run with
  | rest state => exact .rest state
  | step moved _ ih =>
      exact .step ⟨moved, every _ _ List.mem_cons_self⟩
        (ih fun state event later => every state event (List.mem_cons_of_mem _ later))

theorem Run.preserves (Holds : State → Prop)
    (preserved : ∀ state event next, Holds state → machine.step state event next → Holds next)
    {first last : State} {events : List Event} (run : machine.Run first events last) (start : Holds first) :
    Holds last := by
  induction run with
  | rest => exact start
  | step moved _ ih => exact ih (preserved _ _ _ start moved)

/-- What each step preserves together with the events so far, a run preserves from its start. -/
theorem Run.recorded (Holds : State → List Event → Prop)
    (preserved : ∀ state past event next, Holds state past → machine.step state event next →
      Holds next (past ++ [event]))
    {first last : State} {events : List Event} (run : machine.Run first events last) (past : List Event)
    (start : Holds first past) : Holds last (past ++ events) := by
  induction run generalizing past with
  | rest =>
      rw [List.append_nil]
      exact start
  | step moved _ ih =>
      rw [List.append_cons]
      exact ih _ (preserved _ _ _ _ start moved)

theorem Run.split {first last : State} {after : List Event} (before : List Event)
    (run : machine.Run first (before ++ after) last) :
    ∃ middle, machine.Run first before middle ∧ machine.Run middle after last := by
  induction before generalizing first with
  | nil => exact ⟨first, .rest first, run⟩
  | cons earlier before ih =>
      cases run with
      | step moved rest =>
          obtain ⟨middle, path, final⟩ := ih rest
          exact ⟨middle, .step moved path, final⟩

theorem Run.last_step {first last : State} {event : Event} (before : List Event)
    (run : machine.Run first (before ++ [event]) last) :
    ∃ middle, machine.Run first before middle ∧ machine.step middle event last := by
  obtain ⟨middle, path, final⟩ := run.split before
  cases final with
  | step moved rest =>
      cases rest
      exact ⟨middle, path, moved⟩

end Machine

/-- An observed machine carries along what an observer notes at each step. -/
def Machine.observed {State Event Note : Type} (machine : Machine State Event) (blank : Note)
    (observe : Note → State → Event → Note) : Machine (State × Note) Event where
  initial pair := machine.initial pair.1 ∧ pair.2 = blank
  step pair event next := machine.step pair.1 event next.1 ∧ next.2 = observe pair.2 pair.1 event

namespace Machine

variable {State Event Note : Type} {machine : Machine State Event} {blank : Note}
  {observe : Note → State → Event → Note}

theorem Reachable.of_observed {pair : State × Note} (reachable : (machine.observed blank observe).Reachable pair) :
    machine.Reachable pair.1 := by
  induction reachable with
  | initial first => exact .initial first.1
  | step _ moved ih => exact .step ih moved.1

theorem Reachable.observed {state : State} (reachable : machine.Reachable state) (blank : Note)
    (observe : Note → State → Event → Note) : ∃ note, (machine.observed blank observe).Reachable (state, note) := by
  induction reachable with
  | initial first => exact ⟨blank, .initial ⟨first, rfl⟩⟩
  | @step state next event _ moved ih =>
      obtain ⟨note, before⟩ := ih
      exact ⟨observe note state event, .step before ⟨moved, rfl⟩⟩

theorem Run.observed {first last : State} {events : List Event} (run : machine.Run first events last)
    (blank : Note) (observe : Note → State → Event → Note) (note : Note) : ∃ final, (machine.observed blank observe).Run (first, note) events (last, final) := by
  induction run generalizing note with
  | rest state => exact ⟨note, .rest _⟩
  | step moved _ ih =>
      obtain ⟨final, path⟩ := ih (observe note _ _)
      exact ⟨final, .step ⟨moved, rfl⟩ path⟩

end Machine

/-- A program is a machine whose steps a function computes where the environment enables them. -/
structure Program (State Event Error : Type) where
  initial : State → Prop
  enabled : State → Event → Prop
  decideEnabled : ∀ state event, Decidable (enabled state event)
  next : State → Event → Except Error State

namespace Program

variable {State Event Error : Type} (program : Program State Event Error)

/-- The machine of a program takes the steps that are enabled and do not fail. -/
def machine : Machine State Event where
  initial := program.initial
  step state event result := program.enabled state event ∧ program.next state event = .ok result

/-- The guarded program enables the steps that pass a test of the state before them. -/
def guarded (test : State → Event → Bool) : Program State Event Error where
  initial := program.initial
  enabled state event := program.enabled state event ∧ test state event = true
  decideEnabled state event := @instDecidableAnd _ _ (program.decideEnabled state event) inferInstance
  next := program.next

theorem guarded_machine (test : State → Event → Bool) :
    (program.guarded test).machine = program.machine.guarded test := by
  have same : (program.guarded test).machine.step = (program.machine.guarded test).step := by
    funext state event result
    exact propext and_right_comm
  exact congrArg (Machine.mk program.initial) same

/-- The observed program carries along what an observer notes at each step. -/
def observed {Note : Type} (blank : Note) (observe : Note → State → Event → Note) :
    Program (State × Note) Event Error where
  initial pair := program.initial pair.1 ∧ pair.2 = blank
  enabled pair event := program.enabled pair.1 event
  decideEnabled pair event := program.decideEnabled pair.1 event
  next pair event := (program.next pair.1 event).map fun result => (result, observe pair.2 pair.1 event)

theorem observed_machine {Note : Type} (blank : Note) (observe : Note → State → Event → Note) :
    (program.observed blank observe).machine = program.machine.observed blank observe := by
  have same : (program.observed blank observe).machine.step = (program.machine.observed blank observe).step := by
    funext pair event result
    apply propext
    change program.enabled pair.1 event ∧ (program.next pair.1 event).map _ = .ok result ↔
      (program.enabled pair.1 event ∧ program.next pair.1 event = .ok result.1) ∧ _
    cases program.next pair.1 event with
    | error error => simp [Except.map]
    | ok next =>
        obtain ⟨state, note⟩ := result
        simp [Except.map, and_assoc, eq_comm]
  exact congrArg (Machine.mk _) same

/-- The player executes a list of events and stops where one is not enabled or fails. -/
def play (state : State) : List Event → Option State
  | [] => some state
  | event :: events =>
      match program.decideEnabled state event with
      | .isTrue _ =>
          match program.next state event with
          | .ok result => play result events
          | .error _ => none
      | .isFalse _ => none

theorem play_run {state final : State} {events : List Event} (played : program.play state events = some final) :
    program.machine.Run state events final := by
  induction events generalizing state with
  | nil =>
      cases played
      exact .rest _
  | cons event events ih =>
      unfold play at played
      split at played
      · rename_i allowed _
        split at played
        · rename_i result computed
          exact .step ⟨allowed, computed⟩ (ih played)
        · cases played
      · cases played

theorem play_runs {state : State} (events : List Event) (check : State → Bool)
    (played : (program.play state events).any check = true) :
    ∃ final, program.machine.Run state events final ∧ check final = true := by
  obtain ⟨final, computed, passed⟩ := (Option.any_eq_true _ _).mp played
  exact ⟨final, program.play_run computed, passed⟩

theorem play_reachable {state : State} (events : List Event) (check : State → Bool)
    (start : program.initial state) (played : (program.play state events).any check = true) :
    ∃ final, program.machine.Reachable final ∧ check final = true := by
  obtain ⟨final, run, passed⟩ := program.play_runs events check played
  exact ⟨final, Machine.Reachable.run (.initial start) run, passed⟩

/-- A state that the player reaches under a test is reachable in the guarded machine. -/
theorem play_guarded (test : State → Event → Bool) {state : State} (events : List Event)
    (check : State → Bool) (start : program.initial state)
    (played : ((program.guarded test).play state events).any check = true) :
    ∃ final, (program.machine.guarded test).Reachable final ∧ check final = true := by
  rw [← guarded_machine]
  exact (program.guarded test).play_reachable events check start played

/-- A state that the player reaches under an observer is reachable together with the observer's note. -/
theorem play_observed {Note : Type} (blank : Note) (observe : Note → State → Event → Note) {state : State}
    (events : List Event) (check : State × Note → Bool) (start : program.initial state)
    (played : ((program.observed blank observe).play (state, blank) events).any check = true) :
    ∃ final, (program.machine.observed blank observe).Reachable final ∧ check final = true := by
  rw [← observed_machine]
  exact (program.observed blank observe).play_reachable events check ⟨start, rfl⟩ played

/-- A state that the player reaches under a test and an observer is reachable together with the observer's note. -/
theorem play_guarded_observed {Note : Type} (test : State → Event → Bool) (blank : Note)
    (observe : Note → State → Event → Note) {state : State} (events : List Event) (check : State × Note → Bool)
    (start : program.initial state)
    (played : (((program.guarded test).observed blank observe).play (state, blank) events).any check = true) :
    ∃ final, ((program.machine.guarded test).observed blank observe).Reachable final ∧ check final = true := by
  rw [← guarded_machine]
  exact (program.guarded test).play_observed blank observe events check start played

/-- An event leads from a state to one that passes a check against it. -/
def stepsTo (event : Event) (check : State → State → Bool) (state : State) : Bool :=
  match program.decideEnabled state event with
  | .isTrue _ =>
      match program.next state event with
      | .ok result => check state result
      | .error _ => false
  | .isFalse _ => false

theorem stepsTo_step {event : Event} {check : State → State → Bool} {state : State}
    (passed : program.stepsTo event check state = true) :
    ∃ result, program.machine.step state event result ∧ check state result = true := by
  unfold stepsTo at passed
  split at passed
  · rename_i allowed _
    split at passed
    · rename_i result computed
      exact ⟨result, ⟨allowed, computed⟩, passed⟩
    · cases passed
  · cases passed

/-- A state that the player reaches from an initial state is reachable, and so is the step from it that is checked. -/
theorem play_step {state : State} (events : List Event) (event : Event) (check : State → State → Bool)
    (start : program.initial state) (played : (program.play state events).any (program.stepsTo event check) = true) :
    ∃ before after, program.machine.Reachable before ∧ program.machine.step before event after ∧
      check before after = true := by
  obtain ⟨before, reachable, passed⟩ := program.play_reachable events _ start played
  obtain ⟨after, moved, checked⟩ := program.stepsTo_step passed
  exact ⟨before, after, reachable, moved, checked⟩

end Program

end SwaylockPlugin.Library
