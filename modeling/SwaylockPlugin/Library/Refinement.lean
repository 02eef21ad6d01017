import SwaylockPlugin.Library.Machine

namespace SwaylockPlugin.Library

theorem Machine.Run.of_restrict {State Event : Type} {machine : Machine State Event} {meets : State → Event → Prop}
    {first last : State} {events : List Event} (run : (machine.restrict meets).Run first events last) :
    machine.Run first events last := by
  induction run with
  | rest state => exact .rest state
  | step moved _ ih => exact .step moved.1 ih

/-- A machine refines another one along a view when a run of the other one covers each step from a reachable state. -/
structure Refines {State Event Abstract Action : Type} (concrete : Machine State Event)
    (abstract : Machine Abstract Action) (view : State → Abstract) : Prop where
  initial : ∀ state, concrete.initial state → abstract.initial (view state)
  step : ∀ state event next, concrete.Reachable state → abstract.Reachable (view state) →
    concrete.step state event next → ∃ actions, abstract.Run (view state) actions (view next)

namespace Refines

variable {State Event Abstract Action : Type} {concrete : Machine State Event} {abstract : Machine Abstract Action}
  {view : State → Abstract}

theorem reachable (refines : Refines concrete abstract view) {state : State} (reached : concrete.Reachable state) :
    abstract.Reachable (view state) := by
  induction reached with
  | initial first => exact .initial (refines.initial _ first)
  | step before moved ih =>
      obtain ⟨_, run⟩ := refines.step _ _ _ before ih moved
      exact ih.run run

end Refines

end SwaylockPlugin.Library
