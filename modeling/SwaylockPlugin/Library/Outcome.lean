import Mathlib.Logic.Basic

namespace SwaylockPlugin.Library

theorem ok_bind {Error First Second : Type} (value : First) (second : First → Except Error Second) :
    (Except.ok value >>= second) = second value := rfl

theorem bind_ok {Error First Second : Type} {first : Except Error First}
    {second : First → Except Error Second} {result : Second} :
    (first >>= second) = .ok result ↔ ∃ middle, first = .ok middle ∧ second middle = .ok result := by
  cases first with
  | error error =>
      constructor
      · rintro ⟨⟩
      · rintro ⟨_, ⟨⟩, _⟩
  | ok middle =>
      constructor
      · intro succeeded
        exact ⟨middle, rfl, succeeded⟩
      · rintro ⟨_, ⟨⟩, succeeded⟩
        exact succeeded

/-- A read of an optional value fails with the given error where there is none. -/
def demand {Error Value : Type} (error : Error) : Option Value → Except Error Value
  | none => .error error
  | some value => .ok value

theorem demand_ok {Error Value : Type} {error : Error} {value : Option Value} {result : Value} :
    demand error value = .ok result ↔ value = some result := by
  cases value with
  | none => exact ⟨nofun, nofun⟩
  | some value =>
      constructor
      · rintro ⟨⟩
        rfl
      · rintro ⟨⟩
        rfl

/-- A check fails with the given error where its condition is false. -/
def require {Error : Type} (error : Error) (condition : Bool) : Except Error Unit :=
  if condition then .ok () else .error error

theorem require_ok {Error : Type} {error : Error} {condition : Bool} {result : Unit} :
    require error condition = .ok result ↔ condition = true := by
  cases condition with
  | false => exact ⟨nofun, nofun⟩
  | true => exact ⟨fun _ => rfl, fun _ => rfl⟩

/-- A computation ensures a property of the value with which it succeeds. -/
def Ensures {Error Value : Type} (computation : Except Error Value) (property : Value → Prop) : Prop :=
  ∀ value, computation = .ok value → property value

namespace Ensures

variable {Error Value Result : Type} {property : Value → Prop} {goal : Result → Prop}

theorem pure {value : Value} (holds : property value) :
    Ensures (Pure.pure value : Except Error Value) property := by
  rintro _ ⟨⟩
  exact holds

theorem throw {error : Error} : Ensures (MonadExcept.throw error : Except Error Value) property := by
  rintro _ ⟨⟩

theorem bind {first : Except Error Value} {second : Value → Except Error Result}
    (before : Ensures first property) (after : ∀ value, property value → Ensures (second value) goal) :
    Ensures (first >>= second) goal := by
  intro result succeeded
  obtain ⟨value, computed, rest⟩ := bind_ok.mp succeeded
  exact after value (before value computed) result rest

theorem via (property : Value → Prop) {first : Except Error Value} {second : Value → Except Error Result}
    (before : Ensures first property) (after : ∀ value, property value → Ensures (second value) goal) :
    Ensures (first >>= second) goal :=
  before.bind after

theorem read {error : Error} {value : Option Value} {second : Value → Except Error Result}
    (after : ∀ result, value = some result → Ensures (second result) goal) :
    Ensures (demand error value >>= second) goal := by
  cases value with
  | none => exact throw
  | some value => exact after value rfl

theorem check {error : Error} {condition : Bool} {second : Unit → Except Error Result}
    (after : condition = true → Ensures (second ()) goal) :
    Ensures (require error condition >>= second) goal := by
  cases condition with
  | false => exact throw
  | true => exact after rfl

theorem weaken {computation : Except Error Value} {weaker : Value → Prop}
    (holds : Ensures computation property) (implies : ∀ value, property value → weaker value) :
    Ensures computation weaker :=
  fun value computed => implies value (holds value computed)

theorem both {computation : Except Error Value} {other : Value → Prop}
    (first : Ensures computation property) (second : Ensures computation other) :
    Ensures computation fun value => property value ∧ other value :=
  fun value computed => ⟨first value computed, second value computed⟩

/-- What each iteration keeps from the state before it, a fallible loop keeps from its start. -/
theorem foldlM {State Item : Type} {body : State → Item → Except Error State} {keeps : State → State → Prop}
    (reflexive : ∀ state, keeps state state)
    (transitive : ∀ {one two three}, keeps one two → keeps two three → keeps one three)
    (iteration : ∀ state item, Ensures (body state item) (keeps state)) (items : List Item) (state : State) :
    Ensures (items.foldlM body state) (keeps state) := by
  induction items generalizing state with
  | nil => exact pure (reflexive state)
  | cons item items ih =>
      rw [List.foldlM_cons]
      refine (iteration state item).bind fun next kept => ?_
      exact (ih next).weaken fun final rest => transitive kept rest

theorem foldlM_holds {State Item : Type} {body : State → Item → Except Error State} {holds : State → Prop}
    (iteration : ∀ state item, holds state → Ensures (body state item) holds) (items : List Item) {state : State}
    (start : holds state) : Ensures (items.foldlM body state) holds := by
  induction items generalizing state with
  | nil => exact pure start
  | cons item items ih =>
      rw [List.foldlM_cons]
      exact (iteration state item start).bind fun next kept => ih kept

end Ensures

/-- A computation delivers a property when it never fails with the fatal error and ensures the property. -/
def Delivers {Error Value : Type} (fatal : Error) (computation : Except Error Value) (property : Value → Prop) : Prop :=
  match computation with
  | .ok value => property value
  | .error error => error ≠ fatal

namespace Delivers

variable {Error Value Result : Type} {fatal error : Error} {computation : Except Error Value}
  {property : Value → Prop} {goal : Result → Prop}

theorem ensures (delivers : Delivers fatal computation property) : Ensures computation property := by
  rintro value rfl
  exact delivers

theorem safe (delivers : Delivers fatal computation property) : computation ≠ .error fatal := by
  rintro rfl
  exact delivers rfl

theorem foldlM {State Item : Type} {body : State → Item → Except Error State} {keeps : State → Prop}
    (iteration : ∀ state item, keeps state → Delivers fatal (body state item) keeps) (items : List Item) {state : State}
    (start : keeps state) : Delivers fatal (items.foldlM body state) keeps := by
  induction items generalizing state with
  | nil => exact start
  | cons item items ih =>
      rw [List.foldlM_cons]
      have first := iteration state item start
      cases computed : body state item with
      | error error =>
          rw [computed] at first
          exact first
      | ok next =>
          rw [computed] at first
          exact ih first

theorem returns (fatal : Error) (delivers : ∀ fatal, Delivers fatal computation property) :
    ∃ value, computation = .ok value ∧ property value := by
  cases computation with
  | error error => exact absurd rfl (delivers error)
  | ok value => exact ⟨value, rfl, delivers fatal⟩

theorem pure {value : Value} (holds : property value) :
    Delivers fatal (Pure.pure value : Except Error Value) property := holds

theorem bind {second : Value → Except Error Result} (before : Delivers fatal computation property)
    (after : ∀ value, property value → Delivers fatal (second value) goal) :
    Delivers fatal (computation >>= second) goal := by
  cases computation with
  | error error => exact before
  | ok value => exact after value before

theorem via (property : Value → Prop) {second : Value → Except Error Result} (before : Delivers fatal computation property)
    (after : ∀ value, property value → Delivers fatal (second value) goal) :
    Delivers fatal (computation >>= second) goal :=
  before.bind after

theorem read {value : Option Value} {second : Value → Except Error Result} {result : Value}
    (present : value = some result) (after : Delivers fatal (second result) goal) :
    Delivers fatal (demand error value >>= second) goal := by
  subst present
  exact after

/-- A read fails with another error or hands the value on together with the fact that it was there. -/
theorem seek {value : Option Value} {second : Value → Except Error Result} (other : error ≠ fatal)
    (after : ∀ result, value = some result → Delivers fatal (second result) goal) :
    Delivers fatal (demand error value >>= second) goal := by
  cases value with
  | none => exact other
  | some value => exact after value rfl

theorem check {condition : Bool} {second : Unit → Except Error Result} (other : error ≠ fatal)
    (after : condition = true → Delivers fatal (second ()) goal) :
    Delivers fatal (require error condition >>= second) goal := by
  cases condition with
  | false => exact other
  | true => exact after rfl

/-- A check whose condition holds wherever its error is fatal hands the fact on that it holds. -/
theorem test {condition : Bool} {second : Unit → Except Error Result} (holds : error = fatal → condition = true)
    (after : condition = true → Delivers fatal (second ()) goal) :
    Delivers fatal (require error condition >>= second) goal := by
  cases condition with
  | false => exact fun same => absurd (holds same) (by decide)
  | true => exact after rfl

theorem weaken {weaker : Value → Prop} (delivers : Delivers fatal computation property)
    (implies : ∀ value, property value → weaker value) : Delivers fatal computation weaker := by
  cases computation with
  | error error => exact delivers
  | ok value => exact implies value delivers

end Delivers

/-- What each iteration keeps from the state before it, a loop keeps from its start. -/
theorem foldl_keeps {State Item : Type} {body : State → Item → State} {keeps : State → State → Prop}
    (reflexive : ∀ state, keeps state state)
    (transitive : ∀ {one two three}, keeps one two → keeps two three → keeps one three)
    (iteration : ∀ state item, keeps state (body state item)) (items : List Item) (state : State) :
    keeps state (items.foldl body state) := by
  induction items generalizing state with
  | nil => exact reflexive state
  | cons item items ih =>
      exact transitive (iteration state item) (ih (body state item))

end SwaylockPlugin.Library
