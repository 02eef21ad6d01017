import SwaylockPlugin.Library.Doubling
import SwaylockPlugin.Construction.ForwardArrays
import Mathlib.Tactic.NormNum

namespace SwaylockPlugin.ForwardArrays

open Library Listener

variable {Element : Type} {model : DataModel} {elementSize : ℕ}

theorem sizeValues_half (model : DataModel) : sizeValues model = 2 * 2 ^ (8 * model.pointerSize - 1) := by
  cases model <;> norm_num [sizeValues, DataModel.pointerSize]

theorem le_half {n : ℕ} (fits : n ≤ sizeMax model / 2) : n ≤ 2 ^ (8 * model.pointerSize - 1) := by
  have half := sizeValues_half model
  unfold sizeMax at fits
  omega

theorem shiftWhileBelow_pow {n : ℕ} (small : Nat.clog 2 n < 8 * model.pointerSize) (rounds exponent : ℕ)
    (below : exponent ≤ Nat.clog 2 n) (enough : Nat.clog 2 n ≤ exponent + rounds) :
    shiftWhileBelow model n rounds (2 ^ exponent) = some (2 ^ Nat.clog 2 n) := by
  induction rounds generalizing exponent with
  | zero =>
      obtain rfl : exponent = Nat.clog 2 n := by omega
      have stops := Nat.le_pow_clog Nat.one_lt_two n
      rw [shiftWhileBelow, if_neg (by omega)]
  | succ rounds ih =>
      by_cases least : exponent = Nat.clog 2 n
      · subst least
        have stops := Nat.le_pow_clog Nat.one_lt_two n
        rw [shiftWhileBelow, if_neg (by omega)]
      · have goes : 2 ^ exponent < n := Nat.pow_lt_of_lt_clog (by omega)
        -- the shift drops no bit as the result still fits into the word
        have shifted : 2 ^ exponent * 2 % sizeValues model = 2 ^ (exponent + 1) := by
          rw [← Nat.pow_succ]
          exact Nat.mod_eq_of_lt (Nat.pow_lt_pow_right Nat.one_lt_two (by omega))
        rw [shiftWhileBelow, if_pos goes, shifted]
        exact ih (exponent + 1) (by omega) (by omega)

theorem nextPowerOfTwo_ok {n : ℕ} (fits : n ≤ sizeMax model / 2) :
    nextPowerOfTwo model n = .ok (doubledCapacity n) := by
  have small : Nat.clog 2 n ≤ 8 * model.pointerSize - 1 := Nat.clog_le_of_le_pow (le_half fits)
  have bits : 0 < 8 * model.pointerSize := by cases model <;> decide
  have passes : require GrowthFault.lengthAssertion (decide (n ≤ sizeMax model / 2)) = .ok () := by
    rw [require_ok, decide_eq_true_eq]
    exact fits
  rw [nextPowerOfTwo, passes, ok_bind, doubledCapacity]
  by_cases empty : n = 0
  · rw [if_pos empty, if_pos empty]
    rfl
  · have found : shiftWhileBelow model n (8 * model.pointerSize) (2 ^ 0) = some (2 ^ Nat.clog 2 n) :=
      shiftWhileBelow_pow (by omega) _ 0 (by omega) (by omega)
    rw [pow_zero] at found
    rw [if_neg empty, if_neg empty, found]
    rfl

theorem nextPowerOfTwo_error {n : ℕ} (large : sizeMax model / 2 < n) :
    nextPowerOfTwo model n = .error .lengthAssertion := by
  have fails : require GrowthFault.lengthAssertion (decide (n ≤ sizeMax model / 2)) = .error .lengthAssertion := by
    rw [decide_eq_false (by omega)]
    rfl
  rw [nextPowerOfTwo, fails]
  rfl

theorem doubledCapacity_lt_sizeValues {n : ℕ} (fits : n ≤ sizeMax model / 2) :
    doubledCapacity n < sizeValues model := by
  have bounded := doubledCapacity_le (le_half fits)
  have half := sizeValues_half model
  have positive : 0 < 2 ^ (8 * model.pointerSize - 1) := Nat.two_pow_pos _
  omega

/-- An array holds what was written, and its capacity belongs to its length. -/
structure Holds (model : DataModel) (array : ElementArray Element) (written : List Element) : Prop where
  length : array.currentLen = written.length
  bounded : array.currentLen ≤ sizeMax model / 2
  capacity : array.data.length = doubledCapacity array.currentLen
  held : array.data.take array.currentLen = written.map some

/-- A call adds one element to an array, whose last index lies inside the least power of two that is large enough. -/
structure GrownFrom (before after : ElementArray Element) : Prop where
  length : after.currentLen = before.currentLen + 1
  least : IsLeast {power | power.isPowerOfTwo ∧ after.currentLen ≤ power} after.capacity
  kept : ∀ index < before.currentLen, after.data[index]? = before.data[index]?
  inside : after.currentLen - 1 < after.capacity

theorem realloc_getElem? {data : List (Option Element)} {cells index : ℕ} (grows : data.length ≤ cells)
    (inside : index < data.length) : (ElementArray.realloc data cells)[index]? = data[index]? := by
  rw [ElementArray.realloc, List.take_of_length_le grows, List.getElem?_append_left inside]

theorem realloc_length {data : List (Option Element)} {cells : ℕ} (grows : data.length ≤ cells) :
    (ElementArray.realloc data cells).length = cells := by
  rw [ElementArray.realloc, List.take_of_length_le grows, List.length_append, List.length_replicate]
  omega

theorem cells_of_bytes (sized : 0 < elementSize) {cells : ℕ} (fits : cells ≤ sizeMax model / elementSize) :
    elementSize * cells % sizeValues model / elementSize = cells := by
  have positive : 0 < sizeValues model := Nat.two_pow_pos _
  have bytes : cells * elementSize ≤ sizeMax model := (Nat.le_div_iff_mul_le sized).mp fits
  have small : elementSize * cells < sizeValues model := by
    rw [Nat.mul_comm]
    unfold sizeMax at bytes
    omega
  rw [Nat.mod_eq_of_lt small, Nat.mul_div_cancel_left cells sized]

/-- A call that permits a fault to be ruled out has passed the assertion of that fault. -/
def Permits (model : DataModel) (elementSize : ℕ) (granted : Bool) (array : ElementArray Element) : GrowthFault → Prop
  | .lengthAssertion => array.currentLen < sizeMax model / 2
  | .sizeAssertion => doubledCapacity (array.currentLen + 1) ≤ sizeMax model / elementSize
  | .memoryAssertion => granted = true
  | .endless | .outOfBounds => True

theorem Holds.grown {array : ElementArray Element} {written : List Element} (holds : Holds model array written)
    {data : List (Option Element)} (capacity : data.length = doubledCapacity (array.currentLen + 1))
    (kept : ∀ index < array.data.length, data[index]? = array.data[index]?) :
    GrownFrom array { data, currentLen := array.currentLen + 1 } where
  length := rfl
  least := by
    change IsLeast _ data.length
    rw [capacity]
    exact doubledCapacity_isLeast (Nat.succ_pos _)
  kept index below := by
    apply kept
    have room := le_doubledCapacity array.currentLen
    rw [holds.capacity]
    omega
  inside := by
    have room := le_doubledCapacity (array.currentLen + 1)
    change array.currentLen + 1 - 1 < data.length
    omega

theorem reserve_delivers (sized : 0 < elementSize) {array : ElementArray Element} {written : List Element}
    (holds : Holds model array written) (granted : Bool) {fault : GrowthFault}
    (permits : Permits model elementSize granted array fault) :
    Delivers fault (reserve model elementSize granted array.data (doubledCapacity array.currentLen)
        (doubledCapacity (array.currentLen + 1)))
      fun data => data.length = doubledCapacity (array.currentLen + 1) ∧
        ∀ index < array.data.length, data[index]? = array.data[index]? := by
  unfold reserve
  by_cases same : doubledCapacity (array.currentLen + 1) = doubledCapacity array.currentLen
  · rw [if_pos same]
    refine ⟨?_, fun _ _ => rfl⟩
    rw [holds.capacity, same]
  · rw [if_neg same]
    refine Delivers.test (fun same => by subst same; exact decide_eq_true permits) fun small => ?_
    refine Delivers.test (fun same => by subst same; exact permits) fun _ => ?_
    rw [cells_of_bytes sized (of_decide_eq_true small)]
    have room : array.data.length ≤ doubledCapacity (array.currentLen + 1) := by
      rw [holds.capacity]
      exact doubledCapacity_mono (Nat.le_succ array.currentLen)
    exact ⟨realloc_length room, fun index inside => realloc_getElem? room inside⟩

theorem addOneElement_delivers (sized : 0 < elementSize) {array : ElementArray Element} {written : List Element}
    (holds : Holds model array written) (granted : Bool) {fault : GrowthFault}
    (permits : Permits model elementSize granted array fault) :
    Delivers fault (addOneElement model elementSize granted array)
      fun next => next.currentLen ≤ sizeMax model / 2 ∧ next.data.length = doubledCapacity next.currentLen ∧
        GrownFrom array next := by
  have half := sizeValues_half model
  have positive : 0 < 2 ^ (8 * model.pointerSize - 1) := Nat.two_pow_pos _
  have bounded := holds.bounded
  have nextLen : (array.currentLen + 1) % sizeValues model = array.currentLen + 1 := by
    apply Nat.mod_eq_of_lt
    unfold sizeMax at bounded
    omega
  rw [addOneElement, nextPowerOfTwo_ok bounded, ok_bind, nextLen]
  by_cases fits : array.currentLen + 1 ≤ sizeMax model / 2
  · rw [nextPowerOfTwo_ok fits, ok_bind]
    refine (reserve_delivers sized holds granted permits).bind ?_
    rintro data ⟨capacity, kept⟩
    exact ⟨fits, capacity, holds.grown capacity kept⟩
  · rw [nextPowerOfTwo_error (by omega)]
    rintro rfl
    change array.currentLen < sizeMax model / 2 at permits
    omega

theorem writeLast_ok {array : ElementArray Element} (filled : 0 < array.currentLen)
    (bounded : array.currentLen ≤ sizeMax model / 2) (inside : array.currentLen - 1 < array.capacity)
    (element : Element) :
    writeLast model array element =
      .ok { array with data := array.data.set (array.currentLen - 1) (some element) } := by
  have half := sizeValues_half model
  have positive : 0 < 2 ^ (8 * model.pointerSize - 1) := Nat.two_pow_pos _
  have last : (array.currentLen + (sizeValues model - 1)) % sizeValues model = array.currentLen - 1 := by
    unfold sizeMax at bounded
    rw [show array.currentLen + (sizeValues model - 1) = array.currentLen - 1 + sizeValues model by omega,
      Nat.add_mod_right]
    exact Nat.mod_eq_of_lt (by omega)
  have passes : require GrowthFault.outOfBounds (decide (array.currentLen - 1 < array.data.length)) = .ok () := by
    rw [require_ok, decide_eq_true_eq]
    exact inside
  rw [writeLast, last, passes]
  rfl

theorem handleElement_delivers (sized : 0 < elementSize) {array : ElementArray Element} {written : List Element}
    (holds : Holds model array written) (granted : Bool) (element : Element) {fault : GrowthFault}
    (permits : Permits model elementSize granted array fault) :
    Delivers fault (handleElement model elementSize granted array element)
      fun next => Holds model next (written ++ [element]) := by
  refine (addOneElement_delivers sized holds granted permits).bind ?_
  rintro grown ⟨bounded, capacity, growth⟩
  have longer := growth.length
  rw [writeLast_ok (by omega) bounded growth.inside]
  have before : grown.data.take array.currentLen = written.map some := by
    rw [← holds.held]
    apply List.ext_getElem?
    intro index
    by_cases below : index < array.currentLen
    · rw [List.getElem?_take_of_lt below, List.getElem?_take_of_lt below, growth.kept index below]
    · rw [List.getElem?_take_eq_none (by omega), List.getElem?_take_eq_none (by omega)]
  have inside : grown.currentLen - 1 < grown.data.length := growth.inside
  exact {
    length := by
      rw [List.length_append, ← holds.length]
      exact longer
    bounded := bounded
    capacity := by
      rw [List.length_set]
      exact capacity
    held := by
      change (grown.data.set (grown.currentLen - 1) (some element)).take grown.currentLen = _
      rw [longer, Nat.add_sub_cancel, List.take_add_one, List.take_set_of_le (Nat.le_refl _), before,
        List.getElem?_set_self (by omega), List.map_append]
      rfl }

theorem calls_hold (sized : 0 < elementSize) {received : List (Bool × Element)} {array : ElementArray Element}
    (run : (calls model elementSize).machine.Run .null received array) :
    Holds model array (received.map Prod.snd) := by
  refine run.recorded (fun array received => Holds model array (received.map Prod.snd)) ?_ []
    ⟨rfl, Nat.zero_le _, rfl, rfl⟩
  rintro array received ⟨granted, element⟩ next holds ⟨_, handled⟩
  have appends : Delivers .endless (handleElement model elementSize granted array element) _ :=
    handleElement_delivers sized holds granted element trivial
  rw [List.map_append]
  exact appends.ensures next handled

/-- From the null pointer on, each call leaves the least power of two as the capacity, keeps what was written and makes
room for the element of its caller, which no caller writes elsewhere. The function below each call returns for every
length up to a half of `SIZE_MAX`. -/
theorem arrays_double (sized : 0 < elementSize) :
    (∀ n ≤ sizeMax model / 2, ∃ power < sizeValues model, nextPowerOfTwo model n = .ok power ∧ (n = 0 → power = 0) ∧
      (0 < n → IsLeast {power | power.isPowerOfTwo ∧ n ≤ power} power)) ∧
    ∀ (received : List (Bool × Element)) (array : ElementArray Element),
      (calls model elementSize).machine.Run .null received array →
      array.data.take array.currentLen = received.map (fun call => some call.2) ∧
      ∀ granted, (∀ fault, Permits model elementSize granted array fault →
          Delivers fault (addOneElement model elementSize granted array) (GrownFrom array)) ∧
        ∀ element, handleElement model elementSize granted array element ≠ .error .outOfBounds := by
  constructor
  · intro n fits
    refine ⟨doubledCapacity n, doubledCapacity_lt_sizeValues fits, nextPowerOfTwo_ok fits, ?_, doubledCapacity_isLeast⟩
    rintro rfl
    rfl
  · intro received array run
    have holds := calls_hold sized run
    refine ⟨?_, fun granted => ⟨fun fault permits => ?_, fun element => ?_⟩⟩
    · rw [holds.held, List.map_map]
      rfl
    · exact (addOneElement_delivers sized holds granted permits).weaken fun next grown => grown.2.2
    · have stays : Delivers .outOfBounds (handleElement model elementSize granted array element) _ :=
        handleElement_delivers sized holds granted element trivial
      exact stays.safe

/-- After three formats of the shared memory the array has four cells, of which the last one is not yet written. -/
theorem arrays_double_formats :
    ∃ array : ElementArray UInt32,
      (calls .lp64 uint32Size).machine.Run .null [(true, 0), (true, 1), (true, 7)] array ∧
      array.data.take array.currentLen = [some 0, some 1, some 7] ∧ array.capacity = 4 ∧
      Delivers .endless (addOneElement .lp64 uint32Size true array) (GrownFrom array) := by
  have played : ((calls .lp64 uint32Size).play (.null : ElementArray UInt32) [(true, 0), (true, 1), (true, 7)]).any
      (fun array => array.capacity == 4) = true := by decide +kernel
  obtain ⟨array, run, same⟩ := Program.play_runs _ _ _ played
  have doubles := (@arrays_double UInt32 .lp64 uint32Size (by decide)).2 _ array run
  exact ⟨array, run, doubles.1, of_decide_eq_true same, (doubles.2 true).1 .endless trivial⟩

end SwaylockPlugin.ForwardArrays
