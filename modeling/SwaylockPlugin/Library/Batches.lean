import Mathlib.Data.List.Nodup
import Mathlib.Data.List.Sort
import Mathlib.Logic.Function.Basic
import Mathlib.Logic.Relation

namespace SwaylockPlugin.Library

/-- Numbered items are collected in lists on the left and wait in batches on the right. -/
structure Batches where
  lists : Nat ⊕ Nat → List Nat
  nextItem : Nat
  nextBatch : Nat

namespace Batches

/-- The items of a list stand newest first, no item is in two lists, and an item that is still to come is in none. -/
structure Sound (batches : Batches) : Prop where
  newest : ∀ place, (batches.lists place).Pairwise (· > ·)
  apart : ∀ one two item, item ∈ batches.lists one → item ∈ batches.lists two → one = two
  known : ∀ place, ∀ item ∈ batches.lists place, item < batches.nextItem

/-- A new item is collected in front of the older ones. -/
def push (batches : Batches) (source : Nat) : Batches where
  lists := Function.update batches.lists (.inl source) (batches.nextItem :: batches.lists (.inl source))
  nextItem := batches.nextItem + 1
  nextBatch := batches.nextBatch

/-- What was collected becomes a batch. -/
def pass (batches : Batches) (source : Nat) : Batches where
  lists := Function.update (Function.update batches.lists (.inl source) []) (.inr batches.nextBatch)
    (batches.lists (.inl source))
  nextItem := batches.nextItem
  nextBatch := batches.nextBatch + 1

/-- Items may be dropped, and what was collected may become a batch. -/
inductive Step (batches : Batches) : Batches → Prop
  | drop {next : Batches} (sublists : ∀ place, (next.lists place).Sublist (batches.lists place))
      (items : batches.nextItem ≤ next.nextItem) (later : batches.nextBatch ≤ next.nextBatch) : Step batches next
  | pass (source : Nat) : Step batches (batches.pass source)

/-- The batches move on without a new item in any number of steps. -/
abbrev Moves : Batches → Batches → Prop := Relation.ReflTransGen Step

variable {first second : Batches}

theorem Sound.drop (sound : first.Sound) (sublists : ∀ place, (second.lists place).Sublist (first.lists place))
    (items : first.nextItem ≤ second.nextItem) : second.Sound where
  newest place := (sound.newest place).sublist (sublists place)
  apart one two item here there := sound.apart one two item ((sublists one).subset here) ((sublists two).subset there)
  known place item member := Nat.lt_of_lt_of_le (sound.known place item ((sublists place).subset member)) items

theorem push_lists (batches : Batches) (source : Nat) (place : Nat ⊕ Nat) :
    place = .inl source ∧ (batches.push source).lists place = batches.nextItem :: batches.lists (.inl source) ∨
      place ≠ .inl source ∧ (batches.push source).lists place = batches.lists place := by
  by_cases here : place = .inl source
  · subst here
    exact .inl ⟨rfl, Function.update_self ..⟩
  · exact .inr ⟨here, Function.update_of_ne here ..⟩

theorem Sound.push (sound : first.Sound) (source : Nat) : (first.push source).Sound where
  newest place := by
    rcases first.push_lists source place with ⟨_, same⟩ | ⟨_, same⟩
    · rw [same, List.pairwise_cons]
      exact ⟨sound.known _, sound.newest _⟩
    · rw [same]
      exact sound.newest place
  apart one two item here there := by
    have held {place : Nat ⊕ Nat} (member : item ∈ (first.push source).lists place) :
        place = .inl source ∧ item = first.nextItem ∨ item ∈ first.lists place := by
      rcases first.push_lists source place with ⟨left, same⟩ | ⟨_, same⟩
      · rw [same] at member
        rcases List.mem_cons.mp member with new | old
        · exact .inl ⟨left, new⟩
        · exact .inr (left ▸ old)
      · exact .inr (same ▸ member)
    have old {place : Nat ⊕ Nat} (member : item ∈ first.lists place) : item ≠ first.nextItem :=
      Nat.ne_of_lt (sound.known place item member)
    rcases held here with ⟨left, new⟩ | left
    · rcases held there with ⟨right, _⟩ | right
      · rw [left, right]
      · exact absurd new (old right)
    · rcases held there with ⟨_, new⟩ | right
      · exact absurd new (old left)
      · exact sound.apart one two item left right
  known place item member := by
    rcases first.push_lists source place with ⟨_, same⟩ | ⟨_, same⟩
    · rw [same] at member
      rcases List.mem_cons.mp member with rfl | old
      · exact Nat.lt_succ_self _
      · exact Nat.lt_succ_of_lt (sound.known _ item old)
    · exact Nat.lt_succ_of_lt (sound.known place item (same ▸ member))

/-- A new batch holds what was collected, its source nothing, and every other list stays. -/
theorem pass_lists (batches : Batches) (source : Nat) (place : Nat ⊕ Nat) :
    place = .inr batches.nextBatch ∧ (batches.pass source).lists place = batches.lists (.inl source) ∨
      place = .inl source ∧ (batches.pass source).lists place = [] ∨
      (place ≠ .inr batches.nextBatch ∧ place ≠ .inl source) ∧
        (batches.pass source).lists place = batches.lists place := by
  by_cases new : place = .inr batches.nextBatch
  · subst new
    exact .inl ⟨rfl, Function.update_self ..⟩
  · have kept : (batches.pass source).lists place = Function.update batches.lists (.inl source) [] place :=
      Function.update_of_ne new ..
    rw [kept]
    by_cases here : place = .inl source
    · subst here
      exact .inr (.inl ⟨rfl, Function.update_self ..⟩)
    · exact .inr (.inr ⟨⟨new, here⟩, Function.update_of_ne here ..⟩)

theorem Sound.pass (sound : first.Sound) (source : Nat) : (first.pass source).Sound where
  newest place := by
    rcases first.pass_lists source place with ⟨_, same⟩ | ⟨_, same⟩ | ⟨_, same⟩
    · exact same ▸ sound.newest _
    · exact same ▸ .nil
    · exact same ▸ sound.newest place
  apart one two item here there := by
    have held {place : Nat ⊕ Nat} (member : item ∈ (first.pass source).lists place) :
        place = .inr first.nextBatch ∧ item ∈ first.lists (.inl source) ∨
          place ≠ .inl source ∧ item ∈ first.lists place := by
      rcases first.pass_lists source place with ⟨new, same⟩ | ⟨_, same⟩ | ⟨other, same⟩
      · exact .inl ⟨new, same ▸ member⟩
      · rw [same] at member
        cases member
      · exact .inr ⟨other.2, same ▸ member⟩
    rcases held here with ⟨left, old⟩ | ⟨apart, left⟩
    · rcases held there with ⟨right, _⟩ | ⟨apart, right⟩
      · rw [left, right]
      · exact absurd (sound.apart _ _ item right old) apart
    · rcases held there with ⟨_, old⟩ | ⟨_, right⟩
      · exact absurd (sound.apart _ _ item left old) apart
      · exact sound.apart one two item left right
  known place item member := by
    rcases first.pass_lists source place with ⟨_, same⟩ | ⟨_, same⟩ | ⟨_, same⟩
    · exact sound.known _ item (same ▸ member)
    · rw [same] at member
      cases member
    · exact sound.known place item (same ▸ member)

theorem Moves.sound (moves : Moves first second) (sound : first.Sound) : second.Sound := by
  induction moves with
  | refl => exact sound
  | tail _ step ih =>
      cases step with
      | drop sublists items => exact ih.drop sublists items
      | pass source => exact ih.pass source

theorem Moves.held (moves : Moves first second) {place : Nat ⊕ Nat} {item : Nat} (member : item ∈ second.lists place) :
    ∃ earlier, item ∈ first.lists earlier := by
  induction moves generalizing place with
  | refl => exact ⟨place, member⟩
  | @tail middle last _ step ih =>
      cases step with
      | drop sublists => exact ih ((sublists place).subset member)
      | pass source =>
          rcases middle.pass_lists source place with ⟨_, same⟩ | ⟨_, same⟩ | ⟨_, same⟩
          · exact ih (same ▸ member)
          · rw [same] at member
            cases member
          · exact ih (same ▸ member)

theorem Moves.later (moves : Moves first second) :
    first.nextItem ≤ second.nextItem ∧ first.nextBatch ≤ second.nextBatch := by
  induction moves with
  | refl => exact ⟨Nat.le_refl _, Nat.le_refl _⟩
  | tail _ step ih =>
      obtain ⟨items, later⟩ := ih
      cases step with
      | drop _ more also => exact ⟨Nat.le_trans items more, Nat.le_trans later also⟩
      | pass => exact ⟨items, Nat.le_succ_of_le later⟩

theorem Moves.closed (moves : Moves first second) {batch : Nat} (made : batch < first.nextBatch) :
    (second.lists (.inr batch)).Sublist (first.lists (.inr batch)) := by
  induction moves with
  | refl => exact .refl _
  | @tail middle last before step ih =>
      cases step with
      | drop sublists => exact (sublists _).trans ih
      | pass source =>
          rcases middle.pass_lists source (.inr batch) with ⟨new, _⟩ | ⟨other, _⟩ | ⟨_, same⟩
          · exact absurd (Sum.inr.inj new) (Nat.ne_of_lt (Nat.lt_of_lt_of_le made (later before).2))
          · cases other
          · exact same ▸ ih

/-- Items that are done were known, were done once, and wait no more. -/
structure Delivered (batches : Batches) (done : List Nat) : Prop where
  sound : batches.Sound
  once : done.Nodup
  known : ∀ item ∈ done, item < batches.nextItem
  settled : ∀ item ∈ done, ∀ place, item ∉ batches.lists place

namespace Delivered

variable {done : List Nat}

theorem moves (delivered : first.Delivered done) (moves : Moves first second) : second.Delivered done where
  sound := moves.sound delivered.sound
  once := delivered.once
  known item member := Nat.lt_of_lt_of_le (delivered.known item member) moves.later.1
  settled item member place waits := by
    obtain ⟨earlier, waited⟩ := moves.held waits
    exact delivered.settled item member earlier waited

theorem push (delivered : first.Delivered done) (source : Nat) : (first.push source).Delivered done where
  sound := delivered.sound.push source
  once := delivered.once
  known item member := Nat.lt_succ_of_lt (delivered.known item member)
  settled item member place waits := by
    rcases first.push_lists source place with ⟨_, same⟩ | ⟨_, same⟩
    · rw [same] at waits
      rcases List.mem_cons.mp waits with rfl | waited
      · exact absurd (delivered.known _ member) (Nat.lt_irrefl _)
      · exact delivered.settled item member _ waited
    · exact delivered.settled item member place (same ▸ waits)

theorem deliver (delivered : first.Delivered done) {batch : Nat}
    (sublists : ∀ place, (second.lists place).Sublist (first.lists place)) (items : first.nextItem ≤ second.nextItem)
    (emptied : second.lists (.inr batch) = []) : second.Delivered (done ++ first.lists (.inr batch)) where
  sound := delivered.sound.drop sublists items
  once := by
    have distinct : (first.lists (.inr batch)).Nodup := (delivered.sound.newest (.inr batch)).imp Nat.ne_of_gt
    refine List.nodup_append'.mpr ⟨delivered.once, distinct, fun item member waits => ?_⟩
    exact delivered.settled item member _ waits
  known item member := by
    refine Nat.lt_of_lt_of_le ?_ items
    rcases List.mem_append.mp member with before | last
    · exact delivered.known item before
    · exact delivered.sound.known _ item last
  settled item member place waits := by
    have waited := (sublists place).subset waits
    rcases List.mem_append.mp member with before | last
    · exact delivered.settled item before place waited
    · rw [delivered.sound.apart _ _ item waited last, emptied] at waits
      cases waits

end Delivered

variable {asked : List (Nat × Nat)} {done : List Nat}

/-- No batch holds an item that its source was asked for before one of the batch. -/
def oldest (batches : Batches) (asked : List (Nat × Nat)) (batch : Nat) : Bool :=
  (batches.lists (.inr batch)).all fun one => (List.range batches.nextBatch).all fun other =>
    (batches.lists (.inr other)).all fun two => asked.all fun pair =>
      pair.2 != one || !asked.contains (pair.1, two) || decide (one ≤ two)

/-- The items that a source was asked for stand in the order of the requests. -/
def askedOn (source : Nat) (asked : List (Nat × Nat)) : List Nat :=
  (asked.filter fun pair => pair.1 == source).map Prod.snd

theorem mem_askedOn {source item : Nat} : item ∈ askedOn source asked ↔ (source, item) ∈ asked := by
  simp [askedOn]

/-- Items were asked for one after another, wait in the order of their sources, and are done in it. -/
structure InTurn (batches : Batches) (asked : List (Nat × Nat)) (done : List Nat) : Prop where
  delivered : batches.Delivered done
  made : ∀ batch, batches.lists (.inr batch) ≠ [] → batch < batches.nextBatch
  known : ∀ pair ∈ asked, pair.2 < batches.nextItem
  rising : (asked.map Prod.snd).Pairwise (· < ·)
  collected : ∀ source, ∀ item ∈ batches.lists (.inl source), (source, item) ∈ asked
  waiting : ∀ place, ∀ item ∈ batches.lists place, ∃ source, (source, item) ∈ asked
  finished : ∀ item ∈ done, ∃ source, (source, item) ∈ asked
  later : ∀ source batch, ∀ one ∈ batches.lists (.inr batch), (source, one) ∈ asked →
    ∀ two ∈ batches.lists (.inl source), one < two
  ahead : ∀ one ∈ done, ∀ place, ∀ two ∈ batches.lists place, ∀ source,
    (source, one) ∈ asked → (source, two) ∈ asked → one < two
  ordered : done.Pairwise fun one two => ∀ source, (source, one) ∈ asked → (source, two) ∈ asked → one < two

namespace InTurn

theorem source_eq (turn : first.InTurn asked done) {one two item : Nat} (here : (one, item) ∈ asked)
    (there : (two, item) ∈ asked) : one = two := by
  have distinct : (asked.map Prod.snd).Nodup := turn.rising.imp Nat.ne_of_lt
  exact congrArg Prod.fst (List.inj_on_of_nodup_map distinct here there rfl)

theorem drop (turn : first.InTurn asked done) (sublists : ∀ place, (second.lists place).Sublist (first.lists place))
    (items : first.nextItem ≤ second.nextItem) (batches : first.nextBatch ≤ second.nextBatch) :
    second.InTurn asked done where
  delivered := turn.delivered.moves (.single (.drop sublists items batches))
  made batch waits := by
    refine Nat.lt_of_lt_of_le (turn.made batch fun none => waits ?_) batches
    exact List.sublist_nil.mp (none ▸ sublists (.inr batch))
  known pair member := Nat.lt_of_lt_of_le (turn.known pair member) items
  rising := turn.rising
  collected source item member := turn.collected source item ((sublists _).subset member)
  waiting place item member := turn.waiting place item ((sublists _).subset member)
  finished := turn.finished
  later source batch one passed asks two waits :=
    turn.later source batch one ((sublists _).subset passed) asks two ((sublists _).subset waits)
  ahead one finished place two waits := turn.ahead one finished place two ((sublists _).subset waits)
  ordered := turn.ordered

theorem push (turn : first.InTurn asked done) (source : Nat) :
    (first.push source).InTurn (asked ++ [(source, first.nextItem)]) done := by
  have old {place : Nat ⊕ Nat} {item : Nat} (member : item ∈ (first.push source).lists place) :
      item ∈ first.lists place ∨ place = .inl source ∧ item = first.nextItem := by
    rcases first.push_lists source place with ⟨here, same⟩ | ⟨_, same⟩
    · rw [same] at member
      rcases List.mem_cons.mp member with new | waited
      · exact .inr ⟨here, new⟩
      · exact .inl (here ▸ waited)
    · exact .inl (same ▸ member)
  have asks {other item : Nat} (member : (other, item) ∈ asked ++ [(source, first.nextItem)]) (below : item < first.nextItem) :
      (other, item) ∈ asked := by
    rcases List.mem_append.mp member with before | new
    · exact before
    · cases List.mem_singleton.mp new
      exact absurd below (Nat.lt_irrefl _)
  have batch {batch item : Nat} (member : item ∈ (first.push source).lists (.inr batch)) :
      item ∈ first.lists (.inr batch) := (old member).resolve_right fun new => by cases new.1
  have sound := turn.delivered.sound
  refine ⟨turn.delivered.push source, fun other => turn.made other, fun pair member => ?_, ?_, fun other item member => ?_,
    fun place item member => ?_, fun item member => ?_, fun other number one passed asked two waits => ?_,
    fun one finished place two waits other here there => ?_, turn.ordered.imp_of_mem ?_⟩
  · rcases List.mem_append.mp member with before | new
    · exact Nat.lt_succ_of_lt (turn.known pair before)
    · rw [List.mem_singleton.mp new]
      exact Nat.lt_succ_self _
  · rw [List.map_append, List.pairwise_append]
    refine ⟨turn.rising, List.pairwise_singleton .., fun one before two new => ?_⟩
    obtain ⟨pair, member, rfl⟩ := List.mem_map.mp before
    rw [List.mem_singleton.mp new]
    exact turn.known pair member
  · rcases old member with waited | ⟨here, new⟩
    · exact List.mem_append_left _ (turn.collected other item waited)
    · cases here
      exact List.mem_append_right _ (List.mem_singleton.mpr (by rw [new]))
  · rcases old member with waited | ⟨_, new⟩
    · obtain ⟨other, before⟩ := turn.waiting place item waited
      exact ⟨other, List.mem_append_left _ before⟩
    · exact ⟨source, List.mem_append_right _ (List.mem_singleton.mpr (by rw [new]))⟩
  · obtain ⟨other, before⟩ := turn.finished item member
    exact ⟨other, List.mem_append_left _ before⟩
  · have below := sound.known _ one (batch passed)
    rcases old waits with waited | ⟨_, new⟩
    · exact turn.later other number one (batch passed) (asks asked below) two waited
    · exact new ▸ below
  · have below := turn.delivered.known one finished
    rcases old waits with waited | ⟨_, new⟩
    · exact turn.ahead one finished place two waited other (asks here below) (asks there (sound.known _ two waited))
    · exact new ▸ below
  · intro one two former latter before other here there
    exact before other (asks here (turn.delivered.known one former)) (asks there (turn.delivered.known two latter))

theorem pass (turn : first.InTurn asked done) (source : Nat) : (first.pass source).InTurn asked done := by
  have old {place : Nat ⊕ Nat} {item : Nat} (member : item ∈ (first.pass source).lists place) :
      place = .inr first.nextBatch ∧ item ∈ first.lists (.inl source) ∨
        place ≠ .inl source ∧ item ∈ first.lists place := by
    rcases first.pass_lists source place with ⟨new, same⟩ | ⟨_, same⟩ | ⟨other, same⟩
    · exact .inl ⟨new, same ▸ member⟩
    · rw [same] at member
      cases member
    · exact .inr ⟨other.2, same ▸ member⟩
  have held {place : Nat ⊕ Nat} {item : Nat} (member : item ∈ (first.pass source).lists place) :
      ∃ earlier, item ∈ first.lists earlier := by
    rcases old member with ⟨_, waited⟩ | ⟨_, waited⟩
    · exact ⟨_, waited⟩
    · exact ⟨_, waited⟩
  have left {other item : Nat} (member : item ∈ (first.pass source).lists (.inl other)) :
      other ≠ source ∧ item ∈ first.lists (.inl other) := by
    rcases old member with ⟨new, _⟩ | ⟨apart, waited⟩
    · cases new
    · exact ⟨fun same => apart (congrArg Sum.inl same), waited⟩
  refine ⟨turn.delivered.moves (.single (.pass source)), fun batch waits => ?_, turn.known, turn.rising,
    fun other item member => turn.collected other item (left member).2, fun place item member => ?_, turn.finished,
    fun other batch one passed asks two waits => ?_, fun one finished place two waits other => ?_, turn.ordered⟩
  · rcases first.pass_lists source (.inr batch) with ⟨new, _⟩ | ⟨other, _⟩ | ⟨_, same⟩
    · rw [Sum.inr.inj new]
      exact Nat.lt_succ_self _
    · cases other
    · exact Nat.lt_succ_of_lt (turn.made batch (same ▸ waits))
  · obtain ⟨earlier, waited⟩ := held member
    exact turn.waiting earlier item waited
  · obtain ⟨apart, waited⟩ := left waits
    rcases old passed with ⟨_, collected⟩ | ⟨_, before⟩
    · exact absurd (turn.source_eq asks (turn.collected source one collected)) apart
    · exact turn.later other batch one before asks two waited
  · obtain ⟨earlier, waited⟩ := held waits
    exact turn.ahead one finished earlier two waited other

theorem deliver (turn : first.InTurn asked done) {batch : Nat} (oldest : first.oldest asked batch = true)
    (sublists : ∀ place, (second.lists place).Sublist (first.lists place)) (items : first.nextItem ≤ second.nextItem)
    (batches : first.nextBatch ≤ second.nextBatch) (emptied : second.lists (.inr batch) = []) :
    second.InTurn asked (done ++ first.lists (.inr batch)) := by
  have inOrder {one two other source : Nat} (member : one ∈ first.lists (.inr batch)) (waits : two ∈ first.lists (.inr other))
      (here : (source, one) ∈ asked) (there : (source, two) ∈ asked) : one ≤ two := by
    have below := turn.made other (List.ne_nil_of_mem waits)
    have passed := List.all_eq_true.mp (List.all_eq_true.mp (List.all_eq_true.mp (List.all_eq_true.mp oldest one member)
      other (List.mem_range.mpr below)) two waits) (source, one) here
    simpa [there] using passed
  have rest := turn.drop sublists items batches
  have sound := turn.delivered.sound
  refine ⟨turn.delivered.deliver sublists items emptied, rest.made, rest.known, rest.rising, rest.collected, rest.waiting,
    fun item member => ?_, rest.later, fun one member place two waits source here there => ?_, ?_⟩
  · rcases List.mem_append.mp member with before | new
    · exact turn.finished item before
    · exact turn.waiting _ item new
  · have waited := (sublists place).subset waits
    rcases List.mem_append.mp member with before | new
    · exact turn.ahead one before place two waited source here there
    · cases place with
      | inl other =>
          have same := turn.source_eq there (turn.collected other two waited)
          exact turn.later source batch one new here two (same ▸ waited)
      | inr other =>
          refine Nat.lt_of_le_of_ne (inOrder new waited here there) ?_
          rintro rfl
          rw [sound.apart _ _ one waited new, emptied] at waits
          cases waits
  · refine List.pairwise_append.mpr ⟨turn.ordered, (sound.newest _).imp_of_mem ?_, fun one before two new => ?_⟩
    · intro one two former latter newer source here there
      exact absurd (inOrder former latter here there) (Nat.not_le_of_gt newer)
    · exact fun source => turn.ahead one before _ two new source

theorem sublist (turn : first.InTurn asked done) (source : Nat) :
    (done.filter fun item => (askedOn source asked).contains item).Sublist (askedOn source asked) := by
  have rising : (askedOn source asked).Pairwise (· < ·) := turn.rising.sublist (List.filter_sublist.map _)
  have ordered : (done.filter fun item => (askedOn source asked).contains item).Pairwise (· < ·) := by
    refine (turn.ordered.filter _).imp_of_mem fun former latter before => before source ?_ ?_
    · simpa [mem_askedOn] using (List.mem_filter.mp former).2
    · simpa [mem_askedOn] using (List.mem_filter.mp latter).2
  have distinct := ordered.imp Nat.ne_of_lt
  refine List.sublist_of_subperm_of_pairwise (List.subperm_of_subset distinct fun item member => ?_)
    (ordered.imp Nat.le_of_lt) (rising.imp Nat.le_of_lt)
  simpa using (List.mem_filter.mp member).2

end InTurn

end Batches

end SwaylockPlugin.Library
