import SwaylockPlugin.Library.Forest
import Mathlib.Data.Finset.Card
import Mathlib.Data.Set.Insert
import Mathlib.Logic.Relation

namespace SwaylockPlugin.Library.Forest

variable {Id : Type} {first last forest : Forest Id} {child parent id other : Id}

/-- A node of a forest names its parent. -/
def Parent (forest : Forest Id) (child parent : Id) : Prop :=
  ∃ node, forest child = some node ∧ node.parent = some parent

theorem Parent.unique (one : forest.Parent child parent) (two : forest.Parent child other) : parent = other := by
  obtain ⟨node, there, named⟩ := one
  obtain ⟨same, shown, again⟩ := two
  cases there.symm.trans shown
  exact Option.some.inj (named.symm.trans again)

/-- A node descends from itself, from its parent and from what its parent descends from. -/
abbrev Descends (forest : Forest Id) : Id → Id → Prop := Relation.ReflTransGen forest.Parent

theorem Descends.of_root (descends : forest.Descends id other) (root : ∀ parent, ¬ forest.Parent id parent) :
    other = id := by
  induction descends using Relation.ReflTransGen.head_induction_on with
  | refl => rfl
  | head named _ _ => exact absurd named (root _)

theorem Descends.roots_eq {one two : Id} (first : forest.Descends id one) (second : forest.Descends id two)
    (root : ∀ parent, ¬ forest.Parent one parent) (also : ∀ parent, ¬ forest.Parent two parent) : one = two := by
  have unique : Relator.RightUnique forest.Parent := fun _ _ _ => Parent.unique
  rcases Relation.ReflTransGen.total_of_right_unique unique first second with up | down
  · exact (Descends.of_root up root).symm
  · exact Descends.of_root down also

/-- No node of an acyclic forest descends from its own parent. -/
def Acyclic (forest : Forest Id) : Prop := ∀ id, ¬ Relation.TransGen forest.Parent id id

namespace Acyclic

theorem empty : Acyclic (fun _ => none : Forest Id) := by
  intro id cycle
  obtain ⟨_, ⟨_, present, _⟩, _⟩ := Relation.TransGen.head'_iff.mp cycle
  cases present

theorem mono (acyclic : first.Acyclic) (old : ∀ child parent, last.Parent child parent → first.Parent child parent) :
    last.Acyclic := fun id cycle => acyclic id (Relation.TransGen.mono old id id cycle)

/-- A path over one new parent goes over the old ones alone, or it leads to the new child and on from its parent. -/
theorem path_cases (either : ∀ one two, last.Parent one two → first.Parent one two ∨ one = child ∧ two = parent)
    (apart : ¬ first.Descends parent child) {one two : Id} (path : Relation.TransGen last.Parent one two) :
    Relation.TransGen first.Parent one two ∨ first.Descends one child ∧ first.Descends parent two := by
  induction path with
  | single step =>
      rcases either _ _ step with old | ⟨rfl, rfl⟩
      · exact .inl (.single old)
      · exact .inr ⟨.refl, .refl⟩
  | tail _ step ih =>
      rcases either _ _ step with old | ⟨rfl, rfl⟩
      · exact ih.imp (·.tail old) fun ⟨up, on⟩ => ⟨up, on.tail old⟩
      · rcases ih with before | ⟨_, on⟩
        · exact .inr ⟨before.to_reflTransGen, .refl⟩
        · exact absurd on apart

theorem hang (acyclic : first.Acyclic)
    (either : ∀ one two, last.Parent one two → first.Parent one two ∨ one = child ∧ two = parent)
    (apart : ¬ first.Descends parent child) : last.Acyclic := by
  intro id cycle
  rcases path_cases either apart cycle with old | ⟨up, on⟩
  · exact acyclic id old
  · exact apart (on.trans up)

end Acyclic

/-- A node climbs to its parent, to the parent of its parent and so on. -/
def climb (forest : Forest Id) : Nat → Id → Option Id
  | 0, id => some id
  | steps + 1, id => ((forest id).bind Node.parent).bind (forest.climb steps)

variable [DecidableEq Id]

/-- A climb in an acyclic forest meets a new node in each step, beside those that it met before. -/
theorem Acyclic.climb_visited (acyclic : forest.Acyclic) {nodes visited : Finset Id}
    (live : ∀ id node, forest id = some node → id ∈ nodes) (among : visited ⊆ nodes) {steps : Nat}
    (below : ∀ other ∈ visited, Relation.TransGen forest.Parent other id)
    (climbs : forest.climb steps id = some other) : steps + visited.card ≤ nodes.card := by
  induction steps generalizing id visited with
  | zero =>
      rw [Nat.zero_add]
      exact Finset.card_le_card among
  | succ steps ih =>
      obtain ⟨parent, named, climbs⟩ := Option.bind_eq_some_iff.mp climbs
      obtain ⟨node, there, hung⟩ := Option.bind_eq_some_iff.mp named
      have step : forest.Parent id parent := ⟨node, there, hung⟩
      have fresh : id ∉ visited := fun member => acyclic id (below id member)
      have more : insert id visited ⊆ nodes := Finset.insert_subset (live id node there) among
      have bound : steps + (insert id visited).card ≤ nodes.card := by
        refine ih more (fun other member => ?_) climbs
        rcases Finset.mem_insert.mp member with rfl | earlier
        · exact .single step
        · exact (below other earlier).tail step
      rw [Finset.card_insert_of_notMem fresh] at bound
      omega

theorem Acyclic.climb_le (acyclic : forest.Acyclic) {nodes : Finset Id}
    (live : ∀ id node, forest id = some node → id ∈ nodes) {steps : Nat}
    (climbs : forest.climb steps id = some other) : steps ≤ nodes.card :=
  acyclic.climb_visited live (Finset.empty_subset nodes) (by simp) climbs

/-- A forest grows, is rearranged or shrinks in one of these steps among the addresses that were ever known. -/
inductive Grows : Forest Id × Set Id → Forest Id × Set Id → Prop
  | create {forest : Forest Id} {known : Set Id} {target : Id} (fresh : target ∉ known) :
      Grows (forest, known) (forest.put target (some .bare), insert target known)
  | part {forest : Forest Id} {known : Set Id} (child : Id) : Grows (forest, known) (forest.part child, known)
  | remove {forest : Forest Id} {known : Set Id} (target : Id) : Grows (forest, known) (forest.put target none, known)
  | rearrange {forest : Forest Id} {known : Set Id} {target : Id} {update : Node Id → Node Id}
      (kept : ∀ node, forest target = some node → (update node).parent = node.parent ∧
        ∀ child ∈ node.children, child ∈ (update node).children) :
      Grows (forest, known) (forest.change target update, known)
  | hang {forest : Forest Id} {known : Set Id} {child parent : Id} {update insert : Node Id → Node Id}
      (named : parent ∈ known) (apart : ¬ forest.Descends parent child)
      (updated : ∀ node, (update node).parent = some parent ∧ (update node).children = node.children)
      (inserted : ∀ node, (insert node).parent = node.parent ∧ child ∈ (insert node).children ∧
        ∀ other ∈ node.children, other ∈ (insert node).children) :
      Grows (forest, known) ((forest.change child update).change parent insert, known)

/-- A child is housed when its parent is known and lists it as long as it is there. -/
structure Housed (forest : Forest Id) (known : Set Id) : Prop where
  known : ∀ child parent, forest.Parent child parent → parent ∈ known
  held : ∀ child parent node, forest.Parent child parent → forest parent = some node → child ∈ node.children

/-- A node that is left after a child left its lists was there before, and it lists the other children as before. -/
theorem old_of_part {node : Node Id} (present : forest.part child id = some node) :
    ∃ before, forest id = some before ∧
      (∀ parent, node.parent = some parent → id ≠ child ∧ before.parent = some parent) ∧
      ∀ other, other ≠ child → other ∈ before.children → other ∈ node.children := by
  have rooted {forest : Forest Id} (present : forest.change child .rooted id = some node) :
      ∃ before, forest id = some before ∧ node.children = before.children ∧
        ∀ parent, node.parent = some parent → id ≠ child ∧ before.parent = some parent := by
    obtain ⟨before, there, ⟨_, rfl⟩ | ⟨away, rfl⟩⟩ := old_of_change present
    · exact ⟨before, there, rfl, nofun⟩
    · exact ⟨_, there, rfl, fun parent named => ⟨away, named⟩⟩
  unfold part at present
  cases link : (forest child).bind Node.link with
  | none =>
    rw [link] at present
    obtain ⟨before, there, same, named⟩ := rooted present
    exact ⟨before, there, named, fun other _ member => same ▸ member⟩
  | some owner =>
    rw [link] at present
    obtain ⟨middle, shown, same, named⟩ := rooted present
    obtain ⟨before, there, ⟨_, rfl⟩ | ⟨_, rfl⟩⟩ := old_of_change shown
    · refine ⟨before, there, named, fun other away member => ?_⟩
      rw [same]
      exact (List.mem_append.mp member).elim
        (fun above => List.mem_append_left _ ((List.mem_erase_of_ne away).mpr above))
        fun below => List.mem_append_right _ ((List.mem_erase_of_ne away).mpr below)
    · exact ⟨_, there, named, fun other _ member => same ▸ member⟩

namespace Parent

variable {target one two : Id} {update insert : Node Id → Node Id}

theorem of_put {node : Option (Node Id)} (root : ∀ record, node = some record → record.parent = none)
    (named : (forest.put target node).Parent one two) : forest.Parent one two := by
  obtain ⟨record, present, parent⟩ := named
  unfold put at present
  split at present
  · cases (root record present).symm.trans parent
  · exact ⟨record, present, parent⟩

/-- A child that left its lists names no parent, and the others name the parents from before. -/
theorem of_part (named : (forest.part child).Parent one two) : one ≠ child ∧ forest.Parent one two := by
  obtain ⟨node, present, parent⟩ := named
  obtain ⟨before, there, parents, _⟩ := old_of_part present
  obtain ⟨away, same⟩ := parents two parent
  exact ⟨away, before, there, same⟩

theorem of_rearrange (kept : ∀ node, forest target = some node → (update node).parent = node.parent)
    (named : (forest.change target update).Parent one two) : forest.Parent one two := by
  obtain ⟨node, present, parent⟩ := named
  obtain ⟨before, there, ⟨rfl, rfl⟩ | ⟨_, rfl⟩⟩ := old_of_change present
  · exact ⟨before, there, kept before there ▸ parent⟩
  · exact ⟨_, there, parent⟩

/-- A child that is hung names its new parent, and the others name the parents from before. -/
theorem of_hang (updated : ∀ node, (update node).parent = some parent)
    (inserted : ∀ node, (insert node).parent = node.parent)
    (named : ((forest.change child update).change parent insert).Parent one two) :
    forest.Parent one two ∨ one = child ∧ two = parent := by
  obtain ⟨node, present, hung⟩ := of_rearrange (fun node _ => inserted node) named
  obtain ⟨before, there, ⟨rfl, rfl⟩ | ⟨_, rfl⟩⟩ := old_of_change present
  · exact .inr ⟨rfl, Option.some.inj (hung.symm.trans (updated before))⟩
  · exact .inl ⟨_, there, hung⟩

end Parent

namespace Grows

variable {before after : Forest Id × Set Id}

theorem acyclic (grows : Grows before after) (acyclic : before.1.Acyclic) : after.1.Acyclic := by
  cases grows with
  | create => exact acyclic.mono fun _ _ => Parent.of_put (by rintro _ ⟨⟩; rfl)
  | part child => exact acyclic.mono fun _ _ named => named.of_part.2
  | remove => exact acyclic.mono fun _ _ => Parent.of_put nofun
  | rearrange kept => exact acyclic.mono fun _ _ => Parent.of_rearrange fun node there => (kept node there).1
  | hang _ apart updated inserted =>
      refine acyclic.hang (fun _ _ => Parent.of_hang ?_ ?_) apart
      · exact fun node => (updated node).1
      · exact fun node => (inserted node).1

theorem housed (grows : Grows before after) (housed : before.1.Housed before.2) : after.1.Housed after.2 := by
  cases grows with
  | @create forest known target fresh =>
      have old {one two : Id} : (forest.put target (some .bare)).Parent one two → forest.Parent one two :=
        Parent.of_put (by rintro _ ⟨⟩; rfl)
      refine ⟨fun one two named => Set.mem_insert_of_mem _ (housed.known one two (old named)), ?_⟩
      intro one two node named present
      change (if two = target then _ else forest two) = some node at present
      split at present
      · rename_i same
        exact absurd (same ▸ housed.known one two (old named)) fresh
      · exact housed.held one two node (old named) present
  | part child =>
      refine ⟨fun one two named => housed.known one two named.of_part.2, fun one two node named present => ?_⟩
      obtain ⟨before, there, _, listed⟩ := old_of_part present
      exact listed one named.of_part.1 (housed.held one two before named.of_part.2 there)
  | @remove forest _ target =>
      have old {one two : Id} : (forest.put target none).Parent one two → forest.Parent one two := Parent.of_put nofun
      refine ⟨fun one two named => housed.known one two (old named), fun one two node named present => ?_⟩
      change (if two = target then _ else forest two) = some node at present
      split at present
      · cases present
      · exact housed.held one two node (old named) present
  | @rearrange forest _ target update kept =>
      have old {one two : Id} : (forest.change target update).Parent one two → forest.Parent one two :=
        Parent.of_rearrange fun node there => (kept node there).1
      refine ⟨fun one two named => housed.known one two (old named), fun one two node named present => ?_⟩
      obtain ⟨before, there, ⟨rfl, rfl⟩ | ⟨_, rfl⟩⟩ := old_of_change present
      · exact (kept before there).2 one (housed.held one _ before (old named) there)
      · exact housed.held one two _ (old named) there
  | @hang forest _ child parent update insert known apart updated inserted =>
      have old {one two : Id} :
          ((forest.change child update).change parent insert).Parent one two →
            forest.Parent one two ∨ one = child ∧ two = parent :=
        Parent.of_hang (fun node => (updated node).1) fun node => (inserted node).1
      refine ⟨fun one two named => ?_, fun one two node named present => ?_⟩
      · rcases old named with before | ⟨_, rfl⟩
        · exact housed.known one two before
        · exact known
      · obtain ⟨middle, shown, late⟩ := old_of_change present
        obtain ⟨before, there, early⟩ := old_of_change shown
        have listed : middle.children = before.children := by
          rcases early with ⟨_, rfl⟩ | ⟨_, rfl⟩
          · exact (updated before).2
          · rfl
        rcases late with ⟨rfl, rfl⟩ | ⟨away, rfl⟩
        · rcases old named with earlier | ⟨rfl, _⟩
          · exact (inserted middle).2.2 one (listed ▸ housed.held one two before earlier there)
          · exact (inserted middle).2.1
        · rcases old named with earlier | ⟨_, rfl⟩
          · exact listed ▸ housed.held one two before earlier there
          · exact absurd rfl away

theorem run_acyclic (run : Relation.ReflTransGen Grows before after) (acyclic : before.1.Acyclic) :
    after.1.Acyclic := by
  induction run with
  | refl => exact acyclic
  | tail _ grows ih => exact grows.acyclic ih

theorem run_housed (run : Relation.ReflTransGen Grows before after) (housed : before.1.Housed before.2) :
    after.1.Housed after.2 := by
  induction run with
  | refl => exact housed
  | tail _ grows ih => exact grows.housed ih

end Grows

end SwaylockPlugin.Library.Forest
