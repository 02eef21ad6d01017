import Mathlib.Data.List.Nodup
import Mathlib.Data.List.Basic

namespace SwaylockPlugin.Library

section Linked

variable {Node Name : Type} (name : Node → Name)

theorem split_of_name {name : Node → Name} {nodes : List Node} {target : Name} (member : target ∈ nodes.map name) :
    ∃ front node back, nodes = front ++ node :: back ∧ name node = target := by
  obtain ⟨node, inside, named⟩ := List.mem_map.mp member
  obtain ⟨front, back, split⟩ := List.append_of_mem inside
  exact ⟨front, node, back, split, named⟩

theorem split_of_index {nodes : List Node} {node : Node} {index : Nat} (found : nodes[index]? = some node) :
    ∃ front back, nodes = front ++ node :: back ∧ front.length = index := by
  obtain ⟨inside, rfl⟩ := List.getElem?_eq_some_iff.mp found
  refine ⟨nodes.take index, nodes.drop (index + 1), ?_, List.length_take_of_le (Nat.le_of_lt inside)⟩
  rw [← List.drop_eq_getElem_cons inside, List.take_append_drop]

theorem nodup_concat {name : Node → Name} {nodes : List Node} {node : Node} (distinct : (nodes.map name).Nodup)
    (fresh : ∀ other ∈ nodes, name other ≠ name node) : ((nodes ++ [node]).map name).Nodup := by
  rw [List.map_append, List.nodup_append]
  refine ⟨distinct, List.nodup_singleton _, ?_⟩
  intro one member two last
  obtain ⟨other, inside, rfl⟩ := List.mem_map.mp member
  rw [List.mem_singleton.mp last]
  exact fresh other inside

variable [DecidableEq Name]

/-- A node of a list is reached through its name. -/
def nodeAt (nodes : List Node) (target : Name) : Option Node := nodes.find? fun node => name node == target

/-- The node that follows a node is known by its name, and the last node has none behind it. -/
def following : List Node → Name → Option Name
  | [], _ => none
  | node :: rest, target => if name node = target then rest.head?.map name else following rest target

/-- A node leaves the list. -/
def unlink (nodes : List Node) (target : Name) : List Node := nodes.filter fun node => name node != target

variable {name} {nodes front back : List Node} {node : Node} {target : Name}

/-- A node that no other node shares the name with is reached where the list is split. -/
theorem nodeAt_split (distinct : ((front ++ node :: back).map name).Nodup) :
    nodeAt name (front ++ node :: back) (name node) = some node := by
  induction front with
  | nil => exact List.find?_cons_of_pos (beq_self_eq_true _)
  | cons first front ih =>
      rw [List.cons_append, List.map_cons, List.nodup_cons] at distinct
      have other : name first ≠ name node := by
        intro same
        apply distinct.1
        rw [same]
        exact List.mem_map_of_mem (List.mem_append_right _ List.mem_cons_self)
      rw [List.cons_append, nodeAt, List.find?_cons_of_neg (by simpa using other)]
      exact ih distinct.2

theorem following_split (distinct : ((front ++ node :: back).map name).Nodup) :
    following name (front ++ node :: back) (name node) = back.head?.map name := by
  induction front with
  | nil => exact if_pos rfl
  | cons first front ih =>
      rw [List.cons_append, List.map_cons, List.nodup_cons] at distinct
      have other : name first ≠ name node := by
        intro same
        apply distinct.1
        rw [same]
        exact List.mem_map_of_mem (List.mem_append_right _ List.mem_cons_self)
      rw [List.cons_append, following, if_neg other]
      exact ih distinct.2

theorem unlink_split (distinct : ((front ++ node :: back).map name).Nodup) :
    unlink name (front ++ node :: back) (name node) = front ++ back := by
  rw [List.map_append, List.map_cons] at distinct
  obtain ⟨_, behind, apart⟩ := List.nodup_append.mp distinct
  have before : ∀ other ∈ front, (name other != name node) = true := fun other member =>
    bne_iff_ne.mpr (apart _ (List.mem_map_of_mem member) _ List.mem_cons_self)
  have after : ∀ other ∈ back, (name other != name node) = true := fun other member =>
    bne_iff_ne.mpr fun same => (List.nodup_cons.mp behind).1 (same ▸ List.mem_map_of_mem member)
  rw [unlink, List.filter_append, List.filter_cons_of_neg (by simp), List.filter_eq_self.mpr before,
    List.filter_eq_self.mpr after]

theorem unlink_sublist (nodes : List Node) (target : Name) : (unlink name nodes target).Sublist nodes :=
  List.filter_sublist

theorem unlink_gone (nodes : List Node) (target : Name) : target ∉ (unlink name nodes target).map name := by
  intro member
  obtain ⟨node, inside, named⟩ := List.mem_map.mp member
  exact bne_iff_ne.mp (List.mem_filter.mp inside).2 named

theorem unlink_stays {other : Name} (member : other ∈ nodes.map name) (apart : other ≠ target) :
    other ∈ (unlink name nodes target).map name := by
  obtain ⟨node, inside, rfl⟩ := List.mem_map.mp member
  exact List.mem_map_of_mem (List.mem_filter.mpr ⟨inside, bne_iff_ne.mpr apart⟩)

/-- A walk that marks the first node with a name takes it from the nodes that are kept. -/
theorem filter_mark {kept : Node → Bool} {mark : Node → Node} {walk : List Node → List Node} (empty : walk [] = [])
    (next : ∀ node rest, walk (node :: rest) = if name node = target then mark node :: rest else node :: walk rest)
    (marks : ∀ node, kept (mark node) = false) (distinct : (nodes.map name).Nodup) :
    (walk nodes).filter kept = unlink name (nodes.filter kept) target := by
  induction nodes with
  | nil =>
      rw [empty]
      rfl
  | cons node nodes ih =>
      rw [List.map_cons, List.nodup_cons] at distinct
      rw [next]
      split
      · rename_i here
        -- The walk stops here, and the nodes behind have other names.
        have others : ∀ other ∈ nodes.filter kept, (name other != target) = true := by
          intro other member
          rw [bne_iff_ne]
          rintro rfl
          exact distinct.1 (here ▸ List.mem_map_of_mem (List.mem_filter.mp member).1)
        rw [List.filter_cons_of_neg (by simp [marks]), unlink, List.filter_cons]
        split
        · rw [List.filter_cons_of_neg (by simp [here]), List.filter_eq_self.mpr others]
        · rw [List.filter_eq_self.mpr others]
      · rename_i other
        rw [List.filter_cons, List.filter_cons, ih distinct.2]
        split
        · exact (List.filter_cons_of_pos (p := fun node => name node != target) (bne_iff_ne.mpr other)).symm
        · rfl

theorem filter_unlink (kept : Node → Bool) (nodes : List Node) (target : Name) :
    (unlink name nodes target).filter kept = unlink name (nodes.filter kept) target :=
  List.filter_comm _ _ nodes

end Linked

end SwaylockPlugin.Library
