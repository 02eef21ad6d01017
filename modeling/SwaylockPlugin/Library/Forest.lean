import Mathlib.Data.List.Nodup
import Mathlib.Data.List.Perm.Basic

namespace SwaylockPlugin.Library

/-- A node names its parent and the node whose lists its entry is linked into, and it lists its children. -/
structure Node (Id : Type) where
  parent : Option Id
  link : Option Id
  above : List Id
  below : List Id

/-- The children of a node stand in its two lists. -/
def Node.children {Id : Type} (node : Node Id) : List Id := node.above ++ node.below

/-- A root without children is not linked. -/
def Node.bare {Id : Type} : Node Id := ⟨none, none, [], []⟩

/-- A node loses one child. -/
def Node.without {Id : Type} [DecidableEq Id] (child : Id) (node : Node Id) : Node Id :=
  { node with above := node.above.erase child, below := node.below.erase child }

theorem Node.children_without {Id : Type} [DecidableEq Id] (node : Node Id) {child : Id} (once : node.children.Nodup) :
    (node.without child).children = node.children.erase child := by
  change node.above.erase child ++ node.below.erase child = (node.above ++ node.below).erase child
  rw [List.erase_append]
  split
  · rename_i above
    have below : child ∉ node.below := fun member => (List.nodup_append.mp once).2.2 child above child member rfl
    rw [List.erase_of_not_mem below]
  · rename_i above
    rw [List.erase_of_not_mem above]

/-- A node becomes a root. -/
def Node.rooted {Id : Type} (node : Node Id) : Node Id := { node with parent := none, link := none }

/-- A forest holds its nodes at some of the addresses. -/
abbrev Forest (Id : Type) := Id → Option (Node Id)

namespace Forest

variable {Id : Type} [DecidableEq Id] {forest : Forest Id}

/-- One node of a forest changes. -/
def change (forest : Forest Id) (target : Id) (update : Node Id → Node Id) : Forest Id := fun id =>
  if id = target then (forest id).map update else forest id

/-- One address of a forest gets another node or none. -/
def put (forest : Forest Id) (target : Id) (node : Option (Node Id)) : Forest Id := fun id =>
  if id = target then node else forest id

/-- A child leaves the lists that it is linked into and becomes a root. -/
def part (forest : Forest Id) (child : Id) : Forest Id :=
  match (forest child).bind Node.link with
  | none => forest.change child .rooted
  | some owner => (forest.change owner (.without child)).change child .rooted

/-- A forest is sound when each child names the parent that lists it, and each parent lists it once. -/
structure Sound (forest : Forest Id) : Prop where
  once : ∀ id node, forest id = some node → node.children.Nodup
  listed : ∀ id node child, forest id = some node → child ∈ node.children →
    ∃ record, forest child = some record ∧ record.parent = some id
  held : ∀ child record id, forest child = some record → record.parent = some id →
    ∃ node, forest id = some node ∧ child ∈ node.children
  linked : ∀ child record, forest child = some record → record.link = record.parent

theorem old_of_change {target id : Id} {update : Node Id → Node Id} {node : Node Id}
    (present : forest.change target update id = some node) :
    ∃ old, forest id = some old ∧ (id = target ∧ node = update old ∨ id ≠ target ∧ node = old) := by
  unfold change at present
  split at present
  · rename_i same
    obtain ⟨old, there, rfl⟩ := Option.map_eq_some_iff.mp present
    exact ⟨old, there, .inl ⟨same, rfl⟩⟩
  · rename_i apart
    exact ⟨node, present, .inr ⟨apart, rfl⟩⟩

theorem change_of_present {target id : Id} {update : Node Id → Node Id} {node : Node Id}
    (present : forest id = some node) :
    forest.change target update id = some (if id = target then update node else node) := by
  unfold change
  split
  · rw [present, Option.map_some]
  · exact present

/-- A child that leaves its lists keeps no parent, and every other node keeps its own. -/
theorem parent_of_part (child id : Id) :
    (forest.part child id).map Node.parent = if id = child then (forest child).map fun _ => none
      else (forest id).map Node.parent := by
  have rooted (other : Forest Id) : (other.change child .rooted id).map Node.parent =
      if id = child then (other child).map fun _ => none else (other id).map Node.parent := by
    unfold change
    split
    · rename_i same
      rw [same, Option.map_map]
      rfl
    · rfl
  unfold part
  cases (forest child).bind Node.link with
  | none => exact rooted forest
  | some owner =>
      have kept {View : Type} (view : Node Id → View) (same : ∀ node, view (node.without child) = view node) (id : Id) :
          (forest.change owner (.without child) id).map view = (forest id).map view := by
        unfold change
        split
        · rw [Option.map_map]
          exact congrArg (fun view => (forest id).map view) (funext same)
        · rfl
      dsimp only
      rw [rooted, kept Node.parent fun _ => rfl, kept (fun _ => none) fun _ => rfl]

/-- A forest loses parents when nodes leave it and nodes that stay become roots at most. -/
def Loses (first last : Forest Id) : Prop :=
  ∀ id node, last id = some node → ∃ before, first id = some before ∧ (node.parent = none ∨ node.parent = before.parent)

namespace Loses

variable {first second third : Forest Id}

omit [DecidableEq Id] in
theorem refl (forest : Forest Id) : Loses forest forest := fun _ node present => ⟨node, present, .inr rfl⟩

omit [DecidableEq Id] in
theorem trans (one : Loses first second) (two : Loses second third) : Loses first third := by
  intro id node present
  obtain ⟨middle, there, lost⟩ := two id node present
  obtain ⟨before, start, lost_⟩ := one id middle there
  refine ⟨before, start, ?_⟩
  rcases lost with none_ | same
  · exact .inl none_
  · rw [same]
    exact lost_

theorem part (forest : Forest Id) (child : Id) : Loses forest (forest.part child) := by
  intro id node present
  have parents := @parent_of_part _ _ forest child id
  rw [present, Option.map_some] at parents
  split at parents
  · rename_i same
    obtain ⟨before, there, none_⟩ := Option.map_eq_some_iff.mp parents.symm
    exact ⟨before, same ▸ there, .inl none_.symm⟩
  · obtain ⟨before, there, same⟩ := Option.map_eq_some_iff.mp parents.symm
    exact ⟨before, there, .inr same.symm⟩

theorem remove (forest : Forest Id) (target : Id) : Loses forest (forest.put target none) := by
  intro id node present
  unfold put at present
  split at present
  · cases present
  · exact ⟨node, present, .inr rfl⟩

end Loses

namespace Sound

variable {update : Node Id → Node Id} {target child : Id}

omit [DecidableEq Id] in
theorem empty : Sound (fun _ => none : Forest Id) where
  once _ _ present := nomatch present
  listed _ _ _ present := nomatch present
  held _ _ _ present := nomatch present
  linked _ _ present := nomatch present

omit [DecidableEq Id] in
theorem unlisted (sound : forest.Sound) {record : Node Id} (present : forest child = some record)
    (root : record.parent = none) {id : Id} {node : Node Id} (there : forest id = some node) :
    child ∉ node.children := by
  intro member
  obtain ⟨found, same, parent⟩ := sound.listed id node child there member
  rw [present, Option.some.injEq] at same
  rw [← same, root] at parent
  cases parent

theorem rearrange (sound : forest.Sound)
    (kept : ∀ node, forest target = some node → (update node).parent = node.parent ∧ (update node).link = node.link)
    (perm : ∀ node, forest target = some node → (update node).children.Perm node.children) :
    (forest.change target update).Sound where
  once id node present := by
    obtain ⟨old, there, ⟨rfl, rfl⟩ | ⟨_, rfl⟩⟩ := old_of_change present
    · exact (perm old there).nodup_iff.mpr (sound.once id old there)
    · exact sound.once id _ there
  listed id node child present member := by
    have before : ∃ old, forest id = some old ∧ child ∈ old.children := by
      obtain ⟨old, there, ⟨rfl, rfl⟩ | ⟨_, rfl⟩⟩ := old_of_change present
      · exact ⟨old, there, (perm old there).mem_iff.mp member⟩
      · exact ⟨_, there, member⟩
    obtain ⟨old, there, member⟩ := before
    obtain ⟨record, found, parent⟩ := sound.listed id old child there member
    refine ⟨_, change_of_present found, ?_⟩
    split
    · rename_i same
      rw [(kept record (same ▸ found)).1, parent]
    · exact parent
  held child record id present parent := by
    have before : ∃ old, forest child = some old ∧ old.parent = some id := by
      obtain ⟨old, there, ⟨rfl, rfl⟩ | ⟨_, rfl⟩⟩ := old_of_change present
      · exact ⟨old, there, (kept old there).1 ▸ parent⟩
      · exact ⟨_, there, parent⟩
    obtain ⟨old, there, parent⟩ := before
    obtain ⟨node, found, member⟩ := sound.held child old id there parent
    refine ⟨_, change_of_present found, ?_⟩
    split
    · rename_i same
      exact (perm node (same ▸ found)).mem_iff.mpr member
    · exact member
  linked child record present := by
    obtain ⟨old, there, ⟨rfl, rfl⟩ | ⟨_, rfl⟩⟩ := old_of_change present
    · rw [(kept old there).1, (kept old there).2]
      exact sound.linked child old there
    · exact sound.linked child _ there

theorem create (sound : forest.Sound) (fresh : forest target = none) : (forest.put target (some .bare)).Sound := by
  have other {id : Id} {node : Node Id} (present : forest id = some node) :
      forest.put target (some .bare) id = some node := by
    refine (if_neg ?_).trans present
    rintro rfl
    rw [fresh] at present
    cases present
  have old {id : Id} {node : Node Id} (present : forest.put target (some .bare) id = some node) :
      node = .bare ∨ forest id = some node := by
    unfold put at present
    split at present
    · exact .inl (Option.some.inj present).symm
    · exact .inr present
  refine ⟨fun id node present => ?_, fun id node child present member => ?_, fun child record id present parent => ?_,
    fun child record present => ?_⟩
  · rcases old present with rfl | there
    · exact List.nodup_nil
    · exact sound.once id node there
  · rcases old present with rfl | there
    · cases member
    · obtain ⟨record, found, parent⟩ := sound.listed id node child there member
      exact ⟨record, other found, parent⟩
  · rcases old present with rfl | there
    · cases parent
    · obtain ⟨node, found, member⟩ := sound.held child record id there parent
      exact ⟨node, other found, member⟩
  · rcases old present with rfl | there
    · rfl
    · exact sound.linked child record there

theorem attach (sound : forest.Sound) {root : Node Id} (present : forest child = some root)
    (free : root.parent = none) {parent : Id} {owner : Node Id} (there : forest parent = some owner)
    (apart : parent ≠ child) {insert : Node Id → Node Id}
    (child_ : ∀ node, (update node).parent = some parent ∧ (update node).link = some parent ∧
      (update node).children = node.children)
    (kept : ∀ node, (insert node).parent = node.parent ∧ (insert node).link = node.link)
    (perm : ∀ node, (insert node).children.Perm (child :: node.children)) :
    ((forest.change child update).change parent insert).Sound := by
  have alone {id : Id} {node : Node Id} (found : forest id = some node) : child ∉ node.children :=
    sound.unlisted present free found
  have old {id : Id} {node : Node Id} (found : (forest.change child update).change parent insert id = some node) :
      ∃ before, forest id = some before ∧
        (id = child ∧ node = update before ∨ id = parent ∧ node = insert before ∨
          id ≠ child ∧ id ≠ parent ∧ node = before) := by
    obtain ⟨middle, first, late⟩ := old_of_change found
    obtain ⟨before, start, early⟩ := old_of_change first
    refine ⟨before, start, ?_⟩
    rcases late with ⟨rfl, rfl⟩ | ⟨other, rfl⟩
    · rcases early with ⟨same, _⟩ | ⟨_, rfl⟩
      · exact absurd same apart
      · exact .inr (.inl ⟨rfl, rfl⟩)
    · rcases early with ⟨rfl, rfl⟩ | ⟨away, rfl⟩
      · exact .inl ⟨rfl, rfl⟩
      · exact .inr (.inr ⟨away, other, rfl⟩)
  have new {id : Id} {node : Node Id} (found : forest id = some node) :
      (forest.change child update).change parent insert id =
        some (if id = parent then insert node else if id = child then update node else node) := by
    rw [change_of_present (change_of_present found)]
    by_cases same : id = parent
    · rw [if_pos same, if_pos same, if_neg (same ▸ apart)]
    · rw [if_neg same, if_neg same]
  have parents {id : Id} (node : Node Id) (away : id ≠ child) :
      (if id = parent then insert node else if id = child then update node else node).parent = node.parent := by
    rw [if_neg away]
    split
    · exact (kept node).1
    · rfl
  refine ⟨fun id node found => ?_, fun id node other found member => ?_, fun other record id found parent_ => ?_,
    fun other record found => ?_⟩
  · obtain ⟨before, start, ⟨rfl, rfl⟩ | ⟨rfl, rfl⟩ | ⟨_, _, rfl⟩⟩ := old found
    · rw [(child_ before).2.2]
      exact sound.once _ before start
    · rw [(perm before).nodup_iff, List.nodup_cons]
      exact ⟨alone start, sound.once _ before start⟩
    · exact sound.once id _ start
  · obtain ⟨before, start, changed⟩ := old found
    have either : other = child ∧ id = parent ∨ other ∈ before.children := by
      rcases changed with ⟨rfl, rfl⟩ | ⟨rfl, rfl⟩ | ⟨_, _, rfl⟩
      · rw [(child_ before).2.2] at member
        exact .inr member
      · rcases List.mem_cons.mp ((perm before).mem_iff.mp member) with rfl | member
        · exact .inl ⟨rfl, rfl⟩
        · exact .inr member
      · exact .inr member
    rcases either with ⟨rfl, rfl⟩ | member
    · refine ⟨_, new present, ?_⟩
      rw [if_neg apart.symm, if_pos rfl]
      exact (child_ root).1
    · obtain ⟨record, there, parent_⟩ := sound.listed id before other start member
      have away : other ≠ child := by
        rintro rfl
        exact alone start member
      exact ⟨_, new there, (parents record away).trans parent_⟩
  · obtain ⟨before, start, changed⟩ := old found
    have either : other = child ∧ id = parent ∨ before.parent = some id := by
      rcases changed with ⟨rfl, rfl⟩ | ⟨rfl, rfl⟩ | ⟨_, _, rfl⟩
      · rw [(child_ before).1, Option.some.injEq] at parent_
        exact .inl ⟨rfl, parent_.symm⟩
      · exact .inr ((kept before).1 ▸ parent_)
      · exact .inr parent_
    rcases either with ⟨rfl, rfl⟩ | parent_
    · refine ⟨_, new there, ?_⟩
      rw [if_pos rfl, (perm owner).mem_iff]
      exact List.mem_cons_self
    · obtain ⟨node, there, member⟩ := sound.held other before id start parent_
      refine ⟨_, new there, ?_⟩
      split
      · rw [(perm node).mem_iff]
        exact List.mem_cons_of_mem _ member
      · split
        · rw [(child_ node).2.2]
          exact member
        · exact member
  · obtain ⟨before, start, ⟨rfl, rfl⟩ | ⟨rfl, rfl⟩ | ⟨_, _, rfl⟩⟩ := old found
    · rw [(child_ before).1, (child_ before).2.1]
    · rw [(kept before).1, (kept before).2]
      exact sound.linked _ before start
    · exact sound.linked other _ start

theorem detach (sound : forest.Sound) {record : Node Id} (present : forest child = some record) {owner : Id}
    (parent : record.parent = some owner) {remove reset : Node Id → Node Id}
    (kept : ∀ node, (remove node).parent = node.parent ∧ (remove node).link = node.link)
    (erased : ∀ node, node.children.Nodup → (remove node).children.Perm (node.children.erase child))
    (root : ∀ node, (reset node).parent = none ∧ (reset node).link = none ∧ (reset node).children = node.children) :
    ((forest.change owner remove).change child reset).Sound := by
  have old {id : Id} {node : Node Id} (found : (forest.change owner remove).change child reset id = some node) :
      ∃ before, forest id = some before ∧
        (id = child ∧ node.parent = none ∧ node.link = none ∨
          id ≠ child ∧ node.parent = before.parent ∧ node.link = before.link) ∧
        (id = owner ∧ node.children = (remove before).children ∨ id ≠ owner ∧ node.children = before.children) := by
    obtain ⟨middle, first, late⟩ := old_of_change found
    obtain ⟨before, start, early⟩ := old_of_change first
    refine ⟨before, start, ?_, ?_⟩
    · rcases late with ⟨rfl, rfl⟩ | ⟨away, rfl⟩
      · exact .inl ⟨rfl, (root middle).1, (root middle).2.1⟩
      · rcases early with ⟨_, rfl⟩ | ⟨_, rfl⟩
        · exact .inr ⟨away, (kept before).1, (kept before).2⟩
        · exact .inr ⟨away, rfl, rfl⟩
    · have same : node.children = middle.children := by
        rcases late with ⟨_, rfl⟩ | ⟨_, rfl⟩
        · exact (root middle).2.2
        · rfl
      rcases early with ⟨here, rfl⟩ | ⟨away, rfl⟩
      · exact .inl ⟨here, same⟩
      · exact .inr ⟨away, same⟩
  have new {id : Id} {node : Node Id} (found : forest id = some node) :
      ∃ after, (forest.change owner remove).change child reset id = some after ∧
        (id ≠ child → after.parent = node.parent) ∧
        ∀ other, other ≠ child → other ∈ node.children → other ∈ after.children := by
    refine ⟨_, change_of_present (change_of_present found), fun away => ?_, fun other apart member => ?_⟩
    · rw [if_neg away]
      split
      · exact (kept node).1
      · rfl
    · have kept_ : other ∈ (if id = owner then remove node else node).children := by
        split
        · rw [(erased node (sound.once id node found)).mem_iff, List.mem_erase_of_ne apart]
          exact member
        · exact member
      split
      · rw [(root _).2.2]
        exact kept_
      · exact kept_
  have gone {id : Id} {node : Node Id} (found : (forest.change owner remove).change child reset id = some node) :
      child ∉ node.children := by
    obtain ⟨before, start, _, ⟨rfl, same⟩ | ⟨away, same⟩⟩ := old found
    · rw [same, (erased before (sound.once _ before start)).mem_iff]
      exact (sound.once _ before start).not_mem_erase
    · rw [same]
      intro member
      obtain ⟨found_, there, parent_⟩ := sound.listed id before child start member
      rw [present, Option.some.injEq] at there
      rw [← there, parent, Option.some.injEq] at parent_
      exact away parent_.symm
  refine ⟨fun id node found => ?_, fun id node other found member => ?_, fun other node id found parent_ => ?_,
    fun other node found => ?_⟩
  · obtain ⟨before, start, _, ⟨_, same⟩ | ⟨_, same⟩⟩ := old found
    · rw [same, (erased before (sound.once id before start)).nodup_iff]
      exact (sound.once id before start).erase child
    · rw [same]
      exact sound.once id before start
  · have apart : other ≠ child := by
      rintro rfl
      exact gone found member
    obtain ⟨before, start, _, lists⟩ := old found
    have member_ : other ∈ before.children := by
      rcases lists with ⟨_, same⟩ | ⟨_, same⟩
      · rw [same, (erased before (sound.once id before start)).mem_iff] at member
        exact List.mem_of_mem_erase member
      · exact same ▸ member
    obtain ⟨record_, there, parent_⟩ := sound.listed id before other start member_
    obtain ⟨after, found_, same, _⟩ := new there
    exact ⟨after, found_, (same apart).trans parent_⟩
  · obtain ⟨before, start, ⟨_, none_, _⟩ | ⟨apart, same, _⟩, _⟩ := old found
    · rw [none_] at parent_
      cases parent_
    · obtain ⟨node_, there, member⟩ := sound.held other before id start (same ▸ parent_)
      obtain ⟨after, found_, _, more⟩ := new there
      exact ⟨after, found_, more other apart member⟩
  · obtain ⟨before, start, ⟨_, parent_, link⟩ | ⟨_, parent_, link⟩, _⟩ := old found
    · rw [parent_, link]
    · rw [parent_, link]
      exact sound.linked other before start

theorem part (sound : forest.Sound) : (forest.part child).Sound := by
  unfold Forest.part
  cases present : forest child with
  | none =>
      have same : forest.change child .rooted = forest := by
        funext id
        unfold change
        split
        · rename_i here
          rw [here, present, Option.map_none]
        · rfl
      rw [Option.bind_none]
      dsimp only
      rw [same]
      exact sound
  | some record =>
      rw [Option.bind_some]
      have linked := sound.linked child record present
      cases link : record.link with
      | none =>
          have root : record.rooted = record := by
            rw [link] at linked
            cases record
            simp only at link linked
            rw [link, ← linked]
            rfl
          refine sound.rearrange (fun node there => ?_) fun node there => ?_
          · rw [present, Option.some.injEq] at there
            rw [← there, root]
            exact ⟨rfl, rfl⟩
          · exact .refl _
      | some owner =>
          have parent : record.parent = some owner := linked.symm.trans link
          exact sound.detach present parent (fun _ => ⟨rfl, rfl⟩) (fun node once => .of_eq (node.children_without once))
            fun _ => ⟨rfl, rfl, rfl⟩

theorem remove (sound : forest.Sound) {record : Node Id} (present : forest target = some record)
    (root : record.parent = none)
    (childless : ∀ child node, forest child = some node → node.parent ≠ some target) :
    (forest.put target none).Sound := by
  have old {id : Id} {node : Node Id} (found : forest.put target none id = some node) :
      id ≠ target ∧ forest id = some node := by
    unfold put at found
    split at found
    · cases found
    · rename_i apart
      exact ⟨apart, found⟩
  have new {id : Id} {node : Node Id} (apart : id ≠ target) (found : forest id = some node) :
      forest.put target none id = some node := (if_neg apart).trans found
  refine ⟨fun id node found => ?_, fun id node other found member => ?_, fun other node id found parent => ?_,
    fun other node found => ?_⟩
  · exact sound.once id node (old found).2
  · obtain ⟨record_, there, parent⟩ := sound.listed id node other (old found).2 member
    refine ⟨record_, new ?_ there, parent⟩
    rintro rfl
    exact sound.unlisted present root (old found).2 member
  · obtain ⟨node_, there, member⟩ := sound.held other node id (old found).2 parent
    refine ⟨node_, new ?_ there, member⟩
    rintro rfl
    exact childless other node (old found).2 parent
  · exact sound.linked other node (old found).2

end Sound

end Forest

end SwaylockPlugin.Library
