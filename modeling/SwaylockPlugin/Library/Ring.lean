import Mathlib.Data.List.Nodup
import Mathlib.Logic.Function.Basic
import Mathlib.Tactic.Tauto
import SwaylockPlugin.Library.Outcome

namespace SwaylockPlugin.Library

/-- The links of circular lists are a memory, in which each live node points to the next and to the previous one. -/
structure Links (Address : Type) where
  live : Address → Bool
  next : Address → Option Address
  prev : Address → Option Address

/-- A list operation fails where it uses memory that is gone or follows a null pointer, and a walk may not end. -/
inductive LinkFault where
  | freed
  | null
  | endless
  deriving DecidableEq

namespace Links

variable {Address : Type} [DecidableEq Address]

/-- A node that was just allocated has null pointers. -/
def map (links : Links Address) (node : Address) : Links Address where
  live := Function.update links.live node true
  next := Function.update links.next node none
  prev := Function.update links.prev node none

/-- A node that is released may not be used any more. -/
def unmap (links : Links Address) (node : Address) : Links Address :=
  { links with live := Function.update links.live node false }

/-- The next pointer of a live node is read. -/
def getNext (links : Links Address) (node : Address) : Except LinkFault (Option Address) := do
  require .freed (links.live node)
  return links.next node

/-- The previous pointer of a live node is read. -/
def getPrev (links : Links Address) (node : Address) : Except LinkFault (Option Address) := do
  require .freed (links.live node)
  return links.prev node

/-- The next pointer of a live node is written. -/
def setNext (links : Links Address) (node : Address) (value : Option Address) : Except LinkFault (Links Address) := do
  require .freed (links.live node)
  return { links with next := Function.update links.next node value }

/-- The previous pointer of a live node is written. -/
def setPrev (links : Links Address) (node : Address) (value : Option Address) : Except LinkFault (Links Address) := do
  require .freed (links.live node)
  return { links with prev := Function.update links.prev node value }

/-- An initialised list is its own neighbour on both sides. -/
def init (links : Links Address) (list : Address) : Links Address :=
  { links with
    next := Function.update links.next list (some list)
    prev := Function.update links.prev list (some list) }

/-- An element is inserted right after a node. -/
def insert (links : Links Address) (list element : Address) : Except LinkFault (Links Address) := do
  let links ← links.setPrev element (some list)
  let links ← links.setNext element (← links.getNext list)
  let links ← links.setNext list (some element)
  let after ← demand .null (← links.getNext element)
  links.setPrev after (some element)

/-- An element is removed from between its neighbours. -/
def remove (links : Links Address) (element : Address) : Except LinkFault (Links Address) := do
  let before ← demand .null (← links.getPrev element)
  let links ← links.setNext before (← links.getNext element)
  let after ← demand .null (← links.getNext element)
  let links ← links.setPrev after (← links.getPrev element)
  let links ← links.setNext element none
  links.setPrev element none

/-- A safe walk reads the pointer to the following node before it runs its body, for at most the given number of
nodes. -/
def forEachSafe (body : Links Address → Address → Except LinkFault (Links Address)) (list : Address) :
    Nat → Address → Links Address → Except LinkFault (Links Address)
  | 0, _, _ => throw .endless
  | steps + 1, node, links => do
      let following ← links.getNext node
      if node = list then return links
      else do
        let following ← demand .null following
        let links ← body links node
        forEachSafe body list steps following links

/-- Two nodes are neighbours when each points to the other. -/
def Joined (links : Links Address) (one two : Address) : Prop := links.next one = some two ∧ links.prev two = some one

/-- A chain leads from its first node through the nodes of a list to its last node. -/
def Chain (links : Links Address) : Address → List Address → Address → Prop
  | first, [], last => links.Joined first last
  | first, node :: nodes, last => links.Joined first node ∧ Chain links node nodes last

/-- A well-formed circular list is a chain of different live nodes from its head back to its head. -/
structure Ring (links : Links Address) (head : Address) (nodes : List Address) : Prop where
  live : ∀ node ∈ head :: nodes, links.live node = true
  nodup : (head :: nodes).Nodup
  chain : links.Chain head nodes head

/-- Two memories agree on every node outside a list. -/
structure Agrees (links other : Links Address) (changed : List Address) : Prop where
  live : other.live = links.live
  next : ∀ node, node ∉ changed → other.next node = links.next node
  prev : ∀ node, node ∉ changed → other.prev node = links.prev node

/-- The known lists are circular lists that have no node in common. -/
structure Rings (links : Links Address) (contents : Address → Option (List Address)) : Prop where
  ring : ∀ head nodes, contents head = some nodes → links.Ring head nodes
  apart : ∀ one two nodes others, contents one = some nodes → contents two = some others → one ≠ two →
    ∀ node ∈ one :: nodes, node ∉ two :: others

/-- A node is in none of the known lists. -/
def Outside (contents : Address → Option (List Address)) (node : Address) : Prop :=
  ∀ head nodes, contents head = some nodes → node ∉ head :: nodes

variable {links other : Links Address} {head first last node element : Address} {nodes before after : List Address}
  {contents : Address → Option (List Address)}

section Memory

@[simp] theorem live_map_self (links : Links Address) (node : Address) : (links.map node).live node = true :=
  Function.update_self _ _ _

theorem live_map_other (links : Links Address) {target node : Address} (different : node ≠ target) :
    (links.map target).live node = links.live node :=
  Function.update_of_ne different _ _

theorem next_map_other (links : Links Address) {target node : Address} (different : node ≠ target) :
    (links.map target).next node = links.next node := by
  simp [map, different]

@[simp] theorem live_unmap_self (links : Links Address) (node : Address) : (links.unmap node).live node = false :=
  Function.update_self _ _ _

theorem live_unmap_other (links : Links Address) {target node : Address} (different : node ≠ target) :
    (links.unmap target).live node = links.live node :=
  Function.update_of_ne different _ _

theorem next_init_other (links : Links Address) {target node : Address} (different : node ≠ target) :
    (links.init target).next node = links.next node := by
  simp [init, different]

end Memory

section Chains

omit [DecidableEq Address] in
theorem Chain.congr (next : ∀ node ∈ first :: nodes, other.next node = links.next node)
    (prev : ∀ node ∈ nodes ++ [last], other.prev node = links.prev node) (chain : links.Chain first nodes last) :
    other.Chain first nodes last := by
  induction nodes generalizing first with
  | nil =>
      obtain ⟨forth, back⟩ := chain
      exact ⟨(next first List.mem_cons_self).trans forth, (prev last (by simp)).trans back⟩
  | cons node nodes ih =>
      obtain ⟨⟨forth, back⟩, rest⟩ := chain
      refine ⟨⟨(next first List.mem_cons_self).trans forth, (prev node (by simp)).trans back⟩, ?_⟩
      apply ih _ _ rest
      · intro other later
        exact next other (List.mem_cons_of_mem _ later)
      · intro other later
        exact prev other (List.mem_cons_of_mem _ later)

omit [DecidableEq Address] in
theorem chain_append : links.Chain first (before ++ node :: after) last ↔
    links.Chain first before node ∧ links.Chain node after last := by
  induction before generalizing first with
  | nil => exact Iff.rfl
  | cons other before ih =>
      change links.Joined first other ∧ links.Chain other (before ++ node :: after) last ↔
        (links.Joined first other ∧ links.Chain other before node) ∧ _
      rw [ih, and_assoc]

omit [DecidableEq Address] in
theorem Chain.next (chain : links.Chain first nodes last) : links.next first = some (nodes.headD last) := by
  cases nodes with
  | nil => exact chain.1
  | cons node nodes => exact chain.1.1

omit [DecidableEq Address] in
theorem Chain.prev (chain : links.Chain first nodes last) : links.prev last = some (nodes.getLastD first) := by
  induction nodes generalizing first with
  | nil => exact chain.2
  | cons node nodes ih =>
      rw [ih chain.2, List.getLastD_cons]

end Chains

section Operations

theorem insert_links (fresh : links.live element = true) (present : links.live head = true) (different : head ≠ element)
    (next : links.next head = some first) (there : links.live first = true) :
    links.insert head element = .ok { links with
      next := Function.update (Function.update links.next element (some first)) head (some element)
      prev := Function.update (Function.update links.prev element (some head)) first (some element) } := by
  simp [insert, setPrev, setNext, getNext, fresh, present, next, there, require, demand, different.symm, bind,
    Except.bind, pure, Except.pure]

/-- The removal of a live element writes its neighbours and leaves the element with null pointers. -/
theorem remove_links (present : links.live element = true) (next : links.next element = some last)
    (prev : links.prev element = some first) (left : links.live first = true) (right : links.live last = true)
    (different : element ≠ first) :
    links.remove element = .ok { links with
      next := Function.update (Function.update links.next first (some last)) element none
      prev := Function.update (Function.update links.prev last (some first)) element none } := by
  simp [remove, setPrev, setNext, getNext, getPrev, present, next, prev, left, right, require, demand, different,
    bind, Except.bind, pure, Except.pure]

omit [DecidableEq Address] in
theorem Ring.congr (ring : links.Ring head nodes) (live : ∀ node ∈ head :: nodes, other.live node = links.live node)
    (next : ∀ node ∈ head :: nodes, other.next node = links.next node)
    (prev : ∀ node ∈ head :: nodes, other.prev node = links.prev node) : other.Ring head nodes := by
  refine ⟨fun node listed => ?_, ring.nodup, ring.chain.congr next fun node listed => ?_⟩
  · rw [live node listed]
    exact ring.live node listed
  · apply prev node
    rw [List.mem_append, List.mem_singleton] at listed
    rcases listed with inner | rfl
    · exact List.mem_cons_of_mem _ inner
    · exact List.mem_cons_self

omit [DecidableEq Address] in
theorem Ring.agree (ring : links.Ring head nodes) {changed : List Address} (agrees : links.Agrees other changed)
    (apart : ∀ node ∈ head :: nodes, node ∉ changed) : other.Ring head nodes :=
  ring.congr (fun node _ => congrFun agrees.live node) (fun node listed => agrees.next node (apart node listed))
    fun node listed => agrees.prev node (apart node listed)

omit [DecidableEq Address] in
theorem Agrees.trans {third : Links Address} {changed : List Address} (one : links.Agrees other changed)
    (two : other.Agrees third changed) : links.Agrees third changed where
  live := two.live.trans one.live
  next node outside := (two.next node outside).trans (one.next node outside)
  prev node outside := (two.prev node outside).trans (one.prev node outside)

omit [DecidableEq Address] in
theorem Agrees.widen {changed longer : List Address} (agrees : links.Agrees other changed)
    (within : ∀ node ∈ changed, node ∈ longer) : links.Agrees other longer where
  live := agrees.live
  next node outside := agrees.next node fun inside => outside (within node inside)
  prev node outside := agrees.prev node fun inside => outside (within node inside)

theorem ring_init (present : links.live head = true) : (links.init head).Ring head [] := by
  refine ⟨?_, by simp, by simp [init, Chain, Joined]⟩
  intro node listed
  rw [List.mem_singleton.mp listed]
  exact present

theorem init_agrees (links : Links Address) (head : Address) : links.Agrees (links.init head) [head] where
  live := rfl
  next _ outside := Function.update_of_ne (fun same => outside (List.mem_singleton.mpr same)) _ _
  prev _ outside := Function.update_of_ne (fun same => outside (List.mem_singleton.mpr same)) _ _

/-- An insertion puts the element in front and changes only the list and the element. -/
theorem Ring.insert (ring : links.Ring head nodes) (present : links.live element = true)
    (fresh : element ∉ head :: nodes) : ∃ next, links.insert head element = .ok next ∧
      next.Ring head (element :: nodes) ∧ links.Agrees next (element :: head :: nodes) := by
  have different : head ≠ element := fun same => fresh (same ▸ List.mem_cons_self)
  have follows : nodes.headD head ∈ head :: nodes := by
    cases nodes with
    | nil => exact List.mem_cons_self
    | cons node nodes => simp
  have apart : element ≠ nodes.headD head := fun same => fresh (same ▸ follows)
  refine ⟨_, insert_links present (ring.live head List.mem_cons_self) different ring.chain.next
    (ring.live _ follows), ⟨?_, ?_, ⟨?_, ?_⟩, ?_⟩, rfl, ?_, ?_⟩
  · intro node listed
    simp only [List.mem_cons] at listed
    rcases listed with rfl | rfl | inner
    · exact ring.live node List.mem_cons_self
    · exact present
    · exact ring.live node (List.mem_cons_of_mem _ inner)
  · have distinct := ring.nodup
    simp only [List.nodup_cons, List.mem_cons, not_or] at distinct fresh ⊢
    exact ⟨⟨different, distinct.1⟩, fresh.2, distinct.2⟩
  · exact Function.update_self _ _ _
  · exact (Function.update_of_ne apart _ _).trans (Function.update_self _ _ _)
  · have chain := ring.chain
    have distinct := ring.nodup
    cases nodes with
    | nil =>
        exact ⟨(Function.update_of_ne different.symm _ _).trans (Function.update_self _ _ _), Function.update_self _ _ _⟩
    | cons node nodes =>
        simp only [List.nodup_cons, List.mem_cons, not_or] at distinct fresh
        refine ⟨⟨(Function.update_of_ne different.symm _ _).trans (Function.update_self _ _ _),
          Function.update_self _ _ _⟩, chain.2.congr (fun other listed => ?_) fun other listed => ?_⟩
        · have outer : other ≠ head := by
            rintro rfl
            rcases List.mem_cons.mp listed with rfl | later
            · exact distinct.1.1 rfl
            · exact distinct.1.2 later
          have inner : other ≠ element := by
            rintro rfl
            rcases List.mem_cons.mp listed with rfl | later
            · exact fresh.2.1 rfl
            · exact fresh.2.2 later
          exact (Function.update_of_ne outer _ _).trans (Function.update_of_ne inner _ _)
        · have outer : other ≠ node := by
            rintro rfl
            rcases List.mem_append.mp listed with later | last
            · exact distinct.2.1 later
            · exact distinct.1.1 (List.mem_singleton.mp last).symm
          have inner : other ≠ element := by
            rintro rfl
            rcases List.mem_append.mp listed with later | last
            · exact fresh.2.2 later
            · exact fresh.1 (List.mem_singleton.mp last)
          exact (Function.update_of_ne outer _ _).trans (Function.update_of_ne inner _ _)
  · intro node outside
    simp only [List.mem_cons, not_or] at outside
    exact (Function.update_of_ne outside.2.1 _ _).trans (Function.update_of_ne outside.1 _ _)
  · intro node outside
    have outer : node ≠ nodes.headD head := fun same => outside (List.mem_cons_of_mem _ (same ▸ follows))
    have inner : node ≠ element := fun same => outside (same ▸ List.mem_cons_self)
    exact (Function.update_of_ne outer _ _).trans (Function.update_of_ne inner _ _)

omit [DecidableEq Address] in
/-- Two chains that meet in an element become one where the neighbours of the element are joined instead. -/
theorem Chain.bypass (chain : links.Chain first before element) (rest : links.Chain element after last)
    (distinct : (first :: before ++ after).Nodup) (closes : last ∉ before ++ after)
    (apart : element ∉ first :: before ++ after) (different : element ≠ last)
    (joined : other.Joined (before.getLastD first) (after.headD last))
    (next : ∀ node, node ≠ before.getLastD first → node ≠ element → other.next node = links.next node)
    (prev : ∀ node, node ≠ after.headD last → node ≠ element → other.prev node = links.prev node) :
    other.Chain first (before ++ after) last := by
  induction before generalizing first with
  | nil =>
      cases after with
      | nil => exact joined
      | cons node after =>
          simp only [List.cons_append, List.nil_append, List.nodup_cons, List.mem_cons, not_or] at distinct closes apart
          refine ⟨joined, rest.2.congr (fun other listed => ?_) fun other listed => ?_⟩
          · apply next
            · rintro rfl
              rcases List.mem_cons.mp listed with rfl | later
              · exact distinct.1.1 rfl
              · exact distinct.1.2 later
            · rintro rfl
              rcases List.mem_cons.mp listed with rfl | later
              · exact apart.2.1 rfl
              · exact apart.2.2 later
          · apply prev
            · rintro rfl
              rcases List.mem_append.mp listed with later | closing
              · exact distinct.2.1 later
              · exact closes.1 (List.mem_singleton.mp closing).symm
            · rintro rfl
              rcases List.mem_append.mp listed with later | closing
              · exact apart.2.2 later
              · exact different (List.mem_singleton.mp closing)
  | cons node before ih =>
      have ends : before.getLastD node ∈ node :: before := List.getLastD_mem_cons
      have starts : after.headD last = last ∨ after.headD last ∈ after := by
        cases after with
        | nil => exact .inl rfl
        | cons node after => exact .inr List.mem_cons_self
      rw [List.getLastD_cons] at joined next
      simp only [List.cons_append, List.nodup_cons, List.mem_cons, List.mem_append, not_or] at distinct closes apart ends
      refine ⟨⟨?_, ?_⟩, ih chain.2 ?_ ?_ ?_ joined next⟩
      · refine (next first (fun same => ?_) fun same => apart.1 same.symm).trans chain.1.1
        rcases ends with here | inside
        · exact distinct.1.1 (same.trans here)
        · exact distinct.1.2.1 (same ▸ inside)
      · refine (prev node (fun same => ?_) fun same => apart.2.1 same.symm).trans chain.1.2
        rcases starts with here | inside
        · exact closes.1 (same.trans here).symm
        · exact distinct.2.1.2 (same ▸ inside)
      · simp only [List.cons_append, List.nodup_cons, List.mem_append, not_or]
        exact distinct.2
      · simp only [List.mem_append, not_or]
        exact closes.2
      · simp only [List.cons_append, List.mem_cons, List.mem_append, not_or]
        exact apart.2

theorem Ring.remove (ring : links.Ring head nodes) (listed : element ∈ nodes) : ∃ next, links.remove element = .ok next ∧
    next.Ring head (nodes.erase element) ∧ links.Agrees next (head :: nodes) := by
  obtain ⟨before, after, rfl⟩ := List.append_of_mem listed
  have distinct := ring.nodup
  simp only [List.nodup_cons, List.nodup_append, List.mem_append, List.mem_cons, not_or] at distinct
  obtain ⟨⟨outBefore, outElement, outAfter⟩, nodupBefore, ⟨fresh, nodupAfter⟩, disjoint⟩ := distinct
  have early : element ∉ before := fun inside => disjoint element inside element (.inl rfl) rfl
  have erased : (before ++ element :: after).erase element = before ++ after := by
    rw [List.erase_append_right _ early, List.erase_cons_head]
  obtain ⟨left, right⟩ := chain_append.mp ring.chain
  have ends : before.getLastD head ∈ head :: before := List.getLastD_mem_cons
  have starts : after.headD head = head ∨ after.headD head ∈ after := by
    cases after with
    | nil => exact .inl rfl
    | cons node after => exact .inr List.mem_cons_self
  have notLast : element ≠ before.getLastD head := by
    intro same
    rw [← same] at ends
    rcases List.mem_cons.mp ends with here | inside
    · exact outElement here.symm
    · exact early inside
  have notFirst : element ≠ after.headD head := by
    intro same
    rw [← same] at starts
    rcases starts with here | inside
    · exact outElement here.symm
    · exact fresh inside
  have lastListed : before.getLastD head ∈ head :: (before ++ element :: after) := by
    rcases List.mem_cons.mp ends with here | inside
    · rw [here]
      exact List.mem_cons_self
    · exact List.mem_cons_of_mem _ (List.mem_append_left _ inside)
  have firstListed : after.headD head ∈ head :: (before ++ element :: after) := by
    rcases starts with here | inside
    · rw [here]
      exact List.mem_cons_self
    · exact List.mem_cons_of_mem _ (List.mem_append_right _ (List.mem_cons_of_mem _ inside))
  rw [erased]
  refine ⟨_, remove_links (ring.live element (List.mem_cons_of_mem _ listed)) right.next left.prev
    (ring.live _ lastListed) (ring.live _ firstListed) notLast, ⟨?_, ?_, ?_⟩, rfl, ?_, ?_⟩
  · intro node inside
    apply ring.live
    rcases List.mem_cons.mp inside with rfl | inside
    · exact List.mem_cons_self
    · rcases List.mem_append.mp inside with inside | inside
      · exact List.mem_cons_of_mem _ (List.mem_append_left _ inside)
      · exact List.mem_cons_of_mem _ (List.mem_append_right _ (List.mem_cons_of_mem _ inside))
  · simp only [List.nodup_cons, List.nodup_append, List.mem_append, not_or]
    exact ⟨⟨outBefore, outAfter⟩, nodupBefore, nodupAfter, fun one first two second =>
      disjoint one first two (.inr second)⟩
  · apply left.bypass right
    · simp only [List.cons_append, List.nodup_cons, List.nodup_append, List.mem_append, not_or]
      exact ⟨⟨outBefore, outAfter⟩, nodupBefore, nodupAfter, fun one first two second =>
        disjoint one first two (.inr second)⟩
    · simp only [List.mem_append, not_or]
      exact ⟨outBefore, outAfter⟩
    · simp only [List.cons_append, List.mem_cons, List.mem_append, not_or]
      exact ⟨fun same => outElement same.symm, early, fresh⟩
    · exact fun same => outElement same.symm
    · exact ⟨(Function.update_of_ne notLast.symm _ _).trans (Function.update_self _ _ _),
        (Function.update_of_ne notFirst.symm _ _).trans (Function.update_self _ _ _)⟩
    · intro node outer inner
      exact (Function.update_of_ne inner _ _).trans (Function.update_of_ne outer _ _)
    · intro node outer inner
      exact (Function.update_of_ne inner _ _).trans (Function.update_of_ne outer _ _)
  · intro node outside
    have inner : node ≠ element := by
      rintro rfl
      exact outside (List.mem_cons_of_mem _ listed)
    have outer : node ≠ before.getLastD head := by
      rintro rfl
      exact outside lastListed
    exact (Function.update_of_ne inner _ _).trans (Function.update_of_ne outer _ _)
  · intro node outside
    have inner : node ≠ element := by
      rintro rfl
      exact outside (List.mem_cons_of_mem _ listed)
    have outer : node ≠ after.headD head := by
      rintro rfl
      exact outside firstListed
    exact (Function.update_of_ne inner _ _).trans (Function.update_of_ne outer _ _)

end Operations

section Families

theorem Rings.replace (rings : links.Rings contents) (ring : other.Ring head nodes)
    (apart : ∀ two others, contents two = some others → two ≠ head → ∀ node ∈ head :: nodes, node ∉ two :: others)
    (kept : ∀ two others, contents two = some others → two ≠ head → other.Ring two others) :
    other.Rings (Function.update contents head (some nodes)) where
  ring two others known := by
    by_cases same : two = head
    · subst same
      rw [Function.update_self] at known
      cases known
      exact ring
    · rw [Function.update_of_ne same] at known
      exact kept two others known same
  apart one two nodes others known also different node listed := by
    by_cases first : one = head
    · subst first
      rw [Function.update_self] at known
      cases known
      rw [Function.update_of_ne different.symm] at also
      exact apart two others also different.symm node listed
    · rw [Function.update_of_ne first] at known
      by_cases second : two = head
      · subst second
        rw [Function.update_self] at also
        cases also
        exact fun inside => apart one nodes known first node inside listed
      · rw [Function.update_of_ne second] at also
        exact rings.apart one two nodes others known also different node listed

theorem Rings.forget (rings : links.Rings contents) (head : Address) :
    links.Rings (Function.update contents head none) := by
  have old {two : Address} {others : List Address} (known : Function.update contents head none two = some others) :
      contents two = some others := by
    by_cases same : two = head
    · rw [same, Function.update_self] at known
      cases known
    · rwa [Function.update_of_ne same] at known
  exact ⟨fun two others known => rings.ring two others (old known), fun one two nodes others known also =>
    rings.apart one two nodes others (old known) (old also)⟩

theorem Rings.map (rings : links.Rings contents) (outside : Outside contents node) :
    (links.map node).Rings contents := by
  refine ⟨fun two others known => ?_, rings.apart⟩
  have different {other : Address} (listed : other ∈ two :: others) : other ≠ node := by
    rintro rfl
    exact outside two others known listed
  exact (rings.ring two others known).congr (fun _ listed => Function.update_of_ne (different listed) _ _)
    (fun _ listed => Function.update_of_ne (different listed) _ _)
    fun _ listed => Function.update_of_ne (different listed) _ _

theorem Rings.unmap (rings : links.Rings contents) (outside : Outside contents node) :
    (links.unmap node).Rings contents := by
  refine ⟨fun two others known => ?_, rings.apart⟩
  refine (rings.ring two others known).congr (fun other listed => ?_) (fun _ _ => rfl) fun _ _ => rfl
  apply Function.update_of_ne
  rintro rfl
  exact outside two others known listed

theorem Rings.init (rings : links.Rings contents) (present : links.live head = true) (outside : Outside contents head) :
    (links.init head).Rings (Function.update contents head (some [])) := by
  have apart (two : Address) (others : List Address) (known : contents two = some others) :
      ∀ node ∈ [head], node ∉ two :: others := by
    intro node listed
    rw [List.mem_singleton.mp listed]
    exact outside two others known
  exact rings.replace (ring_init present) (fun two others known _ => apart two others known)
    fun two others known _ => (rings.ring two others known).agree (init_agrees links head)
      fun node listed inside => apart two others known node inside listed

theorem Rings.insert (rings : links.Rings contents) (known : contents head = some nodes)
    (present : links.live element = true) (outside : Outside contents element) :
    ∃ next, links.insert head element = .ok next ∧ links.Agrees next (element :: head :: nodes) ∧
      next.Rings (Function.update contents head (some (element :: nodes))) := by
  obtain ⟨next, inserted, ring, agrees⟩ := (rings.ring head nodes known).insert present (outside head nodes known)
  have apart (two : Address) (others : List Address) (also : contents two = some others) (different : two ≠ head) :
      ∀ node ∈ element :: head :: nodes, node ∉ two :: others := by
    intro node listed
    rcases List.mem_cons.mp listed with rfl | listed
    · exact outside two others also
    · exact rings.apart head two nodes others known also different.symm node listed
  refine ⟨next, inserted, agrees, rings.replace ring (fun two others also different node listed => ?_)
    fun two others also different => ?_⟩
  · apply apart two others also different
    simp only [List.mem_cons] at listed ⊢
    exact or_left_comm.mp listed
  · exact (rings.ring two others also).agree agrees fun node listed inside =>
      apart two others also different node inside listed

/-- An element of a known list is removed and lies outside the known lists afterwards. -/
theorem Rings.remove (rings : links.Rings contents) (known : contents head = some nodes) (listed : element ∈ nodes) :
    ∃ next, links.remove element = .ok next ∧ links.Agrees next (head :: nodes) ∧
      next.Rings (Function.update contents head (some (nodes.erase element))) ∧
      Outside (Function.update contents head (some (nodes.erase element))) element := by
  have before := rings.ring head nodes known
  obtain ⟨next, removed, ring, agrees⟩ := before.remove listed
  have apart (two : Address) (others : List Address) (also : contents two = some others) (different : two ≠ head) :
      ∀ node ∈ head :: nodes, node ∉ two :: others := rings.apart head two nodes others known also different.symm
  refine ⟨next, removed, agrees, rings.replace ring (fun two others also different node inside => ?_)
    (fun two others also different => ?_), fun two others also inside => ?_⟩
  · apply apart two others also different
    rcases List.mem_cons.mp inside with rfl | inside
    · exact List.mem_cons_self
    · exact List.mem_cons_of_mem _ (List.mem_of_mem_erase inside)
  · exact (rings.ring two others also).agree agrees fun node there inside =>
      apart two others also different node inside there
  · have distinct := List.nodup_cons.mp before.nodup
    by_cases same : two = head
    · subst same
      rw [Function.update_self] at also
      cases also
      rcases List.mem_cons.mp inside with rfl | inside
      · exact distinct.1 listed
      · exact (distinct.2.mem_erase_iff.mp inside).1 rfl
    · rw [Function.update_of_ne same] at also
      exact apart two others also same element (List.mem_cons_of_mem _ listed) inside

/-- The body of a walk moves a node in front of another list. -/
def move (target : Address) (links : Links Address) (node : Address) : Except LinkFault (Links Address) := do
  let links ← links.remove node
  links.insert target node

theorem Ring.walk_empty (ring : links.Ring head []) (body : Links Address → Address → Except LinkFault (Links Address))
    (steps : Nat) : forEachSafe body head (steps + 1) head links = .ok links := by
  simp [forEachSafe, getNext, require, ring.live head List.mem_cons_self, bind, Except.bind, pure, Except.pure]

theorem Ring.walk_step (ring : links.Ring head (node :: nodes))
    (body : Links Address → Address → Except LinkFault (Links Address)) (steps : Nat) :
    forEachSafe body head (steps + 1) node links =
      (body links node >>= forEachSafe body head steps (nodes.headD head)) := by
  have outer : node ≠ head := by
    rintro rfl
    exact (List.nodup_cons.mp ring.nodup).1 List.mem_cons_self
  have follows : links.next node = some (nodes.headD head) := ring.chain.2.next
  simp [forEachSafe, getNext, require, ring.live node (by simp), outer, follows, demand, bind, Except.bind, pure,
    Except.pure]

/-- A walk that moves each node of a list in front of another one leaves the list empty. -/
theorem Rings.moved (rings : links.Rings contents) {source target : Address} {others : List Address} {steps : Nat}
    (known : contents source = some nodes) (also : contents target = some others) (different : source ≠ target)
    (enough : nodes.length < steps) : ∃ next, forEachSafe (move target) source steps (nodes.headD source) links = .ok next ∧
      links.Agrees next (source :: nodes ++ target :: others) ∧ next.Rings (Function.update
        (Function.update contents target (some (nodes.reverse ++ others))) source (some [])) := by
  induction nodes generalizing links contents others steps with
  | nil =>
      obtain ⟨steps, rfl⟩ := Nat.exists_eq_succ_of_ne_zero (Nat.ne_of_gt enough)
      have first : Function.update contents target (some ([].reverse ++ others)) = contents :=
        Function.update_eq_self_iff.mpr also.symm
      have second : Function.update contents source (some []) = contents := Function.update_eq_self_iff.mpr known.symm
      refine ⟨links, (rings.ring source [] known).walk_empty _ _, ⟨rfl, fun _ _ => rfl, fun _ _ => rfl⟩, ?_⟩
      rwa [first, second]
  | cons node nodes ih =>
      obtain ⟨steps, rfl⟩ := Nat.exists_eq_succ_of_ne_zero (Nat.ne_of_gt (Nat.zero_lt_of_lt enough))
      have ring := rings.ring source (node :: nodes) known
      obtain ⟨middle, removed, kept, without, outside⟩ := rings.remove known List.mem_cons_self
      rw [List.erase_cons_head] at without outside
      obtain ⟨after, inserted, grown, moved⟩ := without.insert ((Function.update_of_ne different.symm _ _).trans also)
        (by rw [kept.live]; exact ring.live node (by simp)) outside
      obtain ⟨last, walked, rest, result⟩ := ih moved
        ((Function.update_of_ne different _ _).trans (Function.update_self _ _ _)) (Function.update_self _ _ _)
        (Nat.lt_of_succ_lt_succ enough)
      have stepped : move target links node = .ok after := by
        simp [move, removed, inserted, bind, Except.bind]
      have same : Function.update (Function.update (Function.update (Function.update contents source (some nodes)) target
          (some (node :: others))) target (some (nodes.reverse ++ node :: others))) source (some []) =
          Function.update (Function.update contents target (some ((node :: nodes).reverse ++ others))) source
            (some []) := by
        rw [Function.update_idem, Function.update_comm different.symm, Function.update_idem,
          Function.update_comm different.symm, List.reverse_cons, List.append_assoc, List.singleton_append]
      rw [same] at result
      refine ⟨last, ?_, ?_, result⟩
      · rw [List.headD_cons, ring.walk_step, stepped]
        exact walked
      refine (kept.widen fun other inside => ?_).trans ((grown.widen fun other inside => ?_).trans
        (rest.widen fun other inside => ?_))
      · exact List.mem_append_left _ inside
      · simp only [List.mem_cons, List.mem_append] at inside ⊢
        tauto
      · simp only [List.cons_append, List.mem_cons, List.mem_append] at inside ⊢
        tauto

omit [DecidableEq Address] in
theorem Rings.outside (rings : links.Rings contents) (dead : links.live node = false) : Outside contents node := by
  intro head nodes known listed
  rw [(rings.ring head nodes known).live node listed] at dead
  cases dead

end Families

section Faults

theorem insert_freed (present : links.live element = true) (gone : links.live head = false) :
    links.insert head element = .error .freed := by
  simp [insert, setPrev, getNext, present, gone, require, bind, Except.bind, pure, Except.pure]

theorem insert_null (present : links.live element = true) (there : links.live head = true) (different : head ≠ element)
    (cleared : links.next head = none) : links.insert head element = .error .null := by
  simp [insert, setPrev, setNext, getNext, present, there, cleared, different.symm, require, demand, bind, Except.bind,
    pure, Except.pure]

theorem Rings.moved_null (rings : links.Rings contents) {source target : Address}
    (known : contents source = some (node :: nodes)) (there : links.live target = true)
    (cleared : links.next target = none) (outside : Outside contents target) (steps : Nat) :
    forEachSafe (move target) source (steps + 1) node links = .error .null := by
  have ring := rings.ring source (node :: nodes) known
  obtain ⟨middle, removed, kept, _, _⟩ := rings.remove known List.mem_cons_self
  have apart := outside source (node :: nodes) known
  have different : target ≠ node := by
    rintro rfl
    exact apart (by simp)
  have failed : middle.insert target node = .error .null := by
    apply insert_null
    · rw [kept.live]
      exact ring.live node (by simp)
    · rw [kept.live]
      exact there
    · exact different
    · exact (kept.next target apart).trans cleared
  have stopped : move target links node = .error .null := by
    simp [move, removed, failed, bind, Except.bind]
  rw [ring.walk_step, stopped]
  rfl

end Faults

end Links

end SwaylockPlugin.Library
