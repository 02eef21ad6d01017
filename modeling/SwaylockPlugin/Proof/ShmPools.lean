import Mathlib.Logic.Function.Basic
import SwaylockPlugin.Library.Count
import SwaylockPlugin.Construction.ShmPool

namespace SwaylockPlugin.Shm

open Library

/-- This many nested pools refer to an entry. -/
def referents (resources : Heap PoolResource) (id : EntryId) : Nat := resources.count fun record => record.entry == id

/-- Every entry counts the nested pools that refer to it, of which there is one at least. -/
structure Counted (entries : Heap ForwardedShmPool) (resources : Heap PoolResource) : Prop where
  counted : ∀ id entry, entries.cell id = some entry → entry.refcount = referents resources id
  positive : ∀ id entry, entries.cell id = some entry → 0 < referents resources id
  referred : ∀ resource record, resources.cell resource = some record → entries.live record.entry = true

/-- The list holds the entries with an identity, and no two of them have the same one. -/
structure Listed (entries : Heap ForwardedShmPool) (shmPools : List EntryId) : Prop where
  linked : ∀ id, id ∈ shmPools ↔ ∃ entry, entries.cell id = some entry ∧ entry.linked = true
  once : shmPools.Nodup
  distinct : ∀ first one, entries.cell first = some one → one.linked = true →
    ∀ second other, entries.cell second = some other → other.linked = true →
      one.dev = other.dev → one.ino = other.ino → first = second

/-- Every entry has an upstream pool of its own that grew to the size of the entry. -/
structure Backed (entries : Heap ForwardedShmPool) (upstream : Heap UpstreamShmPool) : Prop where
  used : ∀ pool, upstream.live pool = true → ∃ id entry, entries.cell id = some entry ∧ entry.pool = pool
  apart : ∀ first one, entries.cell first = some one → ∀ second other, entries.cell second = some other →
    one.pool = other.pool → first = second
  grows : ∀ id entry, entries.cell id = some entry → ∃ record, upstream.cell entry.pool = some record ∧
    record.sizes.head? = some entry.size ∧ record.sizes.Pairwise (· > ·)

/-- The size of every entry is the largest one that was asked for. -/
structure Largest (entries : Heap ForwardedShmPool) (asked : EntryId → List Int) : Prop where
  asks : ∀ id entry, entries.cell id = some entry → entry.size ∈ asked id
  bounds : ∀ id entry, entries.cell id = some entry → ∀ size ∈ asked id, size ≤ entry.size
  unborn : ∀ id, entries.next ≤ id → asked id = []

/-- The pools of a scene are counted, listed, backed and as large as was asked for. -/
structure Pooled (scene : ShmScene) (asked : EntryId → List Int) : Prop where
  counted : Counted scene.entries scene.resources
  listed : Listed scene.entries scene.shmPools
  backed : Backed scene.entries scene.upstream
  largest : Largest scene.entries asked

section Entries

variable {entries : Heap ForwardedShmPool} {resources : Heap PoolResource} {shmPools : List EntryId}
  {upstream : Heap UpstreamShmPool} {asked : EntryId → List Int} {id : EntryId} {entry : ForwardedShmPool}

theorem live_modify (target other : EntryId) (change : ForwardedShmPool → ForwardedShmPool) :
    (entries.modify target change).live other = entries.live other := by
  unfold Heap.live
  rw [Heap.cell_modify]
  split
  · rw [Option.isSome_map]
  · rfl

theorem referents_alloc (resources : Heap PoolResource) (client : WlClientId) (target other : EntryId) :
    referents (resources.alloc ⟨client, target⟩) other = referents resources other + (target == other).toNat :=
  Heap.count_alloc _ _ _

theorem referents_free {resource : ResourceId} {record : PoolResource} (found : resources.cell resource = some record)
    (other : EntryId) :
    referents (resources.free resource) other + (record.entry == other).toNat = referents resources other :=
  Heap.count_free _ _ found

namespace Counted

theorem modify (counted : Counted entries resources) (target : EntryId) {change : ForwardedShmPool → ForwardedShmPool}
    (same : ∀ entry, (change entry).refcount = entry.refcount) : Counted (entries.modify target change) resources := by
  refine ⟨fun other new placed => ?_, fun other new placed => ?_, fun resource record found => ?_⟩
  · obtain ⟨old, there, ⟨_, rfl⟩ | ⟨_, rfl⟩⟩ := entries.old_of_modify placed
    · exact (same old).trans (counted.counted other old there)
    · exact counted.counted other new there
  · obtain ⟨old, there, _⟩ := entries.old_of_modify placed
    exact counted.positive other old there
  · rw [live_modify]
    exact counted.referred resource record found

theorem absent (counted : Counted entries resources) (free : entries.cell id = none) : referents resources id = 0 := by
  refine Heap.count_zero fun resource record found => ?_
  by_contra names
  have live := counted.referred resource record found
  rw [eq_of_beq ((Bool.not_eq_false _).mp names), Heap.live, free] at live
  cases live

theorem refer (counted : Counted entries resources) (present : entries.cell id = some entry) (client : WlClientId) :
    Counted (entries.modify id fun entry => { entry with refcount := entry.refcount + 1 })
      (resources.alloc ⟨client, id⟩) := by
  refine ⟨fun other new placed => ?_, fun other new placed => ?_, fun resource record found => ?_⟩
  · rw [referents_alloc]
    obtain ⟨old, there, ⟨rfl, rfl⟩ | ⟨elsewhere, rfl⟩⟩ := entries.old_of_modify placed
    · have known := counted.counted other old there
      rw [beq_self_eq_true, Bool.toNat_true]
      dsimp only
      omega
    · rw [beq_false_of_ne (Ne.symm elsewhere)]
      exact counted.counted other new there
  · rw [referents_alloc]
    obtain ⟨old, there, _⟩ := entries.old_of_modify placed
    exact Nat.add_pos_left (counted.positive other old there) _
  · rw [live_modify]
    by_cases here : resource = resources.next
    · subst here
      cases (Heap.cell_alloc_next _ _).symm.trans found
      exact congrArg Option.isSome present
    · exact counted.referred resource record ((if_neg here).symm.trans found)

theorem drop (counted : Counted entries resources) (present : entries.cell id = some entry) {resource : ResourceId}
    {record : PoolResource} (found : resources.cell resource = some record) (names : record.entry = id)
    (others : entry.refcount - 1 > 0) :
    Counted (entries.modify id fun entry => { entry with refcount := entry.refcount - 1 }) (resources.free resource) := by
  refine ⟨fun other new placed => ?_, fun other new placed => ?_, fun other kept still => ?_⟩
  · have fewer := referents_free found other
    obtain ⟨old, there, ⟨rfl, rfl⟩ | ⟨elsewhere, rfl⟩⟩ := entries.old_of_modify placed
    · have known := counted.counted other old there
      rw [names, beq_self_eq_true, Bool.toNat_true] at fewer
      dsimp only
      omega
    · rw [names, beq_false_of_ne (Ne.symm elsewhere), Bool.toNat_false, Nat.add_zero] at fewer
      rw [fewer]
      exact counted.counted other new there
  · have fewer := referents_free found other
    obtain ⟨old, there, ⟨rfl, rfl⟩ | ⟨elsewhere, rfl⟩⟩ := entries.old_of_modify placed
    · have known := counted.counted other old there
      rw [names, beq_self_eq_true, Bool.toNat_true] at fewer
      cases present.symm.trans there
      omega
    · rw [names, beq_false_of_ne (Ne.symm elsewhere), Bool.toNat_false, Nat.add_zero] at fewer
      rw [fewer]
      exact counted.positive other new there
  · rw [live_modify]
    exact counted.referred other kept (resources.old_of_free still)

theorem last (counted : Counted entries resources) (present : entries.cell id = some entry) {resource : ResourceId}
    {record : PoolResource} (found : resources.cell resource = some record) (names : record.entry = id)
    (alone : ¬ entry.refcount - 1 > 0) : Counted (entries.free id) (resources.free resource) := by
  have none_ : referents (resources.free resource) id = 0 := by
    have fewer := referents_free found id
    have known := counted.counted id entry present
    rw [names, beq_self_eq_true, Bool.toNat_true] at fewer
    omega
  have others {other : EntryId} (elsewhere : other ≠ id) :
      referents (resources.free resource) other = referents resources other := by
    have fewer := referents_free found other
    rw [names, beq_false_of_ne (Ne.symm elsewhere)] at fewer
    exact fewer
  have apart {other : EntryId} {new : ForwardedShmPool} (placed : (entries.free id).cell other = some new) :
      other ≠ id := by
    rintro rfl
    cases (Heap.cell_free_self _ _).symm.trans placed
  refine ⟨fun other new placed => ?_, fun other new placed => ?_, fun other kept still => ?_⟩
  · rw [others (apart placed)]
    exact counted.counted other new (entries.old_of_free placed)
  · rw [others (apart placed)]
    exact counted.positive other new (entries.old_of_free placed)
  · have elsewhere : kept.entry ≠ id := by
      intro same
      have positive : 0 < referents (resources.free resource) id := Heap.count_pos still (beq_iff_eq.mpr same)
      omega
    have live := counted.referred other kept (resources.old_of_free still)
    unfold Heap.live at live ⊢
    rw [Heap.cell_free_other _ elsewhere]
    exact live

theorem create (counted : Counted entries resources) (client : WlClientId) (one : entry.refcount = 1) :
    Counted (entries.alloc entry) (resources.alloc ⟨client, entries.next⟩) := by
  have fresh := counted.absent (Heap.cell_next entries)
  refine ⟨fun other new placed => ?_, fun other new placed => ?_, fun resource record found => ?_⟩
  · rw [referents_alloc]
    by_cases here : other = entries.next
    · subst here
      cases (Heap.cell_alloc_next _ _).symm.trans placed
      rw [one, fresh, beq_self_eq_true]
      rfl
    · rw [beq_false_of_ne (Ne.symm here)]
      exact counted.counted other new ((if_neg here).symm.trans placed)
  · rw [referents_alloc]
    by_cases here : other = entries.next
    · subst here
      rw [beq_self_eq_true]
      exact Nat.succ_pos _
    · exact Nat.add_pos_left (counted.positive other new ((if_neg here).symm.trans placed)) _
  · by_cases here : resource = resources.next
    · subst here
      cases (Heap.cell_alloc_next _ _).symm.trans found
      exact congrArg Option.isSome (Heap.cell_alloc_next _ _)
    · obtain ⟨old, there⟩ :=
        Option.isSome_iff_exists.mp (counted.referred resource record ((if_neg here).symm.trans found))
      exact congrArg Option.isSome (Heap.cell_alloc_of_live _ _ there)

end Counted

namespace Listed

theorem modify (listed : Listed entries shmPools) (target : EntryId) {change : ForwardedShmPool → ForwardedShmPool}
    (linked : ∀ entry, (change entry).linked = entry.linked) (dev : ∀ entry, (change entry).dev = entry.dev)
    (ino : ∀ entry, (change entry).ino = entry.ino) : Listed (entries.modify target change) shmPools := by
  have before {other : EntryId} {new : ForwardedShmPool} (placed : (entries.modify target change).cell other = some new) :
      ∃ old, entries.cell other = some old ∧ new.linked = old.linked ∧ new.dev = old.dev ∧ new.ino = old.ino := by
    obtain ⟨old, there, ⟨_, rfl⟩ | ⟨_, rfl⟩⟩ := entries.old_of_modify placed
    · exact ⟨old, there, linked old, dev old, ino old⟩
    · exact ⟨new, there, rfl, rfl, rfl⟩
  refine ⟨fun other => (listed.linked other).trans ⟨?_, ?_⟩, listed.once, ?_⟩
  · rintro ⟨old, there, has⟩
    by_cases here : other = target
    · subst here
      exact ⟨change old, (Heap.cell_modify_self _ _ _).trans (congrArg _ there), (linked old).trans has⟩
    · exact ⟨old, (Heap.cell_modify_other _ _ here).trans there, has⟩
  · rintro ⟨new, placed, has⟩
    obtain ⟨old, there, same, _⟩ := before placed
    exact ⟨old, there, same.symm.trans has⟩
  · intro first one placed has second other also owns device inode
    obtain ⟨old, there, same, sameDev, sameIno⟩ := before placed
    obtain ⟨past, their, alike, alikeDev, alikeIno⟩ := before also
    exact listed.distinct first old there (same.symm.trans has) second past their (alike.symm.trans owns)
      (sameDev.symm.trans (device.trans alikeDev)) (sameIno.symm.trans (inode.trans alikeIno))

theorem free (listed : Listed entries shmPools) (present : entries.cell id = some entry) :
    Listed (entries.free id) (if entry.linked then shmPools.erase id else shmPools) := by
  have members (other : EntryId) : other ∈ (if entry.linked then shmPools.erase id else shmPools) ↔
      other ≠ id ∧ other ∈ shmPools := by
    cases has : entry.linked with
    | true => exact listed.once.mem_erase_iff
    | false =>
        refine ⟨fun member => ⟨?_, member⟩, And.right⟩
        rintro rfl
        obtain ⟨old, there, linked⟩ := (listed.linked other).mp member
        cases present.symm.trans there
        cases has.symm.trans linked
  refine ⟨fun other => (members other).trans ⟨?_, ?_⟩, ?_, ?_⟩
  · rintro ⟨elsewhere, member⟩
    obtain ⟨old, there, linked⟩ := (listed.linked other).mp member
    exact ⟨old, (Heap.cell_free_other _ elsewhere).trans there, linked⟩
  · rintro ⟨old, placed, linked⟩
    refine ⟨?_, (listed.linked other).mpr ⟨old, entries.old_of_free placed, linked⟩⟩
    rintro rfl
    cases (Heap.cell_free_self _ _).symm.trans placed
  · split
    · exact listed.once.erase id
    · exact listed.once
  · intro first one placed has second other also
    exact listed.distinct first one (entries.old_of_free placed) has second other (entries.old_of_free also)

theorem create (listed : Listed entries shmPools) (pool : UpstreamPool) (size : Int) {identity : Option Identity}
    (fresh : ∀ file, identity = some file → ∀ id ∈ shmPools, ∀ entry, entries.cell id = some entry →
      ¬ (entry.dev = file.dev ∧ entry.ino = file.ino)) :
    Listed (entries.alloc (newEntry pool size identity))
      (if identity.isSome then entries.next :: shmPools else shmPools) := by
  have outside : entries.next ∉ shmPools := by
    intro member
    obtain ⟨old, there, _⟩ := (listed.linked _).mp member
    cases (Heap.cell_next _).symm.trans there
  have before {other : EntryId} {new : ForwardedShmPool}
      (placed : (entries.alloc (newEntry pool size identity)).cell other = some new) :
      (other = entries.next ∧ new = newEntry pool size identity) ∨ (other ≠ entries.next ∧ entries.cell other = some new) := by
    by_cases here : other = entries.next
    · subst here
      exact .inl ⟨rfl, Option.some.inj (placed.symm.trans (Heap.cell_alloc_next _ _))⟩
    · exact .inr ⟨here, (if_neg here).symm.trans placed⟩
  have fresh_ {other : EntryId} {old : ForwardedShmPool} (there : entries.cell other = some old)
      (has : old.linked = true) (owns : (newEntry pool size identity).linked = true)
      (device : old.dev = (newEntry pool size identity).dev) (inode : old.ino = (newEntry pool size identity).ino) :
      False := by
    cases identity with
    | none => cases owns
    | some file => exact fresh file rfl other ((listed.linked other).mpr ⟨old, there, has⟩) old there ⟨device, inode⟩
  refine ⟨fun other => ?_, ?_, ?_⟩
  · cases identity with
    | none =>
        refine (listed.linked other).trans ⟨?_, ?_⟩
        · rintro ⟨old, there, has⟩
          exact ⟨old, Heap.cell_alloc_of_live _ _ there, has⟩
        · rintro ⟨new, placed, has⟩
          obtain ⟨_, rfl⟩ | ⟨_, there⟩ := before placed
          · cases has
          · exact ⟨new, there, has⟩
    | some file =>
        rw [Option.isSome_some, if_pos rfl, List.mem_cons, listed.linked other]
        constructor
        · rintro (rfl | ⟨old, there, has⟩)
          · exact ⟨_, Heap.cell_alloc_next _ _, rfl⟩
          · exact ⟨old, Heap.cell_alloc_of_live _ _ there, has⟩
        · rintro ⟨new, placed, has⟩
          obtain ⟨here, _⟩ | ⟨_, there⟩ := before placed
          · exact .inl here
          · exact .inr ⟨new, there, has⟩
  · split
    · exact List.nodup_cons.mpr ⟨outside, listed.once⟩
    · exact listed.once
  · intro first one placed has second other also owns device inode
    obtain ⟨rfl, rfl⟩ | ⟨_, there⟩ := before placed
    · obtain ⟨rfl, _⟩ | ⟨_, their⟩ := before also
      · rfl
      · exact (fresh_ their owns has device.symm inode.symm).elim
    · obtain ⟨_, rfl⟩ | ⟨_, their⟩ := before also
      · exact (fresh_ there has owns device inode).elim
      · exact listed.distinct first one there has second other their owns device inode

end Listed

namespace Backed

theorem modify (backed : Backed entries upstream) (target : EntryId) {change : ForwardedShmPool → ForwardedShmPool}
    (pool : ∀ entry, (change entry).pool = entry.pool) (size : ∀ entry, (change entry).size = entry.size) :
    Backed (entries.modify target change) upstream := by
  have before {other : EntryId} {new : ForwardedShmPool} (placed : (entries.modify target change).cell other = some new) :
      ∃ old, entries.cell other = some old ∧ new.pool = old.pool ∧ new.size = old.size := by
    obtain ⟨old, there, ⟨_, rfl⟩ | ⟨_, rfl⟩⟩ := entries.old_of_modify placed
    · exact ⟨old, there, pool old, size old⟩
    · exact ⟨new, there, rfl, rfl⟩
  refine ⟨?_, ?_, ?_⟩
  · intro upstreamPool live
    obtain ⟨other, old, there, owns⟩ := backed.used upstreamPool live
    by_cases here : other = target
    · subst here
      exact ⟨other, change old, (Heap.cell_modify_self _ _ _).trans (congrArg _ there), (pool old).trans owns⟩
    · exact ⟨other, old, (Heap.cell_modify_other _ _ here).trans there, owns⟩
  · intro first one placed second other also same
    obtain ⟨old, there, samePool, _⟩ := before placed
    obtain ⟨past, their, alike, _⟩ := before also
    exact backed.apart first old there second past their (samePool.symm.trans (same.trans alike))
  · intro other new placed
    obtain ⟨old, there, samePool, sameSize⟩ := before placed
    rw [samePool, sameSize]
    exact backed.grows other old there

theorem grow (backed : Backed entries upstream) (present : entries.cell id = some entry) {size : Int}
    (larger : size > entry.size) :
    Backed (entries.modify id fun entry => { entry with size := size })
      (upstream.modify entry.pool fun record => { record with sizes := size :: record.sizes }) := by
  refine ⟨?_, ?_, ?_⟩
  · intro pool live
    have still : upstream.live pool = true := by
      unfold Heap.live at live ⊢
      rw [Heap.cell_modify] at live
      split at live
      · rw [Option.isSome_map] at live
        exact live
      · exact live
    obtain ⟨other, old, there, owns⟩ := backed.used pool still
    by_cases here : other = id
    · subst here
      exact ⟨other, _, (Heap.cell_modify_self _ _ _).trans (congrArg _ there), owns⟩
    · exact ⟨other, old, (Heap.cell_modify_other _ _ here).trans there, owns⟩
  · intro first one placed second other also same
    obtain ⟨old, there, changed⟩ := entries.old_of_modify placed
    obtain ⟨past, their, altered⟩ := entries.old_of_modify also
    refine backed.apart first old there second past their ?_
    have left : one.pool = old.pool := by
      obtain ⟨_, rfl⟩ | ⟨_, rfl⟩ := changed
      · rfl
      · rfl
    have right : other.pool = past.pool := by
      obtain ⟨_, rfl⟩ | ⟨_, rfl⟩ := altered
      · rfl
      · rfl
    exact left.symm.trans (same.trans right)
  · intro other new placed
    obtain ⟨old, there, ⟨rfl, rfl⟩ | ⟨elsewhere, rfl⟩⟩ := entries.old_of_modify placed
    · cases present.symm.trans there
      obtain ⟨record, live, last, ordered⟩ := backed.grows other entry present
      refine ⟨_, (Heap.cell_modify_self _ _ _).trans (congrArg _ live), rfl, ?_⟩
      refine List.pairwise_cons.mpr ⟨fun earlier listed => ?_, ordered⟩
      cases sizes : record.sizes with
      | nil =>
          rw [sizes] at listed
          cases listed
      | cons top rest =>
          rw [sizes] at listed last ordered
          cases last
          rcases List.mem_cons.mp listed with rfl | inside
          · exact larger
          · have above := (List.pairwise_cons.mp ordered).1 earlier inside
            omega
    · have apart : new.pool ≠ entry.pool := fun same =>
        elsewhere (backed.apart other new there id entry present same)
      obtain ⟨record, live, rest⟩ := backed.grows other new there
      exact ⟨record, (Heap.cell_modify_other _ _ apart).trans live, rest⟩

theorem free (backed : Backed entries upstream) (present : entries.cell id = some entry) :
    Backed (entries.free id) (upstream.free entry.pool) := by
  refine ⟨?_, ?_, ?_⟩
  · intro pool live
    have elsewhere : pool ≠ entry.pool := by
      rintro rfl
      rw [Heap.live, Heap.cell_free_self] at live
      cases live
    have still : upstream.live pool = true := by
      rw [Heap.live, Heap.cell_free_other _ elsewhere] at live
      exact live
    obtain ⟨other, old, there, owns⟩ := backed.used pool still
    have apart : other ≠ id := by
      rintro rfl
      cases present.symm.trans there
      exact elsewhere owns.symm
    exact ⟨other, old, (Heap.cell_free_other _ apart).trans there, owns⟩
  · intro first one placed second other also
    exact backed.apart first one (entries.old_of_free placed) second other (entries.old_of_free also)
  · intro other new placed
    have there := entries.old_of_free placed
    obtain ⟨record, live, rest⟩ := backed.grows other new there
    have apart : new.pool ≠ entry.pool := by
      intro same
      have here := backed.apart other new there id entry present same
      subst here
      cases (Heap.cell_free_self _ _).symm.trans placed
    exact ⟨record, (Heap.cell_free_other _ apart).trans live, rest⟩

theorem create (backed : Backed entries upstream) (size : Int) (identity : Option Identity) :
    Backed (entries.alloc (newEntry upstream.next size identity)) (upstream.alloc ⟨[size]⟩) := by
  have owns : (newEntry upstream.next size identity).pool = upstream.next := by
    cases identity <;> rfl
  have sized : (newEntry upstream.next size identity).size = size := by
    cases identity <;> rfl
  have before {other : EntryId} {new : ForwardedShmPool}
      (placed : (entries.alloc (newEntry upstream.next size identity)).cell other = some new) :
      (other = entries.next ∧ new = newEntry upstream.next size identity) ∨
        (entries.cell other = some new ∧ new.pool ≠ upstream.next) := by
    by_cases here : other = entries.next
    · subst here
      exact .inl ⟨rfl, Option.some.inj (placed.symm.trans (Heap.cell_alloc_next _ _))⟩
    · have there := (if_neg here).symm.trans placed
      obtain ⟨record, live, _⟩ := backed.grows other new there
      exact .inr ⟨there, Nat.ne_of_lt (upstream.live_below live)⟩
  refine ⟨?_, ?_, ?_⟩
  · intro pool live
    by_cases here : pool = upstream.next
    · exact ⟨_, _, Heap.cell_alloc_next _ _, owns.trans here.symm⟩
    · have still : upstream.live pool = true := by
        rw [Heap.live, Heap.cell_alloc, if_neg here] at live
        exact live
      obtain ⟨other, old, there, belongs⟩ := backed.used pool still
      exact ⟨other, old, Heap.cell_alloc_of_live _ _ there, belongs⟩
  · intro first one placed second other also same
    obtain ⟨rfl, rfl⟩ | ⟨there, apart⟩ := before placed
    · obtain ⟨rfl, _⟩ | ⟨_, elsewhere⟩ := before also
      · rfl
      · exact absurd (same.symm.trans owns) elsewhere
    · obtain ⟨_, rfl⟩ | ⟨their, _⟩ := before also
      · exact absurd (same.trans owns) apart
      · exact backed.apart first one there second other their same
  · intro other new placed
    obtain ⟨_, rfl⟩ | ⟨there, _⟩ := before placed
    · rw [owns, sized]
      exact ⟨⟨[size]⟩, Heap.cell_alloc_next _ _, rfl, List.pairwise_singleton _ _⟩
    · obtain ⟨record, live, rest⟩ := backed.grows other new there
      exact ⟨record, Heap.cell_alloc_of_live _ _ live, rest⟩

end Backed

namespace Largest

theorem modify (largest : Largest entries asked) (target : EntryId) {change : ForwardedShmPool → ForwardedShmPool}
    (size : ∀ entry, (change entry).size = entry.size) : Largest (entries.modify target change) asked := by
  have before {other : EntryId} {new : ForwardedShmPool} (placed : (entries.modify target change).cell other = some new) :
      ∃ old, entries.cell other = some old ∧ new.size = old.size := by
    obtain ⟨old, there, ⟨_, rfl⟩ | ⟨_, rfl⟩⟩ := entries.old_of_modify placed
    · exact ⟨old, there, size old⟩
    · exact ⟨new, there, rfl⟩
  refine ⟨?_, ?_, largest.unborn⟩
  · intro other new placed
    obtain ⟨old, there, same⟩ := before placed
    rw [same]
    exact largest.asks other old there
  · intro other new placed
    obtain ⟨old, there, same⟩ := before placed
    rw [same]
    exact largest.bounds other old there

theorem grow (largest : Largest entries asked) (present : entries.cell id = some entry) {size : Int}
    (larger : size > entry.size) :
    Largest (entries.modify id fun entry => { entry with size := size })
      (Function.update asked id (size :: asked id)) := by
  refine ⟨?_, ?_, ?_⟩
  · intro other new placed
    obtain ⟨old, there, ⟨rfl, rfl⟩ | ⟨elsewhere, rfl⟩⟩ := entries.old_of_modify placed
    · rw [Function.update_self]
      exact List.mem_cons_self
    · rw [Function.update_of_ne elsewhere]
      exact largest.asks other new there
  · intro other new placed earlier listed
    obtain ⟨old, there, ⟨rfl, rfl⟩ | ⟨elsewhere, rfl⟩⟩ := entries.old_of_modify placed
    · rw [Function.update_self] at listed
      cases present.symm.trans there
      rcases List.mem_cons.mp listed with rfl | inside
      · exact Int.le_refl _
      · have bound := largest.bounds other entry present earlier inside
        dsimp only
        omega
    · rw [Function.update_of_ne elsewhere] at listed
      exact largest.bounds other new there earlier listed
  · intro other above
    have elsewhere : other ≠ id := Nat.ne_of_gt (Nat.lt_of_lt_of_le (entries.live_below present) above)
    rw [Function.update_of_ne elsewhere]
    exact largest.unborn other above

theorem ask (largest : Largest entries asked) (present : entries.cell id = some entry) {size : Int}
    (smaller : ¬ size > entry.size) : Largest entries (Function.update asked id (size :: asked id)) := by
  refine ⟨?_, ?_, ?_⟩
  · intro other new there
    by_cases here : other = id
    · subst here
      rw [Function.update_self]
      exact List.mem_cons_of_mem _ (largest.asks other new there)
    · rw [Function.update_of_ne here]
      exact largest.asks other new there
  · intro other new there earlier listed
    by_cases here : other = id
    · subst here
      rw [Function.update_self] at listed
      cases present.symm.trans there
      rcases List.mem_cons.mp listed with rfl | inside
      · exact Int.not_lt.mp smaller
      · exact largest.bounds other entry present earlier inside
    · rw [Function.update_of_ne here] at listed
      exact largest.bounds other new there earlier listed
  · intro other above
    have elsewhere : other ≠ id := Nat.ne_of_gt (Nat.lt_of_lt_of_le (entries.live_below present) above)
    rw [Function.update_of_ne elsewhere]
    exact largest.unborn other above

theorem free (largest : Largest entries asked) (id : EntryId) : Largest (entries.free id) asked :=
  ⟨fun other new placed => largest.asks other new (entries.old_of_free placed),
    fun other new placed => largest.bounds other new (entries.old_of_free placed), largest.unborn⟩

theorem create (largest : Largest entries asked) {size : Int} (sized : entry.size = size) :
    Largest (entries.alloc entry) (Function.update asked entries.next (size :: asked entries.next)) := by
  have first := largest.unborn entries.next (Nat.le_refl _)
  refine ⟨?_, ?_, ?_⟩
  · intro other new placed
    by_cases here : other = entries.next
    · subst here
      cases (Heap.cell_alloc_next _ _).symm.trans placed
      rw [Function.update_self, sized]
      exact List.mem_cons_self
    · rw [Function.update_of_ne here]
      exact largest.asks other new ((if_neg here).symm.trans placed)
  · intro other new placed earlier listed
    by_cases here : other = entries.next
    · subst here
      cases (Heap.cell_alloc_next _ _).symm.trans placed
      rw [Function.update_self, first, List.mem_singleton] at listed
      exact Int.le_of_eq (by rw [listed, sized])
    · rw [Function.update_of_ne here] at listed
      exact largest.bounds other new ((if_neg here).symm.trans placed) earlier listed
  · intro other above
    have elsewhere : other ≠ entries.next := Nat.ne_of_gt above
    rw [Function.update_of_ne elsewhere]
    exact largest.unborn other (Nat.le_of_succ_le above)

end Largest

end Entries

section Handlers

variable {fatal : Halt} {scene : ShmScene} {asked : EntryId → List Int} {id : EntryId} {entry : ForwardedShmPool}

theorem Pooled.descriptors (pooled : Pooled scene asked) (descriptors : Heap Unit) :
    Pooled { scene with descriptors := descriptors } asked :=
  ⟨pooled.counted, pooled.listed, pooled.backed, pooled.largest⟩

theorem close_delivers {fd : Descriptor} (opened : scene.descriptors.cell fd = some ()) :
    Delivers fatal (close scene fd) fun next => next = { scene with descriptors := scene.descriptors.free fd } :=
  .read opened (.pure rfl)

theorem wlShmPoolDestroy_delivers {pool : UpstreamPool} {record : UpstreamShmPool}
    (live : scene.upstream.cell pool = some record) :
    Delivers fatal (wlShmPoolDestroy scene pool) fun next => next = { scene with upstream := scene.upstream.free pool } :=
  .read live (.pure rfl)

theorem growPool_delivers (pooled : Pooled scene asked) (present : scene.entries.cell id = some entry) (size : Int) :
    Delivers fatal (growPool scene id size) fun next =>
      Pooled next (Function.update asked id (size :: asked id)) ∧ next.resources = scene.resources ∧
        next.descriptors = scene.descriptors ∧ ∃ new, next.entries.cell id = some new := by
  refine .read present ?_
  split
  · rename_i larger
    obtain ⟨record, live, _⟩ := pooled.backed.grows id entry present
    have grown : Delivers fatal (wlShmPoolResize scene entry.pool size) fun next => next =
        { scene with upstream := scene.upstream.modify entry.pool fun record =>
          { record with sizes := size :: record.sizes } } :=
      .read live (.pure rfl)
    refine grown.bind ?_
    rintro _ rfl
    refine .pure ⟨⟨pooled.counted.modify id ?_, pooled.listed.modify id ?_ ?_ ?_, pooled.backed.grow present larger,
      pooled.largest.grow present larger⟩, rfl, rfl, _, (Heap.cell_modify_self _ _ _).trans (congrArg _ present)⟩
    · exact fun _ => rfl
    · exact fun _ => rfl
    · exact fun _ => rfl
    · exact fun _ => rfl
  · rename_i smaller
    exact .pure ⟨⟨pooled.counted, pooled.listed, pooled.backed, pooled.largest.ask present smaller⟩, rfl, rfl, entry,
      present⟩

theorem findEntry_delivers (file : Identity) (ids : List EntryId)
    (live : ∀ id ∈ ids, scene.entries.live id = true) :
    Delivers fatal (findEntry scene file ids) fun
      | some id => ∃ entry, scene.entries.cell id = some entry
      | none => ∀ id ∈ ids, ∀ entry, scene.entries.cell id = some entry →
          ¬ (entry.dev = file.dev ∧ entry.ino = file.ino) := by
  induction ids with
  | nil => exact .pure nofun
  | cons id rest ih =>
      obtain ⟨entry, present⟩ := Option.isSome_iff_exists.mp (live id List.mem_cons_self)
      refine .read present ?_
      split
      · rename_i differs
        refine (ih fun other listed => live other (List.mem_cons_of_mem _ listed)).weaken ?_
        rintro (_ | found) result
        · intro other listed old there
          rcases List.mem_cons.mp listed with rfl | inside
          · cases present.symm.trans there
            rintro ⟨device, inode⟩
            rw [device, inode] at differs
            simp at differs
          · exact result other inside old there
        · exact result
      · exact .pure ⟨entry, present⟩

theorem reuseEntry_delivers (pooled : Pooled scene asked) (present : scene.entries.cell id = some entry)
    (client : WlClientId) {fd : Descriptor} (opened : scene.descriptors.cell fd = some ()) (size : Int) :
    Delivers fatal (reuseEntry scene client fd size id) fun next =>
      Pooled next (Function.update asked id (size :: asked id)) ∧
        next.resources = scene.resources.alloc ⟨client, id⟩ ∧ next.descriptors = scene.descriptors.free fd := by
  refine (growPool_delivers pooled present size).bind ?_
  rintro grown ⟨after, resources, descriptors, new, placed⟩
  have opened_ : (grown.setEntry id fun entry => { entry with refcount := entry.refcount + 1 }).descriptors.cell fd =
      some () := by
    change grown.descriptors.cell fd = some ()
    rw [descriptors, opened]
  refine (close_delivers opened_).bind ?_
  rintro _ rfl
  refine .pure ⟨⟨after.counted.refer placed client, after.listed.modify id ?_ ?_ ?_, after.backed.modify id ?_ ?_,
    after.largest.modify id ?_⟩, congrArg (Heap.alloc · _) resources, congrArg (Heap.free · fd) descriptors⟩
  · exact fun _ => rfl
  · exact fun _ => rfl
  · exact fun _ => rfl
  · exact fun _ => rfl
  · exact fun _ => rfl
  · exact fun _ => rfl

theorem createEntry_delivers (pooled : Pooled scene asked) (client : WlClientId) {fd : Descriptor}
    (opened : scene.descriptors.cell fd = some ()) (size : Int) {identity : Option Identity}
    (fresh : ∀ file, identity = some file → ∀ id ∈ scene.shmPools, ∀ entry, scene.entries.cell id = some entry →
      ¬ (entry.dev = file.dev ∧ entry.ino = file.ino)) :
    Delivers fatal (createEntry scene client fd size identity) fun next =>
      Pooled next (Function.update asked scene.entries.next (size :: asked scene.entries.next)) ∧
        next.resources = scene.resources.alloc ⟨client, scene.entries.next⟩ ∧
        next.descriptors = scene.descriptors.free fd := by
  have one : (newEntry scene.upstream.next size identity).refcount = 1 := by
    cases identity <;> rfl
  have sized : (newEntry scene.upstream.next size identity).size = size := by
    cases identity <;> rfl
  have closed : Delivers fatal (close { scene with upstream := scene.upstream.alloc ⟨[size]⟩ } fd) fun next => next =
      { scene with upstream := scene.upstream.alloc ⟨[size]⟩, descriptors := scene.descriptors.free fd } :=
    close_delivers opened
  refine .read opened (closed.bind ?_)
  rintro _ rfl
  exact .pure ⟨⟨pooled.counted.create client one, pooled.listed.create _ size fresh, pooled.backed.create size identity,
    pooled.largest.create sized⟩, rfl, rfl⟩

theorem shmCreatePool_delivers (pooled : Pooled scene asked) (client : WlClientId) {fd : Descriptor}
    (opened : scene.descriptors.cell fd = some ()) (size : Int) (identity : Option Identity)
    (resourceCreated allocated : Bool) :
    Delivers fatal (shmCreatePool scene client fd size identity resourceCreated allocated) fun next =>
      next.descriptors = scene.descriptors.free fd ∧
        (Pooled next asked ∧ next.resources = scene.resources ∨
          ∃ id, Pooled next (Function.update asked id (size :: asked id)) ∧
            next.resources = scene.resources.alloc ⟨client, id⟩) := by
  have nothing : Delivers fatal (close scene fd) fun next => next.descriptors = scene.descriptors.free fd ∧
      (Pooled next asked ∧ next.resources = scene.resources ∨
        ∃ id, Pooled next (Function.update asked id (size :: asked id)) ∧
          next.resources = scene.resources.alloc ⟨client, id⟩) := by
    refine (close_delivers opened).weaken ?_
    rintro _ rfl
    exact ⟨rfl, .inl ⟨pooled.descriptors _, rfl⟩⟩
  have found : Delivers fatal (lookup scene identity) fun
      | some id => ∃ entry, scene.entries.cell id = some entry
      | none => ∀ file, identity = some file → ∀ id ∈ scene.shmPools, ∀ entry, scene.entries.cell id = some entry →
          ¬ (entry.dev = file.dev ∧ entry.ino = file.ino) := by
    cases identity with
    | none => exact .pure nofun
    | some file =>
        refine (findEntry_delivers file scene.shmPools fun id listed => ?_).weaken ?_
        · obtain ⟨entry, present, _⟩ := (pooled.listed.linked id).mp listed
          exact congrArg Option.isSome present
        · rintro (_ | id) result
          · rintro _ ⟨⟩
            exact result
          · exact result
  unfold shmCreatePool
  split
  · exact nothing
  · refine found.bind ?_
    rintro (_ | id) result
    · dsimp only
      split
      · exact nothing
      · refine (createEntry_delivers pooled client opened size result).weaken ?_
        rintro next ⟨after, resources, descriptors⟩
        exact ⟨descriptors, .inr ⟨_, after, resources⟩⟩
    · obtain ⟨entry, present⟩ := result
      refine (reuseEntry_delivers pooled present client opened size).weaken ?_
      rintro next ⟨after, resources, descriptors⟩
      exact ⟨descriptors, .inr ⟨id, after, resources⟩⟩

theorem shmPoolHandleResourceDestroy_delivers (pooled : Pooled scene asked) {resource : ResourceId}
    {record : PoolResource} (found : scene.resources.cell resource = some record) :
    Delivers fatal (shmPoolHandleResourceDestroy scene resource) fun next =>
      Pooled next asked ∧ next.descriptors = scene.descriptors := by
  obtain ⟨entry, present⟩ := Option.isSome_iff_exists.mp (pooled.counted.referred resource record found)
  refine .read found (.read present ?_)
  dsimp only
  split
  · rename_i others
    refine .pure ⟨⟨pooled.counted.drop present found rfl others, pooled.listed.modify _ ?_ ?_ ?_,
      pooled.backed.modify _ ?_ ?_, pooled.largest.modify _ ?_⟩, rfl⟩
    · exact fun _ => rfl
    · exact fun _ => rfl
    · exact fun _ => rfl
    · exact fun _ => rfl
    · exact fun _ => rfl
    · exact fun _ => rfl
  · rename_i alone
    obtain ⟨upstream, live, _⟩ := pooled.backed.grows record.entry entry present
    refine Delivers.bind (wlShmPoolDestroy_delivers live) ?_
    rintro _ rfl
    refine .pure ?_
    simp only [ShmScene.setEntry, Heap.free_modify]
    exact ⟨⟨pooled.counted.last present found rfl alone, pooled.listed.free present, pooled.backed.free present,
      pooled.largest.free _⟩, trivial⟩

theorem wlClientDestroy_delivers (pooled : Pooled scene asked) (client : WlClientId) :
    Delivers fatal (wlClientDestroy scene client) fun next =>
      Pooled next asked ∧ next.descriptors = scene.descriptors := by
  refine Delivers.foldlM (fun middle resource holds => ?_) _ ⟨pooled, rfl⟩
  split
  · rename_i owned
    obtain ⟨record, found, _⟩ := (Option.any_eq_true _ _).mp owned
    refine (shmPoolHandleResourceDestroy_delivers holds.1 found).weaken ?_
    rintro next ⟨after, same⟩
    exact ⟨after, same.trans holds.2⟩
  · exact .pure holds

end Handlers

/-- A request asks the entry of its nested pool for a size. -/
def ShmEvent.asks (scene : ShmScene) (event : ShmEvent) : Option (EntryId × Int) :=
  match event with
  | .createPool _ size _ _ _ =>
      match handleShm scene event with
      | .ok next => (next.resources.cell scene.resources.next).map fun record => (record.entry, size)
      | .error _ => none
  | .resize resource size => (scene.resources.cell resource).map fun record => (record.entry, size)
  | _ => none

/-- The sizes that an entry was asked for are noted. -/
def ask (asked : EntryId → List Int) (scene : ShmScene) (event : ShmEvent) : EntryId → List Int :=
  match event.asks scene with
  | some (id, size) => Function.update asked id (size :: asked id)
  | none => asked

/-- No descriptor that was received stays open. -/
def Closed (scene : ShmScene) : Prop := ∀ fd, scene.descriptors.cell fd = none

theorem handleShm_delivers {fatal : Halt} {scene : ShmScene} {asked : EntryId → List Int} {event : ShmEvent}
    (pooled : Pooled scene asked) (closed : Closed scene) (allowed : shmEnabled scene event = true) :
    Delivers fatal (handleShm scene event) fun next =>
      handleShm scene event = .ok next → Pooled next (ask asked scene event) ∧ Closed next := by
  cases event with
  | createPool client size identity resourceCreated allocated =>
      have created : Delivers fatal (shmCreatePool _ _ _ _ _ _ _) _ :=
        shmCreatePool_delivers (pooled.descriptors (scene.descriptors.alloc ())) client (Heap.cell_alloc_next _ _) size
          identity resourceCreated allocated
      refine created.weaken ?_
      rintro next ⟨descriptors, outcome⟩ handled
      constructor
      · unfold ask ShmEvent.asks
        rw [handled]
        obtain ⟨after, resources⟩ | ⟨id, after, resources⟩ := outcome
        · dsimp only
          rw [resources]
          dsimp only
          rw [Heap.cell_next]
          exact after
        · dsimp only
          rw [resources]
          dsimp only
          rw [Heap.cell_alloc_next]
          exact after
      · intro fd
        rw [descriptors]
        by_cases here : fd = scene.descriptors.next
        · rw [here]
          exact Heap.cell_free_self _ _
        · exact (Heap.cell_free_other _ here).trans ((if_neg here).trans (closed fd))
  | createBuffer resource =>
      obtain ⟨record, found⟩ := Option.isSome_iff_exists.mp allowed
      obtain ⟨entry, present⟩ := Option.isSome_iff_exists.mp (pooled.counted.referred resource record found)
      obtain ⟨upstream, live, _⟩ := pooled.backed.grows record.entry entry present
      exact .read found (.read present (.read live (.pure fun _ => ⟨pooled, closed⟩)))
  | resize resource size =>
      obtain ⟨record, found⟩ := Option.isSome_iff_exists.mp allowed
      obtain ⟨entry, present⟩ := Option.isSome_iff_exists.mp (pooled.counted.referred resource record found)
      refine .read found ((growPool_delivers pooled present size).weaken ?_)
      rintro next ⟨after, _, descriptors, _⟩ _
      constructor
      · unfold ask ShmEvent.asks
        dsimp only
        rw [found]
        exact after
      · intro fd
        rw [descriptors]
        exact closed fd
  | destroy resource =>
      obtain ⟨record, found⟩ := Option.isSome_iff_exists.mp allowed
      refine (shmPoolHandleResourceDestroy_delivers pooled found).weaken ?_
      rintro next ⟨after, descriptors⟩ _
      refine ⟨after, fun fd => ?_⟩
      rw [descriptors]
      exact closed fd
  | disconnect client =>
      refine (wlClientDestroy_delivers pooled client).weaken ?_
      rintro next ⟨after, descriptors⟩ _
      refine ⟨after, fun fd => ?_⟩
      rw [descriptors]
      exact closed fd

theorem pooled_of_reachable {pair : ShmScene × (EntryId → List Int)}
    (reachable : (sharing.machine.observed (fun _ => []) ask).Reachable pair) :
    Pooled pair.1 pair.2 ∧ Closed pair.1 := by
  have gone {Record : Type} {id : Nat} {record : Record} (found : (Heap.empty : Heap Record).cell id = some record) :
      False := by
    cases found
  refine reachable.invariant (fun pair => Pooled pair.1 pair.2 ∧ Closed pair.1) ?_ ?_
  · rintro ⟨_, _⟩ ⟨rfl, rfl⟩
    refine ⟨⟨⟨?_, ?_, ?_⟩, ⟨?_, List.nodup_nil, ?_⟩, ⟨nofun, ?_, ?_⟩, ⟨?_, ?_, fun _ _ => rfl⟩⟩, fun _ => rfl⟩
    · exact fun _ _ found => (gone found).elim
    · exact fun _ _ found => (gone found).elim
    · exact fun _ _ found => (gone found).elim
    · exact fun _ => ⟨nofun, fun ⟨_, found, _⟩ => (gone found).elim⟩
    · exact fun _ _ found => (gone found).elim
    · exact fun _ _ found => (gone found).elim
    · exact fun _ _ found => (gone found).elim
    · exact fun _ _ found => (gone found).elim
    · exact fun _ _ found => (gone found).elim
  · rintro ⟨scene, asked⟩ event ⟨next, _⟩ ⟨pooled, closed⟩ ⟨⟨allowed, succeeded⟩, rfl⟩
    have delivers : Delivers Halt.assertion (handleShm scene event) _ := handleShm_delivers pooled closed allowed
    exact delivers.ensures next succeeded succeeded

/-- In every reachable scene the pools are counted, listed under different identities, backed by upstream pools that only
grew and as large as the largest size that was asked for, an entry lives exactly as long as a nested pool refers to it,
no descriptor stays open, and every request succeeds. -/
theorem shm_pools_shared {pair : ShmScene × (EntryId → List Int)}
    (reachable : (sharing.machine.observed (fun _ => []) ask).Reachable pair) :
    Pooled pair.1 pair.2 ∧
    (∀ id, pair.1.entries.live id = true ↔ ∃ resource record, pair.1.resources.cell resource = some record ∧
      record.entry = id) ∧
    Closed pair.1 ∧
    ∀ event, shmEnabled pair.1 event = true → ∃ next, handleShm pair.1 event = .ok next := by
  obtain ⟨pooled, closed⟩ := pooled_of_reachable reachable
  refine ⟨pooled, fun id => ⟨fun live => ?_, ?_⟩, closed, fun event allowed => ?_⟩
  · obtain ⟨entry, present⟩ := Option.isSome_iff_exists.mp live
    obtain ⟨resource, record, found, names⟩ := Heap.exists_of_count (pooled.counted.positive id entry present)
    exact ⟨resource, record, found, eq_of_beq names⟩
  · rintro ⟨resource, record, found, rfl⟩
    exact pooled.counted.referred resource record found
  · obtain ⟨next, handled, _⟩ := Delivers.returns Halt.assertion fun _ => handleShm_delivers pooled closed allowed
    exact ⟨next, handled⟩

/-- Two clients share the pool of one file, which grows for the second one and outlives the first one. -/
theorem shm_pools_shared_outlives : ∃ scene : ShmScene, ∃ entry, scene.entries.cell 0 = some entry ∧
    entry.refcount = 1 ∧ entry.size = 300 := by
  obtain ⟨pair, reachable, passed⟩ := sharing.play_observed (fun _ => []) ask
    [.createPool 0 100 (some ⟨5, 7⟩) true true, .createPool 1 300 (some ⟨5, 7⟩) true true, .resize 0 200, .disconnect 0]
    (fun pair => (pair.1.entries.cell 0).any fun entry => entry.size == 300 && referents pair.1.resources 0 == 1)
    (rfl : sharing.initial .empty) (by decide +kernel : ((sharing.observed _ _).play _ _).any _ = true)
  obtain ⟨entry, present, holds⟩ := (Option.any_eq_true _ _).mp passed
  simp only [Bool.and_eq_true, beq_iff_eq] at holds
  have counted := (shm_pools_shared reachable).1.counted.counted 0 entry present
  rw [holds.2] at counted
  exact ⟨pair.1, entry, present, counted, holds.1⟩

end SwaylockPlugin.Shm
