import SwaylockPlugin.Library.Count
import SwaylockPlugin.Construction.ColorManagement

namespace SwaylockPlugin.Color

open Library

/-- A properties record owns an upstream description, and so does a plugin's description without such a record. -/
def owners (properties : Heap Properties) (descs : Heap ForwardDesc) (description : UpstreamDesc) : Nat :=
  properties.count (fun record => record.description == some description) +
    descs.count fun record => record.properties.isNone && record.description == some description

/-- The descriptions of the plugins hold a properties record this many times. -/
def uses (descs : Heap ForwardDesc) (id : PropertiesId) : Nat :=
  descs.count fun record => record.properties == some id

/-- Every live upstream description has one owner, and every properties record counts the descriptions of the plugins
that use it and what else holds it. -/
structure Shared (descriptions : Heap UpstreamDescription) (properties : Heap Properties) (descs : Heap ForwardDesc)
    (held : PropertiesId → Nat) : Prop where
  described : ∀ id record, properties.cell id = some record → record.description.isSome = true
  granted : ∀ id record, descs.cell id = some record → record.description.isSome = true
  same : ∀ id record, descs.cell id = some record → ∀ shared, record.properties = some shared →
    ∃ owner, properties.cell shared = some owner ∧ owner.description = record.description
  owned : ∀ description, (descriptions.live description).toNat = owners properties descs description
  counted : ∀ id, (properties.cell id).elim 0 Properties.referenceCount = held id + uses descs id
  positive : ∀ id record, properties.cell id = some record → 0 < record.referenceCount

/-- A description state waits for the answer to a description. -/
def Listens (scene : ColorScene) (description : UpstreamDesc) (id : StateId) : Prop :=
  scene.descriptions.cell description = some ⟨some id, false⟩

/-- A change spares the description states when they stay, no one of them waits for another description, and the
properties that stay change at most in their count. -/
structure Spares (scene next : ColorScene) : Prop where
  informations : next.informations = scene.informations
  states : next.states = scene.states
  later : scene.descriptions.next ≤ next.descriptions.next
  listens : ∀ description id, Listens next description id → Listens scene description id
  properties : ∀ id record, next.properties.cell id = some record → ∃ old,
    scene.properties.cell id = some old ∧ record = { old with referenceCount := record.referenceCount }

theorem Spares.rfl {scene : ColorScene} : Spares scene scene :=
  ⟨Eq.refl _, Eq.refl _, Nat.le_refl _, fun _ _ present => present, fun _ record present => ⟨record, present, Eq.refl _⟩⟩

theorem Spares.trans {first second third : ColorScene} (before : Spares first second)
    (after : Spares second third) : Spares first third := by
  refine ⟨after.informations.trans before.informations, after.states.trans before.states,
    Nat.le_trans before.later after.later, fun id record present => before.listens id record (after.listens id record present), ?_⟩
  intro id record present
  obtain ⟨middle, between, changed⟩ := after.properties id record present
  obtain ⟨old, found, kept⟩ := before.properties id middle between
  refine ⟨old, found, ?_⟩
  rw [changed, kept]

theorem Spares.elsewhere {scene next : ColorScene} (spares : Spares scene next) (descs : Heap ForwardDesc)
    (surfaces : Heap ForwardColor) (colorSurfaces : Heap (Option SurfaceId)) :
    Spares scene { next with descs := descs, surfaces := surfaces, colorSurfaces := colorSurfaces } :=
  ⟨spares.informations, spares.states, spares.later, spares.listens, spares.properties⟩

namespace Shared

variable {descriptions : Heap UpstreamDescription} {properties : Heap Properties} {descs : Heap ForwardDesc}
  {held : PropertiesId → Nat}

theorem congr {other : PropertiesId → Nat} (shared : Shared descriptions properties descs held)
    (same : ∀ id, other id = held id) : Shared descriptions properties descs other :=
  (funext same : other = held) ▸ shared

theorem live_of_owned (shared : Shared descriptions properties descs held) {description : UpstreamDesc}
    (owned : 0 < owners properties descs description) : descriptions.live description = true := by
  have amount := shared.owned description
  cases live : descriptions.live description with
  | true => rfl
  | false =>
      rw [live, Bool.toNat_false] at amount
      omega

theorem live_of_properties (shared : Shared descriptions properties descs held) {id : PropertiesId}
    {record : Properties} (present : properties.cell id = some record) {description : UpstreamDesc}
    (described : record.description = some description) : descriptions.live description = true := by
  refine shared.live_of_owned (Nat.add_pos_left (Heap.count_pos present ?_) _)
  rw [described, beq_self_eq_true]

theorem live_of_desc (shared : Shared descriptions properties descs held) {id : DescId} {record : ForwardDesc}
    (present : descs.cell id = some record) {description : UpstreamDesc}
    (granted : record.description = some description) : descriptions.live description = true := by
  cases named : record.properties with
  | some shares =>
      obtain ⟨owner, found, same⟩ := shared.same id record present shares named
      exact shared.live_of_properties found (same.trans granted)
  | none =>
      refine shared.live_of_owned (Nat.add_pos_right _ (Heap.count_pos present ?_))
      rw [named, granted, beq_self_eq_true]
      rfl

theorem present_of_held (shared : Shared descriptions properties descs held) {id : PropertiesId}
    (holds : 0 < held id) :
    ∃ record, properties.cell id = some record ∧ record.referenceCount = held id + uses descs id := by
  have counted := shared.counted id
  cases present : properties.cell id with
  | none =>
      rw [present, Option.elim_none] at counted
      omega
  | some record =>
      rw [present, Option.elim_some] at counted
      exact ⟨record, rfl, counted⟩

theorem modify_desc (shared : Shared descriptions properties descs held) (target : DescId)
    {change : ForwardDesc → ForwardDesc} (description : ∀ record, (change record).description = record.description)
    (uses_ : ∀ record, (change record).properties = record.properties) :
    Shared descriptions properties (descs.modify target change) held := by
  have owners_ (id : UpstreamDesc) : owners properties (descs.modify target change) id = owners properties descs id :=
    congrArg (_ + ·) (Heap.count_modify_same _ _ _ fun record => by rw [description, uses_])
  have users (id : PropertiesId) : uses (descs.modify target change) id = uses descs id :=
    Heap.count_modify_same _ _ _ fun record => by rw [uses_]
  refine ⟨shared.described, ?_, ?_, fun id => (shared.owned id).trans (owners_ id).symm,
    fun id => (shared.counted id).trans (congrArg _ (users id).symm), shared.positive⟩
  · exact descs.every_modify target change (fun record _ granted => (description record).symm ▸ granted) shared.granted
  · intro id record present
    obtain ⟨old, found, ⟨_, rfl⟩ | ⟨_, rfl⟩⟩ := descs.old_of_modify present
    · rw [uses_, description]
      exact shared.same id old found
    · exact shared.same id record found

theorem modify_properties (shared : Shared descriptions properties descs held) (target : PropertiesId)
    {change : Properties → Properties} (description : ∀ record, (change record).description = record.description)
    (references : ∀ record, (change record).referenceCount = record.referenceCount) :
    Shared descriptions (properties.modify target change) descs held := by
  have owners_ (id : UpstreamDesc) : owners (properties.modify target change) descs id = owners properties descs id :=
    congrArg (· + _) (Heap.count_modify_same _ _ _ fun record => by rw [description])
  refine ⟨?_, shared.granted, ?_, fun id => (shared.owned id).trans (owners_ id).symm, ?_, ?_⟩
  · exact properties.every_modify target change (fun record _ held => (description record).symm ▸ held)
      shared.described
  · intro id record present shares named
    obtain ⟨owner, found, same⟩ := shared.same id record present shares named
    by_cases here : shares = target
    · subst here
      refine ⟨change owner, ?_, (description owner).trans same⟩
      rw [Heap.cell_modify_self, found, Option.map_some]
    · exact ⟨owner, (properties.cell_modify_other change here).trans found, same⟩
  · intro id
    rw [← shared.counted id]
    by_cases here : id = target
    · rw [here, Heap.cell_modify_self]
      cases properties.cell target with
      | none => rfl
      | some record => exact references record
    · rw [properties.cell_modify_other change here]
  · exact properties.every_modify target change (fun record _ positive => (references record).symm ▸ positive)
      shared.positive

theorem modify_description (shared : Shared descriptions properties descs held) (target : UpstreamDesc)
    (change : UpstreamDescription → UpstreamDescription) :
    Shared (descriptions.modify target change) properties descs held := by
  refine ⟨shared.described, shared.granted, shared.same, fun id => ?_, shared.counted, shared.positive⟩
  rw [← shared.owned id]
  unfold Heap.live
  rw [Heap.cell_modify]
  split
  · rw [Option.isSome_map]
  · rfl

theorem drop (shared : Shared descriptions properties descs held) {target : PropertiesId} {record : Properties}
    (present : properties.cell target = some record) {fewer : PropertiesId → Nat}
    (holds : ∀ id, held id = fewer id + (some target == some id).toNat) (others : 0 < record.referenceCount - 1) :
    Shared descriptions
      (properties.modify target fun record => { record with referenceCount := record.referenceCount - 1 }) descs fewer := by
  have owners_ (id : UpstreamDesc) : owners (properties.modify target fun record =>
      { record with referenceCount := record.referenceCount - 1 }) descs id = owners properties descs id :=
    congrArg (· + _) (Heap.count_modify_same _ _ _ fun _ => rfl)
  refine ⟨?_, shared.granted, ?_, fun id => (shared.owned id).trans (owners_ id).symm, ?_, ?_⟩
  · exact properties.every_modify target _ (fun _ _ described => described) shared.described
  · intro id desc found shares named
    obtain ⟨owner, there, same⟩ := shared.same id desc found shares named
    by_cases here : shares = target
    · subst here
      refine ⟨{ owner with referenceCount := owner.referenceCount - 1 }, ?_, same⟩
      rw [Heap.cell_modify_self, there, Option.map_some]
    · exact ⟨owner, (properties.cell_modify_other _ here).trans there, same⟩
  · intro id
    have counted := shared.counted id
    rw [holds id] at counted
    by_cases here : id = target
    · subst here
      rw [Heap.cell_modify_self]
      rw [present, Option.elim_some, beq_self_eq_true, Bool.toNat_true] at counted
      rw [present, Option.map_some, Option.elim_some]
      dsimp only
      omega
    · rw [properties.cell_modify_other _ here, counted, beq_false_of_ne fun same => here (Option.some.inj same).symm]
      rfl
  · intro id other found
    obtain ⟨old, there, ⟨rfl, rfl⟩ | ⟨_, rfl⟩⟩ := properties.old_of_modify found
    · rw [present] at there
      cases there
      exact others
    · exact shared.positive id _ there

theorem live_free (shared : Shared descriptions properties descs held) {description : UpstreamDesc}
    {fewer : UpstreamDesc → Nat}
    (loses : ∀ id, fewer id + (some description == some id).toNat = owners properties descs id) (id : UpstreamDesc) :
    ((descriptions.free description).live id).toNat = fewer id := by
  have amount := shared.owned id
  have lost := loses id
  by_cases here : id = description
  · subst here
    rw [beq_self_eq_true, Bool.toNat_true] at lost
    have bounded := Bool.toNat_le (descriptions.live id)
    rw [Heap.live, Heap.cell_free_self, Option.isSome_none, Bool.toNat_false]
    omega
  · rw [beq_false_of_ne fun same => here (Option.some.inj same).symm, Bool.toNat_false, Nat.add_zero] at lost
    rw [lost, ← amount, Heap.live, descriptions.cell_free_other here, Heap.live]

theorem release (shared : Shared descriptions properties descs held) {target : PropertiesId} {record : Properties}
    (present : properties.cell target = some record) {fewer : PropertiesId → Nat}
    (holds : ∀ id, held id = fewer id + (some target == some id).toNat) (alone : ¬ 0 < record.referenceCount - 1)
    {description : UpstreamDesc} (described : record.description = some description) :
    Shared (descriptions.free description) (properties.free target) descs fewer := by
  have unused : fewer target = 0 ∧ uses descs target = 0 := by
    have counted := shared.counted target
    rw [holds, present, Option.elim_some, beq_self_eq_true, Bool.toNat_true] at counted
    omega
  have owners_ (id : UpstreamDesc) : owners (properties.free target) descs id +
      (record.description == some id).toNat = owners properties descs id := by
    have counted := properties.count_free (fun record => record.description == some id) present
    unfold owners
    omega
  refine ⟨?_, shared.granted, ?_, ?_, ?_, ?_⟩
  · intro id other found
    by_cases here : id = target
    · rw [here, Heap.cell_free_self] at found
      cases found
    · rw [properties.cell_free_other here] at found
      exact shared.described id other found
  · intro id desc found shares named
    have other : shares ≠ target := by
      rintro rfl
      have positive : 0 < uses descs shares := Heap.count_pos found (by rw [named, beq_self_eq_true])
      omega
    obtain ⟨owner, there, same⟩ := shared.same id desc found shares named
    exact ⟨owner, (properties.cell_free_other other).trans there, same⟩
  · exact shared.live_free fun id => described ▸ owners_ id
  · intro id
    by_cases here : id = target
    · rw [here, Heap.cell_free_self, Option.elim_none, unused.1, unused.2]
    · rw [properties.cell_free_other here, shared.counted id, holds id,
        beq_false_of_ne fun same => here (Option.some.inj same).symm]
      rfl
  · intro id other found
    by_cases here : id = target
    · rw [here, Heap.cell_free_self] at found
      cases found
    · rw [properties.cell_free_other here] at found
      exact shared.positive id other found

theorem free_sharing (shared : Shared descriptions properties descs held) {target : DescId} {record : ForwardDesc}
    (present : descs.cell target = some record) {shares : PropertiesId} (named : record.properties = some shares) :
    Shared descriptions properties (descs.free target) fun id => held id + (some shares == some id).toNat := by
  have owners_ (id : UpstreamDesc) : owners properties (descs.free target) id = owners properties descs id := by
    have counted := descs.count_free
      (fun record => record.properties.isNone && record.description == some id) present
    rw [named, Option.isNone_some, Bool.false_and, Bool.toNat_false, Nat.add_zero] at counted
    exact congrArg (_ + ·) counted
  have users (id : PropertiesId) :
      uses (descs.free target) id + (some shares == some id).toNat = uses descs id := by
    have counted := descs.count_free (fun record => record.properties == some id) present
    rw [named] at counted
    exact counted
  refine ⟨shared.described, fun id other found => shared.granted id other (descs.old_of_free found),
    fun id other found => shared.same id other (descs.old_of_free found),
    fun id => (shared.owned id).trans (owners_ id).symm, ?_, shared.positive⟩
  intro id
  have counted := shared.counted id
  have fewer := users id
  omega

theorem free_owning (shared : Shared descriptions properties descs held) {target : DescId} {record : ForwardDesc}
    (present : descs.cell target = some record) (named : record.properties = none) {description : UpstreamDesc}
    (granted : record.description = some description) :
    Shared (descriptions.free description) properties (descs.free target) held := by
  have owners_ (id : UpstreamDesc) : owners properties (descs.free target) id +
      (some description == some id).toNat = owners properties descs id := by
    have counted := descs.count_free
      (fun record => record.properties.isNone && record.description == some id) present
    rw [named, granted, Option.isNone_none, Bool.true_and] at counted
    unfold owners
    omega
  have users (id : PropertiesId) : uses (descs.free target) id = uses descs id := by
    have counted := descs.count_free (fun record => record.properties == some id) present
    rw [named] at counted
    exact counted
  refine ⟨shared.described, fun id other found => shared.granted id other (descs.old_of_free found),
    fun id other found => shared.same id other (descs.old_of_free found), ?_,
    fun id => (shared.counted id).trans (congrArg _ (users id).symm), shared.positive⟩
  exact shared.live_free owners_

theorem live_alloc (shared : Shared descriptions properties descs held) (record : UpstreamDescription)
    {more : UpstreamDesc → Nat}
    (gains : ∀ id, more id = owners properties descs id + (some descriptions.next == some id).toNat)
    (id : UpstreamDesc) : ((descriptions.alloc record).live id).toNat = more id := by
  have amount := shared.owned id
  rw [gains]
  by_cases here : id = descriptions.next
  · subst here
    rw [Heap.live, Heap.cell_next, Option.isSome_none, Bool.toNat_false] at amount
    rw [Heap.live, Heap.cell_alloc_next, Option.isSome_some, Bool.toNat_true, ← amount, beq_self_eq_true]
    rfl
  · rw [beq_false_of_ne fun same => here (Option.some.inj same).symm, ← amount, Heap.live, Heap.cell_alloc,
      if_neg here]
    rfl

theorem await (shared : Shared descriptions properties descs held) (listener : UpstreamDescription)
    {record : Properties} (describes : record.description = some descriptions.next) (alone : record.referenceCount = 1) :
    Shared (descriptions.alloc listener) (properties.alloc record) descs
      fun id => held id + (some properties.next == some id).toNat := by
  have fresh := shared.counted properties.next
  rw [Heap.cell_next, Option.elim_none] at fresh
  refine ⟨?_, shared.granted, ?_, shared.live_alloc listener fun id => ?_, ?_, ?_⟩
  · intro id other found
    rw [Heap.cell_alloc] at found
    split at found
    · cases found
      rw [describes]
      rfl
    · exact shared.described id other found
  · intro id desc found shares named
    obtain ⟨owner, there, same⟩ := shared.same id desc found shares named
    exact ⟨owner, properties.cell_alloc_of_live record there, same⟩
  · unfold owners
    rw [Heap.count_alloc, describes]
    omega
  · intro id
    rw [Heap.cell_alloc]
    split
    · rename_i here
      rw [here, Option.elim_some, alone, beq_self_eq_true, Bool.toNat_true]
      omega
    · rename_i here
      rw [shared.counted id, beq_false_of_ne fun same => here (Option.some.inj same).symm]
      rfl
  · intro id other found
    rw [Heap.cell_alloc] at found
    split at found
    · cases found
      rw [alone]
      exact Nat.one_pos
    · exact shared.positive id other found

theorem create (shared : Shared descriptions properties descs held) (listener : UpstreamDescription)
    {record : ForwardDesc} (grants : record.description = some descriptions.next) (own : record.properties = none) :
    Shared (descriptions.alloc listener) properties (descs.alloc record) held := by
  have users (id : PropertiesId) : uses (descs.alloc record) id = uses descs id := by
    unfold uses
    rw [Heap.count_alloc, own]
    rfl
  refine ⟨shared.described, ?_, ?_, shared.live_alloc listener fun id => ?_,
    fun id => (shared.counted id).trans (congrArg _ (users id).symm), shared.positive⟩
  · intro id other found
    rw [Heap.cell_alloc] at found
    split at found
    · cases found
      rw [grants]
      rfl
    · exact shared.granted id other found
  · intro id other found shares named
    rw [Heap.cell_alloc] at found
    split at found
    · cases found
      rw [own] at named
      cases named
    · exact shared.same id other found shares named
  · unfold owners
    rw [Heap.count_alloc, grants, own, Option.isNone_none, Bool.true_and]
    omega

theorem share (shared : Shared descriptions properties descs held) {target : PropertiesId} {owner : Properties}
    (present : properties.cell target = some owner) {record : ForwardDesc}
    (grants : record.description = owner.description) (shares : record.properties = some target) :
    Shared descriptions (properties.modify target fun record => { record with referenceCount := record.referenceCount + 1 })
      (descs.alloc record) held := by
  have owners_ (id : UpstreamDesc) : owners (properties.modify target fun record =>
      { record with referenceCount := record.referenceCount + 1 }) (descs.alloc record) id =
      owners properties descs id := by
    have kept := properties.count_modify_same (fun record => record.description == some id) target
      fun record : Properties => (rfl : ({ record with referenceCount := record.referenceCount + 1 }.description ==
        some id) = (record.description == some id))
    unfold owners
    rw [Heap.count_alloc, shares]
    exact congrArg (· + _) kept
  have users (id : PropertiesId) :
      uses (descs.alloc record) id = uses descs id + (some target == some id).toNat := by
    unfold uses
    rw [Heap.count_alloc, shares]
  have still {id : PropertiesId} {old : Properties} (there : properties.cell id = some old) :
      ∃ new, (properties.modify target fun record =>
        { record with referenceCount := record.referenceCount + 1 }).cell id = some new ∧
          new.description = old.description := by
    by_cases here : id = target
    · subst here
      exact ⟨_, (Heap.cell_modify_self _ _ _).trans (congrArg _ there), rfl⟩
    · exact ⟨old, (properties.cell_modify_other _ here).trans there, rfl⟩
  refine ⟨properties.every_modify target _ (fun _ _ described => described) shared.described, ?_, ?_,
    fun id => (shared.owned id).trans (owners_ id).symm, ?_,
    properties.every_modify target _ (fun _ _ _ => Nat.succ_pos _) shared.positive⟩
  · intro id other found
    rw [Heap.cell_alloc] at found
    split at found
    · cases found
      rw [grants]
      exact shared.described target owner present
    · exact shared.granted id other found
  · intro id other found named names
    rw [Heap.cell_alloc] at found
    split at found
    · cases found
      cases shares.symm.trans names
      obtain ⟨new, there, same⟩ := still present
      exact ⟨new, there, same.trans grants.symm⟩
    · obtain ⟨old, there, same⟩ := shared.same id other found named names
      obtain ⟨new, now, kept⟩ := still there
      exact ⟨new, now, kept.trans same⟩
  · intro id
    have counted := shared.counted id
    rw [users]
    by_cases here : id = target
    · subst here
      rw [present, Option.elim_some] at counted
      rw [Heap.cell_modify_self, present, Option.map_some, Option.elim_some, beq_self_eq_true, Bool.toNat_true]
      dsimp only
      omega
    · rw [properties.cell_modify_other _ here, counted, beq_false_of_ne fun same => here (Option.some.inj same).symm]
      rfl

end Shared

theorem wpImageDescriptionV1Destroy_delivers {fatal : Halt} {scene : ColorScene} {description : UpstreamDesc}
    (live : scene.descriptions.live description = true) :
    Delivers fatal (wpImageDescriptionV1Destroy scene description) fun next =>
      next = { scene with descriptions := scene.descriptions.free description } := by
  obtain ⟨record, present⟩ := Option.isSome_iff_exists.mp live
  exact .read present (.pure rfl)

theorem unrefImageDescriptionProps_delivers {fatal : Halt} {scene : ColorScene} {target : Option PropertiesId}
    {descs : Heap ForwardDesc} {held fewer : PropertiesId → Nat}
    (shared : Shared scene.descriptions scene.properties descs held)
    (holds : ∀ id, held id = fewer id + (target == some id).toNat) :
    Delivers fatal (unrefImageDescriptionProps scene target) fun next =>
      Shared next.descriptions next.properties descs fewer ∧ Spares scene next ∧
        ∃ descriptions properties, next = { scene with descriptions := descriptions, properties := properties } := by
  cases target with
  | none => exact .pure ⟨shared.congr fun id => (holds id).symm, .rfl, _, _, rfl⟩
  | some target =>
      have positive : 0 < held target := by
        rw [holds, beq_self_eq_true, Bool.toNat_true]
        exact Nat.succ_pos _
      obtain ⟨record, present, _⟩ := shared.present_of_held positive
      refine .read present ?_
      dsimp only
      split
      · rename_i others
        refine .pure ⟨shared.drop present holds others, ⟨rfl, rfl, Nat.le_refl _, fun _ _ found => found, ?_⟩, _, _, rfl⟩
        intro id record found
        obtain ⟨old, there, ⟨_, rfl⟩ | ⟨_, rfl⟩⟩ := scene.properties.old_of_modify found
        · exact ⟨old, there, rfl⟩
        · exact ⟨record, there, rfl⟩
      · rename_i alone
        obtain ⟨description, described⟩ := Option.isSome_iff_exists.mp (shared.described target record present)
        refine .read described ?_
        refine Delivers.bind (wpImageDescriptionV1Destroy_delivers (shared.live_of_properties present described)) ?_
        rintro _ rfl
        refine .pure ?_
        simp only [ColorScene.setProps, Heap.free_modify]
        refine ⟨shared.release present holds alone described, ⟨rfl, rfl, Nat.le_refl _, ?_, ?_⟩, _, _, rfl⟩
        · exact fun _ _ found => scene.descriptions.old_of_free found
        · exact fun _ record found => ⟨record, scene.properties.old_of_free found, rfl⟩

theorem releaseDescription_delivers {fatal : Halt} {scene : ColorScene} {held : PropertiesId → Nat} {id : DescId}
    {record : ForwardDesc} (present : scene.descs.cell id = some record)
    (shared : Shared scene.descriptions scene.properties scene.descs held) :
    Delivers fatal (releaseDescription scene record) fun next =>
      Shared next.descriptions next.properties (scene.descs.free id) held ∧ Spares scene next ∧
        ∃ descriptions properties, next = { scene with descriptions := descriptions, properties := properties } := by
  obtain ⟨description, granted⟩ := Option.isSome_iff_exists.mp (shared.granted id record present)
  refine .read granted ?_
  cases named : record.properties with
  | some shares => exact unrefImageDescriptionProps_delivers (shared.free_sharing present named) fun _ => rfl
  | none =>
      refine (wpImageDescriptionV1Destroy_delivers (shared.live_of_desc present granted)).weaken ?_
      rintro _ rfl
      refine ⟨shared.free_owning present named granted,
        ⟨rfl, rfl, Nat.le_refl _, ?_, fun _ record found => ⟨record, found, rfl⟩⟩, _, _, rfl⟩
      exact fun _ _ found => scene.descriptions.old_of_free found

end SwaylockPlugin.Color
