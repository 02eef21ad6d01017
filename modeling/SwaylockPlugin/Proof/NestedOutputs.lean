import SwaylockPlugin.Construction.NestedOutput

namespace SwaylockPlugin.Nested

open Library

/-- A resource is in the list of its output or, once the output was removed, in the stale list of its family. -/
def home (scene : NestedScene) (record : NestedResource) : Link :=
  if scene.outputs.live record.output then .output record.output record.family else .stale record.family

/-- The heads in the outputs and the heads of two stale lists are initialised. -/
def initialised (scene : NestedScene) : Link → Bool
  | .output id _ => scene.outputs.live id
  | .stale family => family != .colorOutput
  | .resource _ => false

/-- The link of a live resource resides in the list that is the home of the resource. -/
def Resides (scene : NestedScene) (head node : Link) : Prop :=
  ∃ id record, node = .resource id ∧ scene.resources.cell id = some record ∧ home scene record = head

/-- The initialised lists are well formed and hold the resources that have them as their home. -/
structure Listed (scene : NestedScene) (lists : Link → Option (List Link)) : Prop where
  rings : scene.links.Rings lists
  known : ∀ head, (lists head).isSome = initialised scene head
  members : ∀ head nodes, lists head = some nodes → ∀ node, node ∈ nodes ↔ Resides scene head node
  placed : ∀ id record, scene.resources.cell id = some record → initialised scene (home scene record) = true

/-- The memory of the lists is that of the outputs, of the resources and of the state, in which one head is cleared. -/
structure Mapped (scene : NestedScene) : Prop where
  heads : ∀ id family, scene.links.live (.output id family) = scene.outputs.live id
  resources : ∀ id, scene.links.live (.resource id) = scene.resources.live id
  stale : ∀ family, scene.links.live (.stale family) = true
  cleared : scene.links.next (.stale .colorOutput) = none

/-- The records of the outputs fit the globals and the resources. -/
structure Recorded (scene : NestedScene) : Prop where
  bounded : ∀ id record, scene.resources.cell id = some record → record.output < scene.outputs.next
  bound : ∀ id record output, scene.resources.cell id = some record → scene.outputs.cell record.output = some output →
    output.nestedServerOutput = true
  offered : ∀ id ∈ scene.globals, id < scene.outputs.next
  shown : ∀ id output, id ∈ scene.globals → scene.outputs.cell id = some output → output.nestedServerOutput = true

/-- The live outputs are listed, and an output and its own client name each other. -/
structure Connected (scene : NestedScene) : Prop where
  distinct : scene.surfaces.Nodup
  present : ∀ id, id ∈ scene.surfaces ↔ scene.outputs.live id = true
  uniques : ∀ client id, scene.clients.cell client = some (some id) →
    ∃ output, scene.outputs.cell id = some output ∧ output.client = some client
  served : ∀ id output client, scene.outputs.cell id = some output → output.client = some client →
    scene.clients.cell client = some (some id)

/-- The nested outputs are sound when their lists, their memory and their records are. -/
structure Sound (scene : NestedScene) (lists : Link → Option (List Link)) : Prop where
  listed : Listed scene lists
  mapped : Mapped scene
  recorded : Recorded scene

variable {scene : NestedScene} {lists : Link → Option (List Link)}

section Access

theorem Listed.cleared (listed : Listed scene lists) : Links.Outside lists (.stale .colorOutput) := by
  intro head nodes known inside
  rcases List.mem_cons.mp inside with rfl | inside
  · have none_ := listed.known (.stale .colorOutput)
    rw [known] at none_
    cases none_
  · obtain ⟨_, _, same, _⟩ := (listed.members head nodes known _).mp inside
    cases same

theorem Listed.at (listed : Listed scene lists) {head : Link} (ready : initialised scene head = true) :
    ∃ nodes, lists head = some nodes :=
  Option.isSome_iff_exists.mp ((listed.known head).trans ready)

theorem home_congr {next : NestedScene} (live : ∀ id, next.outputs.live id = scene.outputs.live id)
    (record : NestedResource) : home next record = home scene record := by
  unfold home
  rw [live]

theorem initialised_congr {next : NestedScene} (live : ∀ id, next.outputs.live id = scene.outputs.live id) (head : Link) :
    initialised next head = initialised scene head := by
  cases head with
  | output id family => exact live id
  | stale family => rfl
  | resource id => rfl

end Access

section Resources

theorem Listed.congr {next : NestedScene} (listed : Listed scene lists) (links : next.links = scene.links)
    (resources : next.resources = scene.resources) (live : ∀ id, next.outputs.live id = scene.outputs.live id) :
    Listed next lists where
  rings := links ▸ listed.rings
  known head := (listed.known head).trans (initialised_congr live head).symm
  members head nodes known node := by
    rw [listed.members head nodes known node]
    unfold Resides
    rw [resources]
    simp only [home_congr live]
  placed id record present := by
    rw [home_congr live, initialised_congr live]
    exact listed.placed id record (resources ▸ present)

theorem Mapped.congr {next : NestedScene} (mapped : Mapped scene) (links : next.links = scene.links)
    (resources : next.resources = scene.resources) (live : ∀ id, next.outputs.live id = scene.outputs.live id) :
    Mapped next where
  heads id family := by
    rw [links, live]
    exact mapped.heads id family
  resources id := by
    rw [links, resources]
    exact mapped.resources id
  stale family := links ▸ mapped.stale family
  cleared := links ▸ mapped.cleared

theorem addResource_sound (sound : Sound scene lists) (client : WlClientId) (family : Family) {output : OutputId}
    {record : NestedSurface} (present : scene.outputs.cell output = some record)
    (offered : record.nestedServerOutput = true) :
    ∃ next lists', addResource scene client family output true = .ok next ∧ Sound next lists' ∧
      next.outputs = scene.outputs ∧ next.clients = scene.clients ∧ next.surfaces = scene.surfaces := by
  obtain ⟨listed, mapped, recorded⟩ := sound
  let added := wlResourceCreate scene client family output
  have live : scene.outputs.live output = true := Heap.live_iff.mpr ⟨record, present⟩
  obtain ⟨nodes, known⟩ : ∃ nodes, lists (.output output family) = some nodes := listed.at live
  have dead : scene.links.live (.resource scene.resources.next) = false := by
    rw [mapped.resources, Heap.not_live_iff]
    exact Heap.cell_next _
  have outside := listed.rings.outside dead
  obtain ⟨links, inserted, agrees, rings⟩ :=
    (listed.rings.map outside).insert known (Links.live_map_self _ _) outside
  have lived (node : Link) (other : node ≠ .resource scene.resources.next) :
      links.live node = scene.links.live node := by
    rw [agrees.live]
    exact Links.live_map_other _ other
  have homely : home { added with links := links } ⟨client, family, output⟩ = .output output family := by
    change (if scene.outputs.live output then _ else _) = _
    rw [live]
    rfl
  have same (other : NestedResource) : home { added with links := links } other = home scene other :=
    home_congr (fun _ => rfl) other
  have resides (head node : Link) : Resides { added with links := links } head node ↔
      (node = .resource scene.resources.next ∧ head = .output output family) ∨ Resides scene head node := by
    constructor
    · rintro ⟨id, other, rfl, found, rfl⟩
      rcases Heap.old_of_alloc _ found with ⟨rfl, rfl⟩ | ⟨_, before⟩
      · exact .inl ⟨rfl, homely⟩
      · exact .inr ⟨id, other, rfl, before, (same other).symm⟩
    · rintro (⟨rfl, rfl⟩ | ⟨id, other, rfl, before, rfl⟩)
      · exact ⟨_, _, rfl, Heap.cell_alloc_next _ _, homely⟩
      · exact ⟨id, other, rfl, Heap.cell_alloc_of_live _ _ before, same other⟩
  have apart : Link.stale .colorOutput ∉ Link.resource scene.resources.next :: .output output family :: nodes := by
    intro inside
    rcases List.mem_cons.mp inside with equal | inside
    · cases equal
    · exact listed.cleared _ nodes known inside
  refine ⟨{ added with links := links }, _, ?_, ⟨⟨rings, fun head => ?_, fun head others also node => ?_, ?_⟩,
    ⟨?_, fun id => ?_, ?_, ?_⟩, ⟨?_, ?_, recorded.offered, recorded.shown⟩⟩, rfl, rfl, rfl⟩
  · exact congrArg added.withLinks inserted
  · change _ = initialised scene head
    by_cases here : head = .output output family
    · subst here
      rw [Function.update_self]
      exact live.symm
    · rw [Function.update_of_ne here]
      exact listed.known head
  · rw [resides]
    by_cases here : head = .output output family
    · subst here
      rw [Function.update_self] at also
      cases also
      rw [List.mem_cons, listed.members _ nodes known]
      exact or_congr_left (and_iff_left rfl).symm
    · rw [Function.update_of_ne here] at also
      rw [listed.members head others also]
      exact (or_iff_right fun both => here both.2).symm
  · intro id other found
    rcases Heap.old_of_alloc _ found with ⟨rfl, rfl⟩ | ⟨_, before⟩
    · rw [homely]
      exact live
    · rw [same]
      exact listed.placed id other before
  · intro id family
    exact (lived (.output id family) nofun).trans (mapped.heads id family)
  · by_cases here : id = scene.resources.next
    · subst here
      rw [agrees.live]
      exact (Links.live_map_self _ _).trans (Heap.live_iff.mpr ⟨_, Heap.cell_alloc_next _ _⟩).symm
    · rw [lived _ fun equal => here (Link.resource.inj equal)]
      exact (mapped.resources id).trans (Heap.live_alloc_other _ _ here).symm
  · intro family
    exact (lived (.stale family) nofun).trans (mapped.stale family)
  · have other : Link.stale .colorOutput ≠ .resource scene.resources.next := nofun
    exact (agrees.next _ apart).trans ((Links.next_map_other _ other).trans mapped.cleared)
  · intro id other found
    rcases Heap.old_of_alloc _ found with ⟨rfl, rfl⟩ | ⟨_, before⟩
    · exact scene.outputs.live_below present
    · exact recorded.bounded id other before
  · intro id other nested found there
    rcases Heap.old_of_alloc _ found with ⟨rfl, rfl⟩ | ⟨_, before⟩
    · cases present.symm.trans there
      exact offered
    · exact recorded.bound id other nested before there

/-- Some resources were destroyed and everything else but the links stayed. -/
structure Drops (scene next : NestedScene) (gone : List ResourceId) : Prop where
  outputs : next.outputs = scene.outputs
  surfaces : next.surfaces = scene.surfaces
  globals : next.globals = scene.globals
  clients : next.clients = scene.clients
  resources : ∀ id, next.resources.cell id = if id ∈ gone then none else scene.resources.cell id

theorem wlResourceDestroy_sound (sound : Sound scene lists) {resource : ResourceId} {record : NestedResource}
    (present : scene.resources.cell resource = some record) :
    ∃ next lists', wlResourceDestroy scene resource = .ok next ∧ Sound next lists' ∧ Drops scene next [resource] := by
  obtain ⟨listed, mapped, recorded⟩ := sound
  obtain ⟨nodes, known⟩ := listed.at (listed.placed resource record present)
  have inside : Link.resource resource ∈ nodes :=
    (listed.members _ nodes known _).mpr ⟨resource, record, rfl, present, rfl⟩
  obtain ⟨links, removed, agrees, rings, outside⟩ := listed.rings.remove known inside
  have destroyed : destroyFunction record.family scene resource = .ok { scene with links := links } := by
    have each : unlinkResource scene resource = .ok { scene with links := links } :=
      congrArg scene.withLinks removed
    cases record.family with
    | wlOutput => exact each
    | xdgOutput => exact each
    | colorOutput => exact each
  have lived (node : Link) (other : node ≠ .resource resource) :
      (links.unmap (.resource resource)).live node = scene.links.live node := by
    rw [Links.live_unmap_other _ other, agrees.live]
  let next : NestedScene := { scene with
    resources := scene.resources.free resource
    links := links.unmap (.resource resource) }
  have same (other : NestedResource) : home next other = home scene other := home_congr (fun _ => rfl) other
  have resides (head node : Link) : Resides next head node ↔ Resides scene head node ∧ node ≠ .resource resource := by
    constructor
    · rintro ⟨id, other, rfl, found, rfl⟩
      exact ⟨⟨id, other, rfl, Heap.old_of_free _ found, (same other).symm⟩, fun equal =>
        Heap.ne_of_free _ found (Link.resource.inj equal)⟩
    · rintro ⟨⟨id, other, rfl, before, rfl⟩, apart⟩
      have different : id ≠ resource := fun equal => apart (congrArg Link.resource equal)
      exact ⟨id, other, rfl, (Heap.cell_free_other _ different).trans before, same other⟩
  have apart : Link.stale .colorOutput ∉ home scene record :: nodes := listed.cleared _ nodes known
  refine ⟨next, _, ?_, ⟨⟨rings.unmap outside, fun head => ?_, fun head others also node => ?_, ?_⟩,
    ⟨fun id family => ?_, fun id => ?_, fun family => ?_, ?_⟩, ⟨?_, ?_, recorded.offered, recorded.shown⟩⟩,
    rfl, rfl, rfl, rfl, fun id => ?_⟩
  · unfold wlResourceDestroy NestedScene.resource
    rw [present]
    change (destroyFunction record.family scene resource >>= _) = _
    rw [destroyed]
    rfl
  · change _ = initialised scene head
    by_cases here : head = home scene record
    · subst here
      rw [Function.update_self]
      exact (listed.placed resource record present).symm
    · rw [Function.update_of_ne here]
      exact listed.known head
  · rw [resides]
    have distinct := (List.nodup_cons.mp (listed.rings.ring _ nodes known).nodup).2
    by_cases here : head = home scene record
    · subst here
      rw [Function.update_self] at also
      cases also
      rw [distinct.mem_erase_iff, listed.members _ nodes known, and_comm]
    · rw [Function.update_of_ne here] at also
      rw [listed.members head others also]
      refine (and_iff_left_of_imp ?_).symm
      rintro ⟨id, other, rfl, there, rfl⟩ equal
      cases equal
      cases present.symm.trans there
      exact here rfl
  · intro id other found
    rw [same]
    exact listed.placed id other (Heap.old_of_free _ found)
  · exact (lived (.output id family) nofun).trans (mapped.heads id family)
  · by_cases here : id = resource
    · subst here
      exact (Links.live_unmap_self _ _).trans (Heap.not_live_iff.mpr (Heap.cell_free_self _ _)).symm
    · rw [lived (.resource id) fun equal => here (Link.resource.inj equal)]
      exact (mapped.resources id).trans (Heap.live_free_other _ here).symm
  · exact (lived (.stale family) nofun).trans (mapped.stale family)
  · exact (agrees.next _ apart).trans mapped.cleared
  · intro id other found
    exact recorded.bounded id other (Heap.old_of_free _ found)
  · intro id other nested found there
    exact recorded.bound id other nested (Heap.old_of_free _ found) there
  · simp only [List.mem_singleton]
    rfl

theorem destroyed_sound (sound : Sound scene lists) {order : List ResourceId} (distinct : order.Nodup)
    (present : ∀ id ∈ order, ∃ record, scene.resources.cell id = some record) :
    ∃ next lists', order.foldlM wlResourceDestroy scene = .ok next ∧ Sound next lists' ∧ Drops scene next order := by
  induction order generalizing scene lists with
  | nil => exact ⟨scene, lists, rfl, sound, rfl, rfl, rfl, rfl, fun _ => rfl⟩
  | cons resource order ih =>
      obtain ⟨fresh, distinct⟩ := List.nodup_cons.mp distinct
      obtain ⟨record, there⟩ := present resource List.mem_cons_self
      obtain ⟨middle, _, destroyed, between, drops⟩ := wlResourceDestroy_sound sound there
      have rest : ∀ id ∈ order, ∃ record, middle.resources.cell id = some record := by
        intro id listed
        have other : id ∉ [resource] := fun same => fresh (List.mem_singleton.mp same ▸ listed)
        rw [drops.resources, if_neg other]
        exact present id (List.mem_cons_of_mem _ listed)
      obtain ⟨next, lists', folded, after, more⟩ := ih between distinct rest
      refine ⟨next, lists', ?_, after, more.outputs.trans drops.outputs, more.surfaces.trans drops.surfaces,
        more.globals.trans drops.globals, more.clients.trans drops.clients, fun id => ?_⟩
      · rw [List.foldlM_cons, destroyed]
        exact folded
      · rw [more.resources, drops.resources]
        by_cases here : id = resource
        · simp [here]
        · simp [here]

end Resources

section Outputs

theorem Sound.congr {next : NestedScene} (sound : Sound scene lists) (links : next.links = scene.links)
    (resources : next.resources = scene.resources) (bound : next.outputs.next = scene.outputs.next)
    (live : ∀ id, next.outputs.live id = scene.outputs.live id)
    (kept : ∀ id old output, scene.outputs.cell id = some old → next.outputs.cell id = some output →
      old.nestedServerOutput = true → output.nestedServerOutput = true)
    (globals : ∀ id ∈ next.globals, id ∈ scene.globals ∨ scene.outputs.live id = true ∧
      ∀ output, next.outputs.cell id = some output → output.nestedServerOutput = true) : Sound next lists := by
  obtain ⟨listed, mapped, recorded⟩ := sound
  have old {id : OutputId} {output : NestedSurface} (present : next.outputs.cell id = some output) :
      ∃ old, scene.outputs.cell id = some old := by
    rw [← Heap.live_iff, ← live, Heap.live_iff]
    exact ⟨output, present⟩
  refine ⟨listed.congr links resources live, mapped.congr links resources live, ?_, ?_, ?_, ?_⟩
  · intro id record present
    rw [bound]
    exact recorded.bounded id record (resources ▸ present)
  · intro id record output present there
    obtain ⟨before, here⟩ := old there
    exact kept record.output before output here there (recorded.bound id record before (resources ▸ present) here)
  · intro id offered
    rw [bound]
    rcases globals id offered with before | ⟨present, _⟩
    · exact recorded.offered id before
    · obtain ⟨record, here⟩ := Heap.live_iff.mp present
      exact scene.outputs.live_below here
  · intro id output offered there
    rcases globals id offered with before | ⟨_, shown⟩
    · obtain ⟨earlier, here⟩ := old there
      exact kept id earlier output here there (recorded.shown id earlier before here)
    · exact shown output there

theorem Sound.setOutput (sound : Sound scene lists) (id : OutputId) {change : NestedSurface → NestedSurface}
    (kept : ∀ output, (change output).nestedServerOutput = output.nestedServerOutput) :
    Sound (scene.setOutput id change) lists := by
  refine sound.congr rfl rfl rfl (fun other => Heap.live_modify _ _ _ other) (fun other old output before after => ?_)
    fun other offered => .inl offered
  change (scene.outputs.modify id change).cell other = some output at after
  rw [Heap.cell_modify, before, Option.map_some] at after
  split at after
  · cases after
    rw [kept]
    exact fun shown => shown
  · cases after
    exact fun shown => shown

theorem forwardConfigure_sound (sound : Sound scene lists) {id : OutputId} (live : scene.outputs.live id = true) :
    Sound (forwardConfigure scene id) lists := by
  refine sound.congr rfl rfl rfl (fun other => Heap.live_modify _ _ _ other) (fun other old output before after shown => ?_)
    fun other offered => ?_
  · change (scene.outputs.modify id _).cell other = some output at after
    rw [Heap.cell_modify, before, Option.map_some] at after
    split at after
    · cases after
      rfl
    · cases after
      exact shown
  · rcases List.mem_cons.mp offered with rfl | before
    · refine .inr ⟨live, fun output after => ?_⟩
      obtain ⟨old, before⟩ := Heap.live_iff.mp live
      change (scene.outputs.modify other _).cell other = some output at after
      rw [Heap.cell_modify_self, before, Option.map_some] at after
      cases after
      rfl
    · exact .inl before

/-- The heads of an output get one value in place of their lists. -/
def withHeads (lists : Link → Option (List Link)) (id : OutputId) (value : Option (List Link)) :
    Link → Option (List Link)
  | .output other family => if other = id then value else lists (.output other family)
  | head => lists head

theorem update_heads (lists : Link → Option (List Link)) (id : OutputId) (value : Option (List Link)) :
    Function.update (Function.update (Function.update lists (.output id .wlOutput) value) (.output id .xdgOutput) value)
      (.output id .colorOutput) value = withHeads lists id value := by
  funext head
  cases head with
  | output other family =>
      by_cases same : other = id
      · subst same
        cases family <;> simp [withHeads]
      · cases family <;> simp [withHeads, same]
  | stale family => simp [withHeads]
  | resource other => simp [withHeads]

theorem newHead_rings {links : Links Link} (rings : links.Rings lists) {id : OutputId} {family : Family}
    (dead : links.live (.output id family) = false) :
    (newHead links id family).Rings (Function.update lists (.output id family) (some [])) :=
  (rings.map (rings.outside dead)).init (Links.live_map_self _ _) (rings.outside dead)

theorem newHead_other (links : Links Link) {id : OutputId} {family : Family} {node : Link}
    (other : node ≠ .output id family) : (newHead links id family).live node = links.live node ∧
      (newHead links id family).next node = links.next node :=
  ⟨Links.live_map_other _ other, (Links.next_init_other _ other).trans (Links.next_map_other _ other)⟩

theorem newHead_self (links : Links Link) (id : OutputId) (family : Family) :
    (newHead links id family).live (.output id family) = true := Links.live_map_self _ _

theorem handleGlobalOutput_sound (sound : Sound scene lists) (name : UInt32) :
    ∃ lists', Sound (handleGlobalOutput scene name) lists' := by
  obtain ⟨listed, mapped, recorded⟩ := sound
  let id := scene.outputs.next
  let next := handleGlobalOutput scene name
  have dead (family : Family) : scene.links.live (.output id family) = false := by
    rw [mapped.heads, Heap.not_live_iff]
    exact Heap.cell_next _
  let one := newHead scene.links id .wlOutput
  let two := newHead one id .xdgOutput
  have wx : Link.output id .wlOutput ≠ .output id .xdgOutput := nofun
  have wc : Link.output id .wlOutput ≠ .output id .colorOutput := nofun
  have xc : Link.output id .xdgOutput ≠ .output id .colorOutput := nofun
  have second : one.live (.output id .xdgOutput) = false := (newHead_other _ wx.symm).1.trans (dead .xdgOutput)
  have third : two.live (.output id .colorOutput) = false :=
    (newHead_other one xc.symm).1.trans ((newHead_other _ wc.symm).1.trans (dead .colorOutput))
  have rings : next.links.Rings (withHeads lists id (some [])) := by
    rw [← update_heads]
    exact newHead_rings (newHead_rings (newHead_rings listed.rings (dead .wlOutput)) second) third
  have kept (node : Link) (other : ∀ family, node ≠ .output id family) :
      next.links.live node = scene.links.live node ∧ next.links.next node = scene.links.next node := by
    obtain ⟨oneLive, oneNext⟩ := newHead_other scene.links (other .wlOutput)
    obtain ⟨twoLive, twoNext⟩ := newHead_other one (other .xdgOutput)
    obtain ⟨threeLive, threeNext⟩ := newHead_other two (other .colorOutput)
    exact ⟨threeLive.trans (twoLive.trans oneLive), threeNext.trans (twoNext.trans oneNext)⟩
  have headLive (family : Family) : next.links.live (.output id family) = true := by
    cases family with
    | wlOutput => exact (newHead_other two wc).1.trans ((newHead_other one wx).1.trans (newHead_self _ _ _))
    | xdgOutput => exact (newHead_other two xc).1.trans (newHead_self _ _ _)
    | colorOutput => exact newHead_self _ _ _
  have apart {resource : ResourceId} {record : NestedResource} (present : scene.resources.cell resource = some record) :
      record.output ≠ id := Nat.ne_of_lt (recorded.bounded resource record present)
  have same {resource : ResourceId} {record : NestedResource} (present : scene.resources.cell resource = some record) :
      home next record = home scene record := by
    unfold home
    rw [show next.outputs.live record.output = scene.outputs.live record.output from
      Heap.live_alloc_other _ _ (apart present)]
  have resides (head node : Link) : Resides next head node ↔ Resides scene head node := by
    constructor
    · rintro ⟨resource, record, rfl, present, rfl⟩
      exact ⟨resource, record, rfl, present, (same present).symm⟩
    · rintro ⟨resource, record, rfl, present, rfl⟩
      exact ⟨resource, record, rfl, present, same present⟩
  have ready (head : Link) (other : ∀ family, head ≠ .output id family) :
      initialised next head = initialised scene head := by
    cases head with
    | output name family =>
        exact Heap.live_alloc_other _ _ fun equal => other family (congrArg (Link.output · family) equal)
    | stale family => rfl
    | resource name => rfl
  have new : next.outputs.live id = true := Heap.live_iff.mpr ⟨_, Heap.cell_alloc_next _ _⟩
  have older {other : OutputId} (different : other ≠ id) {output : NestedSurface}
      (present : next.outputs.cell other = some output) : scene.outputs.cell other = some output := by
    rcases Heap.old_of_alloc _ present with ⟨equal, _⟩ | ⟨_, before⟩
    · exact absurd equal different
    · exact before
  refine ⟨_, ⟨rings, fun head => ?_, fun head nodes known node => ?_, fun resource record present => ?_⟩,
    ⟨fun other family => ?_, fun other => ?_, fun family => ?_, ?_⟩, ⟨fun resource record present => ?_,
      fun resource record output present there => ?_, fun other offered => ?_, fun other output offered there => ?_⟩⟩
  · cases head with
    | output other family =>
        by_cases here : other = id
        · subst here
          simp only [withHeads, if_true]
          exact new.symm
        · simp only [withHeads, if_neg here]
          rw [ready _ fun _ equal => here (Link.output.inj equal).1]
          exact listed.known _
    | stale family => exact listed.known _
    | resource other => exact listed.known _
  · rw [resides]
    cases head with
    | output other family =>
        by_cases here : other = id
        · subst here
          simp only [withHeads, if_true, Option.some.injEq] at known
          subst known
          refine iff_of_false List.not_mem_nil ?_
          rintro ⟨resource, record, rfl, present, homely⟩
          unfold home at homely
          split at homely
          · exact apart present (Link.output.inj homely).1
          · cases homely
        · simp only [withHeads, if_neg here] at known
          exact listed.members _ nodes known node
    | stale family => exact listed.members _ nodes known node
    | resource other => exact listed.members _ nodes known node
  · rw [same present, ready]
    · exact listed.placed resource record present
    · intro family equal
      unfold home at equal
      split at equal
      · exact apart present (Link.output.inj equal).1
      · cases equal
  · by_cases here : other = id
    · subst here
      exact (headLive family).trans new.symm
    · rw [(kept _ fun _ equal => here (Link.output.inj equal).1).1, mapped.heads]
      exact (Heap.live_alloc_other _ _ here).symm
  · rw [(kept (.resource other) nofun).1]
    exact mapped.resources other
  · rw [(kept (.stale family) nofun).1]
    exact mapped.stale family
  · rw [(kept (.stale .colorOutput) nofun).2]
    exact mapped.cleared
  · exact Nat.lt_succ_of_lt (recorded.bounded resource record present)
  · exact recorded.bound resource record output present (older (apart present) there)
  · exact Nat.lt_succ_of_lt (recorded.offered other offered)
  · exact recorded.shown other output offered (older (Nat.ne_of_lt (recorded.offered other offered)) there)

end Outputs

section Removal

/-- While an output goes away, its resources of the families that are done have moved to the stale lists. -/
def settled (scene : NestedScene) (id : OutputId) (done : List Family) (record : NestedResource) : Link :=
  if record.output = id ∧ record.family ∈ done then .stale record.family else home scene record

/-- The lists are well formed while some families of an output are done. -/
structure Emptied (scene : NestedScene) (id : OutputId) (done : List Family) (links : Links Link)
    (lists : Link → Option (List Link)) : Prop where
  rings : links.Rings lists
  known : ∀ head, (lists head).isSome = initialised scene head
  members : ∀ head nodes, lists head = some nodes → ∀ node, node ∈ nodes ↔
    ∃ resource record, node = .resource resource ∧ scene.resources.cell resource = some record ∧
      settled scene id done record = head
  live : links.live = scene.links.live
  cleared : links.next (.stale .colorOutput) = none

variable {id : OutputId} {done : List Family} {family : Family} {links : Links Link} {lists' : Link → Option (List Link)}

theorem Sound.emptied (sound : Sound scene lists) (id : OutputId) : Emptied scene id [] scene.links lists where
  rings := sound.listed.rings
  known := sound.listed.known
  members head nodes known node := by
    have same (record : NestedResource) : settled scene id [] record = home scene record :=
      if_neg fun both => List.not_mem_nil both.2
    simp only [same]
    exact sound.listed.members head nodes known node
  live := rfl
  cleared := sound.mapped.cleared

theorem settled_cons (live : scene.outputs.live id = true) (fresh : family ∉ done) (record : NestedResource) :
    settled scene id (family :: done) record =
      if settled scene id done record = .output id family then .stale family else settled scene id done record := by
  by_cases here : record.output = id
  · by_cases same : record.family = family
    · subst here same
      simp [settled, home, live, fresh]
    · by_cases before : record.family ∈ done
      · simp [settled, here, before]
      · simp [settled, home, here, live, same, before]
  · have other : home scene record ≠ .output id family := by
      unfold home
      split
      · exact fun equal => here (Link.output.inj equal).1
      · exact nofun
    simp [settled, here, other]

theorem Emptied.length (emptied : Emptied scene id done links lists) {head : Link} {nodes : List Link}
    (known : lists head = some nodes) : nodes.length < scene.resources.next + 1 := by
  have distinct := (List.nodup_cons.mp (emptied.rings.ring head nodes known).nodup).2
  have within : nodes ⊆ (List.range scene.resources.next).map Link.resource := by
    intro node inside
    obtain ⟨resource, record, rfl, present, _⟩ := (emptied.members head nodes known node).mp inside
    exact List.mem_map_of_mem (List.mem_range.mpr (scene.resources.live_below present))
  have fits := distinct.length_le_of_subset within
  rw [List.length_map, List.length_range] at fits
  exact Nat.lt_succ_of_le fits

theorem Emptied.outside (emptied : Emptied scene id done links lists) : Links.Outside lists (.stale .colorOutput) := by
  intro head nodes known inside
  rcases List.mem_cons.mp inside with rfl | inside
  · have none_ := emptied.known (.stale .colorOutput)
    rw [known] at none_
    cases none_
  · obtain ⟨_, _, same, _⟩ := (emptied.members head nodes known _).mp inside
    cases same

theorem moveToStale_first {nodes : List Link} (ring : links.Ring (.output id family) nodes) (steps : Nat) :
    moveToStale steps id family links = Links.forEachSafe (Links.move (.stale family)) (.output id family) steps
      (nodes.headD (.output id family)) links := by
  unfold moveToStale Links.getNext
  rw [ring.live _ List.mem_cons_self, ring.chain.next]
  rfl

theorem Emptied.move (emptied : Emptied scene id done links lists) (live : scene.outputs.live id = true)
    (fresh : family ∉ done) (ready : family ≠ .colorOutput) :
    ∃ next lists', moveToStale (scene.resources.next + 1) id family links = .ok next ∧
      Emptied scene id (family :: done) next lists' := by
  obtain ⟨nodes, known⟩ := Option.isSome_iff_exists.mp ((emptied.known (.output id family)).trans live)
  obtain ⟨others, also⟩ := Option.isSome_iff_exists.mp ((emptied.known (.stale family)).trans (bne_iff_ne.mpr ready))
  have apart : Link.output id family ≠ .stale family := nofun
  obtain ⟨next, walked, agrees, rings⟩ := emptied.rings.moved known also apart (emptied.length known)
  refine ⟨next, _, (moveToStale_first (emptied.rings.ring _ _ known) _).trans walked, rings, fun head => ?_,
    fun head result there node => ?_, agrees.live.trans emptied.live, ?_⟩
  · by_cases first : head = .output id family
    · subst first
      rw [Function.update_self]
      exact live.symm
    · rw [Function.update_of_ne first]
      by_cases second : head = .stale family
      · subst second
        rw [Function.update_self]
        exact (bne_iff_ne.mpr ready).symm
      · rw [Function.update_of_ne second]
        exact emptied.known head
  · simp only [settled_cons live fresh]
    by_cases first : head = .output id family
    · subst first
      rw [Function.update_self] at there
      cases there
      refine iff_of_false List.not_mem_nil ?_
      rintro ⟨resource, record, rfl, present, equal⟩
      split at equal
      · cases equal
      · contradiction
    · rw [Function.update_of_ne first] at there
      by_cases second : head = .stale family
      · subst second
        rw [Function.update_self] at there
        cases there
        rw [List.mem_append, List.mem_reverse, emptied.members _ nodes known, emptied.members _ others also]
        constructor
        · rintro (⟨resource, record, rfl, present, equal⟩ | ⟨resource, record, rfl, present, equal⟩)
          · exact ⟨resource, record, rfl, present, if_pos equal⟩
          · refine ⟨resource, record, rfl, present, ?_⟩
            rw [equal]
            exact if_neg nofun
        · rintro ⟨resource, record, rfl, present, equal⟩
          split at equal
          · exact .inl ⟨resource, record, rfl, present, by assumption⟩
          · exact .inr ⟨resource, record, rfl, present, equal⟩
      · rw [Function.update_of_ne second] at there
        rw [emptied.members head result there]
        constructor
        · rintro ⟨resource, record, rfl, present, equal⟩
          refine ⟨resource, record, rfl, present, ?_⟩
          rw [equal]
          exact if_neg first
        · rintro ⟨resource, record, rfl, present, equal⟩
          refine ⟨resource, record, rfl, present, ?_⟩
          split at equal
          · exact absurd equal.symm second
          · exact equal
  · refine (agrees.next _ fun inside => ?_).trans emptied.cleared
    rcases List.mem_append.mp inside with inside | inside
    · exact emptied.outside _ nodes known inside
    · exact emptied.outside _ others also inside

/-- No resource of a family has the output as its user data. -/
def Vacant (scene : NestedScene) (id : OutputId) (family : Family) : Prop :=
  ∀ resource record, scene.resources.cell resource = some record → record.output = id → record.family ≠ family

theorem Emptied.skip (emptied : Emptied scene id done links lists) (vacant : Vacant scene id family) :
    Emptied scene id (family :: done) links lists where
  rings := emptied.rings
  known := emptied.known
  members head nodes known node := by
    rw [emptied.members head nodes known]
    have same {resource : ResourceId} {record : NestedResource} (present : scene.resources.cell resource = some record) :
        settled scene id (family :: done) record = settled scene id done record := by
      unfold settled
      refine if_congr (and_congr_right fun here => ?_) rfl rfl
      rw [List.mem_cons, or_iff_right (vacant resource record present here)]
    constructor
    · rintro ⟨resource, record, rfl, present, equal⟩
      exact ⟨resource, record, rfl, present, (same present).trans equal⟩
    · rintro ⟨resource, record, rfl, present, equal⟩
      exact ⟨resource, record, rfl, present, (same present).symm.trans equal⟩
  live := emptied.live
  cleared := emptied.cleared

theorem Emptied.holds (emptied : Emptied scene id done links lists) (live : scene.outputs.live id = true)
    (fresh : family ∉ done) {nodes : List Link} (known : lists (.output id family) = some nodes) (node : Link) :
    node ∈ nodes ↔ ∃ resource record, node = .resource resource ∧ scene.resources.cell resource = some record ∧
      record.output = id ∧ record.family = family := by
  rw [emptied.members _ nodes known]
  refine exists_congr fun resource => exists_congr fun record => and_congr_right fun _ => and_congr_right fun _ => ?_
  constructor
  · intro equal
    unfold settled home at equal
    split at equal
    · cases equal
    · split at equal
      · exact Link.output.inj equal
      · cases equal
  · rintro ⟨rfl, rfl⟩
    simp [settled, home, live, fresh]

theorem Emptied.walk_vacant (emptied : Emptied scene id done links lists) (live : scene.outputs.live id = true)
    (fresh : family ∉ done) (vacant : Vacant scene id family) (steps : Nat) :
    moveToStale (steps + 1) id family links = .ok links := by
  obtain ⟨nodes, known⟩ := Option.isSome_iff_exists.mp ((emptied.known (.output id family)).trans live)
  have none_ : nodes = [] := by
    refine List.eq_nil_iff_forall_not_mem.mpr fun node inside => ?_
    obtain ⟨resource, record, _, present, here, same⟩ := (emptied.holds live fresh known node).mp inside
    exact vacant resource record present here same
  subst none_
  have ring := emptied.rings.ring _ _ known
  exact (moveToStale_first ring _).trans (ring.walk_empty _ _)

theorem Emptied.walk_null (emptied : Emptied scene id done links lists) (mapped : Mapped scene)
    (live : scene.outputs.live id = true) (fresh : .colorOutput ∉ done) (occupied : ¬ Vacant scene id .colorOutput)
    (steps : Nat) : moveToStale (steps + 1) id .colorOutput links = .error .null := by
  obtain ⟨nodes, known⟩ := Option.isSome_iff_exists.mp ((emptied.known (.output id .colorOutput)).trans live)
  have there : links.live (.stale .colorOutput) = true := by
    rw [emptied.live]
    exact mapped.stale _
  cases nodes with
  | nil =>
      refine absurd (fun resource record present here same => ?_) occupied
      exact List.not_mem_nil ((emptied.holds live fresh known _).mpr ⟨resource, record, rfl, present, here, same⟩)
  | cons node nodes =>
      rw [moveToStale_first (emptied.rings.ring _ _ known)]
      exact emptied.rings.moved_null known there emptied.cleared emptied.outside steps

theorem unlinkResources_last (sound : Sound scene lists) (live : scene.outputs.live id = true) :
    ∃ links lists', unlinkResources scene id = moveToStale (scene.resources.next + 1) id .colorOutput links ∧
      Emptied scene id [.wlOutput, .xdgOutput] links lists' := by
  obtain ⟨one, _, first, xdg⟩ := (sound.emptied id).move live List.not_mem_nil (nofun : Family.xdgOutput ≠ .colorOutput)
  obtain ⟨two, lists', second, wl⟩ := xdg.move live (by decide) (nofun : Family.wlOutput ≠ .colorOutput)
  refine ⟨two, lists', ?_, wl⟩
  change (moveToStale _ id .xdgOutput scene.links >>= _) = _
  rw [first]
  change (moveToStale _ id .wlOutput one >>= _) = _
  rw [second]
  rfl

theorem unlinkResources_emptied (sound : Sound scene lists) (live : scene.outputs.live id = true)
    (vacant : Vacant scene id .colorOutput) : ∃ links lists', unlinkResources scene id = .ok links ∧
      Emptied scene id [.colorOutput, .wlOutput, .xdgOutput] links lists' := by
  obtain ⟨links, lists', unlinked, emptied⟩ := unlinkResources_last sound live
  exact ⟨links, lists', unlinked.trans (emptied.walk_vacant live (by decide) vacant _), emptied.skip vacant⟩

theorem unlinkResources_null (sound : Sound scene lists) (live : scene.outputs.live id = true)
    (occupied : ¬ Vacant scene id .colorOutput) : unlinkResources scene id = .error .null := by
  obtain ⟨links, lists', unlinked, emptied⟩ := unlinkResources_last sound live
  exact unlinked.trans (emptied.walk_null sound.mapped live (by decide) occupied _)

theorem freeSurface_live (scene : NestedScene) (id : OutputId) {node : Link} (other : ∀ family, node ≠ .output id family) :
    (freeSurface scene id).links.live node = scene.links.live node :=
  (Links.live_unmap_other _ (other .colorOutput)).trans
    ((Links.live_unmap_other _ (other .xdgOutput)).trans (Links.live_unmap_other _ (other .wlOutput)))

theorem freeSurface_dead (scene : NestedScene) (id : OutputId) (family : Family) :
    (freeSurface scene id).links.live (.output id family) = false := by
  have xc : Link.output id .xdgOutput ≠ .output id .colorOutput := nofun
  have wc : Link.output id .wlOutput ≠ .output id .colorOutput := nofun
  have wx : Link.output id .wlOutput ≠ .output id .xdgOutput := nofun
  cases family with
  | wlOutput =>
      exact (Links.live_unmap_other _ wc).trans ((Links.live_unmap_other _ wx).trans (Links.live_unmap_self _ _))
  | xdgOutput => exact (Links.live_unmap_other _ xc).trans (Links.live_unmap_self _ _)
  | colorOutput => exact Links.live_unmap_self _ _

theorem Emptied.freed (emptied : Emptied scene id [.colorOutput, .wlOutput, .xdgOutput] links lists)
    (sound : Sound scene lists') (vacant : Vacant scene id .colorOutput) :
    Sound (freeSurface { scene with links := links } id) (withHeads lists id none) := by
  obtain ⟨listed, mapped, recorded⟩ := sound
  let next := freeSurface { scene with links := links } id
  have outside (family : Family) : Links.Outside (withHeads lists id none) (.output id family) := by
    intro head nodes known inside
    have before : (∀ family, head ≠ .output id family) ∧ lists head = some nodes := by
      cases head with
      | output other family =>
          by_cases here : other = id
          · simp only [withHeads, if_pos here] at known
            cases known
          · simp only [withHeads, if_neg here] at known
            exact ⟨fun _ equal => here (Link.output.inj equal).1, known⟩
      | stale family => exact ⟨nofun, known⟩
      | resource other => exact ⟨nofun, known⟩
    rcases List.mem_cons.mp inside with equal | inside
    · exact before.1 family equal.symm
    · obtain ⟨_, _, equal, _⟩ := (emptied.members head nodes before.2 _).mp inside
      cases equal
  have forgotten : links.Rings (withHeads lists id none) := by
    rw [← update_heads]
    exact ((emptied.rings.forget _).forget _).forget _
  have rings : next.links.Rings (withHeads lists id none) :=
    ((forgotten.unmap (outside .wlOutput)).unmap (outside .xdgOutput)).unmap (outside .colorOutput)
  have gone : next.outputs.live id = false := Heap.not_live_iff.mpr (Heap.cell_free_self _ _)
  have homely (record : NestedResource) :
      home next record = settled scene id [.colorOutput, .wlOutput, .xdgOutput] record := by
    by_cases here : record.output = id
    · subst here
      have every : record.family ∈ [Family.colorOutput, .wlOutput, .xdgOutput] := by
        cases record.family <;> decide
      simp [home, settled, gone, every]
    · have same : next.outputs.live record.output = scene.outputs.live record.output := Heap.live_free_other _ here
      simp [home, settled, here, same]
  have kept (node : Link) (other : ∀ family, node ≠ .output id family) :
      next.links.live node = scene.links.live node := by
    rw [freeSurface_live _ id other]
    exact congrFun emptied.live node
  refine ⟨⟨rings, fun head => ?_, fun head nodes known node => ?_, fun resource record present => ?_⟩,
    ⟨fun other family => ?_, fun other => ?_, fun family => ?_, emptied.cleared⟩, recorded.bounded,
    fun resource record output present there => ?_, recorded.offered, fun other output offered there => ?_⟩
  · cases head with
    | output other family =>
        by_cases here : other = id
        · subst here
          simp only [withHeads, if_true]
          exact gone.symm
        · simp only [withHeads, if_neg here]
          exact (emptied.known _).trans (Heap.live_free_other _ here).symm
    | stale family => exact emptied.known _
    | resource other => exact emptied.known _
  · have before : lists head = some nodes := by
      cases head with
      | output other family =>
          by_cases here : other = id
          · simp only [withHeads, if_pos here] at known
            cases known
          · simpa only [withHeads, if_neg here] using known
      | stale family => exact known
      | resource other => exact known
    rw [emptied.members head nodes before]
    refine exists_congr fun resource => exists_congr fun record => ?_
    rw [← homely]
    exact Iff.rfl
  · rw [homely]
    unfold settled
    split
    · rename_i both
      exact bne_iff_ne.mpr (vacant resource record present both.1)
    · rename_i apart
      have ready := listed.placed resource record present
      unfold home at ready ⊢
      split
      · rename_i live
        rw [if_pos live] at ready
        have other : record.output ≠ id := by
          rintro equal
          exact apart ⟨equal, by cases record.family <;> decide⟩
        exact (Heap.live_free_other _ other).trans ready
      · rename_i dead
        rw [if_neg dead] at ready
        exact ready
  · by_cases here : other = id
    · subst here
      exact (freeSurface_dead _ _ _).trans gone.symm
    · rw [kept _ fun _ equal => here (Link.output.inj equal).1, mapped.heads]
      exact (Heap.live_free_other _ here).symm
  · rw [kept (.resource other) nofun]
    exact mapped.resources other
  · rw [kept (.stale family) nofun]
    exact mapped.stale family
  · exact recorded.bound resource record output present (Heap.old_of_free _ there)
  · exact recorded.shown other output offered (Heap.old_of_free _ there)

end Removal

section Clients

variable {client : WlClientId} {order : List ResourceId}

theorem mem_ownedBy {id : ResourceId} : id ∈ ownedBy scene client ↔
    ∃ record, scene.resources.cell id = some record ∧ record.client = client := by
  unfold ownedBy
  simp only [List.mem_filter, List.mem_range, Option.any_eq_true, beq_iff_eq]
  constructor
  · exact fun both => both.2
  · rintro ⟨record, present, owner⟩
    exact ⟨scene.resources.live_below present, record, present, owner⟩

theorem wlClientDestroy_sound (sound : Sound scene lists) (orderly : order.isPerm (ownedBy scene client) = true) :
    ∃ next lists', wlClientDestroy scene client order = .ok next ∧ Sound next lists' ∧ next.outputs = scene.outputs ∧
      next.surfaces = scene.surfaces ∧ next.clients = scene.clients.free client ∧
      ∀ id record, next.resources.cell id = some record ↔
        scene.resources.cell id = some record ∧ record.client ≠ client := by
  have permuted := List.isPerm_iff.mp orderly
  have distinct : order.Nodup := permuted.nodup_iff.mpr (List.nodup_range.filter _)
  have owned {id : ResourceId} : id ∈ order ↔ ∃ record, scene.resources.cell id = some record ∧ record.client = client :=
    permuted.mem_iff.trans mem_ownedBy
  obtain ⟨next, lists', destroyed, after, drops⟩ := destroyed_sound sound distinct fun id listed => by
    obtain ⟨record, present, _⟩ := owned.mp listed
    exact ⟨record, present⟩
  refine ⟨{ next with clients := next.clients.free client }, lists', ?_,
    ⟨after.listed.congr rfl rfl fun _ => rfl, after.mapped.congr rfl rfl fun _ => rfl, after.recorded.bounded,
      after.recorded.bound, after.recorded.offered, after.recorded.shown⟩, drops.outputs, drops.surfaces,
    congrArg (Heap.free · client) drops.clients, fun id record => ?_⟩
  · unfold wlClientDestroy
    rw [destroyed]
    rfl
  · change next.resources.cell id = some record ↔ _
    rw [drops.resources]
    by_cases inside : id ∈ order
    · rw [if_pos inside]
      refine iff_of_false nofun ?_
      rintro ⟨present, other⟩
      obtain ⟨_, found, owner⟩ := owned.mp inside
      cases present.symm.trans found
      exact other owner
    · rw [if_neg inside]
      exact (and_iff_left_of_imp fun present owner => inside (owned.mpr ⟨record, present, owner⟩)).symm

theorem cleanupClient_some {id : OutputId} {output : NestedSurface} (present : scene.outputs.cell id = some output) :
    cleanupClient scene (some id) = .ok (scene.setOutput id fun output => { output with client := none }) := by
  change (scene.output id >>= _) = _
  unfold NestedScene.output
  rw [present]
  rfl

theorem clientDestroyed_sound (sound : Sound scene lists) (connected : Connected scene)
    (live : scene.clients.live client = true) (orderly : order.isPerm (ownedBy scene client) = true) :
    ∃ next lists', clientDestroyed scene client order = .ok next ∧ Sound next lists' ∧ Connected next := by
  obtain ⟨unique, registered⟩ := Heap.live_iff.mp live
  cases unique with
  | none =>
      obtain ⟨next, lists', destroyed, after, outputs, surfaces, clients, _⟩ := wlClientDestroy_sound sound orderly
      refine ⟨next, lists', ?_, after, ?_, ?_, ?_, ?_⟩
      · unfold clientDestroyed
        rw [registered]
        exact destroyed
      · exact surfaces ▸ connected.distinct
      · rw [outputs, surfaces]
        exact connected.present
      · intro other id found
        rw [clients] at found
        rw [outputs]
        exact connected.uniques other id (Heap.old_of_free _ found)
      · intro id output other there named
        rw [outputs] at there
        have before := connected.served id output other there named
        have different : other ≠ client := by
          rintro rfl
          cases registered.symm.trans before
        rw [clients, Heap.cell_free_other _ different]
        exact before
  | some id =>
      obtain ⟨output, present, owner⟩ := connected.uniques client id registered
      let cleaned := scene.setOutput id fun output => { output with client := none }
      have between : Sound cleaned lists := sound.setOutput id fun _ => rfl
      obtain ⟨next, lists', destroyed, after, outputs, surfaces, clients, _⟩ := wlClientDestroy_sound between orderly
      have cells (other : OutputId) (different : other ≠ id) : next.outputs.cell other = scene.outputs.cell other := by
        rw [outputs]
        exact Heap.cell_modify_other _ _ different
      have self : next.outputs.cell id = some { output with client := none } := by
        rw [outputs]
        refine (Heap.cell_modify_self _ _ _).trans ?_
        rw [present, Option.map_some]
      refine ⟨next, lists', ?_, after, surfaces ▸ connected.distinct, fun other => ?_, ?_, ?_⟩
      · unfold clientDestroyed
        rw [registered]
        change (cleanupClient scene (some id) >>= _) = _
        rw [cleanupClient_some present]
        exact destroyed
      · rw [surfaces, outputs]
        refine (connected.present other).trans ?_
        rw [← Heap.live_modify scene.outputs id fun output => { output with client := none }]
        exact Iff.rfl
      · intro other name found
        rw [clients] at found
        have before := Heap.old_of_free _ found
        obtain ⟨record, there, named⟩ := connected.uniques other name before
        have different : name ≠ id := by
          rintro rfl
          cases present.symm.trans there
          cases owner.symm.trans named
          exact Heap.ne_of_free _ found rfl
        exact ⟨record, (cells name different).trans there, named⟩
      · intro name record other there named
        by_cases here : name = id
        · subst here
          cases self.symm.trans there
          cases named
        · rw [cells name here] at there
          have before := connected.served name record other there named
          have different : other ≠ client := by
            rintro rfl
            cases registered.symm.trans before
            exact here rfl
          rw [clients, Heap.cell_free_other _ different]
          exact before

/-- An output that goes away has lost its client with the resources of the client. -/
structure Parted (scene next : NestedScene) (id : OutputId) (output : NestedSurface) : Prop where
  outputs : ∀ other, other ≠ id → next.outputs.cell other = scene.outputs.cell other
  bound : next.outputs.next = scene.outputs.next
  record : ∃ left, next.outputs.cell id = some left ∧ left.nestedServerOutput = output.nestedServerOutput
  surfaces : next.surfaces = scene.surfaces
  clients : ∀ client unique, next.clients.cell client = some unique ↔
    scene.clients.cell client = some unique ∧ output.client ≠ some client
  resources : ∀ resource record, next.resources.cell resource = some record ↔
    scene.resources.cell resource = some record ∧ output.client ≠ some record.client

theorem destroyOutputClient_sound (sound : Sound scene lists) (connected : Connected scene) {id : OutputId}
    {output : NestedSurface} (present : scene.outputs.cell id = some output)
    (orderly : ∀ client, output.client = some client → order.isPerm (ownedBy scene client) = true) :
    ∃ next lists', destroyOutputClient { scene with surfaces := scene.surfaces.erase id } order output.client = .ok next ∧
      Sound next lists' ∧ Parted { scene with surfaces := scene.surfaces.erase id } next id output := by
  let start : NestedScene := { scene with surfaces := scene.surfaces.erase id }
  have begun : Sound start lists := ⟨sound.listed.congr rfl rfl fun _ => rfl, sound.mapped.congr rfl rfl fun _ => rfl,
    sound.recorded.bounded, sound.recorded.bound, sound.recorded.offered, sound.recorded.shown⟩
  cases owner : output.client with
  | none =>
      refine ⟨start, lists, rfl, begun, fun _ _ => rfl, rfl, ⟨output, present, rfl⟩, rfl, fun client unique => ?_,
        fun resource record => ?_⟩
      · rw [owner]
        exact (and_iff_left nofun).symm
      · rw [owner]
        exact (and_iff_left nofun).symm
  | some client =>
      have registered := connected.served id output client present owner
      obtain ⟨middle, lists', destroyed, between, outputs, surfaces, clients, resources⟩ :=
        wlClientDestroy_sound begun (orderly client owner)
      have there : middle.outputs.cell id = some output := outputs ▸ present
      refine ⟨middle.setOutput id fun output => { output with client := none }, lists', ?_, between.setOutput id fun _ => rfl,
        fun other different => ?_, ?_, ⟨{ output with client := none }, ?_, rfl⟩, surfaces, fun other unique => ?_,
        fun resource record => ?_⟩
      · change (wlClientDestroy start client order >>= fun next => cleanupClient next (scene.clients.cell client).join) = _
        rw [destroyed, registered]
        exact cleanupClient_some there
      · refine (Heap.cell_modify_other _ _ different).trans ?_
        rw [outputs]
      · change middle.outputs.next = start.outputs.next
        rw [outputs]
      · refine (Heap.cell_modify_self _ _ _).trans ?_
        rw [there, Option.map_some]
      · change middle.clients.cell other = some unique ↔ _
        rw [clients, owner, Heap.cell_free]
        split
        · rename_i same
          exact iff_of_false nofun fun both => both.2 (congrArg some same.symm)
        · rename_i different
          exact (and_iff_left fun equal => different (Option.some.inj equal).symm).symm
      · refine (resources resource record).trans (and_congr_right fun _ => ?_)
        rw [owner]
        exact ⟨fun other equal => other (Option.some.inj equal).symm, fun other equal => other (congrArg some equal.symm)⟩

theorem destroySurface_parted (sound : Sound scene lists) (connected : Connected scene) {id : OutputId}
    {output : NestedSurface} (present : scene.outputs.cell id = some output)
    (orderly : ∀ client, output.client = some client → order.isPerm (ownedBy scene client) = true) :
    ∃ middle lists', Sound middle lists' ∧ Parted { scene with surfaces := scene.surfaces.erase id } middle id output ∧
      destroySurface scene order id =
        ((if output.nestedServerOutput then middle.withLinks (unlinkResources middle id) else pure middle) >>=
          fun next => pure (freeSurface next id)) := by
  obtain ⟨middle, lists', ended, between, parted⟩ := destroyOutputClient_sound sound connected present orderly
  refine ⟨middle, lists', between, parted, ?_⟩
  change (scene.output id >>= _) = _
  unfold NestedScene.output
  rw [present]
  change (destroyOutputClient { scene with surfaces := scene.surfaces.erase id } order output.client >>= _) = _
  rw [ended]
  cases output.nestedServerOutput with
  | true => rfl
  | false => rfl

theorem destroySurface_sound (sound : Sound scene lists) (connected : Connected scene) {id : OutputId}
    {output : NestedSurface} (present : scene.outputs.cell id = some output)
    (orderly : ∀ client, output.client = some client → order.isPerm (ownedBy scene client) = true)
    (spared : ∀ resource record, scene.resources.cell resource = some record → record.output = id →
      record.family = .colorOutput → output.client = some record.client) :
    ∃ next lists', destroySurface scene order id = .ok next ∧ Sound next lists' ∧ Connected next := by
  obtain ⟨middle, lists', between, parted, ended⟩ := destroySurface_parted sound connected present orderly
  obtain ⟨left, here, flag⟩ := parted.record
  have live : middle.outputs.live id = true := Heap.live_iff.mpr ⟨left, here⟩
  have vacant : Vacant middle id .colorOutput := by
    intro resource record found named color
    obtain ⟨before, other⟩ := (parted.resources resource record).mp found
    exact other (spared resource record before named color)
  have after (links : Links Link) : Connected (freeSurface { middle with links := links } id) := by
    have older {other : OutputId} {record : NestedSurface} (found : (middle.outputs.free id).cell other = some record) :
        scene.outputs.cell other = some record :=
      (parted.outputs other (Heap.ne_of_free _ found)).symm.trans (Heap.old_of_free _ found)
    refine ⟨?_, fun other => ?_, fun client other found => ?_, fun other record client found named => ?_⟩
    · change middle.surfaces.Nodup
      rw [parted.surfaces]
      exact connected.distinct.erase id
    · change other ∈ middle.surfaces ↔ (middle.outputs.free id).live other = true
      rw [parted.surfaces, connected.distinct.mem_erase_iff, connected.present]
      by_cases same : other = id
      · subst same
        refine iff_of_false (fun both => both.1 rfl) ?_
        rw [Heap.not_live_iff.mpr (Heap.cell_free_self _ _)]
        exact Bool.false_ne_true
      · rw [Heap.live_free_other _ same, and_iff_right same]
        unfold Heap.live
        rw [parted.outputs other same]
    · obtain ⟨before, different⟩ := (parted.clients client _).mp found
      obtain ⟨record, there, named⟩ := connected.uniques client other before
      have apart : other ≠ id := by
        rintro rfl
        cases present.symm.trans there
        exact different named
      refine ⟨record, ?_, named⟩
      exact (Heap.cell_free_other _ apart).trans ((parted.outputs other apart).trans there)
    · have there := older found
      refine (parted.clients client _).mpr ⟨connected.served other record client there named, fun owner => ?_⟩
      have served := connected.served id output client present owner
      cases served.symm.trans (connected.served other record client there named)
      exact Heap.ne_of_free _ found rfl
  cases shown : output.nestedServerOutput with
  | true =>
      obtain ⟨links, lists, unlinked, emptied⟩ := unlinkResources_emptied between live vacant
      refine ⟨_, _, ?_, emptied.freed between vacant, after links⟩
      rw [ended, shown, unlinked]
      rfl
  | false =>
      have empty (family : Family) : Vacant middle id family := by
        rintro resource record found rfl _
        have offered := between.recorded.bound resource record left found here
        rw [flag, shown] at offered
        cases offered
      have emptied := (((between.emptied id).skip (empty .xdgOutput)).skip (empty .wlOutput)).skip (empty .colorOutput)
      refine ⟨_, _, ?_, emptied.freed between vacant, after middle.links⟩
      rw [ended, shown]
      rfl

theorem destroySurface_null (sound : Sound scene lists) (connected : Connected scene) {id : OutputId}
    {output : NestedSurface} (present : scene.outputs.cell id = some output)
    (orderly : ∀ client, output.client = some client → order.isPerm (ownedBy scene client) = true)
    {resource : ResourceId} {record : NestedResource} (found : scene.resources.cell resource = some record)
    (named : record.output = id) (color : record.family = .colorOutput) (survives : output.client ≠ some record.client) :
    destroySurface scene order id = .error (.link .null) := by
  obtain ⟨middle, lists', between, parted, ended⟩ := destroySurface_parted sound connected present orderly
  obtain ⟨left, here, flag⟩ := parted.record
  have after := (parted.resources resource record).mpr ⟨found, survives⟩
  have shown : output.nestedServerOutput = true := by
    rw [← flag]
    exact between.recorded.bound resource record left after (by rw [named]; exact here)
  have failed := unlinkResources_null between (Heap.live_iff.mpr ⟨left, here⟩) fun vacant =>
    vacant resource record after named color
  rw [ended, shown, failed]
  rfl

end Clients

section Events

/-- At the start two stale lists are empty and the third one is not initialised. -/
def startLists : Link → Option (List Link)
  | .stale .wlOutput | .stale .xdgOutput => some []
  | _ => none

theorem mainLinks_rings : mainLinks.Rings startLists := by
  have nothing : clearedLinks.Rings fun _ => none := ⟨nofun, nofun⟩
  have first : (clearedLinks.init (.stale .wlOutput)).Rings _ := nothing.init rfl nofun
  have outside : Links.Outside (Function.update (fun _ => none) (Link.stale .wlOutput) (some []))
      (.stale .xdgOutput) := by
    intro head nodes known inside
    by_cases here : head = .stale .wlOutput
    · subst here
      rw [Function.update_self] at known
      cases known
      cases List.mem_singleton.mp inside
    · rw [Function.update_of_ne here] at known
      cases known
  have same : Function.update (Function.update (fun _ => none) (Link.stale .wlOutput) (some [])) (.stale .xdgOutput)
      (some []) = startLists := by
    funext head
    cases head with
    | stale family => cases family <;> simp [startLists]
    | output id family => simp [startLists]
    | resource id => simp [startLists]
  rw [← same]
  exact first.init rfl outside

theorem startScene_sound : Sound startScene startLists ∧ Connected startScene := by
  have empty {Record : Type} {id : Nat} {record : Record} : ¬ (Heap.empty : Heap Record).cell id = some record := nofun
  refine ⟨⟨⟨mainLinks_rings, fun head => ?_, fun head nodes known node => ?_, fun id record found => absurd found empty⟩,
    ⟨fun _ _ => rfl, fun _ => rfl, fun _ => rfl, rfl⟩, fun id record found => absurd found empty,
    fun id record output found => absurd found empty, nofun, nofun⟩, .nil, fun id => ?_,
    fun client id found => absurd found empty, fun id output client found => absurd found empty⟩
  · cases head with
    | stale family => cases family <;> rfl
    | output id family => rfl
    | resource id => rfl
  · have none_ : nodes = [] := by
      cases head with
      | stale family =>
          cases family with
          | wlOutput => exact (Option.some.inj known).symm
          | xdgOutput => exact (Option.some.inj known).symm
          | colorOutput => cases known
      | output id family => cases known
      | resource id => cases known
    subst none_
    exact iff_of_false List.not_mem_nil fun ⟨_, _, _, found, _⟩ => empty found
  · exact iff_of_false List.not_mem_nil Bool.false_ne_true

/-- These are the outputs that a request obtains from a resource or from a global. -/
def target (scene : NestedScene) : NestedEvent → Option OutputId
  | .bindOutput _ output _ => some output
  | .getXdgOutput _ resource _ | .getColorOutput _ resource _ | .getImageDescription _ resource =>
      (scene.resources.cell resource).map NestedResource.output
  | _ => none

/-- A request for a new resource uses its output only where there is memory for the resource. -/
def NestedEvent.uses : NestedEvent → Bool
  | .bindOutput _ _ created | .getXdgOutput _ _ created | .getColorOutput _ _ created => created
  | _ => true

/-- An event that uses an output names one that was not removed. -/
def Present (scene : NestedScene) (event : NestedEvent) : Prop :=
  event.uses = true → ∀ output, target scene event = some output → scene.outputs.live output = true

/-- An output is removed while no client but its own has a color management output for it. -/
def Uncolored (scene : NestedScene) : NestedEvent → Prop
  | .outputRemoved name _ => ∀ id output, removedOutput scene name = some id → scene.outputs.cell id = some output →
      ∀ resource record, scene.resources.cell resource = some record → record.output = id →
        record.family = .colorOutput → output.client = some record.client
  | _ => True

theorem addResource_present (sound : Sound scene lists) (connected : Connected scene) (client : WlClientId)
    (family : Family) {output : OutputId} (created : Bool)
    (live : created = true → scene.outputs.live output = true)
    (offered : ∀ record, scene.outputs.cell output = some record → record.nestedServerOutput = true) :
    ∃ next lists', addResource scene client family output created = .ok next ∧ Sound next lists' ∧ Connected next := by
  cases created with
  | false => exact ⟨scene, lists, rfl, sound, connected⟩
  | true =>
      obtain ⟨record, present⟩ := Heap.live_iff.mp (live rfl)
      obtain ⟨next, lists', added, after, outputs, clients, surfaces⟩ :=
        addResource_sound sound client family present (offered record present)
      refine ⟨next, lists', added, after, surfaces ▸ connected.distinct, ?_, ?_, ?_⟩
      · rw [outputs, surfaces]
        exact connected.present
      · rw [outputs, clients]
        exact connected.uniques
      · rw [outputs, clients]
        exact connected.served

theorem addResource_removed (sound : Sound scene lists) (client : WlClientId) (family : Family) {output : OutputId}
    (gone : scene.outputs.live output = false) :
    addResource scene client family output true = .error (.link .freed) := by
  have other : Link.output output family ≠ .resource scene.resources.next := nofun
  have head : (scene.links.map (.resource scene.resources.next)).live (.output output family) = false :=
    (Links.live_map_other _ other).trans ((sound.mapped.heads output family).trans gone)
  exact congrArg (wlResourceCreate scene client family output).withLinks
    (Links.insert_freed (Links.live_map_self _ _) head)

theorem removedOutput_live {name : UInt32} {id : OutputId} (found : removedOutput scene name = some id) :
    ∃ output, scene.outputs.cell id = some output := by
  have passed := List.find?_some found
  obtain ⟨output, present, _⟩ := (Option.any_eq_true _ _).mp passed
  exact ⟨output, present⟩

theorem Connected.setOutput (connected : Connected scene) (id : OutputId) {change : NestedSurface → NestedSurface}
    (kept : ∀ output, (change output).client = output.client) : Connected (scene.setOutput id change) where
  distinct := connected.distinct
  present other := by
    rw [show (scene.setOutput id change).outputs.live other = scene.outputs.live other from Heap.live_modify _ _ _ other]
    exact connected.present other
  uniques client other registered := by
    obtain ⟨output, there, named⟩ := connected.uniques client other registered
    change ∃ output, (scene.outputs.modify id change).cell other = some output ∧ _
    rw [Heap.cell_modify, there, Option.map_some]
    split
    · exact ⟨_, rfl, (kept output).trans named⟩
    · exact ⟨_, rfl, named⟩
  served other output client there named := by
    obtain ⟨old, before, ⟨_, rfl⟩ | ⟨_, rfl⟩⟩ := Heap.old_of_modify _ there
    · exact connected.served other old client before ((kept old).symm.trans named)
    · exact connected.served other _ client before named

theorem runPluginCommand_sound (sound : Sound scene lists) (connected : Connected scene) {output : Option OutputId}
    (allowed : output.all (fun id => (scene.outputs.cell id).any fun record => record.client == none) = true) :
    Sound (runPluginCommand scene output) lists ∧ Connected (runPluginCommand scene output) := by
  let start : NestedScene := { scene with clients := scene.clients.alloc output }
  have begun : Sound start lists := ⟨sound.listed.congr rfl rfl fun _ => rfl, sound.mapped.congr rfl rfl fun _ => rfl,
    sound.recorded.bounded, sound.recorded.bound, sound.recorded.offered, sound.recorded.shown⟩
  have older {client : WlClientId} {id : OutputId} (registered : scene.clients.cell client = some (some id)) :
      start.clients.cell client = some (some id) := Heap.cell_alloc_of_live _ _ registered
  cases output with
  | none =>
      refine ⟨begun, connected.distinct, connected.present, fun client id registered => ?_,
        fun id record client there named => older (connected.served id record client there named)⟩
      rcases Heap.old_of_alloc _ registered with ⟨_, equal⟩ | ⟨_, before⟩
      · cases equal
      · exact connected.uniques client id before
  | some id =>
      obtain ⟨record, there, free⟩ := (Option.any_eq_true _ _).mp allowed
      have idle : record.client = none := eq_of_beq free
      let change (output : NestedSurface) : NestedSurface := { output with client := some scene.clients.next }
      have self : (scene.outputs.modify id change).cell id = some (change record) := by
        rw [Heap.cell_modify_self, there, Option.map_some]
      refine ⟨begun.setOutput id fun _ => rfl, connected.distinct, fun other => ?_, fun client other registered => ?_,
        fun other output client found named => ?_⟩
      · rw [show (runPluginCommand scene (some id)).outputs.live other = scene.outputs.live other from
          Heap.live_modify _ _ _ other]
        exact connected.present other
      · rcases Heap.old_of_alloc _ registered with ⟨rfl, equal⟩ | ⟨_, before⟩
        · cases equal
          exact ⟨change record, self, rfl⟩
        · obtain ⟨output, present, named⟩ := connected.uniques client other before
          have apart : other ≠ id := by
            rintro rfl
            cases there.symm.trans present
            cases idle.symm.trans named
          exact ⟨output, (Heap.cell_modify_other _ _ apart).trans present, named⟩
      · by_cases here : other = id
        · subst here
          cases self.symm.trans found
          cases named
          exact Heap.cell_alloc_next _ _
        · exact older (connected.served other output client ((Heap.cell_modify_other _ _ here).symm.trans found) named)

theorem handleGlobalOutput_connected (connected : Connected scene) (name : UInt32) :
    Connected (handleGlobalOutput scene name) := by
  have unlisted : scene.outputs.next ∉ scene.surfaces := by
    rw [connected.present, Heap.not_live_iff.mpr (Heap.cell_next _)]
    exact Bool.false_ne_true
  refine ⟨List.nodup_cons.mpr ⟨unlisted, connected.distinct⟩, fun other => ?_, fun client id registered => ?_,
    fun id output client there named => ?_⟩
  · change other ∈ scene.outputs.next :: scene.surfaces ↔ (scene.outputs.alloc _).live other = true
    by_cases here : other = scene.outputs.next
    · subst here
      exact iff_of_true List.mem_cons_self (Heap.live_iff.mpr ⟨_, Heap.cell_alloc_next _ _⟩)
    · rw [Heap.live_alloc_other _ _ here, List.mem_cons, or_iff_right here]
      exact connected.present other
  · obtain ⟨output, there, named⟩ := connected.uniques client id registered
    exact ⟨output, Heap.cell_alloc_of_live _ _ there, named⟩
  · rcases Heap.old_of_alloc _ there with ⟨_, rfl⟩ | ⟨_, before⟩
    · cases named
    · exact connected.served id output client before named

/-- An enabled event that uses no removed output and leaves no color management output behind succeeds. -/
theorem handleNested_sound (sound : Sound scene lists) (connected : Connected scene) {event : NestedEvent}
    (allowed : nestedEnabled scene event = true) (present : Present scene event) (uncolored : Uncolored scene event) :
    ∃ next lists', handleNested scene event = .ok next ∧ Sound next lists' ∧ Connected next := by
  cases event with
  | outputAdded name =>
      obtain ⟨lists', after⟩ := handleGlobalOutput_sound sound name
      exact ⟨_, lists', rfl, after, handleGlobalOutput_connected connected name⟩
  | configured output =>
      obtain ⟨record, there, _⟩ := (Option.any_eq_true _ _).mp allowed
      have joined : Connected (scene.setOutput output fun record => { record with nestedServerOutput := true }) :=
        connected.setOutput output fun _ => rfl
      exact ⟨_, lists, rfl, forwardConfigure_sound sound (Heap.live_iff.mpr ⟨record, there⟩), joined.distinct,
        joined.present, joined.uniques, joined.served⟩
  | outputRemoved name order =>
      change ∃ next lists', handleGlobalRemove scene name order = .ok next ∧ _
      unfold handleGlobalRemove
      cases found : removedOutput scene name with
      | none => exact ⟨scene, lists, rfl, sound, connected⟩
      | some id =>
          obtain ⟨output, there⟩ := removedOutput_live found
          refine destroySurface_sound sound connected there (fun client owner => ?_) (uncolored id output found there)
          simpa [nestedEnabled, orderlyRemoval, found, there, owner] using allowed
  | clientStarted output =>
      obtain ⟨after, joined⟩ := runPluginCommand_sound sound connected allowed
      exact ⟨_, lists, rfl, after, joined⟩
  | clientGone client order =>
      obtain ⟨live, orderly⟩ := (Bool.and_eq_true _ _).mp allowed
      exact clientDestroyed_sound sound connected live orderly
  | bindOutput client output created =>
      obtain ⟨offered, _⟩ := (Bool.and_eq_true _ _).mp allowed
      exact addResource_present sound connected client .wlOutput created (fun made => present made output rfl)
        fun record there => sound.recorded.shown output record (List.elem_iff.mp offered) there
  | getXdgOutput client resource created =>
      obtain ⟨record, there, _⟩ := (Option.any_eq_true _ _).mp allowed
      have added := addResource_present sound connected client .xdgOutput created
        (fun made => present made record.output (congrArg (Option.map NestedResource.output) there))
        fun output found => sound.recorded.bound resource record output there found
      change ∃ next lists', (scene.resource resource >>= _) = _ ∧ _
      unfold NestedScene.resource
      rw [there]
      exact added
  | getColorOutput client resource created =>
      obtain ⟨record, there, _⟩ := (Option.any_eq_true _ _).mp allowed
      have added := addResource_present sound connected client .colorOutput created
        (fun made => present made record.output (congrArg (Option.map NestedResource.output) there))
        fun output found => sound.recorded.bound resource record output there found
      change ∃ next lists', (scene.resource resource >>= _) = _ ∧ _
      unfold NestedScene.resource
      rw [there]
      exact added
  | getImageDescription client resource =>
      obtain ⟨record, there, _⟩ := (Option.any_eq_true _ _).mp allowed
      obtain ⟨output, found⟩ := Heap.live_iff.mp
        (present rfl record.output (congrArg (Option.map NestedResource.output) there))
      refine ⟨scene, lists, ?_, sound, connected⟩
      change (scene.resource resource >>= _) = _
      unfold NestedScene.resource
      rw [there]
      change (scene.output record.output >>= _) = _
      unfold NestedScene.output
      rw [found]
      rfl
  | destroy client resource =>
      obtain ⟨record, there, _⟩ := (Option.any_eq_true _ _).mp allowed
      obtain ⟨next, lists', destroyed, after, drops⟩ := wlResourceDestroy_sound sound there
      refine ⟨next, lists', destroyed, after, drops.surfaces ▸ connected.distinct, ?_, ?_, ?_⟩
      · rw [drops.outputs, drops.surfaces]
        exact connected.present
      · rw [drops.outputs, drops.clients]
        exact connected.uniques
      · rw [drops.outputs, drops.clients]
        exact connected.served

theorem handleNested_removed (sound : Sound scene lists) {event : NestedEvent} (absent : ¬ Present scene event) :
    handleNested scene event = .error (match event with
      | .getImageDescription _ _ => .removedOutput
      | _ => .link .freed) := by
  obtain ⟨made, output, named, gone⟩ : event.uses = true ∧ ∃ output, target scene event = some output ∧
      scene.outputs.live output = false := by
    simpa [Present] using absent
  cases event with
  | bindOutput client id created =>
      cases made
      cases named
      exact addResource_removed sound client .wlOutput gone
  | getXdgOutput client resource created =>
      cases made
      obtain ⟨record, there, rfl⟩ := Option.map_eq_some_iff.mp named
      change (scene.resource resource >>= _) = _
      unfold NestedScene.resource
      rw [there]
      exact addResource_removed sound client .xdgOutput gone
  | getColorOutput client resource created =>
      cases made
      obtain ⟨record, there, rfl⟩ := Option.map_eq_some_iff.mp named
      change (scene.resource resource >>= _) = _
      unfold NestedScene.resource
      rw [there]
      exact addResource_removed sound client .colorOutput gone
  | getImageDescription client resource =>
      obtain ⟨record, there, rfl⟩ := Option.map_eq_some_iff.mp named
      change (scene.resource resource >>= _) = _
      unfold NestedScene.resource
      rw [there]
      change (scene.output record.output >>= _) = _
      unfold NestedScene.output
      rw [Heap.not_live_iff.mp gone]
      rfl
  | outputAdded _ | configured _ | outputRemoved _ _ | clientStarted _ | clientGone _ _ | destroy _ _ => cases named

theorem handleNested_idle {event : NestedEvent} {output : OutputId} (named : target scene event = some output)
    (idle : event.uses = false) : handleNested scene event = .ok scene := by
  cases event with
  | bindOutput client id created =>
      cases idle
      rfl
  | getXdgOutput client resource created =>
      cases idle
      obtain ⟨record, there, rfl⟩ := Option.map_eq_some_iff.mp named
      change (scene.resource resource >>= _) = _
      unfold NestedScene.resource
      rw [there]
      rfl
  | getColorOutput client resource created =>
      cases idle
      obtain ⟨record, there, rfl⟩ := Option.map_eq_some_iff.mp named
      change (scene.resource resource >>= _) = _
      unfold NestedScene.resource
      rw [there]
      rfl
  | getImageDescription client resource => cases idle
  | outputAdded _ | configured _ | outputRemoved _ _ | clientStarted _ | clientGone _ _ | destroy _ _ => cases named

/-- A removal that leaves a color management output behind fails at the stale list that was not initialised. -/
theorem handleNested_null (sound : Sound scene lists) (connected : Connected scene) {event : NestedEvent}
    (allowed : nestedEnabled scene event = true) (colored : ¬ Uncolored scene event) :
    handleNested scene event = .error (.link .null) := by
  cases event with
  | outputRemoved name order =>
      simp only [Uncolored, not_forall] at colored
      obtain ⟨id, output, found, there, resource, record, survives, named, color, other⟩ := colored
      change handleGlobalRemove scene name order = _
      unfold handleGlobalRemove
      rw [found]
      refine destroySurface_null sound connected there (fun client owner => ?_) survives named color other
      simpa [nestedEnabled, orderlyRemoval, found, there, owner] using allowed
  | _ => exact absurd trivial colored

theorem sound_of_reachable (reachable : nesting.machine.Reachable scene) :
    (∃ lists, Sound scene lists) ∧ Connected scene := by
  refine reachable.invariant (fun scene => (∃ lists, Sound scene lists) ∧ Connected scene) ?_ ?_
  · rintro _ rfl
    exact ⟨⟨_, startScene_sound.1⟩, startScene_sound.2⟩
  · rintro state event next ⟨⟨lists, sound⟩, connected⟩ ⟨allowed, handled⟩
    change handleNested state event = .ok next at handled
    by_cases present : Present state event
    · by_cases uncolored : Uncolored state event
      · obtain ⟨result, lists', succeeded, after, joined⟩ := handleNested_sound sound connected allowed present uncolored
        cases handled.symm.trans succeeded
        exact ⟨⟨lists', after⟩, joined⟩
      · cases handled.symm.trans (handleNested_null sound connected allowed uncolored)
    · cases handled.symm.trans (handleNested_removed sound present)

end Events

section Membership

/-- Each live resource is in one of the lists, which is its home, and in no other. -/
def InOneList (scene : NestedScene) (lists : Link → Option (List Link)) : Prop :=
  ∀ id record, scene.resources.cell id = some record →
    (∃ nodes, lists (home scene record) = some nodes ∧ Link.resource id ∈ nodes) ∧
      ∀ head nodes, lists head = some nodes → Link.resource id ∈ nodes → head = home scene record

theorem Listed.inOneList (listed : Listed scene lists) : InOneList scene lists := by
  intro id record present
  constructor
  · obtain ⟨nodes, known⟩ := listed.at (listed.placed id record present)
    exact ⟨nodes, known, (listed.members _ nodes known _).mpr ⟨id, record, rfl, present, rfl⟩⟩
  · intro head nodes known inside
    obtain ⟨other, found, same, there, homely⟩ := (listed.members head nodes known _).mp inside
    cases same
    cases present.symm.trans there
    exact homely.symm

/-- An event puts a new resource into a list. -/
def NestedEvent.inserts : NestedEvent → Bool
  | .bindOutput _ _ created | .getXdgOutput _ _ created | .getColorOutput _ _ created => created
  | _ => false

/-- No color management output of another client is left behind, and no resource is made for a removed output. -/
def SparesLists (scene : NestedScene) (event : NestedEvent) : Prop :=
  Uncolored scene event ∧
    (event.inserts = true → ∀ output, target scene event = some output → scene.outputs.live output = true)

/-- In every state that is reached each nested resource is in exactly one well-formed list, and an event fails at a list
that is not initialised exactly when it leaves a color management output behind or makes a resource for a removed
output. -/
theorem output_lists_iff (reachable : nesting.machine.Reachable scene) :
    (∃ lists, Listed scene lists ∧ InOneList scene lists) ∧ ∀ event, nestedEnabled scene event = true →
      ((∀ fault, handleNested scene event ≠ .error (.link fault)) ↔ SparesLists scene event) := by
  obtain ⟨⟨lists, sound⟩, connected⟩ := sound_of_reachable reachable
  refine ⟨⟨lists, sound.listed, sound.listed.inOneList⟩, fun event allowed => ?_⟩
  by_cases present : Present scene event
  · by_cases uncolored : Uncolored scene event
    · obtain ⟨next, _, handled, _⟩ := handleNested_sound sound connected allowed present uncolored
      refine iff_of_true (fun fault failed => nomatch handled.symm.trans failed) ⟨uncolored, fun inserts => present ?_⟩
      cases event <;> first | exact inserts | cases inserts
    · refine iff_of_false (fun safe => ?_) fun spares => uncolored spares.1
      exact safe _ (handleNested_null sound connected allowed uncolored)
  · have failed := handleNested_removed sound present
    cases event with
    | getImageDescription client resource =>
        refine iff_of_true (fun fault broken => nomatch failed.symm.trans broken) ⟨trivial, nofun⟩
    | bindOutput client output created => exact iff_of_false (fun safe => safe _ failed) fun spares => present spares.2
    | getXdgOutput client resource created => exact iff_of_false (fun safe => safe _ failed) fun spares => present spares.2
    | getColorOutput client resource created =>
        exact iff_of_false (fun safe => safe _ failed) fun spares => present spares.2
    | outputAdded _ | configured _ | outputRemoved _ _ | clientStarted _ | clientGone _ _ | destroy _ _ =>
        exact absurd (fun _ _ named => nomatch named) present

/-- A plugin binds an output and asks for its extension objects. -/
def boundEvents : List NestedEvent :=
  [.outputAdded 1, .outputAdded 2, .configured 0, .configured 1, .clientStarted none, .bindOutput 0 0 true,
    .getXdgOutput 0 0 true, .bindOutput 0 0 true]

/-- An output with nested resources but without a color management output is removed, and one of them outlives it. -/
theorem output_lists_outlive : ∃ scene : NestedScene, scene.surfaces = [1] ∧
    (∃ lists, Listed scene lists ∧ InOneList scene lists) := by
  obtain ⟨scene, reachable, passed⟩ := nesting.play_reachable
    (boundEvents ++ [.outputRemoved 1 [], .destroy 0 0]) (fun scene => scene.surfaces == [1])
    (rfl : nesting.initial startScene) (by decide +kernel : (nesting.play _ _).any _ = true)
  exact ⟨scene, eq_of_beq passed, (output_lists_iff reachable).1⟩

/-- The removal of an output with a color management output fails at the stale list that is not initialised. -/
theorem color_output_lists_fail : ¬ ∀ scene : NestedScene, nesting.machine.Reachable scene →
    ∀ event, nestedEnabled scene event = true → ∀ fault, handleNested scene event ≠ .error (.link fault) := by
  intro claim
  obtain ⟨scene, reachable, passed⟩ := nesting.play_reachable (boundEvents ++ [.getColorOutput 0 0 true])
    (fun scene => nestedEnabled scene (.outputRemoved 1 []) &&
      (match handleNested scene (.outputRemoved 1 []) with
        | .error fault => fault == .link .null
        | .ok _ => false))
    (rfl : nesting.initial startScene) (by decide +kernel : (nesting.play _ _).any _ = true)
  obtain ⟨allowed, failed⟩ := (Bool.and_eq_true _ _).mp passed
  cases handled : handleNested scene (.outputRemoved 1 []) with
  | ok next =>
      rw [handled] at failed
      cases failed
  | error fault =>
      rw [handled] at failed
      have same : fault = .link .null := eq_of_beq failed
      exact claim scene reachable _ allowed .null (handled.trans (congrArg Except.error same))

end Membership

end SwaylockPlugin.Nested
