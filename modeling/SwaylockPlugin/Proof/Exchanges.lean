import SwaylockPlugin.Proof.Descriptions

namespace SwaylockPlugin.Color

open Library

/-- A description state waits for the rest of some information. -/
def Informs (scene : ColorScene) (info : InfoId) (id : StateId) : Prop :=
  ∃ sent, scene.informations.cell info = some ⟨id, sent⟩

/-- A description state that waits for an answer or for some information has pending properties, and it waits for one
thing at a time. -/
structure Exchanging (scene : ColorScene) : Prop where
  listening : ∀ description id, Listens scene description id → ∃ state shares, scene.states.cell id = some state ∧
    state.pending = some shares ∧
      ∀ owner, scene.properties.cell shares = some owner → owner.description = some description
  informing : ∀ info id, Informs scene info id → ∃ state shares, scene.states.cell id = some state ∧
    state.pending = some shares ∧ state.infoRequest = some info
  exclusive : ∀ description info id, Listens scene description id → ¬ Informs scene info id

/-- A description state waits for nothing. -/
structure Idle (scene : ColorScene) (id : StateId) : Prop where
  answered : ∀ description, ¬ Listens scene description id
  informed : ∀ info, ¬ Informs scene info id

/-- The pending description of a surface is read from its record. -/
def pendingOf (surfaces : Heap ForwardColor) (id : SurfaceId) : Option DescId :=
  (surfaces.cell id).bind ForwardColor.pendingDesc

/-- The committed description of a surface is read from its record. -/
def committedOf (surfaces : Heap ForwardColor) (id : SurfaceId) : Option DescId :=
  (surfaces.cell id).bind ForwardColor.committedDesc

/-- The description states hold a properties record this many times. -/
def heldBy (states : Heap ImageDescriptionState) (id : PropertiesId) : Nat :=
  states.count (fun state => state.pending == some id) + states.count fun state => state.current == some id

/-- The color surface of a surface is there and refers to the surface. -/
def Backed (surfaces : Heap ForwardColor) (colorSurfaces : Heap (Option SurfaceId)) : Prop :=
  ∀ id surface, surfaces.cell id = some surface → ∀ resource, surface.colorSurface = some resource →
    colorSurfaces.cell resource = some (some id)

/-- In a sound scene all references are counted, every exchange with the compositor goes on, and the color surfaces are
there. -/
structure Sound (scene : ColorScene) : Prop where
  held : Held scene (pendingOf scene.surfaces) (committedOf scene.surfaces) (heldBy scene.states)
  exchanging : Exchanging scene
  backed : Backed scene.surfaces scene.colorSurfaces

theorem Idle.spares {scene next : ColorScene} {id : StateId} (idle : Idle scene id) (spares : Spares scene next) :
    Idle next id := by
  refine ⟨fun description now => idle.answered description (spares.listens _ _ now), fun info now => ?_⟩
  obtain ⟨sent, present⟩ := now
  exact idle.informed info ⟨sent, by rw [← spares.informations, present]⟩

namespace Exchanging

variable {scene : ColorScene}

theorem spares (exchanging : Exchanging scene) {next : ColorScene} (spares : Spares scene next) : Exchanging next := by
  have listens {description : UpstreamDesc} {id : StateId} (now : Listens next description id) :
      Listens scene description id := spares.listens _ _ now
  have informs {info : InfoId} {id : StateId} (now : Informs next info id) : Informs scene info id := by
    obtain ⟨sent, present⟩ := now
    exact ⟨sent, by rw [← spares.informations, present]⟩
  refine ⟨?_, ?_, fun description info id now => fun also => exchanging.exclusive description info id (listens now)
    (informs also)⟩
  · intro description id now
    obtain ⟨state, shares, present, pending, owns⟩ := exchanging.listening description id (listens now)
    refine ⟨state, shares, by rw [spares.states, present], pending, fun owner found => ?_⟩
    obtain ⟨old, there, changed⟩ := spares.properties shares owner found
    rw [changed]
    exact owns old there
  · intro info id now
    obtain ⟨state, shares, present, pending, request⟩ := exchanging.informing info id (informs now)
    exact ⟨state, shares, by rw [spares.states, present], pending, request⟩

theorem setState (exchanging : Exchanging scene) {id : StateId} (idle : Idle scene id)
    (change : ImageDescriptionState → ImageDescriptionState) : Exchanging (scene.setState id change) := by
  refine ⟨?_, ?_, exchanging.exclusive⟩
  · intro description other now
    have here : other ≠ id := by
      rintro rfl
      exact idle.answered description now
    obtain ⟨state, shares, present, rest⟩ := exchanging.listening description other now
    exact ⟨state, shares, (scene.states.cell_modify_other change here).trans present, rest⟩
  · intro info other now
    have here : other ≠ id := by
      rintro rfl
      exact idle.informed info now
    obtain ⟨state, shares, present, rest⟩ := exchanging.informing info other now
    exact ⟨state, shares, (scene.states.cell_modify_other change here).trans present, rest⟩

theorem mark (exchanging : Exchanging scene) (id : StateId) {change : ImageDescriptionState → ImageDescriptionState}
    (pending : ∀ state, (change state).pending = state.pending)
    (request : ∀ state, (change state).infoRequest = state.infoRequest) : Exchanging (scene.setState id change) := by
  have still {who : StateId} {state : ImageDescriptionState} (present : scene.states.cell who = some state) :
      ∃ new, (scene.states.modify id change).cell who = some new ∧ new.pending = state.pending ∧
        new.infoRequest = state.infoRequest := by
    by_cases here : who = id
    · subst here
      exact ⟨change state, (Heap.cell_modify_self _ _ _).trans (congrArg _ present), pending state, request state⟩
    · exact ⟨state, (Heap.cell_modify_other _ _ here).trans present, rfl, rfl⟩
  refine ⟨fun description who now => ?_, fun info who now => ?_, exchanging.exclusive⟩
  · obtain ⟨state, shares, present, waits, owns⟩ := exchanging.listening description who now
    obtain ⟨new, placed, same, _⟩ := still present
    exact ⟨new, shares, placed, same.trans waits, owns⟩
  · obtain ⟨state, shares, present, waits, asks⟩ := exchanging.informing info who now
    obtain ⟨new, placed, same, also⟩ := still present
    exact ⟨new, shares, placed, same.trans waits, also.trans asks⟩

theorem idle (exchanging : Exchanging scene) {id : StateId}
    (rests : ∀ state, scene.states.cell id = some state → state.pending = none) : Idle scene id := by
  constructor
  · intro description now
    obtain ⟨state, shares, present, pending, _⟩ := exchanging.listening description id now
    cases pending.symm.trans (rests state present)
  · intro info now
    obtain ⟨state, shares, present, pending, _⟩ := exchanging.informing info id now
    cases pending.symm.trans (rests state present)

theorem setProps (exchanging : Exchanging scene) (target : PropertiesId) {change : Properties → Properties}
    (same : ∀ record, (change record).description = record.description) :
    Exchanging (scene.setProps target change) := by
  refine ⟨fun description id now => ?_, exchanging.informing, exchanging.exclusive⟩
  obtain ⟨state, shares, present, pending, owns⟩ := exchanging.listening description id now
  refine ⟨state, shares, present, pending, fun owner found => ?_⟩
  obtain ⟨old, there, ⟨_, rfl⟩ | ⟨_, rfl⟩⟩ := scene.properties.old_of_modify found
  · exact (same old).trans (owns old there)
  · exact owns owner there

end Exchanging

theorem heldBy_modify (states : Heap ImageDescriptionState) {id : StateId} {state : ImageDescriptionState}
    (present : states.cell id = some state) (change : ImageDescriptionState → ImageDescriptionState)
    (shares : PropertiesId) :
    heldBy (states.modify id change) shares + (state.pending == some shares).toNat +
        (state.current == some shares).toNat =
      heldBy states shares + ((change state).pending == some shares).toNat +
        ((change state).current == some shares).toNat := by
  have pendings := states.count_modify (fun state => state.pending == some shares) present change
  have currents := states.count_modify (fun state => state.current == some shares) present change
  unfold heldBy
  omega

/-- The new state of a scene in which a request for a description is made. -/
def requested (scene : ColorScene) (id : StateId) : ColorScene :=
  (awaitDescription scene id).setState id fun state => { state with dirty := false, pending := some scene.properties.next }

/-- The new state of a scene in which the pending properties become the current ones. -/
def committed (scene : ColorScene) (id : StateId) : ColorScene :=
  scene.setState id fun state => { state with current := state.pending, pending := none }

namespace Sound

variable {scene : ColorScene}

theorem pending_present (sound : Sound scene) {id : StateId} {state : ImageDescriptionState}
    (present : scene.states.cell id = some state) {shares : PropertiesId} (pending : state.pending = some shares) :
    ∃ owner, scene.properties.cell shares = some owner := by
  have positive : 0 < heldBy scene.states shares :=
    Nat.add_pos_left (Heap.count_pos present (by rw [pending, beq_self_eq_true])) _
  obtain ⟨owner, found, _⟩ := sound.held.shared.present_of_held positive
  exact ⟨owner, found⟩

theorem current_present (sound : Sound scene) {id : StateId} {state : ImageDescriptionState}
    (present : scene.states.cell id = some state) {shares : PropertiesId} (current : state.current = some shares) :
    ∃ owner, scene.properties.cell shares = some owner := by
  have positive : 0 < heldBy scene.states shares :=
    Nat.add_pos_right _ (Heap.count_pos present (by rw [current, beq_self_eq_true]))
  obtain ⟨owner, found, _⟩ := sound.held.shared.present_of_held positive
  exact ⟨owner, found⟩

theorem listens_of_answer {description other : UpstreamDesc} {id : StateId}
    (now : Listens (Color.answer scene description) other id) : other ≠ description ∧ Listens scene other id := by
  obtain ⟨old, there, ⟨_, changed⟩ | ⟨elsewhere, rfl⟩⟩ := scene.descriptions.old_of_modify now
  · cases congrArg UpstreamDescription.answered changed
  · exact ⟨elsewhere, there⟩

theorem answer (sound : Sound scene) (description : UpstreamDesc) : Sound (answer scene description) :=
  ⟨⟨sound.held.shared.modify_description description _, sound.held.pendings, sound.held.committeds, sound.held.kept⟩,
    ⟨fun other who now => sound.exchanging.listening other who (listens_of_answer now).2, sound.exchanging.informing,
      fun other info who now => sound.exchanging.exclusive other info who (listens_of_answer now).2⟩, sound.backed⟩

theorem idle_of_answer (sound : Sound scene) {description : UpstreamDesc} {id : StateId}
    (listens : Listens scene description id) : Idle (Color.answer scene description) id := by
  refine ⟨fun other now => ?_, fun info => sound.exchanging.exclusive description info id listens⟩
  obtain ⟨elsewhere, also⟩ := listens_of_answer now
  obtain ⟨state, shares, present, pending, owns⟩ := sound.exchanging.listening description id listens
  obtain ⟨same, others, found, named, otherwise⟩ := sound.exchanging.listening other id also
  cases present.symm.trans found
  cases pending.symm.trans named
  obtain ⟨owner, there⟩ := sound.pending_present present pending
  exact elsewhere (Option.some.inj ((otherwise owner there).symm.trans (owns owner there)))

theorem await (sound : Sound scene) {id : StateId} (idle : Idle scene id) {states : Heap ImageDescriptionState}
    {state : ImageDescriptionState} (placed : states.cell id = some state)
    (pending : state.pending = some scene.properties.next)
    (others : ∀ other, other ≠ id → states.cell other = scene.states.cell other)
    (holds : ∀ shares, heldBy states shares = heldBy scene.states shares + (some scene.properties.next == some shares).toNat) :
    Sound { awaitDescription scene id with states := states } := by
  have before {other : UpstreamDesc} {who : StateId} (elsewhere : other ≠ scene.descriptions.next)
      (now : Listens { awaitDescription scene id with states := states } other who) :
      who ≠ id ∧ Listens scene other who := by
    have listens : Listens scene other who := (if_neg elsewhere).symm.trans now
    refine ⟨?_, listens⟩
    rintro rfl
    exact idle.answered other listens
  refine ⟨⟨?_, sound.held.pendings, sound.held.committeds, sound.held.kept⟩, ⟨?_, ?_, ?_⟩, sound.backed⟩
  · exact (sound.held.shared.await ⟨some id, false⟩ rfl rfl).congr holds
  · intro other who now
    by_cases here : other = scene.descriptions.next
    · subst here
      have new := (Heap.cell_alloc_next _ _).symm.trans now
      cases new
      refine ⟨state, _, placed, pending, fun owner found => ?_⟩
      cases (Heap.cell_alloc_next _ _).symm.trans found
      rfl
    · obtain ⟨elsewhere, listens⟩ := before here now
      obtain ⟨old, shares, present, waits, owns⟩ := sound.exchanging.listening other who listens
      refine ⟨old, shares, (others who elsewhere).trans present, waits, fun owner found => ?_⟩
      obtain ⟨known, there⟩ := sound.pending_present present waits
      cases (Heap.cell_alloc_of_live _ _ there).symm.trans found
      exact owns _ there
  · intro info who now
    obtain ⟨old, shares, present, rest⟩ := sound.exchanging.informing info who now
    have elsewhere : who ≠ id := by
      rintro rfl
      exact idle.informed info now
    exact ⟨old, shares, (others who elsewhere).trans present, rest⟩
  · intro other info who now also
    by_cases here : other = scene.descriptions.next
    · subst here
      have new := (Heap.cell_alloc_next _ _).symm.trans now
      cases new
      exact idle.informed info also
    · exact sound.exchanging.exclusive other info who (before here now).2 also

theorem requested (sound : Sound scene) {id : StateId} {state : ImageDescriptionState}
    (present : scene.states.cell id = some state) (rests : state.pending = none) : Sound (requested scene id) := by
  have idle : Idle scene id := sound.exchanging.idle fun other found => by
    cases present.symm.trans found
    exact rests
  refine sound.await idle ((Heap.cell_modify_self _ _ _).trans (congrArg _ present)) rfl
    (fun other elsewhere => Heap.cell_modify_other _ _ elsewhere) fun shares => ?_
  have changed := heldBy_modify scene.states present
    (fun state => { state with dirty := false, pending := some scene.properties.next }) shares
  rw [rests] at changed
  change heldBy (scene.states.modify id _) shares = _
  dsimp only at changed
  have nothing : (none == some shares).toNat = 0 := rfl
  omega

end Sound

section Handlers

variable {fatal : Halt} {scene : ColorScene} {id : StateId} {state : ImageDescriptionState}

theorem requestNewImageDesc_delivers (present : scene.states.cell id = some state)
    (passes : Halt.assertion = fatal → state.pending = none ∧ state.infoRequest = none) :
    Delivers fatal (requestNewImageDesc scene id) fun next =>
      state.pending = none ∧ state.infoRequest = none ∧ next = requested scene id := by
  refine .read present (.test (fun same => ?_) fun pending => .test (fun same => ?_) fun info => .pure ?_)
  · rw [(passes same).1]
    rfl
  · rw [(passes same).2]
    rfl
  · exact ⟨Option.isNone_iff_eq_none.mp pending, Option.isNone_iff_eq_none.mp info, rfl⟩

/-- The pending properties of a description state became the current ones, and a dirty state requested a description
again. -/
def Concluded (scene next : ColorScene) (id : StateId) (state : ImageDescriptionState) : Prop :=
  (state.dirty = true → state.infoRequest = none) ∧ ∃ middle, Spares scene middle ∧ Sound (committed middle id) ∧
    next = if state.dirty then requested (committed middle id) id else committed middle id

theorem commitPending_delivers (sound : Sound scene) (present : scene.states.cell id = some state)
    (idle : Idle scene id) (passes : Halt.assertion = fatal → state.dirty = true → state.infoRequest = none) :
    Delivers fatal (commitPending scene id) fun next => Sound next ∧ Concluded scene next id state := by
  have holds (shares : PropertiesId) : heldBy scene.states shares =
      heldBy (scene.states.modify id fun state => { state with current := state.pending, pending := none }) shares +
        (state.current == some shares).toNat := by
    have changed := heldBy_modify scene.states present
      (fun state => { state with current := state.pending, pending := none }) shares
    have nothing : (none == some shares).toNat = 0 := rfl
    dsimp only at changed
    omega
  refine .read present ((unrefImageDescriptionProps_delivers sound.held.shared holds).bind ?_)
  rintro middle ⟨shared, spares, descriptions, properties, rfl⟩
  have after : Sound (committed { scene with descriptions := descriptions, properties := properties } id) :=
    ⟨⟨shared, sound.held.pendings, sound.held.committeds, sound.held.kept⟩,
      (sound.exchanging.spares spares).setState (idle.spares spares) _, sound.backed⟩
  have placed : (committed { scene with descriptions := descriptions, properties := properties } id).states.cell id =
      some { state with current := state.pending, pending := none } :=
    (Heap.cell_modify_self _ _ _).trans (congrArg _ present)
  unfold Concluded
  dsimp only
  split
  · rename_i dirty
    refine (requestNewImageDesc_delivers placed fun same => ⟨rfl, passes same dirty⟩).weaken ?_
    rintro _ ⟨_, info, rfl⟩
    exact ⟨after.requested placed rfl, fun _ => info, _, spares, after, rfl⟩
  · rename_i clean
    exact .pure ⟨after, fun dirty => absurd dirty clean, _, spares, after, rfl⟩

theorem pendingProps_delivers (present : scene.states.cell id = some state) {shares : PropertiesId}
    (pending : state.pending = some shares) {owner : Properties} (found : scene.properties.cell shares = some owner) :
    Delivers fatal (pendingProps scene id) fun result => result = (shares, owner) :=
  .read present (.read pending (.read found (.pure rfl)))

theorem informs_of_finished {info other : InfoId} {who : StateId}
    (now : Informs { scene with informations := scene.informations.free info } other who) :
    other ≠ info ∧ Informs scene other who := by
  obtain ⟨sent, there⟩ := now
  refine ⟨?_, sent, scene.informations.old_of_free there⟩
  rintro rfl
  cases (Heap.cell_free_self _ _).symm.trans there

theorem Sound.idle_of_finished (sound : Sound scene) {info : InfoId} (informs : Informs scene info id) :
    Idle { scene with informations := scene.informations.free info } id := by
  refine ⟨fun description now => sound.exchanging.exclusive description info id now informs, ?_⟩
  intro other now
  obtain ⟨elsewhere, also⟩ := informs_of_finished now
  obtain ⟨one, _, here, _, request⟩ := sound.exchanging.informing info id informs
  obtain ⟨same, _, there, _, otherwise⟩ := sound.exchanging.informing other id also
  cases here.symm.trans there
  exact elsewhere (Option.some.inj (otherwise.symm.trans request))

theorem imageDescInfoHandleDone_delivers (sound : Sound scene) {info : InfoId} (informs : Informs scene info id)
    (present : scene.states.cell id = some state)
    (passes : Halt.assertion = fatal → state.dirty = true → state.infoRequest = none) :
    Delivers fatal (imageDescInfoHandleDone scene info) fun next =>
      Sound next ∧ Concluded { scene with informations := scene.informations.free info } next id state := by
  have idle := sound.idle_of_finished informs
  obtain ⟨sent, found⟩ := informs
  refine .read found ?_
  have freed : Sound { scene with informations := scene.informations.free info } :=
    ⟨⟨sound.held.shared, sound.held.pendings, sound.held.committeds, sound.held.kept⟩,
      ⟨sound.exchanging.listening,
        fun other who now => sound.exchanging.informing other who (informs_of_finished now).2,
        fun description other who now also =>
          sound.exchanging.exclusive description other who now (informs_of_finished also).2⟩,
      sound.backed⟩
  exact commitPending_delivers freed present idle passes

/-- The new state of a scene in which some information arrived. -/
def received (scene : ColorScene) (info : InfoId) (shares : PropertiesId) (event : InfoEvent) : ColorScene :=
  { scene.setProps shares event.write with
    informations := scene.informations.modify info fun record => { record with sent := event.kind :: record.sent } }

theorem imageDescInfoHandle_delivers (sound : Sound scene) {info : InfoId} {sent : List InfoKind}
    (found : scene.informations.cell info = some ⟨id, sent⟩) (present : scene.states.cell id = some state)
    {shares : PropertiesId} (pending : state.pending = some shares) {owner : Properties}
    (there : scene.properties.cell shares = some owner) (event : InfoEvent)
    (passes : Halt.assertion = fatal → event.kind = .iccFile → owner.iccProfile = -1) :
    Delivers fatal (imageDescInfoHandle scene info event) fun next =>
      Sound next ∧ next = received scene info shares event := by
  refine .read found (Delivers.bind (pendingProps_delivers present pending there) ?_)
  rintro _ rfl
  refine .test (fun same => ?_) fun _ => .pure ⟨?_, rfl⟩
  · by_cases icc : event.kind = .iccFile
    · rw [passes same icc, beq_self_eq_true, Bool.or_true]
    · rw [bne_iff_ne.mpr icc, Bool.true_or]
  have description (record : Properties) : (event.write record).description = record.description := by
    cases event <;> rfl
  have references (record : Properties) : (event.write record).referenceCount = record.referenceCount := by
    cases event <;> rfl
  have before {other : InfoId} {who : StateId} (now : Informs
      { scene with
        informations := scene.informations.modify info fun record => { record with sent := event.kind :: record.sent } }
      other who) : Informs scene other who := by
    obtain ⟨sent, placed⟩ := now
    obtain ⟨⟨listener, earlier⟩, before, ⟨_, changed⟩ | ⟨_, same⟩⟩ := scene.informations.old_of_modify placed
    · cases congrArg Information.listener changed
      exact ⟨earlier, before⟩
    · cases same
      exact ⟨sent, before⟩
  refine ⟨⟨sound.held.shared.modify_properties shares description references, sound.held.pendings,
    sound.held.committeds, sound.held.kept⟩, Exchanging.setProps ?_ shares description, sound.backed⟩
  exact ⟨sound.exchanging.listening, fun other who now => sound.exchanging.informing other who (before now),
    fun description other who now also => sound.exchanging.exclusive description other who now (before also)⟩

/-- The failure of a description is written to the pending properties. -/
def failing (scene : ColorScene) (shares : PropertiesId) (cause : UInt32) (msg : String) : ColorScene :=
  scene.setProps shares fun record =>
    { record with failed := true, failureCause := cause, failureReason := some msg }

theorem imageDescHandleFailed_delivers (sound : Sound scene) (idle : Idle scene id)
    (present : scene.states.cell id = some state) {shares : PropertiesId} (pending : state.pending = some shares)
    {owner : Properties} (found : scene.properties.cell shares = some owner) (cause : UInt32) (msg : String)
    (passes : Halt.assertion = fatal →
      owner.failureReason = none ∧ (state.dirty = true → state.infoRequest = none)) :
    Delivers fatal (imageDescHandleFailed scene id cause msg) fun next =>
      Sound next ∧ Concluded (failing scene shares cause msg) next id state := by
  refine Delivers.bind (pendingProps_delivers present pending found) ?_
  rintro _ rfl
  refine .test (fun same => ?_) fun _ => ?_
  · rw [(passes same).1]
    rfl
  · have written : Sound (failing scene shares cause msg) :=
      ⟨⟨sound.held.shared.modify_properties shares (fun _ => rfl) fun _ => rfl, sound.held.pendings,
        sound.held.committeds, sound.held.kept⟩, sound.exchanging.setProps shares fun _ => rfl, sound.backed⟩
    exact commitPending_delivers written present ⟨idle.answered, idle.informed⟩ fun same => (passes same).2

/-- The new state of a scene in which a description is ready and its information is requested. -/
def readied (scene : ColorScene) (id : StateId) (shares : PropertiesId) (identity : Identity) : ColorScene :=
  { (scene.setProps shares identity.write).setState id fun state =>
      { state with infoRequest := some scene.informations.next } with
    informations := scene.informations.alloc ⟨id, []⟩ }

theorem imageDescHandleReady_delivers (sound : Sound scene) (idle : Idle scene id)
    (present : scene.states.cell id = some state) {shares : PropertiesId} (pending : state.pending = some shares)
    {owner : Properties} (found : scene.properties.cell shares = some owner) {description : UpstreamDesc}
    (owns : owner.description = some description) (identity : Identity)
    (passes : Halt.assertion = fatal → state.infoRequest = none) :
    Delivers fatal (imageDescHandleReady scene id description identity) fun next =>
      Sound next ∧ next = readied scene id shares identity := by
  refine Delivers.bind (pendingProps_delivers present pending found) ?_
  rintro _ rfl
  refine .test (fun _ => ?_) fun _ => .read present (.test (fun same => ?_) fun info => .pure ⟨?_, rfl⟩)
  · rw [owns, beq_self_eq_true]
  · rw [passes same]
    rfl
  · have descriptions (record : Properties) : (identity.write record).description = record.description := by
      cases identity <;> rfl
    have references (record : Properties) : (identity.write record).referenceCount = record.referenceCount := by
      cases identity <;> rfl
    have holds (other : PropertiesId) : heldBy (scene.states.modify id fun state =>
        { state with infoRequest := some scene.informations.next }) other = heldBy scene.states other := by
      have changed := heldBy_modify scene.states present
        (fun state => { state with infoRequest := some scene.informations.next }) other
      dsimp only at changed
      omega
    have written := sound.exchanging.setProps shares descriptions
    refine ⟨⟨(sound.held.shared.modify_properties shares descriptions references).congr holds, sound.held.pendings,
      sound.held.committeds, sound.held.kept⟩, ⟨?_, ?_, ?_⟩, sound.backed⟩
    · intro other who now
      have elsewhere : who ≠ id := by
        rintro rfl
        exact idle.answered other now
      obtain ⟨old, named, there, waits, rest⟩ := written.listening other who now
      exact ⟨old, named, (scene.states.cell_modify_other _ elsewhere).trans there, waits, rest⟩
    · rintro other who ⟨sent, now⟩
      by_cases here : other = scene.informations.next
      · subst here
        cases (Heap.cell_alloc_next _ _).symm.trans now
        exact ⟨_, shares, (Heap.cell_modify_self _ _ _).trans (congrArg _ present), pending, rfl⟩
      · have old : Informs scene other who := ⟨sent, (if_neg here).symm.trans now⟩
        have elsewhere : who ≠ id := by
          rintro rfl
          exact idle.informed other old
        obtain ⟨one, named, there, rest⟩ := sound.exchanging.informing other who old
        exact ⟨one, named, (scene.states.cell_modify_other _ elsewhere).trans there, rest⟩
    · rintro other info who now ⟨sent, also⟩
      by_cases here : info = scene.informations.next
      · subst here
        cases (Heap.cell_alloc_next _ _).symm.trans also
        exact idle.answered other now
      · exact sound.exchanging.exclusive other info who now ⟨sent, (if_neg here).symm.trans also⟩

theorem handleChanged_delivers (sound : Sound scene) (present : scene.states.cell id = some state)
    (own : state.surface = false) (passes : Halt.assertion = fatal → state.pending = none → state.infoRequest = none) :
    Delivers fatal (handleChanged scene id) fun next => Sound next ∧
      next = if state.pending.isSome then scene.setState id fun state => { state with dirty := true }
        else requested scene id := by
  refine .read present ?_
  rw [own, if_neg (by decide)]
  split
  · refine .pure ⟨?_, rfl⟩
    have holds (shares : PropertiesId) :
        heldBy (scene.states.modify id fun state => { state with dirty := true }) shares = heldBy scene.states shares := by
      have changed := heldBy_modify scene.states present (fun state => { state with dirty := true }) shares
      dsimp only at changed
      omega
    exact ⟨⟨sound.held.shared.congr holds, sound.held.pendings, sound.held.committeds, sound.held.kept⟩,
      sound.exchanging.mark id (fun _ => rfl) fun _ => rfl, sound.backed⟩
  · rename_i rests
    rw [Bool.not_eq_true, Option.isSome_eq_false_iff, Option.isNone_iff_eq_none] at rests
    refine (requestNewImageDesc_delivers present fun same => ⟨rests, passes same rests⟩).weaken ?_
    rintro _ ⟨_, _, rfl⟩
    exact ⟨sound.requested present rests, rfl⟩

end Handlers

theorem Sound.setupDescriptionState {scene : ColorScene} (sound : Sound scene) (surface : Bool) :
    Sound (setupDescriptionState scene surface) := by
  have idle : Idle scene scene.states.next := sound.exchanging.idle fun state present => by
    cases (Heap.cell_next _).symm.trans present
  refine sound.await idle (Heap.cell_alloc_next _ _) rfl (fun other elsewhere => if_neg elsewhere) fun shares => ?_
  have nothing : (none == some shares).toNat = 0 := rfl
  unfold heldBy
  rw [Heap.count_alloc, Heap.count_alloc]
  dsimp only
  omega

theorem not_found_empty {Record : Type} {id : Nat} {record : Record}
    (found : (Heap.empty : Heap Record).cell id = some record) : False := by
  cases found

theorem empty_sound : Sound .empty := by
  refine ⟨⟨⟨?_, ?_, ?_, fun _ => rfl, fun _ => rfl, ?_⟩, fun _ _ => rfl, fun _ _ => rfl, ?_⟩, ⟨?_, ?_, ?_⟩, ?_⟩
  · exact fun _ _ found => (not_found_empty found).elim
  · exact fun _ _ found => (not_found_empty found).elim
  · exact fun _ _ found => (not_found_empty found).elim
  · exact fun _ _ found => (not_found_empty found).elim
  · exact fun _ _ found => (not_found_empty found).elim
  · exact fun _ _ found => (not_found_empty found).elim
  · exact fun _ _ now => now.elim fun _ found => (not_found_empty found).elim
  · exact fun _ _ _ found => (not_found_empty found).elim
  · exact fun _ _ found => (not_found_empty found).elim

theorem colorStart_sound : Sound colorStart := empty_sound.setupDescriptionState false

end SwaylockPlugin.Color
