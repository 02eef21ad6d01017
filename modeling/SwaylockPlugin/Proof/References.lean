import SwaylockPlugin.Proof.Exchanges

namespace SwaylockPlugin.Color

open Library

theorem pendingOf_modify (surfaces : Heap ForwardColor) {id : SurfaceId} {surface : ForwardColor}
    (present : surfaces.cell id = some surface) (change : ForwardColor → ForwardColor) :
    pendingOf (surfaces.modify id change) = Function.update (pendingOf surfaces) id (change surface).pendingDesc := by
  funext other
  unfold pendingOf
  by_cases here : other = id
  · subst here
    rw [Heap.cell_modify_self, present, Function.update_self]
    rfl
  · rw [Heap.cell_modify_other _ _ here, Function.update_of_ne here]

theorem committedOf_modify (surfaces : Heap ForwardColor) {id : SurfaceId} {surface : ForwardColor}
    (present : surfaces.cell id = some surface) (change : ForwardColor → ForwardColor) :
    committedOf (surfaces.modify id change) =
      Function.update (committedOf surfaces) id (change surface).committedDesc := by
  funext other
  unfold committedOf
  by_cases here : other = id
  · subst here
    rw [Heap.cell_modify_self, present, Function.update_self]
    rfl
  · rw [Heap.cell_modify_other _ _ here, Function.update_of_ne here]

theorem pendingOf_free (surfaces : Heap ForwardColor) (id : SurfaceId) :
    pendingOf (surfaces.free id) = Function.update (pendingOf surfaces) id none := by
  funext other
  unfold pendingOf
  by_cases here : other = id
  · subst here
    rw [Heap.cell_free_self, Function.update_self]
    rfl
  · rw [Heap.cell_free_other _ here, Function.update_of_ne here]

theorem committedOf_free (surfaces : Heap ForwardColor) (id : SurfaceId) :
    committedOf (surfaces.free id) = Function.update (committedOf surfaces) id none := by
  funext other
  unfold committedOf
  by_cases here : other = id
  · subst here
    rw [Heap.cell_free_self, Function.update_self]
    rfl
  · rw [Heap.cell_free_other _ here, Function.update_of_ne here]

theorem pendingOf_same (surfaces : Heap ForwardColor) (target : SurfaceId) {change : ForwardColor → ForwardColor}
    (same : ∀ surface, (change surface).pendingDesc = surface.pendingDesc) :
    pendingOf (surfaces.modify target change) = pendingOf surfaces := by
  funext id
  unfold pendingOf
  rw [Heap.cell_modify]
  split
  · cases surfaces.cell id with
    | none => rfl
    | some surface => exact same surface
  · rfl

theorem committedOf_same (surfaces : Heap ForwardColor) (target : SurfaceId) {change : ForwardColor → ForwardColor}
    (same : ∀ surface, (change surface).committedDesc = surface.committedDesc) :
    committedOf (surfaces.modify target change) = committedOf surfaces := by
  funext id
  unfold committedOf
  rw [Heap.cell_modify]
  split
  · cases surfaces.cell id with
    | none => rfl
    | some surface => exact same surface
  · rfl

theorem Backed.modify {surfaces : Heap ForwardColor} {colorSurfaces : Heap (Option SurfaceId)}
    (backed : Backed surfaces colorSurfaces) (target : SurfaceId) {change : ForwardColor → ForwardColor}
    (same : ∀ surface, (change surface).colorSurface = surface.colorSurface) :
    Backed (surfaces.modify target change) colorSurfaces := by
  intro id surface present resource named
  obtain ⟨old, found, ⟨_, rfl⟩ | ⟨_, rfl⟩⟩ := surfaces.old_of_modify present
  · exact backed id old found resource ((same old).symm.trans named)
  · exact backed id surface found resource named

section Plugins

variable {fatal : Halt} {scene : ColorScene}

/-- A scene that is tended stays sound with its description states spared. -/
structure Tends (scene next : ColorScene) : Prop where
  sound : Sound next
  spares : Spares scene next

theorem Sound.tends (sound : Sound scene) {next : ColorScene} (spares : Spares scene next)
    (held : Held next (pendingOf next.surfaces) (committedOf next.surfaces) (heldBy scene.states))
    (backed : Backed next.surfaces next.colorSurfaces) : Tends scene next :=
  ⟨⟨spares.states ▸ held, sound.exchanging.spares spares, backed⟩, spares⟩

theorem Tends.trans {first second third : ColorScene} (before : Tends first second) (after : Tends second third) :
    Tends first third :=
  ⟨after.sound, before.spares.trans after.spares⟩

theorem Sound.setSurfaces (sound : Sound scene) {surfaces : Heap ForwardColor} {colorSurfaces : Heap (Option SurfaceId)}
    (pending : pendingOf surfaces = pendingOf scene.surfaces)
    (committed : committedOf surfaces = committedOf scene.surfaces) (backed : Backed surfaces colorSurfaces) :
    Tends scene { scene with surfaces := surfaces, colorSurfaces := colorSurfaces } := by
  refine sound.tends (Spares.rfl.elsewhere _ _ _) ?_ backed
  change Held _ (pendingOf surfaces) (committedOf surfaces) _
  rw [pending, committed]
  exact ⟨sound.held.shared, sound.held.pendings, sound.held.committeds, sound.held.kept⟩

theorem Sound.createForwardImageDesc (sound : Sound scene) : Tends scene (createForwardImageDesc scene) := by
  have listens {description : UpstreamDesc} {id : StateId} (now : Listens (Color.createForwardImageDesc scene) description id) :
      Listens scene description id := by
    by_cases here : description = scene.descriptions.next
    · subst here
      cases (Heap.cell_alloc_next _ _).symm.trans now
    · exact (if_neg here).symm.trans now
  refine sound.tends ⟨rfl, rfl, Nat.le_succ _, fun _ _ => listens, fun _ record found => ⟨record, found, rfl⟩⟩
    ⟨sound.held.shared.create _ rfl rfl, sound.held.pendings.alloc rfl, sound.held.committeds.alloc rfl, ?_⟩ sound.backed
  intro id record found
  by_cases here : id = scene.descs.next
  · subst here
    cases (Heap.cell_alloc_next _ _).symm.trans found
    rfl
  · exact sound.held.kept id record ((if_neg here).symm.trans found)

theorem createOutputImageDesc_delivers {id : StateId} {state : ImageDescriptionState} (sound : Sound scene)
    (present : scene.states.cell id = some state) {current : PropertiesId} (named : state.current = some current) :
    Delivers fatal (createOutputImageDesc scene id) (Tends scene) := by
  obtain ⟨owner, found⟩ := sound.current_present present named
  refine .read present (.read named (.read found (.pure ?_)))
  refine sound.tends ⟨rfl, rfl, Nat.le_refl _, fun _ _ now => now, ?_⟩
    ⟨sound.held.shared.share found rfl rfl, sound.held.pendings.alloc rfl, sound.held.committeds.alloc rfl, ?_⟩ sound.backed
  · intro other record there
    obtain ⟨old, before, ⟨_, rfl⟩ | ⟨_, rfl⟩⟩ := scene.properties.old_of_modify there
    · exact ⟨old, before, rfl⟩
    · exact ⟨record, before, rfl⟩
  · intro other record there
    by_cases here : other = scene.descs.next
    · subst here
      cases (Heap.cell_alloc_next _ _).symm.trans there
      rfl
    · exact sound.held.kept other record ((if_neg here).symm.trans there)

theorem Sound.setFeedbacks (sound : Sound scene) (colorFeedbacks : Heap SurfaceId) :
    Tends scene { scene with colorFeedbacks := colorFeedbacks } :=
  ⟨⟨⟨sound.held.shared, sound.held.pendings, sound.held.committeds, sound.held.kept⟩,
    ⟨sound.exchanging.listening, sound.exchanging.informing, sound.exchanging.exclusive⟩, sound.backed⟩,
    ⟨rfl, rfl, Nat.le_refl _, fun _ _ now => now, fun _ record found => ⟨record, found, rfl⟩⟩⟩

theorem nestedColorOutputGetImageDescription_delivers {id : StateId} {state : ImageDescriptionState} (sound : Sound scene)
    (present : scene.states.cell id = some state) :
    Delivers .invalidPointer (nestedColorOutputGetImageDescription scene id) (Tends scene) := by
  refine .read present (.check (by decide) fun has => ?_)
  obtain ⟨current, named⟩ := Option.isSome_iff_exists.mp has
  exact createOutputImageDesc_delivers sound present named

/-- The default surface is preferred where the surface has no output or its output's properties cannot be used. -/
def PrefersDefault (scene : ColorScene) (parametric : Bool) (output : Option StateId) : Prop :=
  ∀ id, output = some id → ∃ state current record, scene.states.cell id = some state ∧ state.current = some current ∧
    scene.properties.cell current = some record ∧ (record.failed = true ∨ parametric = true ∧ record.iccProfile ≠ -1)

/-- The default surface has no description yet. -/
def Undescribed (scene : ColorScene) : Prop :=
  ∀ state, scene.states.cell descSurface = some state → state.current = none

theorem preferredState_delivers (sound : Sound scene) {output : Option StateId} (parametric : Bool)
    (outputs : output.all scene.isOutput = true) :
    Delivers .invalidPointer (preferredState scene parametric output) fun id =>
      id = descSurface ∧ PrefersDefault scene parametric output ∨
        ∃ state current, scene.states.cell id = some state ∧ state.current = some current := by
  cases output with
  | none => exact .pure (.inl ⟨rfl, nofun⟩)
  | some id =>
      obtain ⟨state, present, _⟩ := (Option.any_eq_true _ _).mp outputs
      refine .read present (.seek (by decide) fun current named => ?_)
      obtain ⟨record, found⟩ := sound.current_present present named
      refine .read found ?_
      split
      · rename_i unfit
        rw [Bool.or_eq_true, Bool.and_eq_true, bne_iff_ne] at unfit
        refine .pure (.inl ⟨rfl, ?_⟩)
        rintro _ ⟨⟩
        exact ⟨state, current, record, present, named, found, unfit⟩
      · exact .pure (.inr ⟨state, current, present, named⟩)

theorem nestedColorFeedbackGetPreferred_delivers (sound : Sound scene) {resource : ResourceId} {surface : SurfaceId}
    (found : scene.colorFeedbacks.cell resource = some surface) (live : scene.surfaces.live surface = true)
    {output : Option StateId} (outputs : output.all scene.isOutput = true) (parametric : Bool)
    (described : PrefersDefault scene parametric output → ¬ Undescribed scene) :
    Delivers .invalidPointer (nestedColorFeedbackGetPreferred scene resource output parametric) (Tends scene) := by
  obtain ⟨record, present⟩ := Option.isSome_iff_exists.mp live
  have reads : Delivers Halt.invalidPointer (feedbackSurface scene resource) fun _ => True :=
    .read found (.read present (.pure trivial))
  refine reads.bind fun _ _ => (preferredState_delivers sound parametric outputs).bind fun id chosen => ?_
  rcases chosen with ⟨rfl, prefers⟩ | ⟨state, current, placed, named⟩
  · have has := described prefers
    unfold Undescribed at has
    push Not at has
    obtain ⟨state, placed, some_⟩ := has
    obtain ⟨current, named⟩ := Option.ne_none_iff_exists'.mp some_
    exact createOutputImageDesc_delivers sound placed named
  · exact createOutputImageDesc_delivers sound placed named

theorem imageDescHandleResourceDestroy_delivers (sound : Sound scene) {id : DescId} {record : ForwardDesc}
    (present : scene.descs.cell id = some record) :
    Delivers fatal (imageDescHandleResourceDestroy scene id) (Tends scene) := by
  refine .read present (Delivers.weaken (deleteImageDescIfUnreferenced_delivers
    ((Heap.cell_modify_self _ _ _).trans (congrArg _ present))
    (sound.held.shared.modify_desc id (fun _ => rfl) fun _ => rfl) (sound.held.pendings.modify id fun _ => rfl)
    (sound.held.committeds.modify id fun _ => rfl) ?_) ?_)
  · intro other here record there
    exact sound.held.kept other record ((Heap.cell_modify_other _ _ here).symm.trans there)
  · rintro next ⟨held, trims⟩
    refine sound.tends ?_ ?_ ?_
    · exact ⟨trims.spares.informations, trims.spares.states, trims.spares.later, trims.spares.listens, trims.spares.properties⟩
    · rw [trims.surfaces]
      exact held
    · rw [trims.surfaces, trims.colorSurfaces]
      exact sound.backed

theorem nestedColorSurfaceSetImageDesc_delivers (sound : Sound scene) {id : SurfaceId} {surface : ForwardColor}
    (present : scene.surfaces.cell id = some surface) {desc : DescId} {record : ForwardDesc}
    (found : scene.descs.cell desc = some record) (has : record.resource = true) (intent : UInt32) :
    Delivers fatal (nestedColorSurfaceSetImageDesc scene desc intent (some id)) (Tends scene) := by
  have names : pendingOf scene.surfaces id = surface.pendingDesc := congrArg (Option.bind · _) present
  refine .read present ((dropPendingDesc_delivers sound.held names).bind ?_)
  rintro middle ⟨held, trims⟩
  obtain ⟨new, placed, _⟩ := trims.descs desc record found has
  refine .read placed (.pure (sound.tends ?_ ?_ ?_))
  · exact trims.spares.elsewhere _ _ _
  · change Held _ (pendingOf (middle.surfaces.modify id _)) (committedOf (middle.surfaces.modify id _)) _
    have added : Linked (middle.descs.modify desc fun record =>
        { record with pendingSurfaces := id :: record.pendingSurfaces }) ForwardDesc.pendingSurfaces
        (Function.update (Function.update (pendingOf scene.surfaces) id none) id (some desc)) :=
      held.pendings.add (by rw [Function.update_self]) placed fun _ => rfl
    rw [Function.update_idem] at added
    rw [trims.surfaces, pendingOf_modify _ present, committedOf_same]
    · refine ⟨held.shared.modify_desc desc (fun _ => rfl) fun _ => rfl, added,
        held.committeds.modify desc fun _ => rfl, middle.descs.every_modify desc _ (fun record _ _ => ?_) held.kept⟩
      simp [ForwardDesc.referenced]
    · exact fun _ => rfl
  · change Backed (middle.surfaces.modify id _) middle.colorSurfaces
    rw [trims.surfaces, trims.colorSurfaces]
    exact sound.backed.modify id fun _ => rfl

theorem nestedColorSurfaceUnsetImageDesc_delivers (sound : Sound scene) {id : SurfaceId} {surface : ForwardColor}
    (present : scene.surfaces.cell id = some surface) :
    Delivers fatal (nestedColorSurfaceUnsetImageDesc scene (some id)) fun next =>
      Tends scene next ∧ next.colorSurfaces = scene.colorSurfaces ∧ ∃ new, next.surfaces.cell id = some new ∧
        new.colorSurface = surface.colorSurface := by
  have names : pendingOf scene.surfaces id = surface.pendingDesc := congrArg (Option.bind · _) present
  refine .read present ((dropPendingDesc_delivers sound.held names).bind ?_)
  rintro middle ⟨held, trims⟩
  refine .pure ⟨sound.tends ?_ ?_ ?_, trims.colorSurfaces, { surface with pendingIntent := 0, pendingDesc := none }, ?_, rfl⟩
  · exact trims.spares.elsewhere _ _ _
  · change Held _ (pendingOf (middle.surfaces.modify id _)) (committedOf (middle.surfaces.modify id _)) _
    rw [trims.surfaces, pendingOf_modify _ present, committedOf_same]
    · exact ⟨held.shared, held.pendings, held.committeds, held.kept⟩
    · exact fun _ => rfl
  · change Backed (middle.surfaces.modify id _) middle.colorSurfaces
    rw [trims.surfaces, trims.colorSurfaces]
    exact sound.backed.modify id fun _ => rfl
  · change (middle.surfaces.modify id _).cell id = _
    rw [trims.surfaces, Heap.cell_modify_self, present]
    rfl

theorem Sound.createSurface (sound : Sound scene) :
    Tends scene { scene with surfaces := scene.surfaces.alloc .allocated } := by
  have pendings : pendingOf (scene.surfaces.alloc .allocated) = pendingOf scene.surfaces := by
    funext id
    unfold pendingOf
    rw [Heap.cell_alloc]
    split
    · rename_i here
      rw [here, Heap.cell_next]
      rfl
    · rfl
  have committeds : committedOf (scene.surfaces.alloc .allocated) = committedOf scene.surfaces := by
    funext id
    unfold committedOf
    rw [Heap.cell_alloc]
    split
    · rename_i here
      rw [here, Heap.cell_next]
      rfl
    · rfl
  refine sound.setSurfaces pendings committeds ?_
  intro id surface present resource named
  by_cases here : id = scene.surfaces.next
  · subst here
    cases (Heap.cell_alloc_next _ _).symm.trans present
    cases named
  · exact sound.backed id surface ((if_neg here).symm.trans present) resource named

theorem nestedColorGetSurface_delivers (sound : Sound scene) {id : SurfaceId} {surface : ForwardColor}
    (present : scene.surfaces.cell id = some surface) : Delivers fatal (nestedColorGetSurface scene id) (Tends scene) := by
  refine .read present (.pure (sound.setSurfaces (pendingOf_same _ _ ?_) (committedOf_same _ _ ?_) ?_))
  · exact fun _ => rfl
  · exact fun _ => rfl
  intro other record found resource named
  obtain ⟨old, there, ⟨here, rfl⟩ | ⟨_, rfl⟩⟩ := scene.surfaces.old_of_modify found
  · subst here
    cases named
    exact Heap.cell_alloc_next _ _
  · exact Heap.cell_alloc_of_live _ _ (sound.backed other record there resource named)

theorem colorSurfaceHandleResourceDestroy_delivers (sound : Sound scene) {resource : ResourceId}
    {user : Option SurfaceId} (found : scene.colorSurfaces.cell resource = some user)
    (fresh : ∀ id, user = some id → scene.surfaces.live id = true) :
    Delivers .invalidPointer (colorSurfaceHandleResourceDestroy scene resource) (Tends scene) := by
  refine .read found ?_
  cases user with
  | none =>
      refine .pure (sound.setSurfaces rfl rfl ?_)
      intro id surface present other named
      have still := sound.backed id surface present other named
      have elsewhere : other ≠ resource := by
        rintro rfl
        cases found.symm.trans still
      exact (Heap.cell_free_other _ elsewhere).trans still
  | some id =>
      obtain ⟨surface, present⟩ := Option.isSome_iff_exists.mp (fresh id rfl)
      have cleared : Delivers Halt.invalidPointer (clearColorSurface scene resource (some id)) fun next =>
          next = scene.setForward id fun surface => { surface with colorSurface := none } :=
        .read present (.check (by decide) fun _ => .pure rfl)
      refine cleared.bind ?_
      rintro _ rfl
      refine .pure (sound.setSurfaces (pendingOf_same _ _ ?_) (committedOf_same _ _ ?_) ?_)
      · exact fun _ => rfl
      · exact fun _ => rfl
      intro other record there named again
      obtain ⟨old, before, ⟨_, rfl⟩ | ⟨elsewhere, rfl⟩⟩ := scene.surfaces.old_of_modify there
      · cases again
      · have still := sound.backed other record before named again
        have apart : named ≠ resource := by
          rintro rfl
          cases found.symm.trans still
          exact elsewhere rfl
        exact (Heap.cell_free_other _ apart).trans still

theorem nestedColorSurfaceDestroy_delivers (sound : Sound scene) {resource : ResourceId} {user : Option SurfaceId}
    (found : scene.colorSurfaces.cell resource = some user)
    (fresh : ∀ id, user = some id → scene.surfaces.live id = true) :
    Delivers .invalidPointer (nestedColorSurfaceDestroy scene resource) (Tends scene) := by
  refine .read found ?_
  cases user with
  | none => exact colorSurfaceHandleResourceDestroy_delivers sound found fun _ same => nomatch same
  | some id =>
      obtain ⟨surface, present⟩ := Option.isSome_iff_exists.mp (fresh id rfl)
      refine (nestedColorSurfaceUnsetImageDesc_delivers sound present).bind ?_
      rintro middle ⟨after, same, new, placed, _⟩
      refine (colorSurfaceHandleResourceDestroy_delivers after.sound
        ((congrArg (Heap.cell · resource) same).trans found) ?_).weaken fun _ => after.trans
      rintro _ ⟨⟩
      exact congrArg Option.isSome placed

theorem wpColorManagementSurfaceV1SetImageDescription_delivers (sound : Sound scene) {id : SurfaceId}
    {surface : ForwardColor} (present : scene.surfaces.cell id = some surface) :
    Delivers fatal (wpColorManagementSurfaceV1SetImageDescription scene surface.pendingDesc) fun _ => True := by
  cases named : surface.pendingDesc with
  | none => exact .pure trivial
  | some desc =>
      have names : pendingOf scene.surfaces id = some desc := (congrArg (Option.bind · _) present).trans named
      obtain ⟨record, found, _⟩ := sound.held.pendings.present names
      obtain ⟨description, granted⟩ := Option.isSome_iff_exists.mp (sound.held.shared.granted desc record found)
      obtain ⟨upstream, live⟩ := Option.isSome_iff_exists.mp (sound.held.shared.live_of_desc found granted)
      exact .read found (.read granted (.read live (.pure trivial)))

theorem exchangeDesc_delivers (sound : Sound scene) {id : SurfaceId} {surface : ForwardColor}
    (present : scene.surfaces.cell id = some surface) : Delivers fatal (exchangeDesc scene id surface) (Tends scene) := by
  have names : committedOf scene.surfaces id = surface.committedDesc := congrArg (Option.bind · _) present
  unfold exchangeDesc
  split
  · refine (dropCommittedDesc_delivers sound.held names).bind ?_
    rintro middle ⟨held, trims⟩
    cases named : surface.pendingDesc with
    | none =>
        refine .pure (sound.tends ?_ ?_ ?_)
        · exact trims.spares.elsewhere _ _ _
        · change Held _ (pendingOf (middle.surfaces.modify id _)) (committedOf (middle.surfaces.modify id _)) _
          rw [trims.surfaces, committedOf_modify _ present, pendingOf_same]
          · exact ⟨held.shared, held.pendings, held.committeds, held.kept⟩
          · exact fun _ => rfl
        · change Backed (middle.surfaces.modify id _) middle.colorSurfaces
          rw [trims.surfaces, trims.colorSurfaces]
          exact sound.backed.modify id fun _ => rfl
    | some desc =>
        have wants : pendingOf scene.surfaces id = some desc := (congrArg (Option.bind · _) present).trans named
        obtain ⟨record, found, _⟩ := held.pendings.present wants
        have added : Linked (middle.descs.modify desc fun record =>
            { record with committedSurfaces := id :: record.committedSurfaces }) ForwardDesc.committedSurfaces
            (Function.update (Function.update (committedOf scene.surfaces) id none) id (some desc)) :=
          held.committeds.add (by rw [Function.update_self]) found fun _ => rfl
        rw [Function.update_idem] at added
        refine .read found (.pure (sound.tends ?_ ?_ ?_))
        · exact trims.spares.elsewhere _ _ _
        · change Held _ (pendingOf (middle.surfaces.modify id _)) (committedOf (middle.surfaces.modify id _)) _
          rw [trims.surfaces, committedOf_modify _ present, pendingOf_same]
          · refine ⟨held.shared.modify_desc desc (fun _ => rfl) fun _ => rfl, held.pendings.modify desc fun _ => rfl,
              added, middle.descs.every_modify desc _ (fun record _ _ => ?_) held.kept⟩
            simp [ForwardDesc.referenced]
          · exact fun _ => rfl
        · change Backed (middle.surfaces.modify id _) middle.colorSurfaces
          rw [trims.surfaces, trims.colorSurfaces]
          exact sound.backed.modify id fun _ => rfl
  · exact .pure ⟨sound, .rfl⟩

theorem applyImageDescription_delivers (sound : Sound scene) {id : SurfaceId} {surface : ForwardColor}
    (present : scene.surfaces.cell id = some surface) : Delivers fatal (applyImageDescription scene id) (Tends scene) := by
  refine .read present ?_
  split
  · refine (wpColorManagementSurfaceV1SetImageDescription_delivers sound present).bind fun _ _ => ?_
    refine (exchangeDesc_delivers sound present).bind fun next after => ?_
    refine .pure (after.trans (after.sound.setSurfaces (pendingOf_same _ _ ?_) (committedOf_same _ _ ?_)
      (after.sound.backed.modify id ?_)))
    · exact fun _ => rfl
    · exact fun _ => rfl
    · exact fun _ => rfl
  · exact .pure ⟨sound, .rfl⟩

theorem surfaceHandleResourceDestroy_delivers (sound : Sound scene) {id : SurfaceId} {surface : ForwardColor}
    (present : scene.surfaces.cell id = some surface) :
    Delivers fatal (surfaceHandleResourceDestroy scene id) (Tends scene) := by
  have pending : pendingOf scene.surfaces id = surface.pendingDesc := congrArg (Option.bind · _) present
  have committed : committedOf scene.surfaces id = surface.committedDesc := congrArg (Option.bind · _) present
  refine .read present ((dropPendingDesc_delivers sound.held pending).bind ?_)
  rintro first ⟨held, trims⟩
  refine (dropCommittedDesc_delivers held committed).bind ?_
  rintro second ⟨dropped, trimmed⟩
  have both := trims.trans trimmed
  have ends (colors : Heap (Option SurfaceId)) (backed : Backed (scene.surfaces.free id) colors) :
      Tends scene { second with colorSurfaces := colors, surfaces := second.surfaces.free id } := by
    refine sound.tends ?_ ?_ ?_
    · exact both.spares.elsewhere _ _ _
    · change Held _ (pendingOf (second.surfaces.free id)) (committedOf (second.surfaces.free id)) _
      rw [both.surfaces, pendingOf_free, committedOf_free]
      exact ⟨dropped.shared, dropped.pendings, dropped.committeds, dropped.kept⟩
    · change Backed (second.surfaces.free id) colors
      rw [both.surfaces]
      exact backed
  have others {other : SurfaceId} {record : ForwardColor}
      (there : (scene.surfaces.free id).cell other = some record) : other ≠ id := by
    rintro rfl
    cases (Heap.cell_free_self _ _).symm.trans there
  cases named : surface.colorSurface with
  | none =>
      refine .pure (ends second.colorSurfaces fun other record there resource has => ?_)
      rw [both.colorSurfaces]
      exact sound.backed other record (scene.surfaces.old_of_free there) resource has
  | some resource =>
      have user := sound.backed id surface present resource named
      rw [← both.colorSurfaces] at user
      have cleared : Delivers fatal (clearUserData second (some resource)) fun next =>
          next = { second with colorSurfaces := second.colorSurfaces.modify resource fun _ => none } :=
        .read user (.pure rfl)
      refine cleared.bind ?_
      rintro _ rfl
      refine .pure (ends _ fun other record there backing has => ?_)
      have still := sound.backed other record (scene.surfaces.old_of_free there) backing has
      rw [← both.colorSurfaces] at still
      have elsewhere : backing ≠ resource := by
        rintro rfl
        cases user.symm.trans still
        exact others there rfl
      exact (Heap.cell_modify_other _ _ elsewhere).trans still

end Plugins

/-- A nested resource, the pending or committed state of a surface, or a description state refers to an upstream
description. -/
inductive Refers (scene : ColorScene) (description : UpstreamDesc) : Prop
  | resource {id : DescId} {record : ForwardDesc} : scene.descs.cell id = some record → record.resource = true →
      record.description = some description → Refers scene description
  | pending {id : SurfaceId} {surface : ForwardColor} {desc : DescId} {record : ForwardDesc} :
      scene.surfaces.cell id = some surface → surface.pendingDesc = some desc → scene.descs.cell desc = some record →
      record.description = some description → Refers scene description
  | committed {id : SurfaceId} {surface : ForwardColor} {desc : DescId} {record : ForwardDesc} :
      scene.surfaces.cell id = some surface → surface.committedDesc = some desc → scene.descs.cell desc = some record →
      record.description = some description → Refers scene description
  | state {id : StateId} {state : ImageDescriptionState} {shares : PropertiesId} {record : Properties} :
      scene.states.cell id = some state → state.pending = some shares ∨ state.current = some shares →
      scene.properties.cell shares = some record → record.description = some description → Refers scene description

/-- An event strays where its listener has the wrong data, the surface of a color surface or of a surface feedback is gone,
or the default surface is preferred and has no description yet. -/
def Strays (scene : ColorScene) : ColorEvent → Prop
  | .changed id => ∃ state, scene.states.cell id = some state ∧ state.surface = true
  | .getPreferred resource output parametric => ∃ surface, scene.colorFeedbacks.cell resource = some surface ∧
      (scene.surfaces.cell surface = none ∨ PrefersDefault scene parametric output ∧ Undescribed scene)
  | .setImageDesc resource _ _ | .unsetImageDesc resource | .destroyColorSurface resource | .loseColorSurface resource =>
      ∃ id, scene.colorSurfaces.cell resource = some (some id) ∧ scene.surfaces.cell id = none
  | _ => False

namespace Sound

variable {scene : ColorScene}

theorem refers_of_desc (sound : Sound scene) {id : DescId} {record : ForwardDesc} (found : scene.descs.cell id = some record)
    {description : UpstreamDesc} (granted : record.description = some description) : Refers scene description := by
  have kept := sound.held.kept id record found
  unfold ForwardDesc.referenced at kept
  simp only [Bool.or_eq_true, Bool.not_eq_true', List.isEmpty_eq_false_iff_exists_mem] at kept
  obtain (resource | ⟨surface, listed⟩) | ⟨surface, listed⟩ := kept
  · exact .resource found resource granted
  · obtain ⟨record, present, named⟩ := Option.bind_eq_some_iff.mp (sound.held.committeds.names found listed)
    exact .committed present named found granted
  · obtain ⟨record, present, named⟩ := Option.bind_eq_some_iff.mp (sound.held.pendings.names found listed)
    exact .pending present named found granted

theorem live_iff_refers (sound : Sound scene) (description : UpstreamDesc) :
    scene.descriptions.live description = true ↔ Refers scene description := by
  have shared := sound.held.shared
  constructor
  · intro live
    have owned := shared.owned description
    rw [live, Bool.toNat_true] at owned
    unfold owners at owned
    obtain own | own : 0 < scene.properties.count (fun record => record.description == some description) ∨
        0 < scene.descs.count (fun record => record.properties.isNone && record.description == some description) := by
      omega
    · obtain ⟨shares, record, found, described⟩ := Heap.exists_of_count own
      have counted := shared.counted shares
      have positive := shared.positive shares record found
      rw [found, Option.elim_some] at counted
      unfold heldBy uses at counted
      obtain waits | shows_ | used : 0 < scene.states.count (fun state => state.pending == some shares) ∨
          0 < scene.states.count (fun state => state.current == some shares) ∨
          0 < scene.descs.count (fun record => record.properties == some shares) := by
        omega
      · obtain ⟨id, state, present, named⟩ := Heap.exists_of_count waits
        exact .state present (.inl (eq_of_beq named)) found (eq_of_beq described)
      · obtain ⟨id, state, present, named⟩ := Heap.exists_of_count shows_
        exact .state present (.inr (eq_of_beq named)) found (eq_of_beq described)
      · obtain ⟨id, desc, present, named⟩ := Heap.exists_of_count used
        obtain ⟨owner, there, same⟩ := shared.same id desc present shares (eq_of_beq named)
        cases found.symm.trans there
        exact sound.refers_of_desc present (same.symm.trans (eq_of_beq described))
    · obtain ⟨id, record, found, both⟩ := Heap.exists_of_count own
      exact sound.refers_of_desc found (eq_of_beq ((Bool.and_eq_true _ _).mp both).2)
  · intro refers
    cases refers with
    | resource found _ granted => exact shared.live_of_desc found granted
    | pending _ _ found granted => exact shared.live_of_desc found granted
    | committed _ _ found granted => exact shared.live_of_desc found granted
    | state _ _ found described => exact shared.live_of_properties found described

theorem counted (sound : Sound scene) {id : PropertiesId} {record : Properties}
    (found : scene.properties.cell id = some record) :
    record.referenceCount = heldBy scene.states id + uses scene.descs id := by
  have counted := sound.held.shared.counted id
  rw [found, Option.elim_some] at counted
  exact counted

end Sound

theorem preferredState_default {scene : ColorScene} {parametric : Bool} {output : Option StateId}
    (prefers : PrefersDefault scene parametric output) : preferredState scene parametric output = .ok descSurface := by
  cases output with
  | none => rfl
  | some id =>
      obtain ⟨state, current, record, present, named, found, unfit⟩ := prefers id rfl
      change (demand Halt.invalidPointer (scene.states.cell id) >>= _) = _
      rw [present]
      change (demand Halt.assertion state.current >>= _) = _
      rw [named]
      change (demand Halt.invalidPointer (scene.properties.cell current) >>= _) = _
      rw [found]
      change (if (record.failed || (parametric && record.iccProfile != -1)) = true then _ else _) = _
      rw [if_pos (by rw [Bool.or_eq_true, Bool.and_eq_true, bne_iff_ne]; exact unfit)]
      rfl

theorem handleColor_strays {scene : ColorScene} {event : ColorEvent} (strays : Strays scene event) :
    handleColor scene event = .error .invalidPointer := by
  cases event with
  | changed id =>
      obtain ⟨state, present, surface⟩ := strays
      change handleChanged scene id = _
      unfold handleChanged ColorScene.state
      rw [present]
      change (if state.surface = true then _ else _) = _
      rw [if_pos surface]
      rfl
  | getPreferred resource output parametric =>
      obtain ⟨surface, found, gone⟩ := strays
      change nestedColorFeedbackGetPreferred scene resource output parametric = _
      unfold nestedColorFeedbackGetPreferred feedbackSurface
      rw [found]
      change ((demand Halt.invalidPointer (scene.surfaces.cell surface) >>= _) >>= _) = _
      cases present : scene.surfaces.cell surface with
      | none => rfl
      | some record =>
          obtain ⟨prefers, undescribed⟩ := gone.resolve_left fun none_ => nomatch present.symm.trans none_
          change (preferredState scene parametric output >>= createOutputImageDesc scene) = _
          rw [preferredState_default prefers]
          change createOutputImageDesc scene descSurface = _
          unfold createOutputImageDesc ColorScene.state
          cases placed : scene.states.cell descSurface with
          | none => rfl
          | some state =>
              change (demand Halt.invalidPointer state.current >>= _) = _
              rw [undescribed state placed]
              rfl
  | setImageDesc resource desc intent =>
      obtain ⟨id, user, gone⟩ := strays
      change (demand Halt.invalidPointer (scene.colorSurfaces.cell resource) >>= _) = _
      rw [user]
      change (demand Halt.invalidPointer (scene.surfaces.cell id) >>= _) = _
      rw [gone]
      rfl
  | unsetImageDesc resource =>
      obtain ⟨id, user, gone⟩ := strays
      change (demand Halt.invalidPointer (scene.colorSurfaces.cell resource) >>= _) = _
      rw [user]
      change (demand Halt.invalidPointer (scene.surfaces.cell id) >>= _) = _
      rw [gone]
      rfl
  | destroyColorSurface resource =>
      obtain ⟨id, user, gone⟩ := strays
      change (demand Halt.invalidPointer (scene.colorSurfaces.cell resource) >>= _) = _
      rw [user]
      change ((demand Halt.invalidPointer (scene.surfaces.cell id) >>= _) >>= _) = _
      rw [gone]
      rfl
  | loseColorSurface resource =>
      obtain ⟨id, user, gone⟩ := strays
      change (demand Halt.invalidPointer (scene.colorSurfaces.cell resource) >>= _) = _
      rw [user]
      change ((demand Halt.invalidPointer (scene.surfaces.cell id) >>= _) >>= _) = _
      rw [gone]
      rfl
  | _ => exact strays.elim

theorem live_of_straight {scene : ColorScene} {resource : ResourceId} {user : Option SurfaceId}
    (found : scene.colorSurfaces.cell resource = some user)
    (straight : ¬ ∃ id, scene.colorSurfaces.cell resource = some (some id) ∧ scene.surfaces.cell id = none)
    (id : SurfaceId) (named : user = some id) : scene.surfaces.live id = true := by
  subst named
  by_contra gone
  exact straight ⟨id, found, Option.isNone_iff_eq_none.mp (Option.isSome_eq_false_iff.mp ((Bool.not_eq_true _).mp gone))⟩

/-- The listener of an unanswered description handles the answer, and a plugin's description only passes it on. -/
theorem answerWith_delivers {scene : ColorScene} {description : UpstreamDesc} {property : ColorScene → Prop}
    (waits : (scene.descriptions.cell description).any (fun record => !record.answered) = true)
    {handle : ColorScene → StateId → Handled ColorScene} {fatal : Halt}
    (passes : scene.descriptions.cell description = some ⟨none, false⟩ → property (answer scene description))
    (handles : ∀ id, Listens scene description id → Delivers fatal (handle (answer scene description) id) property) :
    Delivers fatal (answerWith scene description handle) property := by
  obtain ⟨⟨listener, answered⟩, present, unanswered⟩ := (Option.any_eq_true _ _).mp waits
  rw [Bool.not_eq_true'] at unanswered
  cases unanswered
  refine .read present ?_
  cases listener with
  | none => exact .pure (passes present)
  | some id => exact handles id present

theorem handleColor_tends {scene : ColorScene} {event : ColorEvent} (sound : Sound scene)
    (allowed : colorEnabled scene event = true) (straight : ¬ Strays scene event) (plugins : event.upstream = false) :
    Delivers .invalidPointer (handleColor scene event) (Tends scene) := by
  cases event with
  | createSurface => exact .pure sound.createSurface
  | createImageDesc => exact .pure sound.createForwardImageDesc
  | getColorSurface surface =>
      obtain ⟨record, present⟩ := Option.isSome_iff_exists.mp allowed
      exact nestedColorGetSurface_delivers sound present
  | getSurfaceFeedback surface => exact .pure (sound.setFeedbacks _)
  | destroyColorFeedback resource => exact .pure (sound.setFeedbacks _)
  | getImageDescription id =>
      obtain ⟨state, present, _⟩ := (Option.any_eq_true _ _).mp allowed
      exact nestedColorOutputGetImageDescription_delivers sound present
  | getPreferred resource output parametric =>
      obtain ⟨there, outputs⟩ := (Bool.and_eq_true _ _).mp allowed
      obtain ⟨surface, found⟩ := Option.isSome_iff_exists.mp there
      have live : scene.surfaces.live surface = true := by
        by_contra gone
        exact straight ⟨surface, found, .inl (Heap.not_live_iff.mp ((Bool.not_eq_true _).mp gone))⟩
      exact nestedColorFeedbackGetPreferred_delivers sound found live outputs parametric
        fun prefers undescribed => straight ⟨surface, found, .inr ⟨prefers, undescribed⟩⟩
  | setImageDesc resource desc intent =>
      obtain ⟨there, has⟩ := (Bool.and_eq_true _ _).mp allowed
      obtain ⟨user, found⟩ := Option.isSome_iff_exists.mp there
      obtain ⟨record, present, resource_⟩ := (Option.any_eq_true _ _).mp has
      refine .read found ?_
      cases user with
      | none => exact .pure ⟨sound, .rfl⟩
      | some id =>
          obtain ⟨surface, placed⟩ := Option.isSome_iff_exists.mp (live_of_straight found straight id rfl)
          exact nestedColorSurfaceSetImageDesc_delivers sound placed present resource_ intent
  | unsetImageDesc resource =>
      obtain ⟨user, found⟩ := Option.isSome_iff_exists.mp allowed
      refine .read found ?_
      cases user with
      | none => exact .pure ⟨sound, .rfl⟩
      | some id =>
          obtain ⟨surface, placed⟩ := Option.isSome_iff_exists.mp (live_of_straight found straight id rfl)
          exact (nestedColorSurfaceUnsetImageDesc_delivers sound placed).weaken fun _ after => after.1
  | commit surface =>
      obtain ⟨record, present⟩ := Option.isSome_iff_exists.mp allowed
      exact applyImageDescription_delivers sound present
  | destroyImageDesc desc =>
      obtain ⟨record, present, _⟩ := (Option.any_eq_true _ _).mp allowed
      exact imageDescHandleResourceDestroy_delivers sound present
  | destroyColorSurface resource =>
      obtain ⟨user, found⟩ := Option.isSome_iff_exists.mp allowed
      exact nestedColorSurfaceDestroy_delivers sound found (live_of_straight found straight)
  | loseColorSurface resource =>
      obtain ⟨user, found⟩ := Option.isSome_iff_exists.mp allowed
      exact colorSurfaceHandleResourceDestroy_delivers sound found (live_of_straight found straight)
  | destroySurface surface =>
      obtain ⟨record, present⟩ := Option.isSome_iff_exists.mp allowed
      exact surfaceHandleResourceDestroy_delivers sound present
  | _ => cases plugins

/-- An enabled event that does not stray leaves the scene sound and reads through no invalid pointer. -/
theorem handleColor_delivers {scene : ColorScene} {event : ColorEvent} (sound : Sound scene)
    (allowed : colorEnabled scene event = true) (straight : ¬ Strays scene event) :
    Delivers .invalidPointer (handleColor scene event) Sound := by
  have calm {condition : Prop} (same : Halt.assertion = Halt.invalidPointer) : condition := nomatch same
  cases event with
  | outputAdded => exact .pure (sound.setupDescriptionState true)
  | changed id =>
      obtain ⟨state, present⟩ := Option.isSome_iff_exists.mp allowed
      have own : state.surface = false := by
        by_contra other
        exact straight ⟨state, present, (Bool.not_eq_false _).mp other⟩
      exact (handleChanged_delivers sound present own calm).weaken fun _ after => after.1
  | failed description cause msg =>
      change Delivers _ (answerWith scene description fun scene id => imageDescHandleFailed scene id cause msg) Sound
      refine answerWith_delivers allowed (fun _ => sound.answer description) fun id listens => ?_
      obtain ⟨state, shares, present, pending, _⟩ := sound.exchanging.listening description id listens
      obtain ⟨owner, found⟩ := sound.pending_present present pending
      exact (imageDescHandleFailed_delivers (sound.answer description) (sound.idle_of_answer listens) present pending
        found cause msg calm).weaken fun _ after => after.1
  | ready description identity =>
      change Delivers _ (answerWith scene description fun scene id =>
        imageDescHandleReady scene id description identity) Sound
      refine answerWith_delivers allowed (fun _ => sound.answer description) fun id listens => ?_
      obtain ⟨state, shares, present, pending, owns⟩ := sound.exchanging.listening description id listens
      obtain ⟨owner, found⟩ := sound.pending_present present pending
      exact (imageDescHandleReady_delivers (sound.answer description) (sound.idle_of_answer listens) present pending
        found (owns owner found) identity calm).weaken fun _ after => after.1
  | information info event =>
      obtain ⟨⟨id, sent⟩, present, _⟩ := (Option.any_eq_true _ _).mp allowed
      obtain ⟨state, shares, placed, pending, _⟩ := sound.exchanging.informing info id ⟨sent, present⟩
      obtain ⟨owner, found⟩ := sound.pending_present placed pending
      exact (imageDescInfoHandle_delivers sound present placed pending found event calm).weaken fun _ after => after.1
  | done info =>
      obtain ⟨⟨id, sent⟩, found⟩ := Option.isSome_iff_exists.mp allowed
      obtain ⟨state, _, present, _⟩ := sound.exchanging.informing info id ⟨sent, found⟩
      exact (imageDescInfoHandleDone_delivers sound ⟨sent, found⟩ present calm).weaken fun _ after => after.1
  | _ => exact (handleColor_tends sound allowed straight rfl).weaken fun _ => Tends.sound

theorem sound_of_reachable {scene : ColorScene} (reachable : coloring.machine.Reachable scene) : Sound scene := by
  refine reachable.invariant Sound ?_ ?_
  · rintro _ rfl
    exact colorStart_sound
  · rintro scene event next sound ⟨allowed, succeeded⟩
    have straight : ¬ Strays scene event := fun strays => by
      cases (handleColor_strays strays).symm.trans succeeded
    exact (handleColor_delivers sound allowed straight).ensures next succeeded

/-- In every reachable scene an upstream description is live exactly as long as something refers to it, every properties
record counts its holders, and no description is destroyed twice or given to the upstream surface after it was destroyed:
only an event that strays reads through an invalid pointer. -/
theorem descriptions_referenced {scene : ColorScene} (reachable : coloring.machine.Reachable scene) :
    (∀ description, scene.descriptions.live description = true ↔ Refers scene description) ∧
    (∀ id record, scene.properties.cell id = some record →
      record.referenceCount = heldBy scene.states id + uses scene.descs id) ∧
    ∀ event, colorEnabled scene event = true →
      (handleColor scene event = .error .invalidPointer ↔ Strays scene event) := by
  have sound := sound_of_reachable reachable
  refine ⟨sound.live_iff_refers, fun _ _ found => sound.counted found, fun event allowed => ⟨fun failed => ?_,
    handleColor_strays⟩⟩
  by_contra straight
  exact (handleColor_delivers sound allowed straight).safe failed

/-- A plugin commits a description of its own, destroys its resource and commits the description of an output instead. -/
theorem descriptions_referenced_replaced : ∃ scene : ColorScene, scene.descriptions.live 2 = false ∧
    Refers scene 1 ∧ ∃ record, scene.properties.cell 1 = some record ∧ record.referenceCount = 2 := by
  obtain ⟨scene, reachable, passed⟩ := coloring.play_reachable
    [.outputAdded, .ready 1 (.v1 3), .done 0, .createSurface, .getColorSurface 0, .createImageDesc, .setImageDesc 0 0 1,
      .commit 0, .destroyImageDesc 0, .getImageDescription 1, .setImageDesc 0 1 1, .commit 0, .destroyImageDesc 1]
    (fun scene => scene.descriptions.live 1 && !scene.descriptions.live 2 && (scene.properties.cell 1).any fun record =>
      heldBy scene.states 1 + uses scene.descs 1 == 2)
    (rfl : coloring.initial colorStart) (by decide +kernel : (coloring.play _ _).any _ = true)
  simp only [Bool.and_eq_true, Bool.not_eq_true', Option.any_eq_true, beq_iff_eq] at passed
  obtain ⟨⟨live, gone⟩, record, found, holders⟩ := passed
  have accounts := descriptions_referenced reachable
  exact ⟨scene, gone, (accounts.1 1).mp live, record, found, (accounts.2.1 1 record found).trans holders⟩

end SwaylockPlugin.Color
