import SwaylockPlugin.Proof.Orphans
import SwaylockPlugin.Proof.References
import SwaylockPlugin.Construction.ColorStartup

namespace SwaylockPlugin.Color

open Library

/-- This is what the startup sees of a description state. -/
def outlook (description : ImageDescriptionState) : Bool × Bool := (description.surface, description.current.isSome)

/-- The description states stay as they are seen, and the one whose exchange ended has current properties. -/
def Advances (scene next : ColorScene) (ended : Option StateId) : Prop :=
  ∀ id, (next.states.cell id).map outlook =
    (scene.states.cell id).map fun description => (description.surface, description.current.isSome || ended == some id)

namespace Advances

variable {scene next : ColorScene} {id : StateId} {state : ImageDescriptionState}

theorem same (states : next.states = scene.states) : Advances scene next none := by
  intro who
  rw [states]
  have nothing (description : ImageDescriptionState) :
      outlook description = (description.surface, description.current.isSome || none == some who) := by
    rw [show (none == some who) = false from rfl, Bool.or_false]
    rfl
  exact congrArg (Option.map · _) (funext nothing)

theorem setState (change : ImageDescriptionState → ImageDescriptionState)
    (kept : ∀ description, outlook (change description) = outlook description)
    (states : next.states = scene.states.modify id change) : Advances scene next none := by
  intro who
  rw [← Advances.same rfl who, states]
  exact scene.states.view_modify id change outlook (fun description _ => kept description) who

theorem concluded {before : ColorScene} (concluded : Concluded before next id state)
    (same : before.states = scene.states) (present : scene.states.cell id = some state)
    (waits : state.pending.isSome = true) : Advances scene next (some id) := by
  obtain ⟨_, middle, spares, _, rfl⟩ := concluded
  have states : middle.states = scene.states := spares.states.trans same
  have seen (who : StateId) : ((committed middle id).states.cell who).map outlook =
      (scene.states.cell who).map fun description =>
        (description.surface, description.current.isSome || some id == some who) := by
    change ((middle.states.modify id _).cell who).map outlook = _
    rw [states]
    by_cases here : who = id
    · subst here
      rw [Heap.cell_modify_self, present]
      simp [outlook, waits]
    · rw [Heap.cell_modify_other _ _ here, beq_false_of_ne fun also => here (Option.some.inj also).symm]
      simp only [Bool.or_false]
      rfl
  intro who
  rw [← seen who]
  split
  · exact (committed middle id).states.view_modify id
      (fun state => { state with dirty := false, pending := some middle.properties.next }) outlook (fun _ _ => rfl) who
  · rfl

theorem before {ended : Option StateId} (advances : Advances scene next ended)
    (present : next.states.cell id = some state) : ∃ old, scene.states.cell id = some old ∧
      state.surface = old.surface ∧ (state.current.isSome = true ↔ old.current.isSome = true ∨ ended = some id) := by
  have seen := advances id
  rw [present, Option.map_some] at seen
  obtain ⟨old, there, same⟩ := Option.map_eq_some_iff.mp seen.symm
  have parts := Prod.mk.inj same
  refine ⟨old, there, parts.1.symm, ?_⟩
  rw [← parts.2, Bool.or_eq_true, beq_iff_eq]

theorem after {ended : Option StateId} (advances : Advances scene next ended)
    (present : scene.states.cell id = some state) :
    ∃ new, next.states.cell id = some new ∧ new.surface = state.surface := by
  have seen := advances id
  rw [present, Option.map_some] at seen
  obtain ⟨new, there, same⟩ := Option.map_eq_some_iff.mp seen
  exact ⟨new, there, (Prod.mk.inj same).1⟩

end Advances

/-- An event other than a new output keeps a scene sound and advances its description states by the exchange that it
ends. -/
theorem handleColor_advances {scene next : ColorScene} {event : ColorEvent} (sound : Sound scene)
    (allowed : colorEnabled scene event = true) (handled : handleColor scene event = .ok next)
    (other : event ≠ .outputAdded) : Advances scene next (event.ends scene) := by
  have straight : ¬ Strays scene event := fun strays => by
    cases (handleColor_strays strays).symm.trans handled
  have calm {condition : Prop} (same : Halt.assertion = Halt.invalidPointer) : condition := nomatch same
  cases event with
  | outputAdded => exact absurd rfl other
  | changed id =>
      obtain ⟨state, present⟩ := Option.isSome_iff_exists.mp allowed
      have own : state.surface = false := by
        by_contra surface
        exact straight ⟨state, present, (Bool.not_eq_false _).mp surface⟩
      obtain ⟨_, rfl⟩ := (handleChanged_delivers sound present own calm).ensures next handled
      split
      · exact .setState (fun state => { state with dirty := true }) (fun _ => rfl) rfl
      · exact .setState (fun state => { state with dirty := false, pending := some scene.properties.next })
          (fun _ => rfl) rfl
  | failed description cause msg =>
      have delivers : Delivers Halt.invalidPointer (answerWith scene description fun scene id =>
          imageDescHandleFailed scene id cause msg) fun next =>
            Advances scene next ((ColorEvent.failed description cause msg).ends scene) := by
        refine answerWith_delivers allowed (fun own => ?_) fun id listens => ?_
        · change Advances _ _ ((scene.descriptions.cell description).bind UpstreamDescription.listener)
          rw [own]
          exact .same rfl
        · change Delivers _ _ fun next =>
            Advances _ next ((scene.descriptions.cell description).bind UpstreamDescription.listener)
          rw [listens]
          obtain ⟨state, shares, present, pending, _⟩ := sound.exchanging.listening description id listens
          obtain ⟨owner, found⟩ := sound.pending_present present pending
          refine (imageDescHandleFailed_delivers (sound.answer description) (sound.idle_of_answer listens) present
            pending found cause msg calm).weaken fun next after => ?_
          exact .concluded after.2 rfl present (by rw [pending, Option.isSome_some])
      exact delivers.ensures next handled
  | ready description identity =>
      have delivers : Delivers Halt.invalidPointer (answerWith scene description fun scene id =>
          imageDescHandleReady scene id description identity) fun next => Advances scene next none := by
        refine answerWith_delivers allowed (fun _ => .same rfl) fun id listens => ?_
        obtain ⟨state, shares, present, pending, owns⟩ := sound.exchanging.listening description id listens
        obtain ⟨owner, found⟩ := sound.pending_present present pending
        refine (imageDescHandleReady_delivers (sound.answer description) (sound.idle_of_answer listens) present
          pending found (owns owner found) identity calm).weaken ?_
        rintro _ ⟨_, rfl⟩
        exact .setState (fun state => { state with infoRequest := some scene.informations.next }) (fun _ => rfl) rfl
      exact delivers.ensures next handled
  | information info event =>
      obtain ⟨⟨id, sent⟩, present, _⟩ := (Option.any_eq_true _ _).mp allowed
      obtain ⟨state, shares, placed, pending, _⟩ := sound.exchanging.informing info id ⟨sent, present⟩
      obtain ⟨owner, found⟩ := sound.pending_present placed pending
      obtain ⟨_, rfl⟩ := (imageDescInfoHandle_delivers sound present placed pending found event calm).ensures next handled
      exact .same rfl
  | done info =>
      obtain ⟨⟨id, sent⟩, found⟩ := Option.isSome_iff_exists.mp allowed
      obtain ⟨state, shares, present, pending, _⟩ := sound.exchanging.informing info id ⟨sent, found⟩
      have after := (imageDescInfoHandleDone_delivers sound ⟨sent, found⟩ present calm).ensures next handled
      change Advances _ _ ((scene.informations.cell info).map Information.listener)
      rw [found]
      exact .concluded after.2 rfl present (by rw [pending, Option.isSome_some])
  | _ => exact .same ((handleColor_tends sound allowed straight rfl).ensures next handled).spares.states

/-- The startup is followed by the exchanges that ended and by the outputs that the main function found. -/
structure StartupNotes where
  concluded : List StateId
  present : List StateId

/-- Nothing happened before the startup. -/
def StartupNotes.none : StartupNotes := ⟨[], []⟩

/-- An exchange that ends is noted, and so are the outputs for which the main function waits for no exchange. -/
def StartupNotes.follow (notes : StartupNotes) (state : StartupState) : StartupEvent → StartupNotes
  | .color event => { notes with concluded := (event.ends state.scene).toList ++ notes.concluded }
  | .start => { notes with present := state.surfaces }
  | _ => notes

/-- A request passes properties that are there. -/
def Passes (state : StartupState) (request : DescriptionRequest) : Prop :=
  ∃ id description shares, requestedState state request = .ok id ∧ state.scene.states.cell id = some description ∧
    description.current = some shares

/-- An output was plugged in after the main function created the other ones, or its first exchange has ended. -/
def Awaited (notes : StartupNotes) (id : StateId) : Prop := id ∉ notes.present ∨ id ∈ notes.concluded

/-- The current properties of an output are of use when its description did not fail and, where a parametric one is
asked for, comes without an ICC profile. -/
def Suits (scene : ColorScene) (id : StateId) (parametric : Bool) : Prop :=
  ∃ description current record, scene.states.cell id = some description ∧ description.current = some current ∧
    scene.properties.cell current = some record ∧ record.failed = false ∧ (parametric = true → record.iccProfile = -1)

/-- A request on an output needs an output that was awaited. A request on a surface needs the surface, its output to be
awaited where it has one, and the default surface's first exchange to have ended unless the output's properties are of
use. -/
def Prepared (state : StartupState) (notes : StartupNotes) : DescriptionRequest → Prop
  | .getImageDescription resource => ∃ id, state.colorOutputs.cell resource = some id ∧ Awaited notes id
  | .getPreferred resource parametric => ∃ surface, state.scene.colorFeedbacks.cell resource = some surface ∧
      state.scene.surfaces.live surface = true ∧
      (∀ id, state.swaySurface surface = some id → Awaited notes id) ∧
      (descSurface ∈ notes.concluded ∨
        ∃ id, state.swaySurface surface = some id ∧ Suits state.scene id parametric)

/-- In an orderly startup the notes tell which description states have current properties, every output that was plugged
in late was created after its exchange, and the objects of the plugins name outputs that were created and are still
there. -/
structure Orderly (state : StartupState) (notes : StartupNotes) : Prop where
  sound : Sound state.scene
  default_ : ∃ description, state.scene.states.cell descSurface = some description ∧ description.surface = false
  listed : ∀ id ∈ state.surfaces, ∃ description, state.scene.states.cell id = some description ∧
    description.surface = true
  noted : ∀ id description, state.scene.states.cell id = some description →
    (description.current.isSome = true ↔ id ∈ notes.concluded)
  unborn : ∀ id, state.scene.states.cell id = none → id ∉ notes.concluded
  unstarted : state.started = false → state.runDisplay = false ∧ state.created = []
  created : ∀ id ∈ state.created, Awaited notes id → id ∈ notes.concluded
  shown : ∀ id ∈ state.nestedServerOutput, id ∈ state.created
  bound : ∀ resource id, state.colorOutputs.cell resource = some id → id ∈ state.surfaces ∧ id ∈ state.nestedServerOutput
  placed : ∀ surface id, state.swaySurface surface = some id →
    id ∈ state.surfaces ∧ id ∈ state.created ∧ state.pluginSurface id = some surface

theorem ends_present {scene : ColorScene} {event : ColorEvent} (sound : Sound scene)
    (allowed : colorEnabled scene event = true) {id : StateId} (ends : event.ends scene = some id) :
    ∃ description, scene.states.cell id = some description := by
  cases event with
  | failed upstream cause msg =>
      obtain ⟨⟨listener, answered⟩, present, unanswered⟩ := (Option.any_eq_true _ _).mp allowed
      rw [Bool.not_eq_true'] at unanswered
      cases unanswered
      change (scene.descriptions.cell upstream).bind UpstreamDescription.listener = some id at ends
      rw [present] at ends
      cases ends
      obtain ⟨description, _, there, _⟩ := sound.exchanging.listening upstream id present
      exact ⟨description, there⟩
  | done info =>
      obtain ⟨⟨listener, sent⟩, found, same⟩ := Option.map_eq_some_iff.mp ends
      cases same
      obtain ⟨description, _, there, _⟩ := sound.exchanging.informing info listener ⟨sent, found⟩
      exact ⟨description, there⟩
  | _ => cases ends

theorem createOutputImageDesc_reads {scene next : ColorScene} {id : StateId}
    (created : createOutputImageDesc scene id = .ok next) :
    ∃ description shares, scene.states.cell id = some description ∧ description.current = some shares := by
  obtain ⟨description, found, rest⟩ := bind_ok.mp created
  obtain ⟨shares, names, _⟩ := bind_ok.mp rest
  exact ⟨description, shares, demand_ok.mp found, demand_ok.mp names⟩

theorem passProperties_reads {scene next : ColorScene} {id : StateId} {request : DescriptionRequest}
    (passed : passProperties scene id request = .ok next) :
    ∃ description shares, scene.states.cell id = some description ∧ description.current = some shares := by
  cases request with
  | getImageDescription resource =>
      obtain ⟨_, _, rest⟩ := bind_ok.mp passed
      obtain ⟨_, _, created⟩ := bind_ok.mp rest
      exact createOutputImageDesc_reads created
  | getPreferred resource parametric => exact createOutputImageDesc_reads passed

theorem passProperties_delivers {fatal : Halt} {scene : ColorScene} {id : StateId} {state : ImageDescriptionState}
    (sound : Sound scene) (present : scene.states.cell id = some state) {current : PropertiesId}
    (named : state.current = some current) (request : DescriptionRequest) :
    Delivers fatal (passProperties scene id request) (Tends scene) := by
  cases request with
  | getImageDescription resource =>
      refine .read present (.test (fun _ => ?_) fun _ => createOutputImageDesc_delivers sound present named)
      rw [named]
      rfl
  | getPreferred resource parametric => exact createOutputImageDesc_delivers sound present named

namespace Orderly

variable {state : StartupState} {notes : StartupNotes}

theorem advance (orderly : Orderly state notes) {next : ColorScene} {ended : Option StateId} (sound : Sound next)
    (advances : Advances state.scene next ended)
    (there : ∀ id, ended = some id → ∃ description, state.scene.states.cell id = some description) :
    Orderly { state with scene := next } { notes with concluded := ended.toList ++ notes.concluded } := by
  have listed {id : StateId} : id ∈ ended.toList ++ notes.concluded ↔ id ∈ notes.concluded ∨ ended = some id := by
    rw [List.mem_append, Option.mem_toList, or_comm]
  refine ⟨sound, ?_, ?_, ?_, ?_, orderly.unstarted, ?_, orderly.shown, orderly.bound, orderly.placed⟩
  · obtain ⟨description, present, default_⟩ := orderly.default_
    obtain ⟨new, placed, same⟩ := advances.after present
    exact ⟨new, placed, same.trans default_⟩
  · intro id member
    obtain ⟨description, present, output⟩ := orderly.listed id member
    obtain ⟨new, placed, same⟩ := advances.after present
    exact ⟨new, placed, same.trans output⟩
  · intro id description present
    obtain ⟨old, before, _, current⟩ := advances.before present
    rw [current, orderly.noted id old before]
    exact listed.symm
  · intro id absent concluded
    have before : state.scene.states.cell id = none := by
      have seen := advances id
      rw [absent] at seen
      exact Option.map_eq_none_iff.mp seen.symm
    rcases listed.mp concluded with earlier | now
    · exact orderly.unborn id before earlier
    · obtain ⟨description, present⟩ := there id now
      cases before.symm.trans present
  · intro id member awaited
    rcases awaited with late | now
    · exact listed.mpr (.inl (orderly.created id member (.inl late)))
    · exact now

theorem outputAdded (orderly : Orderly state notes) :
    Orderly { state with
      surfaces := state.scene.states.next :: state.surfaces
      scene := setupDescriptionState state.scene true } notes := by
  have old {id : StateId} {description : ImageDescriptionState} (present : state.scene.states.cell id = some description) :
      (setupDescriptionState state.scene true).states.cell id = some description :=
    Heap.cell_alloc_of_live _ _ present
  refine ⟨orderly.sound.setupDescriptionState true, ?_, ?_, ?_, ?_, orderly.unstarted, orderly.created, orderly.shown,
    ?_, ?_⟩
  · obtain ⟨description, present, default_⟩ := orderly.default_
    exact ⟨description, old present, default_⟩
  · intro id member
    rcases List.mem_cons.mp member with rfl | earlier
    · exact ⟨_, Heap.cell_alloc_next _ _, rfl⟩
    · obtain ⟨description, present, output⟩ := orderly.listed id earlier
      exact ⟨description, old present, output⟩
  · intro id description present
    rcases Heap.old_of_alloc _ present with ⟨rfl, rfl⟩ | ⟨_, before⟩
    · exact ⟨nofun, fun concluded => absurd concluded (orderly.unborn _ (Heap.cell_next _))⟩
    · exact orderly.noted id description before
  · intro id absent
    refine orderly.unborn id ?_
    by_contra there
    obtain ⟨description, present⟩ := Option.ne_none_iff_exists'.mp there
    cases absent.symm.trans (old present)
  · intro resource id found
    obtain ⟨member, shown⟩ := orderly.bound resource id found
    exact ⟨List.mem_cons_of_mem _ member, shown⟩
  · intro surface id there
    obtain ⟨member, rest⟩ := orderly.placed surface id there
    exact ⟨List.mem_cons_of_mem _ member, rest⟩

theorem initSurfaceIfReady (orderly : Orderly state notes) (id : StateId) :
    Ensures (initSurfaceIfReady state id) fun next => Orderly next notes := by
  refine .read fun description present => ?_
  split
  · exact .pure orderly
  · rename_i ready
    rw [Bool.or_eq_true, Bool.or_eq_true, Bool.not_eq_true', not_or, not_or, Bool.not_eq_false] at ready
    cases current : description.current with
    | none => exact .pure orderly
    | some shares =>
        refine .read fun record found => .check fun _ => .pure ?_
        have concluded : id ∈ notes.concluded :=
          (orderly.noted id description present).mp (by rw [current, Option.isSome_some])
        refine ⟨orderly.sound, orderly.default_, orderly.listed, orderly.noted, orderly.unborn, ?_, ?_, ?_,
          orderly.bound, ?_⟩
        · intro unstarted
          cases (orderly.unstarted unstarted).1.symm.trans ready.1.2
        · intro other member awaited
          rcases List.mem_cons.mp member with rfl | earlier
          · exact concluded
          · exact orderly.created other earlier awaited
        · exact fun other member => List.mem_cons_of_mem _ (orderly.shown other member)
        · intro surface other there
          obtain ⟨member, created, rest⟩ := orderly.placed surface other there
          exact ⟨member, List.mem_cons_of_mem _ created, rest⟩

theorem concludeExchange (orderly : Orderly state notes) (ended : Option StateId) :
    Ensures (concludeExchange state ended) fun next => Orderly next notes := by
  cases ended with
  | none => exact .pure orderly
  | some id =>
      refine .read fun description present => ?_
      split
      · exact orderly.initSurfaceIfReady id
      · exact .pure orderly

theorem clearPluginSurface (orderly : Orderly state notes) (surface : SurfaceId) :
    Ensures (clearPluginSurface state surface) fun next => Orderly next notes ∧ next.scene = state.scene := by
  unfold Color.clearPluginSurface
  cases related : state.swaySurface surface with
  | none => exact .pure ⟨orderly, rfl⟩
  | some id =>
      refine .check fun _ => .pure ⟨⟨orderly.sound, orderly.default_, orderly.listed, orderly.noted, orderly.unborn,
        orderly.unstarted, orderly.created, orderly.shown, orderly.bound, ?_⟩, rfl⟩
      intro other output there
      by_cases here : other = surface
      · subst here
        cases (Function.update_self other none state.swaySurface).symm.trans there
      · have before := (Function.update_of_ne here none state.swaySurface).symm.trans there
        obtain ⟨member, created, names⟩ := orderly.placed other output before
        have elsewhere : output ≠ id := by
          rintro rfl
          exact here (Option.some.inj (names.symm.trans (orderly.placed surface output related).2.2))
        exact ⟨member, created, (Function.update_of_ne elsewhere none state.pluginSurface).trans names⟩

theorem destroySurface (orderly : Orderly state notes) (id : StateId) :
    Ensures (destroySurface state id) fun next => Orderly next notes := by
  have unrelated (sways : SurfaceId → Option StateId)
      (old : ∀ surface other, sways surface = some other → state.swaySurface surface = some other ∧ other ≠ id)
      (gone : (!state.nestedServerOutput.elem id || (addresses state.colorOutputs fun output => output == id).isEmpty) =
        true) :
      Orderly { state with
        surfaces := state.surfaces.erase id
        swaySurface := sways
        pluginSurface := Function.update state.pluginSurface id none } notes := by
    refine ⟨orderly.sound, orderly.default_, fun other member => orderly.listed other (List.mem_of_mem_erase member),
      orderly.noted, orderly.unborn, orderly.unstarted, orderly.created, orderly.shown, ?_, ?_⟩
    · intro resource other found
      obtain ⟨member, shown⟩ := orderly.bound resource other found
      have elsewhere : other ≠ id := by
        rintro rfl
        have listed : resource ∈ addresses state.colorOutputs fun output => output == other :=
          mem_addresses found (beq_self_eq_true other)
        rw [List.elem_eq_mem, decide_eq_true shown, Bool.not_true, Bool.false_or, List.isEmpty_iff] at gone
        rw [gone] at listed
        cases listed
      exact ⟨(List.mem_erase_of_ne elsewhere).mpr member, shown⟩
    · intro surface other there
      obtain ⟨before, elsewhere⟩ := old surface other there
      obtain ⟨member, created, names⟩ := orderly.placed surface other before
      exact ⟨(List.mem_erase_of_ne elsewhere).mpr member, created,
        (Function.update_of_ne elsewhere none state.pluginSurface).trans names⟩
  unfold Color.destroySurface
  cases plugin : state.pluginSurface id with
  | none =>
      refine .check fun gone => .pure (unrelated state.swaySurface (fun surface other there => ⟨there, ?_⟩) gone)
      rintro rfl
      cases plugin.symm.trans (orderly.placed surface other there).2.2
  | some surface =>
      refine Ensures.via (fun next => next =
        { state with
          surfaces := state.surfaces.erase id
          swaySurface := Function.update state.swaySurface surface none }) ?_ ?_
      · exact .read fun _ _ => .pure rfl
      · rintro _ rfl
        refine .check fun gone => .pure (unrelated _ (fun other output there => ?_) gone)
        by_cases here : other = surface
        · subst here
          cases (Function.update_self other none state.swaySurface).symm.trans there
        · have before := (Function.update_of_ne here none state.swaySurface).symm.trans there
          refine ⟨before, ?_⟩
          rintro rfl
          exact here (Option.some.inj ((orderly.placed other output before).2.2.symm.trans plugin))

theorem startOutputs (orderly : Orderly state notes) (unstarted : state.started = false) :
    Ensures (startOutputs state) fun next => Orderly next { notes with present := state.surfaces } := by
  refine .check fun _ => .pure ?_
  have none_ := (orderly.unstarted unstarted).2
  refine ⟨orderly.sound, orderly.default_, orderly.listed, orderly.noted, orderly.unborn, nofun, ?_, ?_,
    orderly.bound, ?_⟩
  · intro id member awaited
    rw [none_, List.append_nil] at member
    exact awaited.resolve_left fun late => late member
  · exact fun id member => List.mem_append_right _ (orderly.shown id member)
  · intro surface id there
    obtain ⟨member, created, names⟩ := orderly.placed surface id there
    exact ⟨member, List.mem_append_right _ created, names⟩

theorem getLayerSurface (orderly : Orderly state notes) (surface : SurfaceId) {output : StateId}
    (created : output ∈ state.created) :
    Ensures (getLayerSurface state surface output) fun next => Orderly next notes := by
  refine .check fun there => ?_
  rw [List.elem_eq_mem, decide_eq_true_eq] at there
  split
  · exact .pure orderly
  · rename_i free
    rw [Bool.or_eq_true, not_or, Bool.not_eq_true, Option.isSome_eq_false_iff, Option.isNone_iff_eq_none] at free
    refine .pure ⟨orderly.sound, orderly.default_, orderly.listed, orderly.noted, orderly.unborn, orderly.unstarted,
      orderly.created, orderly.shown, orderly.bound, ?_⟩
    intro other id related
    by_cases here : other = surface
    · subst here
      cases (Function.update_self other (some output) state.swaySurface).symm.trans related
      exact ⟨there, created, Function.update_self _ _ _⟩
    · obtain ⟨member, made, names⟩ := orderly.placed other id
        ((Function.update_of_ne here (some output) state.swaySurface).symm.trans related)
      have elsewhere : id ≠ output := by
        rintro rfl
        cases free.1.symm.trans names
      exact ⟨member, made, (Function.update_of_ne elsewhere (some surface) state.pluginSurface).trans names⟩

theorem request (orderly : Orderly state notes) (request : DescriptionRequest) :
    Ensures (handleDescriptionRequest state request) fun next => Orderly next notes := by
  refine Ensures.via (fun _ => True) (fun _ _ => trivial) fun id _ => ?_
  refine Ensures.via (fun next => Sound next ∧ Advances state.scene next none) ?_ fun next after => .pure ?_
  · intro next created
    obtain ⟨description, current, present, there⟩ := passProperties_reads created
    have delivers : Delivers Halt.assertion _ (Tends state.scene) :=
      passProperties_delivers orderly.sound present there request
    have tends := delivers.ensures next created
    exact ⟨tends.sound, .same tends.spares.states⟩
  · exact orderly.advance after.1 after.2 nofun

theorem color (orderly : Orderly state notes) {event : ColorEvent} (allowed : colorEnabled state.scene event = true) :
    Ensures (handleColorEvent state event) fun next =>
      Orderly next { notes with concluded := (event.ends state.scene).toList ++ notes.concluded } := by
  refine .check fun _ => ?_
  by_cases added : event = .outputAdded
  · subst added
    exact orderly.outputAdded.concludeExchange none
  have followed : Ensures (followColor state event) fun next => Orderly next notes ∧ next.scene = state.scene := by
    cases event with
    | outputAdded => exact absurd rfl added
    | destroySurface surface => exact orderly.clearPluginSurface surface
    | _ => exact .pure ⟨orderly, rfl⟩
  refine followed.bind fun next kept => Ensures.via (fun after => Sound after ∧
    Advances state.scene after (event.ends state.scene)) (fun after handled => ?_) fun after moved => ?_
  · have straight : ¬ Strays state.scene event := fun strays => by
      cases (handleColor_strays strays).symm.trans handled
    exact ⟨(handleColor_delivers orderly.sound allowed straight).ensures after handled,
      handleColor_advances orderly.sound allowed handled added⟩
  · have advances : Advances next.scene after (event.ends state.scene) := kept.2.symm ▸ moved.2
    refine (kept.1.advance moved.1 advances fun id ends => ?_).concludeExchange _
    rw [kept.2]
    exact ends_present orderly.sound allowed ends

end Orderly

theorem startupStart_orderly : Orderly startupStart .none := by
  refine ⟨colorStart_sound, ⟨_, rfl, rfl⟩, nofun, ?_, fun _ _ => nofun, fun _ => ⟨rfl, rfl⟩, nofun, nofun, ?_, nofun⟩
  · intro id description present
    rcases Heap.old_of_alloc _ present with ⟨rfl, rfl⟩ | ⟨_, before⟩
    · exact ⟨nofun, nofun⟩
    · exact (not_found_empty before).elim
  · exact fun _ _ found => (not_found_empty found).elim

theorem orderly_of_reachable {pair : StartupState × StartupNotes}
    (reachable : (starting.machine.observed .none StartupNotes.follow).Reachable pair) : Orderly pair.1 pair.2 := by
  refine reachable.invariant (fun pair => Orderly pair.1 pair.2) ?_ ?_
  · rintro ⟨_, _⟩ ⟨rfl, rfl⟩
    exact startupStart_orderly
  · rintro ⟨state, notes⟩ event ⟨next, _⟩ orderly ⟨⟨allowed, handled⟩, rfl⟩
    dsimp only at orderly allowed handled ⊢
    cases event with
    | color event => exact orderly.color ((Bool.and_eq_true _ _).mp allowed).2 next handled
    | outputRemoved id => exact orderly.destroySurface id next handled
    | outputDone id =>
        have done : Orderly { state with hasOutputDone := id :: state.hasOutputDone } notes :=
          ⟨orderly.sound, orderly.default_, orderly.listed, orderly.noted, orderly.unborn, orderly.unstarted,
            orderly.created, orderly.shown, orderly.bound, orderly.placed⟩
        exact done.initSurfaceIfReady id next handled
    | start => exact orderly.startOutputs ((Bool.not_eq_true' _).mp allowed) next handled
    | stop =>
        cases handled
        exact ⟨orderly.sound, orderly.default_, orderly.listed, orderly.noted, orderly.unborn,
          fun unstarted => ⟨rfl, (orderly.unstarted unstarted).2⟩, orderly.created, orderly.shown, orderly.bound,
          orderly.placed⟩
    | configured id =>
        cases handled
        have created := ((Bool.and_eq_true _ _).mp allowed).2
        rw [List.elem_eq_mem, decide_eq_true_eq] at created
        refine ⟨orderly.sound, orderly.default_, orderly.listed, orderly.noted, orderly.unborn, orderly.unstarted,
          orderly.created, ?_, ?_, orderly.placed⟩
        · intro other member
          rcases List.mem_cons.mp member with rfl | earlier
          · exact created
          · exact orderly.shown other earlier
        · exact fun resource other found =>
            ⟨(orderly.bound resource other found).1, List.mem_cons_of_mem _ (orderly.bound resource other found).2⟩
    | getLayerSurface surface output =>
        have created := ((Bool.and_eq_true _ _).mp allowed).2
        rw [List.elem_eq_mem, decide_eq_true_eq] at created
        exact orderly.getLayerSurface surface created next handled
    | getColorOutput output =>
        have shown := ((Bool.and_eq_true _ _).mp allowed).2
        rw [List.elem_eq_mem, decide_eq_true_eq] at shown
        have bound : Ensures (nestedColorGetOutput state output) fun next => Orderly next notes := by
          refine .check fun there => .pure ?_
          rw [List.elem_eq_mem, decide_eq_true_eq] at there
          refine ⟨orderly.sound, orderly.default_, orderly.listed, orderly.noted, orderly.unborn, orderly.unstarted,
            orderly.created, orderly.shown, fun resource id found => ?_, orderly.placed⟩
          rcases Heap.old_of_alloc _ found with ⟨_, rfl⟩ | ⟨_, before⟩
          · exact ⟨there, shown⟩
          · exact orderly.bound resource id before
        exact bound next handled
    | destroyColorOutput resource =>
        cases handled
        exact ⟨orderly.sound, orderly.default_, orderly.listed, orderly.noted, orderly.unborn, orderly.unstarted,
          orderly.created, orderly.shown,
          fun other id found => orderly.bound other id (state.colorOutputs.old_of_free found), orderly.placed⟩
    | request request => exact orderly.request request next handled

namespace Orderly

variable {state : StartupState} {notes : StartupNotes}

/-- A request passes properties that are there exactly when the exchange of its description state has ended. -/
theorem passes_iff (orderly : Orderly state notes) {request : DescriptionRequest} {id : StateId}
    (chosen : requestedState state request = .ok id)
    (there : ∃ description, state.scene.states.cell id = some description) :
    Passes state request ↔ id ∈ notes.concluded := by
  obtain ⟨description, present⟩ := there
  rw [← orderly.noted id description present]
  constructor
  · rintro ⟨other, found, shares, also, placed, current⟩
    cases chosen.symm.trans also
    cases present.symm.trans placed
    rw [current, Option.isSome_some]
  · intro given
    obtain ⟨shares, current⟩ := Option.isSome_iff_exists.mp given
    exact ⟨id, description, shares, chosen, present, current⟩

theorem awaited_iff (orderly : Orderly state notes) {id : StateId} (created : id ∈ state.created) :
    Awaited notes id ↔ id ∈ notes.concluded :=
  ⟨orderly.created id created, .inr⟩

theorem output_ok {id : StateId} (member : id ∈ state.surfaces) : state.output id = .ok () := by
  unfold StartupState.output
  rw [List.elem_eq_mem, decide_eq_true member]
  rfl

theorem getImageDescription_iff (orderly : Orderly state notes) {resource : ResourceId} {id : StateId}
    (found : state.colorOutputs.cell resource = some id) :
    Passes state (.getImageDescription resource) ↔ Prepared state notes (.getImageDescription resource) := by
  obtain ⟨member, shown⟩ := orderly.bound resource id found
  have chosen : requestedState state (.getImageDescription resource) = .ok id := by
    change (demand Halt.invalidPointer (state.colorOutputs.cell resource) >>= _) = _
    rw [found]
    change (state.output id >>= _) = _
    rw [output_ok member]
    rfl
  obtain ⟨description, present, _⟩ := orderly.listed id member
  rw [orderly.passes_iff chosen ⟨description, present⟩, ← orderly.awaited_iff (orderly.shown id shown)]
  constructor
  · exact fun awaited => ⟨id, found, awaited⟩
  · rintro ⟨other, there, awaited⟩
    cases found.symm.trans there
    exact awaited

theorem preferred_output (parametric : Bool) {surface : SurfaceId} {id : StateId}
    (related : state.swaySurface surface = some id)
    (member : id ∈ state.surfaces) {description : ImageDescriptionState}
    (present : state.scene.states.cell id = some description) :
    state.preferred surface parametric = (demand Halt.assertion description.current >>= fun current =>
      state.scene.props current >>= fun record =>
        if record.failed || (parametric && record.iccProfile != -1) then .ok descSurface else .ok id) := by
  unfold StartupState.preferred
  rw [related]
  change (state.output id >>= fun _ => (demand Halt.invalidPointer (state.scene.states.cell id) >>= _)) = _
  rw [output_ok member, present]
  rfl

theorem getPreferred_iff (orderly : Orderly state notes) {resource : ResourceId} {surface : SurfaceId}
    (found : state.scene.colorFeedbacks.cell resource = some surface) (parametric : Bool) :
    Passes state (.getPreferred resource parametric) ↔ Prepared state notes (.getPreferred resource parametric) := by
  have prepared : Prepared state notes (.getPreferred resource parametric) ↔
      state.scene.surfaces.live surface = true ∧ (∀ id, state.swaySurface surface = some id → Awaited notes id) ∧
      (descSurface ∈ notes.concluded ∨ ∃ id, state.swaySurface surface = some id ∧ Suits state.scene id parametric) := by
    constructor
    · rintro ⟨other, there, rest⟩
      cases found.symm.trans there
      exact rest
    · exact fun rest => ⟨surface, found, rest⟩
  obtain ⟨default_, placed, _⟩ := orderly.default_
  rw [prepared]
  by_cases live : state.scene.surfaces.live surface = true
  · have asks : requestedState state (.getPreferred resource parametric) = state.preferred surface parametric := by
      obtain ⟨record, there⟩ := Option.isSome_iff_exists.mp live
      change ((demand Halt.invalidPointer (state.scene.colorFeedbacks.cell resource) >>= _) >>= _) = _
      rw [found]
      change ((demand Halt.invalidPointer (state.scene.surfaces.cell surface) >>= _) >>= _) = _
      rw [there]
      rfl
    cases related : state.swaySurface surface with
    | none =>
        have chosen : requestedState state (.getPreferred resource parametric) = .ok descSurface := by
          rw [asks]
          unfold StartupState.preferred
          rw [related]
          rfl
        rw [orderly.passes_iff chosen ⟨default_, placed⟩]
        constructor
        · exact fun concluded => ⟨live, nofun, .inl concluded⟩
        · rintro ⟨_, _, concluded | ⟨_, ⟨⟩, _⟩⟩
          exact concluded
    | some id =>
        obtain ⟨member, created, _⟩ := orderly.placed surface id related
        obtain ⟨description, present, _⟩ := orderly.listed id member
        have chosen := preferred_output parametric related member present
        by_cases awaited : Awaited notes id
        · have given := (orderly.noted id description present).mpr ((orderly.awaited_iff created).mp awaited)
          obtain ⟨current, names⟩ := Option.isSome_iff_exists.mp given
          obtain ⟨record, there⟩ := orderly.sound.current_present present names
          unfold ColorScene.props at chosen
          rw [names] at chosen
          change _ = (demand Halt.invalidPointer (state.scene.properties.cell current) >>= _) at chosen
          rw [there] at chosen
          change _ = (if (record.failed || (parametric && record.iccProfile != -1)) = true then _ else _) at chosen
          have all : ∀ other, some id = some other → Awaited notes other := by
            rintro _ ⟨⟩
            exact awaited
          split at chosen
          · rename_i unfit
            rw [orderly.passes_iff (asks.trans chosen) ⟨default_, placed⟩]
            constructor
            · exact fun concluded => ⟨live, all, .inl concluded⟩
            · rintro ⟨_, _, concluded | ⟨_, ⟨⟩, other, shares, owner, also, same, holds, works, plain⟩⟩
              · exact concluded
              · cases present.symm.trans also
                cases names.symm.trans same
                cases there.symm.trans holds
                rw [works, Bool.false_or, Bool.and_eq_true, bne_iff_ne] at unfit
                exact absurd (plain unfit.1) unfit.2
          · rename_i fit
            rw [Bool.or_eq_true, Bool.and_eq_true, bne_iff_ne, not_or, Bool.not_eq_true, not_and, not_not] at fit
            rw [orderly.passes_iff (asks.trans chosen) ⟨description, present⟩]
            constructor
            · exact fun _ => ⟨live, all, .inr ⟨id, rfl, description, current, record, present, names, there, fit⟩⟩
            · exact fun _ => (orderly.awaited_iff created).mp awaited
        · have rests : description.current = none := by
            by_contra other
            have given := Option.isSome_iff_ne_none.mpr other
            exact awaited (.inr ((orderly.noted id description present).mp given))
          rw [rests] at chosen
          constructor
          · rintro ⟨_, _, _, also, _⟩
            cases (asks.trans chosen).symm.trans also
          · exact fun rest => absurd (rest.2.1 id rfl) awaited
  · have chosen : requestedState state (.getPreferred resource parametric) = .error .invalidPointer := by
      change ((demand Halt.invalidPointer (state.scene.colorFeedbacks.cell resource) >>= _) >>= _) = _
      rw [found]
      change ((demand Halt.invalidPointer (state.scene.surfaces.cell surface) >>= _) >>= _) = _
      rw [Heap.not_live_iff.mp ((Bool.not_eq_true _).mp live)]
      rfl
    constructor
    · rintro ⟨_, _, _, also, _⟩
      cases chosen.symm.trans also
    · exact fun rest => absurd rest.1 live

theorem request_iff (orderly : Orderly state notes) (request : DescriptionRequest) :
    (∃ next, handleStartup state (.request request) = .ok next) ↔ Passes state request := by
  constructor
  · rintro ⟨next, handled⟩
    obtain ⟨id, chosen, rest⟩ := bind_ok.mp handled
    obtain ⟨scene, created, _⟩ := bind_ok.mp rest
    obtain ⟨description, current, present, names⟩ := passProperties_reads created
    exact ⟨id, description, current, chosen, present, names⟩
  · rintro ⟨id, description, shares, chosen, present, current⟩
    obtain ⟨scene, created, _⟩ := Delivers.returns Halt.assertion fun fatal =>
      passProperties_delivers orderly.sound present current request
    exact ⟨{ state with scene := scene }, bind_ok.mpr ⟨id, chosen, bind_ok.mpr ⟨scene, created, rfl⟩⟩⟩

end Orderly

/-- In every reachable startup a request passes properties that are there exactly when it was prepared, and it succeeds
exactly then. -/
theorem descriptions_passed_iff {pair : StartupState × StartupNotes}
    (reachable : (starting.machine.observed .none StartupNotes.follow).Reachable pair) {request : DescriptionRequest}
    (allowed : startupEnabled pair.1 (.request request) = true) :
    (Passes pair.1 request ↔ Prepared pair.1 pair.2 request) ∧
      ((∃ next, handleStartup pair.1 (.request request) = .ok next) ↔ Prepared pair.1 pair.2 request) := by
  have orderly := orderly_of_reachable reachable
  have passes : Passes pair.1 request ↔ Prepared pair.1 pair.2 request := by
    cases request with
    | getImageDescription resource =>
        obtain ⟨id, found⟩ := Option.isSome_iff_exists.mp allowed
        exact orderly.getImageDescription_iff found
    | getPreferred resource parametric =>
        obtain ⟨surface, found⟩ := Option.isSome_iff_exists.mp allowed
        exact orderly.getPreferred_iff found parametric
  exact ⟨passes, (orderly.request_iff request).trans passes⟩

/-- A plugin is given the description of an output that was plugged in late. -/
theorem descriptions_passed_late : ∃ pair : StartupState × StartupNotes, pair.2.present = [1] ∧
    Passes pair.1 (.getImageDescription 0) := by
  obtain ⟨pair, reachable, passed⟩ := starting.play_observed .none StartupNotes.follow
    [.color .outputAdded, .start, .color .outputAdded, .outputDone 2, .color (.failed 2 1 "unsupported"), .configured 2,
      .getColorOutput 2]
    (fun pair => pair.2.present == [1] && pair.1.colorOutputs.cell 0 == some 2)
    (rfl : starting.initial startupStart) (by decide +kernel : ((starting.observed _ _).play _ _).any _ = true)
  simp only [Bool.and_eq_true, beq_iff_eq] at passed
  have allowed : startupEnabled pair.1 (.request (.getImageDescription 0)) = true := by
    change (pair.1.colorOutputs.cell 0).isSome = true
    rw [passed.2, Option.isSome_some]
  have late : Awaited pair.2 2 := by
    left
    rw [passed.1]
    decide
  exact ⟨pair, passed.1, (descriptions_passed_iff reachable allowed).1.mpr ⟨2, passed.2, late⟩⟩

/-- A plugin that asks at once for the description of an output that was there at the start is passed nothing. -/
theorem early_request_passes_nothing : ¬ ∀ pair : StartupState × StartupNotes,
    (starting.machine.observed .none StartupNotes.follow).Reachable pair → ∀ request : DescriptionRequest,
      startupEnabled pair.1 (.request request) = true → Passes pair.1 request := by
  intro claim
  obtain ⟨pair, reachable, passed⟩ := starting.play_observed .none StartupNotes.follow
    [.color .outputAdded, .start, .configured 1, .getColorOutput 1]
    (fun pair => startupEnabled pair.1 (.request (.getImageDescription 0)) &&
      match requestedState pair.1 (.getImageDescription 0) with
      | .ok id => (pair.1.scene.states.cell id).any fun description => description.current.isNone
      | .error _ => false)
    (rfl : starting.initial startupStart) (by decide +kernel : ((starting.observed _ _).play _ _).any _ = true)
  obtain ⟨allowed, misses⟩ := (Bool.and_eq_true _ _).mp passed
  obtain ⟨id, description, shares, chosen, present, current⟩ := claim pair reachable _ allowed
  rw [chosen] at misses
  change (pair.1.scene.states.cell id).any _ = true at misses
  rw [present, Option.any_some, current] at misses
  cases misses

end SwaylockPlugin.Color
