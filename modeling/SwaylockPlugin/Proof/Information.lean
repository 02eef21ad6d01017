import Mathlib.Data.List.Nodup
import SwaylockPlugin.Proof.Refresh

namespace SwaylockPlugin.Color

open Library

/-- This is what some properties tell about one kind of information. -/
def Properties.tells (record : Properties) : InfoKind → Option InfoEvent
  | .iccFile => if 0 ≤ record.iccProfile then some (.iccFile record.iccProfile record.iccProfileLen) else none
  | .tfNamed => record.tf.map .tfNamed
  | .tfPower => record.eexp.map .tfPower
  | .primariesNamed => record.primariesNamed.map .primariesNamed
  | .primaries => record.primaries.map .primaries
  | .luminances => record.luminances.map fun (minLum, maxLum, referenceLum) => .luminances minLum maxLum referenceLum
  | .targetPrimaries => record.masteringDisplayPrimaries.map .targetPrimaries
  | .targetLuminance => record.masteringLuminance.map fun (minLum, maxLum) => .targetLuminance minLum maxLum
  | .targetMaxCll => record.maxCll.map .targetMaxCll
  | .targetMaxFall => record.maxFall.map .targetMaxFall

/-- The kinds of information are sent in this order. -/
def InfoKind.order : List InfoKind :=
  [.iccFile, .tfNamed, .tfPower, .primariesNamed, .primaries, .luminances, .targetPrimaries, .targetLuminance,
    .targetMaxCll, .targetMaxFall]

/-- An event survives being recorded unless it tells the luminances or an ICC file without a descriptor. -/
def InfoEvent.survives : InfoEvent → Bool
  | .luminances _ _ _ => false
  | .iccFile icc _ => decide (0 ≤ icc)
  | _ => true

/-- These are some properties without what did not come as information. -/
def Properties.informed (record : Properties) : Properties :=
  { record with
    failed := false
    failureCause := 0
    failureReason := none
    description := none
    colorIdentityV2Hi := 0
    colorIdentityV2Lo := 0
    colorIdentityV1 := 0
    referenceCount := 1 }

/-- The properties record what arrived, where the newest event comes first. -/
def recordOf (events : List InfoEvent) : Properties :=
  events.foldr (fun event record => event.write record) createImageDescriptionProps

section Replay

variable {record : Properties} {events : List InfoEvent}

theorem sendInformation_eq (record : Properties) : sendInformation record = InfoKind.order.filterMap record.tells := rfl

theorem InfoKind.mem_order (kind : InfoKind) : kind ∈ InfoKind.order := by
  cases kind <;> decide

theorem Properties.tells_kind {kind : InfoKind} {event : InfoEvent} (told : record.tells kind = some event) :
    event.kind = kind := by
  cases kind with
  | iccFile =>
      obtain ⟨_, ⟨⟩⟩ := Option.ite_none_right_eq_some.mp told
      rfl
  | _ =>
      obtain ⟨_, _, rfl⟩ := Option.map_eq_some_iff.mp told
      rfl

theorem InfoEvent.tells_write {event : InfoEvent} (survives : event.survives = true) (record : Properties)
    (kind : InfoKind) :
    (event.write record).tells kind = if event.kind = kind then some event else record.tells kind := by
  cases event with
  | luminances => cases survives
  | iccFile icc size =>
      have valid : 0 ≤ icc := of_decide_eq_true survives
      cases kind <;> simp [write, Properties.tells, InfoEvent.kind, valid]
  | _ => cases kind <;> rfl

theorem tells_recordOf (survive : ∀ event ∈ events, event.survives = true) (kind : InfoKind) :
    (recordOf events).tells kind = events.find? fun event => event.kind == kind := by
  induction events with
  | nil => cases kind <;> rfl
  | cons event events ih =>
      have tail := ih fun other member => survive other (List.mem_cons_of_mem _ member)
      rw [recordOf, List.foldr_cons, InfoEvent.tells_write (survive event List.mem_cons_self), List.find?_cons]
      by_cases same : event.kind = kind
      · rw [if_pos same, beq_iff_eq.mpr same]
      · rw [if_neg same, beq_false_of_ne same]
        exact tail

theorem find?_kind_eq_some_iff (different : (events.map InfoEvent.kind).Nodup) {event : InfoEvent} :
    (events.find? fun other => other.kind == event.kind) = some event ↔ event ∈ events := by
  induction events with
  | nil => simp
  | cons first events ih =>
      obtain ⟨apart, rest⟩ := List.nodup_cons.mp different
      rw [List.find?_cons]
      by_cases same : first.kind = event.kind
      · rw [beq_iff_eq.mpr same]
        have absent : event ∉ events := fun member => apart (same ▸ List.mem_map_of_mem member)
        simp only [Option.some.injEq, List.mem_cons, absent, or_false]
        exact eq_comm
      · rw [beq_false_of_ne same]
        have other : event ≠ first := fun equal => same (equal ▸ rfl)
        simp only [ih rest, List.mem_cons, other, false_or]

theorem sendInformation_nodup (record : Properties) : (sendInformation record).Nodup := by
  rw [sendInformation_eq]
  refine List.Nodup.filterMap ?_ (by decide)
  intro first second event told also
  rw [Option.mem_def] at told also
  rw [← Properties.tells_kind told, ← Properties.tells_kind also]

theorem luminances_recordOf (events : List InfoEvent) : (recordOf events).luminances = none := by
  induction events with
  | nil => rfl
  | cons event events ih => cases event <;> exact ih

theorem survives_of_sent {event : InfoEvent} (sent : event ∈ sendInformation (recordOf events)) :
    event.survives = true := by
  obtain ⟨kind, _, told⟩ := List.mem_filterMap.mp ((sendInformation_eq _) ▸ sent)
  cases kind with
  | iccFile =>
      obtain ⟨valid, ⟨⟩⟩ := Option.ite_none_right_eq_some.mp told
      exact decide_eq_true valid
  | luminances =>
      rw [Properties.tells, luminances_recordOf] at told
      cases told
  | _ =>
      obtain ⟨_, _, rfl⟩ := Option.map_eq_some_iff.mp told
      rfl

/-- The record of events of different kinds is sent as these events exactly when all of them survive. -/
theorem sendInformation_perm_iff (different : (events.map InfoEvent.kind).Nodup) :
    (sendInformation (recordOf events)).Perm events ↔ ∀ event ∈ events, event.survives = true := by
  constructor
  · intro same event member
    exact survives_of_sent (same.mem_iff.mpr member)
  · intro survive
    refine (List.perm_ext_iff_of_nodup (sendInformation_nodup _) (different.of_map _)).mpr fun event => ?_
    rw [sendInformation_eq, List.mem_filterMap, ← find?_kind_eq_some_iff different]
    constructor
    · rintro ⟨kind, _, told⟩
      rw [Properties.tells_kind told, ← tells_recordOf survive]
      exact told
    · intro found
      exact ⟨event.kind, InfoKind.mem_order _, (tells_recordOf survive _).trans found⟩

end Replay

theorem Shared.describes_once {descriptions : Heap UpstreamDescription} {properties : Heap Properties}
    {descs : Heap ForwardDesc} {held : PropertiesId → Nat} (shared : Shared descriptions properties descs held)
    {first second : PropertiesId} {one other : Properties} {description : UpstreamDesc}
    (found : properties.cell first = some one) (describes : one.description = some description)
    (there : properties.cell second = some other) (also : other.description = some description) : first = second := by
  by_contra apart
  have amount := shared.owned description
  have bound := Bool.toNat_le (descriptions.live description)
  have rest := properties.count_free (fun record => record.description == some description) there
  have positive : 0 < (properties.free second).count fun record => record.description == some description :=
    Heap.count_pos ((Heap.cell_free_other _ apart).trans found) (by rw [describes, beq_self_eq_true])
  rw [also, beq_self_eq_true, Bool.toNat_true] at rest
  unfold owners at amount
  omega

/-- An observer notes which description each information object is about and what arrived about it, newest first. -/
structure InformationNote where
  about : InfoId → UpstreamDesc
  arrived : UpstreamDesc → List InfoEvent

/-- At first nothing arrived. -/
def InformationNote.blank : InformationNote := ⟨fun _ => 0, fun _ => []⟩

namespace InformationNote

variable (note : InformationNote) (info : InfoId) (description : UpstreamDesc) (event : InfoEvent)

/-- An information object is about a description. -/
def asks : InformationNote := { note with about := Function.update note.about info description }

/-- An event arrives about the description of an information object. -/
def hears : InformationNote :=
  { note with arrived := Function.update note.arrived (note.about info) (event :: note.arrived (note.about info)) }

theorem asks_about : (note.asks info description).about info = description := Function.update_self _ _ _

theorem asks_about_other {other : InfoId} (apart : other ≠ info) :
    (note.asks info description).about other = note.about other := Function.update_of_ne apart _ _

theorem hears_arrived : (note.hears info event).arrived (note.about info) = event :: note.arrived (note.about info) :=
  Function.update_self _ _ _

theorem hears_arrived_other {other : UpstreamDesc} (apart : other ≠ note.about info) :
    (note.hears info event).arrived other = note.arrived other := Function.update_of_ne apart _ _

end InformationNote

/-- A description that is ready has its information requested, and each event is about the description of its object. -/
def noteInformation (note : InformationNote) (scene : ColorScene) : ColorEvent → InformationNote
  | .ready description _ => note.asks scene.informations.next description
  | .information info event => note.hears info event
  | _ => note

/-- Every properties record holds what arrived about its description, and every information object belongs to a
description state that waits with the properties of the description that it is about. -/
structure Attributed (scene : ColorScene) (note : InformationNote) : Prop where
  matched : ∀ info id, Informs scene info id → ∀ owner, PendingProps scene id owner →
    owner.description = some (note.about info)
  recorded : ∀ shares owner description, scene.properties.cell shares = some owner →
    owner.description = some description → owner.informed = recordOf (note.arrived description)
  unborn : ∀ description, scene.descriptions.next ≤ description → note.arrived description = []
  silent : ∀ description id, Listens scene description id → note.arrived description = []
  answered : ∀ info id, Informs scene info id →
    note.about info < scene.descriptions.next ∧ ∀ who, ¬ Listens scene (note.about info) who
  apart : ∀ info id other who, Informs scene info id → Informs scene other who →
    note.about info = note.about other → info = other
  kinds : ∀ info record, scene.informations.cell info = some record →
    (note.arrived (note.about info)).map InfoEvent.kind = record.sent
  different : ∀ description, ((note.arrived description).map InfoEvent.kind).Nodup

namespace Attributed

variable {scene next : ColorScene} {note : InformationNote} {id : StateId} {state : ImageDescriptionState}

theorem spares (attributed : Attributed scene note) (spares : Spares scene next) : Attributed next note := by
  have informs {info : InfoId} {who : StateId} (now : Informs next info who) : Informs scene info who := by
    unfold Informs at now
    rw [spares.informations] at now
    exact now
  refine ⟨?_, ?_, ?_, ?_, ?_, ?_, ?_, attributed.different⟩
  · rintro info who now owner ⟨state, shares, present, pending, found⟩
    obtain ⟨old, there, changed⟩ := spares.properties shares owner found
    rw [spares.states] at present
    rw [changed]
    exact attributed.matched info who (informs now) old ⟨state, shares, present, pending, there⟩
  · intro shares owner description found described
    obtain ⟨old, there, changed⟩ := spares.properties shares owner found
    rw [changed] at described ⊢
    exact attributed.recorded shares old description there described
  · exact fun description above => attributed.unborn description (Nat.le_trans spares.later above)
  · exact fun description who now => attributed.silent description who (spares.listens _ _ now)
  · intro info who now
    obtain ⟨below, none_⟩ := attributed.answered info who (informs now)
    exact ⟨Nat.lt_of_lt_of_le below spares.later, fun other listens => none_ other (spares.listens _ _ listens)⟩
  · exact fun info who other whom now also => attributed.apart info who other whom (informs now) (informs also)
  · rw [spares.informations]
    exact attributed.kinds

theorem answer (attributed : Attributed scene note) (description : UpstreamDesc) :
    Attributed (answer scene description) note :=
  attributed.spares ⟨rfl, rfl, Nat.le_refl _, fun _ _ now => (Sound.listens_of_answer now).2,
    fun _ record found => ⟨record, found, rfl⟩⟩

theorem setState (attributed : Attributed scene note) {change : ImageDescriptionState → ImageDescriptionState}
    (waits : ∀ info, Informs scene info id → ∀ state, scene.states.cell id = some state →
      (change state).pending = state.pending) : Attributed (scene.setState id change) note := by
  refine ⟨?_, attributed.recorded, attributed.unborn, attributed.silent, attributed.answered, attributed.apart,
    attributed.kinds, attributed.different⟩
  rintro info who now owner ⟨state, shares, present, pending, found⟩
  obtain ⟨old, there, ⟨rfl, rfl⟩ | ⟨_, rfl⟩⟩ := scene.states.old_of_modify present
  · rw [waits info now old there] at pending
    exact attributed.matched info who now owner ⟨old, shares, there, pending, found⟩
  · exact attributed.matched info who now owner ⟨state, shares, there, pending, found⟩

theorem await (attributed : Attributed scene note) (sound : Sound scene) (idle : Idle scene id)
    {states : Heap ImageDescriptionState} (others : ∀ other, other ≠ id → states.cell other = scene.states.cell other) :
    Attributed { awaitDescription scene id with states := states } note := by
  have listens {description : UpstreamDesc} {who : StateId}
      (now : Listens { awaitDescription scene id with states := states } description who) :
      description = scene.descriptions.next ∨ Listens scene description who := by
    by_cases here : description = scene.descriptions.next
    · exact .inl here
    · exact .inr ((if_neg here).symm.trans now)
  refine ⟨?_, ?_, ?_, ?_, ?_, attributed.apart, attributed.kinds, attributed.different⟩
  · rintro info who now owner ⟨state, shares, present, pending, found⟩
    have elsewhere : who ≠ id := by
      rintro rfl
      exact idle.informed info now
    rw [others who elsewhere] at present
    obtain ⟨known, there⟩ := sound.pending_present present pending
    cases (Heap.cell_alloc_of_live _ _ there).symm.trans found
    exact attributed.matched info who now _ ⟨state, shares, present, pending, there⟩
  · intro shares owner description found described
    rcases scene.properties.old_of_alloc found with ⟨_, rfl⟩ | ⟨_, old⟩
    · cases described
      rw [attributed.unborn _ (Nat.le_refl _)]
      rfl
    · exact attributed.recorded shares owner description old described
  · exact fun description above => attributed.unborn description (Nat.le_of_succ_le above)
  · intro description who now
    rcases listens now with rfl | old
    · exact attributed.unborn _ (Nat.le_refl _)
    · exact attributed.silent description who old
  · intro info who now
    obtain ⟨below, none_⟩ := attributed.answered info who now
    refine ⟨Nat.lt_succ_of_lt below, fun other also => ?_⟩
    rcases listens also with new | old
    · exact Nat.ne_of_lt below new
    · exact none_ other old

theorem requested (attributed : Attributed scene note) (sound : Sound scene)
    (present : scene.states.cell id = some state) (rests : state.pending = none) :
    Attributed (requested scene id) note := by
  have idle : Idle scene id := sound.exchanging.idle fun other found => by
    cases present.symm.trans found
    exact rests
  exact attributed.await sound idle fun _ elsewhere => Heap.cell_modify_other _ _ elsewhere

theorem concluded (attributed : Attributed scene note) (idle : Idle scene id)
    (present : scene.states.cell id = some state) (concluded : Concluded scene next id state) :
    Attributed next note := by
  obtain ⟨_, middle, spares, sound, rfl⟩ := concluded
  have there : middle.states.cell id = some state := by rw [spares.states, present]
  have after : Attributed (committed middle id) note :=
    (attributed.spares spares).setState fun info now => absurd now ((idle.spares spares).informed info)
  have placed : (committed middle id).states.cell id =
      some { state with current := state.pending, pending := none } :=
    (Heap.cell_modify_self _ _ _).trans (congrArg _ there)
  split
  · exact after.requested sound placed rfl
  · exact after

theorem setProps (attributed : Attributed scene note) (target : PropertiesId) {change : Properties → Properties}
    (description : ∀ record, (change record).description = record.description)
    (informed : ∀ record, (change record).informed = record.informed) :
    Attributed (scene.setProps target change) note := by
  refine ⟨?_, ?_, attributed.unborn, attributed.silent, attributed.answered, attributed.apart, attributed.kinds,
    attributed.different⟩
  · rintro info who now owner ⟨state, shares, present, pending, found⟩
    obtain ⟨old, there, ⟨_, rfl⟩ | ⟨_, rfl⟩⟩ := scene.properties.old_of_modify found
    · exact (description old).trans (attributed.matched info who now old ⟨state, shares, present, pending, there⟩)
    · exact attributed.matched info who now owner ⟨state, shares, present, pending, there⟩
  · intro shares owner name found described
    obtain ⟨old, there, ⟨_, rfl⟩ | ⟨_, rfl⟩⟩ := scene.properties.old_of_modify found
    · rw [description] at described
      rw [informed]
      exact attributed.recorded shares old name there described
    · exact attributed.recorded shares owner name there described

theorem readied (attributed : Attributed scene note) (sound : Sound scene) {description : UpstreamDesc}
    (listens : Listens scene description id) (present : scene.states.cell id = some state) {shares : PropertiesId}
    (pending : state.pending = some shares) {owner : Properties} (found : scene.properties.cell shares = some owner)
    (owns : owner.description = some description) (identity : Identity) :
    Attributed (readied (Color.answer scene description) id shares identity)
      (note.asks scene.informations.next description) := by
  have idle := sound.idle_of_answer listens
  have written : Attributed ((Color.answer scene description).setProps shares identity.write) note :=
    (attributed.answer description).setProps shares (fun record => by cases identity <;> rfl)
      fun record => by cases identity <;> rfl
  have informs {info : InfoId} {who : StateId}
      (now : Informs (Color.readied (Color.answer scene description) id shares identity) info who) :
      info = scene.informations.next ∧ who = id ∨
        info ≠ scene.informations.next ∧ who ≠ id ∧ Informs scene info who := by
    obtain ⟨sent, there⟩ := now
    rcases scene.informations.old_of_alloc there with ⟨new, same⟩ | ⟨elsewhere, old⟩
    · cases same
      exact .inl ⟨new, rfl⟩
    · refine .inr ⟨elsewhere, ?_, sent, old⟩
      rintro rfl
      exact idle.informed info ⟨sent, old⟩
  refine ⟨?_, written.recorded, written.unborn, written.silent, ?_, ?_, ?_, attributed.different⟩
  · rintro info who now new ⟨waiting, named, placed, waits, there⟩
    rcases informs now with ⟨rfl, rfl⟩ | ⟨elsewhere, other, old⟩
    · cases ((Heap.cell_modify_self _ _ _).trans (congrArg _ present)).symm.trans placed
      cases pending.symm.trans waits
      cases ((Heap.cell_modify_self _ _ _).trans (congrArg _ found)).symm.trans there
      rw [note.asks_about]
      cases identity <;> exact owns
    · rw [note.asks_about_other _ _ elsewhere]
      exact written.matched info who old new
        ⟨waiting, named, (Heap.cell_modify_other _ _ other).symm.trans placed, waits, there⟩
  · intro info who now
    rcases informs now with ⟨rfl, rfl⟩ | ⟨elsewhere, _, old⟩
    · rw [note.asks_about]
      exact ⟨scene.descriptions.live_below listens, fun other also => (Sound.listens_of_answer also).1 rfl⟩
    · rw [note.asks_about_other _ _ elsewhere]
      exact written.answered info who old
  · intro info who other whom now also same
    rcases informs now with ⟨rfl, _⟩ | ⟨elsewhere, _, old⟩
    · rcases informs also with ⟨rfl, _⟩ | ⟨apart, _, rival⟩
      · rfl
      · rw [note.asks_about, note.asks_about_other _ _ apart] at same
        exact absurd (same ▸ listens) ((attributed.answered other whom rival).2 id)
    · rcases informs also with ⟨rfl, _⟩ | ⟨apart, _, rival⟩
      · rw [note.asks_about, note.asks_about_other _ _ elsewhere] at same
        exact absurd (same ▸ listens) ((attributed.answered info who old).2 id)
      · rw [note.asks_about_other _ _ elsewhere, note.asks_about_other _ _ apart] at same
        exact attributed.apart info who other whom old rival same
  · intro info record there
    rcases scene.informations.old_of_alloc there with ⟨rfl, rfl⟩ | ⟨elsewhere, old⟩
    · rw [note.asks_about]
      exact congrArg (List.map InfoEvent.kind) (attributed.silent description id listens)
    · rw [note.asks_about_other _ _ elsewhere]
      exact attributed.kinds info record old

theorem received (attributed : Attributed scene note) (sound : Sound scene) {info : InfoId} {sent : List InfoKind}
    (found : scene.informations.cell info = some ⟨id, sent⟩) (present : scene.states.cell id = some state)
    {shares : PropertiesId} (pending : state.pending = some shares) {event : InfoEvent} (unsent : event.kind ∉ sent) :
    Attributed (received scene info shares event) (note.hears info event) := by
  have here : Informs scene info id := ⟨sent, found⟩
  have description (record : Properties) : (event.write record).description = record.description := by
    cases event <;> rfl
  have informed (record : Properties) : (event.write record).informed = event.write record.informed := by
    cases event <;> rfl
  obtain ⟨owner, known⟩ := sound.pending_present present pending
  have owns := attributed.matched info id here owner ⟨state, shares, present, pending, known⟩
  have informs {other : InfoId} {who : StateId} (now : Informs (Color.received scene info shares event) other who) :
      Informs scene other who := by
    obtain ⟨sent, there⟩ := now
    obtain ⟨⟨listener, earlier⟩, before, ⟨_, changed⟩ | ⟨_, same⟩⟩ := scene.informations.old_of_modify there
    · cases congrArg Information.listener changed
      exact ⟨earlier, before⟩
    · cases same
      exact ⟨sent, before⟩
  obtain ⟨below, answered⟩ := attributed.answered info id here
  refine ⟨?_, ?_, ?_, ?_, fun other who now => attributed.answered other who (informs now), ?_, ?_, ?_⟩
  · rintro other who now new ⟨waiting, named, placed, waits, there⟩
    obtain ⟨old, before, ⟨_, rfl⟩ | ⟨_, rfl⟩⟩ := scene.properties.old_of_modify there
    · exact (description old).trans
        (attributed.matched other who (informs now) old ⟨waiting, named, placed, waits, before⟩)
    · exact attributed.matched other who (informs now) new ⟨waiting, named, placed, waits, before⟩
  · intro named new name there described
    obtain ⟨old, before, ⟨rfl, rfl⟩ | ⟨elsewhere, rfl⟩⟩ := scene.properties.old_of_modify there
    · cases known.symm.trans before
      cases owns.symm.trans ((description owner).symm.trans described)
      rw [note.hears_arrived, informed, attributed.recorded named owner _ known owns]
      rfl
    · have other : name ≠ note.about info := by
        rintro rfl
        exact elsewhere (sound.held.shared.describes_once before described known owns)
      rw [note.hears_arrived_other _ _ other]
      exact attributed.recorded named new name before described
  · intro name above
    rw [note.hears_arrived_other _ _ (Nat.ne_of_gt (Nat.lt_of_lt_of_le below above))]
    exact attributed.unborn name above
  · intro name who listens
    have other : name ≠ note.about info := by
      rintro rfl
      exact answered who listens
    rw [note.hears_arrived_other _ _ other]
    exact attributed.silent name who listens
  · exact fun other who another whom now also => attributed.apart other who another whom (informs now) (informs also)
  · intro other record there
    obtain ⟨old, before, ⟨rfl, rfl⟩ | ⟨elsewhere, rfl⟩⟩ := scene.informations.old_of_modify there
    · cases found.symm.trans before
      show ((note.hears other event).arrived (note.about other)).map InfoEvent.kind = _
      rw [note.hears_arrived, List.map_cons, attributed.kinds other _ found]
    · have apart : note.about other ≠ note.about info := fun same =>
        elsewhere (attributed.apart other record.listener info id ⟨record.sent, before⟩ here same)
      show ((note.hears info event).arrived (note.about other)).map InfoEvent.kind = _
      rw [note.hears_arrived_other _ _ apart]
      exact attributed.kinds other record before
  · intro name
    by_cases same : name = note.about info
    · subst same
      rw [note.hears_arrived, List.map_cons, List.nodup_cons, attributed.kinds info _ found]
      exact ⟨unsent, attributed.kinds info _ found ▸ attributed.different (note.about info)⟩
    · rw [note.hears_arrived_other _ _ same]
      exact attributed.different name

theorem finished (attributed : Attributed scene note) (info : InfoId) :
    Attributed { scene with informations := scene.informations.free info } note := by
  exact ⟨fun other who now => attributed.matched other who (informs_of_finished now).2, attributed.recorded,
    attributed.unborn, attributed.silent,
    fun other who now => attributed.answered other who (informs_of_finished now).2,
    fun other who another whom now also =>
      attributed.apart other who another whom (informs_of_finished now).2 (informs_of_finished also).2,
    fun other record there => attributed.kinds other record (scene.informations.old_of_free there),
    attributed.different⟩

theorem asked (attributed : Attributed scene note) (description : UpstreamDesc) :
    Attributed scene (note.asks scene.informations.next description) := by
  have same {info : InfoId} {record : Information} (found : scene.informations.cell info = some record) :
      (note.asks scene.informations.next description).about info = note.about info :=
    note.asks_about_other _ _ (Nat.ne_of_lt (scene.informations.live_below found))
  have about {info : InfoId} {who : StateId} (now : Informs scene info who) :
      (note.asks scene.informations.next description).about info = note.about info := same now.choose_spec
  refine ⟨?_, attributed.recorded, attributed.unborn, attributed.silent, ?_, ?_, ?_, attributed.different⟩
  · intro info who now owner has
    rw [about now]
    exact attributed.matched info who now owner has
  · intro info who now
    rw [about now]
    exact attributed.answered info who now
  · intro info who other whom now also equal
    rw [about now, about also] at equal
    exact attributed.apart info who other whom now also equal
  · intro info record found
    rw [same found]
    exact attributed.kinds info record found

theorem step (attributed : Attributed scene note) (sound : Sound scene) {event : ColorEvent}
    (moved : coloring.machine.step scene event next) : Attributed next (noteInformation note scene event) := by
  obtain ⟨allowed, succeeded⟩ := moved
  have straight : ¬ Strays scene event := fun strays => by
    cases (handleColor_strays strays).symm.trans succeeded
  have calm {condition : Prop} (same : Halt.assertion = Halt.invalidPointer) : condition := nomatch same
  cases event with
  | outputAdded =>
      cases succeeded
      have idle : Idle scene scene.states.next := sound.exchanging.idle fun state present => by
        cases (Heap.cell_next _).symm.trans present
      exact attributed.await sound idle fun _ elsewhere => if_neg elsewhere
  | changed id =>
      obtain ⟨state, present⟩ := Option.isSome_iff_exists.mp allowed
      have own : state.surface = false := by
        by_contra other
        exact straight ⟨state, present, (Bool.not_eq_false _).mp other⟩
      have delivers : Delivers Halt.invalidPointer (handleChanged scene id) _ :=
        handleChanged_delivers sound present own calm
      obtain ⟨_, rfl⟩ := delivers.ensures next succeeded
      split
      · exact attributed.setState fun _ _ _ _ => rfl
      · rename_i rests
        exact attributed.requested sound present (Option.isNone_iff_eq_none.mp (by simpa using rests))
  | failed description cause msg =>
      have delivers : Delivers Halt.invalidPointer
          (answerWith scene description fun scene id => imageDescHandleFailed scene id cause msg)
          fun next => Attributed next note := by
        refine answerWith_delivers allowed (fun _ => attributed.answer description) fun id listens => ?_
        obtain ⟨state, shares, present, pending, _⟩ := sound.exchanging.listening description id listens
        obtain ⟨owner, found⟩ := sound.pending_present present pending
        have idle := sound.idle_of_answer listens
        have failed : Attributed (failing (Color.answer scene description) shares cause msg) note :=
          (attributed.answer description).setProps shares (fun _ => rfl) fun _ => rfl
        exact (imageDescHandleFailed_delivers (sound.answer description) idle present pending found cause msg
          calm).weaken fun _ after => failed.concluded ⟨idle.answered, idle.informed⟩ present after.2
      exact delivers.ensures next succeeded
  | ready description identity =>
      have delivers : Delivers Halt.invalidPointer
          (answerWith scene description fun scene id => imageDescHandleReady scene id description identity)
          fun next => Attributed next (note.asks scene.informations.next description) := by
        refine answerWith_delivers allowed (fun own => ?_) fun id listens => ?_
        · exact (attributed.answer description).asked description
        · obtain ⟨state, shares, present, pending, owns⟩ := sound.exchanging.listening description id listens
          obtain ⟨owner, found⟩ := sound.pending_present present pending
          refine (imageDescHandleReady_delivers (sound.answer description) (sound.idle_of_answer listens) present
            pending found (owns owner found) identity calm).weaken ?_
          rintro _ ⟨_, rfl⟩
          exact attributed.readied sound listens present pending found (owns owner found) identity
      exact delivers.ensures next succeeded
  | information info event =>
      obtain ⟨⟨id, sent⟩, found, unsent⟩ := (Option.any_eq_true _ _).mp allowed
      obtain ⟨state, shares, present, pending, _⟩ := sound.exchanging.informing info id ⟨sent, found⟩
      obtain ⟨owner, there⟩ := sound.pending_present present pending
      have delivers : Delivers Halt.invalidPointer (imageDescInfoHandle scene info event) _ :=
        imageDescInfoHandle_delivers sound found present pending there event calm
      obtain ⟨_, rfl⟩ := delivers.ensures next succeeded
      exact attributed.received sound found present pending (by simpa using unsent)
  | done info =>
      obtain ⟨⟨id, sent⟩, found⟩ := Option.isSome_iff_exists.mp allowed
      obtain ⟨state, _, present, _⟩ := sound.exchanging.informing info id ⟨sent, found⟩
      have delivers : Delivers Halt.invalidPointer (imageDescInfoHandleDone scene info) _ :=
        imageDescInfoHandleDone_delivers sound ⟨sent, found⟩ present calm
      exact (attributed.finished info).concluded (sound.idle_of_finished ⟨sent, found⟩) present
        (delivers.ensures next succeeded).2
  | _ =>
      exact attributed.spares ((handleColor_tends sound allowed straight rfl).ensures next succeeded).spares

end Attributed

theorem attributed_of_reachable {pair : ColorScene × InformationNote}
    (reachable : (coloring.machine.observed .blank noteInformation).Reachable pair) : Attributed pair.1 pair.2 := by
  refine reachable.invariant_under (fun pair => Sound pair.1) (fun pair => Attributed pair.1 pair.2)
    (fun _ before => sound_of_reachable before.of_observed) ?_ ?_
  · rintro ⟨_, _⟩ ⟨rfl, rfl⟩
    have empty : Attributed .empty .blank := by
      refine ⟨?_, ?_, fun _ _ => rfl, fun _ _ _ => rfl, ?_, ?_, ?_, fun _ => List.nodup_nil⟩
      · exact fun _ _ now => now.elim fun _ found => (not_found_empty found).elim
      · exact fun _ _ _ found => (not_found_empty found).elim
      · exact fun _ _ now => now.elim fun _ found => (not_found_empty found).elim
      · exact fun _ _ _ _ now => now.elim fun _ found => (not_found_empty found).elim
      · exact fun _ _ found => (not_found_empty found).elim
    have idle : Idle .empty 0 := empty_sound.exchanging.idle fun _ found => (not_found_empty found).elim
    exact empty.await empty_sound idle fun _ elsewhere => if_neg elsewhere
  · rintro ⟨scene, note⟩ event ⟨next, _⟩ sound attributed ⟨moved, rfl⟩
    exact attributed.step sound moved

/-- A plugin that asks for the information about a description of the compositor receives what the compositor sent, up
to its order, and the end of it, exactly when everything that was sent survives being recorded. -/
theorem information_replayed {pair : ColorScene × InformationNote}
    (reachable : (coloring.machine.observed .blank noteInformation).Reachable pair) {desc : DescId}
    {record : ForwardDesc} {properties : PropertiesId} {description : UpstreamDesc}
    (present : pair.1.descs.cell desc = some record) (given : record.properties = some properties)
    (describes : record.description = some description) :
    ∃ sent : List InfoEvent, nestedImageDescGetInformation pair.1 desc = .ok (some (sent.map .information ++ [.done])) ∧
      (sent.Perm (pair.2.arrived description) ↔ ∀ event ∈ pair.2.arrived description, event.survives = true) := by
  have attributed := attributed_of_reachable reachable
  have sound := sound_of_reachable reachable.of_observed
  obtain ⟨owner, found, same⟩ := sound.held.shared.same desc record present properties given
  have recorded := attributed.recorded properties owner description found (same.trans describes)
  refine ⟨sendInformation owner, ?_, ?_⟩
  · have read : pair.1.desc desc = .ok record := demand_ok.mpr present
    have shared : pair.1.props properties = .ok owner := demand_ok.mpr found
    rw [nestedImageDescGetInformation, read, ok_bind, given]
    show (pair.1.props properties >>= _) = _
    rw [shared]
    rfl
  · have replay := sendInformation_perm_iff (attributed.different description)
    rw [← recorded] at replay
    exact replay

/-- The compositor sends some information about the preferred description, and a plugin asks for the description of a
surface that is on no output. -/
def informedEvents (first second : InfoEvent) : List ColorEvent :=
  [.ready 0 (.v1 3), .information 0 first, .information 0 second, .done 0, .createSurface, .getSurfaceFeedback 0,
    .getPreferred 0 none false]

/-- A description of the plugin has the properties of the compositor's description. -/
def describedDesc (pair : ColorScene × InformationNote) : Bool :=
  (pair.1.descs.cell 0).any fun record => record.properties == some 0 && record.description == some 0

/-- The transfer function and the maximal light level are replayed. -/
theorem tf_replayed :
    ∃ pair : ColorScene × InformationNote, (coloring.machine.observed .blank noteInformation).Reachable pair ∧
      ∃ sent : List InfoEvent, nestedImageDescGetInformation pair.1 0 = .ok (some (sent.map .information ++ [.done])) ∧
        sent.Perm [.tfNamed 9, .targetMaxCll 1000] := by
  obtain ⟨pair, reachable, passed⟩ := coloring.play_observed InformationNote.blank noteInformation
    (informedEvents (.targetMaxCll 1000) (.tfNamed 9))
    (fun pair => describedDesc pair && pair.2.arrived 0 == [.tfNamed 9, .targetMaxCll 1000])
    (rfl : coloring.initial colorStart) (by decide +kernel : ((coloring.observed _ _).play _ _).any _ = true)
  obtain ⟨described, arrived⟩ := (Bool.and_eq_true _ _).mp passed
  obtain ⟨record, present, names⟩ := (Option.any_eq_true _ _).mp described
  obtain ⟨given, describes⟩ := (Bool.and_eq_true _ _).mp names
  obtain ⟨sent, answered, replayed⟩ :=
    information_replayed reachable present (beq_iff_eq.mp given) (beq_iff_eq.mp describes)
  rw [beq_iff_eq.mp arrived] at replayed
  exact ⟨pair, reachable, sent, answered, replayed.mpr (by decide)⟩

/-- The luminances are replayed as those of the target. -/
theorem luminances_replayed_as_target :
    ∃ pair : ColorScene × InformationNote, (coloring.machine.observed .blank noteInformation).Reachable pair ∧
      pair.2.arrived 0 = [.tfNamed 9, .luminances 2000 80 80] ∧ nestedImageDescGetInformation pair.1 0 =
        .ok (some [.information (.tfNamed 9), .information (.targetLuminance 2000 80), .done]) := by
  obtain ⟨pair, reachable, passed⟩ := coloring.play_observed InformationNote.blank noteInformation
    (informedEvents (.luminances 2000 80 80) (.tfNamed 9))
    (fun pair => pair.2.arrived 0 == [.tfNamed 9, .luminances 2000 80 80] &&
      (nestedImageDescGetInformation pair.1 0).toOption ==
        some (some [.information (.tfNamed 9), .information (.targetLuminance 2000 80), .done]))
    (rfl : coloring.initial colorStart) (by decide +kernel : ((coloring.observed _ _).play _ _).any _ = true)
  obtain ⟨arrived, answered⟩ := (Bool.and_eq_true _ _).mp passed
  refine ⟨pair, reachable, beq_iff_eq.mp arrived, ?_⟩
  have answer := beq_iff_eq.mp answered
  cases computed : nestedImageDescGetInformation pair.1 0 with
  | error fault =>
      rw [computed] at answer
      cases answer
  | ok messages =>
      rw [computed] at answer
      exact congrArg Except.ok (Option.some.inj answer)

end SwaylockPlugin.Color
