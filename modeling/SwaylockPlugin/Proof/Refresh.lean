import SwaylockPlugin.Proof.References

namespace SwaylockPlugin.Color

open Library

/-- A change that is notified while a request is in progress is remembered until the request is over. -/
def notify (notified : StateId → Bool) (scene : ColorScene) (event : ColorEvent) : StateId → Bool :=
  match event with
  | .changed id => Function.update notified id ((scene.states.cell id).any fun state => state.pending.isSome)
  | event =>
      match event.ends scene with
      | some id => Function.update notified id false
      | none => notified

/-- A description state waits for a description that was requested since. -/
def Renewed (scene next : ColorScene) (id : StateId) : Prop :=
  ∃ description, scene.descriptions.next ≤ description ∧ Listens next description id

/-- At the end of its exchange a description state has no information request, and it has pending properties exactly
when it made a new request, which it does exactly when a change was notified meanwhile. -/
def Concludes (scene next : ColorScene) (notified : StateId → Bool) (id : StateId) : Prop :=
  ∃ state, next.states.cell id = some state ∧ state.infoRequest = none ∧
    (state.pending.isSome = true ↔ Renewed scene next id) ∧ (Renewed scene next id ↔ notified id = true)

/-- An event proceeds when its handler succeeds and concludes the exchange that it ends. -/
def Proceeds (scene : ColorScene) (notified : StateId → Bool) (event : ColorEvent) : Prop :=
  ∃ next, handleColor scene event = .ok next ∧ ∀ id, event.ends scene = some id → Concludes scene next notified id

/-- The information about a description never ends, and no output has its description changed. -/
def unread (scene : ColorScene) : ColorEvent → Bool
  | .done _ => false
  | .changed id => (scene.states.cell id).any fun state => !state.surface
  | _ => true

/-- These are the pending properties of a description state. -/
def PendingProps (scene : ColorScene) (id : StateId) (owner : Properties) : Prop :=
  ∃ state shares, scene.states.cell id = some state ∧ state.pending = some shares ∧
    scene.properties.cell shares = some owner

/-- In a prompt scene the description states are ready for every event that proceeds. -/
structure Prompt (scene : ColorScene) (notified : StateId → Bool) : Prop where
  waiting : ∀ description id, Listens scene description id → ∀ state, scene.states.cell id = some state →
    state.infoRequest = none
  resting : ∀ id state, scene.states.cell id = some state → state.pending = none → state.infoRequest = none
  noted : ∀ id state, scene.states.cell id = some state → state.dirty = notified id
  unborn : ∀ id, scene.states.cell id = none → notified id = false
  apart : ∀ id state, scene.states.cell id = some state → ∀ other rival, scene.states.cell other = some rival →
    ∀ shares, state.pending = some shares → rival.pending = some shares → id = other
  blank : ∀ description id, Listens scene description id → ∀ owner, PendingProps scene id owner →
    owner.failureReason = none ∧ owner.iccProfile = -1
  unsent : ∀ info record, scene.informations.cell info = some record → record.sent.elem .iccFile = false →
    ∀ owner, PendingProps scene record.listener owner → owner.iccProfile = -1

namespace Prompt

variable {scene next : ColorScene} {notified : StateId → Bool} {id : StateId} {state : ImageDescriptionState}

theorem spares (prompt : Prompt scene notified) (spares : Spares scene next) : Prompt next notified := by
  have before {who : StateId} {owner : Properties} (now : PendingProps next who owner) :
      ∃ old, PendingProps scene who old ∧ owner.failureReason = old.failureReason ∧ owner.iccProfile = old.iccProfile := by
    obtain ⟨state, shares, present, pending, found⟩ := now
    obtain ⟨old, there, changed⟩ := spares.properties shares owner found
    rw [spares.states] at present
    exact ⟨old, ⟨state, shares, present, pending, there⟩, by rw [changed], by rw [changed]⟩
  refine ⟨?_, ?_, ?_, ?_, ?_, ?_, ?_⟩
  · rw [spares.states]
    exact fun description id now => prompt.waiting description id (spares.listens description id now)
  · rw [spares.states]
    exact prompt.resting
  · rw [spares.states]
    exact prompt.noted
  · rw [spares.states]
    exact prompt.unborn
  · rw [spares.states]
    exact prompt.apart
  · intro description id now owner holds
    obtain ⟨old, held, reason, icc⟩ := before holds
    rw [reason, icc]
    exact prompt.blank description id (spares.listens description id now) old held
  · rw [spares.informations]
    intro info record present unsent owner holds
    obtain ⟨old, held, _, icc⟩ := before holds
    rw [icc]
    exact prompt.unsent info record present unsent old held

theorem answer (prompt : Prompt scene notified) (description : UpstreamDesc) :
    Prompt (answer scene description) notified :=
  prompt.spares ⟨rfl, rfl, Nat.le_refl _, fun _ _ now => (Sound.listens_of_answer now).2,
    fun _ record found => ⟨record, found, rfl⟩⟩

theorem await (prompt : Prompt scene notified) (sound : Sound scene) (idle : Idle scene id) {states : Heap ImageDescriptionState}
    (placed : states.cell id = some state) (pending : state.pending = some scene.properties.next)
    (clean : state.dirty = false) (asks : state.infoRequest = none)
    (others : ∀ other, other ≠ id → states.cell other = scene.states.cell other) :
    Prompt { awaitDescription scene id with states := states } (Function.update notified id false) := by
  have before {other : UpstreamDesc} {who : StateId} (now : Listens { awaitDescription scene id with states := states } other who)
      (elsewhere : who ≠ id) : Listens scene other who := by
    by_cases here : other = scene.descriptions.next
    · subst here
      cases (Heap.cell_alloc_next _ _).symm.trans now
      exact absurd rfl elsewhere
    · exact (if_neg here).symm.trans now
  have earlier {who : StateId} {owner : Properties}
      (now : PendingProps { awaitDescription scene id with states := states } who owner) (elsewhere : who ≠ id) :
      PendingProps scene who owner := by
    obtain ⟨old, shares, present, waits, found⟩ := now
    have there := (others who elsewhere).symm.trans present
    obtain ⟨known, holds⟩ := sound.pending_present there waits
    cases (Heap.cell_alloc_of_live _ _ holds).symm.trans found
    exact ⟨old, shares, there, waits, holds⟩
  have fresh {who : StateId} {rival : ImageDescriptionState} (present : scene.states.cell who = some rival)
      (waits : rival.pending = some scene.properties.next) : False := by
    obtain ⟨known, holds⟩ := sound.pending_present present waits
    cases (Heap.cell_next _).symm.trans holds
  refine ⟨?_, ?_, ?_, ?_, ?_, ?_, ?_⟩
  · intro other who now old present
    by_cases here : who = id
    · subst here
      cases placed.symm.trans present
      exact asks
    · exact prompt.waiting other who (before now here) old ((others who here).symm.trans present)
  · intro who old present rests
    by_cases here : who = id
    · subst here
      cases placed.symm.trans present
      exact asks
    · exact prompt.resting who old ((others who here).symm.trans present) rests
  · intro who old present
    by_cases here : who = id
    · subst here
      cases placed.symm.trans present
      rw [Function.update_self, clean]
    · rw [Function.update_of_ne here]
      exact prompt.noted who old ((others who here).symm.trans present)
  · intro who absent
    by_cases here : who = id
    · subst here
      cases placed.symm.trans absent
    · rw [Function.update_of_ne here]
      exact prompt.unborn who ((others who here).symm.trans absent)
  · intro who old present other rival also shares waits named
    by_cases here : who = id
    · subst here
      cases placed.symm.trans present
      cases pending.symm.trans waits
      by_cases there : other = who
      · exact there.symm
      · exact (fresh ((others other there).symm.trans also) named).elim
    · by_cases there : other = id
      · subst there
        cases placed.symm.trans also
        cases pending.symm.trans named
        exact (fresh ((others who here).symm.trans present) waits).elim
      · exact prompt.apart who old ((others who here).symm.trans present) other rival
          ((others other there).symm.trans also) shares waits named
  · intro other who now owner holds
    by_cases here : who = id
    · subst here
      obtain ⟨old, shares, present, waits, found⟩ := holds
      cases placed.symm.trans present
      cases pending.symm.trans waits
      cases (Heap.cell_alloc_next _ _).symm.trans found
      exact ⟨rfl, rfl⟩
    · exact prompt.blank other who (before now here) owner (earlier holds here)
  · intro info record present unsent owner holds
    have elsewhere : record.listener ≠ id := fun same => idle.informed info ⟨record.sent, by rw [← same]; exact present⟩
    exact prompt.unsent info record present unsent owner (earlier holds elsewhere)

theorem requested (prompt : Prompt scene notified) (sound : Sound scene) (present : scene.states.cell id = some state)
    (rests : state.pending = none) : Prompt (requested scene id) (Function.update notified id false) := by
  have idle : Idle scene id := sound.exchanging.idle fun other found => by
    cases present.symm.trans found
    exact rests
  exact prompt.await sound idle ((Heap.cell_modify_self _ _ _).trans (congrArg _ present)) rfl rfl
    (prompt.resting id state present rests) fun _ elsewhere => Heap.cell_modify_other _ _ elsewhere

theorem setupDescriptionState (prompt : Prompt scene notified) (sound : Sound scene) (surface : Bool) :
    Prompt (setupDescriptionState scene surface) notified := by
  have idle : Idle scene scene.states.next := sound.exchanging.idle fun state present => by
    cases (Heap.cell_next _).symm.trans present
  have same : Function.update notified scene.states.next false = notified :=
    Function.update_eq_self_iff.mpr (prompt.unborn _ (Heap.cell_next _)).symm
  rw [← same]
  exact prompt.await sound idle (Heap.cell_alloc_next _ _) rfl rfl rfl fun _ elsewhere => if_neg elsewhere

theorem committed (prompt : Prompt scene notified) (present : scene.states.cell id = some state)
    (asks : state.infoRequest = none) : Prompt (committed scene id) notified := by
  have before {who : StateId} {new : ImageDescriptionState} (placed : (Color.committed scene id).states.cell who = some new) :
      ∃ old, scene.states.cell who = some old ∧ new.infoRequest = old.infoRequest ∧ new.dirty = old.dirty ∧
        (who ≠ id → new = old) ∧ (who = id → new.pending = none) := by
    obtain ⟨old, there, ⟨same, rfl⟩ | ⟨elsewhere, rfl⟩⟩ := scene.states.old_of_modify placed
    · exact ⟨old, there, rfl, rfl, fun other => absurd same other, fun _ => rfl⟩
    · exact ⟨new, there, rfl, rfl, fun _ => rfl, fun same => absurd same elsewhere⟩
  have earlier {who : StateId} {new : ImageDescriptionState} {shares : PropertiesId}
      (placed : (Color.committed scene id).states.cell who = some new) (waits : new.pending = some shares) :
      scene.states.cell who = some new := by
    obtain ⟨old, there, _, _, same, none_⟩ := before placed
    by_cases here : who = id
    · cases waits.symm.trans (none_ here)
    · rw [same here]
      exact there
  have holds {who : StateId} {owner : Properties} (now : PendingProps (Color.committed scene id) who owner) :
      PendingProps scene who owner := by
    obtain ⟨new, shares, placed, waits, found⟩ := now
    exact ⟨new, shares, earlier placed waits, waits, found⟩
  refine ⟨?_, ?_, ?_, ?_, ?_, fun description who now owner has => prompt.blank description who now owner (holds has),
    fun info record found unsent owner has => prompt.unsent info record found unsent owner (holds has)⟩
  · intro description who now new placed
    obtain ⟨old, there, request, _⟩ := before placed
    exact request.trans (prompt.waiting description who now old there)
  · intro who new placed rests
    obtain ⟨old, there, request, _, same, _⟩ := before placed
    by_cases here : who = id
    · subst here
      cases present.symm.trans there
      exact request.trans asks
    · rw [same here] at rests
      exact request.trans (prompt.resting who old there rests)
  · intro who new placed
    obtain ⟨old, there, _, dirty, _⟩ := before placed
    exact dirty.trans (prompt.noted who old there)
  · intro who absent
    refine prompt.unborn who ?_
    by_contra there
    obtain ⟨old, found⟩ := Option.ne_none_iff_exists'.mp there
    by_cases here : who = id
    · subst here
      cases ((Heap.cell_modify_self _ _ _).trans (congrArg _ found)).symm.trans absent
    · cases ((Heap.cell_modify_other _ _ here).trans found).symm.trans absent
  · intro who new placed other rival also shares waits named
    exact prompt.apart who new (earlier placed waits) other rival (earlier also named) shares waits named

theorem concluded (prompt : Prompt scene notified) (idle : Idle scene id) (present : scene.states.cell id = some state)
    (asks : state.infoRequest = none) (concluded : Concluded scene next id state) :
    Prompt next (Function.update notified id false) ∧ Concludes scene next notified id := by
  obtain ⟨_, middle, spares, sound, rfl⟩ := concluded
  have there : middle.states.cell id = some state := by rw [spares.states, present]
  have after := (prompt.spares spares).committed there asks
  have placed : (Color.committed middle id).states.cell id =
      some { state with current := state.pending, pending := none } :=
    (Heap.cell_modify_self _ _ _).trans (congrArg _ there)
  have noted := prompt.noted id state present
  split
  · rename_i dirty
    refine ⟨after.requested sound placed rfl, _, (Heap.cell_modify_self _ _ _).trans (congrArg _ placed), asks, ?_, ?_⟩
    · exact ⟨fun _ => ⟨_, spares.later, Heap.cell_alloc_next _ _⟩, fun _ => rfl⟩
    · exact ⟨fun _ => noted.symm.trans dirty, fun _ => ⟨_, spares.later, Heap.cell_alloc_next _ _⟩⟩
  · rename_i clean
    rw [Bool.not_eq_true] at clean
    have none_ : ¬ Renewed scene (Color.committed middle id) id := fun ⟨description, _, now⟩ =>
      idle.answered description (spares.listens description id now)
    refine ⟨?_, _, placed, asks, ?_, ?_⟩
    · rw [Function.update_eq_self_iff.mpr (noted.symm.trans clean).symm]
      exact after
    · exact ⟨nofun, fun renewed => absurd renewed none_⟩
    · exact ⟨fun renewed => absurd renewed none_, fun owed => by cases (noted.trans owed).symm.trans clean⟩

theorem mark (prompt : Prompt scene notified) (present : scene.states.cell id = some state)
    (_ : state.pending.isSome = true) :
    Prompt (scene.setState id fun state => { state with dirty := true }) (Function.update notified id true) := by
  have before {who : StateId} {new : ImageDescriptionState}
      (placed : (scene.states.modify id fun state => { state with dirty := true }).cell who = some new) :
      ∃ old, scene.states.cell who = some old ∧ new.infoRequest = old.infoRequest ∧ new.pending = old.pending ∧
        (who = id → new.dirty = true) ∧ (who ≠ id → new.dirty = old.dirty) := by
    obtain ⟨old, there, ⟨same, rfl⟩ | ⟨elsewhere, rfl⟩⟩ := scene.states.old_of_modify placed
    · exact ⟨old, there, rfl, rfl, fun _ => rfl, fun other => absurd same other⟩
    · exact ⟨new, there, rfl, rfl, fun same => absurd same elsewhere, fun _ => rfl⟩
  have holds {who : StateId} {owner : Properties}
      (now : PendingProps (scene.setState id fun state => { state with dirty := true }) who owner) :
      PendingProps scene who owner := by
    obtain ⟨new, shares, placed, names, found⟩ := now
    obtain ⟨old, there, _, same, _⟩ := before placed
    exact ⟨old, shares, there, same.symm.trans names, found⟩
  refine ⟨?_, ?_, ?_, ?_, ?_, fun description who now owner has => prompt.blank description who now owner (holds has),
    fun info record found unsent owner has => prompt.unsent info record found unsent owner (holds has)⟩
  · intro description who now new placed
    obtain ⟨old, there, request, _⟩ := before placed
    exact request.trans (prompt.waiting description who now old there)
  · intro who new placed rests
    obtain ⟨old, there, request, same, _⟩ := before placed
    exact request.trans (prompt.resting who old there (same.symm.trans rests))
  · intro who new placed
    obtain ⟨old, there, _, _, here, elsewhere⟩ := before placed
    by_cases same : who = id
    · rw [same, Function.update_self]
      exact here same
    · rw [Function.update_of_ne same]
      exact (elsewhere same).trans (prompt.noted who old there)
  · intro who absent
    by_cases same : who = id
    · subst same
      cases ((Heap.cell_modify_self _ _ _).trans (congrArg _ present)).symm.trans absent
    · rw [Function.update_of_ne same]
      exact prompt.unborn who ((Heap.cell_modify_other _ _ same).symm.trans absent)
  · intro who new placed other rival also shares names named
    obtain ⟨old, there, _, same, _⟩ := before placed
    obtain ⟨past, their, _, alike, _⟩ := before also
    exact prompt.apart who old there other past their shares (same.symm.trans names) (alike.symm.trans named)

theorem elsewhere (prompt : Prompt scene notified) (present : scene.states.cell id = some state)
    {shares : PropertiesId} (pending : state.pending = some shares) {change : Properties → Properties} {who : StateId}
    {owner : Properties} (now : PendingProps (scene.setProps shares change) who owner) (other : who ≠ id) :
    PendingProps scene who owner := by
  obtain ⟨old, named, there, waits, found⟩ := now
  have apart : named ≠ shares := by
    rintro rfl
    exact other (prompt.apart who old there id state present named waits pending)
  exact ⟨old, named, there, waits, (Heap.cell_modify_other _ _ apart).symm.trans found⟩

theorem setProps (prompt : Prompt scene notified) (idle : Idle scene id) (present : scene.states.cell id = some state)
    {shares : PropertiesId} (pending : state.pending = some shares) (change : Properties → Properties) :
    Prompt (scene.setProps shares change) notified := by
  refine ⟨prompt.waiting, prompt.resting, prompt.noted, prompt.unborn, prompt.apart, ?_, ?_⟩
  · intro description who now owner holds
    have other : who ≠ id := by
      rintro rfl
      exact idle.answered description now
    exact prompt.blank description who now owner (prompt.elsewhere present pending holds other)
  · intro info record found unsent owner holds
    have other : record.listener ≠ id := fun same => idle.informed info ⟨record.sent, by rw [← same]; exact found⟩
    exact prompt.unsent info record found unsent owner (prompt.elsewhere present pending holds other)

theorem readied (prompt : Prompt scene notified) (idle : Idle scene id) (present : scene.states.cell id = some state)
    {shares : PropertiesId} (pending : state.pending = some shares) {owner : Properties}
    (found : scene.properties.cell shares = some owner) (blank : owner.iccProfile = -1) (identity : Identity) :
    Prompt (readied scene id shares identity) notified := by
  have before {who : StateId} {new : ImageDescriptionState} (placed : (scene.states.modify id fun state =>
      { state with infoRequest := some scene.informations.next }).cell who = some new) :
      ∃ old, scene.states.cell who = some old ∧ new.pending = old.pending ∧ new.dirty = old.dirty ∧
        (who ≠ id → new.infoRequest = old.infoRequest) := by
    obtain ⟨old, there, ⟨same, rfl⟩ | ⟨_, rfl⟩⟩ := scene.states.old_of_modify placed
    · exact ⟨old, there, rfl, rfl, fun other => absurd same other⟩
    · exact ⟨new, there, rfl, rfl, fun _ => rfl⟩
  have holds {who : StateId} {owner : Properties} (now : PendingProps (Color.readied scene id shares identity) who owner) :
      PendingProps (scene.setProps shares identity.write) who owner := by
    obtain ⟨new, named, placed, waits, there⟩ := now
    obtain ⟨old, before, same, _⟩ := before placed
    exact ⟨old, named, before, same.symm.trans waits, there⟩
  refine ⟨?_, ?_, ?_, ?_, ?_, ?_, ?_⟩
  · intro description who now new placed
    have other : who ≠ id := by
      rintro rfl
      exact idle.answered description now
    obtain ⟨old, there, _, _, request⟩ := before placed
    exact (request other).trans (prompt.waiting description who now old there)
  · intro who new placed rests
    obtain ⟨old, there, same, _, request⟩ := before placed
    have other : who ≠ id := by
      rintro rfl
      cases present.symm.trans there
      cases pending.symm.trans (same.symm.trans rests)
    exact (request other).trans (prompt.resting who old there (same.symm.trans rests))
  · intro who new placed
    obtain ⟨old, there, _, dirty, _⟩ := before placed
    exact dirty.trans (prompt.noted who old there)
  · intro who absent
    refine prompt.unborn who ?_
    by_contra there
    obtain ⟨old, known⟩ := Option.ne_none_iff_exists'.mp there
    by_cases here : who = id
    · subst here
      cases ((Heap.cell_modify_self _ _ _).trans (congrArg _ known)).symm.trans absent
    · cases ((Heap.cell_modify_other _ _ here).trans known).symm.trans absent
  · intro who new placed other rival also named waits awaits
    obtain ⟨old, there, same, _⟩ := before placed
    obtain ⟨past, their, alike, _⟩ := before also
    exact prompt.apart who old there other past their named (same.symm.trans waits) (alike.symm.trans awaits)
  · intro description who now new has
    have other : who ≠ id := by
      rintro rfl
      exact idle.answered description now
    exact prompt.blank description who now new (prompt.elsewhere present pending (holds has) other)
  · intro info record arrived unsent new has
    by_cases here : info = scene.informations.next
    · subst here
      cases (Heap.cell_alloc_next _ _).symm.trans arrived
      obtain ⟨old, named, there, waits, changed⟩ := holds has
      cases present.symm.trans there
      cases pending.symm.trans waits
      cases ((Heap.cell_modify_self _ _ _).trans (congrArg _ found)).symm.trans changed
      cases identity <;> exact blank
    · have known := (if_neg here).symm.trans arrived
      have other : record.listener ≠ id := fun same => idle.informed info ⟨record.sent, by rw [← same]; exact known⟩
      exact prompt.unsent info record known unsent new (prompt.elsewhere present pending (holds has) other)

theorem received (prompt : Prompt scene notified) (sound : Sound scene) {info : InfoId} {sent : List InfoKind}
    (found : scene.informations.cell info = some ⟨id, sent⟩) (present : scene.states.cell id = some state)
    {shares : PropertiesId} (pending : state.pending = some shares) (event : InfoEvent) :
    Prompt (received scene info shares event) notified := by
  refine ⟨prompt.waiting, prompt.resting, prompt.noted, prompt.unborn, prompt.apart, ?_, ?_⟩
  · intro description who now owner holds
    have other : who ≠ id := by
      rintro rfl
      exact sound.exchanging.exclusive description info who now ⟨sent, found⟩
    exact prompt.blank description who now owner (prompt.elsewhere present pending holds other)
  · intro other record arrived unsent owner holds
    obtain ⟨old, known, ⟨rfl, rfl⟩ | ⟨apart, rfl⟩⟩ := scene.informations.old_of_modify arrived
    · cases found.symm.trans known
      obtain ⟨old, named, there, waits, changed⟩ := holds
      cases present.symm.trans there
      cases pending.symm.trans waits
      obtain ⟨before, placed⟩ := sound.pending_present present pending
      cases ((Heap.cell_modify_self _ _ _).trans (congrArg _ placed)).symm.trans changed
      rw [List.elem_eq_mem, decide_eq_false_iff_not, List.mem_cons, not_or] at unsent
      have earlier : sent.elem .iccFile = false := by
        rw [List.elem_eq_mem, decide_eq_false_iff_not]
        exact unsent.2
      have kept : (event.write before).iccProfile = before.iccProfile := by
        cases event with
        | iccFile => exact absurd rfl unsent.1
        | _ => rfl
      rw [kept]
      exact prompt.unsent other _ found earlier before ⟨state, shares, present, pending, placed⟩
    · have different : record.listener ≠ id := by
        rintro rfl
        obtain ⟨one, _, here, _, request⟩ := sound.exchanging.informing info record.listener ⟨sent, found⟩
        obtain ⟨same, _, there, _, asks⟩ := sound.exchanging.informing other record.listener ⟨record.sent, known⟩
        cases here.symm.trans there
        exact apart (Option.some.inj (asks.symm.trans request))
      exact prompt.unsent other record known unsent owner (prompt.elsewhere present pending holds different)

end Prompt

/-- An event of the compositor that leaves the information unread proceeds and keeps a scene prompt. -/
theorem handleColor_proceeds {fatal : Halt} {scene : ColorScene} {notified : StateId → Bool} {event : ColorEvent}
    (sound : Sound scene) (prompt : Prompt scene notified) (allowed : colorEnabled scene event = true)
    (calm : unread scene event = true) (upstream : event.upstream = true) :
    Delivers fatal (handleColor scene event) fun next => Prompt next (notify notified scene event) ∧
      ∀ id, event.ends scene = some id → Concludes scene next notified id := by
  cases event with
  | outputAdded => exact .pure ⟨prompt.setupDescriptionState sound true, nofun⟩
  | changed id =>
      obtain ⟨state, present, own⟩ := (Option.any_eq_true _ _).mp calm
      rw [Bool.not_eq_true'] at own
      refine (handleChanged_delivers sound present own fun _ rests => prompt.resting id state present rests).weaken ?_
      rintro next ⟨_, rfl⟩
      refine ⟨?_, nofun⟩
      unfold notify
      dsimp only
      rw [present, Option.any_some]
      split
      · rename_i waits
        rw [waits]
        exact prompt.mark present waits
      · rename_i rests
        rw [Bool.not_eq_true] at rests
        rw [rests]
        exact prompt.requested sound present (Option.isNone_iff_eq_none.mp (Option.isSome_eq_false_iff.mp rests))
  | failed description cause msg =>
      change Delivers _ (answerWith scene description fun scene id => imageDescHandleFailed scene id cause msg) _
      refine answerWith_delivers allowed (fun own => ?_) fun id listens => ?_
      · have ends : (ColorEvent.failed description cause msg).ends scene = none :=
          congrArg (Option.bind · UpstreamDescription.listener) own
        unfold notify
        dsimp only
        rw [ends]
        exact ⟨prompt.answer description, nofun⟩
      · have ends : (ColorEvent.failed description cause msg).ends scene = some id :=
          congrArg (Option.bind · UpstreamDescription.listener) listens
        unfold notify
        dsimp only
        rw [ends]
        obtain ⟨state, shares, present, pending, _⟩ := sound.exchanging.listening description id listens
        obtain ⟨owner, found⟩ := sound.pending_present present pending
        have asks := prompt.waiting description id listens state present
        have blank := prompt.blank description id listens owner ⟨state, shares, present, pending, found⟩
        have idle := sound.idle_of_answer listens
        have failing_ : Prompt (failing (answer scene description) shares cause msg) notified :=
          (prompt.answer description).setProps idle present pending _
        refine (imageDescHandleFailed_delivers (sound.answer description) idle present pending found cause msg
          fun _ => ⟨blank.1, fun _ => asks⟩).weaken ?_
        rintro next ⟨_, concluded⟩
        have after := failing_.concluded ⟨idle.answered, idle.informed⟩ present asks concluded
        refine ⟨after.1, ?_⟩
        rintro _ ⟨⟩
        exact after.2
  | ready description identity =>
      change Delivers _ (answerWith scene description fun scene id =>
        imageDescHandleReady scene id description identity) _
      refine answerWith_delivers allowed (fun _ => ⟨prompt.answer description, nofun⟩) fun id listens => ?_
      obtain ⟨state, shares, present, pending, owns⟩ := sound.exchanging.listening description id listens
      obtain ⟨owner, found⟩ := sound.pending_present present pending
      have asks := prompt.waiting description id listens state present
      have blank := prompt.blank description id listens owner ⟨state, shares, present, pending, found⟩
      have idle := sound.idle_of_answer listens
      refine (imageDescHandleReady_delivers (sound.answer description) idle present pending found (owns owner found)
        identity fun _ => asks).weaken ?_
      rintro _ ⟨_, rfl⟩
      exact ⟨(prompt.answer description).readied idle present pending found blank.2 identity, nofun⟩
  | information info event =>
      obtain ⟨⟨id, sent⟩, arrived, unsent⟩ := (Option.any_eq_true _ _).mp allowed
      obtain ⟨state, shares, present, pending, _⟩ := sound.exchanging.informing info id ⟨sent, arrived⟩
      obtain ⟨owner, found⟩ := sound.pending_present present pending
      rw [Bool.not_eq_true'] at unsent
      refine (imageDescInfoHandle_delivers sound arrived present pending found event fun _ icc => ?_).weaken ?_
      · rw [icc] at unsent
        exact prompt.unsent info _ arrived unsent owner ⟨state, shares, present, pending, found⟩
      · rintro _ ⟨_, rfl⟩
        exact ⟨prompt.received sound arrived present pending event, nofun⟩
  | done info => cases calm
  | _ => cases upstream

/-- The end of the information leaves the description state with its information request. -/
theorem done_keeps_request {scene next : ColorScene} (sound : Sound scene) {info : InfoId} {record : Information}
    (found : scene.informations.cell info = some record) (handled : handleColor scene (.done info) = .ok next) :
    ∃ state, next.states.cell record.listener = some state ∧ state.infoRequest = some info := by
  obtain ⟨state, shares, present, pending, request⟩ := sound.exchanging.informing info record.listener ⟨record.sent, found⟩
  have delivers : Delivers Halt.invalidPointer (handleColor scene (.done info)) _ :=
    imageDescInfoHandleDone_delivers sound ⟨record.sent, found⟩ present nofun
  obtain ⟨_, asks, middle, spares, _, rfl⟩ := delivers.ensures next handled
  have there : middle.states.cell record.listener = some state := by rw [spares.states, ← present]
  by_cases dirty : state.dirty = true
  · cases request.symm.trans (asks dirty)
  · rw [if_neg dirty]
    exact ⟨_, (Heap.cell_modify_self _ _ _).trans (congrArg _ there), request⟩

theorem colorStart_prompt : Prompt colorStart fun _ => false := by
  refine Prompt.setupDescriptionState ⟨?_, ?_, ?_, fun _ _ => rfl, ?_, ?_, ?_⟩ empty_sound false
  · exact fun _ _ found => (not_found_empty found).elim
  · exact fun _ _ found => (not_found_empty found).elim
  · exact fun _ _ found => (not_found_empty found).elim
  · exact fun _ _ found => (not_found_empty found).elim
  · exact fun _ _ found => (not_found_empty found).elim
  · exact fun _ _ found => (not_found_empty found).elim

theorem prompt_of_reachable {pair : ColorScene × (StateId → Bool)}
    (reachable : ((coloring.machine.guarded unread).observed (fun _ => false) notify).Reachable pair) :
    Prompt pair.1 pair.2 := by
  refine reachable.invariant_under (fun pair => Sound pair.1) (fun pair => Prompt pair.1 pair.2)
    (fun _ before => sound_of_reachable before.of_observed.of_restrict) ?_ ?_
  · rintro ⟨_, _⟩ ⟨rfl, rfl⟩
    exact colorStart_prompt
  · rintro ⟨scene, notified⟩ event ⟨next, _⟩ sound prompt ⟨⟨⟨allowed, succeeded⟩, calm⟩, rfl⟩
    cases upstream : event.upstream with
    | true =>
        have delivers : Delivers Halt.assertion (handleColor scene event) _ :=
          handleColor_proceeds sound prompt allowed calm upstream
        exact (delivers.ensures next succeeded).1
    | false =>
        have straight : ¬ Strays scene event := fun strays => by
          cases (handleColor_strays strays).symm.trans succeeded
        have tends := (handleColor_tends sound allowed straight upstream).ensures next succeeded
        have same : notify notified scene event = notified := by
          cases event <;> first | rfl | cases upstream
        rw [same]
        exact prompt.spares tends.spares

/-- In every run that leaves the information unread an event of the compositor proceeds exactly when it leaves the
information unread as well. -/
theorem exchanges_proceed_iff {pair : ColorScene × (StateId → Bool)}
    (reachable : ((coloring.machine.guarded unread).observed (fun _ => false) notify).Reachable pair)
    {event : ColorEvent} (upstream : event.upstream = true) (allowed : colorEnabled pair.1 event = true) :
    Proceeds pair.1 pair.2 event ↔ unread pair.1 event = true := by
  have sound := sound_of_reachable reachable.of_observed.of_restrict
  constructor
  · rintro ⟨next, handled, concludes⟩
    cases event with
    | done info =>
        obtain ⟨record, found⟩ := Option.isSome_iff_exists.mp allowed
        obtain ⟨state, placed, keeps⟩ := done_keeps_request sound found handled
        obtain ⟨other, there, asks, _⟩ := concludes record.listener (congrArg (Option.map Information.listener) found)
        cases placed.symm.trans there
        cases keeps.symm.trans asks
    | changed id =>
        obtain ⟨state, present⟩ := Option.isSome_iff_exists.mp allowed
        refine (Option.any_eq_true _ _).mpr ⟨state, present, ?_⟩
        rw [Bool.not_eq_true']
        by_contra output
        have strays : Strays pair.1 (.changed id) := ⟨state, present, (Bool.not_eq_false _).mp output⟩
        cases (handleColor_strays strays).symm.trans handled
    | _ => rfl
  · intro calm
    obtain ⟨next, handled, _, concludes⟩ := Delivers.returns Halt.assertion fun _ =>
      handleColor_proceeds sound (prompt_of_reachable reachable) allowed calm upstream
    exact ⟨next, handled, concludes⟩

/-- A change that is notified before a description fails leads to another request. -/
theorem exchanges_proceed_failed : ∃ pair : ColorScene × (StateId → Bool), pair.2 0 = true ∧
    Proceeds pair.1 pair.2 (.failed 0 1 "unsupported") := by
  obtain ⟨pair, reachable, passed⟩ := (coloring.guarded unread).play_observed (fun _ => false) notify
    [.changed 0] (fun pair => pair.2 0 && colorEnabled pair.1 (.failed 0 1 "unsupported"))
    (rfl : coloring.initial colorStart) (by decide +kernel : (((coloring.guarded unread).observed _ _).play _ _).any _ = true)
  rw [Program.guarded_machine] at reachable
  obtain ⟨notified, allowed⟩ := (Bool.and_eq_true _ _).mp passed
  exact ⟨pair, notified, (exchanges_proceed_iff reachable rfl allowed).mpr rfl⟩

/-- The second request for a description fails its assertion once the information about the first one has ended. -/
theorem change_after_done_fails : ¬ ∀ pair : ColorScene × (StateId → Bool),
    (coloring.machine.observed (fun _ => false) notify).Reachable pair → ∀ event : ColorEvent, event.upstream = true →
      colorEnabled pair.1 event = true → Proceeds pair.1 pair.2 event := by
  intro claim
  obtain ⟨pair, reachable, passed⟩ := coloring.play_observed (fun _ => false) notify
    [.ready 0 (.v1 3), .done 0]
    (fun pair => colorEnabled pair.1 (.changed 0) && match handleColor pair.1 (.changed 0) with
      | .ok _ => false
      | .error halt => halt == .assertion)
    (rfl : coloring.initial colorStart) (by decide +kernel : ((coloring.observed _ _).play _ _).any _ = true)
  obtain ⟨allowed, fails⟩ := (Bool.and_eq_true _ _).mp passed
  obtain ⟨next, handled, _⟩ := claim pair reachable (.changed 0) rfl allowed
  rw [handled] at fails
  cases fails

end SwaylockPlugin.Color
