import Mathlib.Data.List.Basic
import SwaylockPlugin.Construction.ColorManager

namespace SwaylockPlugin.ColorManager

open Library Color

/-- An event may announce a rendering intent. -/
def ManagerEvent.intent? : ManagerEvent → Option UInt32
  | .supportedIntent renderIntent => some renderIntent
  | _ => none

/-- An event may announce a feature. -/
def ManagerEvent.feature? : ManagerEvent → Option UInt32
  | .supportedFeature feature => some feature
  | _ => none

/-- An event may announce a transfer function. -/
def ManagerEvent.tf? : ManagerEvent → Option UInt32
  | .supportedTfNamed tf => some tf
  | _ => none

/-- An event may announce some primaries. -/
def ManagerEvent.primaries? : ManagerEvent → Option UInt32
  | .supportedPrimariesNamed primaries => some primaries
  | _ => none

/-- These are the announcements among some events. -/
def announcements (events : List ColorManagerEvent) : List ManagerEvent :=
  events.filterMap fun
    | .announced event => some event
    | _ => none

/-- These are the requests for a resource among some events. -/
def requestsOn (resource : ResourceId) (events : List ColorManagerEvent) : List ParamsRequest :=
  events.filterMap fun
    | .set target request => if target = resource then some request else none
    | _ => none

section Bind

variable (constants : ProtocolConstants) (version : UInt32)

/-- A rendering intent is valid in a version that has it. -/
def validIntent (intent : UInt32) : Bool :=
  decide (constants.renderIntentAbsoluteNoAdaptationSinceVersion ≤ version) ||
    intent != constants.renderIntentAbsoluteNoAdaptation

/-- A transfer function that a version lacks is announced as another one. -/
def announcedTf (tf : UInt32) : UInt32 :=
  if constants.transferFunctionCompoundPower24SinceVersion ≤ version then tf
  else if tf = constants.transferFunctionCompoundPower24 then constants.transferFunctionSrgb
  else tf

/-- A plugin that binds a version should be told this about what was announced upstream. -/
def toldTo (announced : List ManagerEvent) : List ManagerEvent :=
  ((announced.filterMap ManagerEvent.intent?).filter (validIntent constants version)).map .supportedIntent ++
    ((announced.filterMap ManagerEvent.feature?).map .supportedFeature ++
      (announced.filterMap ManagerEvent.tf?).map (fun tf => .supportedTfNamed (announcedTf constants version tf)) ++
      (announced.filterMap ManagerEvent.primaries?).map .supportedPrimariesNamed ++ [.done])

theorem sentTf_eq (tf : UInt32) : sentTf constants version tf = announcedTf constants version tf := by
  unfold sentTf announcedTf
  by_cases recent : constants.transferFunctionCompoundPower24SinceVersion ≤ version
  · simp [recent]
  · simp [recent]

theorem lacksIntent_eq (intent : UInt32) :
    lacksIntent constants version intent = !validIntent constants version intent := by
  unfold lacksIntent validIntent
  rw [Bool.not_or, bne, Bool.not_not]

variable {constants version}

theorem sendSupportedIntents_valid {rest : List ManagerEvent} {intents : List UInt32}
    (valid : ∀ intent ∈ intents, validIntent constants version intent = true) :
    sendSupportedIntents constants version rest intents = intents.map .supportedIntent ++ rest := by
  induction intents with
  | nil => rfl
  | cons intent intents ih =>
      rw [sendSupportedIntents, lacksIntent_eq, valid intent List.mem_cons_self]
      have tail := ih fun other member => valid other (List.mem_cons_of_mem _ member)
      rw [tail]
      rfl

/-- The loop returns at an intent that is not valid, and no event but intents was sent then. -/
theorem sendSupportedIntents_stops {rest : List ManagerEvent} {intents : List UInt32} {invalid : UInt32}
    (member : invalid ∈ intents) (lacks : validIntent constants version invalid = false) :
    ManagerEvent.done ∉ sendSupportedIntents constants version rest intents := by
  induction intents with
  | nil => cases member
  | cons intent intents ih =>
      rw [sendSupportedIntents, lacksIntent_eq]
      cases valid : validIntent constants version intent with
      | false => exact List.not_mem_nil
      | true =>
          rcases List.mem_cons.mp member with rfl | later
          · rw [lacks] at valid
            cases valid
          · rintro (_ | ⟨_, sent⟩)
            exact ih later sent

theorem intents_valid_iff (intents : List UInt32) :
    (∀ intent ∈ intents, validIntent constants version intent = true) ↔
      constants.renderIntentAbsoluteNoAdaptationSinceVersion ≤ version ∨
        constants.renderIntentAbsoluteNoAdaptation ∉ intents := by
  by_cases recent : constants.renderIntentAbsoluteNoAdaptationSinceVersion ≤ version
  · simp [validIntent, recent]
  · simp only [validIntent, recent, decide_false, Bool.false_or, bne_iff_ne, false_or]
    constructor
    · intro others member
      exact others _ member rfl
    · rintro absent intent member rfl
      exact absent member

end Bind

/-- The state holds what was announced, in order. -/
structure Announced (state : ManagerState) (announced : List ManagerEvent) : Prop where
  intents : state.supportedIntents = announced.filterMap ManagerEvent.intent?
  features : state.supportedFeatures = announced.filterMap ManagerEvent.feature?
  tfs : state.supportedTfs = announced.filterMap ManagerEvent.tf?
  primaries : state.supportedPrimaries = announced.filterMap ManagerEvent.primaries?

/-- The plugin is told what was announced unless the version lacks one of the intents. -/
theorem Announced.bind {state : ManagerState} {announced : List ManagerEvent} (holds : Announced state announced)
    (constants : ProtocolConstants) (version : UInt32) :
    bindColorManager constants version state = toldTo constants version announced ↔
      constants.renderIntentAbsoluteNoAdaptationSinceVersion ≤ version ∨
        constants.renderIntentAbsoluteNoAdaptation ∉ announced.filterMap ManagerEvent.intent? := by
  rw [← intents_valid_iff]
  unfold bindColorManager toldTo
  rw [holds.intents, holds.features, holds.tfs, holds.primaries]
  simp only [sentTf_eq]
  constructor
  · intro same intent member
    by_contra lacks
    have ends := eq_iff_iff.mp (congrArg (fun events => ManagerEvent.done ∈ events) same)
    exact sendSupportedIntents_stops member ((Bool.not_eq_true _).mp lacks) (ends.mpr (by simp))
  · intro valid
    rw [sendSupportedIntents_valid valid, List.filter_eq_self.mpr valid]

theorem Announced.listen {state : ManagerState} {announced : List ManagerEvent} (holds : Announced state announced)
    (event : ManagerEvent) : Announced (colorManagerListener state event) (announced ++ [event]) := by
  obtain ⟨intents, features, tfs, primaries⟩ := holds
  cases event <;> constructor <;>
    simp [colorManagerListener, colorSupportedIntent, colorSupportedFeature, colorSupportedTf, colorSupportedPrimaries,
      colorMgrDone, List.filterMap_append, ManagerEvent.intent?, ManagerEvent.feature?, ManagerEvent.tf?,
      ManagerEvent.primaries?, intents, features, tfs, primaries]

section Creators

variable {state next : ManagerState} {resource : ResourceId}

/-- The setters that the table names for each other's requests exchange them. -/
def ParamsRequest.forwarded : ParamsRequest → ParamsRequest
  | .setMaxCll maxCll => .setMaxFall maxCll
  | .setMaxFall maxFall => .setMaxCll maxFall
  | request => request

/-- A request limits the light level of the content or of a frame. -/
def ParamsRequest.limitsLight : ParamsRequest → Bool
  | .setMaxCll _ | .setMaxFall _ => true
  | _ => false

theorem ParamsRequest.forwarded_eq_iff (request : ParamsRequest) :
    request.forwarded = request ↔ request.limitsLight = false := by
  cases request <;> simp [forwarded, limitsLight]

theorem descCreatorParamsImpl_eq (request : ParamsRequest) :
    descCreatorParamsImpl request = nestedDescCreatorParamsSet request.forwarded := by
  cases request <;> rfl

theorem call_eq {creator : CreatorId} {change : UpstreamCreator → UpstreamCreator}
    (computed : state.call creator change = .ok next) :
    next = { state with upstream := state.upstream.modify creator change } := by
  obtain ⟨_, _, computed⟩ := bind_ok.mp computed
  obtain ⟨_, _, computed⟩ := bind_ok.mp computed
  cases computed
  rfl

theorem creator_eq {creator : CreatorId} (computed : state.creator resource = .ok creator) :
    state.creators.cell resource = some (some creator) := by
  obtain ⟨user, present, named⟩ := bind_ok.mp computed
  rw [demand_ok.mp present, demand_ok.mp named]

theorem set_eq {request : ParamsRequest} (computed : descCreatorParamsImpl request state resource = .ok next) :
    ∃ creator, state.creators.cell resource = some (some creator) ∧
      next = { state with upstream := state.upstream.modify creator fun record =>
        { record with requests := record.requests ++ [request.forwarded] } } := by
  rw [descCreatorParamsImpl_eq] at computed
  obtain ⟨creator, named, computed⟩ := bind_ok.mp computed
  exact ⟨creator, creator_eq named, call_eq computed⟩

theorem create_eq (computed : nestedDescCreatorParamsCreate state resource = .ok next) :
    ∃ creator, next = { state with
      upstream := state.upstream.modify creator fun record => { record with proxy := false, created := true }
      creators := state.creators.modify resource fun _ => none } := by
  obtain ⟨creator, _, computed⟩ := bind_ok.mp computed
  obtain ⟨_, called, computed⟩ := bind_ok.mp computed
  cases computed
  exact ⟨creator, by rw [call_eq called]⟩

theorem destroyed_eq (computed : descCreatorParamsHandleResourceDestroy state resource = .ok next) :
    next = { state with creators := state.creators.free resource } ∨ ∃ creator, next = { state with
      upstream := state.upstream.modify creator fun record => { record with proxy := false }
      creators := state.creators.free resource } := by
  obtain ⟨user, _, computed⟩ := bind_ok.mp computed
  cases user with
  | none =>
      cases computed
      exact .inl rfl
  | some creator =>
      obtain ⟨_, called, computed⟩ := bind_ok.mp computed
      cases computed
      exact .inr ⟨creator, by rw [call_eq called]⟩

end Creators

theorem Announced.step {constants : ProtocolConstants} {state next : ManagerState} {past : List ColorManagerEvent}
    {event : ColorManagerEvent} (holds : Announced state (announcements past))
    (moved : (managing constants).machine.step state event next) :
    Announced next (announcements (past ++ [event])) := by
  have stays (lists : next.supportedIntents = state.supportedIntents ∧
      next.supportedFeatures = state.supportedFeatures ∧ next.supportedTfs = state.supportedTfs ∧
      next.supportedPrimaries = state.supportedPrimaries)
      (silent : announcements (past ++ [event]) = announcements past) :
      Announced next (announcements (past ++ [event])) := by
    rw [silent]
    obtain ⟨intents, features, tfs, primaries⟩ := lists
    exact ⟨intents.trans holds.intents, features.trans holds.features, tfs.trans holds.tfs,
      primaries.trans holds.primaries⟩
  have silent (quiet : announcements [event] = []) : announcements (past ++ [event]) = announcements past := by
    unfold announcements at quiet ⊢
    rw [List.filterMap_append, quiet, List.append_nil]
  obtain ⟨_, computed⟩ := moved
  cases event with
  | announced event =>
      cases computed
      unfold announcements
      rw [List.filterMap_append]
      exact holds.listen event
  | globalCreated =>
      obtain ⟨_, _, computed⟩ := bind_ok.mp computed
      cases computed
      exact stays ⟨rfl, rfl, rfl, rfl⟩ (silent rfl)
  | bind version =>
      cases computed
      exact stays ⟨rfl, rfl, rfl, rfl⟩ (silent rfl)
  | createParametricCreator manager =>
      cases computed
      exact stays ⟨rfl, rfl, rfl, rfl⟩ (silent rfl)
  | set resource request =>
      obtain ⟨_, _, rfl⟩ := set_eq computed
      exact stays ⟨rfl, rfl, rfl, rfl⟩ (silent rfl)
  | create resource =>
      obtain ⟨_, rfl⟩ := create_eq computed
      exact stays ⟨rfl, rfl, rfl, rfl⟩ (silent rfl)
  | destroyed resource =>
      obtain rfl | ⟨_, rfl⟩ := destroyed_eq computed
      · exact stays ⟨rfl, rfl, rfl, rfl⟩ (silent rfl)
      · exact stays ⟨rfl, rfl, rfl, rfl⟩ (silent rfl)

/-- A plugin that binds the color manager is told exactly what was announced when its version has every intent. -/
theorem bind_announces {constants : ProtocolConstants} {start state next : ManagerState}
    {events : List ColorManagerEvent} {version : UInt32} (initial : (managing constants).machine.initial start)
    (run : (managing constants).machine.Run start events state)
    (bound : (managing constants).machine.step state (.bind version) next) :
    ∃ received, next.managers.cell state.managers.next = some ⟨version, received⟩ ∧
      (received = toldTo constants version (announcements events) ↔
        constants.renderIntentAbsoluteNoAdaptationSinceVersion ≤ version ∨
          constants.renderIntentAbsoluteNoAdaptation ∉ (announcements events).filterMap ManagerEvent.intent?) := by
  cases initial
  have holds := run.recorded (fun state past => Announced state (announcements past))
    (fun _ _ _ _ holds moved => holds.step moved) [] ⟨rfl, rfl, rfl, rfl⟩
  obtain ⟨_, computed⟩ := bound
  cases computed
  exact ⟨_, Heap.cell_alloc_next _ _, holds.bind constants version⟩

/-- In the second version of the protocol the constants have these values. -/
def colorManagementV1 : ProtocolConstants := ⟨5, 2, 14, 2, 9⟩

/-- The compositor announces the perceptual intent, the newest one and sRGB before the global is created. -/
def newIntentEvents : List ColorManagerEvent :=
  [.announced (.supportedIntent 0), .announced (.supportedIntent 5), .announced (.supportedTfNamed 9),
    .announced .done, .globalCreated]

/-- A plugin that binds the second version is told everything. -/
theorem second_version_hears_all :
    ∃ state next, (managing colorManagementV1).machine.Run .start newIntentEvents state ∧
      (managing colorManagementV1).machine.step state (.bind 2) next ∧
        ∃ received, next.managers.cell state.managers.next = some ⟨2, received⟩ ∧
          received = [.supportedIntent 0, .supportedIntent 5, .supportedTfNamed 9, .done] := by
  obtain ⟨state, run, stepped⟩ := (managing colorManagementV1).play_runs newIntentEvents
    ((managing colorManagementV1).stepsTo (.bind 2) fun _ _ => true)
    (by decide +kernel : (((managing colorManagementV1).play .start newIntentEvents).any _) = true)
  obtain ⟨next, moved, _⟩ := (managing colorManagementV1).stepsTo_step stepped
  obtain ⟨received, present, complete⟩ := bind_announces rfl run moved
  refine ⟨state, next, run, moved, received, present, ?_⟩
  exact (complete.mpr (.inl (by decide))).trans (by decide +kernel)

/-- A plugin that binds the first version is told only the first intent. -/
theorem first_version_misses_done :
    ∃ state next, (managing colorManagementV1).machine.Run .start newIntentEvents state ∧
      (managing colorManagementV1).machine.step state (.bind 1) next ∧
        (next.managers.cell state.managers.next).map ManagerResource.received = some [.supportedIntent 0] ∧
          toldTo colorManagementV1 1 (announcements newIntentEvents) =
            [.supportedIntent 0, .supportedTfNamed 9, .done] := by
  obtain ⟨state, run, stepped⟩ := (managing colorManagementV1).play_runs newIntentEvents
    ((managing colorManagementV1).stepsTo (.bind 1) fun state next =>
      (next.managers.cell state.managers.next).map ManagerResource.received == some [.supportedIntent 0])
    (by decide +kernel :
      (((managing colorManagementV1).play .start newIntentEvents).any _) = true)
  obtain ⟨next, moved, received⟩ := (managing colorManagementV1).stepsTo_step stepped
  exact ⟨state, next, run, moved, beq_iff_eq.mp received, by decide +kernel⟩

theorem named_of_emptied {creators : Heap (Option CreatorId)} {resource other : ResourceId} {creator : CreatorId}
    (named : (creators.modify resource fun _ => none).cell other = some (some creator)) :
    creators.cell other = some (some creator) := by
  obtain ⟨old, present, ⟨_, emptied⟩ | ⟨_, rfl⟩⟩ := creators.old_of_modify named
  · cases emptied
  · exact present

/-- The user data of every resource names an upstream creator that was handed out. -/
def NamesCreators (state : ManagerState) : Prop :=
  ∀ resource creator, state.creators.cell resource = some (some creator) → creator < state.upstream.next

/-- A resource and its upstream creator are followed from their creation on: no other resource names the creator, which
received the forwarded requests. -/
structure Follows (resource : ResourceId) (creator : CreatorId) (state : ManagerState)
    (made : List ParamsRequest) : Prop where
  below : resource < state.creators.next
  names : ∀ other named, state.creators.cell other = some (some named) → (named = creator ↔ other = resource)
  received : ∃ record, state.upstream.cell creator = some record ∧
    record.requests = made.map ParamsRequest.forwarded

section Follow

variable {constants : ProtocolConstants} {state next : ManagerState} {event : ColorManagerEvent}

theorem NamesCreators.step (names : NamesCreators state) (moved : (managing constants).machine.step state event next) :
    NamesCreators next := by
  obtain ⟨_, computed⟩ := moved
  cases event with
  | announced event =>
      cases computed
      cases event <;> exact names
  | globalCreated =>
      obtain ⟨_, _, computed⟩ := bind_ok.mp computed
      cases computed
      exact names
  | bind version =>
      cases computed
      exact names
  | createParametricCreator manager =>
      cases computed
      intro resource creator named
      rcases state.creators.old_of_alloc named with ⟨_, new⟩ | ⟨_, old⟩
      · cases new
        exact Nat.lt_succ_self _
      · exact Nat.lt_succ_of_lt (names resource creator old)
  | set resource request =>
      obtain ⟨_, _, rfl⟩ := set_eq computed
      exact names
  | create resource =>
      obtain ⟨_, rfl⟩ := create_eq computed
      exact fun other creator named => names other creator (named_of_emptied named)
  | destroyed resource =>
      obtain rfl | ⟨_, rfl⟩ := destroyed_eq computed
      · exact fun other creator named => names other creator (state.creators.old_of_free named)
      · exact fun other creator named => names other creator (state.creators.old_of_free named)

theorem NamesCreators.follows {manager : ResourceId} (names : NamesCreators state)
    (moved : (managing constants).machine.step state (.createParametricCreator manager) next) :
    Follows state.creators.next state.upstream.next next [] := by
  obtain ⟨_, computed⟩ := moved
  cases computed
  refine ⟨Nat.lt_succ_self _, fun other named present => ?_, _, Heap.cell_alloc_next _ _, rfl⟩
  rcases state.creators.old_of_alloc present with ⟨here, new⟩ | ⟨elsewhere, old⟩
  · cases new
    exact iff_of_true rfl here
  · exact iff_of_false (Nat.ne_of_lt (names other named old)) elsewhere

variable {resource : ResourceId} {creator : CreatorId} {made : List ParamsRequest}

theorem Follows.modified (holds : Follows resource creator state made) (target : CreatorId)
    {change : UpstreamCreator → UpstreamCreator} (same : ∀ record, (change record).requests = record.requests) :
    ∃ record, (state.upstream.modify target change).cell creator = some record ∧
      record.requests = made.map ParamsRequest.forwarded := by
  obtain ⟨record, present, received⟩ := holds.received
  rw [Heap.cell_modify]
  split
  · exact ⟨change record, by rw [present]; rfl, (same record).trans received⟩
  · exact ⟨record, present, received⟩

theorem Follows.set (holds : Follows resource creator state made) {target : ResourceId} {request : ParamsRequest}
    (computed : descCreatorParamsImpl request state target = .ok next) :
    Follows resource creator next (made ++ if target = resource then [request] else []) := by
  obtain ⟨named, present, rfl⟩ := set_eq computed
  obtain ⟨record, found, received⟩ := holds.received
  have here := holds.names target named present
  refine ⟨holds.below, holds.names, ?_⟩
  by_cases own : target = resource
  · rw [here.mpr own, if_pos own]
    refine ⟨_, (Heap.cell_modify_self _ _ _).trans (congrArg _ found), ?_⟩
    rw [List.map_append, ← received]
    rfl
  · have other : creator ≠ named := fun same => own (here.mp same.symm)
    rw [if_neg own, List.append_nil]
    exact ⟨record, (Heap.cell_modify_other _ _ other).trans found, received⟩

theorem requestsOn_concat (resource : ResourceId) (past : List ColorManagerEvent) (event : ColorManagerEvent) :
    requestsOn resource (past ++ [event]) = requestsOn resource past ++ requestsOn resource [event] :=
  List.filterMap_append

theorem Follows.step {past : List ColorManagerEvent} (holds : Follows resource creator state (requestsOn resource past))
    (moved : (managing constants).machine.step state event next) :
    Follows resource creator next (requestsOn resource (past ++ [event])) := by
  have unasked (quiet : requestsOn resource [event] = [])
      (kept : Follows resource creator next (requestsOn resource past)) :
      Follows resource creator next (requestsOn resource (past ++ [event])) := by
    rw [requestsOn_concat, quiet, List.append_nil]
    exact kept
  obtain ⟨_, computed⟩ := moved
  cases event with
  | announced event =>
      cases computed
      cases event <;> exact unasked rfl ⟨holds.below, holds.names, holds.received⟩
  | globalCreated =>
      obtain ⟨_, _, computed⟩ := bind_ok.mp computed
      cases computed
      exact unasked rfl ⟨holds.below, holds.names, holds.received⟩
  | bind version =>
      cases computed
      exact unasked rfl ⟨holds.below, holds.names, holds.received⟩
  | createParametricCreator manager =>
      cases computed
      obtain ⟨record, present, received⟩ := holds.received
      refine unasked rfl ⟨Nat.lt_succ_of_lt holds.below, fun other named there => ?_, record,
        state.upstream.cell_alloc_of_live _ present, received⟩
      rcases state.creators.old_of_alloc there with ⟨here, new⟩ | ⟨_, old⟩
      · cases new
        rw [here]
        exact iff_of_false (Nat.ne_of_gt (state.upstream.live_below present)) (Nat.ne_of_gt holds.below)
      · exact holds.names other named old
  | set target request =>
      have single : requestsOn resource [.set target request] = if target = resource then [request] else [] := by
        unfold requestsOn
        by_cases own : target = resource <;> simp [own]
      rw [requestsOn_concat, single]
      exact holds.set computed
  | create target =>
      obtain ⟨used, rfl⟩ := create_eq computed
      exact unasked rfl ⟨holds.below, fun other named present => holds.names other named (named_of_emptied present),
        holds.modified used fun _ => rfl⟩
  | destroyed target =>
      have names : ∀ other named, (state.creators.free target).cell other = some (some named) →
          (named = creator ↔ other = resource) :=
        fun other named present => holds.names other named (state.creators.old_of_free present)
      obtain rfl | ⟨used, rfl⟩ := destroyed_eq computed
      · exact unasked rfl ⟨holds.below, names, holds.received⟩
      · exact unasked rfl ⟨holds.below, names, holds.modified used fun _ => rfl⟩

end Follow

/-- Forwarded requests are the same ones exactly when none of them limits the light level. -/
theorem map_forwarded_eq_iff (requests : List ParamsRequest) :
    requests.map ParamsRequest.forwarded = requests ↔ ∀ request ∈ requests, request.limitsLight = false := by
  induction requests with
  | nil => simp
  | cons request requests ih =>
      rw [List.map_cons, List.cons_eq_cons, ih, ParamsRequest.forwarded_eq_iff, List.forall_mem_cons]

/-- An upstream creator receives the requests for its resource exactly when none of them limits the light level. -/
theorem creator_receives {constants : ProtocolConstants} {before first last : ManagerState} {manager : ResourceId}
    {events : List ColorManagerEvent} (reachable : (managing constants).machine.Reachable before)
    (created : (managing constants).machine.step before (.createParametricCreator manager) first)
    (run : (managing constants).machine.Run first events last) :
    ∃ creator, last.upstream.cell before.upstream.next = some creator ∧
      (creator.requests = requestsOn before.creators.next events ↔
        ∀ request ∈ requestsOn before.creators.next events, request.limitsLight = false) := by
  have names : NamesCreators before := by
    refine reachable.invariant NamesCreators ?_ fun _ _ _ holds moved => holds.step moved
    rintro _ rfl resource creator present
    cases present
  have follows := run.recorded
    (fun state past => Follows before.creators.next before.upstream.next state (requestsOn before.creators.next past))
    (fun _ _ _ _ holds moved => holds.step moved) [] (names.follows created)
  obtain ⟨creator, present, received⟩ := follows.received
  refine ⟨creator, present, ?_⟩
  rw [received]
  exact map_forwarded_eq_iff _

/-- A plugin binds the manager that was announced. -/
def boundEvents : List ColorManagerEvent := [.announced .done, .globalCreated, .bind 1]

theorem requests_follow (requests : List ParamsRequest) (check : ManagerState → ManagerState → Bool)
    (played : ((managing colorManagementV1).play .start boundEvents).any
      ((managing colorManagementV1).stepsTo (.createParametricCreator 0) fun before first =>
        ((managing colorManagementV1).play first (requests.map (.set 0))).any (check before)) = true) :
    ∃ before first last, (managing colorManagementV1).machine.Reachable before ∧
      (managing colorManagementV1).machine.step before (.createParametricCreator 0) first ∧
        (managing colorManagementV1).machine.Run first (requests.map (.set 0)) last ∧ check before last = true := by
  obtain ⟨before, first, reachable, created, continued⟩ :=
    (managing colorManagementV1).play_step boundEvents (.createParametricCreator 0) _ rfl played
  obtain ⟨last, run, passed⟩ := (managing colorManagementV1).play_runs _ _ continued
  exact ⟨before, first, last, reachable, created, run, passed⟩

/-- A plugin describes its content without a light level. -/
def luminanceRequests : List ParamsRequest :=
  [.setTfNamed 9, .setPrimariesNamed 6, .setLuminances 2000 80 80, .setMasteringLuminance 100 4000]

/-- The luminances reach the upstream creator as they are, between the requests around them. -/
theorem luminances_received :
    ∃ before first last, (managing colorManagementV1).machine.Reachable before ∧
      (managing colorManagementV1).machine.step before (.createParametricCreator 0) first ∧
        (managing colorManagementV1).machine.Run first (luminanceRequests.map (.set 0)) last ∧
          ∃ creator, last.upstream.cell before.upstream.next = some creator ∧
            creator.requests = luminanceRequests := by
  obtain ⟨before, first, last, reachable, created, run, fresh⟩ := requests_follow luminanceRequests
    (fun before _ => before.creators.next == 0) (by decide +kernel)
  obtain ⟨creator, present, received⟩ := creator_receives reachable created run
  rw [beq_iff_eq.mp fresh] at received
  exact ⟨before, first, last, reachable, created, run, creator, present, received.mpr (by decide)⟩

/-- The maximal light level of the content reaches the upstream creator as that of a frame. -/
theorem max_cll_received_as_max_fall :
    ∃ before first last, (managing colorManagementV1).machine.Reachable before ∧
      (managing colorManagementV1).machine.step before (.createParametricCreator 0) first ∧
        (managing colorManagementV1).machine.Run first [.set 0 (.setMaxCll 1000)] last ∧
          (last.upstream.cell before.upstream.next).map UpstreamCreator.requests = some [.setMaxFall 1000] ∧
            requestsOn before.creators.next [.set 0 (.setMaxCll 1000)] = [.setMaxCll 1000] := by
  obtain ⟨before, first, last, reachable, created, run, passed⟩ := requests_follow [.setMaxCll 1000]
    (fun before last => (last.upstream.cell before.upstream.next).map UpstreamCreator.requests ==
      some [.setMaxFall 1000] && requestsOn before.creators.next [.set 0 (.setMaxCll 1000)] == [.setMaxCll 1000])
    (by decide +kernel)
  rw [Bool.and_eq_true, beq_iff_eq, beq_iff_eq] at passed
  exact ⟨before, first, last, reachable, created, run, passed⟩

end SwaylockPlugin.ColorManager
