import SwaylockPlugin.Abstract.Order

namespace SwaylockPlugin

open Library

/-- The values that a look asks for stand in one record. -/
def Look.values (look : Look) : LastSent where
  bufferScale := look.bufferScale
  bufferTransform := look.bufferTransform
  destination := (look.viewportDestWidth, look.viewportDestHeight)
  source := (look.viewportSourceX, look.viewportSourceY, look.viewportSourceW, look.viewportSourceH)
  colorRepresentation := {
    alphaMode := if look.hasAlphaMode then some look.alphaMode else none
    chromaLocation := if look.hasChromaLocation then some look.chromaLocation else none
    coefficientsAndRange := if look.hasCoefRange then some (look.coefficients, look.range) else none }
  imageDescription := look.imageDesc.map fun desc => (desc, look.renderIntent)
  content := none

/-- The values in force follow from the requests of a log. -/
def valuesIn (log : List Entry) : LastSent := (requestsIn log).foldl LastSent.receive .initial

section Requests

variable {values after : LastSent} {committed pending : Look}

theorem foldl_changed {changed : Bool} {requests : List SurfaceRequest}
    (sent : requests.foldl LastSent.receive values = after) (kept : changed = false → values = after) :
    (if changed then requests else []).foldl LastSent.receive values = after := by
  cases changed with
  | true => exact sent
  | false => exact kept rfl

theorem foldl_scale (same : values.bufferScale = committed.bufferScale) :
    (if committed.bufferScale != pending.bufferScale then
      [SurfaceRequest.setBufferScale pending.bufferScale] else []).foldl LastSent.receive values =
      { values with bufferScale := pending.bufferScale } := by
  refine foldl_changed rfl fun kept => ?_
  rw [← bne_eq_false_iff_eq.mp kept, ← same]

theorem foldl_transform (same : values.bufferTransform = committed.bufferTransform) :
    (if committed.bufferTransform != pending.bufferTransform then
      [SurfaceRequest.setBufferTransform pending.bufferTransform] else []).foldl LastSent.receive values =
      { values with bufferTransform := pending.bufferTransform } := by
  refine foldl_changed rfl fun kept => ?_
  rw [← bne_eq_false_iff_eq.mp kept, ← same]

theorem foldl_destination (same : values.destination = committed.values.destination) :
    (if committed.viewportDestWidth != pending.viewportDestWidth ||
        committed.viewportDestHeight != pending.viewportDestHeight then
      [SurfaceRequest.setDestination pending.viewportDestWidth pending.viewportDestHeight] else []).foldl
        LastSent.receive values = { values with destination := pending.values.destination } := by
  refine foldl_changed rfl fun kept => ?_
  rw [Bool.or_eq_false_iff, bne_eq_false_iff_eq, bne_eq_false_iff_eq] at kept
  have kept : committed.values.destination = pending.values.destination := Prod.ext kept.1 kept.2
  rw [← kept, ← same]

/-- Where the source changes, the requests for a look put the committed source in force. -/
theorem foldl_source (values : LastSent) :
    (if committed.viewportSourceX != pending.viewportSourceX || committed.viewportSourceY != pending.viewportSourceY ||
        committed.viewportSourceW != pending.viewportSourceW || committed.viewportSourceH != pending.viewportSourceH then
      [SurfaceRequest.setSource committed.viewportSourceX committed.viewportSourceY
        committed.viewportSourceW committed.viewportSourceH] else []).foldl LastSent.receive values =
      { values with source :=
          if committed.values.source = pending.values.source then values.source else committed.values.source } := by
  by_cases same : committed.values.source = pending.values.source
  · rw [if_pos same, if_neg]
    · rfl
    · simp only [Look.values, Prod.mk.injEq] at same
      simp only [same, bne_self_eq_false, Bool.or_self, Bool.false_eq_true, not_false_eq_true]
  · rw [if_neg same, if_pos]
    · rfl
    · by_contra kept
      simp only [Bool.or_eq_true, bne_iff_ne, ne_eq, not_or, not_not] at kept
      obtain ⟨⟨⟨left, top⟩, wide⟩, high⟩ := kept
      exact same (Prod.ext left (Prod.ext top (Prod.ext wide high)))

theorem foldl_recreation (values : LastSent) (pending : Look) :
    ([.recreateColorRepresentation] ++ (if pending.hasAlphaMode then [.setAlphaMode pending.alphaMode] else []) ++
      (if pending.hasChromaLocation then [.setChromaLocation pending.chromaLocation] else []) ++
      (if pending.hasCoefRange then [.setCoefficientsAndRange pending.coefficients pending.range] else []) :
        List SurfaceRequest).foldl LastSent.receive values =
      { values with colorRepresentation := pending.values.colorRepresentation } := by
  unfold Look.values
  cases pending.hasAlphaMode <;> cases pending.hasChromaLocation <;> cases pending.hasCoefRange <;> rfl

theorem foldl_colorRepresentation (same : values.colorRepresentation = committed.values.colorRepresentation) :
    (if committed.hasAlphaMode != pending.hasAlphaMode || committed.alphaMode != pending.alphaMode ||
        committed.hasChromaLocation != pending.hasChromaLocation ||
        committed.chromaLocation != pending.chromaLocation || committed.hasCoefRange != pending.hasCoefRange ||
        committed.coefficients != pending.coefficients || committed.range != pending.range then
      [SurfaceRequest.recreateColorRepresentation] ++
        (if pending.hasAlphaMode then [.setAlphaMode pending.alphaMode] else []) ++
        (if pending.hasChromaLocation then [.setChromaLocation pending.chromaLocation] else []) ++
        (if pending.hasCoefRange then [.setCoefficientsAndRange pending.coefficients pending.range] else [])
      else []).foldl LastSent.receive values =
      { values with colorRepresentation := pending.values.colorRepresentation } := by
  refine foldl_changed (foldl_recreation values pending) fun kept => ?_
  simp only [Bool.or_eq_false_iff, bne_eq_false_iff_eq] at kept
  have kept : committed.values.colorRepresentation = pending.values.colorRepresentation := by
    simp only [Look.values, kept]
  rw [← kept, ← same]

theorem foldl_imageDescription (description : UpstreamDesc)
    (same : values.imageDescription = committed.values.imageDescription) :
    (if committed.imageDesc != pending.imageDesc || committed.renderIntent != pending.renderIntent then
      [imageRequest pending description] else []).foldl LastSent.receive values =
      { values with imageDescription := pending.values.imageDescription } := by
  refine foldl_changed ?_ fun kept => ?_
  · unfold imageRequest Look.values
    cases pending.imageDesc <;> rfl
  · simp only [Bool.or_eq_false_iff, bne_eq_false_iff_eq] at kept
    have kept : committed.values.imageDescription = pending.values.imageDescription := by
      simp only [Look.values, kept]
    rw [← kept, ← same]

/-- The values that place the buffer of a surface on its output. -/
def LastSent.placing (values : LastSent) : Int32 × Int32 × Int32 × Int32 :=
  (values.bufferScale, values.bufferTransform, values.destination)

theorem placing_recreation (changed : Bool) (values : LastSent) (pending : Look) :
    ((if changed then [.recreateColorRepresentation] ++
        (if pending.hasAlphaMode then [.setAlphaMode pending.alphaMode] else []) ++
        (if pending.hasChromaLocation then [.setChromaLocation pending.chromaLocation] else []) ++
        (if pending.hasCoefRange then [.setCoefficientsAndRange pending.coefficients pending.range] else [])
      else [] : List SurfaceRequest).foldl LastSent.receive values).placing = values.placing := by
  cases changed with
  | true => rw [if_pos rfl, foldl_recreation]; rfl
  | false => rfl

theorem placing_imageRequest (changed : Bool) (values : LastSent) (pending : Look) (description : UpstreamDesc) :
    ((if changed then [imageRequest pending description] else []).foldl LastSent.receive values).placing =
      values.placing := by
  cases changed with
  | true => unfold imageRequest; cases pending.imageDesc <;> rfl
  | false => rfl

/-- The values apart from the source and the content are those of a look. -/
structure LastSent.Shows (values : LastSent) (look : Look) : Prop where
  scale : values.bufferScale = look.bufferScale
  transform : values.bufferTransform = look.bufferTransform
  destination : values.destination = look.values.destination
  color : values.colorRepresentation = look.values.colorRepresentation
  image : values.imageDescription = look.values.imageDescription

instance (values : LastSent) (look : Look) : Decidable (values.Shows look) :=
  decidable_of_iff (values.bufferScale = look.bufferScale ∧ values.bufferTransform = look.bufferTransform ∧
      values.destination = look.values.destination ∧ values.colorRepresentation = look.values.colorRepresentation ∧
      values.imageDescription = look.values.imageDescription)
    ⟨fun same => ⟨same.1, same.2.1, same.2.2.1, same.2.2.2.1, same.2.2.2.2⟩,
      fun shows => ⟨shows.scale, shows.transform, shows.destination, shows.color, shows.image⟩⟩

/-- After the requests for a look its values are in force, but a changed source is the one before the change. -/
theorem foldl_lookRequests (shows : values.Shows committed) (description : UpstreamDesc) :
    (lookRequests description committed pending).foldl LastSent.receive values =
      { pending.values with
        source := if committed.values.source = pending.values.source then values.source else committed.values.source
        content := values.content } := by
  unfold lookRequests
  rw [List.foldl_append, List.foldl_append, List.foldl_append, List.foldl_append, List.foldl_append,
    foldl_scale shows.scale, foldl_transform (by exact shows.transform), foldl_destination (by exact shows.destination),
    foldl_source, foldl_colorRepresentation (by exact shows.color), foldl_imageDescription description (by exact shows.image)]
  rfl

end Requests

/-- Two looks agree with the same values, or values agree with a look, where the content does not matter. An agreement
also tells which looks may be sent after which ones, and which may be taken over without being sent. -/
structure Agreement where
  agrees : LastSent → Look → Prop
  sends : Look → Look → Prop
  absorbs : Look → Look → Prop
  decideAgrees : ∀ values look, Decidable (agrees values look)
  decideSends : ∀ committed pending, Decidable (sends committed pending)
  decideAbsorbs : ∀ committed pending, Decidable (absorbs committed pending)
  settled : ∀ look, sends look look
  content : ∀ values look content, agrees values look → agrees { values with content := content } look
  sent : ∀ values committed pending description, agrees values committed → sends committed pending →
    agrees ((lookRequests description committed pending).foldl LastSent.receive values) pending
  absorbed : ∀ values committed pending, agrees values committed → absorbs committed pending → agrees values pending

namespace Agreement

/-- The values apart from the source agree with every look that is sent. -/
def shown : Agreement where
  agrees := LastSent.Shows
  sends _ _ := True
  absorbs committed pending := committed.values.Shows pending
  decideAgrees _ _ := inferInstance
  decideSends _ _ := inferInstance
  decideAbsorbs _ _ := inferInstance
  settled _ := trivial
  content _ _ _ shows := ⟨shows.scale, shows.transform, shows.destination, shows.color, shows.image⟩
  sent values committed pending description shows _ := by
    rw [foldl_lookRequests shows description]
    exact ⟨rfl, rfl, rfl, rfl, rfl⟩
  absorbed values committed pending shows same :=
    ⟨shows.scale.trans same.scale, shows.transform.trans same.transform, shows.destination.trans same.destination,
      shows.color.trans same.color, shows.image.trans same.image⟩

/-- All values agree with every look that is sent and keeps the source. -/
def whole : Agreement where
  agrees values look := values.Shows look ∧ values.source = look.values.source
  sends committed pending := committed.values.source = pending.values.source
  absorbs committed pending := committed.values = pending.values
  decideAgrees _ _ := inferInstance
  decideSends _ _ := inferInstance
  decideAbsorbs _ _ := inferInstance
  settled _ := rfl
  content _ _ _ agrees := ⟨shown.content _ _ _ agrees.1, agrees.2⟩
  sent values committed pending description agrees same := by
    rw [foldl_lookRequests agrees.1 description, if_pos same]
    exact ⟨⟨rfl, rfl, rfl, rfl, rfl⟩, agrees.2.trans same⟩
  absorbed values committed pending agrees same := by
    refine ⟨shown.absorbed values committed pending agrees.1 ?_, agrees.2.trans (congrArg LastSent.source same)⟩
    exact ⟨congrArg LastSent.bufferScale same, congrArg LastSent.bufferTransform same,
      congrArg LastSent.destination same, congrArg LastSent.colorRepresentation same,
      congrArg LastSent.imageDescription same⟩

/-- The scale, the transform and the destination agree with every look that is sent. -/
def placed : Agreement where
  agrees values look := values.placing = look.values.placing
  sends _ _ := True
  absorbs committed pending := committed.values.placing = pending.values.placing
  decideAgrees _ _ := inferInstanceAs (Decidable (_ = _))
  decideSends _ _ := inferInstance
  decideAbsorbs _ _ := inferInstanceAs (Decidable (_ = _))
  settled _ := trivial
  content _ _ _ agrees := agrees
  sent values committed pending description agrees _ := by
    have scale : values.bufferScale = committed.bufferScale := congrArg (fun placing => placing.1) agrees
    have transform : values.bufferTransform = committed.bufferTransform := congrArg (fun placing => placing.2.1) agrees
    have destination : values.destination = committed.values.destination := congrArg (fun placing => placing.2.2) agrees
    unfold lookRequests
    rw [List.foldl_append, List.foldl_append, List.foldl_append, List.foldl_append, List.foldl_append,
      placing_imageRequest, placing_recreation, foldl_scale scale, foldl_transform (by exact transform),
      foldl_destination (by exact destination), foldl_source]
    rfl
  absorbed _ _ _ agrees same := agrees.trans same

variable (agreement : Agreement)

/-- A plugin surface gets the role where the values in force agree with its committed look, and each look that it
commits may be sent or taken over. -/
def meets (view : CycleView) : CycleEvent → Prop
  | .link _ plugin => agreement.agrees (valuesIn view.log) plugin.committed
  | .update absorbed pending => ∀ plugin, view.plugin = some plugin →
      if absorbed then agreement.absorbs plugin.committed pending else agreement.sends plugin.committed pending
  | _ => True

theorem lenient : Lenient agreement.meets := by
  refine ⟨fun view event minor => ?_, fun view plugin found other same => ?_⟩
  · cases event with
    | link => cases minor
    | update => cases minor
    | _ => trivial
  · cases found.symm.trans same
    exact agreement.settled plugin.committed

end Agreement

section Logs

variable {log : List Entry}

theorem valuesIn_requests (log : List Entry) (requests : List SurfaceRequest) :
    valuesIn (log ++ requests.map .request) = requests.foldl LastSent.receive (valuesIn log) := by
  have same : requestsIn (requests.map .request) = requests := by
    unfold requestsIn
    rw [List.filterMap_map]
    exact List.filterMap_some
  unfold valuesIn
  rw [show requestsIn (log ++ requests.map .request) = requestsIn log ++ requestsIn (requests.map .request) from
    List.filterMap_append, same, List.foldl_append]

theorem valuesIn_quiet (log : List Entry) {added : List Entry} (quiet : requestsIn added = []) :
    valuesIn (log ++ added) = valuesIn log := by
  unfold valuesIn
  rw [show requestsIn (log ++ added) = requestsIn log ++ requestsIn added from List.filterMap_append, quiet,
    List.append_nil]

theorem valuesIn_accept (core : OutputCore) (log : List Entry) :
    valuesIn (log ++ core.acceptEntries) = valuesIn log := by
  have acks : requestsIn (core.waiting.map .acknowledged) = [] := by
    unfold requestsIn
    rw [List.filterMap_map]
    exact List.filterMap_eq_nil_iff.mpr fun _ _ => rfl
  have commit := valuesIn_requests (log ++ core.waiting.map .acknowledged) [.commit]
  rw [valuesIn_quiet log acks] at commit
  unfold OutputCore.acceptEntries
  rw [← List.append_assoc]
  exact commit

theorem commits_plain (requests : List SurfaceRequest) (plain : ∀ request ∈ requests, request.plain = true) :
    ∀ request ∈ requests ++ [.commit], request.plain = true ∨ request = .commit := by
  intro request member
  rcases List.mem_append.mp member with first | last
  · exact .inl (plain request first)
  · exact .inr (List.mem_singleton.mp last)

theorem Agreement.receive (agreement : Agreement) {values : LastSent} {look : Look} {request : SurfaceRequest}
    (agrees : agreement.agrees values look) (plain : request.plain = true ∨ request = .commit) :
    agreement.agrees (values.receive request) look := by
  rcases plain with plain | rfl
  · cases request with
    | attach _ width height => exact agreement.content _ _ (some (width, height)) agrees
    | offset => exact agrees
    | damageBuffer => exact agrees
    | damage => exact agrees
    | frame => exact agrees
    | _ => cases plain
  · exact agrees

theorem Agreement.receives (agreement : Agreement) {values : LastSent} {look : Look} {requests : List SurfaceRequest}
    (agrees : agreement.agrees values look)
    (plain : ∀ request ∈ requests, request.plain = true ∨ request = .commit) :
    agreement.agrees (requests.foldl LastSent.receive values) look := by
  induction requests generalizing values with
  | nil => exact agrees
  | cons request requests ih =>
      rw [List.forall_mem_cons] at plain
      exact ih (agreement.receive agrees plain.1) plain.2

end Logs

section Step

variable {agreement : Agreement} {view next : CycleView}

/-- The values in force agree with the committed look of the plugin surface while the nested server is up. -/
def Agreement.Holds (agreement : Agreement) (view : CycleView) : Prop :=
  view.display = true → ∀ plugin, view.plugin = some plugin → agreement.agrees (valuesIn view.log) plugin.committed

theorem Agreement.Holds.step (holds : agreement.Holds view) {event : CycleEvent} (meets : agreement.meets view event)
    (step : CycleStep view event next) : agreement.Holds next := by
  cases step with
  | appear absent noPlugin empty => exact fun _ _ same => (by cases noPlugin.symm.trans same)
  | vanish => exact fun _ _ same => (by cases same)
  | create => exact holds
  | configure pluginSerial up present fresh =>
      intro _ plugin same
      obtain ⟨old, found, rfl⟩ := Option.map_eq_some_iff.mp same
      rw [valuesIn_quiet view.log (rfl : requestsIn [.configured _ _ _] = [])]
      exact holds up old found
  | answer down => exact fun up => absurd (up.symm.trans down) (by decide)
  | ackNewest down => exact fun up => absurd (up.symm.trans down) (by decide)
  | fallback down => exact fun up => absurd (up.symm.trans down) (by decide)
  | teardown => exact fun up => (by cases up)
  | link => 
      intro _ plugin same
      cases same
      exact meets
  | unlink => exact fun _ _ same => (by cases same)
  | @initial core plugin pluginSerial up present found =>
      intro _ other same
      cases same
      exact holds up plugin found
  | @take core plugin serial pair rest up present found =>
      intro _ other same
      cases same
      exact holds up plugin found
  | @refuse plugin serial found =>
      intro up other same
      cases same
      exact holds up plugin found
  | @update plugin absorbed pending description up found =>
      intro _ other same
      cases same
      have before := holds up plugin found
      have allowed := meets plugin found
      cases absorbed with
      | true =>
          rw [if_pos rfl, List.append_nil]
          exact agreement.absorbed _ _ _ before allowed
      | false =>
          have sent := agreement.sent _ _ _ description before allowed
          rw [← valuesIn_requests] at sent
          exact sent
  | content _ plain =>
      intro up plugin found
      have received := agreement.receives (holds up plugin found) fun request member => .inl (plain request member)
      rw [← valuesIn_requests] at received
      exact received
  | @accept core plugin up present found size =>
      intro _ other same
      rw [valuesIn_accept]
      exact holds up other same
  | render present buffer =>
      intro up plugin found
      have received := agreement.receives (holds up plugin found) (commits_plain [.frame] (by decide))
      rw [← valuesIn_requests] at received
      exact received

/-- The committed look of a plugin surface agrees with the values in force in every run that meets the agreement. -/
theorem Agreement.Holds.of_reachable (reachable : (cycle.restrict agreement.meets).Reachable view) :
    agreement.Holds view := by
  apply reachable.invariant agreement.Holds
  · exact fun view fresh _ plugin same => (by cases fresh.2.2.1.symm.trans same)
  · intro _ _ _ holds moved
    exact holds.step moved.2 moved.1

end Step

end SwaylockPlugin
