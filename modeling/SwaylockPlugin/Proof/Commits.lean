import SwaylockPlugin.Proof.Attachments
import SwaylockPlugin.Proof.CommitSizes
import SwaylockPlugin.Proof.Configures

namespace SwaylockPlugin

open Library

variable {meets : CycleView → CycleEvent → Prop} {scene first second : Scene} {id : SurfaceId}
  {old new : ForwardSurface} {target : Target} {requests : List SurfaceRequest}

/-- A surface commits to its own upstream surface or to the lock surface of its output. -/
def CommitsTo (id : SurfaceId) (surface : ForwardSurface) (target : Target) : Prop :=
  target = .ext id ∨ ∃ output, target = .lock output ∧ surface.swaySurface = some output

/-- An update of the pending state is absorbed by an upstream surface of the plugin surface's own. -/
def absorbs : Target → Bool
  | .ext _ => true
  | .lock _ => false

theorem Message.entry_addressed {message : Message} {output : OutputId} (addressed : message.addresses target = true)
    (other : target ≠ .lock output) : message.entry output = none := by
  cases message with
  | surface upstream request =>
      have same : upstream = target := eq_of_beq addressed
      subst same
      cases upstream with
      | lock lock => exact if_neg fun same => other (congrArg Target.lock same)
      | ext surface => rfl
  | subsurface => rfl
  | configured => cases addressed
  | ackConfigure => cases addressed
  | plugin => cases addressed

theorem entriesOf_foreign {output : OutputId} {messages : List Message} (other : target ≠ .lock output)
    (own : ∀ message ∈ messages, message.addresses target = true) : entriesOf output messages = [] := by
  apply List.filterMap_eq_nil_iff.mpr
  intro message member
  exact Message.entry_addressed (own message member) other

theorem CommitsTo.apart (commits : CommitsTo id old target) {output : OutputId}
    (apart : old.swaySurface ≠ some output) : target ≠ .lock output := by
  rcases commits with rfl | ⟨other, rfl, role⟩
  · simp
  · rintro ⟨⟩
    exact apart role

theorem entriesOf_addressed {output : OutputId} {messages : List Message}
    (own : ∀ message ∈ messages, message.addresses (.lock output) = true) :
    entriesOf output messages = (requestsOn (.lock output) messages).map .request := by
  induction messages with
  | nil => rfl
  | cons message messages ih =>
      have rest := ih fun later member => own later (List.mem_cons_of_mem _ member)
      have addressed := own message List.mem_cons_self
      rw [entriesOf_cons, rest, ← List.singleton_append, requestsOn_append, List.map_append]
      congr 1
      cases message with
      | surface upstream request =>
          have same : upstream = .lock output := eq_of_beq addressed
          subst same
          simp [Message.entry, requestsOn]
      | subsurface => rfl
      | configured => cases addressed
      | ackConfigure => cases addressed
      | plugin => cases addressed

namespace Applies

theorem role (part : Stacks id target requests new first second) (present : first.forwardSurfaces.cell id = some old)
    (kept : new.roleCore = old.roleCore) (surface : SurfaceId) :
    (second.forwardSurfaces.cell surface).map ForwardSurface.swaySurface =
      (first.forwardSurfaces.cell surface).map ForwardSurface.swaySurface := by
  have cell := congrArg (Option.map ForwardSurface.swaySurface) (part.cells surface)
  rw [Option.map_map] at cell
  refine (show _ = _ from cell).trans ?_
  split
  · rename_i same
    rw [same, present]
    exact congrArg (fun core : RoleCore => some core.role) kept
  · rw [Option.map_map]
    rfl

theorem links (part : Stacks id target requests new first second) (present : first.forwardSurfaces.cell id = some old)
    (kept : new.roleCore = old.roleCore) (commits : CommitsTo id old target) (guard : LinkGuard none first) :
    LinkGuard none second where
  nodup := part.surfaces ▸ guard.nodup
  listed output := by
    rw [part.surfaces, show second.outputCore output = first.outputCore output from part.outputs output]
    exact guard.listed output
  linked output core surface found shown linked := by
    rw [show second.outputCore output = first.outputCore output from part.outputs output] at found
    obtain ⟨record, there, role⟩ := guard.linked output core surface found shown linked
    have same := part.role present kept surface
    rw [there, Option.map_some, Option.map_eq_some_iff] at same
    obtain ⟨after, stays, same⟩ := same
    exact ⟨after, stays, same.trans role⟩
  served output surface record found role := by
    have same := part.role present kept surface
    rw [found, Option.map_some] at same
    obtain ⟨before, there, same⟩ := Option.map_eq_some_iff.mp same.symm
    rw [show second.outputCore output = first.outputCore output from part.outputs output]
    exact guard.served output surface before there (same.trans role)
  unnamed output above := by
    obtain ⟨messages, grown, _, own⟩ := part.wire
    have before := part.nextOutput ▸ above
    have apart : old.swaySurface ≠ some output := by
      intro role
      obtain ⟨_, core, stands, _⟩ := guard.served output id old present role
      rw [Scene.outputCore, first.outputs.unused output before] at stands
      cases stands
    rw [grown, entriesOf_append, entriesOf_foreign (commits.apart apart) own, List.append_nil]
    exact guard.unnamed output before

theorem cycleView_other (part : Stacks id target requests new first second)
    (present : first.forwardSurfaces.cell id = some old) (commits : CommitsTo id old target)
    (guard : LinkGuard none first) {output : OutputId} (apart : old.swaySurface ≠ some output) :
    second.cycleView output = first.cycleView output := by
  obtain ⟨messages, grown, _, own⟩ := part.wire
  apply Scene.cycleView_congr part.display (part.outputs output)
  · intro surface link
    obtain ⟨core, stands, linked⟩ := Option.bind_eq_some_iff.mp link
    obtain ⟨record, there, role⟩ := guard.linked output core surface stands nofun linked
    have other : surface ≠ id := by
      rintro rfl
      rw [present] at there
      cases there
      exact apart role
    have cell := part.cells surface
    rw [if_neg other] at cell
    have view := congrArg (Option.map ForwardSurface.view) cell
    rw [Option.map_map, Option.map_map] at view
    exact view
  · rw [grown, entriesOf_append, entriesOf_foreign (commits.apart apart) own, List.append_nil]

theorem cycleView_self (part : Stacks id target requests new first second)
    (present : first.forwardSurfaces.cell id = some old) (kept : new.roleCore = old.roleCore)
    (commits : CommitsTo id old target) (guard : LinkGuard none first) {output : OutputId}
    (role : old.swaySurface = some output) : second.cycleView output = { first.cycleView output with
      plugin := some ⟨old.cycle, new.committed.look⟩
      log := (first.cycleView output).log ++ if absorbs target then [] else requests.map .request } := by
  obtain ⟨_, core, stands, linked⟩ := guard.served output id old present role
  obtain ⟨record, there, same⟩ := part.seen
  have stays : second.outputCore output = some core := (part.outputs output).trans stands
  have view : record.view = ⟨old.cycle, new.committed.look⟩ := by
    have seen := congrArg ForwardSurface.view same
    have cycle : new.cycle = old.cycle := congrArg RoleCore.cycle kept
    rw [← cycle]
    exact seen
  obtain ⟨messages, grown, sent, own⟩ := part.wire
  rw [Scene.cycleView_linked there stays linked, Scene.cycleView_linked present stands linked, view, part.display,
    grown, entriesOf_append]
  have entries : entriesOf output messages = if absorbs target then [] else requests.map .request := by
    rcases commits with rfl | ⟨other, rfl, other_⟩
    · exact entriesOf_foreign (by simp : Target.ext id ≠ .lock output) own
    · rw [role] at other_
      cases other_
      rw [← sent]
      exact entriesOf_addressed own
  rw [entries]

end Applies

theorem SurfaceGuard.of_attached (attached : Attached scene)
    (records : ∀ id record, scene.forwardSurfaces.cell id = some record → record.Guarded)
    (sized : ∀ id buffer, scene.forwardBuffers.cell id = some buffer → 0 < buffer.width ∧ 0 < buffer.height) :
    SurfaceGuard scene where
  records := records
  sized := sized
  shown buffer record present surface member := by
    have named := attached.rolls.committeds.names present member
    obtain ⟨shown, there, names⟩ := Option.bind_eq_some_iff.mp named
    refine ⟨scene.forwardSurfaces.live_below there, fun current found => ?_⟩
    rw [there] at found
    cases found
    apply (records surface shown there).attached.drawn
    intro empty
    rw [show shown.held.2 = .null from empty] at names
    cases names

theorem Applies.guarded {size : UInt32 × UInt32} (present : first.forwardSurfaces.cell id = some old)
    (reachable : old.pending.attachment ≠ .unreachable) (sizes : first.Sizes old.pending.attachment size)
    (part : Stacks id target requests (old.presented size) first second) (attached : Attached second)
    (guard : SurfaceGuard first) : SurfaceGuard second := by
  apply SurfaceGuard.of_attached attached
  · intro surface record found
    have cell := part.cells surface
    rw [found, Option.map_some] at cell
    split at cell
    · have same : record.unplaced = (old.presented size).unplaced := Option.some.inj cell
      refine ForwardSurface.Guarded.of_unplaced ?_ same
      apply ForwardSurface.presented_guarded (guard.records id old present) reachable
      intro buffer named
      obtain ⟨shown, there, rfl⟩ := sizes buffer named
      exact guard.sized buffer shown there
    · obtain ⟨before, there, same⟩ := Option.map_eq_some_iff.mp cell.symm
      exact (guard.records surface before there).of_unplaced same.symm
  · intro buffer record found
    obtain ⟨before, there, width, height⟩ := part.buffers buffer record found
    rw [width, height]
    exact guard.sized buffer before there

theorem CycleView.presents (lenient : Lenient meets) {view : CycleView} {plugin : PluginView} (absorbed : Bool)
    (description : UpstreamDesc) {pending : Look} {content : List SurfaceRequest} (up : view.display = true)
    (found : view.plugin = some plugin) (plain : ∀ request ∈ content, request.plain = true)
    (admitted : meets view (.update absorbed pending)) :
    ∃ events, (cycle.restrict meets).Run view events { view with
      plugin := some { plugin with committed := pending }
      log := view.log ++ if absorbed then [] else
        (lookRequests description plugin.committed pending ++ content).map .request } := by
  have update : CycleStep view (.update absorbed pending) _ := .update description up found
  cases absorbed with
  | true => exact ⟨[.update true pending], .single ⟨update, admitted⟩⟩
  | false =>
      have updated : (cycle.restrict meets).Run view [.update false pending] { view with
          plugin := some { plugin with committed := pending }
          log := view.log ++ (lookRequests description plugin.committed pending).map .request } :=
        .single ⟨update, admitted⟩
      have sent := updated.append (.single ⟨.content up plain, lenient.minor _ _ rfl⟩)
      rw [List.append_assoc, ← List.map_append] at sent
      exact ⟨_, sent⟩

theorem applyPendingSurfaceUpdates_advances (lenient : Lenient meets) (up : first.display = true)
    (attached : Attached first) (present : first.forwardSurfaces.cell id = some old) (commits : CommitsTo id old target)
    (background : AugmentedSurface)
    (admitted : ∀ output, old.swaySurface = some output →
      meets (first.cycleView output) (.update (absorbs target) old.pending.look)) :
    Ensures (applyPendingSurfaceUpdates first id target background) fun last =>
      Advances meets none first last ∧ Attached last ∧ last.display = true ∧
        (∀ output, old.swaySurface = some output → LinkGuard none first → ∃ added, last.cycleView output =
          { first.cycleView output with
            plugin := some ⟨old.cycle, old.pending.look⟩
            log := (first.cycleView output).log ++ if absorbs target then [] else added }) ∧
        old.pending.attachment ≠ .unreachable ∧ ∃ size record, first.Sizes old.pending.attachment size ∧
          last.forwardSurfaces.cell id = some record ∧ record.unplaced = (old.presented size).unplaced := by
  intro last computed
  obtain ⟨reachable, description, size, sizes, part⟩ :=
    applyPendingSurfaceUpdates_stacks present background last computed
  obtain ⟨looked, attached_, damaged, stacked, applied⟩ :=
    applyPendingSurfaceUpdates_parts id target background last computed
  have after : Attached last := attached.updated ⟨_, _, _, _, last, applied, .refl last⟩
  obtain ⟨record, there, same⟩ := part.seen
  have turned : (old.presented size).roleCore = old.roleCore := ForwardSurface.presented_roleCore
  have viewed (output : OutputId) (role : old.swaySurface = some output) (links : LinkGuard none first) :=
    part.cycleView_self present turned commits links role
  rw [ForwardSurface.presented_look] at viewed
  refine ⟨fun guard => ?_, after, part.display.trans up,
    fun output role links => ⟨_, viewed output role links⟩, reachable, size, record, sizes, there, same⟩
  have links := part.links present turned commits guard.links
  refine ⟨by rw [part.args], fun down => part.display.trans down, ⟨links, part.guarded present reachable sizes after
    guard.surfaces⟩, fun output _ => ?_, fun _ same => (nomatch same)⟩
  by_cases role : old.swaySurface = some output
  · obtain ⟨_, core, stands, linked⟩ := guard.links.served output id old present role
    have before := Scene.cycleView_linked present stands linked
    have found : (first.cycleView output).plugin = some old.view := by rw [before]
    rw [viewed output role guard.links]
    exact CycleView.presents lenient (absorbs target) description up found ForwardSurface.contentRequests_plain
      (admitted output role)
  · rw [part.cycleView_other present commits guard.links role]
    exact ⟨[], .rest _⟩

theorem toUInt32_pos {value : Int32} (positive : 0 < value) : 0 < value.toUInt32 := by
  have signed : 0 < value.toInt := Int32.lt_iff_toInt_lt.mp positive
  have same := toNat_toUInt32 (Int.le_of_lt signed)
  rw [UInt32.lt_iff_toNat_lt, UInt32.toNat_zero]
  omega

theorem sized_of_pos {width height : UInt32} (size : 0 < width ∧ 0 < height) : sized width height = true := by
  simp [sized, size.1, size.2]

theorem wlFixedToInt_pos {value : WlFixed} (positive : 0 < value)
    (whole : wlFixedFromInt (wlFixedToInt value) = value) : 0 < wlFixedToInt value := by
  have signed : 0 < value.toInt := Int32.lt_iff_toInt_lt.mp positive
  have rounded := wlFixedToInt_toInt (Int.le_of_lt signed)
  have exact_ := (wlFixedFromInt_wlFixedToInt (Int.le_of_lt signed)).mp whole
  rw [Int32.lt_iff_toInt_lt, rounded]
  change 0 < value.toInt / 256
  omega

theorem quotient_pos {size scale : UInt32} (positive : 0 < size) (divides : size % scale = 0) : 0 < size / scale := by
  have product := Nat.div_add_mod size.toNat scale.toNat
  have remainder : size.toNat % scale.toNat = 0 := by
    rw [← UInt32.toNat_mod, divides]
    rfl
  rw [UInt32.lt_iff_toNat_lt, UInt32.toNat_zero] at positive ⊢
  rw [UInt32.toNat_div]
  by_contra none_
  rw [Nat.eq_zero_of_not_pos none_, remainder] at product
  omega

theorem sized_of_accepted {surface : ForwardSurface} (guarded : surface.Guarded)
    (drawn : surface.committed.attachment ≠ .null) (accepts : checkCommit surface = .ok none) :
    sized surface.lastAckedWidth surface.lastAckedHeight = true := by
  have buffer := guarded.attached.drawn drawn
  have sizes := guarded.sound.2
  have computed := checkCommit_accepts.mp accepts
  unfold committedSize at computed
  dsimp only at computed
  split at computed
  · rename_i scaled
    have size := sizes.1.resolve_left (by simpa using scaled)
    obtain ⟨width, height⟩ := Prod.mk.inj (Except.ok.inj (Except.ok.inj computed))
    rw [← width, ← height]
    exact sized_of_pos ⟨toUInt32_pos size.1, toUInt32_pos size.2⟩
  · split at computed
    · rename_i cropped
      have size := sizes.2.resolve_left (by simpa using cropped)
      split at computed
      · split at computed <;> cases computed
      · rename_i whole
        simp only [Bool.or_eq_true, bne_iff_ne, ne_eq, not_or, Decidable.not_not] at whole
        obtain ⟨width, height⟩ := Prod.mk.inj (Except.ok.inj (Except.ok.inj computed))
        rw [← width, ← height]
        have wide := toUInt32_pos (wlFixedToInt_pos size.1 whole.1)
        have high := toUInt32_pos (wlFixedToInt_pos size.2 whole.2)
        exact sized_of_pos ⟨wide, high⟩
    · split at computed
      · cases computed
      · split at computed
        · cases computed
        · rename_i divides
          simp only [Bool.or_eq_true, bne_iff_ne, ne_eq, not_or, Decidable.not_not] at divides
          have size := And.intro (quotient_pos buffer.1 divides.1) (quotient_pos buffer.2 divides.2)
          rw [doesTransformTransposeSize_false] at computed
          obtain ⟨width, height⟩ := Prod.mk.inj (Except.ok.inj (Except.ok.inj computed))
          rw [← width, ← height]
          exact sized_of_pos size

theorem SurfaceGuard.congr (guard : SurfaceGuard first) (surfaces : second.forwardSurfaces = first.forwardSurfaces)
    (buffers : second.forwardBuffers = first.forwardBuffers) : SurfaceGuard second where
  records id record present := guard.records id record (surfaces ▸ present)
  sized id buffer present := guard.sized id buffer (buffers ▸ present)
  shown id buffer present surface member := by
    rw [Scene.Drawn, surfaces]
    exact guard.shown id buffer (buffers ▸ present) surface member

section Accept

variable {output : OutputId} {record : SwaylockSurface}

/-- A part of an accepted commit changes its output on its own and moves its cycle on. -/
structure Accepts (output : OutputId) (core : OutputCore) (added : List Entry) (first second : Scene) : Prop where
  own : Own output first second
  surfaces : second.forwardSurfaces = first.forwardSurfaces
  buffers : second.forwardBuffers = first.forwardBuffers
  present : ∃ record, second.outputs.cell output = some record ∧ record.core = core
  view : second.cycleView output = { first.cycleView output with
    output := some core
    log := (first.cycleView output).log ++ added }

namespace Accepts

variable {core middle : OutputCore} {early late : List Entry} {third : Scene}

theorem trans (one : Accepts output middle early first second) (two : Accepts output core late second third) :
    Accepts output core (early ++ late) first third where
  own := one.own.trans two.own
  surfaces := two.surfaces.trans one.surfaces
  buffers := two.buffers.trans one.buffers
  present := two.present
  view := by
    rw [two.view, one.view, List.append_assoc]

theorem setOutput (present : scene.outputs.cell output = some record) (change : SwaylockSurface → SwaylockSurface)
    (kept : ∀ record, (change record).pluginSurface = record.pluginSurface) :
    Accepts output (change record).core [] scene (scene.setOutput output change) where
  own := .setOutput scene output kept
  surfaces := rfl
  buffers := rfl
  present := by
    refine ⟨change record, ?_, rfl⟩
    change (scene.outputs.modify output change).cell output = _
    rw [Heap.cell_modify_self, present]
    rfl
  view := by
    rw [List.append_nil]
    exact Scene.cycleView_setOutput scene present (kept record)

theorem tell (present : scene.outputs.cell output = some record) {message : Message} {entry : Entry}
    (own : ∀ id, id ≠ output → message.entry id = none) (named : message.entry output = some entry) :
    Accepts output record.core [entry] scene (scene.tell message) where
  own := .tell scene output own
  surfaces := rfl
  buffers := rfl
  present := ⟨record, present, rfl⟩
  view := by
    rw [Scene.cycleView_tell, named]
    have core : (scene.cycleView output).output = some record.core := Scene.outputCore_of_present present
    rw [← core]
    rfl

theorem unrelated (present : scene.outputs.cell output = some record) {other : Scene}
    (same : other.framed = scene.framed) : Accepts output record.core [] scene other := by
  have quiet : Quiet scene other := .unrelated same
  have view : other.cycleView output = scene.cycleView output := quiet.roles.cycleView output
  simp only [Scene.framed, Prod.mk.injEq] at same
  obtain ⟨_, _, _, outputs, surfaces, buffers, _⟩ := same
  refine ⟨.ofQuiet quiet, surfaces, buffers, ⟨record, outputs ▸ present, rfl⟩, ?_⟩
  have core : (scene.cycleView output).output = some record.core := Scene.outputCore_of_present present
  rw [view, List.append_nil, ← core]

end Accepts

/-- An output whose delayed acknowledgement went out waits for none. -/
def OutputCore.acked (core : OutputCore) : OutputCore :=
  { core with
    hasPendingAckConf := false
    hasNewerSerial := if core.hasPendingAckConf && core.pendingUpstreamSerial == core.newestSerial then false
      else core.hasNewerSerial }

theorem ackPendingConfigure_accepts (present : scene.outputs.cell output = some record) :
    Ensures (ackPendingConfigure scene output)
      (Accepts output record.core.acked (record.core.waiting.map .acknowledged) scene) := by
  refine .read fun found there => ?_
  rw [present] at there
  cases there
  have core : record.core.hasPendingAckConf = record.hasPendingAckConf := rfl
  unfold OutputCore.waiting OutputCore.acked
  cases waits : record.hasPendingAckConf with
  | true =>
      rw [core, waits, if_pos rfl, if_pos rfl, Bool.true_and]
      apply Ensures.pure
      have told : Accepts output record.core [.acknowledged record.pendingUpstreamSerial] scene
          (scene.tell (.ackConfigure output record.pendingUpstreamSerial)) :=
        .tell present (fun id apart => if_neg (Ne.symm apart)) (if_pos rfl)
      have stays : (scene.tell (.ackConfigure output record.pendingUpstreamSerial)).outputs.cell output = some record :=
        present
      have changed := Accepts.setOutput stays (fun output => { output with
        hasPendingAckConf := false
        hasNewerSerial := if output.pendingUpstreamSerial == output.newestSerial then false
          else output.hasNewerSerial }) fun _ => rfl
      exact told.trans changed
  | false =>
      have idle : { record.core with
          hasPendingAckConf := false
          hasNewerSerial := record.core.hasNewerSerial } = record.core := by
        rw [← waits]
        rfl
      rw [core, waits, if_neg Bool.false_ne_true, if_neg Bool.false_ne_true, Bool.false_and,
        if_neg Bool.false_ne_true, idle]
      exact .pure (.unrelated present rfl)

theorem disarmSubmissionTimer_accepts (present : scene.outputs.cell output = some record) :
    Ensures (disarmSubmissionTimer scene output) (Accepts output record.core [] scene) := by
  refine .read fun found there => .pure ?_
  rw [present] at there
  cases there
  have same : (scene.removeTimer? record.clientSubmissionTimer).framed = scene.framed := by
    cases record.clientSubmissionTimer <;> rfl
  have removed := Accepts.unrelated present same
  obtain ⟨current, stays, core⟩ := removed.present
  have cleared := Accepts.setOutput stays (fun output => { output with clientSubmissionTimer := none }) fun _ => rfl
  have both := removed.trans cleared
  rw [show ({ current with clientSubmissionTimer := none } : SwaylockSurface).core = record.core from core] at both
  exact both

theorem acceptCommit_accepts (present : scene.forwardSurfaces.cell id = some old)
    (there : scene.outputs.cell output = some record) (drawn : old.committed.attachment ≠ .null) :
    Ensures (acceptCommit scene id output) (Accepts output record.core.accepted record.core.acceptEntries scene) := by
  refine .read fun surface found => ?_
  rw [present] at found
  cases found
  have marked : Accepts output { record.core with hasBuffer := true } [] scene
      (if old.committed.attachment != .null then
        scene.setOutput output fun output => { output with hasBuffer := true } else scene) := by
    rw [if_pos (by simpa using drawn)]
    exact .setOutput there (fun output => { output with hasBuffer := true }) fun _ => rfl
  obtain ⟨shown, stands, core⟩ := marked.present
  refine (ackPendingConfigure_accepts stands).bind fun acked acknowledged => ?_
  rw [core] at acknowledged
  obtain ⟨current, stays, accepted⟩ := acknowledged.present
  refine (disarmSubmissionTimer_accepts stays).bind fun disarmed part => .pure ?_
  rw [accepted] at part
  obtain ⟨last, remains, same⟩ := part.present
  have told : Accepts output last.core [.request .commit] disarmed (disarmed.request (.lock output) .commit) :=
    .tell remains (fun id apart => if_neg (Ne.symm apart)) (if_pos rfl)
  rw [same] at told
  have all := ((marked.trans acknowledged).trans part).trans told
  rw [List.append_nil] at all
  exact all

theorem Accepts.advances {core : OutputCore} {added : List Entry} (part : Accepts output core added first second)
    (present : (first.outputCore output).isSome = true)
    (run : ∃ events, (cycle.restrict meets).Run (first.cycleView output) events (second.cycleView output)) :
    Advances meets none first second := by
  exact part.own.advances present (fun guard => guard.congr part.surfaces part.buffers) fun _ => run

theorem acceptCommit_advances (lenient : Lenient meets) (up : scene.display = true)
    (present : scene.forwardSurfaces.cell id = some old) (role : old.swaySurface = some output)
    (drawn : old.committed.attachment ≠ .null)
    (size : sized old.lastAckedWidth old.lastAckedHeight = true) :
    Ensures (acceptCommit scene id output) (Advances meets none scene) := by
  intro last computed guard
  obtain ⟨_, core, stands, linked⟩ := guard.links.served output id old present role
  obtain ⟨record, there, rfl⟩ := Option.map_eq_some_iff.mp stands
  have part := acceptCommit_accepts present there drawn last computed
  refine part.advances (Scene.outputCore_isSome there) ⟨[.accept], .single ⟨?_, lenient.minor _ _ rfl⟩⟩ guard
  have before := Scene.cycleView_linked present stands linked
  have found : (scene.cycleView output).plugin = some old.view := by rw [before]
  rw [part.view]
  exact .accept up stands found size

/-- A surface that is sent its initial configure waits for the acknowledgement of the plugin. -/
def ForwardSurface.start (surface : ForwardSurface) (pair : SerialPair) : ForwardSurface :=
  { surface with serialTable := surface.serialTable ++ [pair], hasBeenConfigured := true }

theorem sendInitialConfigure_starts (present : scene.forwardSurfaces.cell id = some old)
    (role : old.swaySurface = some output) (there : scene.outputs.cell output = some record) :
    Ensures (sendInitialConfigure scene id output) fun last => ∃ pluginSerial, Own output scene last ∧
      last.forwardSurfaces =
        scene.forwardSurfaces.modify id (ForwardSurface.start · (initialPair record pluginSerial)) ∧
      last.forwardBuffers = scene.forwardBuffers ∧
      last.outputs.cell output = some { record with usedFirstConfigure := true } ∧
      entriesOf output last.wire = entriesOf output scene.wire := by
  refine .read fun found stands => (takeSerial_spec scene _).bind fun result taken => ?_
  rw [there] at stands
  cases stands
  obtain ⟨next, pluginSerial⟩ := result
  obtain ⟨bgClients, rfl⟩ := taken
  refine .read fun current _ => .check fun _ => .pure ⟨pluginSerial, ?_, ?_, rfl, ?_, ?_⟩
  · have first : Own output scene { scene with bgClients := bgClients } := .ofQuiet (.unrelated rfl)
    have pushed : Own output { scene with bgClients := bgClients }
        (addSerialPair { scene with bgClients := bgClients } id (initialPair record pluginSerial)) :=
      .setForward _ output present role fun _ => rfl
    have used : Own output (addSerialPair { scene with bgClients := bgClients } id (initialPair record pluginSerial))
        ((addSerialPair { scene with bgClients := bgClients } id (initialPair record pluginSerial)).setOutput output
          fun output => { output with usedFirstConfigure := true }) := .setOutput _ output fun _ => rfl
    have stays : ((addSerialPair { scene with bgClients := bgClients } id (initialPair record pluginSerial)).setOutput
        output fun output => { output with usedFirstConfigure := true }).forwardSurfaces.cell id =
          some { old with serialTable := old.serialTable ++ [initialPair record pluginSerial] } := by
      change (scene.forwardSurfaces.modify id _).cell id = _
      rw [Heap.cell_modify_self, present]
      rfl
    have told : Own output _ ((((addSerialPair { scene with bgClients := bgClients } id (initialPair record
        pluginSerial)).setOutput output fun output => { output with usedFirstConfigure := true })).tell
          (.plugin (.configure id pluginSerial record.width record.height))) := .tell _ output fun _ _ => rfl
    exact (((first.trans pushed).trans used).trans told).trans (.setForward _ output stays role fun _ => rfl)
  · exact Heap.modify_modify scene.forwardSurfaces id _ _
  · change (scene.outputs.modify output _).cell output = _
    rw [Heap.cell_modify_self, there]
    rfl
  · change entriesOf output (scene.wire ++ [_]) = _
    rw [entriesOf_append]
    exact List.append_nil _

theorem sendInitialConfigure_advances (up : scene.display = true) (present : scene.forwardSurfaces.cell id = some old)
    (role : old.swaySurface = some output) (first : old.hasBeenConfigured = false)
    (admitted : meets (scene.cycleView output) .initial) :
    Ensures (sendInitialConfigure scene id output) (Advances meets none scene) := by
  intro last computed guard
  obtain ⟨_, core, stands, linked⟩ := guard.links.served output id old present role
  obtain ⟨record, there, rfl⟩ := Option.map_eq_some_iff.mp stands
  obtain ⟨pluginSerial, own, surfaces, buffers, kept, entries⟩ :=
    sendInitialConfigure_starts present role there last computed
  refine own.advances (Scene.outputCore_isSome there) (fun guard => ?_) (fun guard => ?_) guard
  · have started : SurfaceGuard (scene.setForward id (ForwardSurface.start · (initialPair record pluginSerial))) := by
      apply guard.setForward
      · exact fun _ size => size
      · exact fun _ _ guarded => ⟨Bool.noConfusion, guarded.attached, guarded.sound⟩
    exact started.congr surfaces buffers
  · have before := Scene.cycleView_linked present stands linked
    have found : (scene.cycleView output).plugin = some old.view := by rw [before]
    have started : last.forwardSurfaces.cell id = some (old.start (initialPair record pluginSerial)) := by
      rw [surfaces, Heap.cell_modify_self, present]
      rfl
    have after := Scene.cycleView_linked started (Scene.outputCore_of_present kept) linked
    refine ⟨[.initial], .single ⟨?_, admitted⟩⟩
    have step := CycleStep.initial pluginSerial up stands found first
    rw [after, own.display, entries]
    rw [before] at step ⊢
    exact step

end Accept

theorem presented_drawn {size : UInt32 × UInt32} (guarded : old.Guarded)
    (reachable : old.pending.attachment ≠ .unreachable) (drawn : old.pending.attachment ≠ .null) :
    (old.presented size).committed.attachment ≠ .null := by
  have attached : (old.presented size).attachments.committed = (old.takeAttachment size).attachments.committed :=
    congrArg AttachmentCore.committed ForwardSurface.presented_attachments
  rw [show (old.presented size).committed.attachment = _ from attached, ForwardSurface.takeAttachment_attachments]
  cases pending : old.pending.attachment with
  | null => exact absurd pending drawn
  | buffer buffer => simp
  | unreachable => exact absurd pending reachable
  | committed => exact guarded.attached.kept pending

/-- A commit is admitted on an output where its first configure and its updates are. -/
structure AdmitsCommit (meets : CycleView → CycleEvent → Prop) (view : CycleView) (surface : ForwardSurface) :
    Prop where
  initial : surface.hasBeenConfigured = false →
    ∀ look, meets { view with plugin := some ⟨surface.cycle, look⟩ } .initial
  nested : surface.subsurfaceParent.isSome = true → meets view (.update true surface.pending.look)
  layer : surface.subsurfaceParent = none → surface.hasBeenConfigured = true → surface.pending.attachment ≠ .null →
    meets view (.update false surface.pending.look)

section Commit

variable {output : OutputId}

theorem commitLayerSurface_advances (lenient : Lenient meets) (up : scene.display = true) (attached : Attached scene)
    (present : scene.forwardSurfaces.cell id = some old) (role : old.swaySurface = some output)
    (drawn : old.pending.attachment ≠ .null)
    (admitted : meets (scene.cycleView output) (.update false old.pending.look)) :
    Ensures (commitLayerSurface scene id output) fun result => Advances meets none scene result.1 := by
  refine .read fun record _ => ?_
  have commits : CommitsTo id old (.lock output) := .inr ⟨output, rfl, role⟩
  refine (applyPendingSurfaceUpdates_advances lenient up attached present commits record.surface
    fun other same => ?_).bind fun framed parts => ?_
  · rw [role] at same
    cases same
    exact admitted
  obtain ⟨advances, _, up, _, reachable, size, presented, _, there, same⟩ := parts
  refine .read fun surface found => ?_
  rw [there] at found
  cases found
  intro result computed guard
  obtain ⟨verdict, checked, computed⟩ := bind_ok.mp computed
  cases verdict with
  | some error =>
      cases computed
      exact advances.trans (Quiet.advances (.postError framed presented.client (.commit error))) guard
  | none =>
      obtain ⟨accepted, accepts, computed⟩ := bind_ok.mp computed
      cases computed
      have turned : presented.roleCore = old.roleCore :=
        (congrArg ForwardSurface.roleCore same).trans ForwardSurface.presented_roleCore
      have shown := congrArg (fun surface : ForwardSurface => surface.committed.attachment) same
      change presented.committed.attachment = (old.presented size).committed.attachment at shown
      have kept : presented.committed.attachment ≠ .null := by
        rw [shown]
        exact presented_drawn (guard.surfaces.records id old present) reachable drawn
      have guarded := (advances guard).guard.surfaces.records id presented there
      have serves : presented.swaySurface = some output := (congrArg RoleCore.role turned).trans role
      have size := sized_of_accepted guarded kept checked
      exact advances.trans (acceptCommit_advances lenient up there serves kept size accepted accepts) guard

theorem commitSubsurface_advances (lenient : Lenient meets) (up : scene.display = true) (attached : Attached scene)
    (present : scene.forwardSurfaces.cell id = some old)
    (admitted : ∀ output, old.swaySurface = some output → old.subsurfaceParent.isSome = true →
      meets (scene.cycleView output) (.update true old.pending.look)) :
    Ensures (commitSubsurface scene id old) fun middle => Advances meets none scene middle ∧ Attached middle ∧
      middle.display = true ∧ ∃ record, middle.forwardSurfaces.cell id = some record ∧
        record.roleCore = old.roleCore ∧ record.pending = old.pending ∧
        (∀ output, old.swaySurface = some output → LinkGuard none scene → middle.cycleView output =
          { scene.cycleView output with plugin := some ⟨old.cycle, record.committed.look⟩ }) ∧
        (old.subsurfaceParent = none ∧ middle = scene ∨
          old.subsurfaceParent.isSome = true ∧ record.committed.look = old.pending.look) := by
  unfold commitSubsurface
  split
  · rename_i nested
    refine (applyPendingSurfaceUpdates_advances lenient up attached present (.inl rfl) old.extSurface
      fun output role => admitted output role nested).bind fun framed parts => .pure ?_
    obtain ⟨advances, attached, up, viewed, _, size, record, _, there, same⟩ := parts
    have told : Quiet framed (framed.request (.ext id) .commit) := .tell framed rfl
    have sent : Changes [.upstream] framed (framed.request (.ext id) .commit) :=
      .tell framed _ (by simp [Message.effect])
    have turned := (congrArg ForwardSurface.roleCore same).trans ForwardSurface.presented_roleCore
    have pending := (congrArg ForwardSurface.pending same).trans ForwardSurface.presented_pending
    have looked := (congrArg (fun surface : ForwardSurface => surface.committed.look) same).trans
      ForwardSurface.presented_look
    change record.committed.look = old.pending.look at looked
    refine ⟨advances.trans told.advances, attached.of_changes sent (by simp), up, record, there, turned, pending,
      fun output role links => ?_, .inr ⟨nested, looked⟩⟩
    obtain ⟨added, view⟩ := viewed output role links
    have absorbed : absorbs (.ext id) = true := rfl
    rw [told.roles.cycleView output, view, looked, if_pos absorbed, List.append_nil]
  · rename_i root
    refine .pure ⟨.refl scene, attached, up, old, present, rfl, rfl, fun output role links => ?_,
      .inl ⟨by simpa using root, rfl⟩⟩
    obtain ⟨_, core, stands, linked⟩ := links.served output id old present role
    rw [Scene.cycleView_linked present stands linked]
    rfl

theorem nestedSurfaceCommit_advances (lenient : Lenient meets) (up : scene.display = true) (attached : Attached scene)
    (id : SurfaceId) (admitted : ∀ surface output, scene.forwardSurfaces.cell id = some surface →
      surface.swaySurface = some output → AdmitsCommit meets (scene.cycleView output) surface) :
    Ensures (nestedSurfaceCommit scene id) fun result => Advances meets none scene result.1 := by
  refine .read fun surface present => ?_
  split
  · exact .pure (.refl scene)
  refine (commitSubsurface_advances lenient up attached present fun output role nested =>
    (admitted surface output present role).nested nested).bind fun middle parts => ?_
  obtain ⟨advances, attached, up, record, there, turned, pending, viewed, ends⟩ := parts
  refine .read fun current found => ?_
  rw [there] at found
  cases found
  split
  · exact .pure advances
  rename_i output role
  have served : surface.swaySurface = some output := (congrArg RoleCore.role turned).symm.trans role
  have admits := admitted surface output present served
  have configured : record.hasBeenConfigured = surface.hasBeenConfigured :=
    congrArg (fun core : RoleCore => core.cycle.hasBeenConfigured) turned
  intro result computed guard
  have view := viewed output served guard.links
  suffices last : Ensures (commitInRole middle id record output) fun result => Advances meets none middle result.1 from
    advances.trans (last result computed) guard
  unfold commitInRole
  split
  · rename_i first
    have first : record.hasBeenConfigured = false := by simpa using first
    have allowed : meets (middle.cycleView output) .initial := by
      rw [view]
      exact admits.initial (configured ▸ first) record.committed.look
    exact (sendInitialConfigure_advances up there role first allowed).bind fun _ sent => .pure sent
  rename_i done
  have done : record.hasBeenConfigured = true := by simpa using done
  split
  · split
    · exact .pure (.refl middle)
    · exact .pure (Quiet.advances (.postError middle _ _))
  · rename_i drawn
    have drawn : record.pending.attachment ≠ .null := by simpa using drawn
    refine commitLayerSurface_advances lenient up attached there role drawn ?_
    rcases ends with ⟨root, rfl⟩ | ⟨_, looked⟩
    · rw [pending] at drawn ⊢
      exact admits.layer root (configured ▸ done) drawn
    · rw [pending, ← looked]
      have found : (middle.cycleView output).plugin = some ⟨surface.cycle, record.committed.look⟩ := by rw [view]
      exact lenient.settled _ _ found

end Commit

end SwaylockPlugin
