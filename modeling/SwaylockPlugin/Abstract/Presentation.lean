import Mathlib.Logic.Function.Basic
import SwaylockPlugin.Library.Machine
import SwaylockPlugin.Construction.Loop
import SwaylockPlugin.Construction.Wire

namespace SwaylockPlugin

open Library

/-- The stall record of an output keeps whether a frame is awaited, since when, and when one was last done. -/
structure FrameRecord where
  pending : Bool
  since : Timespec
  lastDone : Timespec

namespace FrameRecord

/-- A new output awaits no frame. -/
def blank : FrameRecord := ⟨false, ⟨0, 0⟩, ⟨0, 0⟩⟩

/-- The first awaited frame starts the clock of the output. -/
def start (now : Timespec) (record : FrameRecord) : FrameRecord :=
  if record.pending then record else { record with pending := true, since := now }

/-- A frame that is done stops the clock of the output. -/
def finish (now : Timespec) (record : FrameRecord) : FrameRecord :=
  { record with pending := false, lastDone := now }

end FrameRecord

/-- A frame request keeps the output that it is made for and the time at which it is made. -/
structure FrameRequest where
  output : Option OutputId
  time : Timespec

/-- A presentation consists of the outputs with their stall records and the outstanding frame requests. -/
structure FrameView where
  listed : List OutputId
  records : OutputId → Option FrameRecord
  bound : OutputId
  requests : CallbackId → Option FrameRequest
  fresh : CallbackId

/-- A presentation takes one of these steps. -/
inductive FrameEvent where
  | added
  | removed (output : OutputId)
  | requested (request : FrameRequest)
  | completed (callbacks : CallbackId) (now : Timespec)

namespace FrameView

/-- No output was added and no frame was requested. -/
def empty : FrameView := ⟨[], fun _ => none, 0, fun _ => none, 0⟩

/-- The record of an output changes where there is one. -/
def change (view : FrameView) (change : FrameRecord → FrameRecord) : Option OutputId → FrameView
  | none => view
  | some output =>
      { view with records := Function.update view.records output ((view.records output).map change) }

/-- An output is added under the next name. -/
def add (view : FrameView) : FrameView :=
  { view with
    listed := view.bound :: view.listed
    records := Function.update view.records view.bound (some .blank)
    bound := view.bound + 1 }

/-- An output is removed. -/
def remove (view : FrameView) (output : OutputId) : FrameView :=
  { view with
    listed := view.listed.erase output
    records := Function.update view.records output none }

/-- A frame is requested under the next name. -/
def request (view : FrameView) (request : FrameRequest) : FrameView :=
  { view.change (.start request.time) request.output with
    requests := Function.update view.requests view.fresh (some request)
    fresh := view.fresh + 1 }

/-- A requested frame is done. -/
def complete (view : FrameView) (callbacks : CallbackId) (output : Option OutputId) (now : Timespec) : FrameView :=
  { view.change (.finish now) output with requests := Function.update view.requests callbacks none }

/-- A frame is requested for a present output, and only an outstanding one is done. -/
inductive Step : FrameView → FrameEvent → FrameView → Prop
  | added (view : FrameView) : Step view .added view.add
  | removed (view : FrameView) (output : OutputId) : Step view (.removed output) (view.remove output)
  | requested (view : FrameView) (request : FrameRequest)
      (present : ∀ output, request.output = some output → (view.records output).isSome = true) :
      Step view (.requested request) (view.request request)
  | completed (view : FrameView) {callbacks : CallbackId} {request : FrameRequest} (now : Timespec)
      (outstanding : view.requests callbacks = some request) :
      Step view (.completed callbacks now) (view.complete callbacks request.output now)

end FrameView

/-- The presentation of the outputs is a machine of its own. -/
def presenting : Machine FrameView FrameEvent where
  initial view := view = .empty
  step := FrameView.Step

namespace FrameView

variable {view next : FrameView} {event : FrameEvent}

section Access

theorem records_change (change : FrameRecord → FrameRecord) (target : Option OutputId) (output : OutputId) :
    ((view.change change target).records output).isSome = (view.records output).isSome := by
  cases target with
  | none => rfl
  | some name =>
      change (Function.update view.records name ((view.records name).map change) output).isSome = _
      by_cases same : output = name
      · subst same
        rw [Function.update_self, Option.isSome_map]
      · rw [Function.update_of_ne same]

theorem old_of_change {change : FrameRecord → FrameRecord} {target : Option OutputId} {output : OutputId}
    {record : FrameRecord} (present : (view.change change target).records output = some record) :
    ∃ old, view.records output = some old ∧
      (target = some output ∧ record = change old ∨ target ≠ some output ∧ record = old) := by
  cases target with
  | none => exact ⟨record, present, .inr ⟨nofun, rfl⟩⟩
  | some name =>
      change Function.update view.records name ((view.records name).map change) output = some record at present
      by_cases same : output = name
      · subst same
        rw [Function.update_self] at present
        obtain ⟨old, there, changed⟩ := Option.map_eq_some_iff.mp present
        exact ⟨old, there, .inl ⟨rfl, changed.symm⟩⟩
      · rw [Function.update_of_ne same] at present
        exact ⟨record, present, .inr ⟨fun named => same (Option.some.inj named).symm, rfl⟩⟩

theorem change_rest (change : FrameRecord → FrameRecord) (target : Option OutputId) :
    (view.change change target).listed = view.listed ∧ (view.change change target).bound = view.bound ∧
      (view.change change target).requests = view.requests ∧ (view.change change target).fresh = view.fresh := by
  cases target <;> exact ⟨rfl, rfl, rfl, rfl⟩

theorem change_congr {one other : FrameRecord → FrameRecord} {output : OutputId} {record : FrameRecord}
    (present : view.records output = some record) (same : one record = other record) :
    view.change one (some output) = view.change other (some output) := by
  have records : (view.records output).map one = (view.records output).map other := by
    rw [present, Option.map_some, Option.map_some, same]
  exact congrArg (fun record => { view with records := Function.update view.records output record }) records

theorem change_fixed {change : FrameRecord → FrameRecord} {output : OutputId} {record : FrameRecord}
    (present : view.records output = some record) (same : change record = record) :
    view.change change (some output) = view := by
  have records : Function.update view.records output ((view.records output).map change) = view.records := by
    rw [present, Option.map_some, same, ← present, Function.update_eq_self]
  exact congrArg (fun records => { view with records := records }) records

theorem old_of_remove {gone output : OutputId} {record : FrameRecord}
    (present : (view.remove gone).records output = some record) : view.records output = some record ∧ output ≠ gone := by
  change Function.update view.records gone none output = some record at present
  by_cases same : output = gone
  · rw [same, Function.update_self] at present
    cases present
  · rw [Function.update_of_ne same] at present
    exact ⟨present, same⟩

theorem old_of_request {made other : FrameRequest} {callbacks : CallbackId}
    (present : (view.request made).requests callbacks = some other) :
    callbacks = view.fresh ∧ other = made ∨ callbacks ≠ view.fresh ∧ view.requests callbacks = some other := by
  change Function.update view.requests view.fresh (some made) callbacks = some other at present
  by_cases same : callbacks = view.fresh
  · rw [same, Function.update_self] at present
    exact .inl ⟨same, (Option.some.inj present).symm⟩
  · rw [Function.update_of_ne same] at present
    exact .inr ⟨same, present⟩

theorem old_of_complete {done callbacks : CallbackId} {output : Option OutputId} {now : Timespec}
    {other : FrameRequest} (present : (view.complete done output now).requests callbacks = some other) :
    view.requests callbacks = some other ∧ callbacks ≠ done := by
  change Function.update view.requests done none callbacks = some other at present
  by_cases same : callbacks = done
  · rw [same, Function.update_self] at present
    cases present
  · rw [Function.update_of_ne same] at present
    exact ⟨present, same⟩

end Access

/-- The names are used up in order, and a present output is listed. -/
structure Sound (view : FrameView) : Prop where
  recorded : ∀ output record, view.records output = some record → output < view.bound
  named : ∀ callbacks request, view.requests callbacks = some request → callbacks < view.fresh
  bounded : ∀ callbacks request output, view.requests callbacks = some request → request.output = some output →
    output < view.bound
  listed : ∀ output record, view.records output = some record → output ∈ view.listed

namespace Sound

theorem empty : Sound .empty := ⟨nofun, nofun, nofun, nofun⟩

theorem add (sound : view.Sound) : view.add.Sound := by
  have old {output : OutputId} {record : FrameRecord} (present : view.add.records output = some record) :
      output = view.bound ∧ record = .blank ∨ view.records output = some record := by
    change Function.update view.records view.bound (some .blank) output = some record at present
    by_cases same : output = view.bound
    · rw [same, Function.update_self] at present
      exact .inl ⟨same, (Option.some.inj present).symm⟩
    · rw [Function.update_of_ne same] at present
      exact .inr present
  refine ⟨fun output record present => ?_, sound.named, fun callbacks request output there made => ?_,
    fun output record present => ?_⟩
  · rcases old present with ⟨rfl, _⟩ | there
    · exact Nat.lt_succ_self _
    · exact Nat.lt_succ_of_lt (sound.recorded output record there)
  · exact Nat.lt_succ_of_lt (sound.bounded callbacks request output there made)
  · rcases old present with ⟨rfl, _⟩ | there
    · exact List.mem_cons_self
    · exact List.mem_cons_of_mem _ (sound.listed output record there)

theorem remove (sound : view.Sound) (gone : OutputId) : (view.remove gone).Sound := by
  refine ⟨fun output record present => ?_, sound.named, sound.bounded, fun output record present => ?_⟩
  · exact sound.recorded output record (old_of_remove present).1
  · obtain ⟨there, apart⟩ := old_of_remove present
    exact (List.mem_erase_of_ne apart).mpr (sound.listed output record there)

theorem request (sound : view.Sound) (made : FrameRequest)
    (present : ∀ output, made.output = some output → (view.records output).isSome = true) :
    (view.request made).Sound := by
  obtain ⟨listed, bound, _, _⟩ := @change_rest view (.start made.time) made.output
  refine ⟨fun output record there => ?_, fun callbacks request there => ?_,
    fun callbacks request output there named => ?_, fun output record there => ?_⟩
  · obtain ⟨old, before, _⟩ := old_of_change there
    exact bound ▸ sound.recorded output old before
  · rcases old_of_request there with ⟨rfl, _⟩ | ⟨_, before⟩
    · exact Nat.lt_succ_self _
    · exact Nat.lt_succ_of_lt (sound.named callbacks request before)
  · change output < (view.change (.start made.time) made.output).bound
    rw [bound]
    rcases old_of_request there with ⟨_, rfl⟩ | ⟨_, before⟩
    · obtain ⟨record, found⟩ := Option.isSome_iff_exists.mp (present output named)
      exact sound.recorded output record found
    · exact sound.bounded callbacks request output before named
  · obtain ⟨old, before, _⟩ := old_of_change there
    exact listed ▸ sound.listed output old before

theorem complete (sound : view.Sound) (done : CallbackId) (made : FrameRequest) (now : Timespec) :
    (view.complete done made.output now).Sound := by
  obtain ⟨listed, bound, _, fresh⟩ := @change_rest view (.finish now) made.output
  refine ⟨fun output record there => ?_, fun callbacks request there => ?_,
    fun callbacks request output there named => ?_, fun output record there => ?_⟩
  · obtain ⟨old, before, _⟩ := old_of_change there
    exact bound ▸ sound.recorded output old before
  · exact fresh ▸ sound.named callbacks request (old_of_complete there).1
  · exact bound ▸ sound.bounded callbacks request output (old_of_complete there).1 named
  · obtain ⟨old, before, _⟩ := old_of_change there
    exact listed ▸ sound.listed output old before

theorem step (sound : view.Sound) (moved : Step view event next) : next.Sound := by
  cases moved with
  | added => exact sound.add
  | removed output => exact sound.remove output
  | requested made present => exact sound.request made present
  | completed now _ => exact sound.complete _ _ now

end Sound

theorem sound_of_reachable (reachable : presenting.Reachable view) : view.Sound :=
  reachable.invariant Sound (by rintro _ rfl; exact .empty) fun _ _ _ sound moved => sound.step moved

/-- The list of the outputs holds each of them once and only those that have a record. -/
structure Filled (view : FrameView) : Prop where
  distinct : view.listed.Nodup
  live : ∀ output ∈ view.listed, (view.records output).isSome = true

theorem Filled.step (filled : view.Filled) (sound : view.Sound) (moved : Step view event next) : next.Filled := by
  cases moved with
  | added =>
      have fresh : view.bound ∉ view.listed := by
        intro listed
        obtain ⟨record, found⟩ := Option.isSome_iff_exists.mp (filled.live view.bound listed)
        exact Nat.lt_irrefl _ (sound.recorded view.bound record found)
      refine ⟨List.nodup_cons.mpr ⟨fresh, filled.distinct⟩, fun output listed => ?_⟩
      change (Function.update view.records view.bound (some .blank) output).isSome = true
      rcases List.mem_cons.mp listed with rfl | before
      · rw [Function.update_self]
        rfl
      · have other : output ≠ view.bound := fun same => fresh (same ▸ before)
        rw [Function.update_of_ne other]
        exact filled.live output before
  | removed gone =>
      refine ⟨filled.distinct.erase gone, fun output listed => ?_⟩
      obtain ⟨other, before⟩ := filled.distinct.mem_erase_iff.mp listed
      change (Function.update view.records gone none output).isSome = true
      rw [Function.update_of_ne other]
      exact filled.live output before
  | requested made _ =>
      obtain ⟨listed, _, _, _⟩ := @change_rest view (.start made.time) made.output
      refine ⟨listed ▸ filled.distinct, fun output there => ?_⟩
      exact (records_change _ _ output).trans (filled.live output (listed ▸ there))
  | @completed _ request now outstanding =>
      obtain ⟨listed, _, _, _⟩ := @change_rest view (.finish now) request.output
      refine ⟨listed ▸ filled.distinct, fun output there => ?_⟩
      exact (records_change _ _ output).trans (filled.live output (listed ▸ there))

theorem filled_of_reachable (reachable : presenting.Reachable view) : view.Filled :=
  reachable.invariant_under Sound Filled (fun _ => sound_of_reachable) (by rintro _ rfl; exact ⟨.nil, nofun⟩)
    fun _ _ _ sound filled moved => filled.step sound moved

theorem Sound.request_of_old (sound : view.Sound) {callbacks : CallbackId} {request : FrameRequest}
    (there : view.requests callbacks = some request) (made : FrameRequest) :
    (view.request made).requests callbacks = some request := by
  change Function.update view.requests view.fresh (some made) callbacks = some request
  rw [Function.update_of_ne (Nat.ne_of_lt (sound.named callbacks request there))]
  exact there

theorem complete_of_old {done callbacks : CallbackId} {made request : FrameRequest} {output : OutputId} (now : Timespec)
    (outstanding : view.requests done = some made) (apart : made.output ≠ some output)
    (there : view.requests callbacks = some request) (named : request.output = some output) :
    (view.complete done made.output now).requests callbacks = some request := by
  have other : callbacks ≠ done := by
    rintro rfl
    cases there.symm.trans outstanding
    exact apart named
  change Function.update view.requests done none callbacks = some request
  rw [Function.update_of_ne other]
  exact there

/-- An observer marks for each output the first request that came after a frame of it was last done. -/
def frameMarks (view : FrameView) (marks : OutputId → CallbackId) : FrameEvent → OutputId → CallbackId
  | .completed callbacks _ =>
      match (view.requests callbacks).bind FrameRequest.output with
      | some output => Function.update marks output view.fresh
      | none => marks
  | _ => marks

/-- A running clock of an output runs since a request that is outstanding and came after the mark of the output. -/
structure Timed (view : FrameView) (marks : OutputId → CallbackId) : Prop where
  marked : ∀ output, marks output ≤ view.fresh
  awaited : ∀ output record, view.records output = some record → record.pending = true →
    ∃ callbacks request, view.requests callbacks = some request ∧ request.output = some output ∧
      marks output ≤ callbacks ∧ request.time = record.since

namespace Timed

variable {marks : OutputId → CallbackId}

theorem add (timed : view.Timed marks) : view.add.Timed marks := by
  refine ⟨timed.marked, fun output record there pending => ?_⟩
  change Function.update view.records view.bound (some .blank) output = some record at there
  by_cases same : output = view.bound
  · rw [same, Function.update_self] at there
    cases there
    cases pending
  · rw [Function.update_of_ne same] at there
    exact timed.awaited output record there pending

theorem request (timed : view.Timed marks) (sound : view.Sound) (made : FrameRequest) :
    (view.request made).Timed marks := by
  have marked (output : OutputId) : marks output ≤ view.fresh + 1 := Nat.le_succ_of_le (timed.marked output)
  refine ⟨marked, fun output record there pending => ?_⟩
  have kept {old : FrameRecord} (before : view.records output = some old) (awaits : old.pending = true) :
      ∃ callbacks request, (view.request made).requests callbacks = some request ∧ request.output = some output ∧
        marks output ≤ callbacks ∧ request.time = old.since := by
    obtain ⟨callbacks, request, awaited, rest⟩ := timed.awaited output old before awaits
    exact ⟨callbacks, request, sound.request_of_old awaited made, rest⟩
  obtain ⟨old, before, ⟨same, rfl⟩ | ⟨_, rfl⟩⟩ := old_of_change there
  · unfold FrameRecord.start at pending ⊢
    split
    · rename_i already
      exact kept before already
    · exact ⟨view.fresh, made, Function.update_self .., same, timed.marked output, rfl⟩
  · exact kept before pending

theorem complete (timed : view.Timed marks) {done : CallbackId} {made : FrameRequest} (now : Timespec)
    (outstanding : view.requests done = some made) :
    (view.complete done made.output now).Timed (view.frameMarks marks (.completed done now)) := by
  have here {output : OutputId} (same : made.output = some output) :
      view.frameMarks marks (.completed done now) output = view.fresh := by
    simp only [frameMarks, outstanding, Option.bind_some, same, Function.update_self]
  have apart {output : OutputId} (other : made.output ≠ some output) :
      view.frameMarks marks (.completed done now) output = marks output := by
    simp only [frameMarks, outstanding, Option.bind_some]
    cases named : made.output with
    | none => rfl
    | some name => exact Function.update_of_ne (fun same => other (named.trans (congrArg some same.symm))) ..
  obtain ⟨_, _, _, fresh⟩ := @change_rest view (.finish now) made.output
  refine ⟨fun output => ?_, fun output record there pending => ?_⟩
  · refine Nat.le_trans ?_ (Nat.le_of_eq fresh.symm)
    by_cases same : made.output = some output
    · exact Nat.le_of_eq (here same)
    · rw [apart same]
      exact timed.marked output
  · obtain ⟨old, before, ⟨_, rfl⟩ | ⟨other, rfl⟩⟩ := old_of_change there
    · cases pending
    · obtain ⟨callbacks, request, awaited, named, later, time⟩ := timed.awaited output record before pending
      rw [apart other]
      exact ⟨callbacks, request, complete_of_old now outstanding other awaited named, named, later, time⟩

theorem step (timed : view.Timed marks) (sound : view.Sound) (moved : Step view event next) :
    next.Timed (view.frameMarks marks event) := by
  cases moved with
  | added => exact timed.add
  | removed output =>
      exact ⟨timed.marked, fun other record there => timed.awaited other record (old_of_remove there).1⟩
  | requested made _ => exact timed.request sound made
  | completed now outstanding => exact timed.complete now outstanding

end Timed

theorem timed_of_reachable {marks : OutputId → CallbackId}
    (reachable : (presenting.observed (fun _ => 0) fun marks view event => view.frameMarks marks event).Reachable
      (view, marks)) : view.Timed marks := by
  refine reachable.invariant_under (fun pair => pair.1.Sound) (fun pair => pair.1.Timed pair.2) ?_ ?_ ?_
  · exact fun _ before => sound_of_reachable before.of_observed
  · rintro ⟨view, marks⟩ ⟨start, marked⟩
    cases start
    cases marked
    exact ⟨fun _ => Nat.le_refl _, nofun⟩
  · rintro ⟨view, marks⟩ event ⟨next, _⟩ sound timed ⟨moved, rfl⟩
    exact timed.step sound moved

/-- An output is removed only while no frame that was requested for it is outstanding. -/
def RemovesIdle (view : FrameView) (event : FrameEvent) : Prop :=
  ∀ output, event = .removed output → ∀ callbacks request, view.requests callbacks = some request →
    request.output ≠ some output

/-- Every outstanding request is for a present output or for none. -/
def Attached (view : FrameView) : Prop :=
  ∀ callbacks request output, view.requests callbacks = some request → request.output = some output →
    (view.records output).isSome = true

/-- While only idle outputs are removed, every outstanding request is for a present output. -/
theorem attached_of_reachable (reachable : (presenting.restrict RemovesIdle).Reachable view) : view.Attached := by
  refine reachable.invariant Attached (by rintro _ rfl; exact nofun) fun view event next attached moved => ?_
  obtain ⟨moved, idle⟩ := moved
  intro callbacks request output there named
  cases moved with
  | added =>
      change (Function.update view.records view.bound (some .blank) output).isSome = true
      by_cases same : output = view.bound
      · rw [same, Function.update_self]
        rfl
      · rw [Function.update_of_ne same]
        exact attached callbacks request output there named
  | removed gone =>
      have apart : output ≠ gone := fun same => idle gone rfl callbacks request there (same ▸ named)
      change (Function.update view.records gone none output).isSome = true
      rw [Function.update_of_ne apart]
      exact attached callbacks request output there named
  | requested made present =>
      refine (records_change _ _ output).trans ?_
      rcases old_of_request there with ⟨_, rfl⟩ | ⟨_, before⟩
      · exact present output named
      · exact attached callbacks request output before named
  | completed now outstanding =>
      exact (records_change _ _ output).trans (attached callbacks request output (old_of_complete there).1 named)

/-- A request is done only as the only outstanding one for its output. -/
def CompletesAlone (view : FrameView) (event : FrameEvent) : Prop :=
  ∀ done now, event = .completed done now → ∀ made output, view.requests done = some made →
    made.output = some output → ∀ callbacks request, view.requests callbacks = some request → callbacks ≠ done →
    request.output ≠ some output

/-- A request is the oldest outstanding one for an output. -/
structure Oldest (view : FrameView) (output : OutputId) (callbacks : CallbackId) (request : FrameRequest) : Prop where
  outstanding : view.requests callbacks = some request
  named : request.output = some output
  first : ∀ other later, view.requests other = some later → later.output = some output → callbacks ≤ other

/-- The record of an output follows the outstanding requests when its clock runs since the oldest of them. -/
structure Follows (view : FrameView) (output : OutputId) (record : FrameRecord) : Prop where
  awaited : record.pending = true → ∃ callbacks request, view.Oldest output callbacks request ∧
    record.since = request.time
  idle : record.pending = false → ∀ callbacks request, view.requests callbacks = some request →
    request.output ≠ some output

theorem Follows.of_requests {other : FrameView} {output : OutputId} {record : FrameRecord}
    (follows : view.Follows output record) (same : other.requests = view.requests) : other.Follows output record := by
  refine ⟨fun pending => ?_, same ▸ follows.idle⟩
  obtain ⟨callbacks, request, oldest, time⟩ := follows.awaited pending
  exact ⟨callbacks, request, ⟨same ▸ oldest.outstanding, oldest.named, same ▸ oldest.first⟩, time⟩

/-- Every record follows the outstanding requests. -/
def Tracked (view : FrameView) : Prop :=
  ∀ output record, view.records output = some record → view.Follows output record

namespace Tracked

theorem request (tracked : view.Tracked) (sound : view.Sound) (made : FrameRequest) : (view.request made).Tracked := by
  have older {output : OutputId} {callbacks : CallbackId} {request : FrameRequest}
      (oldest : view.Oldest output callbacks request) : (view.request made).Oldest output callbacks request := by
    refine ⟨sound.request_of_old oldest.outstanding made, oldest.named, fun other later there named => ?_⟩
    rcases old_of_request there with ⟨rfl, _⟩ | ⟨_, before⟩
    · exact Nat.le_of_lt (sound.named callbacks request oldest.outstanding)
    · exact oldest.first other later before named
  intro output record there
  obtain ⟨old, before, ⟨same, rfl⟩ | ⟨apart, rfl⟩⟩ := old_of_change there
  · have follows := tracked output old before
    unfold FrameRecord.start
    split
    · rename_i already
      refine ⟨fun _ => ?_, fun idle => absurd (already.symm.trans idle) (by decide)⟩
      obtain ⟨callbacks, request, oldest, time⟩ := follows.awaited already
      exact ⟨callbacks, request, older oldest, time⟩
    · rename_i rests
      refine ⟨fun _ => ⟨view.fresh, made, ⟨Function.update_self .., same, fun other later there named => ?_⟩, rfl⟩,
        nofun⟩
      rcases old_of_request there with ⟨rfl, _⟩ | ⟨_, earlier⟩
      · exact Nat.le_refl _
      · exact absurd named (follows.idle (by simpa using rests) other later earlier)
  · have follows := tracked output record before
    refine ⟨fun pending => ?_, fun idle callbacks request there => ?_⟩
    · obtain ⟨callbacks, request, oldest, time⟩ := follows.awaited pending
      exact ⟨callbacks, request, older oldest, time⟩
    · rcases old_of_request there with ⟨_, rfl⟩ | ⟨_, earlier⟩
      · exact apart
      · exact follows.idle idle callbacks request earlier

theorem complete (tracked : view.Tracked) {done : CallbackId} {made : FrameRequest} (now : Timespec)
    (outstanding : view.requests done = some made) (alone : CompletesAlone view (.completed done now)) :
    (view.complete done made.output now).Tracked := by
  intro output record there
  obtain ⟨old, before, ⟨same, rfl⟩ | ⟨apart, rfl⟩⟩ := old_of_change there
  · refine ⟨nofun, fun _ callbacks request there => ?_⟩
    obtain ⟨earlier, other⟩ := old_of_complete there
    exact alone done now rfl made output outstanding same callbacks request earlier other
  · have follows := tracked output record before
    refine ⟨fun pending => ?_, fun idle callbacks request there => follows.idle idle callbacks request (old_of_complete there).1⟩
    obtain ⟨callbacks, request, oldest, time⟩ := follows.awaited pending
    have kept := complete_of_old now outstanding apart oldest.outstanding oldest.named
    refine ⟨callbacks, request, ⟨kept, oldest.named, fun other later there named => ?_⟩, time⟩
    exact oldest.first other later (old_of_complete there).1 named

end Tracked

theorem tracked_of_reachable (reachable : (presenting.restrict CompletesAlone).Reachable view) : view.Tracked := by
  refine reachable.invariant_under Sound Tracked (fun _ before => sound_of_reachable before.of_restrict)
    (by rintro _ rfl; exact nofun) fun view event next sound tracked moved => ?_
  obtain ⟨moved, alone⟩ := moved
  cases moved with
  | added =>
      intro output record there
      change Function.update view.records view.bound (some .blank) output = some record at there
      by_cases same : output = view.bound
      · rw [same, Function.update_self] at there
        cases there
        refine ⟨nofun, fun _ callbacks request awaited named => ?_⟩
        exact absurd (sound.bounded callbacks request output awaited named) (by rw [same]; exact Nat.lt_irrefl _)
      · rw [Function.update_of_ne same] at there
        exact (tracked output record there).of_requests rfl
  | removed gone =>
      intro output record there
      exact (tracked output record (old_of_remove there).1).of_requests rfl
  | requested made _ => exact tracked.request sound made
  | completed now outstanding => exact tracked.complete now outstanding alone

end FrameView

end SwaylockPlugin
