import Mathlib.Logic.Function.Basic
import SwaylockPlugin.Library.Machine
import SwaylockPlugin.Construction.Scene

namespace SwaylockPlugin

open Library

/-- A roster holds the records of the clients and the list of them. -/
structure Roster where
  records : Heap SwaylockBgClient
  listed : List BgClientId

/-- A roster takes one of these steps, two of which signal the process group of a client. -/
inductive RosterEvent where
  | started (record : SwaylockBgClient)
  | changed (id : BgClientId)
  | stopped (id : BgClientId)
  | continued (id : BgClientId)
  | delisted (id : BgClientId)
  | freed (id : BgClientId)

namespace Roster

variable {roster next : Roster} {event : RosterEvent} {id : BgClientId}

/-- No client was started. -/
def empty : Roster := ⟨.empty, []⟩

/-- A client runs when it is not recorded as paused. -/
def Runs (roster : Roster) (id : BgClientId) : Prop :=
  ∀ record, roster.records.cell id = some record → record.paused = false

/-- A client is started running, only a listed client with a process group is stopped, and only a running client leaves
the list or is freed. -/
inductive Step : Roster → RosterEvent → Roster → Prop
  | started (roster : Roster) {record : SwaylockBgClient} (runs : record.paused = false) :
      Step roster (.started record) ⟨roster.records.alloc record, roster.records.next :: roster.listed⟩
  | changed (roster : Roster) (id : BgClientId) {change : SwaylockBgClient → SwaylockBgClient}
      (kept : ∀ record, (change record).paused = record.paused ∧ (change record).pid = record.pid) :
      Step roster (.changed id) ⟨roster.records.modify id change, roster.listed⟩
  | stopped (roster : Roster) {id : BgClientId} {record : SwaylockBgClient} (listed : id ∈ roster.listed)
      (present : roster.records.cell id = some record) (group : 0 < record.pid) :
      Step roster (.stopped id) ⟨roster.records.modify id fun record => { record with paused := true }, roster.listed⟩
  | continued (roster : Roster) (id : BgClientId) :
      Step roster (.continued id)
        ⟨roster.records.modify id fun record => { record with paused := false }, roster.listed⟩
  | delisted (roster : Roster) {id : BgClientId} (runs : roster.Runs id) :
      Step roster (.delisted id) ⟨roster.records, roster.listed.erase id⟩
  | freed (roster : Roster) {id : BgClientId} (runs : roster.Runs id) :
      Step roster (.freed id) ⟨roster.records.free id, roster.listed⟩

end Roster

/-- The records of the clients are a machine of their own. -/
def rostering : Machine Roster RosterEvent where
  initial roster := roster = .empty
  step := Roster.Step

/-- An observer knows which process groups were stopped and not continued since. -/
def RosterEvent.signal (stopped : BgClientId → Bool) : RosterEvent → BgClientId → Bool
  | .stopped id => Function.update stopped id true
  | .continued id => Function.update stopped id false
  | _ => stopped

/-- The signals to the process groups are observed along the records. -/
def signalling : Machine (Roster × (BgClientId → Bool)) RosterEvent :=
  rostering.observed (fun _ => false) fun stopped _ event => event.signal stopped

namespace Roster

variable {roster next : Roster} {event : RosterEvent} {stopped : BgClientId → Bool}

/-- Every paused client has a process group and is listed. -/
def Sound (roster : Roster) : Prop :=
  ∀ id record, roster.records.cell id = some record → record.paused = true → 0 < record.pid ∧ id ∈ roster.listed

theorem Sound.step (sound : roster.Sound) (moved : Step roster event next) : next.Sound := by
  intro id record present paused
  cases moved with
  | @started made runs =>
      change (roster.records.alloc made).cell id = some record at present
      rw [Heap.cell_alloc] at present
      split at present
      · cases present
        exact absurd (paused.symm.trans runs) (by decide)
      · obtain ⟨group, listed⟩ := sound id record present paused
        exact ⟨group, List.mem_cons_of_mem _ listed⟩
  | changed other kept =>
      obtain ⟨old, before, ⟨_, rfl⟩ | ⟨_, rfl⟩⟩ := roster.records.old_of_modify present
      · obtain ⟨group, listed⟩ := sound id old before ((kept old).1 ▸ paused)
        exact ⟨(kept old).2 ▸ group, listed⟩
      · exact sound id record before paused
  | @stopped other there listed found group =>
      obtain ⟨old, before, ⟨same, rfl⟩ | ⟨_, rfl⟩⟩ := roster.records.old_of_modify present
      · subst same
        cases before.symm.trans found
        exact ⟨group, listed⟩
      · exact sound id record before paused
  | continued other =>
      obtain ⟨old, before, ⟨_, rfl⟩ | ⟨_, rfl⟩⟩ := roster.records.old_of_modify present
      · cases paused
      · exact sound id record before paused
  | @delisted other runs =>
      obtain ⟨group, listed⟩ := sound id record present paused
      have apart : id ≠ other := by
        rintro rfl
        exact absurd (paused.symm.trans (runs record present)) (by decide)
      exact ⟨group, (List.mem_erase_of_ne apart).mpr listed⟩
  | @freed other runs =>
      change (roster.records.free other).cell id = some record at present
      rw [Heap.cell_free] at present
      split at present
      · cases present
      · exact sound id record present paused

theorem Sound.run {events : List RosterEvent} (sound : roster.Sound) (run : rostering.Run roster events next) :
    next.Sound :=
  run.preserves Sound (fun _ _ _ sound moved => sound.step moved) sound

theorem Runs.step {id : BgClientId} (runs : roster.Runs id) (moved : Step roster event next)
    (running : event ≠ .stopped id) : next.Runs id := by
  intro record present
  cases moved with
  | @started made fresh =>
      change (roster.records.alloc made).cell id = some record at present
      rw [Heap.cell_alloc] at present
      split at present
      · cases present
        exact fresh
      · exact runs record present
  | changed other kept =>
      obtain ⟨old, before, ⟨_, rfl⟩ | ⟨_, rfl⟩⟩ := roster.records.old_of_modify present
      · exact (kept old).1.trans (runs old before)
      · exact runs record before
  | @stopped other there listed found group =>
      obtain ⟨old, before, ⟨same, _⟩ | ⟨_, rfl⟩⟩ := roster.records.old_of_modify present
      · exact absurd (congrArg RosterEvent.stopped same.symm) running
      · exact runs record before
  | continued other =>
      obtain ⟨old, before, ⟨_, rfl⟩ | ⟨_, rfl⟩⟩ := roster.records.old_of_modify present
      · rfl
      · exact runs record before
  | delisted other => exact runs record present
  | @freed other gone =>
      change (roster.records.free other).cell id = some record at present
      rw [Heap.cell_free] at present
      split at present
      · cases present
      · exact runs record present

theorem Runs.run {id : BgClientId} {events : List RosterEvent} (runs : roster.Runs id)
    (run : rostering.Run roster events next) (running : RosterEvent.stopped id ∉ events) : next.Runs id := by
  induction run with
  | rest => exact runs
  | step moved _ ih =>
      refine ih (runs.step moved ?_) fun later => running (List.mem_cons_of_mem _ later)
      rintro rfl
      exact running List.mem_cons_self

/-- A process group is stopped exactly while the record of its client is paused. -/
def Follows (roster : Roster) (stopped : BgClientId → Bool) : Prop :=
  ∀ id, stopped id = true ↔ ∃ record, roster.records.cell id = some record ∧ record.paused = true

theorem paused_modify {change : SwaylockBgClient → SwaylockBgClient}
    (kept : ∀ record, (change record).paused = record.paused) (target id : BgClientId) :
    (∃ record, (roster.records.modify target change).cell id = some record ∧ record.paused = true) ↔
      ∃ record, roster.records.cell id = some record ∧ record.paused = true := by
  have same := roster.records.view_modify target change SwaylockBgClient.paused (fun record _ => kept record) id
  have seen (heap : Heap SwaylockBgClient) : (∃ record, heap.cell id = some record ∧ record.paused = true) ↔
      (heap.cell id).map SwaylockBgClient.paused = some true := Option.map_eq_some_iff.symm
  rw [seen, seen, same]

theorem Follows.step (follows : roster.Follows stopped) (moved : Step roster event next) :
    next.Follows (event.signal stopped) := by
  intro id
  cases moved with
  | @started made runs =>
      refine (follows id).trans (exists_congr fun record => and_congr_left fun paused => ?_)
      change _ ↔ (roster.records.alloc made).cell id = some record
      rw [Heap.cell_alloc]
      split
      · rename_i fresh
        rw [fresh, Heap.cell_next]
        refine ⟨nofun, fun same => ?_⟩
        cases same
        exact absurd (paused.symm.trans runs) (by decide)
      · rfl
  | changed other kept => exact (follows id).trans (paused_modify (fun record => (kept record).1) other id).symm
  | @stopped other there listed found group =>
      by_cases same : id = other
      · subst same
        refine ⟨fun _ => ⟨{ there with paused := true }, ?_, rfl⟩, fun _ => Function.update_self ..⟩
        change (roster.records.modify id _).cell id = _
        rw [Heap.cell_modify_self, found, Option.map_some]
      · change Function.update stopped other true id = true ↔ ∃ record, (roster.records.modify other _).cell id = _ ∧ _
        rw [Function.update_of_ne same, Heap.cell_modify_other _ _ same]
        exact follows id
  | continued other =>
      by_cases same : id = other
      · subst same
        change Function.update stopped id false id = true ↔ _
        rw [Function.update_self]
        refine ⟨nofun, fun ⟨record, present, paused⟩ => ?_⟩
        obtain ⟨old, _, ⟨_, rfl⟩ | ⟨other, _⟩⟩ := roster.records.old_of_modify present
        · cases paused
        · exact absurd rfl other
      · change Function.update stopped other false id = true ↔ ∃ record, (roster.records.modify other _).cell id = _ ∧ _
        rw [Function.update_of_ne same, Heap.cell_modify_other _ _ same]
        exact follows id
  | delisted runs => exact follows id
  | @freed other runs =>
      refine (follows id).trans (exists_congr fun record => and_congr_left fun paused => ?_)
      change _ ↔ (roster.records.free other).cell id = some record
      rw [Heap.cell_free]
      split
      · rename_i gone
        refine ⟨fun present => ?_, nofun⟩
        exact absurd (paused.symm.trans (runs record (gone ▸ present))) (by decide)
      · rfl

/-- In every history of signals a process group is stopped exactly while the record of its client is paused. -/
theorem follows_of_reachable (reachable : signalling.Reachable (roster, stopped)) : roster.Follows stopped := by
  refine reachable.invariant (fun pair => pair.1.Follows pair.2) ?_ ?_
  · rintro ⟨roster, stopped⟩ ⟨start, blank⟩ id
    cases start
    cases blank
    exact ⟨nofun, nofun⟩
  · rintro ⟨roster, stopped⟩ event ⟨next, _⟩ follows ⟨moved, rfl⟩
    exact follows.step moved

end Roster

end SwaylockPlugin
