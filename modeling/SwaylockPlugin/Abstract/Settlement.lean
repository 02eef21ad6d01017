import SwaylockPlugin.Abstract.Extent
import SwaylockPlugin.Abstract.OrderSteps

namespace SwaylockPlugin

open Library

/-- The compositor keeps the content that the requests of a log leave on the lock surface. -/
def contentIn (log : List Entry) : SurfaceContent := (requestsIn log).foldl SurfaceContent.receive .initial

/-- An attached buffer replaces the buffer that was attached before. -/
def attach (last : Option UpstreamBuffer) : SurfaceRequest → Option UpstreamBuffer
  | .attach buffer _ _ _ _ => some buffer
  | _ => last

/-- The last buffer of a log is the one that was attached last. -/
def lastBuffer (log : List Entry) : Option UpstreamBuffer := (requestsIn log).foldl attach none

/-- A frame is plain when the last buffer is the fallback one, when it is committed in the size of the output, and when
the newest configure event is acknowledged. -/
structure PlainFrame (core : OutputCore) (log : List Entry) : Prop where
  buffer : lastBuffer log = some .fallback
  current : (contentIn log).current = some (contentIn log).sent
  size : (contentIn log).sent.content = some (core.width, core.height)
  scale : (contentIn log).sent.bufferScale = 1
  newest : (issuedIn log).getLast? = some core.newestSerial
  acknowledged : core.newestSerial ∈ ackedIn log
  idle : core.hasNewerSerial = false

/-- An output records the serial that was issued last, and it acknowledged it unless it waits. -/
structure RecordsNewest (core : OutputCore) (log : List Entry) : Prop where
  newest : issuedIn log ≠ [] → (issuedIn log).getLast? = some core.newestSerial
  present : sized core.width core.height = true → issuedIn log ≠ []
  acknowledged : issuedIn log ≠ [] → core.hasNewerSerial = false → core.newestSerial ∈ ackedIn log

/-- The output of a cycle records its newest serial. -/
def CycleView.Records (view : CycleView) : Prop := ∀ core, view.output = some core → RecordsNewest core view.log

/-- An output without a buffer has committed nothing on its lock surface. -/
def CycleView.Bare (view : CycleView) : Prop :=
  ∀ core, view.output = some core → core.hasBuffer = false → Entry.request .commit ∉ view.log

/-- Without the nested server a cycle is settled when an output with a size has a buffer, and a plain frame where the
output owes one. -/
def CycleView.Settled (view : CycleView) (owes : Bool) : Prop :=
  view.display = false → ∀ core, view.output = some core → sized core.width core.height = true →
    core.hasBuffer = true ∧ (owes = true → PlainFrame core view.log)

/-- No configure event is answered at once. -/
def unanswered (_ : CycleView) : CycleEvent → Prop
  | .answer _ _ _ => False
  | _ => True

theorem unanswered_lenient : Lenient unanswered := by
  refine ⟨fun view event minor => ?_, fun _ _ _ => trivial⟩
  cases event with
  | answer => cases minor
  | _ => trivial

section Logs

variable {core : OutputCore} {log : List Entry}

@[simp] theorem requestsIn_append (first second : List Entry) :
    requestsIn (first ++ second) = requestsIn first ++ requestsIn second := List.filterMap_append

@[simp] theorem requestsIn_requests (requests : List SurfaceRequest) :
    requestsIn (requests.map .request) = requests := by
  unfold requestsIn
  rw [List.filterMap_map]
  exact List.filterMap_some

theorem contentIn_requests (log : List Entry) (requests : List SurfaceRequest) :
    contentIn (log ++ requests.map .request) = requests.foldl SurfaceContent.receive (contentIn log) := by
  unfold contentIn
  rw [requestsIn_append, requestsIn_requests, List.foldl_append]

theorem lastBuffer_requests (log : List Entry) (requests : List SurfaceRequest) :
    lastBuffer (log ++ requests.map .request) = requests.foldl attach (lastBuffer log) := by
  unfold lastBuffer
  rw [requestsIn_append, requestsIn_requests, List.foldl_append]

theorem current_of_uncommitted (silent : Entry.request .commit ∉ log) : (contentIn log).current = none := by
  have silent : SurfaceRequest.commit ∉ requestsIn log := by
    intro member
    obtain ⟨entry, listed, same⟩ := List.mem_filterMap.mp member
    cases entry with
    | request request =>
        cases same
        exact silent listed
    | configured => cases same
    | acknowledged => cases same
  have keeps (requests : List SurfaceRequest) (content : SurfaceContent) (silent : .commit ∉ requests) :
      (requests.foldl SurfaceContent.receive content).current = content.current := by
    induction requests generalizing content with
    | nil => rfl
    | cons request requests ih =>
        obtain ⟨other, later⟩ := List.ne_and_not_mem_of_not_mem_cons silent
        rw [List.foldl_cons, ih _ later]
        cases request with
        | commit => exact absurd rfl other
        | _ => rfl
  exact keeps _ _ silent

theorem PlainFrame.congr {changed : OutputCore} (plain : PlainFrame core log) (width : changed.width = core.width)
    (height : changed.height = core.height) (serial : changed.newestSerial = core.newestSerial)
    (idle : changed.hasNewerSerial = core.hasNewerSerial) : PlainFrame changed log where
  buffer := plain.buffer
  current := plain.current
  size := by
    rw [width, height]
    exact plain.size
  scale := plain.scale
  newest := by
    rw [serial]
    exact plain.newest
  acknowledged := by
    rw [serial]
    exact plain.acknowledged
  idle := idle.trans plain.idle

theorem PlainFrame.render (plain : PlainFrame core log) :
    PlainFrame core (log ++ [.request .frame, .request .commit]) := by
  have content := contentIn_requests log [.frame, .commit]
  have buffer := lastBuffer_requests log [.frame, .commit]
  change contentIn (log ++ [.request .frame, .request .commit]) = ⟨(contentIn log).sent, some (contentIn log).sent⟩ at content
  constructor
  · exact buffer.trans plain.buffer
  · rw [content]
  · rw [content]
    exact plain.size
  · rw [content]
    exact plain.scale
  · have same := issuedIn_requests [.frame, .commit]
    change issuedIn [.request .frame, .request .commit] = [] at same
    rw [issuedIn_append, same, List.append_nil]
    exact plain.newest
  · rw [ackedIn_append]
    exact List.mem_append_left _ plain.acknowledged
  · exact plain.idle

/-- The requests of a fallback leave a plain frame where the newest configure event is acknowledged. -/
theorem PlainFrame.fallback (newest : (issuedIn log).getLast? = some core.newestSerial)
    (acknowledged : core.newestSerial ∈ ackedIn log) (idle : core.hasNewerSerial = false) :
    PlainFrame { core with hasBuffer := true } (log ++ core.fallbackEntries) := by
  have content := contentIn_requests log [.setBufferScale 1, .attach .fallback core.width core.height 0 0,
    .damageBuffer ⟨0, 0, int32Max, int32Max⟩, .commit]
  have buffer := lastBuffer_requests log [.setBufferScale 1, .attach .fallback core.width core.height 0 0,
    .damageBuffer ⟨0, 0, int32Max, int32Max⟩, .commit]
  have issued := issuedIn_requests [.setBufferScale 1, .attach .fallback core.width core.height 0 0,
    .damageBuffer ⟨0, 0, int32Max, int32Max⟩, .commit]
  change issuedIn core.fallbackEntries = [] at issued
  change contentIn (log ++ core.fallbackEntries) = _ at content
  change lastBuffer (log ++ core.fallbackEntries) = _ at buffer
  constructor
  · exact buffer
  · rw [content]
    rfl
  · rw [content]
    rfl
  · rw [content]
    rfl
  · rw [issuedIn_append, issued, List.append_nil]
    exact newest
  · rw [ackedIn_append]
    exact List.mem_append_left _ acknowledged
  · exact idle

end Logs

section Records

variable {view next : CycleView} {core : OutputCore} {log : List Entry}

theorem RecordsNewest.after {added : List Entry} (records : RecordsNewest core log) (none_ : issuedIn added = []) :
    RecordsNewest core (log ++ added) where
  newest some_ := by
    rw [issuedIn_append, none_, List.append_nil] at some_ ⊢
    exact records.newest some_
  present size := by
    rw [issuedIn_append, none_, List.append_nil]
    exact records.present size
  acknowledged some_ idle := by
    rw [issuedIn_append, none_, List.append_nil] at some_
    rw [ackedIn_append]
    exact List.mem_append_left _ (records.acknowledged some_ idle)

/-- An output that changes neither its size nor its newest serial keeps its record where it still waits. -/
theorem RecordsNewest.congr {changed : OutputCore} (records : RecordsNewest core log)
    (width : changed.width = core.width) (height : changed.height = core.height)
    (serial : changed.newestSerial = core.newestSerial)
    (idle : changed.hasNewerSerial = false → core.hasNewerSerial = false ∨ core.newestSerial ∈ ackedIn log) :
    RecordsNewest changed log where
  newest some_ := by
    rw [serial]
    exact records.newest some_
  present size := by
    rw [width, height] at size
    exact records.present size
  acknowledged some_ rests := by
    rw [serial]
    rcases idle rests with before | acked
    · exact records.acknowledged some_ before
    · exact acked

theorem RecordsNewest.await (log : List Entry) (serial width height : UInt32) :
    RecordsNewest (core.await serial width height) (log ++ [.configured serial width height]) where
  newest _ := by
    rw [issuedIn_append]
    exact List.getLast?_concat
  present _ := by simp [issuedIn]
  acknowledged _ idle := by cases idle

theorem RecordsNewest.answer (log : List Entry) (serial width height : UInt32) :
    RecordsNewest { core.record serial width height with hasNewerSerial := false }
      (log ++ [.configured serial width height, .acknowledged serial]) where
  newest _ := by
    rw [issuedIn_append]
    exact List.getLast?_concat
  present _ := by simp [issuedIn]
  acknowledged _ _ := by
    rw [ackedIn_append]
    exact List.mem_append_right _ (List.mem_singleton_self serial)

theorem RecordsNewest.ackNewest (records : RecordsNewest core log) :
    RecordsNewest { core with hasNewerSerial := false } (log ++ [.acknowledged core.newestSerial]) := by
  have after : RecordsNewest core (log ++ [.acknowledged core.newestSerial]) := records.after rfl
  refine after.congr rfl rfl rfl fun _ => .inr ?_
  rw [ackedIn_append]
  exact List.mem_append_right _ (List.mem_singleton_self _)

/-- An accepted commit acknowledges the newest serial where it is the one that waits. -/
theorem RecordsNewest.accept (records : RecordsNewest core log) :
    RecordsNewest core.accepted (log ++ core.acceptEntries) := by
  have none_ : issuedIn core.acceptEntries = [] := by
    unfold OutputCore.acceptEntries
    rw [issuedIn_append, issuedIn_acknowledged]
    rfl
  refine (records.after none_).congr rfl rfl rfl fun idle => ?_
  change (if core.hasPendingAckConf && core.pendingUpstreamSerial == core.newestSerial then false
    else core.hasNewerSerial) = false at idle
  split at idle
  · rename_i answers
    obtain ⟨waits, newest⟩ := (Bool.and_eq_true _ _).mp answers
    right
    unfold OutputCore.acceptEntries OutputCore.waiting
    rw [if_pos waits, beq_iff_eq.mp newest]
    simp [ackedIn]
  · exact .inl idle

theorem RecordsNewest.awaitPair (records : RecordsNewest core log) (pair : SerialPair) :
    RecordsNewest (core.awaitPair pair) log := by
  unfold OutputCore.awaitPair
  split
  · exact records
  · exact records.congr rfl rfl rfl .inl

theorem CycleView.Records.step (records : view.Records) {event : CycleEvent} (step : CycleStep view event next) :
    next.Records := by
  intro changed present
  have requests (added : List SurfaceRequest) (old : RecordsNewest changed view.log) :
      RecordsNewest changed (view.log ++ added.map .request) := old.after (issuedIn_requests added)
  cases step with
  | appear _ _ empty =>
      cases present
      rw [empty]
      exact ⟨fun some_ => absurd rfl some_, fun size => (by cases size), fun some_ => absurd rfl some_⟩
  | vanish => cases present
  | create found =>
      cases present
      exact (records _ found).congr rfl rfl rfl .inl
  | configure pluginSerial up found fresh =>
      cases present
      exact .await _ _ _ _
  | answer down found fresh =>
      cases present
      exact .answer _ _ _ _
  | ackNewest down found newer =>
      cases present
      exact (records _ found).ackNewest
  | fallback down found idle configured =>
      cases present
      exact ((records _ found).after rfl).congr rfl rfl rfl .inl
  | teardown => exact records changed present
  | link pluginSerial up found noPlugin untouched =>
      cases present
      exact (records _ found).congr rfl rfl rfl .inl
  | unlink found =>
      cases present
      exact (records _ found).congr rfl rfl rfl .inl
  | initial pluginSerial up found linked blank =>
      cases present
      exact (records _ found).congr rfl rfl rfl .inl
  | take up found linked taken =>
      cases present
      exact (records _ found).awaitPair _
  | refuse linked => exact records changed present
  | @update _ absorbed _ description up linked =>
      cases absorbed with
      | true =>
          dsimp only
          rw [if_pos rfl, List.append_nil]
          exact records changed present
      | false => exact requests _ (records changed present)
  | content up plain => exact requests _ (records changed present)
  | accept up found linked size =>
      cases present
      exact (records _ found).accept
  | render found buffer => exact requests [.frame, .commit] (records changed present)

theorem CycleView.Records.fresh (fresh : view.Fresh) : view.Records := by
  intro core present
  rw [fresh.2.1] at present
  cases present

theorem CycleView.Records.of_reachable {meets : CycleView → CycleEvent → Prop}
    (reachable : (cycle.restrict meets).Reachable view) : view.Records := by
  apply reachable.invariant CycleView.Records
  · exact fun _ fresh => .fresh fresh
  · exact fun _ _ _ records moved => records.step moved.1

theorem CycleView.Bare.step (bare : view.Bare) {event : CycleEvent} (step : CycleStep view event next) : next.Bare := by
  have keeps {old : OutputCore} {added : List Entry} (found : view.output = some old) (blank : old.hasBuffer = false)
      (silent : Entry.request .commit ∉ added) : Entry.request .commit ∉ view.log ++ added := by
    rw [List.mem_append]
    exact not_or.mpr ⟨bare old found blank, silent⟩
  have requests {old : OutputCore} {added : List SurfaceRequest} (found : view.output = some old)
      (blank : old.hasBuffer = false) (silent : SurfaceRequest.commit ∉ added) :
      Entry.request .commit ∉ view.log ++ added.map .request := by
    refine keeps found blank fun member => ?_
    obtain ⟨request, listed, same⟩ := List.mem_map.mp member
    cases same
    exact silent listed
  intro changed present blank
  cases step with
  | appear _ _ empty =>
      rw [empty]
      exact List.not_mem_nil
  | vanish => cases present
  | create found =>
      cases present
      exact bare _ found blank
  | configure pluginSerial up found =>
      cases present
      exact keeps found blank (by simp)
  | answer down found =>
      cases present
      exact keeps found blank (by simp)
  | ackNewest down found =>
      cases present
      exact keeps found blank (by simp)
  | fallback =>
      cases present
      cases blank
  | teardown => exact bare changed present blank
  | link pluginSerial up found =>
      cases present
      exact bare _ found blank
  | unlink found =>
      cases present
      exact bare _ found blank
  | initial pluginSerial up found =>
      cases present
      exact bare _ found blank
  | @take core _ _ pair _ up found =>
      cases present
      have same : (core.awaitPair pair).hasBuffer = core.hasBuffer := by
        unfold OutputCore.awaitPair
        split <;> rfl
      exact bare _ found (same.symm.trans blank)
  | refuse => exact bare changed present blank
  | @update plugin absorbed pending description =>
      cases absorbed with
      | true =>
          dsimp only
          rw [if_pos rfl, List.append_nil]
          exact bare changed present blank
      | false => exact requests present blank (commit_notMem_lookRequests description plugin.committed pending)
  | content up plain => exact requests present blank (commit_notMem_of_plain plain)
  | accept up found =>
      cases present
      cases blank
  | render found buffer =>
      cases present.symm.trans found
      exact absurd (blank.symm.trans buffer) Bool.noConfusion

theorem CycleView.Bare.of_reachable {meets : CycleView → CycleEvent → Prop}
    (reachable : (cycle.restrict meets).Reachable view) : view.Bare := by
  apply reachable.invariant CycleView.Bare
  · intro fresh initial core present
    rw [initial.2.1] at present
    cases present
  · exact fun _ _ _ bare moved => bare.step moved.1

end Records

section Settled

variable {view next : CycleView} {owes : Bool}

/-- A step without the nested server keeps a cycle settled unless it answers a configure event. -/
theorem CycleView.Settled.step (settled : view.Settled owes) (records : view.Records) (down : view.display = false)
    {event : CycleEvent} (silent : unanswered view event) (step : CycleStep view event next) : next.Settled owes := by
  have never {P : Prop} (up : view.display = true) : P := by
    rw [down] at up
    cases up
  intro stays changed present size
  cases step with
  | appear _ _ empty =>
      cases present
      cases size
  | vanish => cases present
  | create found =>
      cases present
      obtain ⟨buffer, plain⟩ := settled down _ found size
      exact ⟨buffer, fun owed => (plain owed).congr rfl rfl rfl rfl⟩
  | configure pluginSerial up => exact never up
  | answer => exact silent.elim
  | ackNewest _ found newer =>
      cases present
      obtain ⟨buffer, plain⟩ := settled down _ found size
      refine ⟨buffer, fun owed => ?_⟩
      have idle := (plain owed).idle
      rw [newer] at idle
      cases idle
  | @fallback core _ found idle configured =>
      cases present
      have known := records core found
      have issued := known.present size
      exact ⟨rfl, fun _ => .fallback (known.newest issued) (known.acknowledged issued idle) idle⟩
  | teardown => exact settled down changed present size
  | link pluginSerial up => exact never up
  | unlink found =>
      cases present
      obtain ⟨buffer, plain⟩ := settled down _ found size
      exact ⟨buffer, fun owed => (plain owed).congr rfl rfl rfl rfl⟩
  | initial pluginSerial up => exact never up
  | take up => exact never up
  | refuse => exact settled down changed present size
  | update description up => exact never up
  | content up => exact never up
  | accept up => exact never up
  | render found buffer =>
      obtain ⟨buffer, plain⟩ := settled down changed present size
      exact ⟨buffer, fun owed => (plain owed).render⟩

/-- A run without the nested server keeps a cycle settled unless it answers a configure event. -/
theorem CycleView.Settled.run (settled : view.Settled owes) (records : view.Records) (down : view.display = false)
    {events : List CycleEvent} (run : (cycle.restrict unanswered).Run view events next) : next.Settled owes := by
  have kept : next.Settled owes ∧ next.Records ∧ next.display = false := by
    refine run.preserves (fun view => view.Settled owes ∧ view.Records ∧ view.display = false) ?_
      ⟨settled, records, down⟩
    rintro view event next ⟨settled, records, down⟩ ⟨moved, silent⟩
    refine ⟨settled.step records down silent moved, records.step moved, ?_⟩
    cases moved with
    | configure _ up => exact absurd (up.symm.trans down) Bool.noConfusion
    | _ => first | exact down | rfl
  exact kept.1

end Settled

end SwaylockPlugin
