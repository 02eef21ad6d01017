import SwaylockPlugin.Abstract.Order

namespace SwaylockPlugin

open Library

/-- The last of these serials was issued with this size. -/
def AnswersSize (log : List Entry) (serials : List UInt32) (width height : UInt32) : Prop :=
  ∃ serial, serials.getLast? = some serial ∧ Entry.configured serial width height ∈ log

/-- A plugin surface holds the size that it acknowledged last and the size of each local pair. -/
def PluginCycle.Holds (cycle : PluginCycle) (width height : UInt32) : Prop :=
  sized width height = true ∧ ((cycle.lastAckedWidth = width ∧ cycle.lastAckedHeight = height) ∨
    ∃ pair ∈ cycle.serialTable, pair.localOnly = true ∧ pair.configWidth = width ∧ pair.configHeight = height)

/-- A pair is upstream with a size when an upstream configure event brought that size. -/
def SerialPair.Upstream (pair : SerialPair) : Prop :=
  pair.localOnly = false ∧ sized pair.configWidth pair.configHeight = true

/-- An output knows its size from its newest configure event, and an idle one last answered one of that size. -/
structure OutputSizes (core : OutputCore) (log : List Entry) : Prop where
  newest : sized core.width core.height = true → Entry.configured core.newestSerial core.width core.height ∈ log
  idle : core.hasNewerSerial = false → sized core.width core.height = true →
    AnswersSize log (ackedIn log ++ core.waiting) core.width core.height

/-- The sizes that a plugin surface holds or will get are those of the configure events that it answers. -/
structure PluginSizes (core : OutputCore) (cycle : PluginCycle) (log : List Entry) : Prop where
  issued : ∀ pair ∈ cycle.serialTable, pair.Upstream →
    Entry.configured pair.upstreamSerial pair.configWidth pair.configHeight ∈ log
  tail : ∀ pair ∈ cycle.serialTable.tail, pair.localOnly = false
  held : ∀ width height, cycle.Holds width height → AnswersSize log (ackedIn log ++ core.waiting) width height
  idle : core.hasNewerSerial = false → ∀ pair ∈ cycle.serialTable, pair.localOnly = false →
    pair.configWidth = core.width ∧ pair.configHeight = core.height
  waits : core.hasPendingAckConf = true → core.pendingUpstreamSerial = core.newestSerial →
    ∀ width height, cycle.Holds width height → ∀ pair ∈ cycle.serialTable, pair.localOnly = false →
      pair.configWidth = core.width ∧ pair.configHeight = core.height
  newest : ∀ before pair after, cycle.serialTable = before ++ pair :: after → pair.Upstream →
    pair.upstreamSerial = core.newestSerial → ∀ later ∈ after,
      later.configWidth = core.width ∧ later.configHeight = core.height

/-- The sizes of a cycle agree while the nested server is up. -/
structure CycleSizes (view : CycleView) : Prop where
  output : view.display = true → ∀ core, view.output = some core → OutputSizes core view.log
  untouched : ∀ cycle, view.pluginCycle = some cycle → cycle.Untouched
  plugin : view.display = true → ∀ core cycle, view.output = some core → view.pluginCycle = some cycle →
    PluginSizes core cycle view.log

/-- The first configure event is answered with the size that it brought, and a plugin surface gets the role before it
is configured. -/
def answersSizes (view : CycleView) : CycleEvent → Prop
  | .initial => ∀ core, view.output = some core → core.usedFirstConfigure = false →
      sized core.width core.height = true →
        Entry.configured core.firstConfigureSerial core.width core.height ∈ view.log
  | .link _ plugin => plugin.cycle.hasBeenConfigured = false
  | _ => True

section Logs

variable {log added : List Entry} {core : OutputCore} {cycle : PluginCycle}

theorem issued_of_configured {serial width height : UInt32} (configured : Entry.configured serial width height ∈ log) :
    serial ∈ issuedIn log := List.mem_filterMap.mpr ⟨_, configured, rfl⟩

theorem AnswersSize.append {serials : List UInt32} {width height : UInt32}
    (answers : AnswersSize log serials width height) (added : List Entry) :
    AnswersSize (log ++ added) serials width height := by
  obtain ⟨serial, last, configured⟩ := answers
  exact ⟨serial, last, List.mem_append_left added configured⟩

theorem AnswersSize.concat {serial width height : UInt32} (serials : List UInt32)
    (configured : Entry.configured serial width height ∈ log) :
    AnswersSize log (serials ++ [serial]) width height := ⟨serial, List.getLast?_concat, configured⟩

theorem OutputSizes.afterRequests (sizes : OutputSizes core log) (requests : List SurfaceRequest) :
    OutputSizes core (log ++ requests.map .request) where
  newest size := List.mem_append_left _ (sizes.newest size)
  idle idle size := by
    rw [ackedIn_append, ackedIn_requests, List.append_nil]
    exact (sizes.idle idle size).append _

theorem PluginSizes.afterRequests (sizes : PluginSizes core cycle log) (requests : List SurfaceRequest) :
    PluginSizes core cycle (log ++ requests.map .request) where
  issued pair member upstream := List.mem_append_left _ (sizes.issued pair member upstream)
  tail := sizes.tail
  held width height holds := by
    rw [ackedIn_append, ackedIn_requests, List.append_nil]
    exact (sizes.held width height holds).append _
  idle := sizes.idle
  waits := sizes.waits
  newest := sizes.newest

theorem PluginCycle.Untouched.holds_none (untouched : cycle.Untouched) (blank : cycle.hasBeenConfigured = false)
    {width height : UInt32} : ¬ cycle.Holds width height := by
  obtain ⟨table, wide, high⟩ := untouched blank
  rintro ⟨size, ⟨rfl, rfl⟩ | ⟨pair, member, _⟩⟩
  · rw [wide, high] at size
    cases size
  · rw [table] at member
    cases member

theorem PluginCycle.Untouched.sizes (untouched : cycle.Untouched) (blank : cycle.hasBeenConfigured = false) :
    PluginSizes core cycle log := by
  have table := (untouched blank).1
  refine ⟨?_, ?_, fun _ _ holds => absurd holds (untouched.holds_none blank), ?_,
    fun _ _ _ _ holds => absurd holds (untouched.holds_none blank), ?_⟩
  · rw [table]
    exact nofun
  · rw [table]
    exact nofun
  · rw [table]
    exact nofun
  · rw [table]
    intro before pair after same
    cases before <;> cases same

end Logs

section Configure

variable {log : List Entry} {core : OutputCore} {cycle : PluginCycle} {serial width height : UInt32}

theorem OutputSizes.await (core : OutputCore) (log : List Entry) (serial width height : UInt32) :
    OutputSizes (core.await serial width height) (log ++ [.configured serial width height]) where
  newest _ := List.mem_append_right _ (List.mem_singleton_self _)
  idle idle _ := by cases idle

/-- A configure event with a fresh serial keeps the sizes of a plugin surface that it leaves alone. -/
theorem PluginSizes.await (sizes : PluginSizes core cycle log) (fresh : serial ∉ issuedIn log) :
    PluginSizes (core.await serial width height) cycle (log ++ [.configured serial width height]) where
  issued pair member upstream := List.mem_append_left _ (sizes.issued pair member upstream)
  tail := sizes.tail
  held wide high holds := by
    have acked : ackedIn (log ++ [.configured serial width height]) = ackedIn log := by simp [ackedIn]
    rw [acked]
    exact (sizes.held wide high holds).append _
  idle idle := by cases idle
  waits waits same wide high holds := by
    -- The waiting serial was issued before, so that it is not the fresh one.
    obtain ⟨last, found, configured⟩ := sizes.held wide high holds
    have waiting : core.waiting = [core.pendingUpstreamSerial] := if_pos waits
    rw [waiting, List.getLast?_concat] at found
    cases found
    have same : core.pendingUpstreamSerial = serial := same
    exact absurd (issued_of_configured (same ▸ configured)) fresh
  newest before pair after table upstream same := by
    have member : pair ∈ cycle.serialTable := table ▸ List.mem_append_right _ List.mem_cons_self
    have same : pair.upstreamSerial = serial := same
    exact absurd (issued_of_configured (same ▸ sizes.issued pair member upstream)) fresh

theorem PluginCycle.Holds.of_push {pair : SerialPair} (upstream : pair.localOnly = false)
    (holds : (cycle.push pair).Holds width height) : cycle.Holds width height := by
  obtain ⟨size, acked | ⟨other, member, stays, sizes⟩⟩ := holds
  · exact ⟨size, .inl acked⟩
  · rcases List.mem_append.mp member with old | new
    · exact ⟨size, .inr ⟨other, old, stays, sizes⟩⟩
    · rw [List.mem_singleton.mp new, upstream] at stays
      cases stays

theorem PluginSizes.push (sizes : PluginSizes core cycle log) {pair : SerialPair} (upstream : pair.localOnly = false)
    (wide : pair.configWidth = core.width) (high : pair.configHeight = core.height)
    (issued : sized core.width core.height = true →
      Entry.configured pair.upstreamSerial pair.configWidth pair.configHeight ∈ log) :
    PluginSizes core (cycle.push pair) log where
  issued other member size := by
    rcases List.mem_append.mp member with old | new
    · exact sizes.issued other old size
    · rw [List.mem_singleton.mp new] at size ⊢
      exact issued (wide ▸ high ▸ size.2)
  tail other member := by
    change other ∈ (cycle.serialTable ++ [pair]).tail at member
    cases table : cycle.serialTable with
    | nil =>
        rw [table] at member
        cases member
    | cons first rest =>
        rw [table, List.cons_append, List.tail_cons] at member
        rcases List.mem_append.mp member with old | new
        · exact sizes.tail other (by rw [table]; exact old)
        · rw [List.mem_singleton.mp new]
          exact upstream
  held width height holds := sizes.held width height (holds.of_push upstream)
  idle idle other member stays := by
    rcases List.mem_append.mp member with old | new
    · exact sizes.idle idle other old stays
    · rw [List.mem_singleton.mp new]
      exact ⟨wide, high⟩
  waits waits same width height holds other member stays := by
    rcases List.mem_append.mp member with old | new
    · exact sizes.waits waits same width height (holds.of_push upstream) other old stays
    · rw [List.mem_singleton.mp new]
      exact ⟨wide, high⟩
  newest before other after table size same later member := by
    rcases List.eq_nil_or_concat' after with rfl | ⟨earlier, last, rfl⟩
    · cases member
    · have table : cycle.serialTable ++ [pair] = before ++ other :: (earlier ++ [last]) := table
      rw [← List.cons_append, ← List.append_assoc] at table
      obtain ⟨table, rest⟩ := List.append_inj' table rfl
      rcases List.mem_append.mp member with old | new
      · exact sizes.newest before other earlier table size same later old
      · obtain ⟨same, _⟩ := List.cons.inj rest
        rw [List.mem_singleton.mp new, ← same]
        exact ⟨wide, high⟩

/-- A plugin surface that is told the new size will get the size of the newest configure event. -/
theorem PluginSizes.told (sizes : PluginSizes core cycle log) (fresh : serial ∉ issuedIn log) (pluginSerial : UInt32)
    (resized : Bool) : PluginSizes (core.await serial width height)
      (cycle.told pluginSerial serial width height resized) (log ++ [.configured serial width height]) := by
  have kept : PluginSizes (core.await serial width height) cycle (log ++ [.configured serial width height]) :=
    sizes.await fresh
  unfold PluginCycle.told
  split
  · exact kept.push rfl rfl rfl fun _ => List.mem_append_right _ (List.mem_singleton_self _)
  · exact kept

end Configure

section Plugin

variable {log : List Entry} {core : OutputCore} {cycle : PluginCycle} {serial : UInt32} {pair : SerialPair}
  {rest : List SerialPair}

/-- The sizes of a plugin surface follow from its table and from the size that it acknowledged last. -/
theorem PluginSizes.congr {other : PluginCycle} (sizes : PluginSizes core cycle log)
    (table : other.serialTable = cycle.serialTable) (wide : other.lastAckedWidth = cycle.lastAckedWidth)
    (high : other.lastAckedHeight = cycle.lastAckedHeight) : PluginSizes core other log := by
  have holds (width height : UInt32) : other.Holds width height ↔ cycle.Holds width height := by
    unfold PluginCycle.Holds
    rw [table, wide, high]
  constructor
  · rw [table]
    exact sizes.issued
  · rw [table]
    exact sizes.tail
  · exact fun width height held => sizes.held width height ((holds width height).mp held)
  · rw [table]
    exact sizes.idle
  · rw [table]
    exact fun waits same width height held => sizes.waits waits same width height ((holds width height).mp held)
  · rw [table]
    exact sizes.newest

theorem PluginSizes.initial (output : OutputSizes core log) (untouched : cycle.Untouched)
    (blank : cycle.hasBeenConfigured = false) (pluginSerial : UInt32)
    (answered : core.usedFirstConfigure = false → sized core.width core.height = true →
      Entry.configured core.firstConfigureSerial core.width core.height ∈ log) :
    PluginSizes core (cycle.start (core.initialPair pluginSerial)) log := by
  have sizes : PluginSizes core cycle log := untouched.sizes blank
  unfold OutputCore.initialPair
  split
  · rename_i first
    have pushed : PluginSizes core (cycle.push ⟨pluginSerial, core.firstConfigureSerial, core.width, core.height,
        false⟩) log := sizes.push rfl rfl rfl fun size => answered (by simpa using first) size
    exact pushed.congr rfl rfl rfl
  split
  · have pushed : PluginSizes core (cycle.push ⟨pluginSerial, core.newestSerial, core.width, core.height,
        false⟩) log := sizes.push rfl rfl rfl output.newest
    exact pushed.congr rfl rfl rfl
  · rename_i idle
    -- A local pair has the size that the output answered last.
    have idle : core.hasNewerSerial = false := by simpa using idle
    obtain ⟨table, wide, high⟩ := untouched blank
    have only : (cycle.start ⟨pluginSerial, 0, core.width, core.height, true⟩).serialTable =
        [⟨pluginSerial, 0, core.width, core.height, true⟩] := by
      change cycle.serialTable ++ _ = _
      rw [table]
      rfl
    constructor
    · intro other member upstream
      rw [only, List.mem_singleton] at member
      rw [member] at upstream
      cases upstream.1
    · rw [only]
      exact nofun
    · rintro width height ⟨size, ⟨acked, acked'⟩ | ⟨other, member, _, same, same'⟩⟩
      · change cycle.lastAckedWidth = width at acked
        change cycle.lastAckedHeight = height at acked'
        rw [← acked, ← acked', wide, high] at size
        cases size
      · rw [only, List.mem_singleton] at member
        rw [member] at same same'
        cases same
        cases same'
        exact output.idle idle size
    · intro _ other member upstream
      rw [only, List.mem_singleton] at member
      rw [member] at upstream
      cases upstream
    · intro _ _ _ _ _ other member upstream
      rw [only, List.mem_singleton] at member
      rw [member] at upstream
      cases upstream
    · intro before other after same upstream
      rw [only] at same
      cases before with
      | nil =>
          obtain ⟨same, _⟩ := List.cons.inj same
          rw [← same] at upstream
          cases upstream.1
      | cons first before =>
          obtain ⟨_, same⟩ := List.cons.inj same
          cases before <;> cases same

theorem PluginSizes.rest_upstream (sizes : PluginSizes core cycle log) {before : List SerialPair}
    (table : cycle.serialTable = before ++ pair :: rest) : ∀ other ∈ rest, other.localOnly = false := by
  intro other member
  refine sizes.tail other ?_
  rw [table]
  cases before with
  | nil => exact member
  | cons first before => exact List.mem_append_right _ (List.mem_cons_of_mem _ member)

/-- An output that waits for a pair of its plugin surface answers its own size when it is idle. -/
theorem OutputSizes.take (output : OutputSizes core log) (sizes : PluginSizes core cycle log)
    (member : pair ∈ cycle.serialTable) : OutputSizes (core.awaitPair pair) log := by
  unfold OutputCore.awaitPair
  split
  · exact output
  · rename_i upstream
    have upstream : pair.localOnly = false := by simpa using upstream
    refine ⟨output.newest, fun idle size => ?_⟩
    obtain ⟨wide, high⟩ := sizes.idle idle pair member upstream
    have issued := sizes.issued pair member ⟨upstream, wide.symm ▸ high.symm ▸ size⟩
    rw [wide, high] at issued
    exact .concat _ issued

theorem PluginSizes.take (sizes : PluginSizes core cycle log) {before : List SerialPair}
    (table : cycle.serialTable = before ++ pair :: rest) (serial : UInt32) :
    PluginSizes (core.awaitPair pair) (cycle.use serial pair rest) log := by
  have upstream := sizes.rest_upstream table
  have there : pair ∈ cycle.serialTable := table ▸ List.mem_append_right _ List.mem_cons_self
  have behind (other : SerialPair) (member : other ∈ rest) : other ∈ cycle.serialTable :=
    table ▸ List.mem_append_right _ (List.mem_cons_of_mem _ member)
  have holds {width height : UInt32} (held : (cycle.use serial pair rest).Holds width height) :
      sized width height = true ∧ pair.configWidth = width ∧ pair.configHeight = height := by
    obtain ⟨size, used | ⟨other, member, stays, _⟩⟩ := held
    · exact ⟨size, used⟩
    · rw [upstream other member] at stays
      cases stays
  have later (first : List SerialPair) (other : SerialPair) (after : List SerialPair)
      (same : rest = first ++ other :: after) : cycle.serialTable = (before ++ pair :: first) ++ other :: after := by
    rw [table, same, List.append_assoc, List.cons_append]
  unfold OutputCore.awaitPair
  split
  · rename_i stays
    have old {width height : UInt32} (held : (cycle.use serial pair rest).Holds width height) :
        cycle.Holds width height := by
      obtain ⟨size, same⟩ := holds held
      exact ⟨size, .inr ⟨pair, there, stays, same⟩⟩
    exact ⟨fun other member => sizes.issued other (behind other member),
      fun other member => upstream other (List.mem_of_mem_tail member),
      fun width height held => sizes.held width height (old held),
      fun idle other member => sizes.idle idle other (behind other member),
      fun waits same width height held other member => sizes.waits waits same width height (old held) other
        (behind other member),
      fun first other after same => sizes.newest _ other after (later first other after same)⟩
  · rename_i away
    have away : pair.localOnly = false := by simpa using away
    refine ⟨fun other member => sizes.issued other (behind other member),
      fun other member => upstream other (List.mem_of_mem_tail member), ?_,
      fun idle other member => sizes.idle idle other (behind other member), ?_,
      fun first other after same => sizes.newest _ other after (later first other after same)⟩
    · intro width height held
      obtain ⟨size, rfl, rfl⟩ := holds held
      exact .concat _ (sizes.issued pair there ⟨away, size⟩)
    · intro _ same width height held other member _
      obtain ⟨size, rfl, rfl⟩ := holds held
      exact sizes.newest before pair rest table ⟨away, size⟩ same other member

theorem ackedIn_accept (core : OutputCore) (log : List Entry) :
    ackedIn (log ++ core.acceptEntries) = ackedIn log ++ core.waiting := by
  unfold OutputCore.acceptEntries
  rw [ackedIn_append, ackedIn_append, ackedIn_acknowledged]
  exact congrArg _ (List.append_nil _)

/-- After an accepted commit an idle output was idle before or acknowledged its newest serial. -/
theorem OutputCore.accepted_idle (idle : core.accepted.hasNewerSerial = false) :
    core.hasNewerSerial = false ∨ core.hasPendingAckConf = true ∧ core.pendingUpstreamSerial = core.newestSerial := by
  unfold OutputCore.accepted at idle
  dsimp only at idle
  split at idle
  · rename_i newest
    rw [Bool.and_eq_true, beq_iff_eq] at newest
    exact .inr newest
  · exact .inl idle

theorem OutputSizes.accept (output : OutputSizes core log) : OutputSizes core.accepted (log ++ core.acceptEntries) where
  newest size := List.mem_append_left _ (output.newest size)
  idle idle size := by
    have waiting : core.accepted.waiting = [] := rfl
    rw [ackedIn_accept, waiting, List.append_nil]
    rcases OutputCore.accepted_idle idle with before | ⟨waits, newest⟩
    · exact (output.idle before size).append _
    · rw [show core.waiting = [core.pendingUpstreamSerial] from if_pos waits, newest]
      exact (AnswersSize.concat _ (output.newest size)).append _

theorem PluginSizes.accept (sizes : PluginSizes core cycle log)
    (size : sized cycle.lastAckedWidth cycle.lastAckedHeight = true) :
    PluginSizes core.accepted cycle (log ++ core.acceptEntries) where
  issued pair member upstream := List.mem_append_left _ (sizes.issued pair member upstream)
  tail := sizes.tail
  held width height holds := by
    have waiting : core.accepted.waiting = [] := rfl
    rw [ackedIn_accept, waiting, List.append_nil]
    exact (sizes.held width height holds).append _
  idle idle := by
    rcases OutputCore.accepted_idle idle with before | ⟨waits, newest⟩
    · exact sizes.idle before
    · exact sizes.waits waits newest _ _ ⟨size, .inl ⟨rfl, rfl⟩⟩
  waits waits := by cases waits
  newest := sizes.newest

end Plugin

section Step

variable {view next : CycleView} {core : OutputCore} {plugin : PluginView} {serial width height : UInt32}

theorem CycleSizes.afterRequests (sizes : CycleSizes view) (requests : List SurfaceRequest) :
    CycleSizes { view with log := view.log ++ requests.map .request } where
  output up core present := (sizes.output up core present).afterRequests requests
  untouched := sizes.untouched
  plugin up core cycle present served := (sizes.plugin up core cycle present served).afterRequests requests

theorem CycleSizes.down (sizes : CycleSizes view) (down : next.display = false)
    (same : next.pluginCycle = view.pluginCycle) : CycleSizes next where
  output up := absurd (up.symm.trans down) (by decide)
  untouched := same ▸ sizes.untouched
  plugin up := absurd (up.symm.trans down) (by decide)

theorem CycleSizes.configure (sizes : CycleSizes view) (up : view.display = true) (present : view.output = some core)
    (fresh : serial ∉ issuedIn view.log) (pluginSerial : UInt32) :
    CycleSizes { view with
      output := some (core.await serial width height)
      plugin := view.plugin.map fun plugin => { plugin with
        cycle := plugin.cycle.told pluginSerial serial width height
          (sized core.width core.height && sized width height) }
      log := view.log ++ [.configured serial width height] } := by
  have mapped (cycle : PluginCycle) (same : (view.plugin.map fun plugin => { plugin with
      cycle := plugin.cycle.told pluginSerial serial width height
        (sized core.width core.height && sized width height) }).map PluginView.cycle = some cycle) :
      ∃ old, view.pluginCycle = some old ∧ cycle = old.told pluginSerial serial width height
        (sized core.width core.height && sized width height) := by
    rw [Option.map_map] at same
    obtain ⟨plugin, found, rfl⟩ := Option.map_eq_some_iff.mp same
    exact ⟨plugin.cycle, by rw [CycleView.pluginCycle, found]; rfl, rfl⟩
  refine ⟨fun _ other same => ?_, fun cycle same => ?_, fun _ other cycle same served => ?_⟩
  · cases same
    exact .await core view.log serial width height
  · obtain ⟨old, found, rfl⟩ := mapped cycle same
    unfold PluginCycle.told
    split
    · rename_i done
      intro blank
      rw [Bool.and_eq_true] at done
      exact absurd (done.2.symm.trans blank) (by decide)
    · exact sizes.untouched old found
  · cases same
    obtain ⟨old, found, rfl⟩ := mapped cycle served
    exact (sizes.plugin up core old present found).told fresh pluginSerial _

theorem OutputSizes.relink (output : OutputSizes core view.log) (surface : Option SurfaceId) :
    OutputSizes { core with pluginSurface := surface } view.log := ⟨output.newest, output.idle⟩

theorem CycleSizes.link (sizes : CycleSizes view) (present : view.output = some core)
    (untouched : plugin.cycle.Untouched) (blank : plugin.cycle.hasBeenConfigured = false) (surface : SurfaceId)
    (pluginSerial : UInt32) : CycleSizes { view with
      output := some { core with pluginSurface := some surface }
      plugin := some { plugin with cycle := { plugin.cycle with lastUsedPluginSerial := pluginSerial } } } := by
  refine ⟨fun up other same => ?_, fun cycle same => ?_, fun up other cycle same served => ?_⟩
  · cases same
    exact (sizes.output up core present).relink (some surface)
  · cases same
    exact untouched
  · cases served
    exact (untouched.sizes blank).congr rfl rfl rfl

theorem CycleSizes.unlink (sizes : CycleSizes view) (present : view.output = some core) :
    CycleSizes { view with output := some { core with pluginSurface := none }, plugin := none } := by
  refine ⟨fun up other same => ?_, fun cycle same => (by cases same), fun up other cycle same served => (by cases served)⟩
  cases same
  exact (sizes.output up core present).relink none

theorem CycleSizes.initial (sizes : CycleSizes view) (present : view.output = some core)
    (found : view.plugin = some plugin) (blank : plugin.cycle.hasBeenConfigured = false) (pluginSerial : UInt32)
    (answered : answersSizes view .initial) : CycleSizes { view with
      output := some { core with usedFirstConfigure := true }
      plugin := some { plugin with cycle := plugin.cycle.start (core.initialPair pluginSerial) } } := by
  have untouched := sizes.untouched plugin.cycle (pluginCycle_some found)
  refine ⟨fun up other same => ?_, fun cycle same => ?_, fun up other cycle same served => ?_⟩
  · cases same
    have output := sizes.output up core present
    exact ⟨output.newest, output.idle⟩
  · cases same
    intro done
    cases done
  · cases same
    cases served
    have started := PluginSizes.initial (sizes.output up core present) untouched blank pluginSerial
      (answered core present)
    exact ⟨started.issued, started.tail, started.held, started.idle, started.waits, started.newest⟩

theorem CycleSizes.take (sizes : CycleSizes view) (present : view.output = some core)
    (found : view.plugin = some plugin) {pair : SerialPair} {rest : List SerialPair}
    (taken : takePair serial plugin.cycle.serialTable = some (pair, rest)) : CycleSizes { view with
      output := some (core.awaitPair pair)
      plugin := some { plugin with cycle := plugin.cycle.use serial pair rest } } := by
  have cycle := pluginCycle_some found
  obtain ⟨before, table⟩ := takePair_split taken
  have member : pair ∈ plugin.cycle.serialTable := table ▸ List.mem_append_right _ List.mem_cons_self
  refine ⟨fun up other same => ?_, fun used same => ?_, fun up other used same served => ?_⟩
  · cases same
    exact (sizes.output up core present).take (sizes.plugin up core _ present cycle) member
  · cases same
    intro blank
    rw [(sizes.untouched _ cycle blank).1] at member
    cases member
  · cases same
    cases served
    exact (sizes.plugin up core _ present cycle).take table serial

theorem CycleSizes.refuse (sizes : CycleSizes view) (found : view.plugin = some plugin) : CycleSizes { view with
    plugin := some { plugin with cycle := { plugin.cycle with lastUsedPluginSerial := serial } } } := by
  have cycle := pluginCycle_some found
  refine ⟨sizes.output, fun other same => ?_, fun up core other present served => ?_⟩
  · cases same
    exact sizes.untouched plugin.cycle cycle
  · cases served
    exact (sizes.plugin up core _ present cycle).congr rfl rfl rfl

theorem CycleSizes.accept (sizes : CycleSizes view) (present : view.output = some core)
    (found : view.plugin = some plugin)
    (size : sized plugin.cycle.lastAckedWidth plugin.cycle.lastAckedHeight = true) :
    CycleSizes { view with output := some core.accepted, log := view.log ++ core.acceptEntries } := by
  have cycle := pluginCycle_some found
  refine ⟨fun up other same => ?_, sizes.untouched, fun up other served same found => ?_⟩
  · cases same
    exact (sizes.output up core present).accept
  · cases same
    have served : some plugin.cycle = some served := cycle.symm.trans found
    cases served
    exact (sizes.plugin up core _ present cycle).accept size

theorem CycleSizes.update (sizes : CycleSizes view) (found : view.plugin = some plugin) (pending : Look) :
    CycleSizes { view with plugin := some { plugin with committed := pending } } := by
  have same : CycleView.pluginCycle { view with plugin := some { plugin with committed := pending } } =
      view.pluginCycle := by
    rw [CycleView.pluginCycle, CycleView.pluginCycle, found]
    rfl
  exact ⟨sizes.output, same ▸ sizes.untouched, same ▸ sizes.plugin⟩

theorem CycleSizes.step (sizes : CycleSizes view) {event : CycleEvent} (answers : answersSizes view event)
    (step : CycleStep view event next) : CycleSizes next := by
  cases step with
  | appear absent noPlugin empty =>
      refine ⟨fun up core same => ?_, sizes.untouched, fun up core cycle same served => ?_⟩
      · cases same
        refine ⟨fun size => ?_, fun _ size => ?_⟩
        · cases size
        · cases size
      · have none_ : view.pluginCycle = none := by
          rw [CycleView.pluginCycle, noPlugin]
          rfl
        cases none_.symm.trans served
  | vanish => exact ⟨fun _ _ same => (by cases same), fun _ same => (by cases same), fun _ _ _ same => (by cases same)⟩
  | create present =>
      refine ⟨fun up other same => ?_, sizes.untouched, fun up other cycle same served => ?_⟩
      · cases same
        have output := sizes.output up _ present
        exact ⟨output.newest, output.idle⟩
      · cases same
        have plugin := sizes.plugin up _ cycle present served
        exact ⟨plugin.issued, plugin.tail, plugin.held, plugin.idle, plugin.waits, plugin.newest⟩
  | configure pluginSerial up present fresh => exact sizes.configure up present fresh pluginSerial
  | answer down => exact sizes.down down rfl
  | ackNewest down => exact sizes.down down rfl
  | fallback down => exact sizes.down down rfl
  | teardown => exact sizes.down rfl rfl
  | link pluginSerial up present noPlugin untouched => exact sizes.link present untouched answers _ pluginSerial
  | unlink present => exact sizes.unlink present
  | initial pluginSerial up present found blank => exact sizes.initial present found blank pluginSerial answers
  | take up present found taken => exact sizes.take present found taken
  | refuse found => exact sizes.refuse found
  | @update plugin absorbed pending description up found =>
      cases absorbed with
      | true =>
          have updated := sizes.update found pending
          rw [if_pos rfl, List.append_nil]
          exact updated
      | false => exact (sizes.update found pending).afterRequests _
  | content _ plain => exact sizes.afterRequests _
  | accept up present found size => exact sizes.accept present found size
  | render present buffer => exact sizes.afterRequests [.frame, .commit]

theorem CycleSizes.of_reachable (reachable : (cycle.restrict answersSizes).Reachable view) : CycleSizes view := by
  apply reachable.invariant CycleSizes
  · rintro view ⟨_, absent, noPlugin, _⟩
    have none_ : view.pluginCycle = none := by
      rw [CycleView.pluginCycle, noPlugin]
      rfl
    exact ⟨fun _ _ same => (by cases absent.symm.trans same), fun _ same => (by cases none_.symm.trans same),
      fun _ _ _ same => (by cases absent.symm.trans same)⟩
  · intro _ _ _ sizes moved
    exact sizes.step moved.2 moved.1

end Step

end SwaylockPlugin
