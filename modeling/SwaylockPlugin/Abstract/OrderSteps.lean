import SwaylockPlugin.Abstract.Order

namespace SwaylockPlugin

open Library

variable {core : OutputCore} {log : List Entry} {cycle : PluginCycle} {plugin : Option PluginCycle}

theorem LogOrder.issue (order : LogOrder log) {serial width height : UInt32} (fresh : serial ∉ issuedIn log) :
    LogOrder (log ++ [.configured serial width height]) where
  nodup := by
    rw [issuedIn_append]
    exact order.nodup.append (List.nodup_singleton serial) (List.disjoint_singleton.mpr fresh)
  acked := by
    rw [issuedIn_append, ackedIn_append]
    exact (List.append_nil _).symm ▸ order.acked.trans (List.sublist_append_left _ _)
  commits := order.commits.append_of_none (by simp)

theorem LogOrder.acknowledge (order : LogOrder log) {serials : List UInt32}
    (next : (ackedIn log ++ serials).Sublist (issuedIn log)) :
    LogOrder (log ++ serials.map .acknowledged) where
  nodup := by simpa using order.nodup
  acked := by simpa using next
  commits := order.commits.append_of_none (by simp)

/-- Entries after an acknowledgement that issue and acknowledge nothing keep the order of the log. -/
theorem LogOrder.drawn (order : LogOrder log) (acked : ackedIn log ≠ []) (requests : List SurfaceRequest) :
    LogOrder (log ++ requests.map .request) where
  nodup := by simpa using order.nodup
  acked := by simpa using order.acked
  commits := order.commits.append_of_acked acked

theorem OutputOrder.await (output : OutputOrder core log) (order : LogOrder log) (serial width height : UInt32) :
    OutputOrder (core.await serial width height) (log ++ [.configured serial width height]) where
  newest _ := by
    rw [issuedIn_append]
    exact List.getLast?_concat
  present _ := by simp [issuedIn]
  current _ idle := by cases idle
  newer _ := by
    rw [issuedIn_append, ackedIn_append]
    exact (List.append_nil (ackedIn log)).symm ▸ order.acked.append (List.Sublist.refl [serial])
  drawn buffer := by
    rw [ackedIn_append]
    exact List.append_ne_nil_of_left_ne_nil (output.drawn buffer) _

theorem OutputOrder.answer (serial width height : UInt32) :
    OutputOrder { core.record serial width height with hasNewerSerial := false }
      (log ++ [.configured serial width height, .acknowledged serial]) where
  newest _ := by
    rw [issuedIn_append]
    exact List.getLast?_concat
  present _ := by simp [issuedIn]
  current _ _ := by
    rw [ackedIn_append]
    exact List.getLast?_concat
  newer newer := by cases newer
  drawn _ := by simp [ackedIn]

theorem OutputOrder.ackNewest (output : OutputOrder core log) :
    OutputOrder { core with hasNewerSerial := false } (log ++ [.acknowledged core.newestSerial]) where
  newest issued := by
    rw [issuedIn_append]
    exact (List.append_nil (issuedIn log)).symm ▸ output.newest (by simpa [issuedIn] using issued)
  present size := by
    rw [issuedIn_append]
    exact List.append_ne_nil_of_left_ne_nil (output.present size) _
  current _ _ := by
    rw [ackedIn_append]
    exact List.getLast?_concat
  newer newer := by cases newer
  drawn _ := by simp [ackedIn]

theorem issued_of_sublist {serials issued : List UInt32} (sublist : serials.Sublist issued)
    (present : serials ≠ []) : issued ≠ [] := by
  rintro rfl
  exact present (List.sublist_nil.mp sublist)

/-- An accepted commit acknowledges what waits and knows whether it was the newest serial. -/
theorem OutputOrder.accept (output : OutputOrder core log) (order : LogOrder log)
    (next : (ackedIn log ++ core.waiting).Sublist (issuedIn log)) (acked : ackedIn log ++ core.waiting ≠ []) :
    OutputOrder core.accepted (log ++ core.acceptEntries) := by
  have issuedSame : issuedIn (log ++ core.acceptEntries) = issuedIn log := by
    simp [OutputCore.acceptEntries, issuedIn]
  have ackedSame : ackedIn (log ++ core.acceptEntries) = ackedIn log ++ core.waiting := by
    simp [OutputCore.acceptEntries]
    rfl
  have issued : issuedIn log ≠ [] := issued_of_sublist next acked
  have last := output.newest issued
  cases waits : core.hasPendingAckConf with
  | false =>
      have empty : core.waiting = [] := by simp [OutputCore.waiting, waits]
      have same : core.accepted.hasNewerSerial = core.hasNewerSerial := by simp [OutputCore.accepted, waits]
      rw [empty, List.append_nil] at ackedSame acked
      constructor
      · rw [issuedSame]; exact output.newest
      · rw [issuedSame]; exact output.present
      · rw [issuedSame, ackedSame, same]; exact output.current
      · rw [issuedSame, ackedSame, same]; exact output.newer
      · rw [ackedSame]; exact fun _ => acked
  | true =>
      have single : core.waiting = [core.pendingUpstreamSerial] := by simp [OutputCore.waiting, waits]
      rw [single] at next ackedSame acked
      constructor
      · rw [issuedSame]; exact output.newest
      · rw [issuedSame]; exact output.present
      · rw [issuedSame, ackedSame]
        intro _ idle
        rw [List.getLast?_concat]
        by_cases newest : core.pendingUpstreamSerial = core.newestSerial
        · rw [newest]; rfl
        · have old : core.hasNewerSerial = false := by
            simpa [OutputCore.accepted, waits, newest] using idle
          exact absurd next (not_sublist_after_last order.nodup last (output.current issued old))
      · rw [issuedSame, ackedSame]
        intro newer
        have other : core.pendingUpstreamSerial ≠ core.newestSerial := by
          intro same
          simp [OutputCore.accepted, waits, same] at newer
        exact sublist_before_last last next other
      · rw [ackedSame]; exact fun _ => acked

theorem serials_push (pair : SerialPair) (upstream : pair.localOnly = false) :
    (cycle.push pair).serials = cycle.serials ++ [pair.upstreamSerial] := by
  simp [PluginCycle.serials, PluginCycle.push, upstream]

theorem serials_push_local (pair : SerialPair) (isLocal : pair.localOnly = true) :
    (cycle.push pair).serials = cycle.serials := by
  simp [PluginCycle.serials, PluginCycle.push, isLocal]

theorem mem_tail_push {pairs : List SerialPair} {pair new : SerialPair} (member : pair ∈ (pairs ++ [new]).tail) :
    pair ∈ pairs.tail ∨ pair = new := by
  cases pairs with
  | nil => cases member
  | cons first pairs => simpa using member

theorem PluginOrder.await (left : PluginOrder core log cycle) (pluginSerial serial width height : UInt32)
    (resized : Bool) :
    PluginOrder (core.await serial width height) (log ++ [.configured serial width height])
      (cycle.told pluginSerial serial width height resized) := by
  have issuedSame : issuedIn (log ++ [.configured serial width height]) = issuedIn log ++ [serial] := by
    simp [issuedIn]
  have ackedSame : ackedIn (log ++ [.configured serial width height]) = ackedIn log := by
    simp [ackedIn]
  have waitingSame : (core.await serial width height).waiting = core.waiting := rfl
  unfold PluginCycle.told
  split
  · constructor
    · rw [issuedSame, ackedSame, serials_push _ rfl, ← List.append_assoc]
      exact left.table.append (List.Sublist.refl [serial])
    · intro pair member
      rcases mem_tail_push member with old | rfl
      · exact left.tail pair old
      · rfl
    · intro pair member isLocal
      rw [ackedSame]
      rcases List.mem_append.mp member with old | new
      · exact left.head pair old isLocal
      · rw [List.mem_singleton.mp new] at isLocal
        cases isLocal
    · intro size
      rw [issuedSame, ackedSame, waitingSame, serials_push _ rfl, ← List.append_assoc]
      exact ⟨(left.used size).1.append (List.Sublist.refl [serial]), (left.used size).2⟩
  · constructor
    · rw [issuedSame, ackedSame]
      exact left.table.trans (List.sublist_append_left _ _)
    · exact left.tail
    · rw [ackedSame]
      exact left.head
    · intro size
      rw [issuedSame, ackedSame, waitingSame]
      exact ⟨(left.used size).1.trans (List.sublist_append_left _ _), (left.used size).2⟩

theorem PluginOrder.take (left : PluginOrder core log cycle) {serial : UInt32} {pair : SerialPair}
    {rest : List SerialPair} (found : takePair serial cycle.serialTable = some (pair, rest)) :
    PluginOrder (core.awaitPair pair) log (cycle.use serial pair rest) := by
  obtain ⟨before, split⟩ := takePair_split found
  have later : ∀ other ∈ rest, other.localOnly = false := by
    intro other member
    apply left.tail other
    rw [split]
    cases before with
    | nil => exact member
    | cons first before => simp [member]
  have serials : cycle.serials = (before.filter fun pair => !pair.localOnly).map SerialPair.upstreamSerial ++
      ((if pair.localOnly then [] else [pair.upstreamSerial]) ++ (cycle.use serial pair rest).serials) := by
    simp only [PluginCycle.serials, split, PluginCycle.use]
    cases local_ : pair.localOnly <;> simp [local_]
  have behind : (ackedIn log ++ ((if pair.localOnly then [] else [pair.upstreamSerial]) ++
      (cycle.use serial pair rest).serials)).Sublist (issuedIn log) := by
    apply List.Sublist.trans _ left.table
    rw [serials]
    exact (List.sublist_append_right _ _).append_left _
  have tail : ∀ other ∈ (cycle.use serial pair rest).serialTable.tail, other.localOnly = false :=
    fun other member => later other (List.mem_of_mem_tail member)
  have head : ∀ other ∈ (cycle.use serial pair rest).serialTable, other.localOnly = true →
      (core.awaitPair pair).hasPendingAckConf = false ∧ ackedIn log ≠ [] := by
    intro other member isLocal
    rw [later other member] at isLocal
    cases isLocal
  cases local_ : pair.localOnly with
  | true =>
      obtain ⟨settled, acked⟩ := left.head pair (by simp [split]) local_
      have waiting : (core.awaitPair pair).waiting = [] := by
        simp [OutputCore.awaitPair, local_, OutputCore.waiting, settled]
      simp only [local_, if_true, List.nil_append] at behind
      refine ⟨behind, tail, head, fun _ => ?_⟩
      rw [waiting, List.append_nil]
      exact ⟨behind, acked⟩
  | false =>
      have waiting : (core.awaitPair pair).waiting = [pair.upstreamSerial] := by
        simp [OutputCore.awaitPair, local_, OutputCore.waiting]
      simp only [local_, Bool.false_eq_true, if_false] at behind
      refine ⟨?_, tail, head, fun _ => ?_⟩
      · apply List.Sublist.trans _ behind
        exact (List.sublist_append_right _ _).append_left _
      · rw [waiting, List.append_assoc]
        exact ⟨behind, by simp⟩

theorem PluginDull.take (dull : PluginDull core cycle) {serial : UInt32} {pair : SerialPair}
    {rest : List SerialPair} (found : takePair serial cycle.serialTable = some (pair, rest)) :
    PluginDull (core.awaitPair pair) (cycle.use serial pair rest) := by
  obtain ⟨before, split⟩ := takePair_split found
  have sizes : (core.awaitPair pair).width = core.width ∧ (core.awaitPair pair).height = core.height := by
    unfold OutputCore.awaitPair
    split <;> exact ⟨rfl, rfl⟩
  constructor
  · rw [sizes.1, sizes.2]
    exact dull.size
  · intro other member
    apply dull.table other
    rw [split]
    exact List.mem_append_right before (List.mem_cons_of_mem pair member)
  · exact dull.table pair (by simp [split])

theorem PluginOrder.accept (left : PluginOrder core log cycle)
    (size : sized cycle.lastAckedWidth cycle.lastAckedHeight = true) :
    PluginOrder core.accepted (log ++ core.acceptEntries) cycle := by
  obtain ⟨behind, acked⟩ := left.used size
  have issuedSame : issuedIn (log ++ core.acceptEntries) = issuedIn log := by
    simp [OutputCore.acceptEntries, issuedIn]
  have ackedSame : ackedIn (log ++ core.acceptEntries) = ackedIn log ++ core.waiting := by
    simp [OutputCore.acceptEntries]
    rfl
  have waiting : core.accepted.waiting = [] := rfl
  constructor
  · rw [issuedSame, ackedSame]
    exact behind
  · exact left.tail
  · intro pair _ _
    rw [ackedSame]
    exact ⟨rfl, acked⟩
  · intro _
    rw [issuedSame, ackedSame, waiting, List.append_nil]
    exact ⟨behind, acked⟩

/-- A plugin surface that is configured for the first time has one pair, which is in order or has no size. -/
theorem ServerOrder.initial (server : ServerOrder core plugin log) (output : OutputOrder core log)
    (order : LogOrder log) (untouched : cycle.Untouched) (blank : cycle.hasBeenConfigured = false)
    (pluginSerial : UInt32) :
    ServerOrder { core with usedFirstConfigure := true } (some (cycle.start (core.initialPair pluginSerial))) log := by
  obtain ⟨empty, noWidth, _⟩ := untouched blank
  have nothing : cycle.serials = [] := by simp [PluginCycle.serials, empty]
  have unused : sized cycle.lastAckedWidth cycle.lastAckedHeight = false := by simp [sized, noWidth]
  refine ⟨server.settled, fun _ used => (nomatch used), fun started same _ => ?_⟩
  cases same
  have table (pair : SerialPair) : (cycle.start pair).serialTable = [pair] := by
    simp [PluginCycle.start, PluginCycle.push, empty]
  have upstream (pair : SerialPair) (isUpstream : pair.localOnly = false)
      (next : (ackedIn log ++ [pair.upstreamSerial]).Sublist (issuedIn log)) :
      PluginOrder { core with usedFirstConfigure := true } log (cycle.start pair) := by
    constructor
    · change (ackedIn log ++ (cycle.push pair).serials).Sublist (issuedIn log)
      rw [serials_push pair isUpstream, nothing]
      exact next
    · rw [table]
      simp
    · rw [table]
      intro other member isLocal
      rw [List.mem_singleton.mp member, isUpstream] at isLocal
      cases isLocal
    · intro size
      exact absurd (size.symm.trans unused) (by decide)
  have dull (pair : SerialPair) (small : sized pair.configWidth pair.configHeight = false)
      (none_ : sized core.width core.height = false) :
      PluginDull { core with usedFirstConfigure := true } (cycle.start pair) := by
    refine ⟨none_, ?_, unused⟩
    rw [table]
    intro other member
    rw [List.mem_singleton.mp member]
    exact small
  unfold OutputCore.initialPair
  cases size : sized core.width core.height with
  | false =>
      split
      · exact .inr (dull _ size size)
      · split
        · rename_i newer
          exact .inl (upstream _ rfl (output.newer newer))
        · exact .inr (dull _ size size)
  | true =>
      split
      · rename_i first
        exact .inl (upstream _ rfl (server.unused size (by simpa using first)).1)
      · split
        · rename_i newer
          exact .inl (upstream _ rfl (output.newer newer))
        · rename_i settled
          have idle : core.hasNewerSerial = false := by simpa using settled
          have acked : ackedIn log ≠ [] := by
            intro none_
            have last := output.current (output.present size) idle
            rw [none_] at last
            cases last
          left
          constructor
          · change (ackedIn log ++ (cycle.push _).serials).Sublist (issuedIn log)
            rw [serials_push_local _ rfl, nothing, List.append_nil]
            exact order.acked
          · rw [table]
            simp
          · intro _ _ _
            exact ⟨server.settled size idle, acked⟩
          · intro used
            exact absurd (used.symm.trans unused) (by decide)

/-- A configure event that is in turn leaves the output and its plugin surface in agreement. -/
theorem ServerOrder.await (server : ServerOrder core plugin log) (order : LogOrder log)
    {width height : UInt32}
    (turn : sized core.width core.height = false → sized width height = true →
      ∀ cycle, plugin = some cycle → cycle.hasBeenConfigured = false) (pluginSerial serial : UInt32) :
    ServerOrder (core.await serial width height)
      (plugin.map fun cycle => cycle.told pluginSerial serial width height
        (sized core.width core.height && sized width height))
      (log ++ [.configured serial width height]) := by
  have kept (cycle : PluginCycle) (resized : Bool) :
      (cycle.told pluginSerial serial width height resized).hasBeenConfigured = cycle.hasBeenConfigured := by
    unfold PluginCycle.told
    split <;> rfl
  have grown {serials : List UInt32} (before : serials.Sublist (issuedIn log)) :
      serials.Sublist (issuedIn (log ++ [.configured serial width height])) := by
    rw [issuedIn_append]
    exact before.trans (List.sublist_append_left _ _)
  have ackedSame : ackedIn (log ++ [.configured serial width height]) = ackedIn log := by
    simp [ackedIn]
  refine ⟨fun _ idle => (nomatch idle), fun size unused => ?_, fun told same done => ?_⟩
  · change sized width height = true at size
    cases old : sized core.width core.height with
    | false =>
        have first : (core.await serial width height).firstConfigureSerial = serial := by
          simp [OutputCore.await, old, size]
        rw [first, ackedSame, issuedIn_append]
        refine ⟨order.acked.append (List.Sublist.refl [serial]), fun told same => ?_⟩
        obtain ⟨cycle, present, rfl⟩ := Option.map_eq_some_iff.mp same
        rw [kept]
        exact turn old size cycle present
    | true =>
        have first : (core.await serial width height).firstConfigureSerial = core.firstConfigureSerial := by
          simp [OutputCore.await, old]
        have used : core.usedFirstConfigure = false := by
          simpa [OutputCore.await, old] using unused
        obtain ⟨next, blank⟩ := server.unused old used
        rw [first, ackedSame]
        refine ⟨grown next, fun told same => ?_⟩
        obtain ⟨cycle, present, rfl⟩ := Option.map_eq_some_iff.mp same
        rw [kept]
        exact blank cycle present
  · obtain ⟨cycle, present, rfl⟩ := Option.map_eq_some_iff.mp same
    rw [kept] at done
    rcases server.configured cycle present done with left | dull
    · exact .inl (left.await _ _ _ _ _)
    · have untold : cycle.told pluginSerial serial width height
          (sized core.width core.height && sized width height) = cycle := by
        simp [PluginCycle.told, dull.size]
      rw [untold]
      right
      refine ⟨?_, dull.table, dull.used⟩
      change sized width height = false
      cases size : sized width height with
      | false => rfl
      | true =>
          have blank := turn dull.size size cycle present
          exact absurd (done.symm.trans blank) (by decide)

theorem ServerOrder.take (server : ServerOrder core (some cycle) log) (output : OutputOrder core log)
    (order : LogOrder log) (untouched : cycle.Untouched) {serial : UInt32} {pair : SerialPair}
    {rest : List SerialPair} (found : takePair serial cycle.serialTable = some (pair, rest)) :
    ServerOrder (core.awaitPair pair) (some (cycle.use serial pair rest)) log := by
  have done : cycle.hasBeenConfigured = true := by
    by_contra blank
    rw [(untouched (by simpa using blank)).1] at found
    cases found
  have same : (core.awaitPair pair).width = core.width ∧ (core.awaitPair pair).height = core.height ∧
      (core.awaitPair pair).hasNewerSerial = core.hasNewerSerial ∧
      (core.awaitPair pair).usedFirstConfigure = core.usedFirstConfigure := by
    unfold OutputCore.awaitPair
    split <;> exact ⟨rfl, rfl, rfl, rfl⟩
  obtain ⟨width, height, newer, used⟩ := same
  refine ⟨fun size idle => ?_, fun size unused => ?_, fun taken same _ => ?_⟩
  · rw [width, height] at size
    rw [newer] at idle
    rcases server.configured cycle rfl done with left | dull
    · cases local_ : pair.localOnly with
      | true =>
          unfold OutputCore.awaitPair
          rw [local_, if_pos rfl]
          exact server.settled size idle
      | false =>
          have issued := output.present size
          have behind : (ackedIn log ++ [pair.upstreamSerial]).Sublist (issuedIn log) := by
            obtain ⟨before, split⟩ := takePair_split found
            apply List.Sublist.trans _ left.table
            apply List.Sublist.append_left
            apply List.singleton_sublist.mpr
            exact List.mem_map.mpr ⟨pair, List.mem_filter.mpr ⟨by simp [split], by simp [local_]⟩, rfl⟩
          exact absurd behind
            (not_sublist_after_last order.nodup (output.newest issued) (output.current issued idle))
    · exact absurd (dull.size.symm.trans size) (by decide)
  · rw [width, height] at size
    rw [used] at unused
    exact absurd (done.symm.trans ((server.unused size unused).2 cycle rfl)) (by decide)
  · cases same
    rcases server.configured cycle rfl done with left | dull
    · exact .inl (left.take found)
    · exact .inr (dull.take found)

theorem ServerOrder.accept (server : ServerOrder core (some cycle) log) (untouched : cycle.Untouched)
    (size : sized cycle.lastAckedWidth cycle.lastAckedHeight = true) :
    PluginOrder core log cycle ∧ ServerOrder core.accepted (some cycle) (log ++ core.acceptEntries) := by
  have done : cycle.hasBeenConfigured = true := by
    by_contra blank
    simp [sized, (untouched (by simpa using blank)).2.1] at size
  have left : PluginOrder core log cycle := by
    rcases server.configured cycle rfl done with left | dull
    · exact left
    · exact absurd (dull.used.symm.trans size) (by decide)
  refine ⟨left, fun _ _ => rfl, fun present unused => ?_, fun same present _ => ?_⟩
  · exact absurd (done.symm.trans ((server.unused present unused).2 cycle rfl)) (by decide)
  · cases present
    exact .inl (left.accept size)

theorem commit_notMem_lookRequests (description : UpstreamDesc) (committed pending : Look) :
    SurfaceRequest.commit ∉ lookRequests description committed pending := by
  unfold lookRequests imageRequest
  simp only [List.mem_append, not_or]
  refine ⟨⟨⟨⟨⟨?_, ?_⟩, ?_⟩, ?_⟩, ?_⟩, ?_⟩
  all_goals split <;> simp
  · split <;> simp

theorem commit_notMem_of_plain {requests : List SurfaceRequest}
    (plain : ∀ request ∈ requests, request.plain = true) : SurfaceRequest.commit ∉ requests :=
  fun member => nomatch plain _ member

end SwaylockPlugin
