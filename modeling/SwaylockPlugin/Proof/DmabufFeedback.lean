import SwaylockPlugin.Library.Ledger
import SwaylockPlugin.Construction.DmabufFeedback

namespace SwaylockPlugin.Dmabuf

open Library

/-- A tranche consists of a device, some indices into the format table, and flags. -/
structure TrancheData where
  trancheDevice : UInt64
  indices : List UInt8
  flags : UInt32
  deriving DecidableEq

/-- A feedback consists of a device, a format table and some tranches. -/
structure FeedbackData where
  mainDevice : UInt64
  table : Option TableFile
  tableSize : UInt32
  tranches : List TrancheData
  deriving DecidableEq

/-- An observer notes the feedback that was told so far, with the tranche that is not done yet, and the feedback that is
shown to plugins. -/
structure FeedbackNote where
  told : FeedbackData
  tranche : TrancheData
  shown : FeedbackData
  deriving DecidableEq

/-- At first nothing was told. -/
def FeedbackNote.blank : FeedbackNote := ⟨⟨0, none, 0, []⟩, ⟨0, [], 0⟩, ⟨0, none, 0, []⟩⟩

/-- What the compositor tells is shown when it is done, after which only its tranches are told anew. -/
def FeedbackNote.hear (note : FeedbackNote) : FeedbackEvent TableFile → FeedbackNote
  | .formatTable table size => { note with told := { note.told with table := some table, tableSize := size } }
  | .mainDevice device => { note with told := { note.told with mainDevice := device } }
  | .trancheTargetDevice device => { note with tranche := { note.tranche with trancheDevice := device } }
  | .trancheFormats indices => { note with tranche := { note.tranche with indices := indices } }
  | .trancheFlags flags => { note with tranche := { note.tranche with flags := flags } }
  | .trancheDone => { note with
      told := { note.told with tranches := note.told.tranches ++ [note.tranche] }
      tranche := ⟨0, [], 0⟩ }
  | .done => { note with told := { note.told with tranches := [] }, shown := note.told }

/-- The observer listens to the compositor alone. -/
def noteFeedback (note : FeedbackNote) (_ : DmabufScene) : DmabufEvent → FeedbackNote
  | .feedback event => note.hear event
  | _ => note

/-- A tranche is told with these events. -/
def TrancheData.events (tranche : TrancheData) : List (FeedbackEvent (Option TableFile)) :=
  [.trancheTargetDevice tranche.trancheDevice, .trancheFlags tranche.flags, .trancheFormats tranche.indices,
    .trancheDone]

/-- A feedback is told with these events. -/
def FeedbackData.events (data : FeedbackData) : List (FeedbackEvent (Option TableFile)) :=
  [.mainDevice data.mainDevice, .formatTable data.table data.tableSize] ++ data.tranches.flatMap TrancheData.events ++
    [.done]

/-- This is what a tranche means. -/
def FeedbackTranche.data (blocks : Heap Block) (tranche : FeedbackTranche) : TrancheData :=
  ⟨tranche.trancheDevice, bytesOf blocks tranche.indices, tranche.flags⟩

/-- This is what a feedback state means. -/
def DmabufFeedbackState.data (fds : Heap Descriptor) (blocks : Heap Block) (state : DmabufFeedbackState) :
    FeedbackData :=
  ⟨state.mainDevice, fileOf fds state.tableFd, state.tableFdSize, state.tranches.map (FeedbackTranche.data blocks)⟩

/-- This is the feedback that a new feedback object is told. -/
def DmabufScene.shown (scene : DmabufScene) : FeedbackData := scene.current.data scene.fds scene.blocks

/-- These are the descriptors that the states hold. -/
def DmabufScene.heldFds (scene : DmabufScene) : List FdId :=
  scene.pending.tableFd.toList ++ scene.current.tableFd.toList

/-- These are the arrays that the tranches of the states hold. -/
def DmabufScene.heldBlocks (scene : DmabufScene) : List BlockId :=
  scene.pendingTranche.indices.toList ++ scene.pending.tranches.filterMap FeedbackTranche.indices ++
    scene.current.tranches.filterMap FeedbackTranche.indices

/-- The states mean what was told, each descriptor and each array has one owner or was given back once, and the last
feedback that each object was told is the one that is shown. -/
structure Relayed (scene : DmabufScene) (note : FeedbackNote) : Prop where
  told : scene.pending.data scene.fds scene.blocks = note.told
  tranche : scene.pendingTranche.data scene.blocks = note.tranche
  shown : scene.shown = note.shown
  fds : Conserved scene.fds Descriptor.closes scene.heldFds
  blocks : Conserved scene.blocks Block.releases scene.heldBlocks
  instances : ∀ feedback received, scene.feedbackInstances.cell feedback = some received →
    ∃ before, received = before ++ note.shown.events

section Reads

variable {fds : Heap Descriptor} {blocks : Heap Block}

theorem fileOf_closeFd (closed fd : Option FdId) : fileOf (closeFd fds closed) fd = fileOf fds fd := by
  cases closed with
  | none => rfl
  | some closed =>
      cases fd with
      | none => rfl
      | some fd => exact fds.view_modify closed Descriptor.close Descriptor.file (fun _ _ => rfl) fd

theorem fileOf_alloc {record : Descriptor} {fd : Option FdId} (there : ∀ name ∈ fd, ∃ old, fds.cell name = some old) :
    fileOf (fds.alloc record) fd = fileOf fds fd := by
  cases fd with
  | none => rfl
  | some fd =>
      obtain ⟨old, found⟩ := there fd rfl
      unfold fileOf
      rw [Option.bind_some, Option.bind_some, found, fds.cell_alloc_of_live record found]

theorem bytesOf_release (released : List BlockId) (array : Option BlockId) :
    bytesOf (released.foldl wlArrayRelease blocks) array = bytesOf blocks array := by
  induction released generalizing blocks with
  | nil => rfl
  | cons block released ih =>
      rw [List.foldl_cons, ih]
      cases array with
      | none => rfl
      | some array =>
          exact congrArg (Option.getD · []) (blocks.view_modify block Block.release Block.bytes (fun _ _ => rfl) array)

theorem bytesOf_alloc {record : Block} {array : Option BlockId}
    (there : ∀ name ∈ array, ∃ old, blocks.cell name = some old) :
    bytesOf (blocks.alloc record) array = bytesOf blocks array := by
  cases array with
  | none => rfl
  | some array =>
      obtain ⟨old, found⟩ := there array rfl
      unfold bytesOf
      rw [Option.bind_some, Option.bind_some, found, blocks.cell_alloc_of_live record found]

theorem bytesOf_modify {target : BlockId} {change : Block → Block} {array : Option BlockId}
    (apart : ∀ name ∈ array, name ≠ target) : bytesOf (blocks.modify target change) array = bytesOf blocks array := by
  cases array with
  | none => rfl
  | some array =>
      unfold bytesOf
      rw [Option.bind_some, Option.bind_some, blocks.cell_modify_other change (apart array rfl)]

theorem DmabufFeedbackState.data_congr {state : DmabufFeedbackState} {fdsAfter : Heap Descriptor}
    {blocksAfter : Heap Block} (file : fileOf fdsAfter state.tableFd = fileOf fds state.tableFd)
    (bytes : ∀ tranche ∈ state.tranches, bytesOf blocksAfter tranche.indices = bytesOf blocks tranche.indices) :
    state.data fdsAfter blocksAfter = state.data fds blocks := by
  have tranches : state.tranches.map (FeedbackTranche.data blocksAfter) =
      state.tranches.map (FeedbackTranche.data blocks) :=
    List.map_congr_left fun tranche member => by rw [FeedbackTranche.data, bytes tranche member, FeedbackTranche.data]
  rw [DmabufFeedbackState.data, file, tranches, DmabufFeedbackState.data]

theorem sendDmabufFeedbackData_eq (scene : DmabufScene) (state : DmabufFeedbackState) :
    sendDmabufFeedbackData scene state = (state.data scene.fds scene.blocks).events := by
  unfold sendDmabufFeedbackData FeedbackData.events DmabufFeedbackState.data
  rw [List.flatMap_map]
  rfl

end Reads

section Steps

variable {scene : DmabufScene} {note : FeedbackNote}

theorem duplicateTable_eq (same : scene.pending.tableFd = scene.current.tableFd)
    (owned : Conserved scene.fds Descriptor.closes scene.current.tableFd.toList) :
    ∃ fds copy, duplicateTable scene = { scene with fds := fds, pending := { scene.pending with tableFd := copy } } ∧
      Conserved fds Descriptor.closes (copy.toList ++ scene.current.tableFd.toList) ∧
        fileOf fds copy = fileOf scene.fds scene.current.tableFd ∧
          fileOf fds scene.current.tableFd = fileOf scene.fds scene.current.tableFd := by
  unfold duplicateTable
  cases named : scene.current.tableFd with
  | none =>
      rw [named] at same owned
      refine ⟨scene.fds, scene.pending.tableFd, rfl, ?_, ?_, rfl⟩
      · rw [same]
        exact owned
      · rw [same]
  | some fd =>
      rw [named] at owned
      obtain ⟨⟨file, closes⟩, found⟩ := owned.owned (List.mem_singleton_self fd)
      have opened : closes = 0 := (owned.outcome found).trans (if_pos (List.mem_singleton_self fd))
      subst opened
      refine ⟨scene.fds.alloc ⟨file, 0⟩, some scene.fds.next, ?_, owned.alloc rfl, ?_, ?_⟩
      · simp only [dup, found]
      · unfold fileOf
        rw [Option.bind_some, Option.bind_some, Heap.cell_alloc_next, found]
      · exact fileOf_alloc fun name member => ⟨_, Option.mem_some.mp member ▸ found⟩

theorem Relayed.done (relayed : Relayed scene note) : Relayed (dmabufFeedbackDone scene) (note.hear .done) := by
  have closed :
      Conserved (replaceCurrent scene).fds Descriptor.closes (replaceCurrent scene).current.tableFd.toList := by
    have owned := relayed.fds.perm List.perm_append_comm
    unfold replaceCurrent
    cases named : scene.current.tableFd with
    | none =>
        rw [named] at owned
        exact owned
    | some fd =>
        rw [named] at owned
        exact owned.spend fun _ => rfl
  have released : Conserved (replaceCurrent scene).blocks Block.releases
      (scene.pendingTranche.indices.toList ++ scene.pending.tranches.filterMap FeedbackTranche.indices) :=
    (relayed.blocks.perm List.perm_append_comm).spendAll fun _ => rfl
  obtain ⟨fds, copy, duplicated, owned, copied, kept⟩ := duplicateTable_eq rfl closed
  have file : fileOf fds scene.pending.tableFd = fileOf scene.fds scene.pending.tableFd :=
    kept.trans (fileOf_closeFd _ _)
  have shown : scene.pending.data fds (replaceCurrent scene).blocks = note.told :=
    (DmabufFeedbackState.data_congr file fun _ _ => bytesOf_release _ _).trans relayed.told
  unfold dmabufFeedbackDone
  rw [duplicated]
  refine ⟨?_, ?_, shown, owned, ?_, ?_⟩
  · show ⟨scene.pending.mainDevice, fileOf fds copy, scene.pending.tableFdSize, []⟩ =
      { note.told with tranches := [] }
    rw [← shown, show fileOf fds copy = fileOf fds scene.pending.tableFd from copied.trans kept.symm]
    rfl
  · show FeedbackTranche.data (replaceCurrent scene).blocks scene.pendingTranche = note.tranche
    rw [← relayed.tranche, FeedbackTranche.data, show bytesOf (replaceCurrent scene).blocks _ = _ from
      bytesOf_release _ _, FeedbackTranche.data]
  · show Conserved _ _ (_ ++ [] ++ _)
    rw [List.append_nil]
    exact released
  · intro feedback received there
    obtain ⟨before, _, rfl⟩ := Option.map_eq_some_iff.mp ((Heap.cell_mapAll _ _ _).symm.trans there)
    refine ⟨before, congrArg (before ++ ·) ?_⟩
    rw [sendDmabufFeedbackData_eq]
    exact congrArg FeedbackData.events shown

theorem Relayed.fd_there (relayed : Relayed scene note) {fd : Option FdId} (held : fd.toList ⊆ scene.heldFds) :
    ∀ name ∈ fd, ∃ record, scene.fds.cell name = some record :=
  fun _ member => relayed.fds.owned (held (Option.mem_toList.mpr member))

theorem Relayed.formatTable (relayed : Relayed scene note) (file : TableFile) (size : UInt32) :
    Relayed (dmabufFeedbackFormatTable scene file size) (note.hear (.formatTable file size)) := by
  have owned : Conserved (closeFd (scene.fds.alloc ⟨file, 0⟩) scene.pending.tableFd) Descriptor.closes
      (scene.fds.next :: scene.current.tableFd.toList) := by
    have first : Conserved (scene.fds.alloc ⟨file, 0⟩) Descriptor.closes
        (scene.pending.tableFd.toList ++ scene.fds.next :: scene.current.tableFd.toList) :=
      Conserved.perm (relayed.fds.alloc rfl) List.perm_middle.symm
    cases named : scene.pending.tableFd with
    | none =>
        rw [named] at first
        exact first
    | some fd =>
        rw [named] at first
        exact first.spend fun _ => rfl
  have newFile :
      fileOf (closeFd (scene.fds.alloc ⟨file, 0⟩) scene.pending.tableFd) (some scene.fds.next) = some file := by
    rw [fileOf_closeFd, fileOf, Option.bind_some, Heap.cell_alloc_next, Option.map_some]
  have oldFile : fileOf (closeFd (scene.fds.alloc ⟨file, 0⟩) scene.pending.tableFd) scene.current.tableFd =
      fileOf scene.fds scene.current.tableFd := by
    rw [fileOf_closeFd, fileOf_alloc (relayed.fd_there (List.subset_append_right _ _))]
  refine ⟨?_, relayed.tranche, ?_, owned, relayed.blocks, relayed.instances⟩
  · show FeedbackData.mk _ (fileOf _ _) _ _ = _
    refine (congrArg (fun table => FeedbackData.mk _ table _ _) newFile).trans ?_
    show _ = { note.told with table := some file, tableSize := size }
    rw [← relayed.told]
    rfl
  · exact (DmabufFeedbackState.data_congr oldFile fun _ _ => rfl).trans relayed.shown

theorem Relayed.trancheFormats (relayed : Relayed scene note) (indices : List UInt8) :
    Relayed (dmabufFeedbackTrancheFormats scene indices) (note.hear (.trancheFormats indices)) := by
  have held := relayed.blocks
  unfold DmabufScene.heldBlocks at held
  have rest (blocks : Heap Block) (array : Option BlockId)
      (copied : wlArrayCopy scene.blocks indices scene.pendingTranche.indices = (blocks, array))
      (bytes : bytesOf blocks array = indices)
      (kept : ∀ tranche ∈ scene.pending.tranches ++ scene.current.tranches,
        bytesOf blocks tranche.indices = bytesOf scene.blocks tranche.indices)
      (owned : Conserved blocks Block.releases (array.toList ++
        scene.pending.tranches.filterMap FeedbackTranche.indices ++
          scene.current.tranches.filterMap FeedbackTranche.indices)) :
      Relayed (dmabufFeedbackTrancheFormats scene indices) (note.hear (.trancheFormats indices)) := by
    unfold dmabufFeedbackTrancheFormats
    rw [copied]
    refine ⟨?_, ?_, ?_, relayed.fds, owned, relayed.instances⟩
    · exact (DmabufFeedbackState.data_congr rfl fun tranche member =>
        kept tranche (List.mem_append_left _ member)).trans relayed.told
    · show ⟨scene.pendingTranche.trancheDevice, bytesOf blocks array, scene.pendingTranche.flags⟩ =
        { note.tranche with indices := indices }
      rw [bytes, ← relayed.tranche]
      rfl
    · exact (DmabufFeedbackState.data_congr rfl fun tranche member =>
        kept tranche (List.mem_append_right _ member)).trans relayed.shown
  have listed (tranche : FeedbackTranche) (member : tranche ∈ scene.pending.tranches ++ scene.current.tranches)
      (name : BlockId) (named : name ∈ tranche.indices) :
      name ∈ scene.pending.tranches.filterMap FeedbackTranche.indices ++
        scene.current.tranches.filterMap FeedbackTranche.indices := by
    rw [← List.filterMap_append]
    exact List.mem_filterMap.mpr ⟨tranche, member, named⟩
  rw [List.append_assoc] at held
  cases taken : scene.pendingTranche.indices with
  | none =>
      rw [taken] at held rest
      cases indices with
      | nil => exact rest scene.blocks none rfl rfl (fun _ _ => rfl) (by rwa [List.append_assoc])
      | cons index indices =>
          refine rest (scene.blocks.alloc ⟨index :: indices, 0⟩) (some scene.blocks.next) rfl ?_ ?_ ?_
          · rw [bytesOf, Option.bind_some, Heap.cell_alloc_next]
            rfl
          · exact fun tranche member => bytesOf_alloc fun name named => held.owned (listed tranche member name named)
          · rw [List.append_assoc]
            exact held.alloc rfl
  | some block =>
      rw [taken] at held rest
      obtain ⟨record, found⟩ := held.owned (List.mem_append_left _ (List.mem_singleton_self block))
      refine rest _ (some block) rfl ?_ ?_ ?_
      · rw [bytesOf, Option.bind_some, Heap.cell_modify_self, found]
        rfl
      · refine fun tranche member => bytesOf_modify fun name named => ?_
        rintro rfl
        exact (List.nodup_cons.mp held.nodup).1 (listed tranche member _ named)
      · rw [List.append_assoc]
        exact held.modify block fun _ => rfl

theorem Relayed.trancheDone (relayed : Relayed scene note) :
    Relayed (dmabufFeedbackTrancheDone scene) (note.hear .trancheDone) := by
  refine ⟨?_, rfl, relayed.shown, relayed.fds, ?_, relayed.instances⟩
  · show ⟨scene.pending.mainDevice, _, scene.pending.tableFdSize,
      (scene.pending.tranches ++ [scene.pendingTranche]).map (FeedbackTranche.data scene.blocks)⟩ =
        { note.told with tranches := note.told.tranches ++ [note.tranche] }
    rw [List.map_append, List.map_singleton, relayed.tranche, ← relayed.told]
    rfl
  · have moved := relayed.blocks.perm (List.Perm.append_right _ List.perm_append_comm)
    show Conserved _ _ ([] ++ (scene.pending.tranches ++ [scene.pendingTranche]).filterMap FeedbackTranche.indices ++ _)
    have single : [scene.pendingTranche].filterMap FeedbackTranche.indices = scene.pendingTranche.indices.toList := by
      cases named : scene.pendingTranche.indices <;> simp [named]
    rw [List.filterMap_append, List.nil_append, single]
    exact moved

theorem Relayed.listen (relayed : Relayed scene note) (event : FeedbackEvent TableFile) :
    Relayed (dmabufFeedbackListener scene event) (note.hear event) := by
  cases event with
  | formatTable table size => exact relayed.formatTable table size
  | mainDevice device =>
      exact ⟨congrArg (fun data : FeedbackData => { data with mainDevice := device }) relayed.told, relayed.tranche,
        relayed.shown, relayed.fds, relayed.blocks, relayed.instances⟩
  | trancheTargetDevice device =>
      exact ⟨relayed.told, congrArg (fun data : TrancheData => { data with trancheDevice := device }) relayed.tranche,
        relayed.shown, relayed.fds, relayed.blocks, relayed.instances⟩
  | trancheFormats indices => exact relayed.trancheFormats indices
  | trancheFlags flags =>
      exact ⟨relayed.told, congrArg (fun data : TrancheData => { data with flags := flags }) relayed.tranche,
        relayed.shown, relayed.fds, relayed.blocks, relayed.instances⟩
  | trancheDone => exact relayed.trancheDone
  | done => exact relayed.done

theorem Relayed.getFeedback (relayed : Relayed scene note) : Relayed (nestedLinuxDmabufGetFeedback scene) note := by
  refine ⟨relayed.told, relayed.tranche, relayed.shown, relayed.fds, relayed.blocks, fun feedback received there => ?_⟩
  rcases scene.feedbackInstances.old_of_alloc there with ⟨_, rfl⟩ | ⟨_, old⟩
  · refine ⟨[], ?_⟩
    rw [List.nil_append, sendDmabufFeedbackData_eq]
    exact congrArg FeedbackData.events relayed.shown
  · exact relayed.instances feedback received old

theorem Relayed.step {event : DmabufEvent} {next : DmabufScene} (relayed : Relayed scene note)
    (moved : feeding.machine.step scene event next) : Relayed next (noteFeedback note scene event) := by
  obtain ⟨_, ⟨⟩⟩ := moved
  cases event with
  | feedback event => exact relayed.listen event
  | getFeedback => exact relayed.getFeedback
  | destroyed feedback =>
      exact ⟨relayed.told, relayed.tranche, relayed.shown, relayed.fds, relayed.blocks, fun other received there =>
        relayed.instances other received (scene.feedbackInstances.old_of_free there)⟩

end Steps

theorem hear_shown (note : FeedbackNote) {event : FeedbackEvent TableFile} (other : event ≠ .done) :
    (note.hear event).shown = note.shown := by
  cases event with
  | done => exact absurd rfl other
  | _ => rfl

theorem listen_current (scene : DmabufScene) {event : FeedbackEvent TableFile} (other : event ≠ .done) :
    (dmabufFeedbackListener scene event).current = scene.current := by
  cases event with
  | done => exact absurd rfl other
  | _ => rfl

/-- The feedback that is shown to plugins is what the compositor told when it was last done, and every descriptor and
every array is given back once when it is replaced. -/
theorem feedback_shown_whole {pair : DmabufScene × FeedbackNote}
    (reachable : (feeding.machine.observed .blank noteFeedback).Reachable pair) :
    pair.1.shown = pair.2.shown ∧
      (∀ event next, feeding.machine.step pair.1 event next → event ≠ .feedback .done →
        next.current = pair.1.current ∧ next.shown = pair.1.shown) ∧
        (∀ fd record, pair.1.fds.cell fd = some record → record.closes = if fd ∈ pair.1.heldFds then 0 else 1) ∧
          (∀ block record, pair.1.blocks.cell block = some record →
            record.releases = if block ∈ pair.1.heldBlocks then 0 else 1) ∧
            ∀ feedback received, pair.1.feedbackInstances.cell feedback = some received →
              ∃ before, received = before ++ pair.2.shown.events := by
  have relayed : Relayed pair.1 pair.2 := by
    refine reachable.invariant (fun pair => Relayed pair.1 pair.2) ?_ ?_
    · rintro ⟨_, _⟩ ⟨rfl, rfl⟩
      exact ⟨rfl, rfl, rfl, .empty, .empty, nofun⟩
    · rintro ⟨scene, note⟩ event ⟨next, _⟩ relayed ⟨moved, rfl⟩
      exact relayed.step moved
  refine ⟨relayed.shown, fun event next moved other => ?_, fun _ _ => relayed.fds.outcome,
    fun _ _ => relayed.blocks.outcome, relayed.instances⟩
  have after := relayed.step moved
  obtain ⟨_, ⟨⟩⟩ := moved
  cases event with
  | feedback event =>
      have still : event ≠ .done := fun same => other (congrArg _ same)
      exact ⟨listen_current pair.1 still, after.shown.trans ((hear_shown pair.2 still).trans relayed.shown.symm)⟩
  | getFeedback => exact ⟨rfl, rfl⟩
  | destroyed feedback => exact ⟨rfl, rfl⟩

/-- The compositor tells a feedback with one tranche twice, the second time with another table, and a plugin asks for it
in between. -/
def twoFeedbacks : List DmabufEvent :=
  [.feedback (.mainDevice 57857), .feedback (.formatTable 1 64), .feedback (.trancheTargetDevice 57857),
    .feedback (.trancheFlags 1), .feedback (.trancheFormats [0, 0, 1, 0]), .feedback .trancheDone, .getFeedback,
    .feedback .done, .feedback (.formatTable 2 16), .feedback (.trancheFormats [0, 0]), .feedback .trancheDone,
    .getFeedback, .feedback .done]

/-- The second feedback has the main device of the first and a tranche of its own. -/
def secondFeedback : FeedbackData := ⟨57857, some 2, 16, [⟨0, [0, 0], 0⟩]⟩

/-- The second feedback is shown. -/
theorem second_feedback_shown :
    ∃ pair, (feeding.machine.observed .blank noteFeedback).Reachable pair ∧ pair.1.shown = secondFeedback := by
  have played : ((feeding.observed .blank noteFeedback).play (.start, .blank) twoFeedbacks).any
      (fun pair => pair.2.shown == secondFeedback) = true := by
    decide +kernel
  have start : feeding.initial .start := rfl
  obtain ⟨pair, reachable, noted⟩ := feeding.play_observed FeedbackNote.blank noteFeedback twoFeedbacks
    (fun pair => pair.2.shown == secondFeedback) start played
  exact ⟨pair, reachable, (feedback_shown_whole reachable).1.trans (beq_iff_eq.mp noted)⟩

end SwaylockPlugin.Dmabuf
