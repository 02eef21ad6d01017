import SwaylockPlugin.Proof.Apply
import SwaylockPlugin.Proof.Roles

namespace SwaylockPlugin

open Library

theorem SurfaceState.Sound.of_look {one two : SurfaceState} (sound : two.Sound) (same : one.look = two.look) :
    one.Sound := by
  have width : one.viewportDestWidth = two.viewportDestWidth := congrArg Look.viewportDestWidth same
  have height : one.viewportDestHeight = two.viewportDestHeight := congrArg Look.viewportDestHeight same
  have sourceWidth : one.viewportSourceW = two.viewportSourceW := congrArg Look.viewportSourceW same
  have sourceHeight : one.viewportSourceH = two.viewportSourceH := congrArg Look.viewportSourceH same
  unfold SurfaceState.Sound
  rw [width, height, sourceWidth, sourceHeight]
  exact sound

namespace ForwardSurface

variable {surface one two : ForwardSurface} {size : UInt32 × UInt32}

theorem presented_roleCore : (surface.presented size).roleCore = surface.roleCore := by
  have kept := congrArg roleCore (surface.takeContent_kept size)
  exact kept

theorem presented_pending : (surface.presented size).pending = surface.pending := by
  have kept := congrArg pending (surface.takeContent_kept size)
  exact kept

theorem takeAttachment_look : (surface.takeAttachment size).committed.look = surface.committed.look := by
  unfold takeAttachment
  split <;> rfl

theorem takeOffset_look : surface.takeOffset.committed.look = surface.committed.look := by
  unfold takeOffset
  split <;> rfl

theorem presented_look : (surface.presented size).committed.look = surface.pending.look := by
  have moved : (surface.takeContent size).takeOffset.committed.look = (surface.takeContent size).committed.look :=
    takeOffset_look
  have attached : (surface.takeContent size).committed.look = surface.takeLook.committed.look := takeAttachment_look
  have stacked : (surface.presented size).committed.look = (surface.takeContent size).takeOffset.committed.look := by
    unfold presented takeStacks
    rfl
  exact (stacked.trans moved).trans attached

theorem takeOffset_attachments : surface.takeOffset.attachments = surface.attachments := by
  unfold takeOffset
  split <;> rfl

theorem takeAttachment_attachments : (surface.takeAttachment size).attachments =
    match surface.pending.attachment with
    | .null => { surface.attachments with committed := .null }
    | .buffer buffer => ⟨.buffer buffer, .buffer buffer, size.1, size.2⟩
    | .unreachable | .committed => surface.attachments := by
  unfold takeAttachment
  split <;> rename_i pending <;> simp only [attachments, pending]

theorem presented_attachments : (surface.presented size).attachments = (surface.takeAttachment size).attachments := by
  have moved : (surface.takeContent size).takeOffset.attachments = (surface.takeContent size).attachments :=
    takeOffset_attachments
  have looked : (surface.takeContent size).attachments = (surface.takeAttachment size).attachments := by
    have same : surface.takeLook.attachments = surface.attachments := rfl
    have requested : surface.takeLook.pending = surface.pending := rfl
    unfold takeContent
    rw [takeAttachment_attachments, takeAttachment_attachments, same, requested]
  have stacked : (surface.presented size).attachments = (surface.takeContent size).takeOffset.attachments := by
    unfold presented takeStacks
    rfl
  exact (stacked.trans moved).trans looked

theorem presented_guarded (guarded : surface.Guarded) (reachable : surface.pending.attachment ≠ .unreachable)
    (sized : ∀ buffer, surface.pending.attachment = .buffer buffer → 0 < size.1 ∧ 0 < size.2) :
    (surface.presented size).Guarded := by
  refine ⟨?_, ?_, ?_, ?_⟩
  · have kept : (surface.presented size).cycle = surface.cycle := congrArg RoleCore.cycle presented_roleCore
    rw [kept]
    exact guarded.untouched
  · rw [presented_attachments, takeAttachment_attachments]
    cases pending : surface.pending.attachment with
    | null => exact ⟨fun kept => absurd (pending.symm.trans kept) nofun, nofun⟩
    | buffer buffer => exact ⟨nofun, fun _ => sized buffer pending⟩
    | unreachable => exact absurd pending reachable
    | committed => exact guarded.attached
  · rw [presented_pending]
    exact guarded.sound.1
  · exact guarded.sound.1.of_look presented_look

theorem Guarded.of_unplaced (guarded : one.Guarded) (same : two.unplaced = one.unplaced) : two.Guarded := by
  have turned := congrArg cycle same
  have attached := congrArg attachments same
  have requested := congrArg pending same
  have recorded := congrArg committed same
  refine ⟨?_, ?_, ?_, ?_⟩
  · rw [show two.cycle = one.cycle from turned]
    exact guarded.untouched
  · rw [show two.attachments = one.attachments from attached]
    exact guarded.attached
  · rw [show two.pending = one.pending from requested]
    exact guarded.sound.1
  · rw [show two.committed = one.committed from recorded]
    exact guarded.sound.2

theorem contentRequests_plain : ∀ request ∈ surface.contentRequests size, request.plain = true := by
  intro request member
  unfold contentRequests attachRequests offsetRequests damageRequests frameRequests at member
  simp only [List.mem_append, List.mem_map] at member
  rcases member with ((attach | offset) | ⟨record, _, rfl⟩ | ⟨record, _, rfl⟩) | frame
  · split at attach
    · rw [List.mem_singleton.mp attach]
      rfl
    · cases attach
  · split at offset
    · rw [List.mem_singleton.mp offset]
      rfl
    · cases offset
  · rfl
  · rfl
  · split at frame
    · cases frame
    · rw [List.mem_singleton.mp frame]
      rfl

end ForwardSurface

end SwaylockPlugin
