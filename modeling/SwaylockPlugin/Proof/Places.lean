import SwaylockPlugin.Proof.Moves

namespace SwaylockPlugin

open Library

/-- Each plugin record has one place, which no other record has, and an output without its lock surface has none. -/
structure PlaceGuard (creating : Option OutputId) (scene : Scene) : Prop where
  nodup : scene.clients.Nodup
  listed : ∀ id, id ∈ scene.clients ↔ scene.bgClients.live id = true
  placed : ∀ id record, scene.bgClients.cell id = some record → scene.place record.uniqueOutput = some id
  placing : ∀ place id, scene.place place = some id →
    ∃ record, scene.bgClients.cell id = some record ∧ record.uniqueOutput = place
  mode : ∀ place id, scene.place place = some id → place.isSome = scene.args.pluginPerOutput
  created : ∀ id output, scene.outputs.cell id = some output → output.client.isSome = true →
    output.created = true ∨ creating = some id
  apart : ∀ id other record another, scene.bgClients.cell id = some record → scene.bgClients.cell other = some another →
    record.client = another.client → id = other
  below : ∀ id record, scene.bgClients.cell id = some record → record.client < scene.wlClients.next

/-- What a place is about in a plugin record. -/
def SwaylockBgClient.seat (record : SwaylockBgClient) : WlClientId × Option OutputId :=
  (record.client, record.uniqueOutput)

/-- The records and their places are the same in two scenes. -/
structure SamePlaces (first second : Scene) : Prop where
  clients : second.clients = first.clients
  mode : second.args.pluginPerOutput = first.args.pluginPerOutput
  records : ∀ id, (second.bgClients.cell id).map SwaylockBgClient.seat =
    (first.bgClients.cell id).map SwaylockBgClient.seat
  connections : second.wlClients.next = first.wlClients.next
  place : ∀ place, second.place place = first.place place
  created : ∀ id output, second.outputs.cell id = some output → output.client.isSome = true →
    ∃ old, first.outputs.cell id = some old ∧ (old.created = true → output.created = true)

theorem bind_congr {Record Place : Type} {view : Record → Option Place} {one two : Option Record}
    (same : two.map view = one.map view) : two.bind view = one.bind view := by
  have joined := congrArg Option.join same
  cases one <;> cases two <;> exact joined

namespace SamePlaces

variable {first second : Scene}

theorem record (same : SamePlaces first second) {id : BgClientId} {record : SwaylockBgClient}
    (present : second.bgClients.cell id = some record) :
    ∃ old, first.bgClients.cell id = some old ∧ old.client = record.client ∧ old.uniqueOutput = record.uniqueOutput := by
  have view := same.records id
  rw [present, Option.map_some] at view
  obtain ⟨old, there, seat⟩ := Option.map_eq_some_iff.mp view.symm
  exact ⟨old, there, congrArg Prod.fst seat, congrArg Prod.snd seat⟩

theorem kept (same : SamePlaces first second) {id : BgClientId} {record : SwaylockBgClient}
    (present : first.bgClients.cell id = some record) :
    ∃ new, second.bgClients.cell id = some new ∧ new.uniqueOutput = record.uniqueOutput := by
  have view := same.records id
  rw [present, Option.map_some] at view
  obtain ⟨new, there, seat⟩ := Option.map_eq_some_iff.mp view
  exact ⟨new, there, congrArg Prod.snd seat⟩

theorem of_records {records : Heap SwaylockBgClient} {loop : Loop FdCallback TimerCallback} (scene : Scene)
    (kept : ∀ id, (records.cell id).map SwaylockBgClient.seat = (scene.bgClients.cell id).map SwaylockBgClient.seat) :
    SamePlaces scene { scene with bgClients := records, eventloop := loop } :=
  ⟨rfl, rfl, kept, rfl, fun place => place_congr rfl rfl place, fun _ output present _ => ⟨output, present, id⟩⟩

theorem setOutput (scene : Scene) (id : OutputId) {change : SwaylockSurface → SwaylockSurface}
    (client : ∀ output, (change output).client = output.client)
    (created : ∀ output, output.created = true → (change output).created = true) :
    SamePlaces scene (scene.setOutput id change) := by
  refine ⟨rfl, rfl, fun _ => rfl, rfl, fun place => ?_, fun other output present _ => ?_⟩
  · cases place with
    | none => rfl
    | some other =>
        exact bind_congr (scene.outputs.view_modify id change SwaylockSurface.client (fun output _ => client output) other)
  · obtain ⟨old, there, ⟨_, rfl⟩ | ⟨_, rfl⟩⟩ := scene.outputs.old_of_modify present
    · exact ⟨old, there, created old⟩
    · exact ⟨output, there, fun made => made⟩

theorem of_still (still : Still first second) : SamePlaces first second := by
  refine ⟨still.clients, by rw [still.settings.1], fun id => ?_, still.connections, fun place => ?_, fun id output present served => ?_⟩
  · have view := congrArg (Option.map SwaylockBgClient.seat) (still.records id)
    rw [Option.map_map, Option.map_map] at view
    exact view
  · cases place with
    | none => exact still.mainClient
    | some id =>
        change (second.outputs.cell id).bind _ = (first.outputs.cell id).bind _
        rcases still.outputs id with view | ⟨absent, output, there, unserved, _⟩
        · have clients := congrArg (Option.map Service.client) view
          rw [Option.map_map, Option.map_map] at clients
          exact bind_congr clients
        · rw [absent, there]
          exact unserved
  · rcases still.old present with ⟨old, there, same⟩ | ⟨_, unserved, _⟩
    · exact ⟨old, there, fun made => (congrArg Service.created same).symm.trans made⟩
    · rw [unserved] at served
      cases served

theorem of_outputs {next : Scene} (scene : Scene) (clients : next.clients = scene.clients) (args : next.args = scene.args)
    (records : next.bgClients = scene.bgClients) (connections : next.wlClients.next = scene.wlClients.next)
    (main : next.mainClient = scene.mainClient) (outputs : next.outputs = scene.outputs) : SamePlaces scene next :=
  ⟨clients, by rw [args], fun id => by rw [records], connections, fun place => place_congr outputs main place,
    fun _ output present _ => ⟨output, outputs ▸ present, id⟩⟩

theorem trans {third : Scene} (one : SamePlaces first second) (two : SamePlaces second third) : SamePlaces first third where
  clients := two.clients.trans one.clients
  mode := two.mode.trans one.mode
  records id := (two.records id).trans (one.records id)
  connections := two.connections.trans one.connections
  place place := (two.place place).trans (one.place place)
  created id output present served := by
    obtain ⟨middle, there, late⟩ := two.created id output present served
    have place : second.place (some id) = third.place (some id) := (two.place (some id)).symm
    have client : middle.client = output.client := by
      simpa [Scene.place, there, present] using place
    obtain ⟨old, start, early⟩ := one.created id middle there (client ▸ served)
    exact ⟨old, start, fun made => late (early made)⟩

end SamePlaces

namespace PlaceGuard

variable {creating : Option OutputId} {scene next : Scene} {env : Environment}

theorem same (guard : PlaceGuard creating scene) (same : SamePlaces scene next) : PlaceGuard creating next where
  nodup := same.clients ▸ guard.nodup
  listed id := by
    have live : next.bgClients.live id = scene.bgClients.live id := by
      have view := congrArg Option.isSome (same.records id)
      rw [Option.isSome_map, Option.isSome_map] at view
      exact view
    rw [same.clients, live]
    exact guard.listed id
  placed id record present := by
    obtain ⟨old, there, _, output⟩ := same.record present
    rw [same.place, ← output]
    exact guard.placed id old there
  placing place id served := by
    rw [same.place] at served
    obtain ⟨old, there, output⟩ := guard.placing place id served
    obtain ⟨record, present, kept⟩ := same.kept there
    exact ⟨record, present, kept.trans output⟩
  mode place id served := by
    rw [same.mode]
    exact guard.mode place id (same.place place ▸ served)
  created id output present served := by
    obtain ⟨old, there, kept⟩ := same.created id output present served
    have place : next.place (some id) = scene.place (some id) := same.place (some id)
    have client : output.client = old.client := by
      simpa [Scene.place, there, present] using place
    exact (guard.created id old there (client ▸ served)).imp_left kept
  apart id other record another present also shared := by
    obtain ⟨old, there, client, _⟩ := same.record present
    obtain ⟨rest, elsewhere, owner, _⟩ := same.record also
    exact guard.apart id other old rest there elsewhere ((client.trans shared).trans owner.symm)
  below id record present := by
    obtain ⟨old, there, client, _⟩ := same.record present
    rw [same.connections, ← client]
    exact guard.below id old there

theorem place_some {scene : Scene} {id : OutputId} {output : SwaylockSurface} (present : scene.outputs.cell id = some output) :
    scene.place (some id) = output.client := by
  simp [Scene.place, present]

theorem lasting_output (lasting : Lasting scene next) {id : OutputId} {output : SwaylockSurface}
    (present : next.outputs.cell id = some output) :
    ∃ old, scene.outputs.cell id = some old ∧ old.created = output.created := by
  have view := lasting.outputs id
  rw [present, Option.map_some] at view
  obtain ⟨old, there, same⟩ := Option.map_eq_some_iff.mp view.symm
  have created : old.unserved.created = output.unserved.created := congrArg SwaylockSurface.created same
  exact ⟨old, there, created⟩

theorem cleaned (guard : PlaceGuard creating scene) {id : BgClientId} {record : SwaylockBgClient}
    (cleaned : Cleaned scene id record next) : PlaceGuard creating next := by
  have other {bg : BgClientId} {found : SwaylockBgClient} (present : next.bgClients.cell bg = some found) :
      bg ≠ id ∧ scene.bgClients.cell bg = some found := by
    rw [cleaned.records] at present
    split at present
    · cases present
    · rename_i apart
      exact ⟨apart, present⟩
  have elsewhere {place : Option OutputId} {bg : BgClientId} (served : next.place place = some bg) :
      place ≠ record.uniqueOutput ∧ scene.place place = some bg := by
    rw [cleaned.place] at served
    split at served
    · cases served
    · rename_i apart
      exact ⟨apart, served⟩
  refine ⟨?_, fun bg => ?_, fun bg found present => ?_, fun place bg served => ?_, fun place bg served => ?_,
    fun output screen present served => ?_, fun one two first second here there => ?_, fun bg found present => ?_⟩
  · rw [cleaned.clients]
    exact guard.nodup.erase id
  · rw [cleaned.clients, guard.nodup.mem_erase_iff, guard.listed]
    unfold Heap.live
    rw [cleaned.records]
    split <;> simp [*]
  · obtain ⟨apart, there⟩ := other present
    rw [cleaned.place, if_neg, guard.placed bg found there]
    intro same
    have shared := (guard.placed bg found there).symm.trans ((congrArg scene.place same).trans cleaned.placed)
    exact apart (Option.some.inj shared)
  · obtain ⟨apart, before⟩ := elsewhere served
    obtain ⟨found, there, output⟩ := guard.placing place bg before
    refine ⟨found, ?_, output⟩
    rw [cleaned.records, if_neg, there]
    rintro rfl
    cases there.symm.trans cleaned.present
    exact apart output.symm
  · rw [cleaned.lasting.settings.1]
    exact guard.mode place bg (elsewhere served).2
  · obtain ⟨old, there, created⟩ := lasting_output cleaned.lasting present
    obtain ⟨bg, client⟩ := Option.isSome_iff_exists.mp served
    have before := (elsewhere ((place_some present).trans client)).2
    rw [place_some there] at before
    exact created ▸ guard.created output old there (by rw [before]; rfl)
  · exact guard.apart one two first second (other here).2 (other there).2
  · rw [cleaned.connections]
    exact guard.below bg found (other present).2

/-- A plugin that is started at a place of its mode, on an output whose lock surface exists, keeps the guard. -/
theorem connected (guard : PlaceGuard creating scene) {output : Option OutputId} {pid : Int}
    (connected : Connected scene output pid next) (mode : output.isSome = scene.args.pluginPerOutput)
    (created : ∀ id screen, output = some id → scene.outputs.cell id = some screen →
      screen.created = true ∨ creating = some id) : PlaceGuard creating next := by
  have fresh : scene.bgClients.cell scene.bgClients.next = none := scene.bgClients.cell_next
  have old {bg : BgClientId} {found : SwaylockBgClient} (present : scene.bgClients.cell bg = some found) :
      bg ≠ scene.bgClients.next := by
    rintro rfl
    cases fresh.symm.trans present
  have new : next.bgClients.cell scene.bgClients.next = some ⟨100000, scene.wlClients.next, output, pid, false, false,
      some scene.eventloop.nextTimer⟩ := by
    rw [connected.records, if_pos rfl]
  have cases_ {bg : BgClientId} {found : SwaylockBgClient} (present : next.bgClients.cell bg = some found) :
      bg = scene.bgClients.next ∧ found.client = scene.wlClients.next ∧ found.uniqueOutput = output ∨
        scene.bgClients.cell bg = some found := by
    rw [connected.records] at present
    split at present
    · cases present
      exact .inl ⟨by assumption, rfl, rfl⟩
    · exact .inr present
  refine ⟨?_, fun bg => ?_, fun bg found present => ?_, fun place bg served => ?_, fun place bg served => ?_,
    fun id screen present served => ?_, fun one two first second here there shared => ?_, fun bg found present => ?_⟩
  · rw [connected.clients]
    refine List.nodup_cons.mpr ⟨fun listed => ?_, guard.nodup⟩
    have live := (guard.listed _).mp listed
    rw [Heap.live, fresh] at live
    cases live
  · rw [connected.clients, List.mem_cons, guard.listed]
    unfold Heap.live
    rw [connected.records]
    split <;> simp [*]
  · rw [connected.place]
    rcases cases_ present with ⟨rfl, _, rfl⟩ | there
    · exact if_pos rfl
    · rw [if_neg, guard.placed bg found there]
      intro same
      have taken := guard.placed bg found there
      rw [same, connected.free] at taken
      cases taken
  · rw [connected.place] at served
    split at served
    · rename_i same
      cases served
      exact ⟨_, new, same.symm⟩
    · obtain ⟨found, there, unique⟩ := guard.placing place bg served
      refine ⟨found, ?_, unique⟩
      rw [connected.records, if_neg (old there), there]
  · rw [connected.lasting.settings.1]
    rw [connected.place] at served
    split at served
    · rename_i same
      exact same ▸ mode
    · exact guard.mode place bg served
  · obtain ⟨before, there, made⟩ := lasting_output connected.lasting present
    obtain ⟨bg, client⟩ := Option.isSome_iff_exists.mp served
    have seated := (place_some present).trans client
    rw [connected.place] at seated
    split at seated
    · rename_i same
      exact made ▸ created id before same.symm there
    · rw [place_some there] at seated
      exact made ▸ guard.created id before there (by rw [seated]; rfl)
  · rcases cases_ here with ⟨rfl, owner, _⟩ | here
    · rcases cases_ there with ⟨rfl, _⟩ | there
      · rfl
      · have below := guard.below two second there
        rw [← shared, owner] at below
        exact absurd below (Nat.lt_irrefl _)
    · rcases cases_ there with ⟨rfl, owner, _⟩ | there
      · have below := guard.below one first here
        rw [shared, owner] at below
        exact absurd below (Nat.lt_irrefl _)
      · exact guard.apart one two first second here there shared
  · rw [connected.connections]
    rcases cases_ present with ⟨_, owner, _⟩ | there
    · rw [owner]
      exact Nat.lt_succ_self _
    · exact Nat.lt_succ_of_lt (guard.below bg found there)

theorem opening (guard : PlaceGuard none scene) (creating : Option OutputId) : PlaceGuard creating scene :=
  { guard with created := fun id output present served =>
      (guard.created id output present served).imp_right fun none => nomatch none }

theorem finish {id : OutputId} (guard : PlaceGuard (some id) scene) :
    PlaceGuard none (scene.setOutput id fun output => { output with created := true }) := by
  have same : SamePlaces scene (scene.setOutput id fun output => { output with created := true }) := by
    refine .setOutput scene id ?_ ?_
    · exact fun _ => rfl
    · exact fun _ _ => rfl
  have kept := guard.same same
  refine { kept with created := fun other output present served => .inl ?_ }
  obtain ⟨old, there, ⟨_, rfl⟩ | ⟨apart, rfl⟩⟩ := scene.outputs.old_of_modify present
  · rfl
  · exact (guard.created other output there served).resolve_right fun same => apart (Option.some.inj same).symm

theorem dropped (guard : PlaceGuard creating scene) {id : OutputId} (free : scene.place (some id) = none)
    (timer : Option TimerId) : PlaceGuard creating (scene.dropOutput id timer) := by
  have retimed : scene.dropOutput id timer =
      { scene with eventloop := (scene.removeTimer? timer).eventloop, outputs := scene.outputs.free id } := by
    cases timer <;> rfl
  rw [retimed]
  refine guard.same ⟨rfl, rfl, fun _ => rfl, rfl, fun place => ?_, fun other output present _ => ?_⟩
  · cases place with
    | none => rfl
    | some other =>
        change ((scene.outputs.free id).cell other).bind _ = _
        by_cases same : other = id
        · subst same
          rw [Heap.cell_free_self]
          exact free.symm
        · rw [Heap.cell_free_other _ same]
          rfl
  · exact ⟨output, scene.outputs.old_of_free present, fun made => made⟩

end PlaceGuard

section Moves

variable {scene next : Scene}

theorem SamePlaces.of_lasting (lasting : Lasting scene next) (clients : next.clients = scene.clients)
    (records : ∀ id, (next.bgClients.cell id).map SwaylockBgClient.seat =
      (scene.bgClients.cell id).map SwaylockBgClient.seat)
    (connections : next.wlClients = scene.wlClients) (place : ∀ place, next.place place = scene.place place) :
    SamePlaces scene next := by
  refine ⟨clients, by rw [lasting.settings.1], records, by rw [connections], place, fun id output present _ => ?_⟩
  obtain ⟨old, there, made⟩ := PlaceGuard.lasting_output lasting present
  exact ⟨old, there, fun created => made.symm.trans created⟩

theorem SamePlaces.timed (scene : Scene) (loop : Loop FdCallback TimerCallback) (id : OutputId)
    {change : SwaylockSurface → SwaylockSurface} (client : ∀ output, (change output).client = output.client)
    (created : ∀ output, output.created = true → (change output).created = true) :
    SamePlaces scene ({ scene with eventloop := loop }.setOutput id change) := by
  have looped : SamePlaces scene { scene with eventloop := loop } := .of_records scene fun _ => rfl
  exact looped.trans (.setOutput _ id client created)

theorem Registered.places {id : BgClientId} {record : SwaylockBgClient} (registered : Registered scene id record next) :
    SamePlaces scene next := by
  refine .of_lasting registered.lasting registered.clients (fun other => ?_) registered.connections registered.place
  rw [registered.records]
  refine scene.bgClients.view_modify id _ SwaylockBgClient.seat (fun record _ => ?_) other
  rfl

/-- A move changes the places of the plugin records in these ways. -/
inductive Reseats : Option OutputId × Scene → Option OutputId × Scene → Prop
  | same {creating later : Option OutputId} {first second : Scene} (opened : creating = later ∨ creating = none)
      (same : SamePlaces first second) : Reseats (creating, first) (later, second)
  | finish (scene : Scene) (id : OutputId) :
      Reseats (some id, scene) (none, scene.setOutput id fun output => { output with created := true })
  | cleaned {creating : Option OutputId} {first middle second : Scene} {id : BgClientId} {record : SwaylockBgClient}
      (cleaned : Cleaned first id record middle) (same : SamePlaces middle second) :
      Reseats (creating, first) (creating, second)
  | restarted {creating : Option OutputId} {first middle second : Scene} {id : BgClientId} {record : SwaylockBgClient}
      {pid : Int} (cleaned : Cleaned first id record middle)
      (connected : Connected middle record.uniqueOutput pid second) : Reseats (creating, first) (creating, second)
  | started {creating output : Option OutputId} {first second : Scene} {pid : Int}
      (connected : Connected first output pid second) (mode : output.isSome = first.args.pluginPerOutput)
      (place : output.isSome = true → creating = output) : Reseats (creating, first) (creating, second)
  | removed {creating : Option OutputId} {first : Scene} {id : OutputId} (free : first.place (some id) = none)
      (timer : Option TimerId) : Reseats (creating, first) (creating, first.dropOutput id timer)
  | evicted {creating : Option OutputId} {first middle : Scene} {client : BgClientId} {record : SwaylockBgClient}
      {id : OutputId} (served : first.place (some id) = some client) (cleaned : Cleaned first client record middle)
      (timer : Option TimerId) : Reseats (creating, first) (creating, middle.dropOutput id timer)

theorem Move.reseats {bounds : Bounds} {one two : Option OutputId × Scene} (move : Move bounds one two) :
    Reseats one two := by
  cases move with
  | quiet changes => exact .same (.inl rfl) (.of_still (changes.still fun _ => id))
  | pause scene env client paused =>
      obtain ⟨records, same, _, _, running⟩ := setClientPaused_records scene env client paused
      rw [same]
      refine .same (.inl rfl) (.of_records scene fun id => ?_)
      have view := congrArg (Option.map SwaylockBgClient.seat) (running id)
      rw [Option.map_map, Option.map_map] at view
      exact view
  | hang scene client => exact .same (.inl rfl) (.of_outputs scene rfl rfl rfl rfl rfl rfl)
  | register handled =>
      rcases clientResourceCreate_registered _ _ handled with rfl | ⟨_, _, registered⟩
      · exact .same (.inl rfl) (.of_outputs _ rfl rfl rfl rfl rfl rfl)
      · exact .same (.inl rfl) registered.places
  | forgetConnect scene id =>
      refine .same (.inl rfl) (.of_records scene fun other => ?_)
      refine scene.bgClients.view_modify id _ SwaylockBgClient.seat (fun record _ => ?_) other
      rfl
  | clean handled =>
      obtain ⟨_, cleaned⟩ := cleanupClient_cleaned _ _ handled
      exact .cleaned cleaned (.of_outputs _ rfl rfl rfl rfl rfl rfl)
  | died _ handled =>
      obtain ⟨record, cleaned, cleaning, ⟨_, rfl⟩ | ⟨_, pid, connected⟩⟩ := clientDestroyed_ends _ _ handled
      · exact .cleaned cleaning (.of_outputs _ rfl rfl rfl rfl rfl rfl)
      · exact .restarted cleaning connected
  | start _ mode place handled => exact .started (connectPlugin_connected _ _ _ handled) mode place
  | @lock scene id _ _ _ => exact .same (.inr rfl) (.timed scene _ id (fun _ => rfl) fun _ created => created)
  | finish scene id => exact .finish scene id
  | @redraw _ scene next id handled =>
      have same : Ensures (armRedraw scene id) (SamePlaces scene) := by
        refine .read fun output _ => ?_
        split
        · exact .pure (.of_outputs scene rfl rfl rfl rfl rfl rfl)
        · exact .pure (.timed scene _ id (fun _ => rfl) fun _ created => created)
      exact .same (.inl rfl) (same next handled)
  | cancel scene id =>
      refine .same (.inl rfl) ?_
      unfold cancelSubmissionTimer
      split
      · exact .of_outputs scene rfl rfl rfl rfl rfl rfl
      · rename_i output _
        have retimed : scene.removeTimer? output.clientSubmissionTimer =
            { scene with eventloop := (scene.removeTimer? output.clientSubmissionTimer).eventloop } := by
          cases output.clientSubmissionTimer <;> rfl
        rw [retimed]
        exact .timed scene _ id (fun _ => rfl) fun _ created => created
  | forgetRedraw scene id =>
      exact .same (.inl rfl) (.setOutput scene id (fun _ => rfl) fun _ created => created)
  | forgetHidden scene => exact .same (.inl rfl) (.of_outputs scene rfl rfl rfl rfl rfl rfl)
  | armHidden scene =>
      refine .same (.inl rfl) ?_
      unfold armHiddenCheck
      split <;> exact .of_outputs scene rfl rfl rfl rfl rfl rfl
  | delist scene id => exact .same (.inl rfl) (.of_outputs scene rfl rfl rfl rfl rfl rfl)
  | remove present handled =>
      rcases cleanupServing_cleaned _ _ handled with ⟨unserved, rfl⟩ | ⟨client, record, served, cleaning⟩
      · exact .removed ((PlaceGuard.place_some present).trans unserved) _
      · exact .evicted ((PlaceGuard.place_some present).trans served) cleaning _
  | display => exact .same (.inl rfl) (.of_outputs _ rfl rfl rfl rfl rfl rfl)

theorem PlaceGuard.reseats {one two : Option OutputId × Scene} (guard : PlaceGuard one.1 one.2) (reseats : Reseats one two) :
    PlaceGuard two.1 two.2 := by
  cases reseats with
  | same opened same =>
      rcases opened with rfl | rfl
      · exact guard.same same
      · exact (guard.opening _).same same
  | finish => exact guard.finish
  | cleaned cleaning same => exact (guard.cleaned cleaning).same same
  | restarted cleaning connected =>
      refine (guard.cleaned cleaning).connected connected ?_ fun id screen same present => ?_
      · rw [cleaning.lasting.settings.1]
        exact guard.mode _ _ cleaning.placed
      · obtain ⟨old, there, made⟩ := PlaceGuard.lasting_output cleaning.lasting present
        have served := cleaning.placed
        rw [same, PlaceGuard.place_some there] at served
        exact made ▸ guard.created id old there (by rw [served]; rfl)
  | started connected mode place =>
      refine guard.connected connected mode fun id screen same _ => .inr ?_
      exact (place (by rw [same]; rfl)).trans same
  | removed free timer => exact guard.dropped free timer
  | evicted served cleaning timer =>
      refine (guard.cleaned cleaning).dropped ?_ timer
      obtain ⟨found, there, unique⟩ := guard.placing _ _ served
      cases there.symm.trans cleaning.present
      rw [cleaning.place, if_pos unique.symm]

theorem Moves.places {bounds : Bounds} {creating : Option OutputId} {first second : Scene}
    (moves : Moves bounds creating first second) (guard : PlaceGuard creating first) : PlaceGuard creating second :=
  moves.keep PlaceGuard (fun move guard => guard.reseats move.reseats) guard

/-- A plugin record keeps its connection and its output, and a new one has a new connection. -/
structure Hires (first second : Scene) : Prop where
  connections : first.wlClients.next ≤ second.wlClients.next
  records : ∀ id record, second.bgClients.cell id = some record →
    (∃ old, first.bgClients.cell id = some old ∧ old.seat = record.seat) ∨ first.wlClients.next ≤ record.client

namespace Hires

variable {first second third : Scene}

theorem trans (one : Hires first second) (two : Hires second third) : Hires first third := by
  refine ⟨Nat.le_trans one.connections two.connections, fun id record present => ?_⟩
  rcases two.records id record present with ⟨old, there, seat⟩ | new
  · have client : old.client = record.client := congrArg Prod.fst seat
    rcases one.records id old there with ⟨older, start, before⟩ | new
    · exact .inl ⟨older, start, before.trans seat⟩
    · exact .inr (client ▸ new)
  · exact .inr (Nat.le_trans one.connections new)

theorem of_same (same : SamePlaces first second) : Hires first second := by
  refine ⟨Nat.le_of_eq same.connections.symm, fun id record present => .inl ?_⟩
  obtain ⟨old, there, client, output⟩ := same.record present
  exact ⟨old, there, Prod.ext client output⟩

theorem of_cleaned {id : BgClientId} {record : SwaylockBgClient} (cleaned : Cleaned first id record second) :
    Hires first second := by
  refine ⟨Nat.le_of_eq (by rw [cleaned.connections]), fun other found present => .inl ?_⟩
  rw [cleaned.records] at present
  split at present
  · cases present
  · exact ⟨found, present, rfl⟩

theorem of_connected {output : Option OutputId} {pid : Int} (connected : Connected first output pid second) :
    Hires first second := by
  refine ⟨by rw [connected.connections]; exact Nat.le_succ _, fun other found present => ?_⟩
  rw [connected.records] at present
  split at present
  · cases present
    exact .inr (Nat.le_refl _)
  · exact .inl ⟨found, present, rfl⟩

theorem dropOutput (scene : Scene) (id : OutputId) (timer : Option TimerId) : Hires scene (scene.dropOutput id timer) := by
  cases timer <;> exact ⟨Nat.le_refl _, fun _ record present => .inl ⟨record, present, rfl⟩⟩

theorem of_reseats {one two : Option OutputId × Scene} (reseats : Reseats one two) : Hires one.2 two.2 := by
  cases reseats with
  | same _ same => exact of_same same
  | finish => exact ⟨Nat.le_refl _, fun _ record present => .inl ⟨record, present, rfl⟩⟩
  | cleaned cleaning same => exact (of_cleaned cleaning).trans (of_same same)
  | restarted cleaning connected => exact (of_cleaned cleaning).trans (of_connected connected)
  | started connected => exact of_connected connected
  | removed _ timer => exact dropOutput _ _ timer
  | evicted _ cleaning timer => exact (of_cleaned cleaning).trans (dropOutput _ _ timer)

theorem of_moves {bounds : Bounds} {creating : Option OutputId} (moves : Moves bounds creating first second) :
    Hires first second := by
  refine moves.keep (fun _ => Hires first) (fun move before => before.trans (of_reseats move.reseats)) ?_
  exact of_same (.of_outputs first rfl rfl rfl rfl rfl rfl)

end Hires

end Moves

section Steps

variable {state next : SwaylockState} {occurrence : Occurrence}

theorem SamePlaces.of_retimed {first second : Scene} (kept : Retimed first second) : SamePlaces first second := by
  obtain ⟨_, _, _, rfl⟩ := kept
  exact ⟨rfl, rfl, fun _ => rfl, rfl, fun place => place_congr rfl rfl place, fun _ output present _ => ⟨output, present, id⟩⟩

theorem SamePlaces.of_indicated {first second : Scene} (indicated : Indicated first second) : SamePlaces first second := by
  obtain ⟨start, stop, early, draws, late⟩ := indicated
  have changes := draws.changes
  refine ((of_retimed early).trans ?_).trans (of_retimed late)
  clear early late draws
  induction changes with
  | refl => exact .of_outputs _ rfl rfl rfl rfl rfl rfl
  | step _ listed change ih =>
      refine ih.trans ?_
      cases change with
      | @output group id change kept =>
          have screen : group = .screen := by
            cases group with
            | screen => rfl
            | _ => simp at listed
          subst screen
          have service (output : SwaylockSurface) : (change output).service = output.service := by
            have masked := congrArg SwaylockSurface.service (kept output)
            exact masked
          refine .setOutput _ id (fun output => congrArg Service.client (service output)) fun output made => ?_
          exact (congrArg Service.created (service output)).trans made
      | armIndicator | disarm | tell => exact .of_outputs _ rfl rfl rfl rfl rfl rfl
      | _ => simp at listed

theorem PlaceGuard.step (guard : PlaceGuard none state.scene) (moved : Moved state.scene next.scene) :
    PlaceGuard none next.scene := by
  cases moved with
  | moves before moves after => exact (moves.places (guard.same (.of_retimed before))).same (.of_retimed after)
  | indicated indicated => exact guard.same (.of_indicated indicated)
  | tick now same =>
      rw [same]
      exact guard.same (.of_outputs _ rfl rfl rfl rfl rfl rfl)

theorem Hires.step (moved : Moved state.scene next.scene) : Hires state.scene next.scene := by
  cases moved with
  | moves before moves after =>
      exact ((of_same (.of_retimed before)).trans (of_moves moves)).trans (of_same (.of_retimed after))
  | indicated indicated => exact of_same (.of_indicated indicated)
  | tick now same =>
      rw [same]
      exact of_same (.of_outputs _ rfl rfl rfl rfl rfl rfl)

theorem placeGuard_initial (start : InitialState state) : PlaceGuard none state.scene := by
  obtain ⟨records, _, clients, main⟩ := start.plugins
  have nobody (place : Option OutputId) : state.scene.place place = none := by
    cases place with
    | none => exact main
    | some id =>
        change (state.scene.outputs.cell id).bind _ = none
        rw [start.outputs.1]
        rfl
  have absent (id : BgClientId) : state.scene.bgClients.cell id = none := by
    rw [records]
    rfl
  refine ⟨by rw [clients]; exact List.nodup_nil, fun id => ?_, fun id _ present => ?_, fun place _ served => ?_,
    fun place _ served => ?_, fun id _ present => ?_, fun id _ _ _ present => ?_, fun id _ present => ?_⟩
  · simp [clients, Heap.live, absent]
  · cases (absent id).symm.trans present
  · cases (nobody place).symm.trans served
  · cases (nobody place).symm.trans served
  · rw [start.outputs.1] at present
    cases present
  · cases (absent id).symm.trans present
  · cases (absent id).symm.trans present

theorem placeGuard_of_reachable (reachable : swaylock.machine.Reachable state) : PlaceGuard none state.scene := by
  refine reachable.invariant (fun state => PlaceGuard none state.scene) ?_ ?_
  · exact fun _ start => placeGuard_initial start
  · exact fun _ _ _ guard moved => guard.step (moved_of_step moved)

end Steps

end SwaylockPlugin
