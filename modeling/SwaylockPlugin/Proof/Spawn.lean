import SwaylockPlugin.Construction.Spawn

namespace SwaylockPlugin.Spawn

open Library

/-- The calls in front of `posix_spawnp` do not stop the start of a process. -/
def SpawnCalls.reaches (calls : SpawnCalls) : Bool :=
  calls.attrInit == 0 && calls.attrSetsigdefault == 0 && calls.attrSetflags == 0 && calls.calloc

/-- A run gets to the record of a client when no other call stops it than `posix_spawnp`. -/
def RunCalls.registers (calls : RunCalls) : Bool :=
  calls.socketpair.isSome && calls.setCloexec && calls.spawn.reaches && calls.calloc

/-- A run that gets to the record of a client creates a process. -/
def creates (_ : PluginState) : SpawnEvent → Bool
  | .run _ calls => !calls.registers || calls.spawn.spawnp == 0
  | .pause _ _ _ => true
  | .cleanup _ _ => true

section Runs

variable {state : PluginState}

/-- A process is handed out whenever `posix_spawnp` was called, as an error number is never negative. -/
theorem spawnCommand_eq (calls : SpawnCalls) :
    state.spawnCommand calls =
      if calls.reaches then (some calls.pid, state.posixSpawnp calls) else (none, state) := by
  have init : ¬ (calls.fileActionsInit : Int) = -1 := by omega
  have addclose : ¬ (calls.fileActionsAddclose : Int) = -1 := by omega
  have spawnp : ¬ (calls.spawnp : Int) = -1 := by omega
  unfold PluginState.spawnCommand SpawnCalls.reaches
  rw [if_neg init, if_neg addclose, if_neg spawnp]
  by_cases attrInit : calls.attrInit = 0 <;> by_cases attrSetsigdefault : calls.attrSetsigdefault = 0 <;>
    by_cases attrSetflags : calls.attrSetflags = 0 <;> cases calls.calloc <;>
    simp [attrInit, attrSetsigdefault, attrSetflags]

/-- A run is refused and closes both ends, or it is started and leaves a record with its own end. -/
inductive RunResult (state : PluginState) (output : Option ℕ) (calls : RunCalls) : Bool × PluginState → Prop
  | refused {next : PluginState} (stopped : calls.registers = false) (clients : next.clients = state.clients)
      (sockets : next.sockets = state.sockets) (signalled : next.signalled = state.signalled)
      (children : state.children ⊆ next.children) : RunResult state output calls (false, next)
  | started {next : PluginState} (own : ℕ) (passed : calls.registers = true)
      (clients : next.clients = ⟨calls.spawn.pid, false, own, output⟩ :: state.clients)
      (sockets : next.sockets = own :: state.sockets) (signalled : next.signalled = state.signalled)
      (children : next.children = (state.posixSpawnp calls.spawn).children) :
      RunResult state output calls (true, next)

theorem posixSpawnp_keeps (state : PluginState) (calls : SpawnCalls) :
    (state.posixSpawnp calls).clients = state.clients ∧ (state.posixSpawnp calls).sockets = state.sockets ∧
      (state.posixSpawnp calls).signalled = state.signalled ∧
      state.children ⊆ (state.posixSpawnp calls).children := by
  unfold PluginState.posixSpawnp
  split
  · exact ⟨rfl, rfl, rfl, List.subset_cons_self _ _⟩
  · exact ⟨rfl, rfl, rfl, List.Subset.refl _⟩

theorem runPluginCommand_result {output : Option ℕ} {calls : RunCalls} {result : Bool × PluginState}
    (ran : state.runPluginCommand output calls = .ok result) : RunResult state output calls result := by
  unfold PluginState.runPluginCommand at ran
  split at ran
  · rename_i nothing
    cases ran
    exact .refused (by simp [RunCalls.registers, nothing]) rfl rfl rfl (List.Subset.refl _)
  · rename_i child own pair
    have registers : calls.registers = (calls.setCloexec && calls.spawn.reaches && calls.calloc) := by
      simp [RunCalls.registers, pair]
    have closed : ((child :: own :: state.sockets).erase child).erase own = state.sockets := by simp
    have kept : (child :: own :: state.sockets).erase child = own :: state.sockets := by simp
    dsimp only at ran
    rw [spawnCommand_eq] at ran
    cases cloexec : calls.setCloexec with
    | false =>
        simp only [cloexec, Bool.not_false, if_true] at ran
        cases ran
        exact .refused (by simp [registers, cloexec]) rfl closed rfl (List.Subset.refl _)
    | true =>
        simp only [cloexec, Bool.not_true, Bool.false_eq_true, if_false] at ran
        cases reached : calls.spawn.reaches with
        | false =>
            simp only [reached, Bool.false_eq_true, if_false] at ran
            cases ran
            exact .refused (by simp [registers, reached]) rfl closed rfl (List.Subset.refl _)
        | true =>
            simp only [reached, if_true] at ran
            obtain ⟨clients, sockets, signalled, children⟩ :=
              posixSpawnp_keeps { state with sockets := child :: own :: state.sockets } calls.spawn
            cases calloc : calls.calloc with
            | false =>
                simp only [calloc, Bool.not_false, if_true] at ran
                cases ran
                refine .refused (by simp [registers, calloc]) clients ?_ signalled children
                change (List.erase _ _).erase _ = _
                rw [sockets]
                exact closed
            | true =>
                simp only [calloc, Bool.not_true, Bool.false_eq_true, if_false] at ran
                obtain ⟨_, _, done⟩ := bind_ok.mp ran
                cases done
                refine .started own (by simp [registers, cloexec, reached, calloc]) ?_ ?_ signalled ?_
                · exact congrArg (_ :: ·) clients
                · change List.erase _ _ = _
                  rw [sockets]
                  exact kept
                · change (PluginState.posixSpawnp _ _).children = _
                  unfold PluginState.posixSpawnp
                  split <;> rfl

/-- A run answers as documented: it returns true only with a new process, which the new record names, and otherwise it
leaves no record and no open end. -/
structure Answered (state : PluginState) (result : Bool × PluginState) : Prop where
  started : result.1 = true → ∃ child client, result.2.children = child :: state.children ∧
    result.2.clients = client :: state.clients ∧ client.pid = child
  refused : result.1 = false → result.2.clients = state.clients ∧ result.2.sockets = state.sockets

/-- A run answers as documented exactly when `posix_spawnp` succeeds, or another call stops it. -/
theorem answered_iff {output : Option ℕ} {calls : RunCalls} {result : Bool × PluginState}
    (ran : state.runPluginCommand output calls = .ok result) :
    Answered state result ↔ (calls.registers = true → calls.spawn.spawnp = 0) := by
  cases runPluginCommand_result ran with
  | refused stopped clients sockets =>
      refine iff_of_true ⟨?_, fun _ => ⟨clients, sockets⟩⟩ ?_
      · intro begun
        cases begun
      · intro passed
        rw [stopped] at passed
        cases passed
  | started own passed clients sockets signalled children =>
      unfold PluginState.posixSpawnp at children
      by_cases success : calls.spawn.spawnp = 0
      · rw [if_pos success] at children
        refine iff_of_true ⟨fun _ => ⟨_, _, children, clients, rfl⟩, ?_⟩ fun _ => success
        intro stopped
        cases stopped
      · rw [if_neg success] at children
        refine iff_of_false ?_ fun condition => success (condition passed)
        intro answered
        obtain ⟨child, _, created, _⟩ := answered.started rfl
        rw [children] at created
        exact List.cons_ne_self _ _ created.symm

end Runs

/-- The records name processes that were created for plugins, and only groups of these were signalled. -/
structure OwnGroups (state : PluginState) : Prop where
  clients : ∀ client ∈ state.clients, client.pid ∈ state.children
  signalled : ∀ group ∈ state.signalled, group ∈ state.children

namespace OwnGroups

variable {state : PluginState}

theorem run (groups : OwnGroups state) {output : Option ℕ} {calls : RunCalls} {result : Bool × PluginState}
    (ran : state.runPluginCommand output calls = .ok result)
    (created : calls.registers = true → calls.spawn.spawnp = 0) : OwnGroups result.2 := by
  cases runPluginCommand_result ran with
  | refused _ clients _ signalled children =>
      constructor
      · rw [clients]
        exact fun client member => children (groups.clients client member)
      · rw [signalled]
        exact fun group member => children (groups.signalled group member)
  | started own passed clients _ signalled children =>
      unfold PluginState.posixSpawnp at children
      rw [if_pos (created passed)] at children
      constructor
      · rw [clients, children]
        intro client member
        rcases List.mem_cons.mp member with rfl | earlier
        · exact List.mem_cons_self
        · exact List.mem_cons_of_mem _ (groups.clients client earlier)
      · rw [signalled, children]
        exact fun group member => List.mem_cons_of_mem _ (groups.signalled group member)

theorem pause (groups : OwnGroups state) (index : ℕ) (paused delivered : Bool) :
    OwnGroups (state.setClientPaused index paused delivered) := by
  unfold PluginState.setClientPaused
  split
  · exact groups
  · rename_i client here
    have own : client.pid ∈ state.children := groups.clients client (List.mem_of_getElem? here)
    have signalled : ∀ group ∈ client.pid :: state.signalled, group ∈ state.children := by
      intro group member
      rcases List.mem_cons.mp member with rfl | earlier
      · exact own
      · exact groups.signalled group earlier
    split
    · exact groups
    · dsimp only
      split
      · refine ⟨fun other member => ?_, signalled⟩
        rcases List.mem_or_eq_of_mem_set member with earlier | rfl
        · exact groups.clients other earlier
        · exact own
      · exact ⟨groups.clients, signalled⟩

theorem cleanup (groups : OwnGroups state) (index : ℕ) (delivered : Bool) :
    OwnGroups (state.cleanupClient index delivered) := by
  have resumed := groups.pause index false delivered
  unfold PluginState.cleanupClient
  dsimp only
  split
  · exact resumed
  · exact ⟨fun client member => resumed.clients client (List.mem_of_mem_eraseIdx member), resumed.signalled⟩

end OwnGroups

/-- Where each run that gets to a record creates a process, all records and signals keep to processes of plugins, and a
further run answers as documented exactly when it is such a run. -/
theorem plugins_own {state : PluginState} (reachable : (plugins.machine.guarded creates).Reachable state) :
    OwnGroups state ∧ ∀ (output : Option ℕ) (calls : RunCalls) (result : Bool × PluginState),
      state.runPluginCommand output calls = .ok result →
        (Answered state result ↔ (calls.registers = true → calls.spawn.spawnp = 0)) := by
  refine ⟨?_, fun output calls result ran => answered_iff ran⟩
  refine reachable.invariant OwnGroups ?_ ?_
  · rintro _ rfl
    exact ⟨fun _ member => absurd member List.not_mem_nil, fun _ member => absurd member List.not_mem_nil⟩
  · rintro state event next groups ⟨⟨_, handled⟩, allowed⟩
    cases event with
    | run output calls =>
        have created : calls.registers = true → calls.spawn.spawnp = 0 := by
          intro passed
          simpa [creates, passed] using allowed
        obtain ⟨result, ran, done⟩ := bind_ok.mp handled
        cases done
        exact groups.run ran created
    | pause index paused delivered =>
        cases handled
        exact groups.pause index paused delivered
    | cleanup index delivered =>
        cases handled
        exact groups.cleanup index delivered

/-- All calls of a run succeed and create a process. -/
def success (pid : Int) : RunCalls := ⟨some (4, 5), true, ⟨0, 0, 0, 0, 0, true, 0, pid⟩, true⟩

/-- A plugin is started, stopped and resumed. -/
theorem plugins_own_resumed : ∃ state : PluginState, state.signalled = [4711, 4711] ∧ OwnGroups state := by
  obtain ⟨state, reachable, passed⟩ := plugins.play_guarded creates
    [.run none (success 4711), .pause 0 true true, .pause 0 false true] (fun state => state.signalled == [4711, 4711])
    rfl (by decide +kernel)
  exact ⟨state, eq_of_beq passed, (plugins_own reachable).1⟩

/-- Where `posix_spawnp` does not find the shell, the run returns true, and a pause signals whatever group the variable
happens to name. -/
theorem missing_shell_signals :
    ¬ ∀ state : PluginState, plugins.machine.Reachable state → OwnGroups state ∧
      ∀ (output : Option ℕ) (calls : RunCalls) (result : Bool × PluginState),
        state.runPluginCommand output calls = .ok result → Answered state result := by
  intro own
  obtain ⟨state, reachable, passed⟩ := plugins.play_reachable
    [.run none ⟨some (4, 5), true, ⟨0, 0, 0, 0, 0, true, 2, 4711⟩, true⟩, .pause 0 true true]
    (fun state => state.signalled == [4711] && state.children == []) rfl (by decide +kernel)
  obtain ⟨signalled, children⟩ := Bool.and_eq_true_iff.mp passed
  have group := (own state reachable).1.signalled 4711 (by simp [eq_of_beq signalled])
  rw [eq_of_beq children] at group
  exact absurd group List.not_mem_nil

end SwaylockPlugin.Spawn
