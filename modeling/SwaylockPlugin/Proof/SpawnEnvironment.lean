import SwaylockPlugin.Construction.Spawn
import Mathlib.Algebra.Group.Nat.Defs

namespace SwaylockPlugin.Spawn

open Library Images

theorem strncmp_eq_zero (name entry : CString) : strncmp name.length entry name = 0 ↔ name <+: entry := by
  induction name generalizing entry with
  | nil => simp [strncmp]
  | cons two name ih =>
      cases entry with
      | nil => simp [strncmp]
      | cons one entry =>
          rw [List.length_cons, strncmp, List.cons_prefix_cons]
          by_cases same : one = two
          · rw [if_pos same, ih, and_iff_right same.symm]
          · rw [if_neg same]
            split <;> simp [Ne.symm same]

theorem drop_iff {entry : CString} : drop entry = true ↔ ∃ name ∈ skip, name <+: entry := by
  simp only [drop, List.any_eq_true, beq_iff_eq, strncmp_eq_zero]

/-- The name of an entry comes in front of the equality sign. -/
def entryName (entry : CString) : CString := entry.takeWhile (· != 61)

/-- This is the environment for a plugin: the entries with other names, the connection, and the name and the description
of the output as far as they are given. -/
def documentedEnvironment (environ : List CString) (sockChild : Int32) (outputName outputDesc : Option CString) :
    List CString :=
  (environ.filter fun entry => !skip.contains (entryName entry)) ++
    [ascii "WAYLAND_SOCKET=" ++ decimal sockChild.toInt] ++
    (outputName.map (ascii "SWAYLOCK_PLUGIN_OUTPUT_NAME=" ++ ·)).toList ++
    (outputDesc.map (ascii "SWAYLOCK_PLUGIN_OUTPUT_DESC=" ++ ·)).toList

theorem entryName_prefix (entry : CString) : entryName entry <+: entry := List.takeWhile_prefix _

theorem foldl_push (environ : List CString) (envp : ProgEnvp) :
    environ.foldl (fun envp entry => if drop entry then envp else envp.push entry) envp =
      { envp with entries := envp.entries ++ environ.filter fun entry => !drop entry } := by
  induction environ generalizing envp with
  | nil => simp
  | cons entry environ ih =>
      rw [List.foldl_cons, ih]
      cases dropped : drop entry <;> simp [dropped, ProgEnvp.push]

theorem decimal_length (value : Int32) : (decimal value.toInt).length ≤ 11 := by
  have digits : (Nat.toDigits 10 value.toInt.natAbs).length ≤ 10 := by
    rw [Nat.length_toDigits_le_iff (by decide) (by decide)]
    have low := value.le_toInt
    have high := value.toInt_lt
    omega
  unfold decimal
  dsimp only
  split <;> simp <;> omega

theorem snprintf_socket (sockChild : Int32) :
    snprintf 32 (ascii "WAYLAND_SOCKET=" ++ decimal sockChild.toInt) =
      ascii "WAYLAND_SOCKET=" ++ decimal sockChild.toInt := by
  apply List.take_of_length_le
  have known : (ascii "WAYLAND_SOCKET=").length = 15 := by decide
  have digits := decimal_length sockChild
  rw [List.length_append]
  omega

theorem snprintf_eq_self {size : ℕ} {text : CString} : snprintf size text = text ↔ text.length ≤ size - 1 := by
  constructor
  · intro whole
    rw [← whole]
    exact List.length_take_le _ _
  · exact List.take_of_length_le

/-- The entries for the output are written when both are given. -/
def outputEntries : Option CString → Option CString → List CString
  | some name, some desc => [snprintf 256 (ascii "SWAYLOCK_PLUGIN_OUTPUT_NAME=" ++ name),
      snprintf 256 (ascii "SWAYLOCK_PLUGIN_OUTPUT_DESC=" ++ desc)]
  | _, _ => []

theorem progEnvp_entries (environ : List CString) (sockChild : Int32) (outputName outputDesc : Option CString) :
    (progEnvp environ sockChild outputName outputDesc).entries = (environ.filter fun entry => !drop entry) ++
      (ascii "WAYLAND_SOCKET=" ++ decimal sockChild.toInt) :: outputEntries outputName outputDesc := by
  unfold progEnvp
  rw [foldl_push, snprintf_socket]
  cases outputName <;> cases outputDesc <;> simp [outputEntries, ProgEnvp.push]

theorem progEnvp_size (environ : List CString) (sockChild : Int32) (outputName outputDesc : Option CString) :
    (progEnvp environ sockChild outputName outputDesc).size = environ.length + 4 := by
  unfold progEnvp
  rw [foldl_push]
  cases outputName <;> cases outputDesc <;> rfl

theorem outputEntries_length (outputName outputDesc : Option CString) :
    (outputEntries outputName outputDesc).length ≤ 2 := by
  cases outputName <;> cases outputDesc <;> simp [outputEntries]

theorem progEnvp_room (environ : List CString) (sockChild : Int32) (outputName outputDesc : Option CString) :
    (progEnvp environ sockChild outputName outputDesc).entries.length <
      (progEnvp environ sockChild outputName outputDesc).size := by
  have kept := List.length_filter_le (fun entry => !drop entry) environ
  have output := outputEntries_length outputName outputDesc
  rw [progEnvp_entries, progEnvp_size, List.length_append, List.length_cons]
  omega

/-- No entry begins with one of the names and goes on to another name. -/
def NoLongerNames (environ : List CString) : Prop :=
  ∀ entry ∈ environ, ∀ name ∈ skip, name <+: entry → entryName entry ∈ skip

theorem drop_of_name {entry : CString} (named : entryName entry ∈ skip) : drop entry = true :=
  drop_iff.mpr ⟨_, named, entryName_prefix entry⟩

theorem filter_drop_eq {environ : List CString} :
    (environ.filter fun entry => !drop entry) = (environ.filter fun entry => !skip.contains (entryName entry)) ↔
      NoLongerNames environ := by
  constructor
  · intro same entry member name listed front
    by_contra other
    have kept : entry ∈ environ.filter fun entry => !skip.contains (entryName entry) :=
      List.mem_filter.mpr ⟨member, by simpa using other⟩
    rw [← same] at kept
    have dropped : drop entry = true := drop_iff.mpr ⟨name, listed, front⟩
    have stays := (List.mem_filter.mp kept).2
    rw [dropped] at stays
    cases stays
  · intro listedOnly
    apply List.filter_congr
    intro entry member
    rw [Bool.not_inj_iff, Bool.eq_iff_iff, List.contains_iff_mem]
    constructor
    · intro dropped
      obtain ⟨name, listed, front⟩ := drop_iff.mp dropped
      exact listedOnly entry member name listed front
    · exact drop_of_name

theorem filter_drop_length (environ : List CString) :
    (environ.filter fun entry => !drop entry).length ≤
      (environ.filter fun entry => !skip.contains (entryName entry)).length := by
  refine (List.monotone_filter_right environ ?_).length_le
  intro entry kept
  by_contra other
  have named : entryName entry ∈ skip := by simpa using other
  rw [drop_of_name named] at kept
  cases kept

theorem outputEntries_eq {outputName outputDesc : Option CString} :
    outputEntries outputName outputDesc = (outputName.map (ascii "SWAYLOCK_PLUGIN_OUTPUT_NAME=" ++ ·)).toList ++
        (outputDesc.map (ascii "SWAYLOCK_PLUGIN_OUTPUT_DESC=" ++ ·)).toList ↔
      outputName.isSome = outputDesc.isSome ∧ (∀ name ∈ outputName, name.length ≤ 227) ∧
        ∀ desc ∈ outputDesc, desc.length ≤ 227 := by
  have first : (ascii "SWAYLOCK_PLUGIN_OUTPUT_NAME=").length = 28 := by decide
  have second : (ascii "SWAYLOCK_PLUGIN_OUTPUT_DESC=").length = 28 := by decide
  cases outputName with
  | none => cases outputDesc <;> simp [outputEntries]
  | some name =>
      cases outputDesc with
      | none => simp [outputEntries]
      | some desc =>
          simp only [outputEntries, Option.map_some, Option.toList_some, List.cons_append, List.nil_append,
            List.cons.injEq, and_true, snprintf_eq_self, List.length_append, first, second, Option.isSome_some,
            Option.mem_some_iff, forall_eq', true_and]
          omega

/-- The plugin gets the documented environment in its array exactly when no entry begins with one of the names and goes
on to another name, the name and the description of the output are both given or both missing, and they fit. -/
theorem progEnvp_documented (environ : List CString) (sockChild : Int32) (outputName outputDesc : Option CString) :
    ((progEnvp environ sockChild outputName outputDesc).entries =
        documentedEnvironment environ sockChild outputName outputDesc ∧
      (progEnvp environ sockChild outputName outputDesc).entries.length <
        (progEnvp environ sockChild outputName outputDesc).size) ↔
      NoLongerNames environ ∧ outputName.isSome = outputDesc.isSome ∧ (∀ name ∈ outputName, name.length ≤ 227) ∧
        ∀ desc ∈ outputDesc, desc.length ≤ 227 := by
  rw [and_iff_left (progEnvp_room environ sockChild outputName outputDesc), ← outputEntries_eq, ← filter_drop_eq,
    progEnvp_entries, documentedEnvironment, List.append_assoc, List.append_assoc]
  constructor
  · intro same
    have shorter := filter_drop_length environ
    have fewer : (outputEntries outputName outputDesc).length ≤
        ((outputName.map (ascii "SWAYLOCK_PLUGIN_OUTPUT_NAME=" ++ ·)).toList ++
          (outputDesc.map (ascii "SWAYLOCK_PLUGIN_OUTPUT_DESC=" ++ ·)).toList).length := by
      cases outputName <;> cases outputDesc <;> simp [outputEntries]
    have lengths := congrArg List.length same
    simp only [List.length_append, List.length_cons, List.length_nil] at lengths fewer
    obtain ⟨kept, rest⟩ := List.append_inj same (by omega)
    exact ⟨kept, (List.cons.inj rest).2⟩
  · rintro ⟨kept, rest⟩
    rw [kept, rest]
    rfl

/-- A variable whose name only begins with `DISPLAY` is lost. -/
theorem longer_name_dropped :
    ¬ ∀ (environ : List CString) (sockChild : Int32) (outputName outputDesc : Option CString),
      (progEnvp environ sockChild outputName outputDesc).entries =
          documentedEnvironment environ sockChild outputName outputDesc ∧
        (progEnvp environ sockChild outputName outputDesc).entries.length <
          (progEnvp environ sockChild outputName outputDesc).size := by
  intro documented
  have same := (documented [ascii "DISPLAY_MANAGER=x"] 5 none none).1
  exact absurd same (by decide +kernel)

end SwaylockPlugin.Spawn
