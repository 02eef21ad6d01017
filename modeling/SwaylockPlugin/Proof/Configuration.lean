import SwaylockPlugin.Proof.Options

namespace SwaylockPlugin.Options

open Library Images Listener ParseColor

variable {Surface : Type} {system : System Surface} {order : OperandOrder} {destination : Destination Surface}

section Front

theorem applyOptions_append (first second : List (Found OptionCode)) :
    applyOptions system (first ++ second) destination = (do
      let (status, next) ← applyOptions system first destination
      if status = 0 then applyOptions system second next else return (status, next)) := by
  induction first generalizing destination with
  | nil => rfl
  | cons found first ih =>
      cases found with
      | error | operand _ => rfl
      | option code arg =>
          change (applyOption system code (arg.getD []) destination >>= fun result => if result.1 = 0 then _ else _) =
            (applyOption system code (arg.getD []) destination >>= fun result => if result.1 = 0 then _ else _) >>= _
          rw [bind_assoc]
          congr 1
          funext result
          split
          · exact ih
          · rename_i stopped
            exact (if_neg stopped).symm

theorem options_of_applied {found : List (Found OptionCode)} {next : Destination Surface}
    (applied : applyOptions system found destination = .ok (0, next)) :
    ∀ one ∈ found, ∃ code arg, one = .option code arg := by
  induction found generalizing destination with
  | nil => exact fun one member => absurd member List.not_mem_nil
  | cons first found ih =>
      cases first with
      | error | operand _ => cases applied
      | option code arg =>
          obtain ⟨⟨status, middle⟩, _, rest⟩ := bind_ok.mp applied
          dsimp only at rest
          split at rest
          · intro one member
            rcases List.mem_cons.mp member with rfl | later
            · exact ⟨code, arg, rfl⟩
            · exact ih rest one later
          · rename_i stopped
            cases rest
            exact absurd rfl stopped

/-- A line counts when it is neither empty nor a comment. -/
def counts (line : CString) : Bool := !(line.isEmpty || line.head? == some 35)

/-- A line that counts becomes a long option. -/
def lineFlag (line : CString) : CString := [45, 45] ++ line

/-- The options of a file are those of its lines that count. -/
def foundIn (order : OperandOrder) (lines : List CString) : List (Found OptionCode) :=
  (lines.filter counts).flatMap fun line => optionTable.scan order none [lineFlag line]

/-- The loop of `load_config` is the loop of `parse_options` over the options of the file. -/
theorem loadLines_eq (lines : List CString) :
    loadLines system order lines destination = applyOptions system (foundIn order lines) destination := by
  induction lines generalizing destination with
  | nil => rfl
  | cons line lines ih =>
      unfold loadLines
      by_cases skipped : line = [] ∨ line.head? = some 35
      · have idle : counts line = false := by
          rcases skipped with rfl | comment
          · rfl
          · simp [counts, comment]
        rw [if_pos skipped, ih]
        unfold foundIn
        rw [List.filter_cons_of_neg (by simp [idle])]
      · have counted : counts line = true := by
          rw [not_or] at skipped
          simp [counts, skipped.1, skipped.2]
        rw [if_neg skipped]
        unfold foundIn
        rw [List.filter_cons_of_pos counted, List.flatMap_cons, applyOptions_append]
        unfold parseOptions lineFlag
        congr 1
        funext result
        dsimp only
        split
        · exact ih
        · rfl

/-- For every list of lines there is a command line, which consists of the first lines that count, that does what
loading the lines does. -/
theorem flags_of_lines (system : System Surface) (order : OperandOrder) (destination : Destination Surface)
    (lines : List CString) :
    ∃ flags, flags <+: (lines.filter counts).map lineFlag ∧
      parseOptions system order flags destination = loadLines system order lines destination := by
  induction lines generalizing destination with
  | nil => exact ⟨[], List.nil_prefix, rfl⟩
  | cons line lines ih =>
      unfold loadLines
      by_cases skipped : line = [] ∨ line.head? = some 35
      · have idle : counts line = false := by
          rcases skipped with rfl | comment
          · rfl
          · simp [counts, comment]
        rw [if_pos skipped, List.filter_cons_of_neg (by simp [idle])]
        exact ih destination
      · have counted : counts line = true := by
          rw [not_or] at skipped
          simp [counts, skipped.1, skipped.2]
        rw [if_neg skipped, List.filter_cons_of_pos counted, List.map_cons]
        have alone : [lineFlag line] <+: lineFlag line :: (lines.filter counts).map lineFlag :=
          List.prefix_append [lineFlag line] _
        cases parsed : parseOptions system order [lineFlag line] destination with
        | error halt =>
            refine ⟨[lineFlag line], alone, parsed.trans ?_⟩
            unfold lineFlag at parsed
            rw [parsed]
            rfl
        | ok result =>
            obtain ⟨status, next⟩ := result
            by_cases passed : status = 0
            · subst passed
              obtain ⟨flags, prefix_, same⟩ := ih next
              refine ⟨lineFlag line :: flags, List.cons_prefix_cons.mpr ⟨rfl, prefix_⟩, ?_⟩
              rw [not_or] at skipped
              have sound : .error ∉ optionTable.scan order none [lineFlag line] := by
                intro member
                obtain ⟨code, arg, same⟩ := options_of_applied parsed _ member
                cases same
              have whole : optionTable.scan order none (lineFlag line :: flags) =
                  optionTable.scan order none [lineFlag line] ++ optionTable.scan order none flags :=
                OptionTable.scan_long_append skipped.1 sound flags
              unfold parseOptions at parsed same ⊢
              rw [whole, applyOptions_append, parsed]
              unfold lineFlag at parsed
              rw [parsed]
              exact same
            · refine ⟨[lineFlag line], alone, parsed.trans ?_⟩
              unfold lineFlag at parsed
              rw [parsed]
              exact (if_neg passed).symm

/-- For every file there is a command line, which consists of its first lines that count, that sets what loading the
file sets. -/
theorem command_line_of_config (system : System Surface) (order : OperandOrder) {path text : CString}
    (written : system.readFile path = some text) (destination : Destination Surface) :
    ∃ flags, flags <+: ((getLines text).filter counts).map lineFlag ∧
      loadConfig system order path destination =
        (parseOptions system order flags destination).map fun result => (0, result.2) := by
  obtain ⟨flags, first, same⟩ := flags_of_lines system order destination (getLines text)
  refine ⟨flags, first, ?_⟩
  unfold loadConfig
  rw [written, same]
  dsimp only
  cases loadLines system order (getLines text) destination <;> rfl

end Front

section Back

/-- An option is written on a line with its long name. -/
def configLine : Found OptionCode → CString
  | .error | .operand _ => []
  | .option code arg =>
      ((longOptions.find? (·.code == code)).map LongOption.name).getD [] ++ (arg.map (61 :: ·)).getD []

/-- Options are written on lines of their own. -/
def configText (found : List (Found OptionCode)) : CString := found.flatMap fun option => configLine option ++ [10]

theorem longOptions_plain : ∀ option ∈ longOptions,
    option.name.head? ≠ some 35 ∧ 10 ∉ option.name ∧ 0 ∉ option.name := by decide +kernel

theorem find_listed {code : OptionCode} {hasArg : Bool} (listed : optionTable.Listed code hasArg) :
    ∃ option ∈ longOptions, longOptions.find? (·.code == code) = some option ∧ option.code = code ∧
      option.hasArg = hasArg := by
  obtain ⟨option, member, rfl, rfl⟩ := listed
  exact ⟨option, member, find_key longOptions_distinct member, rfl, rfl⟩

/-- An option can be written on a line when it is listed and its argument has no line end and no null byte. -/
def Written (found : Found OptionCode) : Prop :=
  ∃ code arg, found = .option code arg ∧ optionTable.Listed code arg.isSome ∧
    ∀ value, arg = some value → 10 ∉ value ∧ 0 ∉ value

theorem configLine_plain (order : OperandOrder) {found : Found OptionCode} (written : Written found) :
    10 ∉ configLine found ∧ 0 ∉ configLine found ∧ counts (configLine found) = true ∧
      optionTable.scan order none [lineFlag (configLine found)] = [found] := by
  obtain ⟨code, arg, rfl, listed, plain⟩ := written
  obtain ⟨option, member, found, rfl, arity⟩ := find_listed listed
  obtain ⟨comment, line, null⟩ := longOptions_plain option member
  obtain ⟨filled, _⟩ := optionTable_named.plain option member
  have line_ : configLine (.option option.code arg) = option.name ++ (arg.map (61 :: ·)).getD [] := by
    dsimp only [configLine]
    rw [found, Option.map_some, Option.getD_some]
  rw [line_]
  have value {byte : UInt8} (apart : byte ≠ 61) (free : ∀ value, arg = some value → byte ∉ value) :
      byte ∉ (arg.map (61 :: ·)).getD [] := by
    cases arg with
    | none => exact List.not_mem_nil
    | some value =>
        intro member
        rcases List.mem_cons.mp member with same | later
        · exact apart same
        · exact free value rfl later
  refine ⟨?_, ?_, ?_, ?_⟩
  · rw [List.mem_append, not_or]
    exact ⟨line, value (by decide) fun _ same => (plain _ same).1⟩
  · rw [List.mem_append, not_or]
    exact ⟨null, value (by decide) fun _ same => (plain _ same).2⟩
  · obtain ⟨byte, bytes, same⟩ := List.exists_cons_of_ne_nil filled
    rw [same, List.head?_cons] at comment
    rw [same, List.cons_append]
    simpa [counts] using fun equal => comment (congrArg some equal)
  · have flag : optionTable.scan order none [longFlag option.name arg] = [.option option.code arg] :=
      OptionTable.scan_longFlag optionTable_named member arity []
    unfold longFlag at flag
    rw [List.append_assoc] at flag
    exact flag

theorem splitLines_line {line : CString} (plain : 10 ∉ line) (rest : CString) :
    splitLines (line ++ 10 :: rest) = line :: splitLines rest := by
  induction line with
  | nil => rfl
  | cons byte line ih =>
      rw [List.mem_cons, not_or] at plain
      rw [List.cons_append, splitLines, if_neg (Ne.symm plain.1), ih plain.2]

theorem getLines_configText {found : List (Found OptionCode)} (written : ∀ option ∈ found, Written option) :
    getLines (configText found) = found.map configLine := by
  induction found with
  | nil => rfl
  | cons option found ih =>
      rw [List.forall_mem_cons] at written
      obtain ⟨line, null, _, _⟩ := configLine_plain .permute written.1
      have rest := ih written.2
      unfold getLines configText at rest ⊢
      rw [List.flatMap_cons, List.append_assoc, List.singleton_append, splitLines_line line, List.map_cons, rest,
        List.map_cons, List.takeWhile_eq_self_iff.mpr]
      intro byte member
      rw [bne_iff_ne]
      rintro rfl
      exact null member

theorem foundIn_configLines {found : List (Found OptionCode)} (written : ∀ option ∈ found, Written option) :
    foundIn order (found.map configLine) = found := by
  induction found with
  | nil => rfl
  | cons option found ih =>
      rw [List.forall_mem_cons] at written
      obtain ⟨_, _, counted, read⟩ := configLine_plain order written.1
      have rest := ih written.2
      unfold foundIn at rest ⊢
      rw [List.map_cons, List.filter_cons_of_pos counted, List.flatMap_cons, rest, read, List.singleton_append]

theorem written_of_parsed {args : List CString} {next : Destination Surface}
    (parsed : parseOptions system order args destination = .ok (0, next)) (plain : ∀ arg ∈ args, 10 ∉ arg ∧ 0 ∉ arg) :
    ∀ option ∈ optionTable.scan order none args, Written option := by
  intro option member
  obtain ⟨code, arg, rfl⟩ := options_of_applied parsed option member
  refine ⟨code, arg, rfl, ?_, ?_⟩
  · exact OptionTable.scan_listed optionTable_spelled (fun _ none_ => by cases none_) args code arg member
  · rintro value rfl
    obtain ⟨whole, among, suffix⟩ := OptionTable.scan_suffix member
    obtain ⟨line, null⟩ := plain whole among
    exact ⟨fun inside => line (suffix.mem inside), fun inside => null (suffix.mem inside)⟩

/-- For every command line that is accepted, a file with its options on lines of their own sets the same. -/
theorem config_of_command_line {args : List CString} {path : CString} {final : Destination Surface}
    (parsed : parseOptions system order args destination = .ok (0, final)) (plain : ∀ arg ∈ args, 10 ∉ arg ∧ 0 ∉ arg)
    (saved : system.readFile path = some (configText (optionTable.scan order none args))) :
    loadConfig system order path destination = .ok (0, final) := by
  have written := written_of_parsed parsed plain
  unfold loadConfig
  rw [saved]
  dsimp only
  rw [getLines_configText written, loadLines_eq, foundIn_configLines written]
  unfold parseOptions at parsed
  rw [parsed]
  rfl

end Back

end SwaylockPlugin.Options
