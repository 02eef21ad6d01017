import Mathlib.Data.List.Nodup
import Mathlib.Data.List.TakeWhile

namespace SwaylockPlugin.Library

/-- A short option has a letter, and it may need an argument. -/
structure ShortOption (Code : Type) where
  letter : UInt8
  hasArg : Bool
  code : Code

/-- A long option has a name, and it may need an argument. -/
structure LongOption (Code : Type) where
  name : List UInt8
  hasArg : Bool
  code : Code

/-- The options of a program have letters and names. -/
structure OptionTable (Code : Type) where
  short : List (ShortOption Code)
  long : List (LongOption Code)

/-- A scan passes over operands, ends at the first one, or finds each of them in its place. -/
inductive OperandOrder where
  | permute
  | requireOrder
  | returnInOrder
  deriving DecidableEq

/-- A scan finds options with their arguments, operands, and errors. -/
inductive Found (Code : Type) where
  | option (code : Code) (arg : Option (List UInt8))
  | operand (arg : List UInt8)
  | error
  deriving DecidableEq

/-- The part of a long option before the equals sign is its name. -/
def optionName (text : List UInt8) : List UInt8 := text.takeWhile (· != 61)

/-- The part of a long option behind the equals sign is its argument. -/
def optionValue (text : List UInt8) : Option (List UInt8) :=
  match text.dropWhile (· != 61) with
  | [] => none
  | _ :: value => some value

/-- A long option is written with its name, and with an equals sign before its argument. -/
def longFlag (name : List UInt8) (arg : Option (List UInt8)) : List UInt8 :=
  [45, 45] ++ name ++ (arg.map (61 :: ·)).getD []

namespace OptionTable

variable {Code : Type} [DecidableEq Code] (table : OptionTable Code)

/-- A name selects the option with this name, or else the only one whose name it abbreviates. -/
def findLong (name : List UInt8) : Option (LongOption Code) :=
  match table.long.find? fun option => option.name == name with
  | some option => some option
  | none =>
      match table.long.filter fun option => name.isPrefixOf option.name with
      | [] => none
      | option :: others =>
          if others.all fun other => other.hasArg == option.hasArg && other.code == option.code then some option
          else none

/-- A long option is found with its argument, or it waits for one. -/
def scanLong (text : List UInt8) : List (Found Code) × Option Code :=
  match table.findLong (optionName text) with
  | none => ([.error], none)
  | some option =>
      match optionValue text, option.hasArg with
      | some value, true => ([.option option.code (some value)], none)
      | some _, false => ([.error], none)
      | none, true => ([], some option.code)
      | none, false => ([.option option.code none], none)

/-- The letters of an argument are options until one of them takes the rest as its argument or waits for one. -/
def scanShort : List UInt8 → List (Found Code) × Option Code
  | [] => ([], none)
  | letter :: letters =>
      match table.short.find? fun option => option.letter == letter with
      | none => (.error :: (scanShort letters).1, (scanShort letters).2)
      | some option =>
          if option.hasArg then
            if letters.isEmpty then ([], some option.code) else ([.option option.code (some letters)], none)
          else (.option option.code none :: (scanShort letters).1, (scanShort letters).2)

/-- The scan ends behind two dashes, and the order says what it does at an operand. -/
def scan (order : OperandOrder) : Option Code → List (List UInt8) → List (Found Code)
  | none, [] => []
  | some _, [] => [.error]
  | some code, arg :: args => .option code (some arg) :: scan order none args
  | none, arg :: args =>
      match arg with
      | [45, 45] => []
      | 45 :: 45 :: text => (table.scanLong text).1 ++ scan order (table.scanLong text).2 args
      | 45 :: letter :: letters =>
          (table.scanShort (letter :: letters)).1 ++ scan order (table.scanShort (letter :: letters)).2 args
      | operand =>
          match order with
          | .permute => scan order none args
          | .requireOrder => []
          | .returnInOrder => .operand operand :: scan order none args

/-- A scan that starts again while letters of an argument are unread reads them in place of the first argument. -/
def resume (order : OperandOrder) : List UInt8 → List (List UInt8) → List (Found Code)
  | [], args => table.scan order none args
  | letters, args => (table.scanShort letters).1 ++ table.scan order (table.scanShort letters).2 (args.drop 1)

/-- The first letter that is an option leaves the letters behind it unread, unless they are its argument. -/
def leaveShort : List UInt8 → Option (Code × List UInt8)
  | [] => none
  | letter :: letters =>
      match table.short.find? fun option => option.letter == letter with
      | none => leaveShort letters
      | some option =>
          if option.hasArg then if letters.isEmpty then none else some (option.code, [])
          else some (option.code, letters)

/-- A scan that is left at its first option leaves letters of an argument unread. -/
def leave (order : OperandOrder) : Option Code → List (List UInt8) → Option (Code × List UInt8)
  | _, [] => none
  | some code, _ :: _ => some (code, [])
  | none, arg :: args =>
      match arg with
      | [45, 45] => none
      | 45 :: 45 :: text =>
          match table.scanLong text with
          | (.option code _ :: _, _) => some (code, [])
          | (_, waiting) => leave order waiting args
      | 45 :: letter :: letters =>
          match table.leaveShort (letter :: letters) with
          | some left => some left
          | none => leave order (table.scanShort (letter :: letters)).2 args
      | _ => if order = .requireOrder then none else leave order none args

/-- The names of the long options tell them apart, and none of them is empty or has an equals sign. -/
structure Named : Prop where
  distinct : (table.long.map LongOption.name).Nodup
  plain : ∀ option ∈ table.long, option.name ≠ [] ∧ 61 ∉ option.name

/-- Every short option has a long form. -/
def Spelled : Prop :=
  ∀ short ∈ table.short, ∃ long ∈ table.long, long.code = short.code ∧ long.hasArg = short.hasArg

/-- An option is listed when its long form takes an argument exactly where the option has one. -/
def Listed (code : Code) (hasArg : Bool) : Prop :=
  ∃ option ∈ table.long, option.code = code ∧ option.hasArg = hasArg

end OptionTable

theorem find_key {Item Key : Type} [BEq Key] [LawfulBEq Key] {key : Item → Key} {items : List Item}
    (distinct : (items.map key).Nodup) {item : Item} (member : item ∈ items) :
    items.find? (fun other => key other == key item) = some item := by
  have found : (items.find? fun other => key other == key item).isSome = true :=
    List.find?_isSome.mpr ⟨item, member, beq_self_eq_true _⟩
  obtain ⟨other, chosen⟩ := Option.isSome_iff_exists.mp found
  have same : key other = key item := beq_iff_eq.mp (List.find?_some chosen :)
  rw [chosen, List.inj_on_of_nodup_map distinct (List.mem_of_find?_eq_some chosen) member same]

theorem optionName_append {name : List UInt8} (plain : 61 ∉ name) (arg : Option (List UInt8)) :
    optionName (name ++ (arg.map (61 :: ·)).getD []) = name := by
  have kept : ∀ byte ∈ name, (byte != 61) = true := by
    intro byte member
    rw [bne_iff_ne]
    rintro rfl
    exact plain member
  unfold optionName
  rw [List.takeWhile_append_of_pos kept]
  cases arg with
  | none => exact List.append_nil name
  | some value =>
      rw [Option.map_some, Option.getD_some, List.takeWhile_cons_of_neg (by decide), List.append_nil]

theorem optionValue_append {name : List UInt8} (plain : 61 ∉ name) (arg : Option (List UInt8)) :
    optionValue (name ++ (arg.map (61 :: ·)).getD []) = arg := by
  have kept : ∀ byte ∈ name, (byte != 61) = true := by
    intro byte member
    rw [bne_iff_ne]
    rintro rfl
    exact plain member
  unfold optionValue
  rw [List.dropWhile_append_of_pos kept]
  cases arg with
  | none => rfl
  | some value => rfl

namespace OptionTable

variable {Code : Type} [DecidableEq Code] {table : OptionTable Code} {order : OperandOrder}

theorem findLong_name (named : table.Named) {option : LongOption Code} (member : option ∈ table.long) :
    table.findLong option.name = some option := by
  have found : table.long.find? (fun other => other.name == option.name) = some option := find_key named.distinct member
  unfold findLong
  rw [found]

theorem findLong_mem {name : List UInt8} {option : LongOption Code} (found : table.findLong name = some option) :
    option ∈ table.long := by
  unfold findLong at found
  split at found
  · rename_i chosen same
    cases found
    exact List.mem_of_find?_eq_some same
  · split at found
    · cases found
    · rename_i first others same
      split at found
      · cases found
        have member : option ∈ table.long.filter fun option => name.isPrefixOf option.name := by
          rw [same]
          exact List.mem_cons_self
        exact (List.mem_filter.mp member).1
      · cases found

theorem scan_long {text : List UInt8} (filled : text ≠ []) (args : List (List UInt8)) :
    table.scan order none (([45, 45] ++ text) :: args) =
      (table.scanLong text).1 ++ table.scan order (table.scanLong text).2 args := by
  cases text with
  | nil => exact absurd rfl filled
  | cons byte bytes => rfl

theorem scan_long_append {text : List UInt8} (filled : text ≠ [])
    (sound : .error ∉ table.scan order none [[45, 45] ++ text]) (args : List (List UInt8)) :
    table.scan order none (([45, 45] ++ text) :: args) =
      table.scan order none [[45, 45] ++ text] ++ table.scan order none args := by
  rw [scan_long filled] at sound ⊢
  rw [scan_long filled]
  cases waits : (table.scanLong text).2 with
  | some code =>
      rw [waits] at sound
      exact absurd (List.mem_append_right _ (List.mem_singleton_self _)) sound
  | none =>
      rw [show table.scan order none [] = [] from rfl, List.append_nil]

theorem scan_longFlag (named : table.Named) {option : LongOption Code} (member : option ∈ table.long)
    {arg : Option (List UInt8)} (fits : option.hasArg = arg.isSome) (args : List (List UInt8)) :
    table.scan order none (longFlag option.name arg :: args) =
      .option option.code arg :: table.scan order none args := by
  obtain ⟨filled, plain⟩ := named.plain option member
  have long : table.scanLong (option.name ++ (arg.map (61 :: ·)).getD []) = ([.option option.code arg], none) := by
    unfold scanLong
    rw [optionName_append plain, findLong_name named member, optionValue_append plain]
    cases arg with
    | none =>
        dsimp only
        rw [fits]
        rfl
    | some value =>
        dsimp only
        rw [fits]
        rfl
  unfold longFlag
  rw [List.append_assoc, scan_long (by simp [filled]), long]
  rfl

omit [DecidableEq Code] in
theorem scanShort_listed (spelled : table.Spelled) (letters : List UInt8) :
    (∀ code arg, .option code arg ∈ (table.scanShort letters).1 → table.Listed code arg.isSome) ∧
      ∀ code, (table.scanShort letters).2 = some code → table.Listed code true := by
  induction letters with
  | nil => exact ⟨nofun, nofun⟩
  | cons letter letters ih =>
      obtain ⟨found, waits⟩ := ih
      unfold scanShort
      split
      · refine ⟨fun code arg member => ?_, waits⟩
        rcases List.mem_cons.mp member with same | later
        · cases same
        · exact found code arg later
      · rename_i option selected
        obtain ⟨long, member, code, arity⟩ := spelled option (List.mem_of_find?_eq_some selected)
        split
        · rename_i needed
          split
          · refine ⟨nofun, fun _ same => ?_⟩
            cases same
            exact ⟨long, member, code, arity.trans needed⟩
          · refine ⟨fun _ _ same => ?_, nofun⟩
            cases List.mem_singleton.mp same
            exact ⟨long, member, code, arity.trans needed⟩
        · rename_i free
          refine ⟨fun _ _ among => ?_, waits⟩
          rcases List.mem_cons.mp among with same | later
          · cases same
            exact ⟨long, member, code, arity.trans (Bool.eq_false_iff.mpr free)⟩
          · exact found _ _ later

theorem scanLong_listed (table : OptionTable Code) (text : List UInt8) :
    (∀ code arg, .option code arg ∈ (table.scanLong text).1 → table.Listed code arg.isSome) ∧
      ∀ code, (table.scanLong text).2 = some code → table.Listed code true := by
  unfold scanLong
  split
  · refine ⟨fun _ _ same => ?_, nofun⟩
    cases List.mem_singleton.mp same
  · rename_i option found
    have member := findLong_mem found
    split
    · rename_i value _ needed
      refine ⟨fun _ _ same => ?_, nofun⟩
      cases List.mem_singleton.mp same
      exact ⟨option, member, rfl, needed⟩
    · refine ⟨fun _ _ same => ?_, nofun⟩
      cases List.mem_singleton.mp same
    · rename_i _ needed
      refine ⟨nofun, fun _ same => ?_⟩
      cases same
      exact ⟨option, member, rfl, needed⟩
    · rename_i _ free
      refine ⟨fun _ _ same => ?_, nofun⟩
      cases List.mem_singleton.mp same
      exact ⟨option, member, rfl, free⟩

theorem scan_listed (spelled : table.Spelled) {waiting : Option Code}
    (waits : ∀ code, waiting = some code → table.Listed code true) (args : List (List UInt8)) :
    ∀ code arg, .option code arg ∈ table.scan order waiting args → table.Listed code arg.isSome := by
  induction args generalizing waiting with
  | nil =>
      intro code arg member
      cases waiting with
      | none => cases member
      | some code => cases List.mem_singleton.mp member
  | cons first args ih =>
      intro code arg member
      cases waiting with
      | some awaited =>
          unfold scan at member
          rcases List.mem_cons.mp member with same | later
          · cases same
            exact waits code rfl
          · exact ih (fun _ none_ => by cases none_) code arg later
      | none =>
          unfold scan at member
          split at member
          · cases member
          · obtain ⟨found, rest⟩ := scanLong_listed table (by assumption)
            rcases List.mem_append.mp member with here | later
            · exact found code arg here
            · exact ih rest code arg later
          · obtain ⟨found, rest⟩ := scanShort_listed spelled (_ :: _)
            rcases List.mem_append.mp member with here | later
            · exact found code arg here
            · exact ih rest code arg later
          · cases order with
            | permute => exact ih (fun _ none_ => by cases none_) code arg member
            | requireOrder => cases member
            | returnInOrder =>
                rcases List.mem_cons.mp member with same | later
                · cases same
                · exact ih (fun _ none_ => by cases none_) code arg later

omit [DecidableEq Code] in
theorem scanShort_suffix {letters value : List UInt8} {code : Code}
    (member : .option code (some value) ∈ (table.scanShort letters).1) : value <:+ letters := by
  induction letters with
  | nil => cases member
  | cons letter letters ih =>
      have later (deeper : .option code (some value) ∈ (table.scanShort letters).1) : value <:+ letter :: letters :=
        (ih deeper).trans (List.suffix_cons letter letters)
      unfold scanShort at member
      split at member
      · rcases List.mem_cons.mp member with same | deeper
        · cases same
        · exact later deeper
      · split at member
        · split at member
          · cases member
          · cases List.mem_singleton.mp member
            exact List.suffix_cons letter _
        · rcases List.mem_cons.mp member with same | deeper
          · cases same
          · exact later deeper

theorem scanLong_suffix {text value : List UInt8} {code : Code}
    (member : .option code (some value) ∈ (table.scanLong text).1) : value <:+ text := by
  have ends (found : optionValue text = some value) : value <:+ text := by
    unfold optionValue at found
    split at found
    · cases found
    · rename_i byte _ rest
      cases found
      have suffix := List.dropWhile_suffix (l := text) (· != 61)
      rw [rest] at suffix
      exact (List.suffix_cons byte value).trans suffix
  unfold scanLong at member
  split at member
  · cases List.mem_singleton.mp member
  · split at member
    · rename_i found _
      cases List.mem_singleton.mp member
      exact ends found
    · cases List.mem_singleton.mp member
    · cases member
    · cases List.mem_singleton.mp member

theorem scan_suffix {waiting : Option Code} {args : List (List UInt8)} {code : Code} {value : List UInt8}
    (member : .option code (some value) ∈ table.scan order waiting args) : ∃ arg ∈ args, value <:+ arg := by
  induction args generalizing waiting with
  | nil =>
      cases waiting with
      | none => cases member
      | some awaited => cases List.mem_singleton.mp member
  | cons first args ih =>
      have later {waiting : Option Code} (deeper : .option code (some value) ∈ table.scan order waiting args) :
          ∃ arg ∈ first :: args, value <:+ arg := by
        obtain ⟨arg, among, suffix⟩ := ih deeper
        exact ⟨arg, List.mem_cons_of_mem _ among, suffix⟩
      cases waiting with
      | some awaited =>
          unfold scan at member
          rcases List.mem_cons.mp member with same | deeper
          · cases same
            exact ⟨_, List.mem_cons_self, List.suffix_refl _⟩
          · exact later deeper
      | none =>
          unfold scan at member
          split at member
          · cases member
          · rename_i text _
            rcases List.mem_append.mp member with here | deeper
            · exact ⟨_, List.mem_cons_self, (scanLong_suffix here).trans (List.suffix_append [45, 45] text)⟩
            · exact later deeper
          · rename_i letter letters _
            rcases List.mem_append.mp member with here | deeper
            · exact ⟨_, List.mem_cons_self, (scanShort_suffix here).trans (List.suffix_cons 45 _)⟩
            · exact later deeper
          · cases order with
            | permute => exact later member
            | requireOrder => cases member
            | returnInOrder =>
                rcases List.mem_cons.mp member with same | deeper
                · cases same
                · exact later deeper

end OptionTable

end SwaylockPlugin.Library
