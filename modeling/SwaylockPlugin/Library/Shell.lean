import Mathlib.Data.List.Basic
import Mathlib.Data.List.Flatten
import Mathlib.Data.List.Count

namespace SwaylockPlugin.Library

/-- A byte stands for itself, or it is quoted alone, in single or in double quotes. -/
inductive ShellMode where
  | plain
  | single
  | double
  | escaped
  | doubleEscaped
  deriving DecidableEq

/-- The shell has read some words and a part of the next one, which may have started without a byte of its own. -/
structure ShellScan where
  words : List (List UInt8)
  word : List UInt8
  started : Bool
  mode : ShellMode

/-- Outside of quotes the shell gives these bytes a meaning: operators, expansions, patterns, comments and the end of
the line. -/
def isShellSpecial (byte : UInt8) : Bool :=
  [124, 38, 59, 60, 62, 40, 41, 36, 96, 10, 42, 63, 91, 35, 126, 61, 37].contains byte

namespace ShellScan

/-- Before the first byte there is nothing. -/
def start : ShellScan := ⟨[], [], false, .plain⟩

/-- A word ends where one has started. -/
def separate (scan : ShellScan) : ShellScan :=
  if scan.started then { scan with words := scan.words ++ [scan.word], word := [], started := false } else scan

/-- A byte becomes a part of the word. -/
def append (scan : ShellScan) (bytes : List UInt8) (mode : ShellMode) : ShellScan :=
  { scan with word := scan.word ++ bytes, started := true, mode }

/-- The shell reads one byte by its quoting rules, unless it has to do more than to take bytes for what they are. -/
def step (scan : ShellScan) (byte : UInt8) : Option ShellScan :=
  match scan.mode with
  | .plain =>
      if byte = 39 then some (scan.append [] .single)
      else if byte = 34 then some (scan.append [] .double)
      else if byte = 92 then some { scan with mode := .escaped }
      else if byte = 32 ∨ byte = 9 then some scan.separate
      else if isShellSpecial byte then none
      else some (scan.append [byte] .plain)
  | .single => if byte = 39 then some (scan.append [] .plain) else some (scan.append [byte] .single)
  | .double =>
      if byte = 34 then some (scan.append [] .plain)
      else if byte = 92 then some { scan with mode := .doubleEscaped }
      else if byte = 36 ∨ byte = 96 then none
      else some (scan.append [byte] .double)
  | .escaped => if byte = 10 then some { scan with mode := .plain } else some (scan.append [byte] .plain)
  | .doubleEscaped =>
      if byte = 10 then some { scan with mode := .double }
      else if byte = 34 ∨ byte = 92 ∨ byte = 36 ∨ byte = 96 then some (scan.append [byte] .double)
      else some (scan.append [92, byte] .double)

/-- The text ends outside of quotes. -/
def finish (scan : ShellScan) : Option (List (List UInt8)) :=
  if scan.mode = .plain then some scan.separate.words else none

end ShellScan

/-- The shell splits a text into words, unless it gives a part of it another meaning. -/
def shellWords (text : List UInt8) : Option (List (List UInt8)) :=
  (text.foldlM ShellScan.step .start).bind ShellScan.finish

/-- A field of a command is written as it is or in single quotes. -/
inductive ShellField where
  | bare (text : List UInt8)
  | quoted (text : List UInt8)
  deriving DecidableEq

namespace ShellField

/-- The text that a field stands for. -/
def text : ShellField → List UInt8
  | .bare text => text
  | .quoted text => text

/-- The bytes with which a field is written. -/
def render : ShellField → List UInt8
  | .bare text => text
  | .quoted text => 39 :: text ++ [39]

/-- A byte that stands for itself outside of quotes. -/
def isLiteral (byte : UInt8) : Bool := !([39, 34, 92, 32, 9].contains byte) && !isShellSpecial byte

/-- A field may be written as it is when it has bytes and all of them stand for themselves. -/
def literal : ShellField → Bool
  | .bare text => !text.isEmpty && text.all isLiteral
  | .quoted _ => true

end ShellField

/-- A command consists of fields with blanks between them. -/
def renderFields (first : ShellField) (rest : List ShellField) : List UInt8 :=
  first.render ++ rest.flatMap fun field => 32 :: field.render

section Reading

variable {scan : ShellScan}

theorem step_literal (plain : scan.mode = .plain) {byte : UInt8} (literal : ShellField.isLiteral byte = true) :
    scan.step byte = some (scan.append [byte] .plain) := by
  simp only [ShellField.isLiteral, List.contains_eq_mem, List.mem_cons, List.not_mem_nil, or_false,
    Bool.and_eq_true, Bool.not_eq_true', decide_eq_false_iff_not, not_or] at literal
  obtain ⟨⟨quote, double, slash, space, tab⟩, special⟩ := literal
  simp [ShellScan.step, plain, quote, double, slash, space, tab, special]

theorem foldlM_literal (plain : scan.mode = .plain) {text : List UInt8} (literal : text.all ShellField.isLiteral = true)
    (filled : text ≠ []) : text.foldlM ShellScan.step scan = some (scan.append text .plain) := by
  induction text generalizing scan with
  | nil => exact absurd rfl filled
  | cons byte rest ih =>
      rw [List.all_cons, Bool.and_eq_true] at literal
      rw [List.foldlM_cons, step_literal plain literal.1]
      cases rest with
      | nil => rfl
      | cons next rest =>
          refine (ih rfl literal.2 (by simp)).trans ?_
          simp [ShellScan.append]

theorem foldlM_single (before : List UInt8) {text : List UInt8} (unquoted : 39 ∉ text) :
    text.foldlM ShellScan.step (scan.append before .single) = some (scan.append (before ++ text) .single) := by
  induction text generalizing before with
  | nil =>
      rw [List.append_nil]
      rfl
  | cons byte rest ih =>
      rw [List.mem_cons, not_or] at unquoted
      have read : (scan.append before .single).step byte = some (scan.append (before ++ [byte]) .single) := by
        change (if byte = 39 then some _ else some _) = _
        rw [if_neg (Ne.symm unquoted.1)]
        simp [ShellScan.append]
      rw [List.foldlM_cons, read]
      refine (ih (before ++ [byte]) unquoted.2).trans ?_
      rw [List.append_assoc]
      rfl

theorem foldlM_field (plain : scan.mode = .plain) {field : ShellField} (literal : field.literal = true)
    (unquoted : 39 ∉ field.text) :
    field.render.foldlM ShellScan.step scan = some (scan.append field.text .plain) := by
  cases field with
  | bare text =>
      obtain ⟨filled, literal⟩ := Bool.and_eq_true_iff.mp literal
      have filled : text ≠ [] := by simpa using filled
      exact foldlM_literal plain literal filled
  | quoted text =>
      change 39 ∉ text at unquoted
      have opened : scan.step 39 = some (scan.append [] .single) := by simp [ShellScan.step, plain]
      change (39 :: text ++ [39]).foldlM ShellScan.step scan = _
      rw [List.cons_append, List.foldlM_cons, opened]
      change (text ++ [39]).foldlM ShellScan.step (scan.append [] .single) = _
      rw [List.foldlM_append, foldlM_single [] unquoted]
      change (scan.append ([] ++ text) .single).step 39 >>= pure = some (scan.append text .plain)
      simp [ShellScan.step, ShellScan.append]

theorem foldlM_fields (plain : scan.mode = .plain) (started : scan.started = true) {fields : List ShellField}
    (literal : ∀ field ∈ fields, field.literal = true) (unquoted : ∀ field ∈ fields, 39 ∉ field.text) :
    ((fields.flatMap fun field => 32 :: field.render).foldlM ShellScan.step scan).bind ShellScan.finish =
      some (scan.words ++ scan.word :: fields.map ShellField.text) := by
  induction fields generalizing scan with
  | nil =>
      change scan.finish = _
      simp [ShellScan.finish, ShellScan.separate, plain, started]
  | cons field fields ih =>
      have blank : scan.step 32 = some scan.separate := by simp [ShellScan.step, plain]
      have separated : scan.separate = ⟨scan.words ++ [scan.word], [], false, .plain⟩ := by
        simp [ShellScan.separate, started, plain]
      have plain : scan.separate.mode = .plain := by rw [separated]
      have read := foldlM_field plain (literal field List.mem_cons_self) (unquoted field List.mem_cons_self)
      rw [List.flatMap_cons, List.cons_append, List.foldlM_cons, blank]
      change ((field.render ++ _).foldlM ShellScan.step scan.separate).bind _ = _
      rw [List.foldlM_append, read]
      refine (ih rfl rfl (fun other member => literal other (List.mem_cons_of_mem _ member))
        fun other member => unquoted other (List.mem_cons_of_mem _ member)).trans ?_
      rw [separated]
      simp [ShellScan.append]

end Reading

theorem shellWords_fields {first : ShellField} {rest : List ShellField}
    (literal : ∀ field ∈ first :: rest, field.literal = true) (unquoted : ∀ field ∈ first :: rest, 39 ∉ field.text) :
    shellWords (renderFields first rest) = some ((first :: rest).map ShellField.text) := by
  have read : first.render.foldlM ShellScan.step .start = some (ShellScan.start.append first.text .plain) :=
    foldlM_field rfl (literal first List.mem_cons_self) (unquoted first List.mem_cons_self)
  unfold shellWords renderFields
  rw [List.foldlM_append, read]
  exact foldlM_fields rfl rfl (fun field member => literal field (List.mem_cons_of_mem _ member))
    fun field member => unquoted field (List.mem_cons_of_mem _ member)

/-- The number of bytes that are no single quotes. -/
def otherBytes (text : List UInt8) : ℕ := text.countP (· != 39)

namespace ShellScan

/-- All bytes that were read for words. -/
def all (scan : ShellScan) : List UInt8 := scan.words.flatten ++ scan.word

/-- A quote in a word, and an open double quote or backslash, were paid with bytes that are no single quotes. -/
def reserve (scan : ShellScan) : ℕ :=
  match scan.mode with
  | .doubleEscaped => 2
  | .double | .escaped => 1
  | .plain | .single => if 39 ∈ scan.all then 1 else 0

/-- What was read costs a byte for every other byte, for every end of a word and for the reserve. -/
def cost (scan : ShellScan) : ℕ := otherBytes scan.all + scan.words.length + scan.reserve

end ShellScan

section Costs

variable {scan next : ShellScan}

theorem all_append (scan : ShellScan) (bytes : List UInt8) (mode : ShellMode) :
    (scan.append bytes mode).all = scan.all ++ bytes := by
  simp [ShellScan.all, ShellScan.append]

theorem all_separate (scan : ShellScan) : scan.separate.all = scan.all := by
  unfold ShellScan.separate
  split
  · simp [ShellScan.all]
  · rfl

theorem otherBytes_append (first second : List UInt8) : otherBytes (first ++ second) = otherBytes first + otherBytes second :=
  List.countP_append

theorem otherBytes_other {byte : UInt8} (other : byte ≠ 39) : otherBytes [byte] = 1 := by
  simp [otherBytes, other]

theorem reserve_le (plain : scan.mode = .plain) : scan.reserve ≤ 1 := by
  rw [ShellScan.reserve, plain]
  dsimp only
  split <;> omega

theorem reserve_append (outer : scan.mode = .plain ∨ scan.mode = .single) {mode : ShellMode}
    (inner : mode = .plain ∨ mode = .single) {bytes : List UInt8} (unquoted : 39 ∉ bytes) :
    (scan.append bytes mode).reserve = scan.reserve := by
  have same : (39 ∈ (scan.append bytes mode).all) = (39 ∈ scan.all) := by
    rw [all_append, List.mem_append, or_iff_left unquoted]
  have kept : (scan.append bytes mode).mode = mode := rfl
  unfold ShellScan.reserve
  rcases outer with outer | outer <;> rcases inner with rfl | rfl <;> simp only [outer, same, kept]

theorem append_cost (scan : ShellScan) (bytes : List UInt8) (mode : ShellMode) :
    (scan.append bytes mode).cost =
      otherBytes scan.all + otherBytes bytes + scan.words.length + (scan.append bytes mode).reserve := by
  rw [ShellScan.cost, all_append, otherBytes_append]
  rfl

theorem separate_cost (scan : ShellScan) : scan.separate.cost ≤ scan.cost + 1 := by
  have same := all_separate scan
  have kept : scan.separate.mode = scan.mode := by
    unfold ShellScan.separate
    split <;> rfl
  have reserve : scan.separate.reserve = scan.reserve := by
    unfold ShellScan.reserve
    rw [kept, same]
  have longer : scan.separate.words.length ≤ scan.words.length + 1 := by
    unfold ShellScan.separate
    split <;> simp
  unfold ShellScan.cost
  rw [same, reserve]
  omega

theorem plain_cost (plain : scan.mode = .plain) {byte : UInt8} (read : scan.step byte = some next) :
    next.cost ≤ scan.cost + otherBytes [byte] := by
  have outer : scan.mode = .plain ∨ scan.mode = .single := .inl plain
  have nothing : otherBytes [] = 0 := rfl
  simp only [ShellScan.step, plain] at read
  split at read
  · cases read
    rw [append_cost, reserve_append outer (.inr rfl) List.not_mem_nil]
    unfold ShellScan.cost
    omega
  · rename_i other
    have one := otherBytes_other other
    split at read
    · cases read
      have bound : (scan.append [] .double).reserve = 1 := rfl
      rw [append_cost, bound]
      unfold ShellScan.cost
      omega
    · split at read
      · cases read
        have bound : ({ scan with mode := .escaped } : ShellScan).reserve = 1 := rfl
        have same : ({ scan with mode := .escaped } : ShellScan).all = scan.all := rfl
        unfold ShellScan.cost
        rw [bound, same]
        dsimp only
        omega
      · split at read
        · cases read
          have bound := separate_cost scan
          omega
        · split at read
          · cases read
          · cases read
            rw [append_cost, reserve_append outer (.inl rfl) (by simpa using Ne.symm other)]
            unfold ShellScan.cost
            omega

theorem single_cost (single : scan.mode = .single) {byte : UInt8} (read : scan.step byte = some next) :
    next.cost ≤ scan.cost + otherBytes [byte] := by
  have outer : scan.mode = .plain ∨ scan.mode = .single := .inr single
  have nothing : otherBytes [] = 0 := rfl
  simp only [ShellScan.step, single] at read
  split at read
  · cases read
    rw [append_cost, reserve_append outer (.inl rfl) List.not_mem_nil]
    unfold ShellScan.cost
    omega
  · rename_i other
    cases read
    rw [append_cost, reserve_append outer (.inr rfl) (by simpa using Ne.symm other)]
    unfold ShellScan.cost
    omega

theorem double_cost (double : scan.mode = .double) {byte : UInt8} (read : scan.step byte = some next) :
    next.cost ≤ scan.cost + otherBytes [byte] := by
  have nothing : otherBytes [] = 0 := rfl
  have reserve : scan.reserve = 1 := by rw [ShellScan.reserve, double]
  simp only [ShellScan.step, double] at read
  split at read
  · cases read
    have bound : (scan.append [] .plain).reserve ≤ 1 := reserve_le rfl
    rw [append_cost]
    unfold ShellScan.cost
    omega
  · split at read
    · rename_i slash
      subst slash
      cases read
      have bound : ({ scan with mode := .doubleEscaped } : ShellScan).reserve = 2 := rfl
      have same : ({ scan with mode := .doubleEscaped } : ShellScan).all = scan.all := rfl
      have one : otherBytes [92] = 1 := rfl
      unfold ShellScan.cost
      rw [bound, same]
      dsimp only
      omega
    · split at read
      · cases read
      · cases read
        have bound : (scan.append [byte] .double).reserve = 1 := rfl
        rw [append_cost, bound]
        unfold ShellScan.cost
        omega

theorem escaped_cost (escaped : scan.mode = .escaped) {byte : UInt8} (read : scan.step byte = some next) :
    next.cost ≤ scan.cost + otherBytes [byte] := by
  have reserve : scan.reserve = 1 := by rw [ShellScan.reserve, escaped]
  simp only [ShellScan.step, escaped] at read
  split at read
  · cases read
    have bound : ({ scan with mode := .plain } : ShellScan).reserve ≤ 1 := reserve_le rfl
    have same : ({ scan with mode := .plain } : ShellScan).all = scan.all := rfl
    unfold ShellScan.cost
    rw [same]
    dsimp only
    omega
  · cases read
    have bound : (scan.append [byte] .plain).reserve ≤ 1 := reserve_le rfl
    rw [append_cost]
    unfold ShellScan.cost
    omega

/-- Behind a backslash in double quotes a byte costs at most itself, as the backslash was paid twice. -/
theorem doubleEscaped_cost (escaped : scan.mode = .doubleEscaped) {byte : UInt8} (read : scan.step byte = some next) :
    next.cost ≤ scan.cost + otherBytes [byte] := by
  have reserve : scan.reserve = 2 := by rw [ShellScan.reserve, escaped]
  simp only [ShellScan.step, escaped] at read
  split at read
  · cases read
    have bound : ({ scan with mode := .double } : ShellScan).reserve = 1 := rfl
    have same : ({ scan with mode := .double } : ShellScan).all = scan.all := rfl
    unfold ShellScan.cost
    rw [bound, same]
    dsimp only
    omega
  · split at read
    · cases read
      have bound : (scan.append [byte] .double).reserve = 1 := rfl
      rw [append_cost, bound]
      unfold ShellScan.cost
      omega
    · cases read
      have bound : (scan.append [92, byte] .double).reserve = 1 := rfl
      have both : otherBytes [92, byte] = 1 + otherBytes [byte] := otherBytes_append [92] [byte]
      rw [append_cost, bound]
      unfold ShellScan.cost
      omega

theorem step_cost {byte : UInt8} (read : scan.step byte = some next) : next.cost ≤ scan.cost + otherBytes [byte] := by
  cases mode : scan.mode with
  | plain => exact plain_cost mode read
  | single => exact single_cost mode read
  | double => exact double_cost mode read
  | escaped => exact escaped_cost mode read
  | doubleEscaped => exact doubleEscaped_cost mode read

theorem foldlM_cost {text : List UInt8} (read : text.foldlM ShellScan.step scan = some next) :
    next.cost ≤ scan.cost + otherBytes text := by
  induction text generalizing scan with
  | nil =>
      cases read
      exact Nat.le_add_right _ _
  | cons byte rest ih =>
      rw [List.foldlM_cons] at read
      obtain ⟨middle, first, later⟩ := Option.bind_eq_some_iff.mp read
      have paid := step_cost first
      have tail := ih later
      have both : otherBytes (byte :: rest) = otherBytes [byte] + otherBytes rest := otherBytes_append [byte] rest
      omega

end Costs

/-- Words of which one has a quote are written with as many other bytes as they have, and one more for each of them. -/
theorem shellWords_quote {text : List UInt8} {words : List (List UInt8)} (split : shellWords text = some words)
    (quote : 39 ∈ words.flatten) : otherBytes words.flatten + words.length ≤ otherBytes text := by
  obtain ⟨last, read, finished⟩ := Option.bind_eq_some_iff.mp split
  have paid : last.cost ≤ otherBytes text := by
    have cost := foldlM_cost read
    have nothing : ShellScan.start.cost = 0 := rfl
    omega
  unfold ShellScan.finish at finished
  split at finished
  · rename_i plain
    cases finished
    have inside : 39 ∈ last.all := by
      rw [← all_separate, ShellScan.all]
      exact List.mem_append_left _ quote
    have reserve : last.reserve = 1 := by
      rw [ShellScan.reserve, plain]
      exact if_pos inside
    unfold ShellScan.cost at paid
    unfold ShellScan.separate
    split
    · have whole : (last.words ++ [last.word]).flatten = last.all := by simp [ShellScan.all]
      dsimp only
      rw [whole, List.length_append, List.length_singleton]
      omega
    · have both := otherBytes_append last.words.flatten last.word
      change otherBytes last.all = _ at both
      omega
  · cases finished

theorem otherBytes_render (field : ShellField) : otherBytes field.render = otherBytes field.text := by
  cases field with
  | bare text => rfl
  | quoted text =>
      change otherBytes ([39] ++ text ++ [39]) = otherBytes text
      have nothing : otherBytes [39] = 0 := rfl
      rw [otherBytes_append, otherBytes_append, nothing, Nat.zero_add, Nat.add_zero]

/-- A command has the other bytes of its texts and a blank in front of each further field. -/
theorem otherBytes_renderFields (first : ShellField) (rest : List ShellField) :
    otherBytes (renderFields first rest) = otherBytes ((first :: rest).map ShellField.text).flatten + rest.length := by
  have tail : otherBytes (rest.flatMap fun field => 32 :: field.render) =
      otherBytes (rest.map ShellField.text).flatten + rest.length := by
    induction rest with
    | nil => rfl
    | cons field rest ih =>
        have blank : otherBytes (32 :: field.render) = 1 + otherBytes field.render := otherBytes_append [32] _
        rw [List.flatMap_cons, otherBytes_append, blank, ih, otherBytes_render, List.map_cons,
          List.flatten_cons, otherBytes_append, List.length_cons]
        omega
  rw [renderFields, otherBytes_append, tail, otherBytes_render, List.map_cons, List.flatten_cons, otherBytes_append]
  omega

/-- A command of fields is split into their texts exactly when none of them has a quote. -/
theorem shellWords_fields_iff {first : ShellField} {rest : List ShellField}
    (literal : ∀ field ∈ first :: rest, field.literal = true) :
    shellWords (renderFields first rest) = some ((first :: rest).map ShellField.text) ↔
      ∀ field ∈ first :: rest, 39 ∉ field.text := by
  refine ⟨fun split field member quote => ?_, shellWords_fields literal⟩
  have inside : 39 ∈ ((first :: rest).map ShellField.text).flatten :=
    List.mem_flatten.mpr ⟨field.text, List.mem_map_of_mem member, quote⟩
  -- a word with a quote would need a byte more than the command has
  have paid := shellWords_quote split inside
  rw [otherBytes_renderFields, List.length_map, List.length_cons] at paid
  omega

end SwaylockPlugin.Library
