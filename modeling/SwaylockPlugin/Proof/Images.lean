import SwaylockPlugin.Construction.Images
import Mathlib.Data.List.Nodup
import Mathlib.Logic.Relation

namespace SwaylockPlugin.Images

open Library

theorem strcmp_eq_zero (first second : CString) : strcmp first second = 0 ↔ first = second := by
  induction first generalizing second with
  | nil => cases second <;> simp [strcmp]
  | cons one first ih =>
      cases second with
      | nil => simp [strcmp]
      | cons two second =>
          unfold strcmp
          by_cases same : one = two
          · rw [if_pos same, ih, List.cons.injEq, and_iff_right same]
          · rw [if_neg same, List.cons.injEq]
            split <;> simp [same]

theorem lenientStrcmp_eq_zero (first second : Option CString) : lenientStrcmp first second = 0 ↔ first = second := by
  cases first <;> cases second <;> simp [lenientStrcmp, strcmp_eq_zero]

section Lists

variable {Surface : Type} {images : List (SwaylockImage Surface)}

/-- The images of a list are for different outputs, and at most one has no output. -/
def Distinct (images : List (SwaylockImage Surface)) : Prop := (images.map SwaylockImage.outputName).Nodup

/-- The images for other outputs. -/
def others (outputName : Option CString) (images : List (SwaylockImage Surface)) : List (SwaylockImage Surface) :=
  images.filter fun image => image.outputName != outputName

/-- An output has its own image or else the one without an output. -/
def ownOrDefault (images : List (SwaylockImage Surface)) (outputName : Option CString) : Option Surface :=
  ((images.find? fun image => image.outputName == outputName).map SwaylockImage.cairoSurface).or
    ((images.find? fun image => image.outputName == none).map SwaylockImage.cairoSurface)

theorem others_of_absent {outputName : Option CString} (absent : ∀ image ∈ images, image.outputName ≠ outputName) :
    others outputName images = images := by
  apply List.filter_eq_self.mpr
  intro image member
  exact bne_iff_ne.mpr (absent image member)

theorem removeImage_others (distinct : Distinct images) (outputName : Option CString) :
    removeImage outputName images = others outputName images := by
  induction images with
  | nil => rfl
  | cons image rest ih =>
      obtain ⟨fresh, distinct⟩ := List.nodup_cons.mp distinct
      unfold removeImage
      by_cases same : image.outputName = outputName
      · have absent : ∀ other ∈ rest, other.outputName ≠ outputName := by
          rintro other member rfl
          exact fresh (List.mem_map.mpr ⟨other, member, same.symm⟩)
        rw [if_pos ((lenientStrcmp_eq_zero _ _).mpr same), others, List.filter_cons_of_neg (by simpa using same)]
        exact (others_of_absent absent).symm
      · have kept : others outputName (image :: rest) = image :: others outputName rest :=
          List.filter_cons_of_pos (by simpa using same)
        rw [if_neg (mt (lenientStrcmp_eq_zero _ _).mp same), ih distinct, kept]

theorem distinct_insert (distinct : Distinct images) (image : SwaylockImage Surface) :
    Distinct (image :: others image.outputName images) := by
  refine List.nodup_cons.mpr ⟨?_, distinct.sublist (List.filter_sublist.map _)⟩
  intro member
  obtain ⟨other, there, same⟩ := List.mem_map.mp member
  exact bne_iff_ne.mp (List.mem_filter.mp there).2 same

theorem selectFrom_eq (distinct : Distinct images) (outputName : Option CString) (defaultImage : Option Surface) :
    selectFrom outputName defaultImage images = (ownOrDefault images outputName).or defaultImage := by
  induction images generalizing defaultImage with
  | nil => rfl
  | cons image rest ih =>
      obtain ⟨fresh, distinct⟩ := List.nodup_cons.mp distinct
      unfold selectFrom ownOrDefault
      by_cases same : image.outputName = outputName
      · rw [if_pos ((lenientStrcmp_eq_zero _ _).mpr same), List.find?_cons_of_pos (by simpa using same)]
        rfl
      · rw [if_neg (mt (lenientStrcmp_eq_zero _ _).mp same), List.find?_cons_of_neg (by simpa using same)]
        by_cases unnamed : image.outputName = none
        · have absent : (rest.find? fun other => other.outputName == none) = none := by
            apply List.find?_eq_none.mpr
            intro other member named
            exact fresh (List.mem_map.mpr ⟨other, member, (eq_of_beq named).trans unnamed.symm⟩)
          rw [if_pos (by simp [unnamed]), ih distinct, ownOrDefault, absent,
            List.find?_cons_of_pos (by simpa using unnamed)]
          cases (rest.find? fun other => other.outputName == outputName) <;> rfl
        · rw [if_neg (by simpa using unnamed), ih distinct,
            List.find?_cons_of_neg (by simpa using unnamed)]
          rfl

/-- A selection finds the own image of an output or else the one without an output. -/
theorem selectImage_eq (distinct : Distinct images) (outputName : Option CString) :
    selectImage images outputName = ownOrDefault images outputName := by
  rw [selectImage, selectFrom_eq distinct, Option.or_none]

end Lists

section Escapes

/-- A turn of the loop puts in one backslash. -/
def Escapes (before after : CString) : Prop := escapeSpace before = some after

variable {before after : CString}

theorem escapeSpace_cons {byte : UInt8} {rest : CString} (other : ¬(byte = 32 ∧ rest.head? = some 32)) :
    escapeSpace (byte :: rest) = (escapeSpace rest).map (byte :: ·) := by
  cases rest with
  | nil => simp [escapeSpace]
  | cons next rest =>
      rw [List.head?_cons, Option.some_inj] at other
      rw [escapeSpace.eq_2]
      intro _ first same
      exact other ⟨first, (List.cons.inj same).1⟩

theorem Escapes.head_eq (turn : Escapes before after) : after.head? = before.head? := by
  unfold Escapes at turn
  cases before with
  | nil => cases turn
  | cons byte rest =>
      by_cases twice : byte = 32 ∧ rest.head? = some 32
      · obtain ⟨rfl, second⟩ := twice
        obtain ⟨rest, rfl⟩ := List.head?_eq_some_iff.mp second
        rw [escapeSpace.eq_1] at turn
        cases turn
        rfl
      · rw [escapeSpace_cons twice] at turn
        obtain ⟨tail, _, rfl⟩ := Option.map_eq_some_iff.mp turn
        rfl

theorem escapes_cons {byte : UInt8} (other : ¬(byte = 32 ∧ before.head? = some 32))
    (turns : Relation.ReflTransGen Escapes before after) :
    Relation.ReflTransGen Escapes (byte :: before) (byte :: after) := by
  induction turns using Relation.ReflTransGen.head_induction_on with
  | refl => exact .refl
  | head turn _ ih =>
      refine .head ?_ (ih (turn.head_eq ▸ other))
      rw [Escapes, escapeSpace_cons other]
      exact Option.map_eq_some_iff.mpr ⟨_, turn, rfl⟩

theorem escapes_path (path : CString) : Relation.ReflTransGen Escapes path (escapeSpaces path) := by
  fun_induction escapeSpaces path with
  | case1 rest ih =>
      have first : Escapes (32 :: 32 :: rest) (32 :: 92 :: 32 :: rest) := rfl
      exact .head first (escapes_cons (by simp) (escapes_cons (by simp) ih))
  | case2 byte rest single ih =>
      refine escapes_cons ?_ ih
      rintro ⟨first, second⟩
      obtain ⟨tail, same⟩ := List.head?_eq_some_iff.mp second
      exact single tail first same
  | case3 => exact .refl

theorem escapeSpace_escapeSpaces (path : CString) : escapeSpace (escapeSpaces path) = none := by
  have head (path : CString) : (escapeSpaces path).head? = path.head? := by
    fun_cases escapeSpaces path <;> rfl
  fun_induction escapeSpaces path with
  | case1 rest ih =>
      rw [escapeSpace_cons (by simp), escapeSpace_cons (by simp), ih]
      rfl
  | case2 byte rest single ih =>
      rw [escapeSpace_cons, ih]
      · rfl
      · rintro ⟨first, second⟩
        rw [head] at second
        obtain ⟨tail, same⟩ := List.head?_eq_some_iff.mp second
        exact single tail first same
  | case3 => rfl

end Escapes

section Loading

variable {Surface : Type}

/-- The path from which an image is read. -/
def expandedPath (files : FileSystem Surface) (path : CString) : CString :=
  (files.wordexp (escapeSpaces path)).elim (escapeSpaces path) [32].intercalate

theorem expandPath_ok {files : FileSystem Surface} {path expanded : CString} :
    expandPath files path = .ok expanded ↔
      files.wordexp (escapeSpaces path) ≠ some [] ∧ expanded = expandedPath files path := by
  unfold expandPath expandedPath joinArgs
  cases files.wordexp (escapeSpaces path) with
  | none => simp [eq_comm]
  | some argv =>
      cases argv with
      | nil => simp [require]
      | cons word argv => simp [require, eq_comm]

/-- An argument is treated as documented: a new image is in front of those for other outputs, an image that cannot be
read changes nothing, and every output has its own image or the one without an output. -/
structure Loads (files : FileSystem Surface) (arg : CString) (images next : List (SwaylockImage Surface)) : Prop where
  distinct : Distinct next
  added : ∀ surface, files.loadBackgroundImage (expandedPath files (separate arg).2) = some surface →
    next = ⟨expandedPath files (separate arg).2, (separate arg).1, surface⟩ :: others (separate arg).1 images
  kept : files.loadBackgroundImage (expandedPath files (separate arg).2) = none → next = images
  selected : ∀ outputName, selectImage next outputName = ownOrDefault next outputName

theorem loadImage_ok {files : FileSystem Surface} {arg : CString} {images next : List (SwaylockImage Surface)}
    (distinct : Distinct images) :
    loadImage files arg images = .ok next ↔ files.wordexp (escapeSpaces (separate arg).2) ≠ some [] ∧
      next = (files.loadBackgroundImage (expandedPath files (separate arg).2)).elim (others (separate arg).1 images)
        fun surface => ⟨expandedPath files (separate arg).2, (separate arg).1, surface⟩ ::
          others (separate arg).1 images := by
  unfold loadImage
  dsimp only
  rw [removeImage_others distinct, bind_ok]
  constructor
  · rintro ⟨expanded, ran, loaded⟩
    obtain ⟨words, rfl⟩ := expandPath_ok.mp ran
    refine ⟨words, ?_⟩
    cases read : files.loadBackgroundImage (expandedPath files (separate arg).2) <;> rw [read] at loaded <;>
      cases loaded <;> rfl
  · rintro ⟨words, rfl⟩
    refine ⟨_, expandPath_ok.mpr ⟨words, rfl⟩, ?_⟩
    cases read : files.loadBackgroundImage (expandedPath files (separate arg).2) <;> rfl

/-- An argument is treated as documented exactly when its path has words, and its image can be read or there is no image
for the same output. -/
theorem loadImage_loads (files : FileSystem Surface) (arg : CString) {images : List (SwaylockImage Surface)}
    (distinct : Distinct images) :
    (∃ next, loadImage files arg images = .ok next ∧ Loads files arg images next) ↔
      files.wordexp (escapeSpaces (separate arg).2) ≠ some [] ∧
        ((files.loadBackgroundImage (expandedPath files (separate arg).2)).isSome = true ∨
          ∀ image ∈ images, image.outputName ≠ (separate arg).1) := by
  constructor
  · rintro ⟨next, loaded, loads⟩
    obtain ⟨words, same⟩ := (loadImage_ok distinct).mp loaded
    refine ⟨words, ?_⟩
    cases read : files.loadBackgroundImage (expandedPath files (separate arg).2) with
    | some surface => exact .inl rfl
    | none =>
        rw [read] at same
        refine .inr fun image member => ?_
        rw [← loads.kept read, same] at member
        exact bne_iff_ne.mp (List.mem_filter.mp member).2
  · rintro ⟨words, readable⟩
    refine ⟨_, (loadImage_ok distinct).mpr ⟨words, rfl⟩, ?_⟩
    have inserted : Distinct ((files.loadBackgroundImage (expandedPath files (separate arg).2)).elim
        (others (separate arg).1 images) fun surface =>
          ⟨expandedPath files (separate arg).2, (separate arg).1, surface⟩ :: others (separate arg).1 images) := by
      cases files.loadBackgroundImage (expandedPath files (separate arg).2) with
      | none => exact distinct.sublist (List.filter_sublist.map _)
      | some surface =>
          exact distinct_insert distinct ⟨expandedPath files (separate arg).2, (separate arg).1, surface⟩
    refine ⟨inserted, ?_, ?_, selectImage_eq inserted⟩
    · intro surface read
      rw [read]
      rfl
    · intro unread
      rw [unread] at readable ⊢
      exact others_of_absent (readable.resolve_left (by simp))

end Loading

/-- The files of the example: a path is a word, and only the path `a` can be read. -/
def oneFile : FileSystem ℕ where
  wordexp path := some [path]
  loadBackgroundImage path := if path = ascii "a" then some 1 else none

/-- A second image for an output takes the place of the first one. -/
theorem loadImage_loads_replaced :
    ∃ next, loadImage oneFile (ascii "X:a") [⟨ascii "b", some (ascii "X"), 2⟩] = .ok next ∧
      Loads oneFile (ascii "X:a") [⟨ascii "b", some (ascii "X"), 2⟩] next := by
  have distinct : Distinct [(⟨ascii "b", some (ascii "X"), 2⟩ : SwaylockImage ℕ)] := List.nodup_singleton _
  exact (loadImage_loads oneFile (ascii "X:a") distinct).mpr ⟨by decide, .inl (by decide)⟩

/-- An image that cannot be read takes away the image that the output had. -/
theorem unreadable_image_removes :
    ¬ ∀ (files : FileSystem ℕ) (arg : CString) (images : List (SwaylockImage ℕ)), Distinct images →
      ∃ next, loadImage files arg images = .ok next ∧ Loads files arg images next := by
  intro loads
  obtain ⟨next, loaded, treated⟩ := loads oneFile (ascii "X:c") [⟨ascii "a", some (ascii "X"), 1⟩]
    (List.nodup_singleton _)
  have gone : next = [] := Except.ok.inj (loaded.symm.trans rfl)
  cases gone.symm.trans (treated.kept (by decide))

end SwaylockPlugin.Images
