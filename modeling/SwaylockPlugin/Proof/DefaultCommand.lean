import SwaylockPlugin.Construction.Images
import Mathlib.Algebra.GroupWithZero.Nat

namespace SwaylockPlugin.Images

open Library

section Length

variable {Surface : Type}

theorem colorText_length (background : UInt32) : (colorText background).length = 19 := by
  simp [colorText, sixDigits, ascii]

theorem imageText_length (mode : BackgroundMode) (image : SwaylockImage Surface) :
    (imageText mode image).length =
      16 + (image.outputName.getD (ascii "*")).length + image.path.length + mode.name.length := by
  simp only [imageText, List.length_append]
  have first : (ascii " -o '").length = 5 := by decide
  have second : (ascii "' -i '").length = 6 := by decide
  have third : (ascii "' -m ").length = 5 := by decide
  omega

/-- A buffer is used up to the null byte behind its text. -/
def CommandBuffer.Closed (buffer : CommandBuffer) : Prop := buffer.reached = buffer.text.length + 1

theorem CommandBuffer.Closed.sprintf {buffer : CommandBuffer} (closed : buffer.Closed) (text : CString) :
    (buffer.sprintf text).Closed := by
  unfold Closed at closed ⊢
  change max buffer.reached (buffer.text.length + text.length + 1) = (buffer.text ++ text).length + 1
  rw [closed, List.length_append]
  omega

theorem foldl_imageText {buffer : CommandBuffer} (closed : buffer.Closed) (mode : BackgroundMode)
    (images : List (SwaylockImage Surface)) :
    (images.foldl (fun buffer image => buffer.sprintf (imageText mode image)) buffer).Closed ∧
      (images.foldl (fun buffer image => buffer.sprintf (imageText mode image)) buffer).text =
        buffer.text ++ images.flatMap (imageText mode) := by
  induction images generalizing buffer with
  | nil => exact ⟨closed, (List.append_nil _).symm⟩
  | cons image images ih =>
      obtain ⟨ends, text⟩ := ih (closed.sprintf (imageText mode image))
      refine ⟨ends, ?_⟩
      rw [List.foldl_cons, text, List.flatMap_cons, ← List.append_assoc]
      rfl

theorem buildCommand_text (background : UInt32) (mode : BackgroundMode) (images : List (SwaylockImage Surface)) :
    (buildCommand background mode images).text = colorText background ++ images.flatMap (imageText mode) := by
  have closed : ((⟨[], 0⟩ : CommandBuffer).sprintf (colorText background)).Closed := by
    simp [CommandBuffer.Closed, CommandBuffer.sprintf]
  exact (foldl_imageText closed mode images).2

theorem buildCommand_reached (background : UInt32) (mode : BackgroundMode) (images : List (SwaylockImage Surface)) :
    (buildCommand background mode images).reached = (buildCommand background mode images).text.length + 1 := by
  have closed : ((⟨[], 0⟩ : CommandBuffer).sprintf (colorText background)).Closed := by
    simp [CommandBuffer.Closed, CommandBuffer.sprintf]
  exact (foldl_imageText closed mode images).1

/-- The default command stays in its buffer exactly when the strings of the images leave enough of it. -/
theorem buildCommand_fits (background : UInt32) (mode : BackgroundMode) (images : List (SwaylockImage Surface)) :
    (buildCommand background mode images).reached ≤ commandSize ↔
      19 + (images.map fun image =>
        16 + (image.outputName.getD (ascii "*")).length + image.path.length + mode.name.length).sum < 2048 := by
  have lengths : (images.map fun image => (imageText mode image).length) = images.map fun image =>
      16 + (image.outputName.getD (ascii "*")).length + image.path.length + mode.name.length :=
    List.map_congr_left fun image _ => imageText_length mode image
  rw [buildCommand_reached, buildCommand_text, List.length_append, colorText_length, List.length_flatMap, lengths,
    commandSize, Nat.lt_iff_add_one_le]

end Length

/-- A path that begins with 2100 slashes. -/
def longPath : CString := List.replicate 2100 47 ++ ascii "tmp/a.png"

/-- The files of the example: a path is a word, and the long path leads to an image. -/
def deepFile : FileSystem ℕ where
  wordexp path := some [path]
  loadBackgroundImage path := if path = longPath then some 1 else none

/-- An image with a long path that can be read makes the command too long. -/
theorem long_path_overruns :
    ¬ ∀ (background : UInt32) (mode : BackgroundMode) (files : FileSystem ℕ) (args : List CString)
      (images : List (SwaylockImage ℕ)), loadImages files args = .ok images →
      (buildCommand background mode images).reached ≤ commandSize := by
  intro fits
  have loaded : loadImages deepFile [longPath] = .ok [⟨longPath, none, 1⟩] := by decide +kernel
  have small := fits 0xA3A3A3FF .fill deepFile [longPath] _ loaded
  exact absurd small (by decide +kernel)

section Words

variable {Surface : Type}

/-- These are the arguments of `swaybg` for an image. -/
def imageArgs (mode : BackgroundMode) (image : SwaylockImage Surface) : List CString :=
  [ascii "-o", image.outputName.getD (ascii "*"), ascii "-i", image.path, ascii "-m", mode.name]

/-- These are the arguments of `swaybg`, where the color has six digits. -/
def swaybgArgs (background : UInt32) (mode : BackgroundMode) (images : List (SwaylockImage Surface)) : List CString :=
  [ascii "swaybg", ascii "-c", ascii "#" ++ sixDigits (background.toNat >>> 8)] ++ images.flatMap (imageArgs mode)

/-- The fields of the command for an image. -/
def imageFields (mode : BackgroundMode) (image : SwaylockImage Surface) : List ShellField :=
  [.bare (ascii "-o"), .quoted (image.outputName.getD (ascii "*")), .bare (ascii "-i"), .quoted image.path,
    .bare (ascii "-m"), .bare mode.name]

/-- The fields of the command behind its name. -/
def commandFields (background : UInt32) (mode : BackgroundMode) (images : List (SwaylockImage Surface)) :
    List ShellField :=
  [.bare (ascii "-c"), .quoted (ascii "#" ++ sixDigits (background.toNat >>> 8))] ++ images.flatMap (imageFields mode)

theorem mode_literal (mode : BackgroundMode) : (ShellField.bare mode.name).literal = true := by
  cases mode <;> decide

theorem mode_unquoted (mode : BackgroundMode) : 39 ∉ mode.name := by
  cases mode <;> decide

theorem sixDigits_unquoted (value : ℕ) : 39 ∉ ascii "#" ++ sixDigits value := by
  have digit : ∀ value < 16, hexDigit value ≠ 39 := by decide
  intro quote
  rcases List.mem_append.mp quote with sharp | digits
  · exact absurd sharp (by decide)
  · obtain ⟨shift, _, same⟩ := List.mem_map.mp digits
    exact digit _ (Nat.mod_lt _ (by decide)) same

theorem buildCommand_fields (background : UInt32) (mode : BackgroundMode) (images : List (SwaylockImage Surface)) :
    (buildCommand background mode images).text =
      renderFields (.bare (ascii "swaybg")) (commandFields background mode images) := by
  have field (image : SwaylockImage Surface) :
      imageText mode image = (imageFields mode image).flatMap fun field => 32 :: field.render := by
    simp [imageText, imageFields, ShellField.render, ascii]
  have color : colorText background = ascii "swaybg" ++
      ([.bare (ascii "-c"), .quoted (ascii "#" ++ sixDigits (background.toNat >>> 8))] : List ShellField).flatMap
        fun field => 32 :: field.render := by
    simp [colorText, ShellField.render, ascii]
  have fields : images.flatMap (imageText mode) =
      (images.flatMap (imageFields mode)).flatMap fun field => 32 :: field.render := by
    rw [List.flatMap_assoc]
    exact congrArg (images.flatMap ·) (funext field)
  rw [buildCommand_text, color, fields, renderFields, commandFields, List.flatMap_append, List.append_assoc]
  rfl

theorem commandFields_texts (background : UInt32) (mode : BackgroundMode) (images : List (SwaylockImage Surface)) :
    (ShellField.bare (ascii "swaybg") :: commandFields background mode images).map ShellField.text =
      swaybgArgs background mode images := by
  have args : (images.flatMap (imageFields mode)).map ShellField.text = images.flatMap (imageArgs mode) :=
    List.map_flatMap
  rw [List.map_cons, commandFields, List.map_append, args]
  rfl

theorem commandFields_cases {background : UInt32} {mode : BackgroundMode} {images : List (SwaylockImage Surface)}
    {field : ShellField} (member : field ∈ ShellField.bare (ascii "swaybg") :: commandFields background mode images) :
    field = .bare (ascii "swaybg") ∨ field = .bare (ascii "-c") ∨
      field = .quoted (ascii "#" ++ sixDigits (background.toNat >>> 8)) ∨
      ∃ image ∈ images, field ∈ imageFields mode image := by
  simpa [commandFields, or_assoc] using member

theorem commandFields_unquoted (background : UInt32) (mode : BackgroundMode) (images : List (SwaylockImage Surface)) :
    (∀ field ∈ ShellField.bare (ascii "swaybg") :: commandFields background mode images, 39 ∉ field.text) ↔
      ∀ image ∈ images, 39 ∉ image.outputName.getD [] ∧ 39 ∉ image.path := by
  have program : 39 ∉ ascii "swaybg" := by decide
  have option : 39 ∉ ascii "-c" ∧ 39 ∉ ascii "-o" ∧ 39 ∉ ascii "-i" ∧ 39 ∉ ascii "-m" := by decide
  have image (image : SwaylockImage Surface) : (∀ field ∈ imageFields mode image, 39 ∉ field.text) ↔
      39 ∉ image.outputName.getD [] ∧ 39 ∉ image.path := by
    have star : 39 ∉ ascii "*" := by decide
    have name : 39 ∉ image.outputName.getD (ascii "*") ↔ 39 ∉ image.outputName.getD [] := by
      cases image.outputName with
      | none => exact iff_of_true star List.not_mem_nil
      | some name => rfl
    simp [imageFields, ShellField.text, option, mode_unquoted, name]
  constructor
  · intro unquoted entry member
    refine (image entry).mp fun field inside => unquoted field (List.mem_cons_of_mem _ ?_)
    exact List.mem_append_right _ (List.mem_flatMap.mpr ⟨entry, member, inside⟩)
  · intro unquoted field member
    rcases commandFields_cases member with rfl | rfl | rfl | ⟨entry, there, inside⟩
    · exact program
    · exact option.1
    · exact sixDigits_unquoted _
    · exact (image entry).mpr (unquoted entry there) field inside

/-- The shell splits the default command into the arguments of `swaybg` exactly when no string of an image has a single
quote. -/
theorem buildCommand_words (background : UInt32) (mode : BackgroundMode) (images : List (SwaylockImage Surface)) :
    shellWords (buildCommand background mode images).text = some (swaybgArgs background mode images) ↔
      ∀ image ∈ images, 39 ∉ image.outputName.getD [] ∧ 39 ∉ image.path := by
  have literal : ∀ field ∈ ShellField.bare (ascii "swaybg") :: commandFields background mode images,
      field.literal = true := by
    have program : (ShellField.bare (ascii "swaybg")).literal = true := by decide
    have option : (ShellField.bare (ascii "-c")).literal = true ∧ (ShellField.bare (ascii "-o")).literal = true ∧
        (ShellField.bare (ascii "-i")).literal = true ∧ (ShellField.bare (ascii "-m")).literal = true := by decide
    intro field member
    rcases commandFields_cases member with rfl | rfl | rfl | ⟨image, _, inside⟩
    · exact program
    · exact option.1
    · rfl
    · simp only [imageFields, List.mem_cons, List.not_mem_nil, or_false] at inside
      rcases inside with rfl | rfl | rfl | rfl | rfl | rfl
      · exact option.2.1
      · rfl
      · exact option.2.2.1
      · rfl
      · exact option.2.2.2
      · exact mode_literal mode
  rw [buildCommand_fields, ← commandFields_texts, shellWords_fields_iff literal, commandFields_unquoted]

end Words

/-- The files of the example: no path has words, and only the path `it's.png` leads to an image. -/
def quotedFile : FileSystem ℕ where
  wordexp _ := none
  loadBackgroundImage path := if path = ascii "it's.png" then some 1 else none

/-- A path with a single quote ends the quotes of the command. -/
theorem quoted_path_misread :
    ¬ ∀ (background : UInt32) (mode : BackgroundMode) (files : FileSystem ℕ) (args : List CString)
      (images : List (SwaylockImage ℕ)), loadImages files args = .ok images →
      (buildCommand background mode images).reached ≤ commandSize →
      shellWords (buildCommand background mode images).text = some (swaybgArgs background mode images) := by
  intro words
  have loaded : loadImages quotedFile [ascii "it's.png"] = .ok [⟨ascii "it's.png", none, 1⟩] := by decide +kernel
  have split := words 0xA3A3A3FF .fill quotedFile [ascii "it's.png"] _ loaded (by decide +kernel)
  exact absurd split (by decide +kernel)

end SwaylockPlugin.Images
