import SwaylockPlugin.Library.Outcome
import SwaylockPlugin.Library.Shell

namespace SwaylockPlugin.Images

open Library

/-- A string is the list of its bytes before the null byte. -/
abbrev CString := List UInt8

/-- The bytes of a text without other than ASCII characters. -/
def ascii (text : String) : CString := text.toList.map fun letter => UInt8.ofNat letter.toNat

/-- This is the `strcmp` function, as far as its sign matters. -/
def strcmp : CString → CString → Int
  | [], [] => 0
  | [], _ :: _ => -1
  | _ :: _, [] => 1
  | one :: first, two :: second => if one = two then strcmp first second else if one < two then -1 else 1

/-- This is `lenient_strcmp`, where the null pointer is `none`. -/
def lenientStrcmp : Option CString → Option CString → Int
  | none, none => 0
  | none, some _ => -1
  | some _, none => 1
  | some first, some second => strcmp first second

structure SwaylockImage (Surface : Type) where
  path : CString
  outputName : Option CString
  cairoSurface : Surface
  deriving DecidableEq

variable {Surface : Type}

/-- The walk of `select_image` returns the image of the output and remembers the last image without a name. -/
def selectFrom (outputName : Option CString) (defaultImage : Option Surface) :
    List (SwaylockImage Surface) → Option Surface
  | [] => defaultImage
  | image :: rest =>
      if lenientStrcmp image.outputName outputName = 0 then some image.cairoSurface
      else if image.outputName.isNone then selectFrom outputName (some image.cairoSurface) rest
      else selectFrom outputName defaultImage rest

/-- This is `select_image`. -/
def selectImage (images : List (SwaylockImage Surface)) (outputName : Option CString) : Option Surface :=
  selectFrom outputName none images

/-- The words that `wordexp` finds in a path, unless it fails, and the image that is read from a path, unless it cannot
be read. -/
structure FileSystem (Surface : Type) where
  wordexp : CString → Option (List CString)
  loadBackgroundImage : CString → Option Surface

/-- The arguments of an image are an output and a path with a colon between them. -/
def separate (arg : CString) : Option CString × CString :=
  match arg.dropWhile (· != 58) with
  | [] => (none, arg)
  | _ :: path =>
      let name := arg.takeWhile (· != 58)
      (if name.isEmpty then none else some name, path)

/-- The walk along the images takes out the first one for the same output. -/
def removeImage (outputName : Option CString) : List (SwaylockImage Surface) → List (SwaylockImage Surface)
  | [] => []
  | image :: rest =>
      if lenientStrcmp image.outputName outputName = 0 then rest else image :: removeImage outputName rest

/-- The first space behind another one gets a backslash, where there is one. -/
def escapeSpace : CString → Option CString
  | 32 :: 32 :: rest => some (32 :: 92 :: 32 :: rest)
  | byte :: rest => (escapeSpace rest).map (byte :: ·)
  | [] => none

/-- Every space behind another one gets a backslash. -/
def escapeSpaces : CString → CString
  | 32 :: 32 :: rest => 32 :: 92 :: escapeSpaces (32 :: rest)
  | byte :: rest => byte :: escapeSpaces rest
  | [] => []

/-- A call stops the program where the assertion of `join_args` fails. -/
inductive ImageFault where
  | noArguments
  deriving DecidableEq

/-- This is `join_args`, with a space between the arguments. -/
def joinArgs (argv : List CString) : Except ImageFault CString := do
  require .noArguments (!argv.isEmpty)
  return [32].intercalate argv

/-- The path of an image is expanded where that succeeds. -/
def expandPath (files : FileSystem Surface) (path : CString) : Except ImageFault CString :=
  match files.wordexp (escapeSpaces path) with
  | some argv => joinArgs argv
  | none => .ok (escapeSpaces path)

/-- This is `load_image`, which inserts at the head of the list. -/
def loadImage (files : FileSystem Surface) (arg : CString) (images : List (SwaylockImage Surface)) :
    Except ImageFault (List (SwaylockImage Surface)) := do
  let (outputName, path) := separate arg
  let images := removeImage outputName images
  let path ← expandPath files path
  match files.loadBackgroundImage path with
  | none => return images
  | some cairoSurface => return { path, outputName, cairoSurface } :: images

/-- The images of several arguments are loaded one after the other. -/
def loadImages (files : FileSystem Surface) (args : List CString) : Except ImageFault (List (SwaylockImage Surface)) :=
  args.foldlM (fun images arg => loadImage files arg images) []

/-- These are the values of `background_mode`. -/
inductive BackgroundMode where
  | stretch
  | fill
  | fit
  | center
  | tile
  | solidColor
  | invalid
  deriving DecidableEq

/-- The name of a mode in the command. -/
def BackgroundMode.name : BackgroundMode → CString
  | .stretch => ascii "stretch"
  | .fill => ascii "fill"
  | .fit => ascii "fit"
  | .center => ascii "center"
  | .tile => ascii "tile"
  | .solidColor | .invalid => ascii "solid_color"

/-- A hexadecimal digit in lower case. -/
def hexDigit (value : ℕ) : UInt8 := if value < 10 then UInt8.ofNat (48 + value) else UInt8.ofNat (87 + value)

/-- The conversion `%06x` of a value with at most 24 bits. -/
def sixDigits (value : ℕ) : CString :=
  [20, 16, 12, 8, 4, 0].map fun shift => hexDigit (value >>> shift % 16)

/-- The beginning of the default command with the color in hexadecimal digits. -/
def colorText (background : UInt32) : CString :=
  ascii "swaybg -c '#" ++ sixDigits (background.toNat >>> 8) ++ ascii "'"

/-- The part of the default command for an image. -/
def imageText (mode : BackgroundMode) (image : SwaylockImage Surface) : CString :=
  ascii " -o '" ++ image.outputName.getD (ascii "*") ++ ascii "' -i '" ++ image.path ++ ascii "' -m " ++ mode.name

/-- The buffer of the default command is written up to an offset, and the highest byte so far is remembered. -/
structure CommandBuffer where
  text : CString
  reached : ℕ

/-- A call of `sprintf` writes its text at the offset, and a null byte behind it. -/
def CommandBuffer.sprintf (buffer : CommandBuffer) (text : CString) : CommandBuffer where
  text := buffer.text ++ text
  reached := max buffer.reached (buffer.text.length + text.length + 1)

/-- The default command is built with one call for the color and one for each image. -/
def buildCommand (background : UInt32) (mode : BackgroundMode) (images : List (SwaylockImage Surface)) :
    CommandBuffer :=
  images.foldl (fun buffer image => buffer.sprintf (imageText mode image))
    ((⟨[], 0⟩ : CommandBuffer).sprintf (colorText background))

/-- This is the size of the buffer. -/
def commandSize : ℕ := 2048

end SwaylockPlugin.Images
