import Screensaver.Fault
import Screensaver.FileTree
import Screensaver.Settings
import Screensaver.Text.Utf8

/-!
Where settings come from.

Settings are read from a single file, on top of the default ones. If a path is given, it is that
file, and a problem with it is an error. Otherwise it is the first usable one of the user's file,
the local file and the built-in text. A file that cannot be read or understood contributes nothing.

How a file is understood is left open: a decoder takes bytes and settings to new settings and, if
something is wrong, an error, whatever the settings then are. These settings are dropped. A decoder
may also raise a fault, and then nothing is loaded at all.
-/

namespace Screensaver.Settings

/-- Reads bytes on top of settings. -/
abbrev Decoder (ε : Type) := List UInt8 → Settings → Except Fault (Settings × Option ε)

/-- How the texts are understood that settings come from: files, and names of log levels. -/
structure Reading (ε : Type) where
  decode : Decoder ε
  level? : ByteText → Option Log.Level

/-- Why settings could not be loaded. -/
inductive LoadError (ε : Type) where
  | unreadable (path : String) (e : FileError)
  | malformed (path : String) (e : ε)

/-- What is said about settings that could not be loaded. -/
def LoadError.message {ε : Type} (describe : ε → String) : LoadError ε → String
  | .unreadable path e => "failed to read config " ++ path ++ ": " ++ e.message
  | .malformed path e => "failed to parse config " ++ path ++ ": " ++ describe e

/-- The directories in which files are looked for; the user's own need not be known. -/
structure Place where
  work : FileTree
  home : Option FileTree

/-- The file below the user's directory. -/
def userPath : String := ".randscreen/config.yaml"

/-- The file below the working directory. -/
def localPath : String := "configs/randscreen.yaml"

/-- The text used when there is no file. -/
def builtIn : String :=
  "\n".intercalate
    ["# randscreen defaults",
      "backend: console",
      "interval: 5ms",
      "seed: 0        # 0 = seed from the clock",
      "count: 0       # 0 = run until a key is pressed",
      "title: \"\"",
      "glyphs:",
      "  min: 32      # space",
      "  max: 126     # tilde",
      "log_level: info",
      ""]

variable {ε : Type}

/-- What bytes make of the default settings. With an error come the settings that it has left. -/
def parse (decode : Decoder ε) (bytes : List UInt8) : Except Fault (Settings × Option ε) :=
  decode bytes .default

/-- The settings of a file, if it can be read and understood. -/
def usable? (decode : Decoder ε) (tree : FileTree) (path : String) :
    Except Fault (Option Settings) := do
  match tree.read path with
  | .error _ => return none
  | .ok bytes =>
    match ← parse decode bytes with
    | (s, none) => return some s
    | (_, some _) => return none

/-- The settings of a given file. With an error come the default settings. -/
def loadFile (decode : Decoder ε) (tree : FileTree) (path : String) :
    Except Fault (Settings × Option (LoadError ε)) := do
  match tree.read path with
  | .error e => return (.default, some (.unreadable path e))
  | .ok bytes =>
    match ← parse decode bytes with
    | (s, none) => return (s, none)
    | (_, some e) => return (.default, some (.malformed path e))

/-- The settings of the user's file, if it is usable. -/
def userSettings? (decode : Decoder ε) (place : Place) : Except Fault (Option Settings) :=
  match place.home with
  | some home => usable? decode home userPath
  | none => .ok none

/-- The settings of the built-in text, or the default ones if it is not understood. -/
def lastResort (decode : Decoder ε) : Except Fault Settings := do
  match ← parse decode (Text.bytes builtIn) with
  | (s, none) => return s
  | (_, some _) => return .default

/-- The settings of the first usable file, or else of the built-in text. Files after the first usable
one are not looked at. -/
def search (decode : Decoder ε) (place : Place) : Except Fault Settings := do
  match ← userSettings? decode place with
  | some s => return s
  | none =>
    match ← usable? decode place.work localPath with
    | some s => return s
    | none => lastResort decode

/-- Loads settings from a path, or from the usual places if it is empty. -/
def load (decode : Decoder ε) (place : Place) (path : String) :
    Except Fault (Settings × Option (LoadError ε)) := do
  if path = "" then return (← search decode place, none)
  else loadFile decode place.work path

end Screensaver.Settings
