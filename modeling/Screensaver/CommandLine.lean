import Screensaver.Backends
import Screensaver.Settings.Decode
import Screensaver.CommandLine.Help
import Screensaver.Tables

/-!
The command line.

The first word that is not an option, nor the value of one, names a command if it can; without a
command the screensaver itself runs. The command's options may stand before its name as well. A
command takes no further words. Its text of help is shown if the options ask for it, and an error
shows its message and nothing else.
-/

namespace Screensaver.CommandLine

/-- The commands. -/
inductive Command where
  | saver
  | palette
  | backends
  | help
deriving DecidableEq

namespace Command

/-- The command of a name. -/
def ofName? : String → Option Command
  | "palette" => some .palette
  | "backends" => some .backends
  | "help" => some .help
  | _ => none

/-- The words by which a command is called. -/
def path : Command → String
  | .saver => "randscreen"
  | .palette => "randscreen palette"
  | .backends => "randscreen backends"
  | .help => "randscreen help"

/-- The options of a command. -/
def flags : Command → List Flag
  | .saver => .help :: Flag.saver
  | _ => .help :: Flag.everywhere

/-- The text that explains a command. -/
def explanation : Command → String
  | .saver => saverHelp
  | .palette => paletteHelp
  | .backends => backendsHelp
  | .help => helpHelp

end Command

/-! ### Finding the command -/

/-- Whether a word is an option whose value is the next word, as far as can be told without knowing
the options. -/
def takesNext (w : String) : Bool :=
  !w.contains '=' && (w.startsWith "--" || (w.startsWith "-" && w.utf8ByteSize = 2))

/-- The words that are neither options nor values. An option in front of the last word ends the
search. -/
def plainWords : List String → List String
  | [] => []
  | w :: rest =>
    if w = "--" then []
    else if takesNext w then
      match rest with
      | _ :: next :: rest => plainWords (next :: rest)
      | _ => []
    else if w = "" ∨ w.startsWith "-" then plainWords rest
    else w :: plainWords rest

/-- A command line without the first occurrence of a word that is neither an option nor a value. -/
def without (x : String) : List String → List String
  | [] => []
  | w :: rest =>
    if w = "--" then w :: rest
    else if takesNext w then
      match rest with
      | value :: rest => w :: value :: without x rest
      | [] => [w]
    else if w = x ∧ !w.startsWith "-" then rest
    else w :: without x rest

/-- The command that a command line calls, and what is left for it. -/
def find (args : List String) : Command × List String :=
  match plainWords args with
  | [] => (.saver, args)
  | w :: _ =>
    match Command.ofName? w with
    | some c => (c, without w args)
    | none => (.saver, args)

/-! ### Carrying it out -/

/-- What the program can see. -/
structure World where
  place : Settings.Place
  profile : Profile
  registry : Registry Runner
  /-- What stands for the time in the log. -/
  stamp : String

/-- What the program does. -/
structure Reply where
  exitCode : Nat
  output : ByteText
  errors : String
  files : FileTree

/-- A reply that only shows a text. -/
def shows (w : World) (text : ByteText) : Reply :=
  { exitCode := 0, output := text, errors := "", files := w.place.work }

/-- A reply that only complains. -/
def complains (files : FileTree) (message : String) : Reply :=
  { exitCode := 1, output := .ofString "", errors := "Error: " ++ message ++ "\n", files }

/-- A reply to a fault, which is no error of the user. -/
def breaksDown (files : FileTree) (f : Fault) : Reply :=
  { exitCode := 2, output := .ofString "", errors := "panic: " ++ f.message ++ "\n", files }

/-- Runs the screensaver. -/
def saver (w : World) (o : Options) : Reply :=
  let r := Saver.run Settings.reading w.registry w.place w.stamp o
  match r.error with
  | some (.fault f) => breaksDown r.files f
  | some e => complains r.files (e.message Settings.DecodeError.message)
  | none => { exitCode := 0, output := .ofString "", errors := "", files := r.files }

/-- Carries out a command with its options and the words that are left. -/
def perform (w : World) (c : Command) (o : Options) (words : List String) : Reply :=
  if o.help then shows w (.ofString c.explanation)
  else
    match c, words with
    | .help, words => shows w (.ofString (find words).1.explanation)
    | c, x :: _ =>
      complains w.place.work ("unknown command " ++ Text.quoted x ++ " for " ++ Text.quoted c.path)
    | .saver, [] => saver w o
    | .palette, [] => shows w (Tables.palette w.profile)
    | .backends, [] => shows w (Tables.backends w.registry)

/-- Carries out a command line. -/
def run (w : World) (args : List String) : Reply :=
  let (c, rest) := find args
  match Options.parse c.flags rest with
  | .error e => complains w.place.work e.message
  | .ok (o, words) => perform w c o words

end Screensaver.CommandLine
