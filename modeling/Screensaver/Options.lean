import Screensaver.Number.Integer
import Screensaver.Settings

/-!
Options on a command line.

An option is a word that starts with two dashes. Its value follows after an equals sign or is the
next word. A word that starts with one dash holds letters that stand for options. Two dashes alone
end the options. All other words, and a single dash, are left for the command. Options and other
words may be mixed, and of an option given twice the last value counts.

An option that was given replaces the setting that a file has given, whatever its value.
-/

namespace Screensaver

/-- The options there are. -/
inductive Flag where
  | config
  | seed
  | logLevel
  | logFile
  | backend
  | interval
  | count
  | title
  | help
deriving DecidableEq

namespace Flag

def name : Flag → String
  | .config => "config"
  | .seed => "seed"
  | .logLevel => "log-level"
  | .logFile => "log-file"
  | .backend => "backend"
  | .interval => "interval"
  | .count => "count"
  | .title => "title"
  | .help => "help"

/-- How an option is called in complaints. -/
def label : Flag → String
  | .help => "-h, --help"
  | f => "--" ++ f.name

/-- The options of every command. -/
def everywhere : List Flag := [.config, .seed, .logLevel, .logFile]

/-- The options of the screensaver itself. -/
def saver : List Flag := everywhere ++ [.backend, .interval, .count, .title]

end Flag

/-- The values of the options that were given. -/
structure Options where
  config : Option String
  seed : Option Int64
  logLevel : Option String
  logFile : Option String
  backend : Option String
  interval : Option Int64
  count : Option Int64
  title : Option String
  help : Bool
deriving DecidableEq

/-- What is wrong with a command line. -/
inductive OptionError where
  | malformed (word : String)
  | unknown (name : String)
  /-- A letter that stands for no option, and the letters from there on. -/
  | unknownLetter (letters : String)
  | missingValue (f : Flag)
  | badValue (f : Flag) (value reason : String)
  /-- Help was asked for where it is no option. -/
  | helpRequested
deriving DecidableEq

/-- The character with the code of the first byte of a text. -/
def OptionError.firstByte (s : String) : Char :=
  Char.ofNat ((Text.bytes s).head?.getD 0).toNat

/-- How the letter that stands for no option is shown: the first byte of the letters taken as a
character, and of that character's bytes again the first. -/
def OptionError.shownLetter (letters : String) : Char :=
  firstByte (String.singleton (firstByte letters))

def OptionError.message : OptionError → String
  | .malformed word => "bad flag syntax: " ++ word
  | .unknown name => "unknown flag: --" ++ name
  | .unknownLetter letters =>
    "unknown shorthand flag: " ++ Text.quotedLetter (shownLetter letters) ++ " in -" ++ letters
  | .missingValue f => "flag needs an argument: --" ++ f.name
  | .badValue f value reason =>
    "invalid argument " ++ Text.quoted value ++ " for " ++ Text.quoted f.label ++ " flag: " ++ reason
  | .helpRequested => "pflag: help requested"

namespace Options

/-- No option was given. -/
def none : Options :=
  { config := .none, seed := .none, logLevel := .none, logFile := .none, backend := .none,
    interval := .none, count := .none, title := .none, help := false }

/-! ### Values -/

/-- A truth value. -/
def boolean (s : String) : Except String Bool :=
  if s ∈ ["1", "t", "T", "TRUE", "true", "True"] then .ok true
  else if s ∈ ["0", "f", "F", "FALSE", "false", "False"] then .ok false
  else .error ("strconv.ParseBool: parsing " ++ Text.quoted s ++ ": invalid syntax")

/-- An integer. -/
def integer (s : String) : Except String Int64 :=
  (Number.integer s.toList).mapError (·.message s)

/-- A length of time. -/
def duration (s : String) : Except String Int64 :=
  (Duration.parse s).mapError (·.message s)

/-- Takes a value for an option. -/
def set (f : Flag) (value : String) (o : Options) : Except OptionError Options :=
  (taken f).mapError (.badValue f value)
where
  taken : Flag → Except String Options
    | .config => .ok { o with config := some value }
    | .seed => (integer value).map fun n => { o with seed := some n }
    | .logLevel => .ok { o with logLevel := some value }
    | .logFile => .ok { o with logFile := some value }
    | .backend => .ok { o with backend := some value }
    | .interval => (duration value).map fun n => { o with interval := some n }
    | .count => (integer value).map fun n => { o with count := some n }
    | .title => .ok { o with title := some value }
    | .help => (boolean value).map fun b => { o with help := b }

/-! ### Words -/

/-- What a word is. -/
inductive Word where
  | plain
  | endOfOptions
  | malformed
  /-- An option, with its value if that is part of the word. -/
  | option (name : String) (value : Option String)
  | letters (cs : List Char)

/-- The name of an option and its value, which are separated by an equals sign. -/
def splitValue (cs : List Char) : String × Option String :=
  match cs.dropWhile (· ≠ '=') with
  | _ :: value => (.ofList (cs.takeWhile (· ≠ '=')), some (.ofList value))
  | [] => (.ofList cs, .none)

/-- Tells what a word is. -/
def classify (w : String) : Word :=
  match w.toList with
  | ['-', '-'] => .endOfOptions
  | '-' :: '-' :: c :: cs =>
    if c = '-' ∨ c = '=' then .malformed
    else
      let (name, value) := splitValue (c :: cs)
      .option name value
  | '-' :: c :: cs => .letters (c :: cs)
  | _ => .plain

/-- Takes letters that stand for options. Only help has one, and it may be followed by a value
after an equals sign. Letters that begin with `test.` are passed over. -/
def setLetters (known : List Flag) : Options → List Char → Except OptionError Options
  | o, [] => .ok o
  | o, c :: cs =>
    if ['t', 'e', 's', 't', '.'].isPrefixOf (c :: cs) then .ok o
    else if c = 'h' then
      if known.contains .help then
        match cs with
        | '=' :: v :: value => o.set .help (.ofList (v :: value))
        | cs => setLetters known { o with help := true } cs
      else .error .helpRequested
    else .error (.unknownLetter (.ofList (c :: cs)))

/-- Takes the options of a command line off it, and gives them with the words that are left. -/
def parseFrom (known : List Flag) :
    Options → List String → Except OptionError (Options × List String)
  | o, [] => .ok (o, [])
  | o, w :: rest =>
    match classify w with
    | .plain => (parseFrom known o rest).map fun (o, words) => (o, w :: words)
    | .endOfOptions => .ok (o, rest)
    | .malformed => .error (.malformed w)
    | .letters cs => setLetters known o cs >>= fun o => parseFrom known o rest
    | .option name value =>
      match known.find? fun f => f.name = name with
      | .none => .error (if name = "help" then .helpRequested else .unknown name)
      | some f =>
        match value, rest with
        | some v, rest => o.set f v >>= fun o => parseFrom known o rest
        | .none, rest =>
          if f = .help then parseFrom known { o with help := true } rest
          else
            match rest with
            | [] => .error (.missingValue f)
            | v :: rest => o.set f v >>= fun o => parseFrom known o rest

/-- Takes the options of a command line off it. -/
def parse (known : List Flag) (args : List String) : Except OptionError (Options × List String) :=
  parseFrom known none args

/-- Settings with the given options in place of their own values. -/
def overlay (o : Options) (s : Settings) : Settings :=
  { s with
    backend := (o.backend.map .ofString).getD s.backend
    interval := o.interval.getD s.interval
    count := o.count.getD s.count
    title := o.title.getD s.title
    seed := o.seed.getD s.seed
    logLevel := (o.logLevel.map .ofString).getD s.logLevel }

end Options

end Screensaver
