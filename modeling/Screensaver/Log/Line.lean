import Screensaver.Log
import Screensaver.Styled
import Screensaver.Text.Quoted

/-!
Log entries as lines of text.

A line holds, separated by single spaces, the time if the log keeps it, the level, the log's own
heading if it has one, the message and the named values. A value is put in quotes if it would not
stand out as one word. A value of several lines is set below its name, each line indented behind a
bar. A log writes the entries whose level reaches its threshold.
-/

namespace Screensaver.Log

/-- How a log writes its lines. -/
structure Format where
  threshold : Level
  /-- What stands for the time of writing, if that is kept. -/
  stamp : Option String
  /-- What stands before every message; nothing if empty. -/
  heading : String
deriving DecidableEq

/-- A log that keeps no time and has no heading. -/
def Format.bare (threshold : Level) : Format :=
  { threshold, stamp := none, heading := "" }

/-- Whether a character keeps a value from being one plain word. -/
def needsQuotes (c : Char) : Bool :=
  c = ' ' || c = '"' || c = '=' || c = Char.ofNat 0xFFFD || !Text.isPrintable c

/-- A character of a value. -/
def escape (quotes : Bool) (c : Char) : List Char :=
  if quotes && c = '"' then ['\\', '"']
  else if Text.isPrintable c then [c]
  else Text.escaped (· < 0x20) c

/-- A value with its characters escaped. -/
def escapeAll (quotes : Bool) (value : String) : String :=
  .ofList (value.toList.flatMap (escape quotes))

/-- A value of a single line. -/
def word (value : String) : String :=
  if value = "" then "\"\""
  else if value.toList.any needsQuotes then "\"" ++ escapeAll true value ++ "\""
  else value

/-- The lines of a value, each behind a bar. An empty last line is left out, and the last line is
ended only if `more` follows. -/
def indented (more : Bool) : List String → String
  | [] => ""
  | [last] =>
    if last = "" then "" else "  │ " ++ escapeAll false last ++ if more then "\n" else ""
  | line :: rest => "  │ " ++ escapeAll false line ++ "\n" ++ indented more rest

/-- A heading of any kind, with lines of equal width if there are several. -/
def title (s : String) : String :=
  Styled.block .plain [] [] (Styled.untab s)

/-- A name with its value. -/
def field (more : Bool) (name value : String) : String :=
  if value.contains '\n' then
    "\n  " ++ title name ++ "=\n" ++ indented more (value.splitOn "\n")
  else " " ++ title name ++ "=" ++ word value

/-- What a named value adds to a line. Some names are those of the parts of a line itself: a value
so named is written as that part, and a time or a level is never given as text. A value without a
name is left out. -/
def part (more : Bool) (name value : String) : String :=
  match name with
  | "" | "time" | "level" => ""
  | "caller" => " " ++ title ("<" ++ value ++ ">")
  | "prefix" => " " ++ title (value ++ ":")
  | "msg" => " " ++ Styled.untab value
  | _ => field more name value

/-- What a name adds to a line whose value was forgotten. Only a message can say that it is missing;
the other parts of a line are then left out. -/
def lonePart (name : String) : String :=
  match name with
  | "caller" | "prefix" => ""
  | _ => part false name "missing value"

/-- The named values of a line. -/
def parts (forgotten : Option String) : List (String × String) → String
  | [] => (forgotten.map lonePart).getD ""
  | (name, value) :: rest =>
    part (!rest.isEmpty || forgotten.isSome) name value ++ parts forgotten rest

/-- A line, with the newline at its end. -/
def line (f : Format) (e : Entry) : String :=
  (f.stamp.map (· ++ " ")).getD "" ++ e.level.label ++
    (if f.heading = "" then "" else " " ++ f.heading ++ ":") ++
    (if e.message = "" then "" else " " ++ Styled.untab e.message) ++ parts e.forgotten e.fields ++ "\n"

/-- Whether a log writes entries of a level. -/
def Format.accepts (f : Format) (l : Level) : Bool :=
  f.threshold.rank ≤ l.rank

/-- What a log writes for a sequence of entries. -/
def render (f : Format) (es : List Entry) : String :=
  String.join ((es.filter fun e => f.accepts e.level).map (line f))

/-- Pairs up names and values; the last name may be left over. -/
def pairs : List String → List (String × String) × Option String
  | [] => ([], none)
  | [name] => ([], some name)
  | name :: value :: rest =>
    let (more, forgotten) := pairs rest
    ((name, value) :: more, forgotten)

/-- The entry of a message and a sequence of names and values. -/
def Entry.ofWords (level : Level) (message : String) (words : List String) : Entry :=
  let (fields, forgotten) := pairs words
  { level, message, fields, forgotten }

end Screensaver.Log
