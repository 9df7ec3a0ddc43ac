import Screensaver.Duration
import Screensaver.Log
import Screensaver.Picker
import Screensaver.RunSettings
import Screensaver.Text.ByteText

/-!
The settings of the screensaver, as files and options give them.

Settings are checked before a run: there has to be a backend, a positive pause, no negative count, a
range of printable glyphs that is not inverted, and a log level that exists. The first of these that
fails is what is reported. Which names of log levels there are is up to the log, so settings are
checked with any function that knows them.
-/

namespace Screensaver

/-- Every setting of a run. -/
structure Settings where
  backend : ByteText
  /-- The pause after each glyph, in nanoseconds. -/
  interval : Int64
  seed : Int64
  count : Int64
  title : String
  glyphMin : Int64
  glyphMax : Int64
  logLevel : ByteText
deriving DecidableEq

/-- What makes settings unfit for a run. -/
inductive Unfit where
  | noBackend
  | interval (nanoseconds : Int64)
  | count (n : Int64)
  | unprintable (least greatest : Int64)
  | inverted (least greatest : Int64)
  | logLevel (name : ByteText)
deriving DecidableEq

/-- A range of numbers in brackets. -/
def Unfit.range (least greatest : Int64) : String :=
  "[" ++ toString least.toInt ++ ", " ++ toString greatest.toInt ++ "]"

def Unfit.message (u : Unfit) : String :=
  "invalid config: " ++ match u with
  | .noBackend => "backend is empty"
  | .interval d => "interval must be positive, got " ++ Duration.print d
  | .count n => "count must not be negative, got " ++ toString n.toInt
  | .unprintable a b => "glyphs must lie within [32, 126], got " ++ range a b
  | .inverted a b => "glyph range " ++ range a b ++ " is inverted"
  | .logLevel s =>
    "log_level " ++ s.quoted ++ ": invalid level: " ++ s.quoted

namespace Settings

/-- The settings without files and options. -/
def default : Settings :=
  { backend := .ofString "console", interval := defaultInterval, seed := 0, count := 0, title := "",
    glyphMin := 32, glyphMax := 126, logLevel := .ofString "info" }

/-- The first reason why settings are unfit for a run, if there is one. -/
def unfit? (level? : ByteText → Option Log.Level) (s : Settings) : Option Unfit :=
  if s.backend.isEmpty then some .noBackend
  else if s.interval ≤ 0 then some (.interval s.interval)
  else if s.count < 0 then some (.count s.count)
  else if s.glyphMin < 32 ∨ 126 < s.glyphMax then some (.unprintable s.glyphMin s.glyphMax)
  else if s.glyphMax < s.glyphMin then some (.inverted s.glyphMin s.glyphMax)
  else if (level? s.logLevel).isNone then some (.logLevel s.logLevel)
  else none

/-- The level of the log; an unknown name stands for the usual one. -/
def level (level? : ByteText → Option Log.Level) (s : Settings) : Log.Level :=
  (level? s.logLevel).getD .info

/-- The settings as a run takes them. Glyph codes are cut to 32 bits. -/
def runSettings (s : Settings) : RunSettings :=
  { interval := s.interval, seed := s.seed, count := s.count, glyphMin := s.glyphMin.toInt32,
    glyphMax := s.glyphMax.toInt32, title := s.title }

end Settings

end Screensaver
