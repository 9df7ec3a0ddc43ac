/-!
The settings of a single run, after configuration files and options have been dealt with.
-/

namespace Screensaver

/-- What a run is given. A seed of zero asks for one from the clock, a count that is not positive
for no limit, and an empty title for none. -/
structure RunSettings where
  /-- The pause after each glyph, in nanoseconds. -/
  interval : Int64
  seed : Int64
  /-- The number of glyphs after which the run ends. -/
  count : Int64
  glyphMin : Int32
  glyphMax : Int32
  title : String
deriving DecidableEq

/-- Five milliseconds. -/
def defaultInterval : Int64 := 5000000

/-- A run with the default pause, without a limit, over all printable characters. -/
def RunSettings.default : RunSettings :=
  { interval := defaultInterval, seed := 0, count := 0, glyphMin := 32, glyphMax := 126,
    title := "" }

end Screensaver
