import Screensaver.Log.Line
import Screensaver.Loop
import Screensaver.Options
import Screensaver.Registry
import Screensaver.Settings.Load

/-!
A run of the screensaver, from options and files to what is left afterwards.

The settings are loaded, the options laid over them, and the result checked. Then the backend is
looked up and the log opened. Each of these stages meets the files as the one before has left them,
and the first that fails ends the run there. Only then does the backend run, once. What it reports
goes to the log, between an entry about the start and one about the end.
-/

namespace Screensaver

/-- How a run ended. -/
structure RunResult where
  reason : StopReason
  painted : Int64
deriving DecidableEq

/-- Why a backend could not run. -/
inductive RunError where
  /-- It needs a terminal and has none. -/
  | notTerminal
  /-- It was ended from outside. -/
  | killed
  | failed (text : String)
deriving DecidableEq

def RunError.message : RunError → String
  | .notTerminal => "console: stdout is not a terminal"
  | .killed => "tui: program was killed: context canceled"
  | .failed text => text

/-- What a backend leaves behind: what it reported, and how its run ended. -/
structure RunOutcome where
  entries : List Log.Entry
  result : Except RunError RunResult

/-- How a backend runs. -/
abbrev Runner := RunSettings → RunOutcome

/-- Why a run of the screensaver failed. -/
inductive SaverError (ε : Type) where
  /-- Loading the settings raised a fault. -/
  | fault (f : Fault)
  | load (e : Settings.LoadError ε)
  | unfit (u : Unfit)
  | unknownBackend (u : UnknownBackend)
  | log (e : FileError)
  | run (e : RunError)

/-- What is said about a run that failed. -/
def SaverError.message {ε : Type} (describe : ε → String) : SaverError ε → String
  | .fault f => f.message
  | .load e => e.message describe
  | .unfit u => u.message
  | .unknownBackend u => u.message ++ " (run 'randscreen backends' to see available backends)"
  | .log e => "cannot open log file: " ++ e.message
  | .run e => e.message

namespace Saver

variable {ε ρ : Type}

/-- The settings of a run: loaded, with the options laid over them, and checked. If loading fails
the options do not matter. -/
def settings (reading : Settings.Reading ε) (place : Settings.Place) (o : Options) :
    Except Fault (Settings × Option (SaverError ε)) := do
  match ← Settings.load reading.decode place (o.config.getD "") with
  | (s, some e) => return (s, some (.load e))
  | (s, none) => return (o.overlay s, ((o.overlay s).unfit? reading.level?).map .unfit)

/-! ### The log -/

/-- Where a log is written to, if anywhere. -/
structure OpenLog where
  place : Option (List String)

/-- Opens a log; without a path it is discarded. -/
def openLog (path : String) : EStateM FileError FileTree OpenLog := do
  if path = "" then return ⟨none⟩
  else return ⟨some (← FileTree.openToAppend path)⟩

/-- The log of a run. -/
def logFormat (level : Log.Level) (stamp : String) : Log.Format :=
  { threshold := level, stamp := some stamp, heading := "randscreen" }

/-- The files after entries have been written to a log. -/
def OpenLog.write (l : OpenLog) (f : Log.Format) (es : List Log.Entry) (t : FileTree) : FileTree :=
  match l.place with
  | some place => t.append place (Text.bytes (Log.render f es))
  | none => t

/-! ### Stages -/

/-- A run that is about to start. -/
structure Ready (ρ : Type) where
  settings : Settings
  backend : Backend ρ
  log : OpenLog

/-- Loads and checks the settings. -/
def readSettings (reading : Settings.Reading ε) (home : Option FileTree) (o : Options) :
    EStateM (SaverError ε) FileTree Settings := do
  match settings reading ⟨← get, home⟩ o with
  | .error f => throw (.fault f)
  | .ok (_, some e) => throw e
  | .ok (s, none) => return s

/-- Looks up a backend. -/
def lookUp (registry : Registry ρ) (name : ByteText) : EStateM (SaverError ε) FileTree (Backend ρ) :=
  match registry.get name with
  | .error u => throw (.unknownBackend u)
  | .ok backend => return backend

/-- Does everything that comes before the backend runs. -/
def prepare (reading : Settings.Reading ε) (registry : Registry ρ) (home : Option FileTree)
    (o : Options) : EStateM (SaverError ε) FileTree (Ready ρ) := do
  let settings ← readSettings reading home o
  let backend ← lookUp registry settings.backend
  let log ← (openLog (o.logFile.getD "")).adaptExcept .log
  return { settings, backend, log }

/-! ### Runs -/

/-- The entry about the start of a run. -/
def Ready.startEntry (r : Ready ρ) : Log.Entry :=
  { level := .info, message := "starting"
    fields := [("backend", r.backend.name.text), ("interval", Duration.print r.settings.interval),
      ("count", toString r.settings.count.toInt)] }

/-- The entry about the end of a run. -/
def Ready.endEntry (r : Ready ρ) : Except RunError RunResult → Log.Entry
  | .ok result =>
    { level := .info, message := "stopped"
      fields := [("reason", result.reason.name), ("glyphs", toString result.painted.toInt)] }
  | .error e =>
    { level := .error, message := "backend failed"
      fields := [("backend", r.backend.name.text), ("error", e.message)] }

/-- What a run comes to: the files it leaves, the backend that ran with what it was given, and what
went wrong. -/
structure Report (ε : Type) where
  files : FileTree
  ran : Option (ByteText × RunSettings)
  error : Option (SaverError ε)

/-- A run of the screensaver, with whatever running a backend does besides. `stamp` stands for the
time in the log. -/
def runIn {m : Type → Type} [Monad m] (reading : Settings.Reading ε)
    (registry : Registry (RunSettings → m RunOutcome)) (place : Settings.Place) (stamp : String)
    (o : Options) : m (Report ε) :=
  match prepare reading registry place.home o place.work with
  | .error e files => return { files, ran := none, error := some e }
  | .ok r files => do
    let format := logFormat (r.settings.level reading.level?) stamp
    let files := r.log.write format [r.startEntry] files
    let out ← r.backend.runner r.settings.runSettings
    return {
      files := r.log.write format (out.entries ++ [r.endEntry out.result]) files
      ran := some (r.backend.name, r.settings.runSettings)
      error := match out.result with
        | .ok _ => none
        | .error e => some (.run e) }

/-- A run of the screensaver on backends that do nothing besides. -/
def run (reading : Settings.Reading ε) (registry : Registry Runner) (place : Settings.Place)
    (stamp : String) (o : Options) : Report ε :=
  Id.run (runIn reading registry place stamp o)

end Saver

end Screensaver
