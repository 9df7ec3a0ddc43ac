import Std.Time.Format
import Screensaver.CommandLine
import Screensaver.Console.Ansi

/-!
The program.

It takes a look at the files its command line may need, asks the command line what to do, and does
it. Only a run on a real terminal is carried out here, step by step, because it takes its time and
reads keys; the terminal hands over a key press with the line it belongs to.
-/

namespace Screensaver.Program

/-! ### Files -/

/-- What is at a path on the disk. -/
def entryAt (path : String) : IO (Option FileEntry) := do
  let path := (← IO.currentDir) / path
  if ← path.isDir then return some .directory
  try return some (.file (← IO.FS.readBinFile path).data.toList)
  catch _ => return none

/-- Takes up what is on the way along some names, as far as there is something. -/
def look (disk : String) (place : List String) : List String → FileTree → IO FileTree
  | [], t => return t
  | name :: rest, t => do
    if name = "" ∨ name = "." then look disk place rest t
    else if name = ".." then look (disk ++ "/..") (FileTree.parent place) rest t
    else
      let disk := disk ++ "/" ++ name
      let place := place ++ [name]
      match ← entryAt disk with
      | some e => look disk place rest (t.put place e)
      | none => return t

/-- Takes up what is on the way along a path below a directory. -/
def lookAt (base path : String) (t : FileTree) : IO FileTree :=
  let names := path.splitOn "/"
  if path.startsWith "/" then look "" ["/"] names t
  else look base [] names t

/-- The files that settings and log may be in. -/
def place (o : Options) : IO Settings.Place := do
  let mut work ← lookAt "." Settings.localPath .empty
  for path in o.config.toList ++ o.logFile.toList do
    work ← lookAt "." path work
  let home ← match ← IO.getEnv "HOME" with
    | some dir => if dir = "" then pure none else some <$> lookAt dir Settings.userPath .empty
    | none => pure none
  return { work, home }

/-- Writes at the end of a file. -/
def appendTo (path text : String) : IO Unit := do
  let h ← IO.FS.Handle.mk path .append
  h.putStr text

/-! ### The terminal -/

/-- A number from the environment. -/
def numberFrom (name : String) (usual : Int64) : IO Int64 := do
  match (← IO.getEnv name).bind String.toNat? with
  | some n => return if n = 0 then usual else .ofNat n
  | none => return usual

/-- What the program is connected to. -/
def device : IO Backends.Device := do
  if ← (← IO.getStdout).isTty then
    return .terminal (← numberFrom "COLUMNS" 80) (← numberFrom "LINES" 24)
  else return .none

/-- Whether the output is to have colours. -/
def profile (d : Backends.Device) : IO Profile := do
  if (← IO.getEnv "CLICOLOR_FORCE").isSome then return .colored
  return if d = .none then .plain else .colored

/-- Writes at once. -/
def write (text : String) : IO Unit := do
  let out ← IO.getStdout
  out.putStr text
  out.flush

/-- Writes bytes at once. -/
def writeBytes (text : ByteText) : IO Unit := do
  let out ← IO.getStdout
  out.write ⟨text.bytes.toArray⟩
  out.flush

/-- Lets nanoseconds pass. -/
def sleep (nanoseconds : Int64) : IO Unit :=
  IO.sleep (.ofNat (nanoseconds.toNatClampNeg / 1000000))

/-- Waits for a key press in the background. -/
def awaitKey : BaseIO (Task (Except IO.Error String)) := do
  let input ← IO.getStdin
  IO.asTask input.getLine

/-- What is done with a loop on a real terminal. -/
abbrev Live := ExceptT Fault (StateT (Loop Console) IO)

instance : MonadLift (EStateM Fault (Loop Console)) Live where
  monadLift step := ExceptT.mk fun l =>
    match step l with
    | .ok a l => return (.ok a, l)
    | .error e l => return (.error e, l)

/-- Shows what a console has told its display. -/
def flush : StateT (Loop Console) IO Unit := do
  write (DisplayCall.sequences (← get).terminal.calls.toList)
  modify fun l => { l with terminal := { l.terminal with calls := #[] } }

/-- Lets the loop's interval pass, after which a key press waits in the console's queue. -/
def pause (key : Task (Except IO.Error String)) : Live Unit := do
  flush
  sleep (← getThe (Loop Console)).interval
  if ← IO.hasFinished key then
    modifyThe (Loop Console) fun l => { l with terminal := l.terminal.post .key }

/-- Takes turns until the loop has stopped. -/
partial def turns (key : Task (Except IO.Error String)) : Live StopReason := do
  if ← Loop.turnIn (pause key) fun _ : Console => false then turns key
  else return (← getThe (Loop Console)).reason

/-- Runs cell by cell. -/
def runConsole (width height clock : Int64) (config : RunSettings) : IO RunOutcome := do
  let fresh := Loop.new clock (Console.new width height) config
  let (came, l) ← (turns (← awaitKey)).run.run fresh.start
  let r := Loop.settle <| match came with
    | .ok reason => .ok reason l
    | .error e => .error e l
  let l := leftBehind r
  let _ ← flush.run { l with terminal := leftBehind (Console.close l.terminal) }
  return Backends.outcomeOf r

/-- Shows the session and lets its interval pass, after which a key press is handed over. -/
def wait (key : Task (Except IO.Error String)) (s : Session) : IO Session := do
  write ("\x1b[H" ++ s.view (Styled.pen .colored))
  sleep s.loop.interval
  return if ← IO.hasFinished key then (s.update .key).2 else s

/-- Delivers ticks to a session until it asks to be ended. -/
partial def ticks (key : Task (Except IO.Error String)) (s : Session) : IO Session := do
  match ← s.tickIn (wait key) with
  | (true, s) => ticks key s
  | (false, s) => return s

/-- Runs in a session. -/
def runSession (width height clock : Int64) (config : RunSettings) : IO RunOutcome := do
  let (requests, s) := (Session.new clock config width height).init
  for r in requests do
    if let .retitle title := r then write (DisplayCall.title title).sequence
  write "\x1b[?1049h\x1b[?25l"
  let s ← ticks (← awaitKey) s
  write "\x1b[?25h\x1b[?1049l"
  return Backends.finished s.finish.loop

/-! ### Runs -/

/-- Writes on the disk what was added to the log. -/
def keepLog (place : Settings.Place) (o : Options) (files : FileTree) : IO Unit := do
  if let some path := o.logFile then
    match files.read path, place.work.read path with
    | .ok new, .ok old => appendTo path (Text.decodeLenient (new.drop old.length))
    | .ok new, .error _ => appendTo path (Text.decodeLenient new)
    | .error _, _ => pure ()

/-- Runs the screensaver on a real terminal. -/
def saver (width height : Int64) (place : Settings.Place) (o : Options) : IO UInt32 := do
  let stamp := (← Std.Time.PlainDateTime.now).format "uuuu/MM/dd HH:mm:ss"
  let clock := Int64.ofNat (← IO.monoNanosNow)
  let registry := Backends.registryOf (runConsole width height clock) (runSession width height clock)
  let r ← Saver.runIn Settings.reading registry place stamp o
  keepLog place o r.files
  match r.error with
  | none => return 0
  | some (.fault f) =>
    (← IO.getStderr).putStrLn ("panic: " ++ f.message)
    return 2
  | some e =>
    (← IO.getStderr).putStrLn ("Error: " ++ e.message Settings.DecodeError.message)
    return 1

/-- Carries out everything that needs no terminal. -/
def reply (d : Backends.Device) (place : Settings.Place) (o : Options) (args : List String) :
    IO UInt32 := do
  let stamp := (← Std.Time.PlainDateTime.now).format "uuuu/MM/dd HH:mm:ss"
  let w : CommandLine.World :=
    { place, profile := ← profile d, registry := Backends.registry d 1 0, stamp }
  let r := CommandLine.run w args
  keepLog place o r.files
  writeBytes r.output
  (← IO.getStderr).putStr r.errors
  return .ofNat r.exitCode

/-- Carries out a command line. -/
def run (args : List String) : IO UInt32 := do
  let d ← device
  let (command, rest) := CommandLine.find args
  match Options.parse command.flags rest with
  | .error _ => reply d { work := .empty, home := none } .none args
  | .ok (o, words) =>
    let place ← place o
    match d, command, o.help, words with
    | .terminal w h, .saver, false, [] => saver w h place o
    | _, _, _, _ => reply d place o args

end Screensaver.Program

def main (args : List String) : IO UInt32 :=
  Screensaver.Program.run args
