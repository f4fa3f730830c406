import LtiLaunch.CommandLine
import LtiLaunch.Config.Load
import LtiLaunch.Http.Line
import LtiLaunch.Launch.EntryText
import LtiLaunch.Logging.Start
import LtiLaunch.Service.Wiring
import LtiLaunch.Url.Parser
import Mathlib.Tactic.Common

/-!
# The program

Loads the configuration, starts the log, wires the service and answers the requests that come as
lines on standard input.
-/

namespace LtiLaunch.Program

/-! ## The machine -/

def succeeds (action : IO Unit) : IO Bool :=
  try action; return true catch _ => return false

/-- The files of the machine. There is no listing of a directory here, so the log starts with a
warning, and expired files stay. -/
def files : Files IO where
  read path := try return some (← IO.FS.readFile path) catch _ => return none
  isPresent path := succeeds (discard (IO.FS.realPath path))
  makeDirectory path := succeeds (IO.FS.createDirAll path)
  entries _ := return none
  remove path := succeeds (IO.FS.removeFile path)

/-- The machine, with one place for a log. -/
def machine (taken : IO.Ref Bool) : Logging.Machine IO where
  files
  currentDirectory := return (← IO.getEnv "PWD").getD "."
  now := return (← Std.Time.Timestamp.now).toNanosecondsSinceUnixEpoch.toInt
  random := return (← IO.getRandomBytes 10).foldl (fun n byte => n * 256 + byte.toNat) 0
  claim := taken.modifyGet fun inUse => (!inUse, true)

/-! ## A run -/

/-- Writes entries to standard error and to the file of the day or hour, as the log says. Only
events are written, and what cannot be written is dropped. -/
def report (now : IO Instant) (rotation : Rotation) (log : Logging.Log)
    (entries : List JournalEntry) : IO Unit := do
  for e in entries.filter (·.kind = .event) do
    if log.reachesStderr e.level then (← IO.getStderr).putStrLn e.line
    if log.reachesFile e.target e.level then
      let path := Path.join log.directory (LogFile.name rotation (← now))
      discard (succeeds (IO.FS.withFile path .append fun file => file.putStrLn e.line))

partial def serve (report : List JournalEntry → IO Unit) (s : Service) (state : ServiceState) :
    IO Unit := do
  let line ← (← IO.getStdin).getLine
  if line.isEmpty then return ()
  let line := String.ofList (line.toList.takeWhile (fun ch => ch != '\n' && ch != '\r'))
  match Http.Request.ofLine? line with
  | none => serve report s state
  | some q =>
    let (response, after) := (s.respond q).run { state with journal := [] }
    report after.journal.reverse
    IO.println response.line
    (← IO.getStdout).flush
    serve report s after

/-- A run of the program on a machine; what keeps it from serving is told in a text. -/
def run (machine : Logging.Machine IO) (args : List String) : ExceptT String IO Unit := do
  let path ← ofExcept ((CommandLine.configPath (← machine.currentDirectory) args).mapError
    CommandLine.UsageError.message)
  let c ← (Config.load machine.files.toFileReader path).adapt fun e =>
    "failed to load config from " ++ path ++ ": " ++ e.message
  let (log, first) ← (Logging.start machine c.logging).adapt Logging.StartError.message
  let report := report machine.now c.logging.rotation log
  report first
  let s ← ofExcept ((Service.ofConfig Url.valid c).mapError fun e =>
    "failed to wire launch views: " ++ e.message)
  report (s.opening path)
  serve report s s.initial

end LtiLaunch.Program

def main (args : List String) : IO UInt32 := do
  match ← (LtiLaunch.Program.run (LtiLaunch.Program.machine (← IO.mkRef false)) args).run with
  | .ok () => return 0
  | .error message =>
    (← IO.getStderr).putStrLn ("Error: " ++ message)
    return 1
