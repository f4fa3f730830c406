import LtiLaunch.Config.Basic
import LtiLaunch.Launch.Journal
import LtiLaunch.Logging.Defaults
import LtiLaunch.Logging.LogFile
import LtiLaunch.Logging.Retention
import LtiLaunch.Logging.RunId

/-!
# Starting the log

The log is written to a file in its directory; warnings and errors may go to standard error as well.
When it starts, the directory is made and expired files are removed before the filter is read.
-/

namespace LtiLaunch.Logging

inductive StartError
  | blankFilter
  | noDirectory
  | noRetention
  | cannotMake (directory : String)
  | badFilter (text : String)
  | alreadyStarted
  deriving DecidableEq, Repr

def StartError.message : StartError → String
  | blankFilter => "logging.filter cannot be empty"
  | noDirectory => "logging.dir cannot be empty"
  | noRetention => "logging.retention_days must be at least 1"
  | cannotMake directory => "failed to create logging directory " ++ directory
  | badFilter text => "failed to parse logging.filter '" ++ text ++ "'"
  | alreadyStarted => "failed to initialize tracing subscriber"

/-- What starting the log needs of the machine. -/
structure Machine (m : Type → Type) where
  files : Files m
  currentDirectory : m String
  now : m Instant
  random : m Nat
  /-- Takes the place of the program's one log, and says whether it was free. -/
  claim : m Bool

structure Log where
  directory : String
  fileName : String
  filter : Filter
  toStderr : Bool
  runId : String

namespace Log

def reachesFile (l : Log) (target : String) (level : LogLevel) : Bool :=
  l.filter.enables target level

def reachesStderr (l : Log) (level : LogLevel) : Bool :=
  l.toStderr && level.rank ≤ LogLevel.warn.rank

end Log

def service : String := "lms-launch"
def version : String := "0.1.0"

def check (c : LoggingConfig) : Except StartError Unit := do
  if Text.isBlank c.filter then throw .blankFilter
  if c.dir.isEmpty then throw .noDirectory
  if c.retentionDays = 0 then throw .noRetention

def rotationText : Rotation → String
  | .daily => "Daily"
  | .hourly => "Hourly"

def started (c : LoggingConfig) (l : Log) : JournalEntry :=
  .event .info "logging" "logging_initialized"
    [("run_id", .text l.runId), ("service", .text service), ("version", .text version),
      ("dir", .text l.directory), ("filter", .text c.filter),
      ("rotation", .text (rotationText c.rotation)), ("retention_days", .count c.retentionDays)]

def retentionWarning (w : Retention.Warning) : JournalEntry :=
  .event .warn "logging" "logging_retention_warning" [("warning", .text w.message)]

variable {m : Type → Type} [Monad m]

/-- Starts the log, and gives the first entries to be written to it. -/
def start (machine : Machine m) (c : LoggingConfig) :
    ExceptT StartError m (Log × List JournalEntry) := do
  let _ ← ExceptT.mk (pure (check c))
  let directory := Path.join (← machine.currentDirectory) c.dir
  if !(← machine.files.makeDirectory directory) then throw (.cannotMake directory)
  let now ← machine.now
  let warnings ← (Retention.purge machine.files directory c.retentionDays now : m _)
  let some filter := Filter.parseWithDefaults? c.filter | throw (.badFilter c.filter)
  if !(← machine.claim) then throw .alreadyStarted
  let log : Log :=
    { directory, fileName := LogFile.name c.rotation now, filter, toStderr := c.stderrWarnEnabled
      runId := RunId.make now (← machine.random) }
  return (log, started c log :: warnings.map retentionWarning)

end LtiLaunch.Logging
