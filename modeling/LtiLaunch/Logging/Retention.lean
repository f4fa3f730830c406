import LtiLaunch.Files.Basic
import LtiLaunch.Files.Path

/-!
# Log retention

Log files are kept for a number of days after they were last written to. `expired` picks the names
of those whose time is over; `purge` removes them.
-/

namespace LtiLaunch.Retention

def logFilePrefix : String := "lms-launch.log"

def secondsPerDay : Nat := 86400

def nanosecondsPerSecond : Int := 1000000000

/-- The retention time in seconds, no longer than a machine word can count. -/
def seconds (days : Nat) : Nat := min (days * secondsPerDay) (Nat.pow 2 64 - 1)

/-- The earliest time that a machine knows, in seconds. -/
def earliest : Int := -0x8000000000000000

/-- The time up to which log files are expired. A retention time that reaches back before the
earliest time stands for the beginning of 1970. -/
def cutoff (now : Instant) (days : Nat) : Instant :=
  if now / nanosecondsPerSecond - seconds days < earliest then 0
  else now - seconds days * nanosecondsPerSecond

def isLogName (name : String) : Bool := logFilePrefix.toList.isPrefixOf name.toList

def isExpired (now : Instant) (days : Nat) (e : DirectoryEntry) : Bool :=
  isLogName e.name && e.isFile && decide (e.modified ≤ cutoff now days)

def expired (now : Instant) (days : Nat) (entries : List DirectoryEntry) : List String :=
  (entries.filter (isExpired now days)).map (·.name)

/-- What may go wrong; it does not keep the service from starting. -/
inductive Warning
  | cannotList (directory : String)
  | cannotRemove (path : String)
  deriving DecidableEq, Repr

def Warning.message : Warning → String
  | cannotList directory => "failed to scan logging directory " ++ directory
  | cannotRemove path => "failed to remove expired log file " ++ path

variable {m : Type → Type} [Monad m]

def removeAll (files : Files m) (directory : String) : List String → m (List Warning)
  | [] => return []
  | name :: rest => do
    let path := Path.join directory name
    let removed ← files.remove path
    let warnings ← removeAll files directory rest
    return if removed then warnings else .cannotRemove path :: warnings

def purge (files : Files m) (directory : String) (days : Nat) (now : Instant) :
    m (List Warning) := do
  match ← files.entries directory with
  | none => return [.cannotList directory]
  | some entries => removeAll files directory (expired now days entries)

end LtiLaunch.Retention
