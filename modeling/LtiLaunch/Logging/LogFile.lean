import LtiLaunch.Config.Basic
import LtiLaunch.Decimal.Digits
import LtiLaunch.Files.Basic
import LtiLaunch.Logging.Retention

/-!
# Log file names

A log file is named for the day or the hour it was begun in.
-/

namespace LtiLaunch

structure Date where
  year : Int
  month : Nat
  day : Nat
  deriving DecidableEq, Repr

namespace Date

/-- The date that many days after the beginning of 1970. A year here begins in March, so that the
leap day is its last; 400 years have 146097 days. -/
def ofDays (days : Int) : Date :=
  let z := days + 719468
  let era := z / 146097
  let dayOfEra := (z % 146097).toNat
  let yearOfEra := (dayOfEra - dayOfEra / 1460 + dayOfEra / 36524 - dayOfEra / 146096) / 365
  let dayOfYear := dayOfEra - (365 * yearOfEra + yearOfEra / 4 - yearOfEra / 100)
  let marchMonth := (5 * dayOfYear + 2) / 153
  let day := dayOfYear - (153 * marchMonth + 2) / 5 + 1
  let month := if marchMonth < 10 then marchMonth + 3 else marchMonth - 9
  let year := era * 400 + yearOfEra
  ⟨if month ≤ 2 then year + 1 else year, month, day⟩

end Date

namespace LogFile

def padded (width n : Nat) : String :=
  let ds := Decimal.text n
  String.ofList (List.replicate (width - ds.length) '0' ++ ds)

def dateText (d : Date) : String :=
  padded 4 d.year.toNat ++ "-" ++ padded 2 d.month ++ "-" ++ padded 2 d.day

def name (rotation : Rotation) (now : Instant) : String :=
  let hours := now / (3600 * Retention.nanosecondsPerSecond)
  let day := dateText (.ofDays (hours / 24))
  let stamp := match rotation with
    | .daily => day
    | .hourly => day ++ "-" ++ padded 2 (hours % 24).toNat
  Retention.logFilePrefix ++ "." ++ stamp

end LogFile

end LtiLaunch
