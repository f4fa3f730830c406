import LtiLaunch.ContentItem.Credentials
import LtiLaunch.Service.AssignmentStore
import LtiLaunch.Service.InstanceDirectory

/-!
# The configuration

Everything the service is told when it starts. Only the picker section has to be given.
-/

namespace LtiLaunch

structure ServerConfig where
  bindAddr : String := "127.0.0.1:8001"
  publicBaseUrl : String := "http://localhost:8001"
  deriving DecidableEq, Repr

/-- How often a new log file is begun. -/
inductive Rotation
  | daily
  | hourly
  deriving DecidableEq, Repr

def Rotation.name : Rotation → String
  | daily => "daily"
  | hourly => "hourly"

structure LoggingConfig where
  dir : String := "./logs/lms-launch"
  filter : String := "info"
  rotation : Rotation := .daily
  retentionDays : Nat := 14
  stderrWarnEnabled : Bool := true
  deriving DecidableEq, Repr

structure PickerConfig where
  clientId : String
  developerKey : String
  deriving DecidableEq, Repr

structure Config where
  server : ServerConfig := {}
  logging : LoggingConfig := {}
  picker : PickerConfig
  featureFlags : SortedMap String Bool := .empty
  instances : List ApplicationInstance := []
  assignments : List AssignmentSeed := []
  deriving DecidableEq

def Config.credentials (c : Config) : Except LaunchError PickerCredentials :=
  PickerCredentials.check c.picker.clientId c.picker.developerKey

end LtiLaunch
