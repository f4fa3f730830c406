import LtiLaunch.Launch.Error
import LtiLaunch.SortedMap
import LtiLaunch.Text.Blank

/-!
# The instance directory

The installations of learning platforms that may launch, each under its consumer key.
-/

namespace LtiLaunch

structure ApplicationInstance where
  consumerKey : String
  lmsUrl : String
  developerKey : Option String
  deriving DecidableEq, Repr

structure InstanceDirectory where
  byConsumerKey : SortedMap String ApplicationInstance

namespace InstanceDirectory

inductive Refusal
  | blankKey
  | duplicateKey (key : String)
  deriving DecidableEq, Repr

def Refusal.error : Refusal → LaunchError
  | blankKey => .configuration "application_instances[].consumer_key cannot be empty"
  | duplicateKey key =>
    .configuration ("duplicate consumer key '" ++ key ++ "' in application_instances")

def empty : InstanceDirectory := ⟨.empty⟩

def add (d : InstanceDirectory) (i : ApplicationInstance) : Except Refusal InstanceDirectory :=
  if Text.isBlank i.consumerKey then .error .blankKey
  else if d.byConsumerKey.contains i.consumerKey then .error (.duplicateKey i.consumerKey)
  else .ok ⟨d.byConsumerKey.insert i.consumerKey i⟩

def ofList (instances : List ApplicationInstance) : Except Refusal InstanceDirectory :=
  instances.foldlM add empty

def unknownKey (key : String) : LaunchError :=
  .failedLookup ("no application instance registered for consumer key '" ++ key ++ "'")

def lmsUrl (d : InstanceDirectory) (key : String) : Except LaunchError String :=
  match d.byConsumerKey.get? key with
  | some i => .ok i.lmsUrl
  | none => .error (unknownKey key)

def developerKey? (d : InstanceDirectory) (key : String) : Option String :=
  (d.byConsumerKey.get? key).bind (·.developerKey)

end InstanceDirectory

end LtiLaunch
