import LtiLaunch.Launch.Backend
import LtiLaunch.Service.AssignmentStore
import LtiLaunch.Service.InstanceDirectory

/-!
# The backend in memory

A backend that answers from a store, a directory and a map of flags, and that only notes which
accounts it was asked to provide for.
-/

namespace LtiLaunch.Memory

variable {σ : Type}

/-- A flag that is not mentioned is off. -/
def flagEnabled (flags : SortedMap String Bool) (name : String) : Bool := flags.getD name false

/-- Files can be picked in a launch from a Canvas course by a platform with a developer key. -/
def canvasFilesAvailable (developerKey : String → LaunchM σ (Option String)) (r : LaunchRequest) :
    LaunchM σ Bool := do
  if r.has "custom_canvas_course_id" then
    return (← developerKey r.user.consumerKey).isSome
  else return false

def userSkipped (r : LaunchRequest) : JournalEntry :=
  .event .debug "provisioning" "user_upsert_skipped"
    [("user_id", .text r.user.userId), ("consumer_key", .text r.user.consumerKey)]

def courseGroupSkipped (r : LaunchRequest) : JournalEntry :=
  .event .debug "provisioning" "course_group_upsert_skipped"
    [("context_id", .text ((r.value? "context_id").getD "")),
      ("consumer_key", .text r.user.consumerKey)]

/-- The backend of a service whose store is part of the world `σ`. -/
def backend (isUrl : String → Bool) (store : σ → AssignmentStore) (directory : InstanceDirectory)
    (flags : SortedMap String Bool) (canvasFiles : LaunchRequest → LaunchM σ Bool)
    (journal : JournalEntry → StateM σ Unit) : Backend σ where
  isUrl := isUrl
  documentUrl a := return (store (← get)).get? a
  lmsUrl key := directory.lmsUrl key
  canvasFilesAvailable := canvasFiles
  flagEnabled name _ := return flagEnabled flags name
  upsertUser r := journal (userSkipped r)
  upsertCourseGroup r := journal (courseGroupSkipped r)
  journal := journal

end LtiLaunch.Memory
