import LtiLaunch.Assignment.Document
import LtiLaunch.Launch.Journal
import LtiLaunch.Launch.View

/-!
# Backend

What the service asks of the world around it. A world is a state of any type, so that a backend may
remember what it was asked and may answer the same question differently the next time; what a
failing launch has done to the world stays done.
-/

namespace LtiLaunch

/-- A computation that may change the world and may fail. -/
abbrev LaunchM (σ : Type) := ExceptT LaunchError (StateM σ)

structure Backend (σ : Type) where
  /-- Whether a text is a URL. What makes it one is left to whatever reads URLs. -/
  isUrl : String → Bool
  /-- The document on record for the assignment, if there is one. -/
  documentUrl : AssignmentKey → LaunchM σ (Option String)
  /-- The address of the platform that launches with this consumer key. -/
  lmsUrl : String → LaunchM σ String
  /-- Whether the user can pick files of the Canvas course the launch comes from. -/
  canvasFilesAvailable : LaunchRequest → LaunchM σ Bool
  flagEnabled : String → LaunchRequest → StateM σ Bool
  upsertUser : LaunchRequest → LaunchM σ Unit
  upsertCourseGroup : LaunchRequest → LaunchM σ Unit
  journal : JournalEntry → StateM σ Unit

abbrev Handler (σ : Type) := LaunchRequest → LaunchM σ View

inductive BackendCall
  | flag (name : String)
  | documentUrl (assignment : AssignmentKey)
  | lmsUrl (consumerKey : String)
  | developerKey (consumerKey : String)
  | canvasFiles
  | upsertUser
  | upsertCourseGroup
  deriving DecidableEq, Repr

/-- The backend with `note` run before each call; when it fails, so does the call. -/
def Backend.observed {σ : Type} (note : BackendCall → LaunchM σ Unit) (b : Backend σ) :
    Backend σ where
  isUrl := b.isUrl
  documentUrl a := do note (.documentUrl a); b.documentUrl a
  lmsUrl key := do note (.lmsUrl key); b.lmsUrl key
  canvasFilesAvailable r := do note .canvasFiles; b.canvasFilesAvailable r
  flagEnabled name r := do discard (note (.flag name)).run; b.flagEnabled name r
  upsertUser r := do note .upsertUser; b.upsertUser r
  upsertCourseGroup r := do note .upsertCourseGroup; b.upsertCourseGroup r
  journal := b.journal

end LtiLaunch
