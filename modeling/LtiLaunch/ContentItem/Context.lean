import LtiLaunch.ContentItem.Credentials
import LtiLaunch.Launch.Backend

/-!
# The selection context

What the document picker is given so that it can post the user's choice back to the platform.
-/

namespace LtiLaunch

/-- Fields that go back to the platform with the choice. -/
structure SelectionFormFields where
  messageType : String
  ltiVersion : String
  deriving DecidableEq, Repr

def SelectionFormFields.ofVersion (ltiVersion : String) : SelectionFormFields :=
  { messageType := "ContentItemSelection", ltiVersion }

structure SelectionContext where
  returnUrl : String
  launchUrl : String
  formFields : SelectionFormFields
  clientId : String
  developerKey : String
  lmsUrl : String
  courseId : Option String
  deriving DecidableEq, Repr

inductive SelectionState
  | awaitingSelectionRequest
  | selectionRequestReceived
  | selectionMadeByUser
  | selectionResponsePosted
  deriving DecidableEq, Repr

namespace SelectionState

def all : List SelectionState :=
  [awaitingSelectionRequest, selectionRequestReceived, selectionMadeByUser, selectionResponsePosted]

def name : SelectionState → String
  | awaitingSelectionRequest => "awaiting_selection_request"
  | selectionRequestReceived => "selection_request_received"
  | selectionMadeByUser => "selection_made_by_user"
  | selectionResponsePosted => "selection_response_posted"

def ofName? (s : String) : Option SelectionState := all.find? (·.name == s)

end SelectionState

namespace SelectionContext

variable {σ : Type}

def lookupFailed (consumerKey : String) (e : LaunchError) : JournalEntry :=
  .event .warn "content_item" "lms_url_lookup_failed"
    [("consumer_key", .text consumerKey), ("error", .text e.message)]

/-- A failed look-up, as a fault of what was asked. -/
def lookupFailure (consumerKey : String) (e : LaunchError) : LaunchError :=
  if e.kind = .failedLookup then e
  else .failedLookup
    ("failed to resolve lms url for consumer key '" ++ consumerKey ++ "': " ++ e.message)

/-- The address of the platform's top page: Canvas names its domain, others are looked up. -/
def lmsUrlOf (backend : Backend σ) (r : LaunchRequest) : LaunchM σ String :=
  match r.value? "custom_canvas_api_domain" with
  | some domain => pure domain
  | none =>
    tryCatch (backend.lmsUrl r.user.consumerKey) fun e => do
      backend.journal (lookupFailed r.user.consumerKey e)
      throw (lookupFailure r.user.consumerKey e)

/-- The Canvas course whose files can be picked, if they can. -/
def canvasCourse (backend : Backend σ) (r : LaunchRequest) : LaunchM σ (Option String) := do
  if ← backend.canvasFilesAvailable r then
    let course ← r.require "custom_canvas_course_id"
    return some course
  else return none

/-- What the request has to give is checked before the backend is asked. -/
def ofRequest (backend : Backend σ) (launchUrl : String) (credentials : PickerCredentials)
    (r : LaunchRequest) : LaunchM σ SelectionContext := do
  let returnUrl ← r.require "content_item_return_url"
  let ltiVersion ← r.require "lti_version"
  let lmsUrl ← lmsUrlOf backend r
  let courseId ← canvasCourse backend r
  return {
    returnUrl, launchUrl, lmsUrl, courseId
    formFields := .ofVersion ltiVersion
    clientId := credentials.clientId
    developerKey := credentials.developerKey }

end SelectionContext

end LtiLaunch
