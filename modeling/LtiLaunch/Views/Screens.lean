import LtiLaunch.Assignment.Signals
import LtiLaunch.Assignment.Wire
import LtiLaunch.ContentItem.Wire

/-!
# Screens

What answers a launch of each sort: an assignment that has its document, a first launch by someone
who may configure, a first launch by someone who may not, and the selection of a content item.
-/

namespace LtiLaunch.Screens

variable {σ : Type}

def configuredRenderer : String := "lms:templates/basic_lti_launch.html.jinja2"

def unconfiguredRenderer : String := "lms:templates/unconfigured_basic_lti_launch.html.jinja2"

def unauthorizedRenderer : String :=
  "lms:templates/unconfigured_basic_lti_launch_not_authorized.html.jinja2"

def selectionRenderer : String := "lms:templates/content_item_selection.html.jinja2"

def launched (r : LaunchRequest) (c : AssignedDocument) : JournalEntry :=
  .event .info "launch" "configured_assignment_launched"
    [("configuration", .text c.source.name),
      ("resource_link_id", .text ((r.value? "resource_link_id").getD ""))]

def configured (backend : Backend σ) : Handler σ := fun r => do
  match ← Signals.resolve backend r with
  | none =>
    throw (.internal "configured launch view selected for an unconfigured assignment")
  | some c =>
    backend.journal (launched r c)
    return ⟨configuredRenderer, c.toJson.canonical⟩

def unconfigured (backend : Backend σ) (launchUrl : String) (credentials : PickerCredentials) :
    Handler σ := fun r => do
  let link ← r.require "resource_link_id"
  let lmsUrl ← SelectionContext.lmsUrlOf backend r
  let courseId ← SelectionContext.canvasCourse backend r
  let arguments : Json := .obj
    ([("resource_link_id", .str link),
      ("tool_consumer_instance_guid", Json.ofOption .str (r.value? "tool_consumer_instance_guid")),
      ("lti_launch_url", .str launchUrl),
      ("lms_url", .str lmsUrl),
      ("google_client_id", .str credentials.clientId),
      ("google_developer_key", .str credentials.developerKey)] ++
      Json.optionalMember "course_id" .str courseId)
  return ⟨unconfiguredRenderer, arguments.canonical⟩

def notAuthorized (r : LaunchRequest) : JournalEntry :=
  .event .debug "launch" "unconfigured_assignment_not_authorized" [("user_id", .text r.user.userId)]

def unauthorized (backend : Backend σ) : Handler σ := fun r => do
  backend.journal (notAuthorized r)
  return ⟨unauthorizedRenderer,
    .obj [("message", .str "This assignment has not been configured yet")]⟩

def contextBuilt (r : LaunchRequest) (c : SelectionContext) : JournalEntry :=
  .event .info "content_item" "content_item_selection_context_built"
    [("state", .text SelectionState.selectionRequestReceived.name),
      ("consumer_key", .text r.user.consumerKey),
      ("has_course_id", .flag c.courseId.isSome)]

def contentItemSelection (backend : Backend σ) (launchUrl : String)
    (credentials : PickerCredentials) : Handler σ := fun r => do
  let c ← SelectionContext.ofRequest backend launchUrl credentials r
  backend.journal (contextBuilt r c)
  return ⟨selectionRenderer, c.toJson.canonical⟩

end LtiLaunch.Screens
