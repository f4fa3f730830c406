import LtiLaunch.Proofs.Launch.Answers
import LtiLaunch.Views.Screens

/-!
# What the screens come to

Each screen, over a backend that answers as a function, comes to its view or to the first error
among what it asks for.
-/

namespace LtiLaunch

variable {σ : Type}

namespace Answers

def platformUrl (a : Answers) (r : LaunchRequest) : Except LaunchError String :=
  match r.value? "custom_canvas_api_domain" with
  | some domain => .ok domain
  | none =>
    (a.lmsUrl r.user.consumerKey).mapError (SelectionContext.lookupFailure r.user.consumerKey)

def canvasCourse (a : Answers) (r : LaunchRequest) : Except LaunchError (Option String) := do
  if ← a.canvasFiles r then
    let course ← r.require "custom_canvas_course_id"
    return some course
  else return none

def selectionContext (a : Answers) (launchUrl : String) (credentials : PickerCredentials)
    (r : LaunchRequest) : Except LaunchError SelectionContext := do
  let returnUrl ← r.require "content_item_return_url"
  let ltiVersion ← r.require "lti_version"
  let lmsUrl ← a.platformUrl r
  let courseId ← a.canvasCourse r
  return {
    returnUrl, launchUrl, lmsUrl, courseId
    formFields := .ofVersion ltiVersion
    clientId := credentials.clientId
    developerKey := credentials.developerKey }

/-- What someone who may configure is shown of an assignment without a document. -/
def unconfigured (a : Answers) (launchUrl : String) (credentials : PickerCredentials)
    (r : LaunchRequest) : Except LaunchError View := do
  let link ← r.require "resource_link_id"
  let lmsUrl ← a.platformUrl r
  let courseId ← a.canvasCourse r
  let arguments : Json := .obj
    ([("resource_link_id", .str link),
      ("tool_consumer_instance_guid", Json.ofOption .str (r.value? "tool_consumer_instance_guid")),
      ("lti_launch_url", .str launchUrl),
      ("lms_url", .str lmsUrl),
      ("google_client_id", .str credentials.clientId),
      ("google_developer_key", .str credentials.developerKey)] ++
      Json.optionalMember "course_id" .str courseId)
  return ⟨Screens.unconfiguredRenderer, arguments.canonical⟩

def contentItemSelection (a : Answers) (launchUrl : String) (credentials : PickerCredentials)
    (r : LaunchRequest) : Except LaunchError View := do
  let c ← a.selectionContext launchUrl credentials r
  return ⟨Screens.selectionRenderer, c.toJson.canonical⟩

end Answers

variable {W : σ → Prop} {b : Backend σ} {a : Answers}

theorem LaunchRequest.yields_require (r : LaunchRequest) (name : String) :
    Yields W (liftM (r.require name) : LaunchM σ String) (r.require name) :=
  Yields.ofExcept _

namespace SelectionContext

theorem yields_lmsUrlOf (h : b.Follows W a) (r : LaunchRequest) :
    Yields W (lmsUrlOf b r) (a.platformUrl r) := by
  unfold lmsUrlOf Answers.platformUrl
  cases r.value? "custom_canvas_api_domain" with
  | some domain => exact Yields.pure
  | none => exact Yields.tryCatch_rethrow (h.lmsUrl _) fun e => h.journal _

theorem yields_canvasCourse (h : b.Follows W a) (r : LaunchRequest) :
    Yields W (canvasCourse b r) (a.canvasCourse r) := by
  unfold canvasCourse Answers.canvasCourse
  refine Yields.bind_each (h.canvasFiles r) fun available _ => ?_
  cases available with
  | true => exact Yields.bind_each (r.yields_require _) fun _ _ => Yields.pure
  | false => exact Yields.pure

theorem yields_ofRequest (h : b.Follows W a) (launchUrl : String) (credentials : PickerCredentials)
    (r : LaunchRequest) :
    Yields W (ofRequest b launchUrl credentials r) (a.selectionContext launchUrl credentials r) := by
  refine Yields.bind_each (r.yields_require _) fun returnUrl _ => ?_
  refine Yields.bind_each (r.yields_require _) fun ltiVersion _ => ?_
  refine Yields.bind_each (yields_lmsUrlOf h r) fun lmsUrl _ => ?_
  exact Yields.bind_each (yields_canvasCourse h r) fun courseId _ => Yields.pure

end SelectionContext

namespace Screens

theorem yields_configured (h : b.Follows W a) {r : LaunchRequest} {c : AssignedDocument}
    (found : a.resolve r = .ok (some c)) :
    Yields W (configured b r) (.ok ⟨configuredRenderer, c.toJson.canonical⟩) := by
  unfold configured
  refine Yields.bind (found ▸ Signals.yields_resolve h r) ?_
  exact Yields.bind (h.journal _) Yields.pure

def unauthorizedView : View :=
  ⟨unauthorizedRenderer, .obj [("message", .str "This assignment has not been configured yet")]⟩

theorem yields_unauthorized (h : b.Follows W a) (r : LaunchRequest) :
    Yields W (unauthorized b r) (.ok unauthorizedView) :=
  Yields.bind (h.journal _) Yields.pure

theorem yields_unconfigured (h : b.Follows W a) (launchUrl : String)
    (credentials : PickerCredentials) (r : LaunchRequest) :
    Yields W (unconfigured b launchUrl credentials r) (a.unconfigured launchUrl credentials r) := by
  refine Yields.bind_each (r.yields_require _) fun link _ => ?_
  refine Yields.bind_each (SelectionContext.yields_lmsUrlOf h r) fun lmsUrl _ => ?_
  refine Yields.bind_each (SelectionContext.yields_canvasCourse h r) fun courseId _ => ?_
  exact Yields.pure

theorem yields_contentItemSelection (h : b.Follows W a) (launchUrl : String)
    (credentials : PickerCredentials) (r : LaunchRequest) :
    Yields W (contentItemSelection b launchUrl credentials r)
      (a.contentItemSelection launchUrl credentials r) := by
  refine Yields.bind_each (SelectionContext.yields_ofRequest h launchUrl credentials r) fun c _ => ?_
  exact Yields.bind (h.journal _) Yields.pure

end Screens

end LtiLaunch
