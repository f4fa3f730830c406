import LtiLaunch.Dispatch.Stages
import LtiLaunch.Views.Screens

/-!
# The default views

The views of the service, all behind the flag `new_oauth`: one for the selection of a content item,
one for each way in which an assignment can be configured, and two for assignments that are not.
-/

namespace LtiLaunch.DefaultViews

variable {σ : Type}

def newOauth : String := "new_oauth"

structure Settings where
  publicBaseUrl : String
  credentials : PickerCredentials
  deriving DecidableEq, Repr

def launchUrl (s : Settings) : String := Route.ltiLaunches.url s.publicBaseUrl

def provision : List Preparation := [.upsertUser, .upsertCourseGroup]

def contentItemSelection (s : Settings) (backend : Backend σ) : Declaration (Handler σ) where
  name := "content_item_selection"
  route := .post .contentItemSelection
  flags := [(newOauth, true)]
  predicates := [("authorized_to_configure_assignments", true)]
  preparations := provision
  handler := Screens.contentItemSelection backend (launchUrl s) s.credentials

/-- The view for assignments of which the predicate of this name holds. -/
def configured (backend : Backend σ) (predicate : String) : Declaration (Handler σ) where
  name := predicate ++ "_basic_lti_launch"
  route := .post .ltiLaunches
  flags := [(newOauth, true)]
  predicates := [(predicate, true)]
  preparations := provision
  handler := Screens.configured backend

def unconfigured (s : Settings) (backend : Backend σ) : Declaration (Handler σ) where
  name := "unconfigured_basic_lti_launch"
  route := .post .ltiLaunches
  flags := [(newOauth, true)]
  predicates := [("configured", false), ("authorized_to_configure_assignments", true)]
  preparations := provision
  handler := Screens.unconfigured backend (launchUrl s) s.credentials

def unauthorized (backend : Backend σ) : Declaration (Handler σ) where
  name := "unconfigured_basic_lti_launch_not_authorized"
  route := .post .ltiLaunches
  flags := [(newOauth, true)]
  predicates := [("configured", false), ("authorized_to_configure_assignments", false)]
  preparations := []
  handler := Screens.unauthorized backend

def declarations (s : Settings) (backend : Backend σ) : List (Declaration (Handler σ)) :=
  contentItemSelection s backend ::
    (["db_configured", "canvas_file", "url_configured", "vitalsource_book"].map
      (configured backend)) ++
    [unconfigured s backend, unauthorized backend]

def addTo (vocabulary : Vocabulary) (s : Settings) (backend : Backend σ)
    (t : DispatchTable (Handler σ)) :
    Except DispatchTable.Refusal (DispatchTable (Handler σ)) :=
  t.declareAll vocabulary (declarations s backend)

end LtiLaunch.DefaultViews
