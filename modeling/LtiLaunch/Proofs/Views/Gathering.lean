import LtiLaunch.Proofs.Json.Canonical
import LtiLaunch.Proofs.Launch.Trace
import LtiLaunch.Views.Screens

/-!
# Gathering what a screen needs

The selection of a content item and the first launch of an assignment gather the same things in the
same order: the parameters they require, the address of the platform, and the course whose files can
be picked. The backend may answer and fail as it likes; `Gathered` says which of its answers count,
and what is asked for before.
-/

namespace LtiLaunch

variable {σ α : Type}

namespace SelectionContext

variable (b : Backend σ) (r : LaunchRequest)

/-- What a failed look-up is reported as. -/
structure Surfaces (key : String) (e e' : LaunchError) : Prop where
  kind : e'.kind = .failedLookup
  own : e.kind = .failedLookup → e' = e
  other : e.kind ≠ .failedLookup →
    e'.message = "failed to resolve lms url for consumer key '" ++ key ++ "': " ++ e.message

/-- What is asked for the address of the platform from the world `s` on, and what comes of it, with
the world that is left if there is one. -/
inductive Addressed (s : σ) : List BackendCall → Except LaunchError String → σ → Prop
  | named {domain : String} (given : r.value? "custom_canvas_api_domain" = some domain) :
      Addressed s [] (.ok domain) s
  | found {url : String} (unnamed : r.value? "custom_canvas_api_domain" = none)
      (answer : outcome (b.lmsUrl r.user.consumerKey) s = .ok url) :
      Addressed s [.lmsUrl r.user.consumerKey] (.ok url) (after (b.lmsUrl r.user.consumerKey) s)
  | failed {e e' : LaunchError} {z : σ} (unnamed : r.value? "custom_canvas_api_domain" = none)
      (answer : outcome (b.lmsUrl r.user.consumerKey) s = .error e)
      (surfaces : Surfaces r.user.consumerKey e e') :
      Addressed s [.lmsUrl r.user.consumerKey] (.error e') z

/-- The course whose files can be picked, the backend being asked in the world `s`. -/
inductive Located (s : σ) : Except LaunchError (Option String) → Prop
  | failed {e : LaunchError} (answer : outcome (b.canvasFilesAvailable r) s = .error e) :
      Located s (.error e)
  | missing (answer : outcome (b.canvasFilesAvailable r) s = .ok true)
      (absent : r.value? "custom_canvas_course_id" = none) :
      Located s (.error (.missingParameter "custom_canvas_course_id"))
  | course {id : String} (answer : outcome (b.canvasFilesAvailable r) s = .ok true)
      (given : r.value? "custom_canvas_course_id" = some id) : Located s (.ok (some id))
  | unavailable (answer : outcome (b.canvasFilesAvailable r) s = .ok false) : Located s (.ok none)

/-- What is asked for from the world `s` on, and what comes of it. If all goes well, `Complete` holds
of the address, the course and the result. -/
inductive Gathered (required : List String) (Complete : String → Option String → α → Prop) (s : σ) :
    List BackendCall → Except LaunchError α → Prop
  | incomplete {name : String} (first : required.find? (fun n => !r.has n) = some name) :
      Gathered required Complete s [] (.error (.missingParameter name))
  | unaddressed {asked : List BackendCall} {e : LaunchError} {z : σ}
      (given : ∀ n ∈ required, r.has n = true) (address : Addressed b r s asked (.error e) z) :
      Gathered required Complete s asked (.error e)
  | unlocated {asked : List BackendCall} {url : String} {z : σ} {e : LaunchError}
      (given : ∀ n ∈ required, r.has n = true) (address : Addressed b r s asked (.ok url) z)
      (course : Located b r z (.error e)) :
      Gathered required Complete s (asked ++ [.canvasFiles]) (.error e)
  | complete {asked : List BackendCall} {url : String} {z : σ} {course : Option String} {x : α}
      (given : ∀ n ∈ required, r.has n = true) (address : Addressed b r s asked (.ok url) z)
      (located : Located b r z (.ok course)) (complete : Complete url course x) :
      Gathered required Complete s (asked ++ [.canvasFiles]) (.ok x)

/-- What a first launch is given for the assignment `link`, in no particular order. -/
def offered (launchUrl : String) (credentials : PickerCredentials) (link url : String)
    (course : Option String) : List (String × Json) :=
  [("resource_link_id", .str link),
    ("tool_consumer_instance_guid", Json.ofOption .str (r.value? "tool_consumer_instance_guid")),
    ("lti_launch_url", .str launchUrl),
    ("lms_url", .str url),
    ("google_client_id", .str credentials.clientId),
    ("google_developer_key", .str credentials.developerKey)] ++
    Json.optionalMember "course_id" .str course

variable {b r}

namespace Gathered

variable {required : List String} {Complete : String → Option String → α → Prop} {s : σ}
  {calls : List BackendCall} {o : Except LaunchError α} {name : String}

theorem cons (given : r.has name = true) (h : Gathered b r required Complete s calls o) :
    Gathered b r (name :: required) Complete s calls o := by
  have all (rest : ∀ n ∈ required, r.has n = true) : ∀ n ∈ name :: required, r.has n = true :=
    List.forall_mem_cons.mpr ⟨given, rest⟩
  cases h with
  | incomplete first =>
    refine .incomplete ?_
    rw [List.find?_cons_of_neg (by simp [given])]
    exact first
  | unaddressed rest address => exact .unaddressed (all rest) address
  | unlocated rest address course => exact .unlocated (all rest) address course
  | complete rest address located complete => exact .complete (all rest) address located complete

end Gathered

/-! ### What is asked for -/

variable (b r) (s : σ)

end SelectionContext

end LtiLaunch
