import LtiLaunch.Http.Service
import LtiLaunch.Proofs.Launch.Answers

/-!
# Launches over HTTP

The status of an answer is that of the launch's outcome, and the launch is one by the user that its
parameters name.
-/

namespace LtiLaunch

variable {σ : Type}

/-- The parameters that a request to one of the routes launches with. -/
def Http.Request.params (q : Http.Request) : Params :=
  Http.parameters (q.target.query.map fun text => Text.utf8 text.toList) q.body

namespace Http

def statusOf : Except LaunchError View → Nat
  | .ok _ => 200
  | .error e => e.kind.status

variable {b : Backend σ} {t : DispatchTable (Handler σ)} {q : Request} {route : Route}

theorem routeOf?_path (route : Route) : routeOf? route.path = some route := by
  cases route <;> decide

theorem run_answer (found : routeOf? q.target.path = some route) (s : σ) :
    (answer b t q).run s =
      match outcome (launch b t route q) s with
      | .ok view => (json 200 view.toJson, after (launch b t route q) s)
      | .error e =>
        (json e.kind.status (errorBody e),
          ((b.journal (failed e)).run (after (launch b t route q) s)).2) := by
  unfold answer
  rw [found]
  simp only [StateT.run_bind]
  rcases hx : (launch b t route q).run.run s with ⟨_ | _, _⟩ <;> simp only [outcome, after, hx] <;> rfl

theorem run_answer_of_none (unknown : routeOf? q.target.path = none) (s : σ) :
    (answer b t q).run s = (⟨404, none, ""⟩, s) := by
  unfold answer
  rw [unknown]
  rfl

theorem run_serve (b : Backend σ) (t : DispatchTable (Handler σ)) (q : Request) (s : σ) :
    (serve b t q).run s =
      (if q.method = "HEAD" then { ((answer b t q).run s).1 with body := "" }
        else ((answer b t q).run s).1, ((answer b t q).run s).2) := by
  unfold serve
  rw [StateT.run_bind]
  by_cases head : q.method = "HEAD"
  · simp only [if_pos head]
    rfl
  · simp only [if_neg head]
    rfl

theorem status_answer (found : routeOf? q.target.path = some route) (s : σ) :
    ((answer b t q).run s).1.status = statusOf (outcome (launch b t route q) s) := by
  rw [run_answer found]
  cases outcome (launch b t route q) s <;> rfl

theorem status_answer_of_none (unknown : routeOf? q.target.path = none) (s : σ) :
    ((answer b t q).run s).1.status = 404 := by
  rw [run_answer_of_none unknown]

theorem status_serve (b : Backend σ) (t : DispatchTable (Handler σ)) (q : Request) (s : σ) :
    ((serve b t q).run s).1.status = ((answer b t q).run s).1.status := by
  rw [run_serve]
  by_cases head : q.method = "HEAD"
  · rw [if_pos head]
  · rw [if_neg head]

/-- Two answers are alike if what the launches come to is. -/
theorem serve_congr {τ : Type} {b' : Backend τ} {t' : DispatchTable (Handler τ)} {s : σ} {s' : τ}
    (same : ∀ route, outcome (launch b t route q) s = outcome (launch b' t' route q) s') :
    ((serve b t q).run s).1 = ((serve b' t' q).run s').1 := by
  have answers : ((answer b t q).run s).1 = ((answer b' t' q).run s').1 := by
    cases found : routeOf? q.target.path with
    | none => rw [run_answer_of_none found, run_answer_of_none found]
    | some route =>
      rw [run_answer found, run_answer found, same route]
      cases outcome (launch b' t' route q) s' <;> rfl
  rw [run_serve, run_serve, answers]

/-- The worlds that launches do not leave are not left by answers either. -/
theorem serve_mem {W : σ → Prop} {s : σ} (journals : b.Journals W) (world : W s)
    (kept : ∀ route, W (after (launch b t route q) s)) : W ((serve b t q).run s).2 := by
  rw [run_serve]
  cases found : routeOf? q.target.path with
  | none => rwa [run_answer_of_none found]
  | some route =>
    rw [run_answer found]
    cases outcome (launch b t route q) s with
    | ok view => exact kept route
    | error e => exact (journals (failed e) _ (kept route)).2

/-! ### Methods -/

theorem methodOf?_eq_none {method : String} (other : method ≠ "GET" ∧ method ≠ "POST") :
    methodOf? method = none := by
  simp [methodOf?, HttpMethod.ofName?, HttpMethod.name, Ne.symm other.1, Ne.symm other.2]

theorem exists_methodOf? {method : String} (known : ¬ (method ≠ "GET" ∧ method ≠ "POST")) :
    ∃ m, methodOf? method = some m ∧ (method = "GET" ↔ m = .get) := by
  by_cases get : method = "GET"
  · exact ⟨.get, by rw [get]; rfl, by simp [get]⟩
  · have post : method = "POST" := Decidable.byContradiction fun other => known ⟨get, other⟩
    exact ⟨.post, by rw [post]; rfl, by simp [post]⟩

/-! ### Outcomes -/

variable {method : HttpMethod} {r : LaunchRequest} {e : LaunchError}

theorem outcome_launch_of_none (unknown : methodOf? q.method = none) (s : σ) :
    outcome (launch b t route q) s = .error (unknownMethod q.method route) := by
  unfold launch
  rw [unknown]
  rfl

theorem outcome_launch_of_error (known : methodOf? q.method = some method)
    (refused : LaunchRequest.ofParams method route q.params = .error e) (s : σ) :
    outcome (launch b t route q) s = .error e := by
  unfold Request.params at refused
  unfold launch
  rw [known]
  simp only
  rw [refused]
  rfl

theorem launch_of_ok (known : methodOf? q.method = some method)
    (made : LaunchRequest.ofParams method route q.params = .ok r) :
    launch b t route q = Stages.answer b t r := by
  unfold Request.params at made
  unfold launch
  rw [known]
  simp only
  rw [made]
  rfl

theorem outcome_launch_of_ok (known : methodOf? q.method = some method)
    (made : LaunchRequest.ofParams method route q.params = .ok r) (s : σ) :
    outcome (launch b t route q) s = outcome (Stages.answer b t r) s := by
  rw [launch_of_ok known made]

/-- What a launch comes to, given what the views reply to each launch request. -/
def reply (f : LaunchRequest → Except LaunchError View) (route : Route) (q : Request) :
    Except LaunchError View :=
  match methodOf? q.method with
  | none => .error (unknownMethod q.method route)
  | some method => LaunchRequest.ofParams method route q.params >>= f

theorem yields_launch {W : σ → Prop} {f : LaunchRequest → Except LaunchError View}
    (h : ∀ r, Yields W (Stages.answer b t r) (f r)) (route : Route) (q : Request) :
    Yields W (launch b t route q) (reply f route q) := by
  unfold launch reply
  cases methodOf? q.method with
  | none => exact Yields.throw
  | some method => exact Yields.bind_each (Yields.ofExcept _) fun r _ => h r

end Http

namespace LaunchRequest

variable {p : Params} {key : String}

theorem ofParams_of_anonymous (method : HttpMethod) (route : Route)
    (anonymous : ∀ key, p.get? "oauth_consumer_key" = some key → Text.isBlank key = true) :
    ofParams method route p = .error (.missingParameter "oauth_consumer_key") := by
  unfold ofParams User.ofParams
  cases given : p.get? "oauth_consumer_key" with
  | none => rfl
  | some key => simp only [anonymous key given, if_true]

theorem exists_ofParams (method : HttpMethod) (route : Route)
    (given : p.get? "oauth_consumer_key" = some key) (named : Text.isBlank key = false) :
    ∃ r, ofParams method route p = .ok r ∧ r.method = method ∧ r.route = route ∧ r.params = p ∧
      r.user.consumerKey = key ∧ r.user.roles = p.getD "roles" "" := by
  unfold ofParams User.ofParams
  rw [given]
  simp only [named]
  exact ⟨_, rfl, rfl, rfl, rfl, rfl, rfl⟩

end LaunchRequest

end LtiLaunch
