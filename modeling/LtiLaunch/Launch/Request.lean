import LtiLaunch.Launch.Route
import LtiLaunch.Launch.User

/-!
# Launch requests
-/

namespace LtiLaunch

structure LaunchRequest where
  method : HttpMethod
  route : Route
  params : Params
  user : User
  deriving DecidableEq

namespace LaunchRequest

/-- A request made by the user that its own parameters name. -/
def ofParams (method : HttpMethod) (route : Route) (params : Params) :
    Except LaunchError LaunchRequest :=
  match User.ofParams params with
  | .error e => .error e
  | .ok user => .ok { method, route, params, user }

def key (r : LaunchRequest) : RouteKey := ⟨r.route, r.method⟩

def value? (r : LaunchRequest) (name : String) : Option String := r.params.get? name

def has (r : LaunchRequest) (name : String) : Bool := r.params.contains name

def require (r : LaunchRequest) (name : String) : Except LaunchError String :=
  match r.value? name with
  | some value => .ok value
  | none => .error (.missingParameter name)

theorem has_eq (r : LaunchRequest) (name : String) :
    r.has name = (r.value? name).isSome := rfl

end LaunchRequest

end LtiLaunch
