import LtiLaunch.Dispatch.Stages
import LtiLaunch.Form
import LtiLaunch.Http.Target
import LtiLaunch.Json.Token
import LtiLaunch.Launch.Wire

/-!
# The HTTP service

A request to one of the two routes is a launch with the parameters of its query overlaid by those of
its body. The answer is the view, or the error with the status of its kind.
-/

namespace LtiLaunch.Http

variable {σ : Type}

structure Request where
  method : String
  target : Target
  body : List UInt8
  deriving DecidableEq, Repr

structure Response where
  status : Nat
  contentType : Option String
  body : String
  deriving DecidableEq, Repr

/-- The parameters of the query overlaid by those of the body; the last value of a name counts. -/
def parameters (query : Option (List UInt8)) (body : List UInt8) : Params :=
  (SortedMap.ofList (Form.decode (query.getD []))).insertAll (Form.decode body)

def routeOf? (path : String) : Option Route := Route.all.find? (·.path == path)

def methodOf? (method : String) : Option HttpMethod := HttpMethod.ofName? method

def unknownMethod (method : String) (route : Route) : LaunchError :=
  .notFound ("no launch view matches " ++ method ++ " " ++ route.name)

def launch (backend : Backend σ) (t : DispatchTable (Handler σ)) (route : Route) (q : Request) :
    LaunchM σ View := do
  match methodOf? q.method with
  | none => throw (unknownMethod q.method route)
  | some method =>
    let query := q.target.query.map (fun s => Text.utf8 s.toList)
    let r ← LaunchRequest.ofParams method route (parameters query q.body)
    Stages.answer backend t r

def errorBody (e : LaunchError) : Json :=
  .obj [("error", .obj [("kind", .str e.kind.name), ("message", .str e.message)])]

/-- A fault of the sender is noted quietly, any other as an error. -/
def failed (e : LaunchError) : JournalEntry :=
  .event (if e.kind.isClient then .debug else .error) "server"
    (if e.kind.isClient then "launch_request_rejected" else "launch_request_failed")
    [("status", .count e.kind.status), ("kind", .text e.kind.name), ("error", .text e.message)]

def json (status : Nat) (v : Json) : Response := ⟨status, some "application/json", v.render⟩

/-- The answer to the request, apart from the rule that `HEAD` is answered without a body. -/
def answer (backend : Backend σ) (t : DispatchTable (Handler σ)) (q : Request) :
    StateM σ Response := do
  match routeOf? q.target.path with
  | none => return ⟨404, none, ""⟩
  | some route =>
    match ← (launch backend t route q).run with
    | .ok view => return json 200 view.toJson
    | .error e =>
      backend.journal (failed e)
      return json e.kind.status (errorBody e)

def serve (backend : Backend σ) (t : DispatchTable (Handler σ)) (q : Request) :
    StateM σ Response := do
  let response ← answer backend t q
  return if q.method = "HEAD" then { response with body := "" } else response

end LtiLaunch.Http
