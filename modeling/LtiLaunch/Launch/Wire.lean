import LtiLaunch.Json.Record
import LtiLaunch.Launch.Request
import LtiLaunch.Launch.View

/-!
# Launch data in JSON
-/

namespace LtiLaunch

def HttpMethod.ofName? (s : String) : Option HttpMethod :=
  [HttpMethod.get, HttpMethod.post].find? (·.name == s)

def HttpMethod.ofJson? : Json → Option HttpMethod := Json.nameOf? HttpMethod.ofName?

def Route.ofName? (s : String) : Option Route := Route.all.find? (·.name == s)

def Route.ofJson? : Json → Option Route := Json.nameOf? Route.ofName?

def User.toJson (u : User) : Json :=
  .obj
    [("user_id", .str u.userId), ("oauth_consumer_key", .str u.consumerKey),
      ("roles", .str u.roles)]

def User.ofJson? (v : Json) : Option User :=
  match Json.fields? ["user_id", "oauth_consumer_key", "roles"] v with
  | some [userId, consumerKey, roles] => do
    some
      { userId := ← Json.required Json.str? userId
        consumerKey := ← Json.required Json.str? consumerKey
        roles := ← Json.required Json.str? roles }
  | _ => none

namespace View

def toJson (p : View) : Json :=
  .obj [("renderer", .str p.renderer), ("variables", p.arguments)]

/-- The arguments may be any JSON value; the view around them counts for their depth. -/
def ofJson? (v : Json) : Option View :=
  match Json.fields? ["renderer", "variables"] v with
  | some [renderer, arguments] => do
    some
      { renderer := ← Json.required Json.str? renderer
        arguments := ← Json.required (Json.free? (Json.maxDepth - 1)) arguments }
  | _ => none

end View

end LtiLaunch
