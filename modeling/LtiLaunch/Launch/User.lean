import LtiLaunch.Launch.Error
import LtiLaunch.SortedMap
import LtiLaunch.Text.Blank
import LtiLaunch.Text.Find

/-!
# Users

The user a launch is made for, and which roles may configure an assignment.
-/

namespace LtiLaunch

/-- Launch parameters; each name has one value. -/
abbrev Params := SortedMap String String

structure User where
  userId : String
  consumerKey : String
  /-- Roles separated by commas, as the learning platform sent them. -/
  roles : String
  deriving DecidableEq, Repr

namespace User

/-- The user that the parameters name; a consumer key is the one thing they must give. -/
def ofParams (params : Params) : Except LaunchError User :=
  match params.get? "oauth_consumer_key" with
  | none => .error (.missingParameter "oauth_consumer_key")
  | some key =>
    if Text.isBlank key then .error (.missingParameter "oauth_consumer_key")
    else .ok
      { userId := params.getD "user_id" ""
        consumerKey := key
        roles := params.getD "roles" "" }

/-- A role that contains one of these words, in any case, may configure assignments. -/
def configuringRoles : List String := ["administrator", "instructor", "teachingassistant"]

def mayConfigure (user : User) : Bool :=
  let roles := user.roles.toList.map Char.toLower
  configuringRoles.any (fun word => Text.occursIn word.toList roles)

end User

end LtiLaunch
