import LtiLaunch.Launch.Error
import LtiLaunch.Text.Blank

/-!
# Picker credentials

What the document picker needs to show files in Google Drive.
-/

namespace LtiLaunch

structure PickerCredentials where
  clientId : String
  developerKey : String
  deriving DecidableEq, Repr

/-- Neither part may be blank; the client id is looked at first. -/
def PickerCredentials.check (clientId developerKey : String) :
    Except LaunchError PickerCredentials :=
  if Text.isBlank clientId then
    .error (.configuration "google_picker.client_id cannot be empty")
  else if Text.isBlank developerKey then
    .error (.configuration "google_picker.developer_key cannot be empty")
  else .ok { clientId, developerKey }

end LtiLaunch
