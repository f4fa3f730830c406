import LtiLaunch.Json.Basic

/-!
# Views

A launch is answered by a view: the renderer to use and the arguments for it. Nothing is rendered
here.
-/

namespace LtiLaunch

structure View where
  renderer : String
  arguments : Json

end LtiLaunch
