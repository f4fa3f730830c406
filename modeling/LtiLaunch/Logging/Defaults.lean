import LtiLaunch.Logging.Filter

/-!
# Default levels of the launch targets

The targets that launches write to have levels of their own, unless the filter speaks of them.
-/

namespace LtiLaunch.Filter

def launchDefaults : List (String × LogLevel) :=
  [("dispatch", .info), ("content_item", .info), ("launch", .info), ("provisioning", .warn),
    ("tower_http", .warn)]

/-- The target part of a piece: what comes before its level or span. -/
def targetPart (piece : List Char) : List Char :=
  Text.trimChars (piece.takeWhile Directive.isTargetChar)

/-- Whether a target is `target` or below it. -/
def isWithin (target : String) (cs : List Char) : Bool :=
  cs == target.toList || (target ++ "::").toList.isPrefixOf cs

def names (text target : String) : Bool :=
  (pieces text).any (fun p => isWithin target (targetPart p))

/-- The default directives for the targets that the filter leaves open. -/
def defaultsFor (text : String) : List Directive :=
  (launchDefaults.filter (fun d => !names text d.1)).map fun d => .ofTarget d.1 (some d.2)

/-- The filter of the text, with the default levels of the launch targets it does not speak of. -/
def parseWithDefaults? (text : String) : Option Filter :=
  (parse? text).map fun f => ⟨f.directives ++ defaultsFor text⟩

end LtiLaunch.Filter
