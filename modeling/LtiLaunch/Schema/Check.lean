import LtiLaunch.Schema.Basic

/-!
# Checking a value against a schema

`violations` lists all that is wrong with a value: keyword after keyword, and inside a keyword
member after member or element after element.
-/

namespace LtiLaunch.Schema

def isListed (listed : List (String × Schema)) (name : String) : Bool := listed.any (·.1 == name)

/-- The members that are not listed, as one violation if there are any. -/
def unlisted (listed : List (String × Schema)) (ms : List (String × Json)) : List Violation :=
  match (ms.filter (fun m => !isListed listed m.1)).map (·.1) with
  | [] => []
  | names => [.unexpected names]

mutual

def violations : Schema → Json → List Violation
  | anything, _ => []
  | nothing, v => [.forbidden v]
  | object ks, v => violationsOf ks v

def violationsOf : List Keyword → Json → List Violation
  | [], _ => []
  | k :: ks, v => keywordViolations k v ++ violationsOf ks v

def keywordViolations : Keyword → Json → List Violation
  | .noMembers, .obj ((_, x) :: _) => [.forbidden x]
  | .onlyMembers listed, .obj ms =>
    ms.flatMap (fun m => memberViolations listed m.1 m.2) ++ unlisted listed ms
  | .otherMembers listed other, .obj ms =>
    ms.flatMap fun m =>
      if isListed listed m.1 then memberViolations listed m.1 m.2 else violations other m.2
  | .members listed, .obj ms => listedViolations listed ms
  | .oneOf options, v => if options.any (Json.same v) then [] else [.notOneOf v options]
  | .elements each, .arr xs => xs.flatMap (violations each)
  | .minLength limit, .str s => if s.length < limit then [.tooShort (.str s) limit] else []
  | .minimum limit, .num n => if n.lessThan limit then [.tooSmall (.num n) limit] else []
  | .required names, .obj ms =>
    (names.filter (fun name => ((Json.obj ms).member? name).isNone)).map .missing
  | .kinds allowed, v => if allowed.any (·.holds v) then [] else [.wrongKind v allowed]
  | _, _ => []

def memberViolations : List (String × Schema) → String → Json → List Violation
  | [], _, _ => []
  | (listed, s) :: rest, name, v =>
    if listed = name then violations s v else memberViolations rest name v

def listedViolations : List (String × Schema) → List (String × Json) → List Violation
  | [], _ => []
  | (name, s) :: rest, ms =>
    (match (Json.obj ms).member? name with
      | some v => violations s v
      | none => []) ++ listedViolations rest ms

end

def allows (s : Schema) (v : Json) : Bool := (s.violations v).isEmpty

end LtiLaunch.Schema
