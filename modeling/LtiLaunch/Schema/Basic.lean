import LtiLaunch.Json.Token
import LtiLaunch.Text.Find

/-!
# Schemas

A schema says which JSON values are allowed: all of them, none, or those that satisfy a list of
keywords. A value breaks a schema in a number of ways, and each of these violations has a text.
-/

namespace LtiLaunch

/-- The kinds of value that a schema can ask for; a whole number is both an integer and a number. -/
inductive ValueKind
  | array
  | boolean
  | integer
  | null
  | number
  | object
  | string
  deriving DecidableEq, Repr

namespace ValueKind

def all : List ValueKind := [array, boolean, integer, null, number, object, string]

def name : ValueKind → String
  | array => "array"
  | boolean => "boolean"
  | integer => "integer"
  | null => "null"
  | number => "number"
  | object => "object"
  | string => "string"

def ofName? (s : String) : Option ValueKind := all.find? (·.name == s)

def holds : ValueKind → Json → Bool
  | array, .arr _ => true
  | boolean, .bool _ => true
  | integer, .num n => n.whole?.isSome
  | null, .null => true
  | number, .num _ => true
  | object, .obj _ => true
  | string, .str _ => true
  | _, _ => false

end ValueKind

mutual

inductive Schema
  | anything
  | nothing
  | object (keywords : List Keyword)

/-- One rule of a schema. A rule about objects says nothing about a value that is none, and likewise
for the other kinds. -/
inductive Keyword
  | noMembers
  /-- No members beside the listed ones, which have schemas of their own. -/
  | onlyMembers (listed : List (String × Schema))
  | otherMembers (listed : List (String × Schema)) (other : Schema)
  | members (listed : List (String × Schema))
  | oneOf (options : List Json)
  | elements (each : Schema)
  | minLength (limit : Nat)
  | minimum (limit : Number)
  | required (names : List String)
  | kinds (allowed : List ValueKind)

end

namespace Schema

inductive Violation
  | unexpected (names : List String)
  | forbidden (v : Json)
  | notOneOf (v : Json) (options : List Json)
  | tooShort (v : Json) (limit : Nat)
  | tooSmall (v : Json) (limit : Number)
  | missing (name : String)
  | wrongKind (v : Json) (allowed : List ValueKind)
  | noAlternative (v : Json)
  | repetition (v : Json)

namespace Violation

def quoted (quote : String) (s : String) : String := quote ++ s ++ quote

def message : Violation → String
  | unexpected names =>
    "Additional properties are not allowed (" ++
      Text.joinWith ", " (names.map (quoted "'")) ++
      (if names.length = 1 then " was" else " were") ++ " unexpected)"
  | forbidden v => "False schema does not allow " ++ v.render
  | notOneOf v options => v.render ++ " is not one of " ++ (Json.arr options).render
  | tooShort v limit =>
    v.render ++ " is shorter than " ++ toString limit ++
      (if limit = 1 then " character" else " characters")
  | tooSmall v limit => v.render ++ " is less than the minimum of " ++ (Json.num limit).render
  | missing name => (Json.str name).render ++ " is a required property"
  | wrongKind v [kind] => v.render ++ " is not of type " ++ quoted "\"" kind.name
  | wrongKind v kinds =>
    v.render ++ " is not of types " ++
      Text.joinWith ", " (kinds.map (fun k => quoted "\"" k.name))
  | noAlternative v =>
    v.render ++ " is not valid under any of the schemas listed in the 'anyOf' keyword"
  | repetition v => v.render ++ " has non-unique elements"

end Violation

end Schema

end LtiLaunch
