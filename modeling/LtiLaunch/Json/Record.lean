import LtiLaunch.Json.Basic
import LtiLaunch.SortedMap

/-!
# Records in JSON

A record is an object of its fields or an array of them in order. An object may hold other members
too, but a field only once; an array may stop early, but not go on after the last field. A tagged
record carries the name of its case in a member, or in front of the other elements.
-/

namespace LtiLaunch.Json

/-- The value of the one member of the name; `none` if the name is repeated. -/
def field? (ms : List (String × Json)) (name : String) : Option (Option Json) :=
  match ms.filter (fun m => m.1 == name) with
  | [] => some none
  | [m] => some (some m.2)
  | _ => none

/-- The values given for the fields, in the order of `names`. -/
def fields? (names : List String) : Json → Option (List (Option Json))
  | obj ms => names.mapM (field? ms)
  | arr xs =>
    if xs.length ≤ names.length then
      some (xs.map some ++ List.replicate (names.length - xs.length) none)
    else none
  | _ => none

/-- How deeply values may be nested where every value is kept. -/
def maxDepth : Nat := 127

/-- The case a tagged record names, and the record without the tag. All of it has to be readable. -/
def tagged? (tag : String) (v : Json) : Option (String × Json) :=
  if v.readable && v.depth ≤ maxDepth then
    match v with
    | obj ms =>
      match field? ms tag with
      | some (some (str name)) => some (name, obj (ms.filter (fun m => m.1 != tag)))
      | _ => none
    | arr (str name :: xs) => some (name, arr xs)
    | _ => none
  else none

def required {α : Type} (read : Json → Option α) : Option Json → Option α
  | some v => read v
  | none => none

/-- A field that has the value `d` when it is left out. -/
def withDefault {α : Type} (d : α) (read : Json → Option α) : Option Json → Option α
  | some v => read v
  | none => some d

def nullable? {α : Type} (read : Json → Option α) : Json → Option (Option α)
  | null => some none
  | v => (read v).map some

def listOf? {α : Type} (read : Json → Option α) : Json → Option (List α)
  | arr xs => xs.mapM read
  | _ => none

/-- An object as a map; the last member of a name wins. -/
def mapOf? {α : Type} (read : Json → Option α) : Json → Option (SortedMap String α)
  | obj ms => (ms.mapM (fun m => (read m.2).map (fun x => (m.1, x)))).map SortedMap.ofList
  | _ => none

/-- A name out of a fixed set: the name alone, or an object that binds it to null. -/
def nameOf? {α : Type} (ofName? : String → Option α) : Json → Option α
  | str s => ofName? s
  | obj [(s, null)] => ofName? s
  | _ => none

def free? (limit : Nat) (v : Json) : Option Json :=
  if v.readable && v.depth ≤ limit then some v.canonical else none

def ofMap {α : Type} (write : α → Json) (m : SortedMap String α) : Json :=
  obj (m.entries.map (fun e => (e.1, write e.2)))

def ofOption {α : Type} (write : α → Json) : Option α → Json
  | some x => write x
  | none => null

/-- A member that is left out when there is no value. -/
def optionalMember {α : Type} (name : String) (write : α → Json) :
    Option α → List (String × Json)
  | some x => [(name, write x)]
  | none => []

end LtiLaunch.Json
