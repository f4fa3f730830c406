import LtiLaunch.Schema.Basic

/-!
# Schemas in JSON

A schema is `true`, `false` or an object of keywords. Keywords that this library does not know are
passed over; a keyword it knows has to have a value of the right form, and the first that has not is
reported.
-/

namespace LtiLaunch.Schema

/-- A schema for members that are not listed is read before the list is known; here it gets it. -/
def withListed (listed : List (String × Schema)) : Keyword → Keyword
  | .noMembers => .onlyMembers listed
  | .otherMembers _ other => .otherMembers listed other
  | k => k

def isMembers : Keyword → Bool
  | .members _ => true
  | _ => false

def limitsOthers : Keyword → Bool
  | .noMembers | .otherMembers _ _ => true
  | _ => false

def listed? (ks : List Keyword) : Option (List (String × Schema)) :=
  ks.findSome? fun k =>
    match k with
    | .members listed => some listed
    | _ => none

/-- A keyword about the members that are not listed takes over the listed ones as well. -/
def link (ks : List Keyword) : List Keyword :=
  match listed? ks with
  | some listed =>
    if ks.any limitsOthers then (ks.filter (!isMembers ·)).map (withListed listed) else ks
  | none => ks

def lengthLimit : Json → Except Violation Nat
  | .num n =>
    if n.lessThan (.int 0) then .error (.tooSmall (.num n) (.int 0))
    else match n.whole? with
      | some k => .ok k.toNat
      | none => .error (.wrongKind (.num n) [.integer])
  | v => .error (.wrongKind v [.integer])

def memberName : Json → Except Violation String
  | .str s => .ok s
  | v => .error (.wrongKind v [.string])

def requiredNames : Json → Except Violation (List String)
  | .arr xs => do
    let names ← xs.mapM memberName
    if names.Nodup then return names else throw (.repetition (.arr xs))
  | v => .error (.wrongKind v [.array])

/-- The kinds in a list of their names; each may be there once, and there is at least one. -/
def kindsOf? : Json → Option (List ValueKind)
  | .str s => (ValueKind.ofName? s).map ([·])
  | .arr xs => do
    let ks ← xs.mapM (fun x => x.str? >>= ValueKind.ofName?)
    if ks ≠ [] ∧ ks.Nodup then some (ValueKind.all.filter (ks.contains ·)) else none
  | _ => none

/-- A keyword whose value is not itself a schema or made up of schemas. -/
def plainKeyword (name : String) (v : Json) : Except Violation (List Keyword) :=
  match name with
  | "enum" =>
    match v with
    | .arr options => .ok [.oneOf options]
    | v => .error (.wrongKind v [.array])
  | "minLength" => return [.minLength (← lengthLimit v)]
  | "minimum" =>
    match v with
    | .num n => .ok [.minimum n]
    | v => .error (.wrongKind v [.number])
  | "required" => return [.required (← requiredNames v)]
  | "type" =>
    match kindsOf? v with
    | some kinds => .ok [.kinds kinds]
    | none => .error (.noAlternative v)
  | "$schema" | "title" => do
    let _ ← memberName v
    return []
  | _ => .ok []

/-- The rule for members that are not listed; a schema that allows all is no rule. -/
def othersKeyword : Schema → List Keyword
  | anything => []
  | nothing => [.noMembers]
  | s => [.otherMembers [] s]

mutual

def ofJson : Json → Except Violation Schema
  | .bool true => .ok anything
  | .bool false => .ok nothing
  | .obj ms => return object (link (← keywordsOf ms))
  | v => .error (.wrongKind v [.boolean, .object])

def keywordsOf : List (String × Json) → Except Violation (List Keyword)
  | [] => .ok []
  | (name, v) :: rest => do
    let ks ← match name with
      | "additionalProperties" => pure (othersKeyword (← ofJson v))
      | "items" =>
        match ofJson v with
        | .ok each => pure [.elements each]
        | .error _ => throw (.noAlternative v)
      | "properties" => pure [.members (← membersOf v)]
      | name => plainKeyword name v
    return ks ++ (← keywordsOf rest)

def membersOf : Json → Except Violation (List (String × Schema))
  | .obj ms => schemasOf ms
  | v => .error (.wrongKind v [.object])

def schemasOf : List (String × Json) → Except Violation (List (String × Schema))
  | [] => .ok []
  | (name, v) :: rest => do
    let s ← ofJson v
    return (name, s) :: (← schemasOf rest)

end

end LtiLaunch.Schema
