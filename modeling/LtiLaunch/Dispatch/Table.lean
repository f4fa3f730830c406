import LtiLaunch.Dispatch.Guard
import LtiLaunch.Dispatch.Vocabulary

/-!
# The dispatch table

A table lists the candidates of each route in the order in which they were declared. A candidate
is taken up only if its guards exclude those of every candidate its route has already, so no request
is ever claimed by two. The table does not look at what a candidate does with a request.
-/

namespace LtiLaunch

/-- What is seen to before a handler runs. -/
inductive Preparation
  | upsertUser
  | upsertCourseGroup
  deriving DecidableEq, Repr

namespace Preparation

def name : Preparation → String
  | upsertUser => "upsert_user"
  | upsertCourseGroup => "upsert_course_group"

def ofName? (s : String) : Option Preparation :=
  [upsertUser, upsertCourseGroup].find? (·.name == s)

end Preparation

/-- A candidate as it is declared, with the names of its predicates. -/
structure Declaration (η : Type) where
  name : String
  route : RouteKey
  flags : List (String × Bool)
  predicates : List (String × Bool)
  preparations : List Preparation
  handler : η

structure Candidate (η : Type) where
  name : String
  route : RouteKey
  guards : GuardSet
  preparations : List Preparation
  handler : η

structure DispatchTable (η : Type) where
  routes : SortedMap RouteKey (List (Candidate η))

namespace DispatchTable

variable {η : Type}

inductive Refusal
  | blankName
  | blankFlag (candidate : String)
  | predicate (cause : Vocabulary.Refusal)
  | duplicate (candidate : String) (route : RouteKey)
  | overlap (candidate : String) (guards : GuardSet) (other : String) (otherGuards : GuardSet)
      (route : RouteKey)
  deriving DecidableEq

def Refusal.error : Refusal → LaunchError
  | blankName => .configuration "dispatch candidate name cannot be empty"
  | blankFlag candidate =>
    .configuration ("dispatch candidate '" ++ candidate ++ "' has an empty feature flag name")
  | predicate cause => cause.error
  | duplicate candidate route =>
    .configuration
      ("dispatch candidate '" ++ candidate ++ "' is already registered on " ++ route.text)
  | overlap candidate guards other otherGuards route =>
    .configuration
      ("dispatch candidate '" ++ candidate ++ "' " ++ guards.text ++ " overlaps with '" ++ other ++
        "' " ++ otherGuards.text ++ " on " ++ route.text)

def empty : DispatchTable η := ⟨.empty⟩

def candidates (t : DispatchTable η) (route : RouteKey) : List (Candidate η) :=
  t.routes.getD route []

def routeKeys (t : DispatchTable η) : List RouteKey := t.routes.keys

/-- The guards of the flags, none of which may be blank. -/
def flagGuards (candidate : String) : List (String × Bool) → Except Refusal (List Guard)
  | [] => .ok []
  | (flag, enabled) :: rest =>
    if Text.isBlank flag then .error (.blankFlag candidate)
    else (flagGuards candidate rest).map (.flag flag enabled :: ·)

/-- The guards of the predicates, all of which have to be in the vocabulary. -/
def predicateGuards (vocabulary : Vocabulary) :
    List (String × Bool) → Except Refusal (List Guard)
  | [] => .ok []
  | (name, expected) :: rest =>
    match vocabulary.meaning name with
    | .error cause => .error (.predicate cause)
    | .ok p => (predicateGuards vocabulary rest).map (.predicate p expected :: ·)

def candidateOf (vocabulary : Vocabulary) (d : Declaration η) :
    Except Refusal (Candidate η) := do
  if Text.isBlank d.name then throw .blankName
  let flags ← flagGuards d.name d.flags
  let predicates ← predicateGuards vocabulary d.predicates
  return {
    name := d.name
    route := d.route
    guards := .ofList (flags ++ predicates)
    preparations := d.preparations
    handler := d.handler }

/-- Why the candidate cannot stand beside the others of its route, if so. -/
def conflict? (others : List (Candidate η)) (c : Candidate η) : Option Refusal :=
  if others.any (fun other => other.name == c.name) then some (.duplicate c.name c.route)
  else match others.find? (fun other => !other.guards.exclusive c.guards) with
    | some other => some (.overlap c.name c.guards other.name other.guards c.route)
    | none => none

def add (t : DispatchTable η) (c : Candidate η) : DispatchTable η :=
  ⟨t.routes.insert c.route (t.candidates c.route ++ [c])⟩

def declare (vocabulary : Vocabulary) (t : DispatchTable η) (d : Declaration η) :
    Except Refusal (DispatchTable η) := do
  let c ← candidateOf vocabulary d
  match conflict? (t.candidates c.route) c with
  | some refusal => throw refusal
  | none => return t.add c

/-- The table with the route on it; one that was not there has no candidates. -/
def openRoute (t : DispatchTable η) (route : RouteKey) : DispatchTable η :=
  match t.routes.get? route with
  | some _ => t
  | none => ⟨t.routes.insert route []⟩

/-- A declaration made to a table in place. Its route is opened as soon as it describes a candidate,
and only then is it known whether the candidate can stand there. -/
def register (vocabulary : Vocabulary) (d : Declaration η) :
    ExceptT Refusal (StateM (DispatchTable η)) Unit := do
  let c ← liftM (candidateOf vocabulary d)
  modify (·.openRoute c.route)
  match conflict? ((← get).candidates c.route) c with
  | some refusal => throw refusal
  | none => modify (·.add c)

/-- Takes up one declaration after the other; the first refusal ends it. -/
def declareAll (t : DispatchTable η) (vocabulary : Vocabulary) (ds : List (Declaration η)) :
    Except Refusal (DispatchTable η) :=
  ds.foldlM (declare vocabulary) t

end DispatchTable

end LtiLaunch
