import LtiLaunch.Assignment.Signals
import LtiLaunch.Dispatch.Table

/-!
# Selecting a candidate

The candidates of a route are tried in order, and the guards of each from the cheapest on, until a
candidate has all its guards passed. The document of the assignment is looked for when a guard first
asks for it, and at most once.
-/

namespace LtiLaunch.Selection

variable {σ η : Type}

/-- The document of the assignment, once it has been looked for. -/
abbrev Memo := Option (Option AssignedDocument)

/-- A failure to find out the document, as the failure of the guard that asked for it. -/
def guardFailure (e : LaunchError) : LaunchError :=
  if e.kind = .guardEvaluation then e
  else .guardEvaluation
    ("configuration predicate could not be evaluated (" ++ e.kind.name ++ "): " ++ e.message)

/-- The document of the assignment, looked for unless it has been already. -/
def document (backend : Backend σ) (r : LaunchRequest) (memo : Memo) :
    LaunchM σ (Option AssignedDocument) :=
  match memo with
  | some found => pure found
  | none => tryCatch (Signals.resolve backend r) (fun e => throw (guardFailure e))

def passes (backend : Backend σ) (r : LaunchRequest) (memo : Memo) :
    Guard → LaunchM σ (Bool × Memo)
  | .flag name enabled => do
    let answer ← backend.flagEnabled name r
    return (answer == enabled, memo)
  | .predicate .mayConfigure expected => return (r.user.mayConfigure == expected, memo)
  | .predicate (.document p) expected => do
    let found ← document backend r memo
    return (p.holds found == expected, some found)

/-- Whether all the guards pass; those after one that does not pass are not evaluated. -/
def passesAll (backend : Backend σ) (r : LaunchRequest) :
    Memo → List Guard → LaunchM σ (Bool × Memo)
  | memo, [] => return (true, memo)
  | memo, g :: gs => do
    let (pass, memo) ← passes backend r memo g
    if pass then passesAll backend r memo gs else return (false, memo)

def firstMatch (backend : Backend σ) (r : LaunchRequest) :
    Memo → List (Candidate η) → LaunchM σ (Option (Candidate η))
  | _, [] => return none
  | memo, c :: cs => do
    let (pass, memo) ← passesAll backend r memo c.guards.guards
    if pass then return some c else firstMatch backend r memo cs

def selected (c : Candidate η) : JournalEntry :=
  .event .debug "dispatch" "launch_candidate_selected"
    [("candidate", .text c.name), ("guards", .text c.guards.text)]

def notFound (route : RouteKey) : JournalEntry :=
  .event .debug "dispatch" "launch_candidate_not_found" [("route", .text route.text)]

def choose (backend : Backend σ) (t : DispatchTable η) (r : LaunchRequest) :
    LaunchM σ (Candidate η) := do
  match ← firstMatch backend r none (t.candidates r.key) with
  | some c =>
    backend.journal (selected c)
    return c
  | none =>
    backend.journal (notFound r.key)
    throw (.notFound ("no launch view matches " ++ r.key.text))

end LtiLaunch.Selection
