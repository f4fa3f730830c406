import LtiLaunch.Assignment.Predicate

/-!
# The predicate vocabulary

Names for predicates, each bound once and for all: to bind a name again to the same predicate
changes nothing, and to bind it to another one is refused.
-/

namespace LtiLaunch

/-- The predicates that declarations can name. -/
structure Vocabulary where
  bindings : SortedMap String RequestPredicate

namespace Vocabulary

inductive Refusal
  | blankName
  | taken (name : String) (holder : RequestPredicate)
  | unknown (name : String)
  deriving DecidableEq, Repr

def Refusal.error : Refusal → LaunchError
  | blankName => .configuration "view predicate name cannot be empty"
  | taken name other =>
    .configuration
      ("view predicate '" ++ name ++ "' is already registered as '" ++ other.name ++ "'")
  | unknown name => .configuration ("unknown view predicate '" ++ name ++ "'")

def empty : Vocabulary := ⟨.empty⟩

def bind (r : Vocabulary) (name : String) (p : RequestPredicate) :
    Except Refusal Vocabulary :=
  if Text.isBlank name then .error .blankName
  else match r.bindings.get? name with
    | some q => if q = p then .ok r else .error (.taken name q)
    | none => .ok ⟨r.bindings.insert name p⟩

/-- A name bound in place. -/
def register (name : String) (p : RequestPredicate) : ExceptT Refusal (StateM Vocabulary) Unit := do
  if Text.isBlank name then throw .blankName
  match (← get).bindings.get? name with
  | some q => if q = p then return () else throw (.taken name q)
  | none => modify fun r => ⟨r.bindings.insert name p⟩

def meaning (r : Vocabulary) (name : String) : Except Refusal RequestPredicate :=
  match r.bindings.get? name with
  | some p => .ok p
  | none => .error (.unknown name)

def names (r : Vocabulary) : List String := r.bindings.keys

def size (r : Vocabulary) : Nat := r.bindings.size

/-- Every predicate under its own name. -/
def builtin : Vocabulary :=
  ⟨.ofList (RequestPredicate.builtin.map (fun p => (p.name, p)))⟩

end Vocabulary

end LtiLaunch
