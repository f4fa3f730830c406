/-!
# Launch errors

A launch fails with a kind, which decides the HTTP status of the answer, and a message.
-/

namespace LtiLaunch

inductive ErrorKind
  | configuration
  | protocolViolation
  | failedLookup
  | guardEvaluation
  | notFound
  | internal
  deriving DecidableEq, Repr

namespace ErrorKind

def all : List ErrorKind :=
  [configuration, protocolViolation, failedLookup, guardEvaluation, notFound, internal]

def name : ErrorKind → String
  | configuration => "configuration"
  | protocolViolation => "protocol_violation"
  | failedLookup => "upstream_lookup"
  | guardEvaluation => "guard_evaluation"
  | notFound => "not_found"
  | internal => "internal"

def ofName? (s : String) : Option ErrorKind := all.find? (·.name == s)

def status : ErrorKind → Nat
  | protocolViolation => 400
  | notFound => 404
  | failedLookup => 502
  | configuration | guardEvaluation | internal => 500

def isClient : ErrorKind → Bool
  | protocolViolation | notFound => true
  | _ => false

end ErrorKind

structure LaunchError where
  kind : ErrorKind
  message : String
  deriving DecidableEq, Repr

namespace LaunchError

def configuration (message : String) : LaunchError := ⟨.configuration, message⟩
def protocolViolation (message : String) : LaunchError := ⟨.protocolViolation, message⟩
def failedLookup (message : String) : LaunchError := ⟨.failedLookup, message⟩
def guardEvaluation (message : String) : LaunchError := ⟨.guardEvaluation, message⟩
def notFound (message : String) : LaunchError := ⟨.notFound, message⟩
def internal (message : String) : LaunchError := ⟨.internal, message⟩

def missingParameter (name : String) : LaunchError :=
  protocolViolation ("missing required launch parameter '" ++ name ++ "'")

end LaunchError

end LtiLaunch
