import LtiLaunch.Logging.Level

/-!
# Journal entries

What a launch writes down while it is served: events, and spans that begin.
-/

namespace LtiLaunch

inductive FieldValue
  | text (s : String)
  | flag (b : Bool)
  | count (n : Nat)
  deriving DecidableEq, Repr

inductive EntryKind
  | event
  | span
  deriving DecidableEq, Repr

structure JournalEntry where
  kind : EntryKind
  level : LogLevel
  target : String
  message : String
  fields : List (String × FieldValue)
  deriving DecidableEq, Repr

namespace JournalEntry

def event (level : LogLevel) (target message : String) (fields : List (String × FieldValue)) :
    JournalEntry :=
  ⟨.event, level, target, message, fields⟩

def span (level : LogLevel) (target name : String) (fields : List (String × FieldValue)) :
    JournalEntry :=
  ⟨.span, level, target, name, fields⟩

end JournalEntry

end LtiLaunch
