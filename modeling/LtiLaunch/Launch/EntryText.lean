import LtiLaunch.Json.Token
import LtiLaunch.Launch.Journal

/-!
# Journal entries as text

An entry is written as one line: its level, its target, its message and its fields.
-/

namespace LtiLaunch

def FieldValue.toJson : FieldValue → Json
  | text s => .str s
  | flag b => .bool b
  | count n => .nat n

def JournalEntry.line (e : JournalEntry) : String :=
  let fields := Json.obj (e.fields.map fun f => (f.1, f.2.toJson))
  e.level.name ++ " " ++ e.target ++ ": " ++ e.message ++ " " ++ fields.render

end LtiLaunch
