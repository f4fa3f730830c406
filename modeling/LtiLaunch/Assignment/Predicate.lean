import LtiLaunch.Assignment.Document

/-!
# Predicates

The questions a view may put to a request: where the document of its assignment comes from, if it
has one, and whether its user may configure assignments. `excludes` tells answers that no request
can give at once.
-/

namespace LtiLaunch

/-- A question about the document of an assignment. -/
inductive SourcePredicate
  /-- The document comes from just this source. -/
  | exactly (source : DocumentSource)
  | configured
  deriving DecidableEq, Repr

namespace SourcePredicate

def all : List SourcePredicate :=
  [exactly .onRecord, exactly .url, exactly .canvasFile, exactly .vitalSourceBook, configured]

def source? : SourcePredicate → Option DocumentSource
  | exactly v => some v
  | configured => none

def holds : SourcePredicate → Option AssignedDocument → Bool
  | exactly v, some c => c.source == v
  | exactly _, none => false
  | configured, resolved => resolved.isSome

/-- Whether `p` answering `expected` rules out `q` answering `expected'`, for different `p`, `q`. -/
def excludes (p : SourcePredicate) (expected : Bool) (q : SourcePredicate)
    (expected' : Bool) : Bool :=
  match p, q with
  | exactly v, exactly w => v != w && expected && expected'
  | exactly _, configured => expected && !expected'
  | configured, exactly _ => !expected && expected'
  | configured, configured => false

end SourcePredicate

inductive RequestPredicate
  | document (predicate : SourcePredicate)
  | mayConfigure
  deriving DecidableEq, Repr

namespace RequestPredicate

def name : RequestPredicate → String
  | document (.exactly .onRecord) => "db_configured"
  | document (.exactly .canvasFile) => "canvas_file"
  | document (.exactly .url) => "url_configured"
  | document (.exactly .vitalSourceBook) => "vitalsource_book"
  | document .configured => "configured"
  | mayConfigure => "authorized_to_configure_assignments"

/-- Every predicate, in the order in which a vocabulary takes them up. -/
def builtin : List RequestPredicate :=
  [document (.exactly .onRecord), document (.exactly .canvasFile),
    document (.exactly .url), document (.exactly .vitalSourceBook),
    document .configured, mayConfigure]

def ofName? (s : String) : Option RequestPredicate := builtin.find? (·.name == s)

/-- Whether `p` answering `expected` rules out `q` answering `expected'`. -/
def excludes (p : RequestPredicate) (expected : Bool) (q : RequestPredicate)
    (expected' : Bool) : Bool :=
  if p = q then expected != expected'
  else match p, q with
    | document p, document q => p.excludes expected q expected'
    | _, _ => false

end RequestPredicate

end LtiLaunch
