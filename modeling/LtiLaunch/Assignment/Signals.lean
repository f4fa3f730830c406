import LtiLaunch.Assignment.Predicate
import LtiLaunch.Launch.Backend
import LtiLaunch.Text.Blank

/-!
# Signals

Four signals tell which document an assignment has, and the first that is present decides: a
document on record, a document address in the launch, a file in Canvas, a VitalSource book. The
first and the third ask the backend and may fail.
-/

namespace LtiLaunch.Signals

variable {σ : Type}

/-- The document on record; the store is asked only if the request names an assignment. -/
def documentOnRecord (backend : Backend σ) (r : LaunchRequest) : LaunchM σ (Option String) :=
  match AssignmentKey.ofRequest? r with
  | some assignment => backend.documentUrl assignment
  | none => pure none

/-- The document address in the launch, if it is a URL. -/
def linkedDocument? (isUrl : String → Bool) (r : LaunchRequest) : Option String :=
  match r.value? "url" with
  | some text =>
    let text := Text.trim text
    if isUrl text then some text else none
  | none => none

def fromCanvas (r : LaunchRequest) : Bool :=
  match r.value? "tool_consumer_info_product_family_code" with
  | some family => family.toList.map Char.toLower == "canvas".toList
  | none => false

/-- The Canvas file; the backend is asked only if the launch comes from Canvas with a file. -/
def canvasFile (backend : Backend σ) (r : LaunchRequest) : LaunchM σ (Option String) :=
  if r.has "canvas_file" then
    match r.value? "file_id" with
    | some file =>
      if fromCanvas r then do
        if ← backend.canvasFilesAvailable r then pure (some file) else pure none
      else pure none
    | none => pure none
  else pure none

def vitalSourceBook? (r : LaunchRequest) : Option (String × Option String) :=
  if r.has "vitalsource_book" then
    match r.value? "book_id" with
    | some book => if Text.isBlank book then none else some (book, r.value? "cfi")
    | none => none
  else none

/-- The document of the assignment, from the first signal that is present. -/
def resolve (backend : Backend σ) (r : LaunchRequest) : LaunchM σ (Option AssignedDocument) := do
  match ← documentOnRecord backend r with
  | some document => pure (some (.onRecord document))
  | none =>
    match linkedDocument? backend.isUrl r with
    | some document => pure (some (.url document))
    | none =>
      match ← canvasFile backend r with
      | some file => pure (some (.canvasFile file))
      | none =>
        match vitalSourceBook? r with
        | some (book, cfi) => pure (some (.vitalSourceBook book cfi))
        | none => pure none

def evaluate (backend : Backend σ) (p : SourcePredicate) (r : LaunchRequest) : LaunchM σ Bool := do
  pure (p.holds (← resolve backend r))

end LtiLaunch.Signals
