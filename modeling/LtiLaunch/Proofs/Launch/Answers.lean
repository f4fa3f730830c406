import LtiLaunch.Assignment.Signals
import LtiLaunch.Proofs.Launch.Outcome
import LtiLaunch.Url.Parser

/-!
# Backends that answer as functions

`Answers` holds one answer for each question a backend can be asked. A backend follows them on a set
of worlds if it gives those answers in all of them, and its calls do not leave the set.
-/

namespace LtiLaunch

variable {σ : Type}

/-- What a backend answers, whatever it was asked before. -/
structure Answers where
  isUrl : String → Bool
  documentUrl : AssignmentKey → Except LaunchError (Option String)
  lmsUrl : String → Except LaunchError String
  canvasFiles : LaunchRequest → Except LaunchError Bool
  flag : String → LaunchRequest → Bool
  upsertUser : LaunchRequest → Except LaunchError Unit
  upsertCourseGroup : LaunchRequest → Except LaunchError Unit

namespace Backend

/-- To note an entry does not leave the worlds of `W`. -/
def Journals (b : Backend σ) (W : σ → Prop) : Prop :=
  ∀ e, Yields W (liftM (b.journal e) : LaunchM σ Unit) (.ok ())

/-- In the worlds of `W`, the backend gives the answers `a`. -/
structure Follows (b : Backend σ) (W : σ → Prop) (a : Answers) : Prop where
  isUrl : b.isUrl = a.isUrl
  documentUrl : ∀ key, Yields W (b.documentUrl key) (a.documentUrl key)
  lmsUrl : ∀ key, Yields W (b.lmsUrl key) (a.lmsUrl key)
  canvasFiles : ∀ r, Yields W (b.canvasFilesAvailable r) (a.canvasFiles r)
  flag : ∀ name r, Yields W (liftM (b.flagEnabled name r) : LaunchM σ Bool) (.ok (a.flag name r))
  upsertUser : ∀ r, Yields W (b.upsertUser r) (a.upsertUser r)
  upsertCourseGroup : ∀ r, Yields W (b.upsertCourseGroup r) (a.upsertCourseGroup r)
  journal : b.Journals W

end Backend

namespace Answers

def canvasFile (a : Answers) (r : LaunchRequest) : Except LaunchError (Option String) :=
  match r.has "canvas_file", r.value? "file_id", Signals.fromCanvas r with
  | true, some file, true =>
    (a.canvasFiles r).map fun available => if available then some file else none
  | _, _, _ => .ok none

def documentOnRecord (a : Answers) (r : LaunchRequest) : Except LaunchError (Option String) :=
  match AssignmentKey.ofRequest? r with
  | some key => a.documentUrl key
  | none => .ok none

/-- The backend that gives the answers and leaves the world as it is. -/
def backend (a : Answers) : Backend σ where
  isUrl := a.isUrl
  documentUrl key := liftM (a.documentUrl key)
  lmsUrl key := liftM (a.lmsUrl key)
  canvasFilesAvailable r := liftM (a.canvasFiles r)
  flagEnabled name r := pure (a.flag name r)
  upsertUser r := liftM (a.upsertUser r)
  upsertCourseGroup r := liftM (a.upsertCourseGroup r)
  journal _ := pure ()

theorem follows_backend (a : Answers) : (a.backend : Backend σ).Follows (fun _ => True) a where
  isUrl := rfl
  documentUrl _ := Yields.ofExcept _
  lmsUrl _ := Yields.ofExcept _
  canvasFiles _ := Yields.ofExcept _
  flag _ _ _ _ := ⟨rfl, trivial⟩
  upsertUser _ := Yields.ofExcept _
  upsertCourseGroup _ := Yields.ofExcept _
  journal _ _ _ := ⟨rfl, trivial⟩

/-- The document of the assignment: the first of the four signals, each asked for only if those
before it are absent. -/
def resolve (a : Answers) (r : LaunchRequest) : Except LaunchError (Option AssignedDocument) := do
  if let some document ← a.documentOnRecord r then return some (.onRecord document)
  if let some document := Signals.linkedDocument? a.isUrl r then return some (.url document)
  if let some file ← a.canvasFile r then return some (.canvasFile file)
  return (Signals.vitalSourceBook? r).map fun book => .vitalSourceBook book.1 book.2

end Answers

namespace Signals

variable {W : σ → Prop} {b : Backend σ} {a : Answers}

theorem yields_documentOnRecord (h : b.Follows W a) (r : LaunchRequest) :
    Yields W (documentOnRecord b r) (a.documentOnRecord r) := by
  unfold documentOnRecord Answers.documentOnRecord
  cases AssignmentKey.ofRequest? r with
  | some key => exact h.documentUrl key
  | none => exact Yields.pure

theorem yields_canvasFile (h : b.Follows W a) (r : LaunchRequest) :
    Yields W (canvasFile b r) (a.canvasFile r) := by
  unfold canvasFile Answers.canvasFile
  cases r.has "canvas_file" <;> cases r.value? "file_id" <;> cases fromCanvas r <;>
    try exact Yields.pure
  next file =>
    have asked := h.canvasFiles r
    cases answer : a.canvasFiles r with
    | error e =>
      rw [answer] at asked
      exact Yields.bind_error asked
    | ok available =>
      rw [answer] at asked
      refine Yields.bind asked ?_
      cases available <;> exact Yields.pure

theorem yields_resolve (h : b.Follows W a) (r : LaunchRequest) :
    Yields W (resolve b r) (a.resolve r) := by
  unfold resolve Answers.resolve
  rw [h.isUrl]
  refine Yields.bind_each (yields_documentOnRecord h r) fun document _ => ?_
  cases document with
  | some document => exact Yields.pure
  | none =>
    cases linkedDocument? a.isUrl r with
    | some document => exact Yields.pure
    | none =>
      refine Yields.bind_each (yields_canvasFile h r) fun file _ => ?_
      cases file with
      | some file => exact Yields.pure
      | none => cases vitalSourceBook? r <;> exact Yields.pure

end Signals

/-! ### A backend that finds nothing -/

/-- A backend whose documents cannot be looked up. -/
def Answers.unreachable : Answers where
  isUrl := Url.valid
  documentUrl _ := .error (.failedLookup "no store")
  lmsUrl _ := .error (.failedLookup "no platform")
  canvasFiles _ := .error (.failedLookup "no files")
  flag _ _ := true
  upsertUser _ := .ok ()
  upsertCourseGroup _ := .ok ()

def LaunchRequest.byInstructor : LaunchRequest where
  method := .post
  route := .ltiLaunches
  params := .ofList [("resource_link_id", "link"), ("tool_consumer_instance_guid", "platform")]
  user := { userId := "user", consumerKey := "key", roles := "Instructor" }

end LtiLaunch
