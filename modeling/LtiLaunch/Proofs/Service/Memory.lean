import LtiLaunch.Proofs.Launch.Answers
import LtiLaunch.Proofs.Views.Screens
import LtiLaunch.Service.Wiring

/-!
# The answers of the backend in memory

As long as its store stays the same, the backend in memory answers as a function. Only the address
of a platform that nobody has registered is more than it can answer.
-/

namespace LtiLaunch

namespace InstanceDirectory

variable {d : InstanceDirectory} {key : String}

theorem lmsUrl_of_contains (known : d.byConsumerKey.contains key = true) :
    ∃ url, d.lmsUrl key = .ok url := by
  obtain ⟨i, found⟩ := Option.isSome_iff_exists.mp known
  exact ⟨i.lmsUrl, by rw [lmsUrl, found]⟩

theorem lmsUrl_of_not_contains (unknown : d.byConsumerKey.contains key = false) :
    d.lmsUrl key = .error (unknownKey key) := by
  have none : d.byConsumerKey.get? key = none := by simpa [SortedMap.contains] using unknown
  rw [lmsUrl, none]

end InstanceDirectory

namespace Memory

variable (isUrl : String → Bool) (directory : InstanceDirectory) (flags : SortedMap String Bool)
  (store : AssignmentStore)

def answers : Answers where
  isUrl := isUrl
  documentUrl key := .ok (store.get? key)
  lmsUrl key := directory.lmsUrl key
  canvasFiles r := .ok (r.has "custom_canvas_course_id" &&
    (directory.developerKey? r.user.consumerKey).isSome)
  flag name _ := flagEnabled flags name
  upsertUser _ := .ok ()
  upsertCourseGroup _ := .ok ()

theorem follows_answers :
    (Service.memoryBackend isUrl directory flags).Follows (fun s => s.store = store)
      (answers isUrl directory flags store) where
  isUrl := rfl
  documentUrl key s hs := ⟨by rw [answers, ← hs]; rfl, hs⟩
  lmsUrl _ := Yields.ofExcept _
  canvasFiles r := by
    show Yields _ (canvasFilesAvailable _ r) (.ok (r.has "custom_canvas_course_id" && _))
    unfold canvasFilesAvailable
    cases r.has "custom_canvas_course_id" with
    | true => exact Yields.bind Yields.pure Yields.pure
    | false => exact Yields.pure
  flag _ _ _ hs := ⟨rfl, hs⟩
  upsertUser _ _ hs := ⟨rfl, hs⟩
  upsertCourseGroup _ _ hs := ⟨rfl, hs⟩
  journal _ _ hs := ⟨rfl, hs⟩

/-- Files can be picked only where the course is known, so the course is never missed. -/
theorem canvasCourse_answers (r : LaunchRequest) :
    ∃ course, (answers isUrl directory flags store).canvasCourse r = .ok course := by
  unfold Answers.canvasCourse LaunchRequest.require
  cases course : r.value? "custom_canvas_course_id" with
  | none => exact ⟨none, by simp [answers, LaunchRequest.has_eq, course]; rfl⟩
  | some id =>
    cases available : (directory.developerKey? r.user.consumerKey).isSome with
    | false => exact ⟨none, by simp [answers, available]; rfl⟩
    | true => exact ⟨some id, by simp [answers, LaunchRequest.has_eq, course, available]; rfl⟩

theorem resolve_answers (r : LaunchRequest) :
    ∃ found, (answers isUrl directory flags store).resolve r = .ok found := by
  obtain ⟨document, onRecord⟩ :
      ∃ document, (answers isUrl directory flags store).documentOnRecord r = .ok document := by
    unfold Answers.documentOnRecord
    cases AssignmentKey.ofRequest? r <;> exact ⟨_, rfl⟩
  obtain ⟨file, canvasFile⟩ :
      ∃ file, (answers isUrl directory flags store).canvasFile r = .ok file := by
    unfold Answers.canvasFile
    split <;> exact ⟨_, rfl⟩
  unfold Answers.resolve
  rw [onRecord, canvasFile]
  cases document with
  | some document => exact ⟨_, rfl⟩
  | none =>
    cases Signals.linkedDocument? (answers isUrl directory flags store).isUrl r <;>
      cases file <;> exact ⟨_, rfl⟩

variable {directory} {r : LaunchRequest}

theorem platformUrl_answers_ok (reachable : r.has "custom_canvas_api_domain" = true ∨
      directory.byConsumerKey.contains r.user.consumerKey = true) :
    ∃ url, (answers isUrl directory flags store).platformUrl r = .ok url := by
  unfold Answers.platformUrl
  cases domain : r.value? "custom_canvas_api_domain" with
  | some url => exact ⟨url, rfl⟩
  | none =>
    obtain ⟨url, found⟩ := InstanceDirectory.lmsUrl_of_contains
      (reachable.resolve_left (by simp [LaunchRequest.has_eq, domain]))
    refine ⟨url, ?_⟩
    show (directory.lmsUrl r.user.consumerKey).mapError _ = _
    rw [found]
    rfl

theorem platformUrl_answers_error (unnamed : r.has "custom_canvas_api_domain" = false)
    (unknown : directory.byConsumerKey.contains r.user.consumerKey = false) :
    (answers isUrl directory flags store).platformUrl r =
      .error (InstanceDirectory.unknownKey r.user.consumerKey) := by
  have none : r.value? "custom_canvas_api_domain" = none := by
    simpa [LaunchRequest.has_eq] using unnamed
  rw [Answers.platformUrl, none]
  show (directory.lmsUrl r.user.consumerKey).mapError _ = _
  rw [InstanceDirectory.lmsUrl_of_not_contains unknown]
  rfl

end Memory

end LtiLaunch
