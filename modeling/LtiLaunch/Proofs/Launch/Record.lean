import LtiLaunch.Proofs.Launch.Answers

/-!
# Calls on record

A record of what a backend has been asked, kept in its world. `Answers.recorder` is a backend that
keeps one.
-/

namespace LtiLaunch

variable {σ : Type}

/-- Each call puts itself at the end of the record, and journal entries do not touch it. A question
about Canvas files may lead to further calls. -/
structure Backend.Records (b : Backend σ) (calls : σ → List BackendCall) : Prop where
  documentUrl : ∀ key s, calls (after (b.documentUrl key) s) = calls s ++ [.documentUrl key]
  lmsUrl : ∀ key s, calls (after (b.lmsUrl key) s) = calls s ++ [.lmsUrl key]
  canvasFiles : ∀ r s, ∃ more,
    calls (after (b.canvasFilesAvailable r) s) = calls s ++ .canvasFiles :: more
  flag : ∀ name r s,
    calls (after (liftM (b.flagEnabled name r) : LaunchM σ Bool) s) = calls s ++ [.flag name]
  upsertUser : ∀ r s, calls (after (b.upsertUser r) s) = calls s ++ [.upsertUser]
  upsertCourseGroup : ∀ r s, calls (after (b.upsertCourseGroup r) s) = calls s ++ [.upsertCourseGroup]
  journal : ∀ e s, calls (after (liftM (b.journal e) : LaunchM σ Unit) s) = calls s

/-- The worlds of `W` in which only flags have been asked for since the record was `l`. -/
def OnlyFlags (calls : σ → List BackendCall) (l : List BackendCall) (W : σ → Prop) (s : σ) : Prop :=
  W s ∧ ∃ names : List String, calls s = l ++ names.map .flag

namespace OnlyFlags

variable {W : σ → Prop} {b : Backend σ} {a : Answers} {calls : σ → List BackendCall}
  {l : List BackendCall}

theorem start {s : σ} (hs : W s) : OnlyFlags calls (calls s) W s := ⟨hs, [], by simp⟩

theorem flag (h : b.Follows W a) (records : b.Records calls) (name : String) (r : LaunchRequest) :
    Yields (OnlyFlags calls l W) (liftM (b.flagEnabled name r) : LaunchM σ Bool)
      (.ok (a.flag name r)) := by
  rintro s ⟨hs, names, same⟩
  refine ⟨(h.flag name r).outcome_eq hs, (h.flag name r).after_mem hs, names ++ [name], ?_⟩
  rw [records.flag, same, List.map_append, List.append_assoc]
  rfl

theorem journals (h : b.Follows W a) (records : b.Records calls) :
    b.Journals (OnlyFlags calls l W) := by
  rintro e s ⟨hs, names, same⟩
  exact ⟨(h.journal e).outcome_eq hs, (h.journal e).after_mem hs, names,
    (records.journal e s).trans same⟩

end OnlyFlags

namespace Answers

/-- The backend that gives the answers and keeps a record. -/
def recorder (a : Answers) : Backend (List BackendCall) :=
  Backend.observed (fun call => modify (· ++ [call])) a.backend

theorem follows_recorder (a : Answers) : a.recorder.Follows (fun _ => True) a where
  isUrl := rfl
  documentUrl _ := Yields.bind (fun _ _ => ⟨rfl, trivial⟩) (Yields.ofExcept _)
  lmsUrl _ := Yields.bind (fun _ _ => ⟨rfl, trivial⟩) (Yields.ofExcept _)
  canvasFiles _ := Yields.bind (fun _ _ => ⟨rfl, trivial⟩) (Yields.ofExcept _)
  flag _ _ _ _ := ⟨rfl, trivial⟩
  upsertUser _ := Yields.bind (fun _ _ => ⟨rfl, trivial⟩) (Yields.ofExcept _)
  upsertCourseGroup _ := Yields.bind (fun _ _ => ⟨rfl, trivial⟩) (Yields.ofExcept _)
  journal _ _ _ := ⟨rfl, trivial⟩

theorem records_recorder (a : Answers) : a.recorder.Records id where
  documentUrl _ _ := rfl
  lmsUrl _ _ := rfl
  canvasFiles _ _ := ⟨[], rfl⟩
  flag _ _ _ := rfl
  upsertUser _ _ := rfl
  upsertCourseGroup _ _ := rfl
  journal _ _ := rfl

end Answers

end LtiLaunch
