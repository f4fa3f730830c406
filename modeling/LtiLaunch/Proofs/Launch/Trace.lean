import LtiLaunch.Assignment.Signals
import LtiLaunch.Proofs.Launch.Outcome

/-!
# Recorded runs

Any backend can be run with a record kept beside its world, of the calls that are made to it. The
record changes nothing about the run: `Logs` says so of a computation, together with what can be
said of the entries it adds.
-/

namespace LtiLaunch

variable {σ α β : Type}

/-- The computation in a world that holds something else as well, which it leaves alone. -/
def alongside {τ : Type} (x : StateM σ α) : StateM (σ × τ) α :=
  fun w => ((x.run w.1).1, (x.run w.1).2, w.2)

namespace Backend

def alongside (τ : Type) (b : Backend σ) : Backend (σ × τ) where
  isUrl := b.isUrl
  documentUrl key := ExceptT.mk (LtiLaunch.alongside (b.documentUrl key).run)
  lmsUrl key := ExceptT.mk (LtiLaunch.alongside (b.lmsUrl key).run)
  canvasFilesAvailable r := ExceptT.mk (LtiLaunch.alongside (b.canvasFilesAvailable r).run)
  flagEnabled name r := LtiLaunch.alongside (b.flagEnabled name r)
  upsertUser r := ExceptT.mk (LtiLaunch.alongside (b.upsertUser r).run)
  upsertCourseGroup r := ExceptT.mk (LtiLaunch.alongside (b.upsertCourseGroup r).run)
  journal e := LtiLaunch.alongside (b.journal e)

/-- The backend with a record of the calls made to it, the latest last. -/
def recorded (b : Backend σ) : Backend (σ × List BackendCall) :=
  (b.alongside (List BackendCall)).observed fun call => modify fun w => (w.1, w.2 ++ [call])

@[simp] theorem isUrl_recorded (b : Backend σ) : b.recorded.isUrl = b.isUrl := rfl

end Backend

/-- From the world `s`, `x` does what `y` does and adds entries to a record, of which `P` holds. -/
def Logs {ε : Type} (x : LaunchM (σ × List ε) α) (y : LaunchM σ α) (s : σ)
    (P : List ε → Prop) : Prop :=
  ∀ l, ∃ entries, x.run.run (s, l) = (outcome y s, after y s, l ++ entries) ∧ P entries

namespace Logs

variable {ε : Type} {x : LaunchM (σ × List ε) α} {y : LaunchM σ α} {s : σ}
  {f : α → LaunchM (σ × List ε) β} {g : α → LaunchM σ β}
  {P R : List ε → Prop} {Q : α → List ε → Prop}

theorem weaken (h : Logs x y s P) (imp : ∀ calls, P calls → R calls) : Logs x y s R := by
  intro l
  obtain ⟨calls, run, holds⟩ := h l
  exact ⟨calls, run, imp calls holds⟩

theorem pure {a : α} (h : P []) : Logs (Pure.pure a) (Pure.pure a) s P := by
  intro l
  refine ⟨[], ?_, h⟩
  rw [List.append_nil]
  rfl

theorem throw {e : LaunchError} (h : P []) :
    Logs (MonadExcept.throw e : LaunchM (σ × List ε) α) (MonadExcept.throw e) s P := by
  intro l
  refine ⟨[], ?_, h⟩
  rw [List.append_nil]
  rfl

theorem bind (hx : Logs x y s P)
    (ok : ∀ a, outcome y s = .ok a → Logs (f a) (g a) (after y s) (Q a))
    (both : ∀ a calls calls', outcome y s = .ok a → P calls → Q a calls' → R (calls ++ calls'))
    (error : ∀ e calls, outcome y s = .error e → P calls → R calls) :
    Logs (x >>= f) (y >>= g) s R := by
  intro l
  obtain ⟨calls, run, holds⟩ := hx l
  have out := outcome_of_run run
  have world := after_of_run run
  cases came : outcome y s with
  | error e =>
    have whole := run_bind_error (f := g) came
    refine ⟨calls, ?_, error e calls came holds⟩
    rw [run_bind_error (out.trans came), world, outcome_of_run whole, after_of_run whole]
  | ok a =>
    have whole := run_bind_ok (f := g) came
    obtain ⟨calls', run', holds'⟩ := ok a came (l ++ calls)
    refine ⟨calls ++ calls', ?_, both a _ _ came holds holds'⟩
    rw [run_bind_ok (out.trans came), world, outcome_of_run whole, after_of_run whole,
      ← List.append_assoc]
    exact run'

theorem tryCatch {h : LaunchError → LaunchM (σ × List ε) α}
    {k : LaunchError → LaunchM σ α} (hx : Logs x y s P)
    (caught : ∀ e, outcome y s = .error e → Logs (h e) (k e) (after y s) (· = [])) :
    Logs (MonadExcept.tryCatch x h) (MonadExcept.tryCatch y k) s P := by
  intro l
  obtain ⟨calls, run, holds⟩ := hx l
  have out := outcome_of_run run
  have world := after_of_run run
  have whole := run_tryCatch y k s
  refine ⟨calls, ?_, holds⟩
  rw [run_tryCatch, out, world]
  cases came : outcome y s with
  | ok a =>
    rw [came] at whole
    rw [outcome_of_run whole, after_of_run whole]
  | error e =>
    rw [came] at whole
    obtain ⟨calls', run', rfl⟩ := caught e came (l ++ calls)
    rw [List.append_nil] at run'
    rw [outcome_of_run whole, after_of_run whole]
    exact run'

/-! ### Calls -/

variable (b : Backend σ)

theorem flag (name : String) (r : LaunchRequest) (s : σ) :
    Logs (liftM (b.recorded.flagEnabled name r)) (liftM (b.flagEnabled name r)) s
      (· = [BackendCall.flag name]) :=
  fun _ => ⟨_, rfl, rfl⟩

theorem documentUrl (key : AssignmentKey) (s : σ) :
    Logs (b.recorded.documentUrl key) (b.documentUrl key) s (· = [BackendCall.documentUrl key]) :=
  fun _ => ⟨_, rfl, rfl⟩

theorem lmsUrl (key : String) (s : σ) :
    Logs (b.recorded.lmsUrl key) (b.lmsUrl key) s (· = [BackendCall.lmsUrl key]) :=
  fun _ => ⟨_, rfl, rfl⟩

theorem canvasFiles (r : LaunchRequest) (s : σ) :
    Logs (b.recorded.canvasFilesAvailable r) (b.canvasFilesAvailable r) s
      (· = [BackendCall.canvasFiles]) :=
  fun _ => ⟨_, rfl, rfl⟩

theorem journal (e : JournalEntry) (s : σ) :
    Logs (liftM (b.recorded.journal e)) (liftM (b.journal e)) s
      ((· = []) : List BackendCall → Prop) :=
  fun l => ⟨[], by rw [List.append_nil]; rfl, rfl⟩

end Logs

/-! ### Looking for the document -/

/-- Nothing but flags has been asked for. -/
def FlagsOnly (calls : List BackendCall) : Prop := ∃ names : List String, calls = names.map .flag

def BackendCall.isDocumentUrl : BackendCall → Bool
  | documentUrl _ => true
  | _ => false

/-- At most one document and at most once the Canvas files have been asked for. -/
structure LooksOnce (calls : List BackendCall) : Prop where
  documentUrl : calls.countP BackendCall.isDocumentUrl ≤ 1
  canvasFiles : calls.count .canvasFiles ≤ 1

namespace FlagsOnly

variable {calls calls' : List BackendCall}

theorem nil : FlagsOnly [] := ⟨[], rfl⟩

theorem flag (name : String) : FlagsOnly [.flag name] := ⟨[name], rfl⟩

theorem append (h : FlagsOnly calls) (h' : FlagsOnly calls') : FlagsOnly (calls ++ calls') := by
  obtain ⟨names, rfl⟩ := h
  obtain ⟨names', rfl⟩ := h'
  exact ⟨names ++ names', (List.map_append).symm⟩

theorem countP_eq_zero (h : FlagsOnly calls) : calls.countP BackendCall.isDocumentUrl = 0 := by
  obtain ⟨names, rfl⟩ := h
  simp [List.countP_eq_zero, BackendCall.isDocumentUrl]

theorem count_eq_zero (h : FlagsOnly calls) : calls.count .canvasFiles = 0 := by
  obtain ⟨names, rfl⟩ := h
  simp [List.count_eq_zero]

theorem looksOnce (h : FlagsOnly calls) : LooksOnce calls :=
  ⟨by rw [h.countP_eq_zero]; omega, by rw [h.count_eq_zero]; omega⟩

theorem append_looksOnce (h : FlagsOnly calls) (h' : LooksOnce calls') :
    LooksOnce (calls ++ calls') := by
  have documents := h'.documentUrl
  have files := h'.canvasFiles
  constructor
  · rw [List.countP_append, h.countP_eq_zero]
    omega
  · rw [List.count_append, h.count_eq_zero]
    omega

theorem looksOnce_append (h : LooksOnce calls) (h' : FlagsOnly calls') :
    LooksOnce (calls ++ calls') := by
  have documents := h.documentUrl
  have files := h.canvasFiles
  constructor
  · rw [List.countP_append, h'.countP_eq_zero]
    omega
  · rw [List.count_append, h'.count_eq_zero]
    omega

end FlagsOnly

namespace Signals

/-- The launch comes from Canvas with a file and no address, so that the file has to be asked for. -/
structure LeadsToFile (isUrl : String → Bool) (r : LaunchRequest) : Prop where
  unlinked : linkedDocument? isUrl r = none
  marked : r.has "canvas_file" = true
  named : r.has "file_id" = true
  fromCanvas : fromCanvas r = true

/-- The calls that are made to find out the document: for the assignment that the request names, and
then, if it leads to a file, perhaps for the files. -/
inductive Inquiry (isUrl : String → Bool) (r : LaunchRequest) : List BackendCall → Prop
  | record : Inquiry isUrl r ((AssignmentKey.ofRequest? r).toList.map .documentUrl)
  | files (leads : LeadsToFile isUrl r) :
      Inquiry isUrl r ((AssignmentKey.ofRequest? r).toList.map .documentUrl ++ [.canvasFiles])

namespace Inquiry

variable {isUrl : String → Bool} {r : LaunchRequest} {calls : List BackendCall}

theorem looksOnce (h : Inquiry isUrl r calls) : LooksOnce calls := by
  cases h <;> cases AssignmentKey.ofRequest? r <;>
    exact ⟨by simp [List.countP_cons, BackendCall.isDocumentUrl], by simp⟩

theorem ofRequest?_of_mem {key : AssignmentKey} (h : Inquiry isUrl r calls)
    (asked : .documentUrl key ∈ calls) : AssignmentKey.ofRequest? r = some key := by
  cases h <;> simpa using asked

theorem leadsToFile_of_mem (h : Inquiry isUrl r calls) (asked : .canvasFiles ∈ calls) :
    LeadsToFile isUrl r := by
  cases h with
  | record => simp at asked
  | files leads => exact leads

end Inquiry

variable (b : Backend σ) (r : LaunchRequest) (s : σ)

theorem logs_documentOnRecord :
    Logs (documentOnRecord b.recorded r) (documentOnRecord b r) s
      (· = (AssignmentKey.ofRequest? r).toList.map .documentUrl) := by
  unfold documentOnRecord
  cases AssignmentKey.ofRequest? r with
  | none => exact Logs.pure rfl
  | some key => exact Logs.documentUrl b key s

theorem logs_canvasFile (unlinked : linkedDocument? b.isUrl r = none) :
    Logs (canvasFile b.recorded r) (canvasFile b r) s fun calls =>
      calls = [] ∨ calls = [BackendCall.canvasFiles] ∧ LeadsToFile b.isUrl r := by
  unfold canvasFile
  have none : Logs (Pure.pure Option.none) (Pure.pure Option.none : LaunchM σ (Option String)) s
      fun calls => calls = [] ∨ calls = [BackendCall.canvasFiles] ∧ LeadsToFile b.isUrl r :=
    Logs.pure (.inl rfl)
  split
  · next marked =>
    split
    · next file named =>
      split
      · next canvas =>
        have leads : LeadsToFile b.isUrl r :=
          ⟨unlinked, marked, by rw [r.has_eq, named]; rfl, canvas⟩
        refine Logs.bind (Logs.canvasFiles b r s) (Q := fun _ => (· = [])) ?_ ?_ ?_
        · intro available _
          cases available <;> exact Logs.pure rfl
        · rintro _ _ _ - rfl rfl
          exact .inr ⟨rfl, leads⟩
        · rintro e _ - rfl
          exact .inr ⟨rfl, leads⟩
      · exact none
    · exact none
  · exact none

theorem inquiry_resolve : Logs (resolve b.recorded r) (resolve b r) s (Inquiry b.isUrl r) := by
  unfold resolve
  rw [b.isUrl_recorded]
  refine Logs.bind (logs_documentOnRecord b r s)
    (Q := fun _ calls => calls = [] ∨ calls = [.canvasFiles] ∧ LeadsToFile b.isUrl r) ?_ ?_ ?_
  · intro document _
    cases document with
    | some document => exact Logs.pure (.inl rfl)
    | none =>
      cases linked : linkedDocument? b.isUrl r with
      | some document => exact Logs.pure (.inl rfl)
      | none =>
        refine Logs.bind (logs_canvasFile b r _ linked) (Q := fun _ => (· = [])) ?_ ?_ ?_
        · intro file _
          cases file with
          | some file => exact Logs.pure rfl
          | none => cases vitalSourceBook? r <;> exact Logs.pure rfl
        · rintro _ calls _ - asked rfl
          rwa [List.append_nil]
        · exact fun _ _ _ asked => asked
  · rintro document _ _ - rfl (rfl | ⟨rfl, leads⟩)
    · rw [List.append_nil]
      exact .record
    · exact .files leads
  · rintro e _ - rfl
    exact .record

/-- To find out the document, each source is asked at most once. -/
theorem logs_resolve : Logs (resolve b.recorded r) (resolve b r) s LooksOnce :=
  (inquiry_resolve b r s).weaken fun _ => Inquiry.looksOnce

end Signals

end LtiLaunch
