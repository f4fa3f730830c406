import LtiLaunch.Dispatch.Selection
import LtiLaunch.Proofs.Launch.Trace

/-!
# Selection in a wider world

A computation can be run in a world that holds more than it knows of, and leaves the rest alone. A
selection over a backend that is widened is the selection itself, widened; nor does it matter to a
selection what candidates do once they are chosen.
-/

namespace LtiLaunch

variable {σ τ η μ α β : Type}

/-- The computation in a world that holds something else as well. -/
def widen (x : LaunchM σ α) : LaunchM (σ × τ) α := ExceptT.mk (alongside x.run)

theorem run_widen (x : LaunchM σ α) (s : σ) (l : τ) :
    (widen x).run.run (s, l) = (outcome x s, after x s, l) := rfl

theorem widen_bind (x : LaunchM σ α) (f : α → LaunchM σ β) :
    (widen (x >>= f) : LaunchM (σ × τ) β) = widen x >>= fun a => widen (f a) := by
  refine ExceptT.ext (funext fun w => ?_)
  obtain ⟨s, l⟩ := w
  have wide := run_widen x s l
  change (widen (x >>= f)).run.run (s, l) = (widen x >>= fun a => widen (f a)).run.run (s, l)
  rw [run_widen]
  cases came : outcome x s with
  | ok a =>
    rw [run_bind_ok (outcome_of_run (wide.trans (by rw [came]))), after_of_run wide]
    rw [outcome_bind_ok came, after_of_run (run_bind_ok came)]
    rfl
  | error e =>
    rw [run_bind_error (outcome_of_run (wide.trans (by rw [came]))), after_of_run wide]
    rw [outcome_bind_error came, after_of_run (run_bind_error came)]

theorem widen_tryCatch (x : LaunchM σ α) (f : LaunchError → LaunchM σ α) :
    (widen (tryCatch x f) : LaunchM (σ × τ) α) = tryCatch (widen x) fun e => widen (f e) := by
  refine ExceptT.ext (funext fun w => ?_)
  obtain ⟨s, l⟩ := w
  change (widen (tryCatch x f)).run.run (s, l) = (tryCatch (widen x) fun e => widen (f e)).run.run (s, l)
  rw [run_tryCatch, run_widen]
  unfold outcome after
  rw [run_tryCatch]
  have wide := run_widen (τ := τ) x s l
  rw [wide]
  dsimp only
  cases outcome x s with
  | ok a => rfl
  | error e => rfl

/-- What `b` does to choose a candidate, it does as `c` in a wider world. -/
structure Backend.Widens (b : Backend (σ × τ)) (c : Backend σ) : Prop where
  isUrl : b.isUrl = c.isUrl
  documentUrl : ∀ key, b.documentUrl key = widen (c.documentUrl key)
  canvasFiles : ∀ r, b.canvasFilesAvailable r = widen (c.canvasFilesAvailable r)
  flag : ∀ name r, b.flagEnabled name r = LtiLaunch.alongside (c.flagEnabled name r)
  journal : ∀ e, b.journal e = LtiLaunch.alongside (c.journal e)

variable {b : Backend (σ × τ)} {c : Backend σ} {r : LaunchRequest}

namespace Signals

theorem documentOnRecord_widen (h : b.Widens c) (r : LaunchRequest) :
    documentOnRecord b r = widen (documentOnRecord c r) := by
  unfold documentOnRecord
  cases AssignmentKey.ofRequest? r with
  | some key => exact h.documentUrl key
  | none => rfl

theorem canvasFile_widen (h : b.Widens c) (r : LaunchRequest) :
    canvasFile b r = widen (canvasFile c r) := by
  unfold canvasFile
  cases r.has "canvas_file" <;> cases r.value? "file_id" <;> cases fromCanvas r <;> try rfl
  next file =>
    simp only [if_true, widen_bind, h.canvasFiles]
    refine bind_congr fun available => ?_
    cases available <;> rfl

theorem resolve_widen (h : b.Widens c) (r : LaunchRequest) : resolve b r = widen (resolve c r) := by
  unfold resolve
  rw [widen_bind, documentOnRecord_widen h, h.isUrl]
  refine bind_congr fun document => ?_
  cases document with
  | some document => rfl
  | none =>
    cases linkedDocument? c.isUrl r with
    | some document => rfl
    | none =>
      simp only []
      rw [widen_bind, canvasFile_widen h]
      refine bind_congr fun file => ?_
      cases file with
      | some file => rfl
      | none => cases vitalSourceBook? r <;> rfl

end Signals

namespace Selection

theorem document_widen (h : b.Widens c) (r : LaunchRequest) (memo : Memo) :
    document b r memo = widen (document c r memo) := by
  cases memo with
  | some found => rfl
  | none =>
    unfold document
    simp only []
    rw [widen_tryCatch, Signals.resolve_widen h]
    rfl

theorem passes_widen (h : b.Widens c) (r : LaunchRequest) (memo : Memo) (g : Guard) :
    passes b r memo g = widen (passes c r memo g) := by
  match g with
  | .flag name enabled =>
    simp only [passes, widen_bind, h.flag]
    rfl
  | .predicate .mayConfigure expected => rfl
  | .predicate (.document p) expected =>
    unfold passes
    rw [widen_bind, document_widen h]
    rfl

theorem passesAll_widen (h : b.Widens c) (r : LaunchRequest) (memo : Memo) (gs : List Guard) :
    passesAll b r memo gs = widen (passesAll c r memo gs) := by
  induction gs generalizing memo with
  | nil => rfl
  | cons g gs ih =>
    unfold passesAll
    rw [widen_bind, passes_widen h]
    refine bind_congr fun x => ?_
    obtain ⟨pass, memo⟩ := x
    cases pass with
    | true => exact ih memo
    | false => rfl

theorem firstMatch_widen (h : b.Widens c) (r : LaunchRequest) (memo : Memo)
    (cs : List (Candidate η)) : firstMatch b r memo cs = widen (firstMatch c r memo cs) := by
  induction cs generalizing memo with
  | nil => rfl
  | cons d cs ih =>
    unfold firstMatch
    rw [widen_bind, passesAll_widen h]
    refine bind_congr fun x => ?_
    obtain ⟨pass, memo⟩ := x
    cases pass with
    | true => rfl
    | false => exact ih memo

theorem choose_widen (h : b.Widens c) (t : DispatchTable η) (r : LaunchRequest) :
    choose b t r = widen (choose c t r) := by
  unfold choose
  rw [widen_bind, firstMatch_widen h]
  refine bind_congr fun found => ?_
  cases found with
  | some d =>
    simp only []
    rw [widen_bind, h.journal]
    rfl
  | none =>
    simp only []
    rw [widen_bind, h.journal]
    rfl

/-! ### Tables with other handlers -/

theorem firstMatch_map (b : Backend σ) (r : LaunchRequest) {f : Candidate η → Candidate μ}
    (guards : ∀ c, (f c).guards = c.guards) (memo : Memo) (cs : List (Candidate η)) :
    firstMatch b r memo (cs.map f) = Option.map f <$> firstMatch b r memo cs := by
  induction cs generalizing memo with
  | nil => rfl
  | cons c cs ih =>
    rw [List.map_cons, firstMatch, firstMatch, guards, map_bind]
    refine bind_congr fun x => ?_
    obtain ⟨pass, memo⟩ := x
    cases pass with
    | true => rfl
    | false => exact ih memo

/-- A table with candidates of the same names and guards is chosen from in the same way. -/
theorem choose_map (b : Backend σ) (r : LaunchRequest) {f : Candidate η → Candidate μ}
    (names : ∀ c, (f c).name = c.name) (guards : ∀ c, (f c).guards = c.guards)
    {t : DispatchTable η} {u : DispatchTable μ}
    (mapped : u.candidates r.key = (t.candidates r.key).map f) :
    choose b u r = f <$> choose b t r := by
  unfold choose
  rw [mapped, firstMatch_map b r guards, map_bind, bind_map_left]
  refine bind_congr fun found => ?_
  cases found with
  | some c => simp only [Option.map_some, selected, names, guards, map_bind, map_pure]
  | none =>
    simp only [Option.map_none, map_bind]
    rfl

end Selection

end LtiLaunch
