import LtiLaunch.Launch.Backend

/-!
# Outcomes

What a computation comes to in a world, and what it comes to in every world of a set that it does
not leave. `Always` is the rule of the second kind; `Yields` is its case of a single outcome.
-/

namespace LtiLaunch

variable {σ α β ε : Type} {W : σ → Prop}

theorem exists_ok_of_bind {x : Except ε α} {f : α → Except ε β} {y : β} (came : x >>= f = .ok y) :
    ∃ a, x = .ok a ∧ f a = .ok y := by
  cases x with
  | error e => cases came
  | ok a => exact ⟨a, rfl, came⟩

/-- What the computation comes to in a world. -/
def outcome (x : LaunchM σ α) (s : σ) : Except LaunchError α := (x.run.run s).1

/-- The world that the computation leaves. -/
def after (x : LaunchM σ α) (s : σ) : σ := (x.run.run s).2

theorem outcome_of_run {x : LaunchM σ α} {s s' : σ} {o : Except LaunchError α}
    (run : x.run.run s = (o, s')) : outcome x s = o := congrArg Prod.fst run

theorem after_of_run {x : LaunchM σ α} {s s' : σ} {o : Except LaunchError α}
    (run : x.run.run s = (o, s')) : after x s = s' := congrArg Prod.snd run

theorem run_bind (x : LaunchM σ α) (f : α → LaunchM σ β) (s : σ) :
    (x >>= f).run.run s =
      match outcome x s with
      | .ok a => (f a).run.run (after x s)
      | .error e => (.error e, after x s) := by
  rw [ExceptT.run_bind, StateT.run_bind]
  rcases hx : x.run.run s with ⟨_ | _, _⟩ <;> simp only [outcome, after, hx] <;> rfl

theorem run_tryCatch (x : LaunchM σ α) (f : LaunchError → LaunchM σ α) (s : σ) :
    (tryCatch x f).run.run s =
      match outcome x s with
      | .ok a => (.ok a, after x s)
      | .error e => (f e).run.run (after x s) := by
  rw [ExceptT.run_tryCatch, StateT.run_bind]
  rcases hx : x.run.run s with ⟨_ | _, _⟩ <;> simp only [outcome, after, hx] <;> rfl

theorem run_bind_ok {x : LaunchM σ α} {f : α → LaunchM σ β} {s : σ} {a : α}
    (came : outcome x s = .ok a) :
    (x >>= f).run.run s = (outcome (f a) (after x s), after (f a) (after x s)) := by
  rw [run_bind, came]
  rfl

theorem run_bind_error {x : LaunchM σ α} {f : α → LaunchM σ β} {s : σ} {e : LaunchError}
    (came : outcome x s = .error e) : (x >>= f).run.run s = (.error e, after x s) := by
  rw [run_bind, came]

theorem outcome_bind_ok {x : LaunchM σ α} {f : α → LaunchM σ β} {s : σ} {a : α}
    (came : outcome x s = .ok a) : outcome (x >>= f) s = outcome (f a) (after x s) :=
  outcome_of_run (run_bind_ok came)

theorem outcome_bind_error {x : LaunchM σ α} {f : α → LaunchM σ β} {s : σ} {e : LaunchError}
    (came : outcome x s = .error e) : outcome (x >>= f) s = .error e :=
  outcome_of_run (run_bind_error came)

/-- In every world of `W`, what `x` comes to is as `Q` says, and the world left is one of `W`. -/
def Always (W : σ → Prop) (x : LaunchM σ α) (Q : Except LaunchError α → Prop) : Prop :=
  ∀ s, W s → Q (outcome x s) ∧ W (after x s)

/-- In every world of `W`, `x` comes to `e`. -/
def Yields (W : σ → Prop) (x : LaunchM σ α) (e : Except LaunchError α) : Prop :=
  Always W x (· = e)

/-! ### Any outcome -/

namespace Always

variable {x : LaunchM σ α} {f : α → LaunchM σ β} {Q : Except LaunchError α → Prop}
  {R : Except LaunchError β → Prop}

theorem pure {a : α} (h : Q (.ok a)) : Always W (Pure.pure a) Q := fun _ hs => ⟨h, hs⟩

theorem throw {e : LaunchError} (h : Q (.error e)) : Always W (MonadExcept.throw e) Q :=
  fun _ hs => ⟨h, hs⟩

theorem bind (hx : Always W x Q) (ok : ∀ a, Q (.ok a) → Always W (f a) R)
    (error : ∀ e, Q (.error e) → R (.error e)) : Always W (x >>= f) R := by
  intro s hs
  obtain ⟨hQ, hW⟩ := hx s hs
  unfold outcome
  rw [after, run_bind]
  cases out : outcome x s with
  | ok a =>
    rw [out] at hQ
    exact ok a hQ _ hW
  | error e =>
    rw [out] at hQ
    exact ⟨error e hQ, hW⟩

end Always

/-! ### One outcome -/

namespace Yields

variable {x : LaunchM σ α} {f : α → LaunchM σ β} {a : α} {e : LaunchError}

theorem outcome_eq {o : Except LaunchError α} (h : Yields W x o) {s : σ} (hs : W s) :
    outcome x s = o := (h s hs).1

theorem after_mem {o : Except LaunchError α} (h : Yields W x o) {s : σ} (hs : W s) :
    W (after x s) := (h s hs).2

theorem pure : Yields W (Pure.pure a : LaunchM σ α) (.ok a) := Always.pure rfl

theorem throw : Yields W (MonadExcept.throw e : LaunchM σ α) (.error e) := Always.throw rfl

theorem ofExcept (o : Except LaunchError α) : Yields W (liftM o : LaunchM σ α) o :=
  fun _ hs => ⟨rfl, hs⟩

theorem bind {o : Except LaunchError β} (hx : Yields W x (.ok a)) (hf : Yields W (f a) o) :
    Yields W (x >>= f) o :=
  Always.bind hx (fun _ same => by cases same; exact hf) (fun _ same => by cases same)

theorem bind_error (hx : Yields W x (.error e)) : Yields W (x >>= f) (.error e) :=
  Always.bind hx (fun _ same => by cases same) (fun _ same => by cases same; rfl)

/-- A step for each outcome of the first computation, known or not. -/
theorem bind_each {o : Except LaunchError α} {g : α → Except LaunchError β} (hx : Yields W x o)
    (hf : ∀ a, o = .ok a → Yields W (f a) (g a)) : Yields W (x >>= f) (o >>= g) := by
  cases o with
  | ok a => exact bind hx (hf a rfl)
  | error e => exact bind_error hx

theorem tryCatch_ok {g : LaunchError → LaunchM σ α} (hx : Yields W x (.ok a)) :
    Yields W (tryCatch x g) (.ok a) := by
  intro s hs
  obtain ⟨out, hW⟩ := hx s hs
  unfold outcome
  rw [after, run_tryCatch, out]
  exact ⟨rfl, hW⟩

theorem tryCatch_error {g : LaunchError → LaunchM σ α} {o : Except LaunchError α}
    (hx : Yields W x (.error e)) (hg : Yields W (g e) o) : Yields W (tryCatch x g) o := by
  intro s hs
  obtain ⟨out, hW⟩ := hx s hs
  unfold outcome
  rw [after, run_tryCatch, out]
  exact hg _ hW

/-- A handler that rethrows another error after some step that cannot fail. -/
theorem tryCatch_rethrow {step : LaunchError → LaunchM σ Unit} {g : LaunchError → LaunchError}
    {o : Except LaunchError α} (hx : Yields W x o) (hstep : ∀ e, Yields W (step e) (.ok ())) :
    Yields W (tryCatch x fun e => do step e; MonadExcept.throw (g e)) (o.mapError g) := by
  cases o with
  | ok a => exact tryCatch_ok hx
  | error e => exact tryCatch_error hx (bind (hstep e) throw)

end Yields

end LtiLaunch
