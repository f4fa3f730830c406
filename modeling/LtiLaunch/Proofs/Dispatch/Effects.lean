import LtiLaunch.Proofs.Dispatch.Stages
import LtiLaunch.Proofs.Dispatch.Widening

/-!
# Effects of a launch

What a launch does once its candidate is chosen is kept on a record: the preparations it asks for and
the handlers it runs, each with the request. `Course` says what the record can be: nothing if there is
no candidate, and otherwise the candidate's preparations up to the first that fails, or all of them
and then its handler.
-/

namespace LtiLaunch

variable {σ α ε : Type}

inductive Effect (σ : Type)
  | preparation (step : Preparation) (r : LaunchRequest)
  | handling (c : Candidate (Handler σ)) (r : LaunchRequest)

/-- Puts an entry at the end of the record. -/
def note (entry : ε) : LaunchM (σ × List ε) Unit := modify fun w => (w.1, w.2 ++ [entry])

/-- The backend with a record of the preparations it is asked for. -/
def Backend.noting (b : Backend σ) : Backend (σ × List (Effect σ)) :=
  { b.alongside (List (Effect σ)) with
    upsertUser := fun r => do note (.preparation .upsertUser r); widen (b.upsertUser r)
    upsertCourseGroup := fun r => do
      note (.preparation .upsertCourseGroup r)
      widen (b.upsertCourseGroup r) }

/-- The candidate with a record of the runs of its handler. -/
def Candidate.noting (c : Candidate (Handler σ)) :
    Candidate (Handler (σ × List (Effect σ))) where
  name := c.name
  route := c.route
  guards := c.guards
  preparations := c.preparations
  handler r := do note (.handling c r); widen (c.handler r)

def DispatchTable.noting (t : DispatchTable (Handler σ)) :
    DispatchTable (Handler (σ × List (Effect σ))) :=
  ⟨t.routes.mapValues fun cs => cs.map Candidate.noting⟩

namespace Stages

section Course

variable (b : Backend σ) (t : DispatchTable (Handler σ)) (r : LaunchRequest)

/-- From `s` on the preparations are made one after the other, none fails, and the last leaves `z`. -/
inductive Made : σ → List Preparation → σ → Prop
  | nil (s : σ) : Made s [] s
  | cons {s next z : σ} {step : Preparation} {steps : List Preparation}
      (done : (prepare b r step).run.run s = (.ok (), next)) (rest : Made next steps z) :
      Made s (step :: steps) z

/-- What a launch that begins in `s` comes to, and its effects in their order. -/
inductive Course (s : σ) : Except LaunchError View → List (Effect σ) → Prop
  | unchosen {e : LaunchError} (failed : outcome (chosen b t r) s = .error e) :
      Course s (.error e) []
  | unprepared {c : Candidate (Handler σ)} {before after' : List Preparation} {step : Preparation}
      {z : σ} {e : LaunchError} (choice : outcome (chosen b t r) s = .ok c)
      (split : c.preparations = before ++ step :: after')
      (made : Made b r (after (chosen b t r) s) before z)
      (failed : outcome (prepare b r step) z = .error e) :
      Course s (.error e) ((before ++ [step]).map (.preparation · r))
  | handled {c : Candidate (Handler σ)} {z : σ} (choice : outcome (chosen b t r) s = .ok c)
      (made : Made b r (after (chosen b t r) s) c.preparations z) :
      Course s (outcome (c.handler r) z) (c.preparations.map (.preparation · r) ++ [.handling c r])

end Course

end Stages

/-! ### Failures that are written down -/

/-- The computation, whose failure is written down and passed on. -/
def reported (b : Backend σ) (entry : LaunchError → JournalEntry) (x : LaunchM σ α) : LaunchM σ α :=
  tryCatch x fun e => do
    b.journal (entry e)
    throw e

theorem reported_cases (b : Backend σ) (entry : LaunchError → JournalEntry) (x : LaunchM σ α) (s : σ) :
    (∃ a z, x.run.run s = (.ok a, z) ∧ (reported b entry x).run.run s = (.ok a, z)) ∨
      ∃ e, outcome x s = .error e ∧ outcome (reported b entry x) s = .error e := by
  have run := run_tryCatch x (fun e => do b.journal (entry e); throw e) s
  cases came : outcome x s with
  | ok a =>
    rw [came] at run
    exact .inl ⟨a, after x s, Prod.ext came rfl, run⟩
  | error e =>
    rw [came] at run
    exact .inr ⟨e, rfl, outcome_of_run run⟩

theorem outcome_reported (b : Backend σ) (entry : LaunchError → JournalEntry) (x : LaunchM σ α)
    (s : σ) : outcome (reported b entry x) s = outcome x s := by
  rcases reported_cases b entry x s with ⟨a, z, run, run'⟩ | ⟨e, failed, failed'⟩
  · rw [outcome_of_run run, outcome_of_run run']
  · rw [failed, failed']

/-! ### Records -/

namespace Logs

variable {b : Backend σ} {r : LaunchRequest} {s : σ}

theorem widen (x : LaunchM σ α) (s : σ) :
    Logs (LtiLaunch.widen x : LaunchM (σ × List ε) α) x s (· = []) :=
  fun l => ⟨[], by rw [run_widen, List.append_nil], rfl⟩

theorem prepare (b : Backend σ) (r : LaunchRequest) (step : Preparation) (s : σ) :
    Logs (Stages.prepare b.noting r step) (Stages.prepare b r step) s
      (· = [.preparation step r]) := by
  cases step <;> exact fun _ => ⟨_, rfl, rfl⟩

theorem handling (c : Candidate (Handler σ)) (r : LaunchRequest) (s : σ) :
    Logs (c.noting.handler r) (c.handler r) s (· = [.handling c r]) :=
  fun _ => ⟨_, rfl, rfl⟩

theorem reported {x : LaunchM (σ × List (Effect σ)) α} {y : LaunchM σ α}
    {P : List (Effect σ) → Prop} (entry : LaunchError → JournalEntry) (h : Logs x y s P) :
    Logs (LtiLaunch.reported b.noting entry x) (LtiLaunch.reported b entry y) s P := by
  refine Logs.tryCatch h fun e _ => ?_
  have written := Logs.widen (ε := Effect σ) (liftM (b.journal (entry e))) (after y s)
  refine Logs.bind written (Q := fun _ => (· = [])) (fun _ _ => Logs.throw rfl) ?_ ?_
  · rintro _ _ _ - rfl rfl
    rfl
  · exact fun _ _ _ none => none

end Logs

namespace Stages

variable {b : Backend σ} {t : DispatchTable (Handler σ)} {r : LaunchRequest} {s : σ}

theorem widens_noting (b : Backend σ) : b.noting.Widens b where
  isUrl := rfl
  documentUrl _ := rfl
  canvasFiles _ := rfl
  flag _ _ := rfl
  journal _ := rfl

theorem candidates_noting (t : DispatchTable (Handler σ)) (k : RouteKey) :
    t.noting.candidates k = (t.candidates k).map Candidate.noting := by
  unfold DispatchTable.candidates DispatchTable.noting SortedMap.getD
  rw [SortedMap.get?_mapValues]
  cases t.routes.get? k <;> rfl

theorem chosen_noting (b : Backend σ) (t : DispatchTable (Handler σ)) (r : LaunchRequest) :
    chosen b.noting t.noting r = Candidate.noting <$> widen (chosen b t r) := by
  have chosen' := Selection.choose_map b.noting r (f := Candidate.noting) (fun _ => rfl)
    (fun _ => rfl) (candidates_noting t r.key)
  unfold chosen
  rw [chosen', Selection.choose_widen (widens_noting b), widen_bind, map_bind]
  rfl

/-! ### Preparations -/

/-- What comes of making preparations from `s` on, the world it leaves and the effects it has. -/
inductive Attempted (b : Backend σ) (r : LaunchRequest) (s : σ) (steps : List Preparation) :
    Except LaunchError Unit → σ → List (Effect σ) → Prop
  | all {z : σ} (made : Made b r s steps z) :
      Attempted b r s steps (.ok ()) z (steps.map (.preparation · r))
  | upTo {before rest : List Preparation} {step : Preparation} {z w : σ} {e : LaunchError}
      (split : steps = before ++ step :: rest) (made : Made b r s before z)
      (failed : outcome (prepare b r step) z = .error e) :
      Attempted b r s steps (.error e) w ((before ++ [step]).map (.preparation · r))

theorem Attempted.cons {next z : σ} {step : Preparation} {steps : List Preparation}
    {o : Except LaunchError Unit} {effects : List (Effect σ)}
    (done : (prepare b r step).run.run s = (.ok (), next))
    (rest : Attempted b r next steps o z effects) :
    Attempted b r s (step :: steps) o z (.preparation step r :: effects) := by
  cases rest with
  | all made => exact .all (.cons done made)
  | upTo split made failed => exact .upTo (congrArg (step :: ·) split) (.cons done made) failed

theorem logs_prepareAll (candidate : String) (steps : List Preparation) (s : σ) :
    Logs (prepareAll b.noting r candidate steps) (prepareAll b r candidate steps) s
      (Attempted b r s steps (outcome (prepareAll b r candidate steps) s)
        (after (prepareAll b r candidate steps) s)) := by
  induction steps generalizing s with
  | nil => exact Logs.pure (.all (.nil s))
  | cons step steps ih =>
    let first := reported b (preparationFailed candidate step) (prepare b r step)
    have recorded := Logs.reported (b := b) (preparationFailed candidate step) (Logs.prepare b r step s)
    have cases := reported_cases b (preparationFailed candidate step) (prepare b r step) s
    change Logs _ (first >>= fun _ => prepareAll b r candidate steps) s
      (Attempted b r s (step :: steps)
        (outcome (first >>= fun _ => prepareAll b r candidate steps) s)
        (after (first >>= fun _ => prepareAll b r candidate steps) s))
    refine Logs.bind recorded (fun _ _ => ih (after first s)) ?_ ?_
    · rintro ⟨⟩ _ effects came rfl attempted
      rcases cases with ⟨⟨⟩, z, done, run⟩ | ⟨e, -, failed⟩
      · have whole := run_bind_ok (f := fun _ => prepareAll b r candidate steps) came
        rw [outcome_of_run whole, after_of_run whole]
        rw [after_of_run run] at attempted ⊢
        exact attempted.cons done
      · rw [failed] at came
        cases came
    · rintro e _ came rfl
      rcases cases with ⟨⟨⟩, z, -, run⟩ | ⟨e', failed, failed'⟩
      · rw [outcome_of_run run] at came
        cases came
      · obtain rfl : e' = e := Except.error.inj (failed'.symm.trans came)
        have split : step :: steps = [] ++ step :: steps := rfl
        rw [outcome_bind_error came]
        exact .upTo split (.nil s) failed

theorem Made.run {steps : List Preparation} {s z : σ} (made : Made b r s steps z)
    (candidate : String) : (prepareAll b r candidate steps).run.run s = (.ok (), z) := by
  induction made with
  | nil => rfl
  | @cons s next z step steps done _ ih =>
    rcases reported_cases b (preparationFailed candidate step) (prepare b r step) s with
      ⟨⟨⟩, next', done', run⟩ | ⟨e, failed, -⟩
    · obtain rfl : next = next' := (after_of_run done).symm.trans (after_of_run done')
      refine (run_bind_ok (f := fun _ => prepareAll b r candidate steps) (outcome_of_run run)).trans ?_
      rw [after_of_run run]
      exact ih
    · rw [outcome_of_run done] at failed
      cases failed

/-! ### Launches -/

theorem answer_eq (b : Backend σ) (t : DispatchTable (Handler σ)) (r : LaunchRequest) :
    answer b t r = chosen b t r >>= fun c => prepareAll b r c.name c.preparations >>= fun _ =>
      reported b (handlerFailed c.name) (c.handler r) := by
  unfold answer chosen
  rw [bind_assoc]
  rfl

/-- A launch whose preparations are made comes to what the handler comes to after them. -/
theorem outcome_answer_of_made {c : Candidate (Handler σ)} {z : σ}
    (choice : outcome (chosen b t r) s = .ok c)
    (made : Made b r (after (chosen b t r) s) c.preparations z) :
    outcome (answer b t r) s = outcome (c.handler r) z := by
  have prepared := made.run c.name
  rw [answer_eq, outcome_bind_ok choice, outcome_bind_ok (outcome_of_run prepared),
    after_of_run prepared, outcome_reported]

/-- A launch comes to what its course says, and its effects are those of its course and no others: a
preparation or handler of another candidate, or one made twice or too early, would be on record. -/
theorem course_answer (b : Backend σ) (t : DispatchTable (Handler σ)) (r : LaunchRequest) (s : σ) :
    ∃ effects, (answer b.noting t.noting r).run.run (s, []) =
        (outcome (answer b t r) s, after (answer b t r) s, effects) ∧
      Course b t r s (outcome (answer b t r) s) effects := by
  suffices recorded : Logs (answer b.noting t.noting r) (answer b t r) s
      (Course b t r s (outcome (answer b t r) s)) from recorded []
  rw [answer_eq, answer_eq, chosen_noting, bind_map_left]
  let last (c : Candidate (Handler σ)) : LaunchM σ View :=
    prepareAll b r c.name c.preparations >>= fun _ => reported b (handlerFailed c.name) (c.handler r)
  refine Logs.bind (Logs.widen (chosen b t r) s)
    (Q := fun c => Course b t r s (outcome (last c) (after (chosen b t r) s))) ?_ ?_ ?_
  · intro c choice
    refine Logs.bind (logs_prepareAll c.name c.preparations _)
      (fun _ _ => Logs.reported _ (Logs.handling c r _)) ?_ ?_
    · rintro ⟨⟩ effects _ came attempted rfl
      change Course b t r s (outcome (_ >>= _) _) _
      rw [outcome_bind_ok came, outcome_reported]
      rw [came] at attempted
      cases attempted with
      | all made => exact .handled choice made
    · intro e effects came attempted
      change Course b t r s (outcome (_ >>= _) _) _
      rw [outcome_bind_error came]
      rw [came] at attempted
      cases attempted with
      | upTo split made failed => exact .unprepared choice split made failed
  · rintro c _ effects choice rfl course
    rw [outcome_bind_ok choice]
    exact course
  · rintro e _ failed rfl
    rw [outcome_bind_error failed]
    exact .unchosen failed

end Stages

end LtiLaunch
