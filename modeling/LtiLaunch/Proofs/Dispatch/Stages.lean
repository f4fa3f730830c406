import LtiLaunch.Proofs.Dispatch.Exclusive

/-!
# The stages of a launch

What a launch comes to, from what its stages come to. A selection that fails ends the launch, and a
selection in which every candidate fails at a cheap guard asks for nothing but flags.
-/

namespace LtiLaunch

variable {σ η : Type}

namespace Answers

def prepare (a : Answers) (r : LaunchRequest) : Preparation → Except LaunchError Unit
  | .upsertUser => a.upsertUser r
  | .upsertCourseGroup => a.upsertCourseGroup r

def prepareAll (a : Answers) (r : LaunchRequest) : List Preparation → Except LaunchError Unit
  | [] => .ok ()
  | step :: steps => a.prepare r step >>= fun _ => a.prepareAll r steps

end Answers

variable {W : σ → Prop} {b : Backend σ} {a : Answers} {r : LaunchRequest}

namespace Selection

/-- Where a guard cheaper than a question about the document fails, none of those is asked. -/
theorem yields_passesAll_of_cheap {gs : List Guard} {memo : Memo}
    (flags : ∀ name, Yields W (liftM (b.flagEnabled name r) : LaunchM σ Bool) (.ok (a.flag name r)))
    (ordered : gs.Pairwise fun g h => g.cost ≤ h.cost) {g : Guard} (mem : g ∈ gs)
    (cheap : g.cost < 2) (refused : a.guardHolds r g = .ok false) :
    Yields W (passesAll b r memo gs) (.ok (false, memo)) := by
  induction gs with
  | nil => cases mem
  | cons h gs ih =>
    obtain ⟨first, ordered⟩ := List.pairwise_cons.mp ordered
    have cheap' : h.cost < 2 := by
      rcases List.mem_cons.mp mem with rfl | mem
      · exact cheap
      · exact Nat.lt_of_le_of_lt (first g mem) cheap
    -- the first guard is cheap as well, so what it does is known
    obtain ⟨pass, holds⟩ := Answers.guardHolds_of_cheap (a := a) (r := r) cheap'
    have head : Yields W (passes b r memo h) (.ok (pass, memo)) := by
      match h with
      | .flag name enabled =>
        obtain rfl : (a.flag name r == enabled) = pass := Except.ok.inj holds
        exact Yields.bind (flags name) Yields.pure
      | .predicate .mayConfigure expected =>
        obtain rfl : (r.user.mayConfigure == expected) = pass := Except.ok.inj holds
        exact Yields.pure
      | .predicate (.document _) _ => exact absurd cheap' (Nat.lt_irrefl 2)
    unfold passesAll
    refine Yields.bind head ?_
    cases pass with
    | false => exact Yields.pure
    | true =>
      refine ih ordered ?_
      rcases List.mem_cons.mp mem with rfl | mem
      · simp [refused] at holds
      · exact mem

theorem yields_choose_of_cheap {t : DispatchTable η}
    (flags : ∀ name, Yields W (liftM (b.flagEnabled name r) : LaunchM σ Bool) (.ok (a.flag name r)))
    (journals : b.Journals W)
    (refused : ∀ c ∈ t.candidates r.key, ∃ g ∈ c.guards.guards,
      g.cost < 2 ∧ a.guardHolds r g = .ok false) :
    Yields W (choose b t r) (.error (.notFound ("no launch view matches " ++ r.key.text))) := by
  have none : ∀ cs : List (Candidate η),
      (∀ c ∈ cs, ∃ g ∈ c.guards.guards, g.cost < 2 ∧ a.guardHolds r g = .ok false) →
      Yields W (firstMatch b r Option.none cs) (.ok Option.none) := by
    intro cs refused
    induction cs with
    | nil => exact Yields.pure
    | cons c cs ih =>
      obtain ⟨g, mem, cheap, fails⟩ := refused c List.mem_cons_self
      unfold firstMatch
      exact Yields.bind (yields_passesAll_of_cheap flags c.guards.ordered mem cheap fails)
        (ih fun d hd => refused d (List.mem_cons_of_mem _ hd))
  exact Yields.bind (none _ refused) (Yields.bind (journals _) Yields.throw)

end Selection

namespace Stages

/-- A launch as far as the choice of its candidate. -/
def chosen (b : Backend σ) (t : DispatchTable (Handler σ)) (r : LaunchRequest) :
    LaunchM σ (Candidate (Handler σ)) := do
  b.journal (began r)
  Selection.choose b t r

variable {t : DispatchTable (Handler σ)}

theorem yields_chosen {o : Except LaunchError (Candidate (Handler σ))} (journals : b.Journals W)
    (h : Yields W (Selection.choose b t r) o) : Yields W (chosen b t r) o :=
  Yields.bind (journals _) h

/-- A selection that fails is the end of the launch: nothing is done to the world after it. -/
theorem answer_of_chosen_error {s : σ} {e : LaunchError}
    (failed : outcome (chosen b t r) s = .error e) :
    outcome (answer b t r) s = .error e ∧ after (answer b t r) s = after (chosen b t r) s := by
  obtain ⟨rest, whole⟩ : ∃ rest, answer b t r = chosen b t r >>= rest := by
    unfold answer chosen
    exact ⟨_, (bind_assoc _ _ _).symm⟩
  unfold outcome
  rw [after, whole, run_bind, failed]
  exact ⟨rfl, rfl⟩

theorem yields_prepare (h : b.Follows W a) (step : Preparation) :
    Yields W (prepare b r step) (a.prepare r step) := by
  cases step with
  | upsertUser => exact h.upsertUser r
  | upsertCourseGroup => exact h.upsertCourseGroup r

theorem yields_prepareAll (h : b.Follows W a) (candidate : String) (steps : List Preparation) :
    Yields W (prepareAll b r candidate steps) (a.prepareAll r steps) := by
  induction steps with
  | nil => exact Yields.pure
  | cons step steps ih =>
    unfold prepareAll Answers.prepareAll
    refine Yields.bind_each ?_ fun _ _ => ih
    have rethrown := Yields.tryCatch_rethrow (g := id) (yields_prepare (r := r) h step)
      fun e => h.journal (preparationFailed candidate step e)
    cases done : a.prepare r step <;> rw [done] at rethrown <;> exact rethrown

theorem yields_answer {c : Candidate (Handler σ)} {o : Except LaunchError View}
    (h : b.Follows W a) (chosen : a.select r (t.candidates r.key) = .ok c)
    (handled : Yields W (c.handler r) o) :
    Yields W (answer b t r) (a.prepareAll r c.preparations >>= fun _ => o) := by
  unfold answer
  refine Yields.bind (h.journal _) (Yields.bind (chosen ▸ Selection.yields_choose h t r) ?_)
  refine Yields.bind_each (yields_prepareAll h c.name c.preparations) fun _ _ => ?_
  have rethrown := Yields.tryCatch_rethrow (g := id) handled
    fun e => h.journal (handlerFailed c.name e)
  cases o <;> exact rethrown

end Stages

end LtiLaunch
