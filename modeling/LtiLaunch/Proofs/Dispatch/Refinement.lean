import LtiLaunch.Proofs.Dispatch.Run

/-!
# Selection and its reference

The reference remembers nothing and leaves nothing out: it evaluates every guard of every candidate,
finding out the document anew for each guard that asks about it, and only then looks at the verdicts,
from the first candidate on. Selection comes to the same, but it looks for the document at most once.
-/

namespace LtiLaunch

variable {σ η α β : Type}

/-- What the computation comes to, its failure included. -/
def attempt (x : LaunchM σ α) : LaunchM σ (Except LaunchError α) := ExceptT.lift x.run

namespace Yields

variable {W : σ → Prop}

theorem attempt {x : LaunchM σ α} {o : Except LaunchError α} (h : Yields W x o) :
    Yields W (LtiLaunch.attempt x) (.ok o) := by
  intro s hs
  obtain ⟨out, world⟩ := h s hs
  exact ⟨congrArg Except.ok out, world⟩

theorem mapM {f : α → LaunchM σ β} {g : α → β} {l : List α}
    (h : ∀ x ∈ l, Yields W (f x) (.ok (g x))) : Yields W (l.mapM f) (.ok (l.map g)) := by
  induction l with
  | nil => exact pure
  | cons x l ih =>
    obtain ⟨first, rest⟩ := List.forall_mem_cons.mp h
    rw [List.mapM_cons]
    exact bind first (bind (ih rest) pure)

end Yields

namespace Reference

open Selection

section Definitions

variable (b : Backend σ) (r : LaunchRequest)

/-- A guard by itself, the document found out for it alone. -/
def passes : Guard → LaunchM σ Bool
  | .flag name enabled => do return (← b.flagEnabled name r) == enabled
  | .predicate .mayConfigure expected => return r.user.mayConfigure == expected
  | .predicate (.document p) expected => do
    let holds ← tryCatch (Signals.evaluate b p r) fun e => throw (guardFailure e)
    return holds == expected

/-- The verdict on a candidate: its first guard that does not pass decides. -/
def verdict : List (Except LaunchError Bool) → Except LaunchError Bool
  | [] => .ok true
  | .ok true :: rest => verdict rest
  | other :: _ => other

/-- All the guards of the candidate are evaluated, whatever comes of the first ones. -/
def judge (c : Candidate η) : LaunchM σ (Candidate η × Except LaunchError Bool) := do
  return (c, verdict (← c.guards.guards.mapM fun g => attempt (passes b r g)))

/-- The first candidate that was not refused, if it was not for an error. -/
def pick (route : RouteKey) :
    List (Candidate η × Except LaunchError Bool) → Except LaunchError (Candidate η)
  | [] => .error (.notFound ("no launch view matches " ++ route.text))
  | (c, .ok true) :: _ => .ok c
  | (_, .ok false) :: rest => pick route rest
  | (_, .error e) :: _ => .error e

def choose (t : DispatchTable η) : LaunchM σ (Candidate η) := do
  liftM (pick r.key (← (t.candidates r.key).mapM (judge b r)))

end Definitions

variable {W : σ → Prop} {b : Backend σ} {a : Answers} {r : LaunchRequest}

theorem yields_passes (h : b.Follows W a) (g : Guard) :
    Yields W (passes b r g) (a.guardHolds r g) := by
  match g with
  | .flag name enabled => exact Yields.bind (h.flag name r) Yields.pure
  | .predicate .mayConfigure expected => exact Yields.pure
  | .predicate (.document p) expected =>
    unfold passes Answers.guardHolds Answers.found
    have resolved := Signals.yields_resolve h r
    cases answer : a.resolve r with
    | ok document =>
      rw [answer] at resolved
      exact Yields.bind (Yields.tryCatch_ok (Yields.bind resolved Yields.pure)) Yields.pure
    | error e =>
      rw [answer] at resolved
      exact Yields.bind_error (Yields.tryCatch_error (Yields.bind_error resolved) Yields.throw)

theorem verdict_eq_allHold (a : Answers) (r : LaunchRequest) (gs : List Guard) :
    verdict (gs.map (a.guardHolds r)) = a.allHold r gs := by
  induction gs with
  | nil => rfl
  | cons g gs ih =>
    rw [List.map_cons, Answers.allHold]
    cases a.guardHolds r g with
    | error e => rfl
    | ok pass =>
      cases pass with
      | true => exact ih
      | false => rfl

theorem pick_eq_select (a : Answers) (r : LaunchRequest) (cs : List (Candidate η)) :
    pick r.key (cs.map fun c => (c, a.allHold r c.guards.guards)) = a.select r cs := by
  induction cs with
  | nil => rfl
  | cons c cs ih =>
    rw [List.map_cons, Answers.select, Answers.firstMatch]
    cases a.allHold r c.guards.guards with
    | error e => rfl
    | ok pass =>
      cases pass with
      | true => rfl
      | false => exact ih

theorem yields_judge (h : b.Follows W a) (c : Candidate η) :
    Yields W (judge b r c) (.ok (c, a.allHold r c.guards.guards)) := by
  rw [← verdict_eq_allHold]
  exact Yields.bind (Yields.mapM fun g _ => (yields_passes h g).attempt) Yields.pure

theorem yields_choose (h : b.Follows W a) (t : DispatchTable η) (r : LaunchRequest) :
    Yields W (choose b r t) (a.select r (t.candidates r.key)) := by
  rw [← pick_eq_select]
  exact Yields.bind (Yields.mapM fun c _ => yields_judge h c) (Yields.ofExcept _)

end Reference

namespace Answers

/-- The candidates that ask about the document fail a cheaper guard or follow one that accepts. -/
def Spares (a : Answers) (r : LaunchRequest) (cs : List (Candidate η)) : Prop :=
  ∀ before c rest, cs = before ++ c :: rest → (∃ g ∈ c.guards.guards, g.cost = 2) →
    (∃ g ∈ c.guards.guards, g.cost < 2 ∧ a.guardHolds r g = .ok false) ∨
      ∃ d ∈ before, a.accepts r d = .ok true

end Answers

namespace Selection

variable {W : σ → Prop} {b : Backend σ} {a : Answers} {r : LaunchRequest} {gs : List Guard}
  {cs : List (Candidate η)}

/-! ### Runs over a backend that answers as a function -/

theorem passesAll_of_refused {p q : Point σ} (refused : Refused b r p gs q) :
    (passesAll b r p.2 gs).run.run p.1 = (.ok (false, q.2), q.1) := by
  induction refused with
  | here first => exact passesAll_cons_refused first
  | later first _ ih => rw [passesAll_cons first, ih]

/-- What is refused in a run is what the answers refuse. -/
theorem allRefused_answers (h : b.Follows W a) {p z : Point σ} (refused : AllRefused b r p cs z)
    (world : W p.1) (right : Right a r p.2) :
    (∀ c ∈ cs, a.accepts r c = .ok false) ∧ W z.1 ∧ Right a r z.2 := by
  induction refused with
  | nil => exact ⟨by simp, world, right⟩
  | cons first _ ih =>
    -- the memo stays right on the way, so each verdict is the one that the answers give
    obtain ⟨⟨same, remembered⟩, next⟩ := always_passesAll h right _ _ world
    have run := passesAll_of_refused first
    have out := outcome_of_run run
    have left := after_of_run run
    rw [out] at same remembered
    rw [left] at next
    obtain ⟨rest, last⟩ := ih next (remembered _ rfl)
    exact ⟨List.forall_mem_cons.mpr ⟨same.symm, rest⟩, last⟩

theorem refused_of_guardHolds (h : b.Follows W a) (cheap : ∀ g ∈ gs, g.cost < 2) {g : Guard}
    (mem : g ∈ gs) (fails : a.guardHolds r g = .ok false) {p : Point σ} (world : W p.1)
    (right : Right a r p.2) : ∃ z, Refused b r p gs z := by
  induction gs generalizing p with
  | nil => cases mem
  | cons g' gs ih =>
    obtain ⟨first, cheap⟩ := List.forall_mem_cons.mp cheap
    obtain ⟨pass, s, judged⟩ := exists_judged_of_cheap (b := b) (r := r) first p
    obtain ⟨⟨same, -⟩, next⟩ := always_passes h right g' _ world
    have out := outcome_of_run judged
    have left := after_of_run judged
    rw [out] at same
    rw [left] at next
    cases pass with
    | false => exact ⟨_, .here judged⟩
    | true =>
      rcases List.mem_cons.mp mem with rfl | mem
      · rw [fails] at same
        cases same
      · obtain ⟨z, refused⟩ := ih cheap mem (p := (s, p.2)) next right
        exact ⟨z, .later judged refused⟩

theorem spared_of_spares (h : b.Follows W a) {s : σ} (world : W s) (spares : a.Spares r cs) :
    Spared b r (s, none) cs := by
  intro before c rest q split refused costly
  obtain ⟨others, next, right⟩ := allRefused_answers h refused world (right_none a r)
  rcases spares before c rest split costly with ⟨g, mem, cheap, fails⟩ | ⟨d, mem, accepts⟩
  · refine refused_of_guardHolds h ?_ (g := g) ?_ fails next right
    · intro g' mem'
      simpa using (List.mem_filter.mp mem').2
    · exact List.mem_filter.mpr ⟨mem, by simpa using cheap⟩
  · rw [others d mem] at accepts
    cases accepts

/-! ### Selection -/

theorem logs_choose {P : List BackendCall → Prop} (t : DispatchTable η) (s : σ)
    (h : Logs (firstMatch b.recorded r none (t.candidates r.key))
      (firstMatch b r none (t.candidates r.key)) s P) :
    Logs (choose b.recorded t r) (choose b t r) s P := by
  unfold choose
  refine Logs.bind h (Q := fun _ => (· = [])) ?_ ?_ (fun _ _ _ holds => holds)
  · intro found _
    cases found with
    | some c =>
      refine Logs.bind (Logs.journal b _ _) (Q := fun _ => (· = [])) ?_ ?_ ?_
      · exact fun _ _ => Logs.pure rfl
      · rintro _ _ _ - rfl rfl
        rfl
      · exact fun _ _ _ none => none
    | none =>
      refine Logs.bind (Logs.journal b _ _) (Q := fun _ => (· = [])) ?_ ?_ ?_
      · exact fun _ _ => Logs.throw rfl
      · rintro _ _ _ - rfl rfl
        rfl
      · exact fun _ _ _ none => none
  · rintro _ calls _ - holds rfl
    rwa [List.append_nil]

/-- What the failure of a guard says of the failure to find out the document. -/
def Blames (e cause : LaunchError) : Prop :=
  cause.kind = .guardEvaluation ∧ e = cause ∨
    cause.kind ≠ .guardEvaluation ∧ e = .guardEvaluation
      ("configuration predicate could not be evaluated (" ++ cause.kind.name ++ "): " ++
        cause.message)

theorem blames_guardFailure (e : LaunchError) : Blames (guardFailure e) e := by
  unfold guardFailure
  split
  · next same => exact .inl ⟨same, rfl⟩
  · next other => exact .inr ⟨other, rfl⟩

/-- What can be said of a selection in a world, whatever the backend answers. -/
structure Accounted (b : Backend σ) (t : DispatchTable η) (r : LaunchRequest) (s : σ) : Prop where
  calls : ∃ calls,
    (choose b.recorded t r).run.run (s, []) = (outcome (choose b t r) s, after (choose b t r) s, calls) ∧
      calls.countP BackendCall.isDocumentUrl ≤ 1 ∧ calls.count .canvasFiles ≤ 1 ∧
        (Spared b r (s, none) (t.candidates r.key) →
          calls.countP BackendCall.isDocumentUrl = 0 ∧ calls.count .canvasFiles = 0)
  success : ∀ c, outcome (choose b t r) s = .ok c →
    ∃ before rest q z, t.candidates r.key = before ++ c :: rest ∧
      AllRefused b r (s, none) before q ∧ Passed b r q c.guards.guards z
  failures : ∀ e, outcome (choose b t r) s = .error e →
    (e = .notFound ("no launch view matches " ++ r.key.text) ∧
      ∃ q, AllRefused b r (s, none) (t.candidates r.key) q) ∨
    ∃ before c rest q cause, t.candidates r.key = before ++ c :: rest ∧
      AllRefused b r (s, none) before q ∧ Stuck b r q c.guards.guards cause ∧ Blames e cause

theorem accounted_choose (b : Backend σ) (t : DispatchTable η) (r : LaunchRequest) (s : σ) :
    Accounted b t r s := by
  constructor
  case calls =>
    have once := logs_choose t s (logs_firstMatch (b := b) (r := r) none (t.candidates r.key) s)
    obtain ⟨calls, run, ⟨documents, files⟩, -⟩ := once []
    refine ⟨calls, run, documents, files, fun spared => ?_⟩
    obtain ⟨calls', run', flags⟩ := logs_choose t s (logs_firstMatch_of_spared (s, none) spared) []
    have same : calls = calls' := congrArg (fun w => w.2.2) (run.symm.trans run')
    rw [same]
    exact ⟨flags.countP_eq_zero, flags.count_eq_zero⟩
  case success =>
    intro c chosen
    obtain ⟨before, rest, q, z, split, refused, passed, -⟩ := passed_of_choose chosen
    exact ⟨before, rest, q, z, split, refused, passed⟩
  case failures =>
    intro e failed
    rcases firstMatch_cases (b := b) (r := r) (s, none) (t.candidates r.key) with
      ⟨before, d, rest, q, z, run, -⟩ | ⟨q, found, refused⟩ |
      ⟨before, c, rest, q, cause, stop, split, refused, stuck⟩
    · rw [choose, outcome_bind_ok (outcome_of_run run)] at failed
      cases failed
    · rw [choose, outcome_bind_ok found] at failed
      exact .inl ⟨(Except.error.inj failed).symm, q, refused⟩
    · rw [choose, outcome_bind_error stop] at failed
      obtain rfl := Except.error.inj failed
      exact .inr ⟨before, c, rest, q, cause, split, refused, stuck, blames_guardFailure cause⟩

end Selection

open Selection

/-- Over a backend that answers as a function, selection comes to what its reference comes to. Over
any backend it looks for the document at most once, and not at all where no candidate needs it, and
it fails for want of a candidate or because the document could not be found out. -/
theorem choose_refines (b : Backend σ) (t : DispatchTable η) (r : LaunchRequest) :
    (∀ {W : σ → Prop} {a : Answers}, b.Follows W a → ∀ s, W s →
      (∀ s', W s' → outcome (choose b t r) s = outcome (Reference.choose b r t) s') ∧
        (a.Spares r (t.candidates r.key) → Spared b r (s, none) (t.candidates r.key))) ∧
      ∀ s, Accounted b t r s := by
  refine ⟨fun {W a} h s world => ⟨fun s' world' => ?_, spared_of_spares h world⟩,
    accounted_choose b t r⟩
  rw [(yields_choose h t r).outcome_eq world, (Reference.yields_choose h t r).outcome_eq world']

def Declaration.editing : Declaration Unit where
  name := "editing"
  route := .post .ltiLaunches
  flags := [("new_oauth", true)]
  predicates := [("configured", true), ("authorized_to_configure_assignments", true)]
  preparations := []
  handler := ()

def Candidate.editing : Candidate Unit where
  name := "editing"
  route := .post .ltiLaunches
  guards := .ofList [.flag "new_oauth" true, .predicate (.document .configured) true,
    .predicate .mayConfigure true]
  preparations := []
  handler := ()

def LaunchRequest.byLearner : LaunchRequest :=
  { LaunchRequest.byInstructor with
    user := { userId := "user", consumerKey := "key", roles := "Learner" } }

/-- The lookup fails for the instructor, and is not made for the learner. -/
theorem choose_refines_editing :
    ∃ t : DispatchTable Unit, DispatchTable.empty.declareAll .builtin [.editing] = .ok t ∧
      outcome (Reference.choose Answers.unreachable.backend .byInstructor t) () =
        .error (.guardEvaluation
          "configuration predicate could not be evaluated (upstream_lookup): no store") ∧
      (∃ (q : Point Unit) (cause : LaunchError),
        Stuck Answers.unreachable.backend .byInstructor q Candidate.editing.guards.guards cause) ∧
      ∃ calls, (choose Answers.unreachable.backend.recorded t .byLearner).run.run ((), []) =
          (.error (.notFound "no launch view matches POST lti_launches"), (), calls) ∧
        calls.countP BackendCall.isDocumentUrl = 0 := by
  have follows := Answers.unreachable.follows_backend (σ := Unit)
  have only {before rest : List (Candidate Unit)} {c : Candidate Unit}
      (split : [Candidate.editing] = before ++ c :: rest) : c = .editing := by
    have mem : c ∈ [Candidate.editing] := split ▸ List.mem_append_right before List.mem_cons_self
    exact List.mem_singleton.mp mem
  let t : DispatchTable Unit := DispatchTable.empty.add .editing
  obtain ⟨plain, accounted⟩ := choose_refines Answers.unreachable.backend t .byInstructor
  obtain ⟨same, -⟩ := plain follows () trivial
  refine ⟨t, rfl, (same () trivial).symm, ?_, ?_⟩
  · rcases (accounted ()).failures (.guardEvaluation _) rfl with ⟨other, -⟩ | found
    · exact absurd other (by decide)
    · obtain ⟨before, c, rest, q, cause, split, -, stuck, -⟩ := found
      obtain rfl := only split
      exact ⟨q, cause, stuck⟩
  · obtain ⟨plain, accounted⟩ := choose_refines Answers.unreachable.backend t .byLearner
    obtain ⟨-, spared⟩ := plain follows () trivial
    obtain ⟨calls, run, -, -, quiet⟩ := (accounted ()).calls
    refine ⟨calls, run, (quiet (spared ?_)).1⟩
    intro before c rest split _
    obtain rfl := only split
    exact .inl ⟨.predicate .mayConfigure true, by decide, by decide, rfl⟩

end LtiLaunch
