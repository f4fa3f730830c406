import LtiLaunch.Proofs.Dispatch.Declared

/-!
# The order of declarations

A table does not depend on the order in which its candidates were declared, nor on the order in
which a declaration names its flags and predicates: the same requests fall to candidates of the
same names, and they fail with the same errors.
-/

namespace LtiLaunch

variable {σ η : Type}

/-- Declarations that differ at most in the order of their flags and of their predicates. -/
structure Declaration.Similar (x y : Declaration η) : Prop where
  name : x.name = y.name
  route : x.route = y.route
  flags : x.flags.Perm y.flags
  predicates : x.predicates.Perm y.predicates
  preparations : x.preparations = y.preparations
  handler : x.handler = y.handler

/-- The same declarations up to their order and to the order within each of them. -/
def Declaration.Rearranged (xs ys : List (Declaration η)) : Prop :=
  ∃ zs, xs.Perm zs ∧ List.Forall₂ Similar zs ys

/-- Candidates that differ at most in the order of their guards. -/
structure Candidate.Similar (c d : Candidate η) : Prop where
  name : c.name = d.name
  route : c.route = d.route
  guards : ∀ g, g ∈ c.guards.guards ↔ g ∈ d.guards.guards
  preparations : c.preparations = d.preparations
  handler : c.handler = d.handler

namespace DispatchTable

variable {vocabulary : Vocabulary} {c d : Candidate η} {cs ds : List (Candidate η)}
  {x y : Declaration η} {xs ys : List (Declaration η)}

theorem candidateOf_similar (similar : x.Similar y) (described : candidateOf vocabulary x = .ok c) :
    ∃ d, candidateOf vocabulary y = .ok d ∧ c.Similar d := by
  obtain ⟨named, fs, ps, flags, predicates, rfl⟩ := candidateOf_eq_ok_iff.mp described
  obtain ⟨given, rfl⟩ := flagGuards_eq_ok_iff.mp flags
  have known := predicateGuards_isOk_iff.mp ⟨ps, predicates⟩
  obtain ⟨qs, predicates'⟩ := predicateGuards_isOk_iff.mpr
    fun p mem => known p (similar.predicates.mem_iff.mpr mem)
  have flags' : flagGuards y.name y.flags = .ok _ :=
    flagGuards_eq_ok_iff.mpr ⟨fun f mem => given f (similar.flags.mem_iff.mpr mem), rfl⟩
  refine ⟨_, candidateOf_eq_ok_iff.mpr ⟨similar.name ▸ named, _, qs, flags', predicates', rfl⟩,
    similar.name, similar.route, fun g => ?_, similar.preparations, similar.handler⟩
  rw [GuardSet.mem_ofList, GuardSet.mem_ofList, List.mem_append, List.mem_append,
    mem_of_predicateGuards predicates, mem_of_predicateGuards predicates',
    (similar.flags.map _).mem_iff]
  simp only [similar.predicates.mem_iff]

theorem candidatesOf_similar (similar : List.Forall₂ Declaration.Similar xs ys)
    (described : List.Forall₂ (fun x c => candidateOf vocabulary x = .ok c) xs cs) :
    ∃ ds, List.Forall₂ (fun x c => candidateOf vocabulary x = .ok c) ys ds ∧
      List.Forall₂ Candidate.Similar cs ds := by
  induction similar generalizing cs with
  | nil =>
    cases described
    exact ⟨[], .nil, .nil⟩
  | cons alike _ ih =>
    cases described with
    | cons first described =>
      obtain ⟨d, first', same⟩ := candidateOf_similar alike first
      obtain ⟨ds, described', rest⟩ := ih described
      exact ⟨d :: ds, .cons first' described', .cons same rest⟩

theorem exists_of_mem {α β : Type} {R : α → β → Prop} {l : List α} {m : List β}
    (h : List.Forall₂ R l m) {a : α} (mem : a ∈ l) : ∃ b ∈ m, R a b := by
  induction h with
  | nil => cases mem
  | cons same _ ih =>
    rcases List.mem_cons.mp mem with rfl | mem
    · exact ⟨_, List.mem_cons_self, same⟩
    · obtain ⟨b, hb, same⟩ := ih mem
      exact ⟨b, List.mem_cons_of_mem _ hb, same⟩

theorem compatible_of_similar {c' d' : Candidate η} (hc : c.Similar c') (hd : d.Similar d')
    (compatible : Compatible c d) : Compatible c' d' := by
  intro route
  obtain ⟨names, exclusive⟩ := compatible ((hc.route.trans route).trans hd.route.symm)
  obtain ⟨g, hg, h, hh, conflict⟩ := GuardSet.exclusive_iff.mp exclusive
  exact ⟨fun same => names ((hc.name.trans same).trans hd.name.symm),
    GuardSet.exclusive_iff.mpr ⟨g, (hc.guards g).mp hg, h, (hd.guards h).mp hh, conflict⟩⟩

theorem pairwise_compatible_of_similar (similar : List.Forall₂ Candidate.Similar cs ds)
    (compatible : cs.Pairwise Compatible) : ds.Pairwise Compatible := by
  induction similar with
  | nil => exact .nil
  | cons same rest ih =>
    obtain ⟨first, compatible⟩ := List.pairwise_cons.mp compatible
    refine List.pairwise_cons.mpr ⟨fun d mem => ?_, ih compatible⟩
    obtain ⟨c, hc, alike⟩ := exists_of_mem rest.flip mem
    exact compatible_of_similar same alike (first c hc)

def Alike (cs ds : List (Candidate η)) : Prop :=
  (∀ c ∈ cs, ∃ d ∈ ds, c.Similar d) ∧ ∀ d ∈ ds, ∃ c ∈ cs, c.Similar d

theorem alike_filter (h : Alike cs ds) (k : RouteKey) :
    Alike (cs.filter (·.route = k)) (ds.filter (·.route = k)) := by
  simp only [Alike, List.mem_filter, decide_eq_true_eq]
  constructor
  · rintro c ⟨mem, rfl⟩
    obtain ⟨d, hd, same⟩ := h.1 c mem
    exact ⟨d, ⟨hd, same.route.symm⟩, same⟩
  · rintro d ⟨mem, rfl⟩
    obtain ⟨c, hc, same⟩ := h.2 d mem
    exact ⟨c, ⟨hc, same.route⟩, same⟩

end DispatchTable

namespace Answers

variable {a : Answers} {r : LaunchRequest} {c d : Candidate η} {cs ds : List (Candidate η)}

theorem accepts_of_similar (same : c.Similar d) : a.accepts r c = a.accepts r d :=
  allHold_congr c.guards.ordered d.guards.ordered same.guards

/-- What comes of a list of exclusive candidates does not depend on its order. -/
theorem select_alike (alike : DispatchTable.Alike cs ds) (hc : Exclusive cs) (hd : Exclusive ds) :
    (a.select r cs).map Candidate.name = (a.select r ds).map Candidate.name := by
  by_cases taken : ∃ c ∈ cs, a.accepts r c = .ok true
  · obtain ⟨c, mem, pass⟩ := taken
    obtain ⟨d, mem', same⟩ := alike.1 c mem
    rw [select_of_accepts hc mem pass,
      select_of_accepts hd mem' (accepts_of_similar same ▸ pass)]
    exact congrArg Except.ok same.name
  -- where no candidate accepts, one that fails shows its error, and all errors are alike
  · have none : ∀ c ∈ cs, a.accepts r c ≠ .ok true := fun c mem pass => taken ⟨c, mem, pass⟩
    have none' : ∀ d ∈ ds, a.accepts r d ≠ .ok true := fun d mem pass => by
      obtain ⟨c, mem', same⟩ := alike.2 d mem
      exact none c mem' ((accepts_of_similar same).trans pass)
    by_cases failing : ∃ c ∈ cs, ∃ e, a.accepts r c = .error e
    · obtain ⟨c, mem, e, failed⟩ := failing
      obtain ⟨d, mem', same⟩ := alike.1 c mem
      rw [select_eq_error none mem failed,
        select_eq_error none' mem' ((accepts_of_similar same).symm.trans failed)]
    · have refused : ∀ c ∈ cs, a.accepts r c = .ok false := fun c mem => by
        cases answer : a.accepts r c with
        | error e => exact absurd ⟨c, mem, e, answer⟩ failing
        | ok pass =>
          cases pass with
          | false => rfl
          | true => exact absurd answer (none c mem)
      have refused' : ∀ d ∈ ds, a.accepts r d = .ok false := fun d mem => by
        obtain ⟨c, mem', same⟩ := alike.2 d mem
        exact (accepts_of_similar same).symm.trans (refused c mem')
      rw [select_eq_notFound refused, select_eq_notFound refused']

end Answers

namespace Selection

variable {W : σ → Prop} {b : Backend σ} {a : Answers}

/-- Whether the guards of the candidate pass, whatever became of the others. -/
def accepts (b : Backend σ) (r : LaunchRequest) (c : Candidate η) : LaunchM σ Bool := do
  return (← passesAll b r none c.guards.guards).1

theorem yields_accepts (h : b.Follows W a) (r : LaunchRequest) (c : Candidate η) :
    Yields W (accepts b r c) (a.accepts r c) := by
  unfold accepts Answers.accepts
  refine Always.bind (always_passesAll h (right_none a r) c.guards.guards) ?_ ?_
  · rintro ⟨pass, memo⟩ ⟨same, _⟩
    rw [← same]
    exact Yields.pure
  · rintro e ⟨same, _⟩
    rw [← same]
    rfl

end Selection

/-- Declarations that a fresh table takes up are taken up in every arrangement, and the tables
choose alike: candidates of one name, or one error. No two candidates of a route accept one request,
and a candidate that accepts it is chosen, whatever befalls the guards of the others. -/
theorem choose_of_rearranged {vocabulary : Vocabulary} {xs ys : List (Declaration η)}
    {t : DispatchTable η} (taken : DispatchTable.empty.declareAll vocabulary xs = .ok t)
    (rearranged : Declaration.Rearranged xs ys) :
    ∃ u, DispatchTable.empty.declareAll vocabulary ys = .ok u ∧
      ∀ {σ : Type} {b : Backend σ} {W : σ → Prop} {a : Answers}, b.Follows W a →
        ∀ (r : LaunchRequest) (s s' : σ), W s → W s' →
          (outcome (Selection.choose b t r) s).map Candidate.name =
            (outcome (Selection.choose b u r) s').map Candidate.name ∧
          (∀ k, (t.candidates k).Pairwise fun c d =>
            ¬ (outcome (Selection.accepts b r c) s = .ok true ∧
              outcome (Selection.accepts b r d) s' = .ok true)) ∧
          ∀ c ∈ t.candidates r.key, outcome (Selection.accepts b r c) s = .ok true →
            outcome (Selection.choose b t r) s' = .ok c := by
  obtain ⟨cs, described, compatible, rfl⟩ := DispatchTable.declareAll_empty_eq_ok_iff.mp taken
  obtain ⟨zs, perm, similar⟩ := rearranged
  -- the candidates of the rearranged declarations: first in another order, then with other guards
  obtain ⟨ds, described', perm'⟩ := List.perm_comp_forall₂ perm.symm described
  obtain ⟨es, described'', alike⟩ := DispatchTable.candidatesOf_similar similar described'
  have compatible' : es.Pairwise DispatchTable.Compatible :=
    DispatchTable.pairwise_compatible_of_similar alike
      (perm'.symm.pairwise compatible fun h => h.symm)
  have alike' : DispatchTable.Alike cs es := by
    constructor
    · exact fun c mem => DispatchTable.exists_of_mem alike (perm'.mem_iff.mpr mem)
    · intro d mem
      obtain ⟨c, hc, same⟩ := DispatchTable.exists_of_mem alike.flip mem
      exact ⟨c, perm'.mem_iff.mp hc, same⟩
  refine ⟨_, DispatchTable.declareAll_empty_eq_ok_iff.mpr ⟨es, described'', compatible', rfl⟩, ?_⟩
  intro σ b W a h r s s' hs hs'
  have exclusive := DispatchTable.exclusive_candidates compatible
  refine ⟨?_, fun k => (exclusive k).imp fun excluded both => ?_, fun c mem pass => ?_⟩
  · rw [(Selection.yields_choose h _ r).outcome_eq hs, (Selection.yields_choose h _ r).outcome_eq hs']
    refine Answers.select_alike ?_ (exclusive r.key)
      (DispatchTable.exclusive_candidates compatible' r.key)
    rw [DispatchTable.candidates_ofList, DispatchTable.candidates_ofList]
    exact DispatchTable.alike_filter alike' r.key
  · rw [(Selection.yields_accepts h r _).outcome_eq hs,
      (Selection.yields_accepts h r _).outcome_eq hs'] at both
    have refused := Answers.not_allHold_of_exclusive excluded both.1
    have pass := both.2
    unfold Answers.accepts at pass
    simp [refused] at pass
  · rw [(Selection.yields_accepts h r c).outcome_eq hs] at pass
    rw [(Selection.yields_choose h _ r).outcome_eq hs']
    exact Answers.select_of_accepts (exclusive r.key) mem pass

def Declaration.picking : Declaration Unit where
  name := "picking"
  route := .post .ltiLaunches
  flags := [("new_oauth", true)]
  predicates := [("authorized_to_configure_assignments", true)]
  preparations := []
  handler := ()

def Declaration.showing : Declaration Unit where
  name := "showing"
  route := .post .ltiLaunches
  flags := []
  predicates := [("configured", true), ("authorized_to_configure_assignments", false)]
  preparations := []
  handler := ()

/-- A lookup that fails does not keep the instructor from the candidate declared last. -/
theorem choose_of_rearranged_pair :
    ∃ t u, DispatchTable.empty.declareAll .builtin [.picking, .showing] = .ok t ∧
      DispatchTable.empty.declareAll .builtin
        [{ Declaration.showing with predicates := Declaration.showing.predicates.reverse },
          .picking] = .ok u ∧
      (outcome (Selection.choose Answers.unreachable.backend t .byInstructor) ()).map
        Candidate.name = .ok "picking" ∧
      (outcome (Selection.choose Answers.unreachable.backend u .byInstructor) ()).map
        Candidate.name = .ok "picking" := by
  have rearranged : Declaration.Rearranged [.picking, .showing]
      [{ Declaration.showing with predicates := Declaration.showing.predicates.reverse },
        .picking] := by
    refine ⟨[.showing, .picking], .swap _ _ _, .cons ?_ (.cons ?_ .nil)⟩
    · exact ⟨rfl, rfl, .refl _, (List.reverse_perm _).symm, rfl, rfl⟩
    · exact ⟨rfl, rfl, .refl _, .refl _, rfl, rfl⟩
  obtain ⟨u, taken, same⟩ := @choose_of_rearranged Unit .builtin _ _ _ rfl rearranged
  obtain ⟨names, -, -⟩ := same Answers.unreachable.follows_backend .byInstructor () () trivial trivial
  exact ⟨_, u, rfl, taken, rfl, names.symm.trans rfl⟩

end LtiLaunch
