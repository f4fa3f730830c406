import Mathlib.Data.List.Perm.Basic
import LtiLaunch.Proofs.Dispatch.Exclusive

/-!
# Declared tables

Which lists of declarations a table takes up: `declareAll_eq_ok_iff` says it without the order in
which the table goes through them, by what each declaration describes and by which candidates may
stand beside each other.
-/

namespace LtiLaunch

variable {η : Type}

namespace DispatchTable

variable {vocabulary : Vocabulary} {t u : DispatchTable η} {c d : Candidate η}
  {cs : List (Candidate η)}

/-! ### The candidates of a route -/

theorem candidates_empty (k : RouteKey) : (empty : DispatchTable η).candidates k = [] := rfl

theorem candidates_add (t : DispatchTable η) (c : Candidate η) (k : RouteKey) :
    (t.add c).candidates k = if c.route = k then t.candidates k ++ [c] else t.candidates k := by
  unfold candidates add SortedMap.getD
  by_cases h : c.route = k
  · subst h
    rw [SortedMap.get?_insert_self, if_pos rfl]
    rfl
  · rw [SortedMap.get?_insert_of_ne _ h, if_neg h]

theorem candidates_addAll (t : DispatchTable η) (cs : List (Candidate η)) (k : RouteKey) :
    (cs.foldl add t).candidates k = t.candidates k ++ cs.filter (·.route = k) := by
  induction cs generalizing t with
  | nil => simp
  | cons c cs ih =>
    rw [List.foldl_cons, ih, candidates_add, List.filter_cons]
    by_cases h : c.route = k <;> simp [h]

theorem candidates_ofList (cs : List (Candidate η)) (k : RouteKey) :
    (cs.foldl add empty).candidates k = cs.filter (·.route = k) := by
  rw [candidates_addAll, candidates_empty, List.nil_append]

/-! ### Candidates beside each other -/

def Beside (c d : Candidate η) : Prop := c.name ≠ d.name ∧ c.guards.exclusive d.guards = true

/-- Whether two candidates may stand in one table. -/
def Compatible (c d : Candidate η) : Prop := c.route = d.route → Beside c d

theorem Compatible.symm (h : Compatible c d) : Compatible d c := by
  intro same
  obtain ⟨names, guards⟩ := h same.symm
  exact ⟨names.symm, by rwa [GuardSet.exclusive_comm]⟩

theorem exclusive_candidates (h : cs.Pairwise Compatible) (k : RouteKey) :
    Answers.Exclusive ((cs.foldl add empty).candidates k) := by
  rw [candidates_ofList]
  refine (h.filter _).imp_of_mem ?_
  intro c d hc hd compatible
  have hc := (List.mem_filter.mp hc).2
  have hd := (List.mem_filter.mp hd).2
  simp only [decide_eq_true_eq] at hc hd
  exact (compatible (hc.trans hd.symm)).2

theorem conflict?_eq_none_iff {others : List (Candidate η)} :
    conflict? others c = none ↔ ∀ other ∈ others, Beside other c := by
  unfold conflict?
  by_cases twice : (others.any fun other => other.name == c.name) = true
  · obtain ⟨other, mem, same⟩ := List.any_eq_true.mp twice
    simp only [if_pos twice, reduceCtorEq, false_iff, not_forall]
    exact ⟨other, mem, fun beside => beside.1 (by simpa using same)⟩
  · rw [if_neg twice]
    have fresh : ∀ other ∈ others, other.name ≠ c.name := by simpa using twice
    cases overlapping : others.find? fun other => !other.guards.exclusive c.guards with
    | none =>
      have exclusive : ∀ other ∈ others, other.guards.exclusive c.guards = true := by
        simpa using overlapping
      simp only [true_iff]
      exact fun other mem => ⟨fresh other mem, exclusive other mem⟩
    | some other =>
      have mem := List.mem_of_find?_eq_some overlapping
      have overlaps := List.find?_some overlapping
      simp only [reduceCtorEq, false_iff, not_forall]
      exact ⟨other, mem, fun beside => by simp [beside.2] at overlaps⟩

/-! ### What is taken up -/

variable {x : Declaration η} {xs : List (Declaration η)}

theorem declare_eq_ok_iff :
    t.declare vocabulary x = .ok u ↔
      ∃ c, candidateOf vocabulary x = .ok c ∧ (∀ other ∈ t.candidates c.route, Beside other c) ∧
        t.add c = u := by
  unfold declare
  cases described : candidateOf vocabulary x with
  | error refusal => simp [bind, Except.bind]
  | ok c =>
    simp only [bind, Except.bind]
    cases conflict : conflict? (t.candidates c.route) c with
    | some refusal =>
      have blocked : ¬ ∀ other ∈ t.candidates c.route, Beside other c := by
        rw [← conflict?_eq_none_iff, conflict]
        simp
      simp only [throw, throwThe, MonadExceptOf.throw, reduceCtorEq, false_iff]
      rintro ⟨d, same, free, -⟩
      cases same
      exact blocked free
    | none =>
      have free := conflict?_eq_none_iff.mp conflict
      simp only [pure, Except.pure, Except.ok.injEq, exists_eq_left']
      exact ⟨fun same => ⟨free, same⟩, fun h => h.2⟩

/-- A table takes up a list of declarations if each describes a candidate and no two of the
candidates, or one of them and one of the table, would be on one route beside each other. -/
theorem declareAll_eq_ok_iff :
    t.declareAll vocabulary xs = .ok u ↔
      ∃ cs, List.Forall₂ (fun x c => candidateOf vocabulary x = .ok c) xs cs ∧
        cs.Pairwise Compatible ∧ (∀ c ∈ cs, ∀ other ∈ t.candidates c.route, Beside other c) ∧
        cs.foldl add t = u := by
  unfold declareAll
  induction xs generalizing t with
  | nil => simp [pure, Except.pure]
  | cons x xs ih =>
    rw [List.foldlM_cons]
    constructor
    -- the table of the first declaration has its candidate, so the tail is beside it
    · intro taken
      obtain ⟨t₁, first, taken⟩ := exists_ok_of_bind taken
      obtain ⟨c, described, free, rfl⟩ := declare_eq_ok_iff.mp first
      obtain ⟨cs, each, compatible, frees, rfl⟩ := ih.mp taken
      refine ⟨c :: cs, .cons described each, List.pairwise_cons.mpr ⟨?_, compatible⟩, ?_, rfl⟩
      · intro d mem same
        refine frees d mem c ?_
        rw [candidates_add, if_pos same]
        exact List.mem_append_right _ (List.mem_singleton_self c)
      · intro d mem other hother
        rcases List.mem_cons.mp mem with rfl | mem
        · exact free other hother
        · refine frees d mem other ?_
          rw [candidates_add]
          split
          · exact List.mem_append_left _ hother
          · exact hother
    · rintro ⟨cs, each, compatible, frees, rfl⟩
      cases each with
      | @cons _ c _ cs described each =>
        obtain ⟨beside, compatible⟩ := List.pairwise_cons.mp compatible
        rw [declare_eq_ok_iff.mpr ⟨c, described, frees c List.mem_cons_self, rfl⟩]
        refine ih.mpr ⟨cs, each, compatible, fun d mem other hother => ?_, rfl⟩
        rw [candidates_add] at hother
        split at hother
        · next same =>
          rcases List.mem_append.mp hother with hother | hother
          · exact frees d (List.mem_cons_of_mem _ mem) other hother
          · obtain rfl := List.mem_singleton.mp hother
            exact beside d mem same
        · exact frees d (List.mem_cons_of_mem _ mem) other hother

/-- A fresh table takes up declarations whose candidates are compatible, in any order. -/
theorem declareAll_empty_eq_ok_iff :
    empty.declareAll vocabulary xs = .ok u ↔
      ∃ cs, List.Forall₂ (fun x c => candidateOf vocabulary x = .ok c) xs cs ∧
        cs.Pairwise Compatible ∧ cs.foldl add empty = u := by
  rw [declareAll_eq_ok_iff]
  simp [candidates_empty]

/-! ### What a declaration describes -/

theorem flagGuards_eq_ok_iff {name : String} {flags : List (String × Bool)} {gs : List Guard} :
    flagGuards name flags = .ok gs ↔
      (∀ f ∈ flags, Text.isBlank f.1 = false) ∧ flags.map (fun f => .flag f.1 f.2) = gs := by
  induction flags generalizing gs with
  | nil => simp [flagGuards]
  | cons f flags ih =>
    rw [flagGuards, List.forall_mem_cons]
    cases blank : Text.isBlank f.1 with
    | true => simp
    | false =>
      cases rest : flagGuards name flags with
      | error refusal =>
        have stuck : ¬ ∀ f ∈ flags, Text.isBlank f.1 = false := fun given => by
          have := ih.mpr ⟨given, rfl⟩
          simp [rest] at this
        simp only [Bool.false_eq_true, if_false, Except.map, reduceCtorEq, false_iff]
        exact fun h => stuck h.1.2
      | ok hs =>
        obtain ⟨given, rfl⟩ := ih.mp rest
        simp only [Bool.false_eq_true, if_false, Except.map, Except.ok.injEq, List.map_cons]
        exact ⟨fun same => ⟨⟨trivial, given⟩, same⟩, fun h => h.2⟩

theorem mem_of_predicateGuards {predicates : List (String × Bool)} {gs : List Guard}
    (described : predicateGuards vocabulary predicates = .ok gs) {g : Guard} :
    g ∈ gs ↔ ∃ p ∈ predicates, ∃ q, vocabulary.meaning p.1 = .ok q ∧ .predicate q p.2 = g := by
  induction predicates generalizing gs with
  | nil =>
    obtain rfl : [] = gs := by simpa [predicateGuards] using described
    simp
  | cons p predicates ih =>
    rw [predicateGuards] at described
    cases known : vocabulary.meaning p.1 with
    | error refusal => simp [known] at described
    | ok q =>
      cases rest : predicateGuards vocabulary predicates with
      | error refusal => simp [known, rest, Except.map] at described
      | ok hs =>
        obtain rfl : Guard.predicate q p.2 :: hs = gs := by
          simpa [known, rest, Except.map] using described
        simp [known, ih rest, eq_comm]

theorem predicateGuards_isOk_iff {predicates : List (String × Bool)} :
    (∃ gs, predicateGuards vocabulary predicates = .ok gs) ↔
      ∀ p ∈ predicates, ∃ q, vocabulary.meaning p.1 = .ok q := by
  induction predicates with
  | nil => simp [predicateGuards]
  | cons p predicates ih =>
    rw [List.forall_mem_cons, ← ih, predicateGuards]
    cases known : vocabulary.meaning p.1 with
    | error refusal => simp
    | ok q => cases predicateGuards vocabulary predicates <;> simp [Except.map]

theorem candidateOf_eq_ok_iff :
    candidateOf vocabulary x = .ok c ↔
      Text.isBlank x.name = false ∧ ∃ fs ps, flagGuards x.name x.flags = .ok fs ∧
        predicateGuards vocabulary x.predicates = .ok ps ∧
        { name := x.name, route := x.route, guards := .ofList (fs ++ ps),
          preparations := x.preparations, handler := x.handler } = c := by
  unfold candidateOf
  cases blank : Text.isBlank x.name with
  | true => simp [throw, throwThe, MonadExceptOf.throw, bind, Except.bind]
  | false =>
    cases flags : flagGuards x.name x.flags with
    | error refusal => simp [bind, Except.bind]
    | ok fs =>
      cases predicates : predicateGuards vocabulary x.predicates with
      | error refusal => simp [bind, Except.bind]
      | ok ps => simp [bind, Except.bind, pure, Except.pure]

end DispatchTable

end LtiLaunch
