import LtiLaunch.Proofs.Dispatch.Declared

/-!
# Runs of registrations

Declarations are made to a table one after the other, and each is taken up or refused. A refused one
leaves no trace, though its route is opened before it is known whether it can stand there: a route
that had to be opened has no candidates, and beside none of them everything can stand.
-/

namespace LtiLaunch.DispatchTable

variable {η : Type} {vocabulary : Vocabulary} {t u : DispatchTable η} {d : Declaration η}
  {ds : List (Declaration η)} {c : Candidate η}

/-- The table after a declaration was made to it, and taken up or refused. -/
def afterRegister (vocabulary : Vocabulary) (t : DispatchTable η) (d : Declaration η) :
    DispatchTable η :=
  ((register vocabulary d).run.run t).2

def registerAll (vocabulary : Vocabulary) (t : DispatchTable η) (ds : List (Declaration η)) :
    DispatchTable η :=
  ds.foldl (afterRegister vocabulary) t

/-- The candidate is the one declared: its guards are the declared flags and the predicates that the
names of the declaration stand for, the cheapest first. -/
structure Describes (vocabulary : Vocabulary) (d : Declaration η) (c : Candidate η) : Prop where
  name : c.name = d.name
  route : c.route = d.route
  preparations : c.preparations = d.preparations
  handler : c.handler = d.handler
  guards : ∃ predicates,
    List.Forall₂ (fun p g => ∃ q, vocabulary.meaning p.1 = .ok q ∧ g = Guard.predicate q p.2)
      d.predicates predicates ∧
    c.guards.guards.Perm (d.flags.map (fun f => .flag f.1 f.2) ++ predicates)
  cheapestFirst : c.guards.guards.Pairwise fun g h => g.cost ≤ h.cost

/-- What holds of a table to which `ds` have been declared, whatever became of each. -/
structure Sound (vocabulary : Vocabulary) (ds : List (Declaration η)) (t : DispatchTable η) :
    Prop where
  nonempty : ∀ k ∈ t.routeKeys, t.candidates k ≠ []
  route : ∀ k, ∀ c ∈ t.candidates k, c.route = k
  declared : ∀ k, ∀ c ∈ t.candidates k, ∃ d ∈ ds, Describes vocabulary d c
  named : ∀ k, ∀ c ∈ t.candidates k, Text.isBlank c.name = false
  flags : ∀ k, ∀ c ∈ t.candidates k, ∀ name enabled,
    .flag name enabled ∈ c.guards.guards → Text.isBlank name = false
  apart : ∀ k, (t.candidates k).Pairwise fun c d => c.name ≠ d.name ∧
    c.guards.exclusive d.guards = true ∧ d.guards.exclusive c.guards = true

/-- `u` has the candidate at the end of its route, and otherwise what `t` has. -/
structure Appended (t : DispatchTable η) (c : Candidate η) (u : DispatchTable η) : Prop where
  candidates : ∀ k, u.candidates k = if c.route = k then t.candidates k ++ [c] else t.candidates k
  routeKeys : ∀ k, k ∈ u.routeKeys ↔ k = c.route ∨ k ∈ t.routeKeys

/-- Why a declaration cannot be taken up. -/
inductive Unfit (vocabulary : Vocabulary) (t : DispatchTable η) (d : Declaration η) : Prop
  | blankName (blank : Text.isBlank d.name = true)
  | blankFlag {f : String × Bool} (mem : f ∈ d.flags) (blank : Text.isBlank f.1 = true)
  | unknown {p : String × Bool} (mem : p ∈ d.predicates)
      (none : ¬ ∃ q, vocabulary.meaning p.1 = .ok q)
  | conflict {c other : Candidate η} (describes : Describes vocabulary d c)
      (mem : other ∈ t.candidates d.route) (clash : ¬ Beside other c)

/-! ### One registration -/

theorem candidates_openRoute (t : DispatchTable η) (k : RouteKey) :
    (t.openRoute k).candidates k = t.candidates k := by
  cases present : t.routes.get? k with
  | some cs => rw [openRoute, present]
  | none =>
    unfold openRoute candidates SortedMap.getD
    rw [present, SortedMap.get?_insert_self]
    rfl

/-- A candidate can be in conflict only on a route that has candidates, which is open already. -/
theorem openRoute_of_conflict {refusal : Refusal}
    (conflict : conflict? (t.candidates c.route) c = some refusal) : t.openRoute c.route = t := by
  cases present : t.routes.get? c.route with
  | some cs => rw [openRoute, present]
  | none =>
    have none : t.candidates c.route = [] := by
      unfold candidates SortedMap.getD
      rw [present]
      rfl
    rw [none] at conflict
    cases conflict

theorem add_openRoute (t : DispatchTable η) (c : Candidate η) :
    (t.openRoute c.route).add c = t.add c := by
  unfold add
  rw [candidates_openRoute]
  cases present : t.routes.get? c.route with
  | some cs => rw [openRoute, present]
  | none =>
    rw [openRoute, present]
    refine congrArg _ (SortedMap.ext_get? fun k => ?_)
    simp only [SortedMap.get?_insert]
    split <;> rfl

/-- What a registration does once it is known whether there is a conflict. -/
theorem run_settle (found : Option Refusal) (t : DispatchTable η) (c : Candidate η) :
    (match found with
      | some refusal => throw refusal
      | none => modify (·.add c) : ExceptT Refusal (StateM (DispatchTable η)) Unit).run.run t =
      match found with
      | some refusal => (.error refusal, t)
      | none => (.ok (), t.add c) := by
  cases found <;> rfl

theorem declare_of_candidate (described : candidateOf vocabulary d = .ok c) :
    t.declare vocabulary d =
      match conflict? (t.candidates c.route) c with
      | some refusal => .error refusal
      | none => .ok (t.add c) := by
  unfold declare
  rw [described]
  rfl

/-- A registration does to the table what a declaration does, and nothing if it is refused. -/
theorem run_register (vocabulary : Vocabulary) (t : DispatchTable η) (d : Declaration η) :
    (register vocabulary d).run.run t =
      match t.declare vocabulary d with
      | .ok u => (.ok (), u)
      | .error refusal => (.error refusal, t) := by
  unfold register
  cases described : candidateOf vocabulary d with
  | error refusal =>
    unfold declare
    rw [described]
    rfl
  | ok c =>
    have settled := run_settle (conflict? ((t.openRoute c.route).candidates c.route) c)
      (t.openRoute c.route) c
    refine Eq.trans settled ?_
    rw [candidates_openRoute, declare_of_candidate described]
    cases conflict : conflict? (t.candidates c.route) c with
    | some refusal => exact congrArg (Prod.mk _) (openRoute_of_conflict conflict)
    | none => exact congrArg (Prod.mk _) (add_openRoute t c)

theorem predicates_of_predicateGuards {predicates : List (String × Bool)} {gs : List Guard}
    (described : predicateGuards vocabulary predicates = .ok gs) :
    List.Forall₂ (fun p g => ∃ q, vocabulary.meaning p.1 = .ok q ∧ g = Guard.predicate q p.2)
      predicates gs := by
  induction predicates generalizing gs with
  | nil =>
    obtain rfl : [] = gs := by simpa [predicateGuards] using described
    exact .nil
  | cons p predicates ih =>
    rw [predicateGuards] at described
    cases known : vocabulary.meaning p.1 with
    | error refusal => simp [known] at described
    | ok q =>
      cases rest : predicateGuards vocabulary predicates with
      | error refusal => simp [known, rest, Except.map] at described
      | ok hs =>
        obtain rfl : Guard.predicate q p.2 :: hs = gs := by
          simpa [known, rest, Except.map] using described
        exact .cons ⟨q, known, rfl⟩ (ih rest)

/-- What a declaration describes has names for itself and for all its flags. -/
theorem describes_of_candidateOf (described : candidateOf vocabulary d = .ok c) :
    Describes vocabulary d c ∧ Text.isBlank c.name = false ∧
      ∀ name enabled, .flag name enabled ∈ c.guards.guards → Text.isBlank name = false := by
  obtain ⟨named, flags, predicates, hflags, hpredicates, rfl⟩ := candidateOf_eq_ok_iff.mp described
  obtain ⟨given, rfl⟩ := flagGuards_eq_ok_iff.mp hflags
  have looked := predicates_of_predicateGuards hpredicates
  refine ⟨⟨rfl, rfl, rfl, rfl, ⟨predicates, looked, Guard.perm_cheapestFirst _⟩,
    Guard.pairwise_cheapestFirst _⟩, named, fun name enabled mem => ?_⟩
  rcases List.mem_append.mp (Guard.mem_cheapestFirst.mp mem) with mem | mem
  · obtain ⟨f, hf, same⟩ := List.mem_map.mp mem
    cases same
    exact given f hf
  · obtain ⟨p, -, q, -, same⟩ := (mem_of_predicateGuards hpredicates).mp mem
    cases same

theorem routeKeys_add (t : DispatchTable η) (c : Candidate η) (k : RouteKey) :
    k ∈ (t.add c).routeKeys ↔ k = c.route ∨ k ∈ t.routeKeys := by
  unfold routeKeys add
  rw [SortedMap.mem_keys_iff, SortedMap.mem_keys_iff, SortedMap.contains, SortedMap.get?_insert]
  by_cases same : c.route = k
  · simp [same]
  · simp [same, Ne.symm same, SortedMap.contains]

theorem appended_add (t : DispatchTable η) (c : Candidate η) : Appended t c (t.add c) :=
  ⟨candidates_add t c, routeKeys_add t c⟩

theorem unfit_of_refused {refusal : Refusal} (refused : t.declare vocabulary d = .error refusal) :
    Unfit vocabulary t d := by
  by_contra fit
  have named : Text.isBlank d.name = false := by
    simpa using fun blank => fit (.blankName blank)
  have flags : ∀ f ∈ d.flags, Text.isBlank f.1 = false := fun f mem => by
    simpa using fun blank => fit (.blankFlag mem blank)
  have known : ∀ p ∈ d.predicates, ∃ q, vocabulary.meaning p.1 = .ok q := fun p mem =>
    not_not.mp fun none => fit (.unknown mem none)
  obtain ⟨predicates, looked⟩ := predicateGuards_isOk_iff.mpr known
  have described := candidateOf_eq_ok_iff.mpr
    ⟨named, _, predicates, flagGuards_eq_ok_iff.mpr ⟨flags, rfl⟩, looked, rfl⟩
  have describes := (describes_of_candidateOf described).1
  have free : ∀ other ∈ t.candidates d.route, Beside other _ := fun other mem =>
    not_not.mp fun clash => fit (.conflict describes mem clash)
  have taken := declare_eq_ok_iff.mpr ⟨_, described, free, rfl⟩
  rw [taken] at refused
  cases refused

/-- A registration is refused for a reason and nothing has changed, or the candidate it declares is at
the end of its route. -/
theorem register_cases (vocabulary : Vocabulary) (t : DispatchTable η) (d : Declaration η) :
    (∃ refusal, (register vocabulary d).run.run t = (.error refusal, t) ∧ Unfit vocabulary t d) ∨
      ∃ c u, (register vocabulary d).run.run t = (.ok (), u) ∧
        candidateOf vocabulary d = .ok c ∧ (∀ other ∈ t.candidates c.route, Beside other c) ∧
        t.add c = u := by
  have run := run_register vocabulary t d
  cases declared : t.declare vocabulary d with
  | error refusal => exact .inl ⟨refusal, by rw [run, declared], unfit_of_refused declared⟩
  | ok u =>
    obtain ⟨c, described, free, taken⟩ := declare_eq_ok_iff.mp declared
    exact .inr ⟨c, u, by rw [run, declared], described, free, taken⟩

/-! ### Runs of registrations -/

theorem sound_empty (vocabulary : Vocabulary) : Sound vocabulary [] (empty : DispatchTable η) where
  nonempty _ mem := nomatch mem
  route _ _ mem := nomatch mem
  declared _ _ mem := nomatch mem
  named _ _ mem := nomatch mem
  flags _ _ mem := nomatch mem
  apart _ := .nil

theorem Sound.mono (sound : Sound vocabulary ds t) {es : List (Declaration η)} (sub : ds ⊆ es) :
    Sound vocabulary es t where
  nonempty := sound.nonempty
  route := sound.route
  declared k c mem :=
    let ⟨d, hd, described⟩ := sound.declared k c mem
    ⟨d, sub hd, described⟩
  named := sound.named
  flags := sound.flags
  apart := sound.apart

theorem mem_candidates_add {k : RouteKey} {e : Candidate η} :
    e ∈ (t.add c).candidates k ↔ e ∈ t.candidates k ∨ c.route = k ∧ e = c := by
  rw [candidates_add]
  by_cases same : c.route = k <;> simp [same]

theorem Sound.add (sound : Sound vocabulary ds t) (declared : d ∈ ds)
    (described : candidateOf vocabulary d = .ok c)
    (free : ∀ other ∈ t.candidates c.route, Beside other c) : Sound vocabulary ds (t.add c) := by
  obtain ⟨describes, named, flags⟩ := describes_of_candidateOf described
  constructor
  case nonempty =>
    intro k mem
    rw [candidates_add]
    split
    · exact List.append_ne_nil_of_right_ne_nil _ (List.cons_ne_nil _ _)
    · next other =>
      rcases (routeKeys_add t c k).mp mem with rfl | mem
      · exact absurd rfl other
      · exact sound.nonempty k mem
  case route =>
    intro k e mem
    rcases mem_candidates_add.mp mem with mem | ⟨same, rfl⟩
    · exact sound.route k e mem
    · exact same
  case declared =>
    intro k e mem
    rcases mem_candidates_add.mp mem with mem | ⟨-, rfl⟩
    · exact sound.declared k e mem
    · exact ⟨d, declared, describes⟩
  case named =>
    intro k e mem
    rcases mem_candidates_add.mp mem with mem | ⟨-, rfl⟩
    · exact sound.named k e mem
    · exact named
  case flags =>
    intro k e mem
    rcases mem_candidates_add.mp mem with mem | ⟨-, rfl⟩
    · exact sound.flags k e mem
    · exact flags
  case apart =>
    intro k
    rw [candidates_add]
    split
    · next same =>
      subst same
      refine List.pairwise_append.mpr ⟨sound.apart _, List.pairwise_singleton _ _, ?_⟩
      intro other mem e last
      obtain rfl := List.mem_singleton.mp last
      obtain ⟨names, exclusive⟩ := free other mem
      exact ⟨names, exclusive, by rwa [GuardSet.exclusive_comm]⟩
    · exact sound.apart k

theorem Sound.afterRegister (sound : Sound vocabulary ds t) (d : Declaration η) :
    Sound vocabulary (ds ++ [d]) (afterRegister vocabulary t d) := by
  have larger := sound.mono (List.subset_append_left ds [d])
  unfold DispatchTable.afterRegister
  rcases register_cases vocabulary t d with ⟨refusal, run, -⟩ | ⟨c, u, run, described, free, rfl⟩
  · rw [run]
    exact larger
  · rw [run]
    exact larger.add (List.mem_append_right ds (List.mem_singleton_self d)) described free

theorem Sound.registerAll {es : List (Declaration η)} (sound : Sound vocabulary ds t) :
    Sound vocabulary (ds ++ es) (registerAll vocabulary t es) := by
  unfold DispatchTable.registerAll
  induction es generalizing ds t with
  | nil => rwa [List.append_nil]
  | cons e es ih =>
    have rest := ih (sound.afterRegister e)
    rwa [List.append_assoc] at rest

/-- Every table that registrations lead to is sound, whatever they were and whether they were taken up
or refused. The next one is refused for a reason and leaves the table as it was, or puts the candidate
it declares at the end of its route and changes nothing else. -/
theorem registerAll_sound (vocabulary : Vocabulary) (ds : List (Declaration η)) :
    let t := registerAll vocabulary empty ds
    Sound vocabulary ds t ∧
      ∀ d, (∃ refusal, (register vocabulary d).run.run t = (.error refusal, t) ∧ Unfit vocabulary t d) ∨
        ∃ c u, (register vocabulary d).run.run t = (.ok (), u) ∧ Describes vocabulary d c ∧
          Appended t c u := by
  intro t
  refine ⟨(sound_empty vocabulary).registerAll, fun d => ?_⟩
  rcases register_cases vocabulary t d with refused | ⟨c, u, run, described, -, rfl⟩
  · exact .inl refused
  · exact .inr ⟨c, _, run, (describes_of_candidateOf described).1, appended_add t c⟩

end LtiLaunch.DispatchTable
