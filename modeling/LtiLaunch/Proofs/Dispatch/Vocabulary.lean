import LtiLaunch.Dispatch.Vocabulary
import LtiLaunch.Proofs.Overlay
import LtiLaunch.Proofs.Utf8

/-!
# Runs of bindings

Names are bound one after the other, and each call is accepted or refused. The first accepted call for
a name decides what the name means, whatever is called later: `get?_registerAll` says it of a run from
any vocabulary, by induction on the calls.
-/

namespace LtiLaunch.Vocabulary

/-- A call to bind a name to a predicate. -/
abbrev Binding := String × RequestPredicate

/-- The vocabulary after a call was accepted or refused. -/
def afterRegister (r : Vocabulary) (b : Binding) : Vocabulary := ((register b.1 b.2).run.run r).2

def registerAll (r : Vocabulary) (bs : List Binding) : Vocabulary := bs.foldl afterRegister r

/-- The calls of a run that are accepted, in their order. -/
def accepted (r : Vocabulary) : List Binding → List Binding
  | [] => []
  | b :: bs =>
    match (register b.1 b.2).run.run r with
    | (.ok (), u) => b :: accepted u bs
    | (.error _, u) => accepted u bs

/-- Every bound name has more than white space in it. -/
def IsNamed (r : Vocabulary) : Prop :=
  ∀ name p, r.bindings.get? name = some p → Text.isBlank name = false

/-- A call is refused: there is no name, or it is bound to another predicate. -/
inductive Bars (r : Vocabulary) (name : String) (p : RequestPredicate) : Prop
  | blank (h : Text.isBlank name = true)
  | taken {q : RequestPredicate} (bound : r.bindings.get? name = some q) (other : q ≠ p)

/-- What holds of every run of calls from `r`, where the calls of `earlier` count as accepted before
them. -/
structure WriteOnce (r : Vocabulary) (earlier : List Binding) : Prop where
  /-- A name means what the first accepted call for it says. -/
  meaning : ∀ bs name, ((r.registerAll bs).meaning name).mapError Refusal.error =
    match (earlier ++ r.accepted bs).lookup name with
    | some p => .ok p
    | none => .error (.configuration ("unknown view predicate '" ++ name ++ "'"))
  refused_iff : ∀ bs name p,
    (∃ refusal u, (register name p).run.run (r.registerAll bs) = (.error refusal, u)) ↔
      Text.isBlank name = true ∨ ∃ q, (r.registerAll bs).meaning name = .ok q ∧ q ≠ p
  refused : ∀ bs name p refusal u,
    (register name p).run.run (r.registerAll bs) = (.error refusal, u) → u = r.registerAll bs
  repeated : ∀ bs name p, (r.registerAll bs).meaning name = .ok p →
    (register name p).run.run (r.registerAll bs) = (.ok (), r.registerAll bs)
  kept : ∀ bs cs name p, (r.registerAll bs).meaning name = .ok p →
    (r.registerAll (bs ++ cs)).meaning name = .ok p
  mem_names : ∀ bs name,
    name ∈ (r.registerAll bs).names ↔ ∃ p, (r.registerAll bs).meaning name = .ok p
  /-- The names stand in the order of their bytes, so each stands there once. -/
  ordered : ∀ bs, (r.registerAll bs).names.Pairwise fun s t =>
    Text.utf8 s.toList < Text.utf8 t.toList
  size : ∀ bs, (r.registerAll bs).size = (r.registerAll bs).names.length

variable {r u : Vocabulary} {name : String} {p q : RequestPredicate} {bs : List Binding}

theorem meaning_eq_ok_iff : r.meaning name = .ok p ↔ r.bindings.get? name = some p := by
  unfold meaning
  cases r.bindings.get? name <;> simp

/-! ### One call -/

/-- What a call does once it is known what the name is bound to. -/
theorem run_settled (found : Option RequestPredicate) (r : Vocabulary) (name : String)
    (p : RequestPredicate) :
    (match found with
      | some q => if q = p then pure () else throw (.taken name q)
      | none => modify fun r => ⟨r.bindings.insert name p⟩ :
        ExceptT Refusal (StateM Vocabulary) Unit).run.run r =
      match found with
      | some q => if q = p then (.ok (), r) else (.error (.taken name q), r)
      | none => (.ok (), ⟨r.bindings.insert name p⟩) := by
  cases found with
  | none => rfl
  | some q =>
    by_cases same : q = p
    · simp only [same, if_true]
      rfl
    · simp only [same, if_false]
      rfl

/-- A call does to the vocabulary what `bind` does, and nothing if it is refused. -/
theorem run_register (r : Vocabulary) (name : String) (p : RequestPredicate) :
    (register name p).run.run r =
      match r.bind name p with
      | .ok u => (.ok (), u)
      | .error refusal => (.error refusal, r) := by
  unfold register bind
  by_cases blank : Text.isBlank name = true
  · rw [if_pos blank, if_pos blank]
    rfl
  · rw [if_neg blank, if_neg blank]
    refine Eq.trans (run_settled (r.bindings.get? name) r name p) ?_
    cases r.bindings.get? name with
    | none => rfl
    | some q => by_cases same : q = p <;> simp only [same, if_true, if_false]

/-- A call is refused, or the name means the predicate already, or it comes to mean it. -/
theorem register_cases (r : Vocabulary) (name : String) (p : RequestPredicate) :
    (∃ refusal, (register name p).run.run r = (.error refusal, r) ∧ Bars r name p) ∨
      Text.isBlank name = false ∧
        ((register name p).run.run r = (.ok (), r) ∧ r.bindings.get? name = some p ∨
          (register name p).run.run r = (.ok (), ⟨r.bindings.insert name p⟩) ∧
            r.bindings.get? name = none) := by
  have run := run_register r name p
  unfold bind at run
  by_cases blank : Text.isBlank name = true
  · rw [if_pos blank] at run
    exact .inl ⟨_, run, .blank blank⟩
  · rw [if_neg blank] at run
    have given : Text.isBlank name = false := by simpa using blank
    cases bound : r.bindings.get? name with
    | none =>
      rw [bound] at run
      exact .inr ⟨given, .inr ⟨run, rfl⟩⟩
    | some q =>
      rw [bound] at run
      by_cases same : q = p
      · subst same
        simp only [if_true] at run
        exact .inr ⟨given, .inl ⟨run, rfl⟩⟩
      · simp only [same, if_false] at run
        exact .inl ⟨_, run, .taken bound same⟩

theorem refused_iff_bars :
    (∃ refusal u, (register name p).run.run r = (.error refusal, u)) ↔ Bars r name p := by
  rcases register_cases r name p with ⟨refusal, run, bars⟩ | ⟨given, ⟨run, bound⟩ | ⟨run, unbound⟩⟩
  · exact ⟨fun _ => bars, fun _ => ⟨refusal, r, run⟩⟩
  all_goals
    rw [run]
    constructor
    · rintro ⟨refusal, u, same⟩
      cases same
  · rintro (blank | ⟨bound', other⟩)
    · simp [given] at blank
    · exact absurd (Option.some.inj (bound'.symm.trans bound)) other
  · rintro (blank | ⟨bound', -⟩)
    · simp [given] at blank
    · cases unbound.symm.trans bound'

theorem eq_of_refused {refusal : Refusal} (run : (register name p).run.run r = (.error refusal, u)) :
    u = r := by
  rcases register_cases r name p with ⟨_, same, -⟩ | ⟨-, ⟨same, -⟩ | ⟨same, -⟩⟩ <;>
    cases run.symm.trans same
  rfl

/-- To bind a name once more to what it means changes nothing. -/
theorem register_of_bound (named : r.IsNamed) (bound : r.bindings.get? name = some p) :
    (register name p).run.run r = (.ok (), r) := by
  rcases register_cases r name p with ⟨refusal, -, bars⟩ | ⟨-, ⟨run, -⟩ | ⟨-, unbound⟩⟩
  · rcases bars with blank | ⟨bound', other⟩
    · simp [named name p bound] at blank
    · exact absurd (Option.some.inj (bound'.symm.trans bound)) other
  · exact run
  · cases unbound.symm.trans bound

theorem IsNamed.afterRegister (named : r.IsNamed) (b : Binding) : (r.afterRegister b).IsNamed := by
  obtain ⟨name, p⟩ := b
  unfold Vocabulary.afterRegister
  rcases register_cases r name p with ⟨refusal, run, -⟩ | ⟨given, ⟨run, -⟩ | ⟨run, -⟩⟩
  · rwa [run]
  · rwa [run]
  · rw [run]
    intro other q bound
    by_cases same : name = other
    · rwa [← same]
    · rw [SortedMap.get?_insert_of_ne _ same] at bound
      exact named other q bound

/-! ### Runs of calls -/

theorem registerAll_cons {o : Except Refusal Unit} (run : (register name p).run.run r = (o, u))
    (bs : List Binding) : r.registerAll ((name, p) :: bs) = u.registerAll bs := by
  rw [registerAll, List.foldl_cons, afterRegister, run]
  rfl

theorem accepted_cons_of_ok (run : (register name p).run.run r = (.ok (), u)) (bs : List Binding) :
    r.accepted ((name, p) :: bs) = (name, p) :: u.accepted bs := by
  rw [accepted, run]

theorem accepted_cons_of_error {refusal : Refusal}
    (run : (register name p).run.run r = (.error refusal, u)) (bs : List Binding) :
    r.accepted ((name, p) :: bs) = u.accepted bs := by
  rw [accepted, run]

theorem registerAll_append (r : Vocabulary) (bs cs : List Binding) :
    r.registerAll (bs ++ cs) = (r.registerAll bs).registerAll cs :=
  List.foldl_append

theorem IsNamed.registerAll (named : r.IsNamed) (bs : List Binding) :
    (r.registerAll bs).IsNamed := by
  induction bs generalizing r with
  | nil => exact named
  | cons b bs ih => exact ih (named.afterRegister b)

/-- What a name was bound to before the run it stays bound to, and otherwise the first call that is
accepted for it decides. -/
theorem get?_registerAll (r : Vocabulary) (bs : List Binding) (name : String) :
    (r.registerAll bs).bindings.get? name =
      (r.bindings.get? name).or ((r.accepted bs).lookup name) := by
  induction bs generalizing r with
  | nil => exact (Option.or_none).symm
  | cons b bs ih =>
    obtain ⟨other, p⟩ := b
    rcases register_cases r other p with ⟨refusal, run, -⟩ | ⟨-, ⟨run, bound⟩ | ⟨run, unbound⟩⟩
    · rw [registerAll_cons run, accepted_cons_of_error run, ih]
    · rw [registerAll_cons run, accepted_cons_of_ok run, ih]
      by_cases same : other = name
      · subst same
        rw [bound, Option.some_or, Option.some_or]
      · rw [SortedMap.lookup_cons_of_ne same]
    · rw [registerAll_cons run, accepted_cons_of_ok run, ih]
      by_cases same : other = name
      · subst same
        rw [SortedMap.get?_insert_self, unbound, List.lookup_cons_self, Option.some_or,
          Option.none_or]
      · rw [SortedMap.get?_insert_of_ne _ same, SortedMap.lookup_cons_of_ne same]

theorem meaning_registerAll_append {cs : List Binding}
    (means : (r.registerAll bs).meaning name = .ok p) :
    (r.registerAll (bs ++ cs)).meaning name = .ok p := by
  rw [meaning_eq_ok_iff] at means ⊢
  rw [registerAll_append, get?_registerAll, means, Option.some_or]

theorem mem_names_iff : name ∈ r.names ↔ ∃ p, r.meaning name = .ok p := by
  unfold names
  simp only [meaning_eq_ok_iff, SortedMap.mem_keys_iff, SortedMap.contains,
    Option.isSome_iff_exists]

/-- Runs from a vocabulary that is itself the outcome of the calls of `earlier`. -/
theorem writeOnce_of_lookup {earlier : List Binding} (named : r.IsNamed)
    (outcome : ∀ name, r.bindings.get? name = earlier.lookup name) : WriteOnce r earlier := by
  constructor
  case meaning =>
    intro bs name
    rw [List.lookup_append, ← outcome, ← get?_registerAll, Vocabulary.meaning]
    cases (r.registerAll bs).bindings.get? name <;> rfl
  case refused_iff =>
    intro bs name p
    rw [refused_iff_bars]
    constructor
    · rintro (blank | ⟨bound, other⟩)
      · exact .inl blank
      · exact .inr ⟨_, meaning_eq_ok_iff.mpr bound, other⟩
    · rintro (blank | ⟨q, means, other⟩)
      · exact .blank blank
      · exact .taken (meaning_eq_ok_iff.mp means) other
  case refused =>
    intro bs name p refusal u run
    exact eq_of_refused run
  case repeated =>
    intro bs name p means
    exact register_of_bound (named.registerAll bs) (meaning_eq_ok_iff.mp means)
  case kept =>
    intro bs cs name p means
    exact meaning_registerAll_append means
  case mem_names =>
    intro bs name
    exact mem_names_iff
  case ordered =>
    intro bs
    exact (SortedMap.pairwise_keys _).imp Text.utf8_lt_of_compare
  case size =>
    intro bs
    exact (List.length_map _).symm

/-- The calls that bind every predicate to its own name. -/
def builtins : List Binding := RequestPredicate.builtin.map fun p => (p.name, p)

theorem registerAll_builtins : registerAll empty builtins = builtin := by
  have same : (registerAll empty builtins).bindings = builtin.bindings := by decide
  exact congrArg Vocabulary.mk same

theorem isNamed_empty : IsNamed empty := by
  intro name p bound
  cases bound

/-- Names are bound once and for all, in runs that begin with no names and in runs that begin with
those of the predicates. -/
theorem writeOnce_empty_builtin : WriteOnce empty [] ∧ WriteOnce builtin builtins := by
  have taken : accepted empty builtins = builtins := by decide
  constructor
  · exact writeOnce_of_lookup isNamed_empty fun name => rfl
  · rw [← registerAll_builtins]
    refine writeOnce_of_lookup (isNamed_empty.registerAll builtins) fun name => ?_
    rw [get?_registerAll, taken]
    exact Option.none_or

end LtiLaunch.Vocabulary
