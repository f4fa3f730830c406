import LtiLaunch.Proofs.Json.Canonical

/-!
# Paths into a value

One value completes another if it shows the same wherever the other shows anything, and where an
object of the other lacks a member, it shows just what the defaults have there. A record is completed
field by field.
-/

namespace LtiLaunch.Json

/-- A step into an object or into an array. -/
inductive Step
  | member (name : String)
  | element (index : Nat)
  deriving DecidableEq, Repr

def Step.next? : Step → Json → Option Json
  | member name, v => v.member? name
  | element i, arr xs => xs[i]?
  | element _, _ => none

def without (name : String) : Json → Json
  | obj ms => obj (ms.filter fun m => m.1 != name)
  | v => v

/-- What a path leads to, if it leads anywhere. -/
def at? : Json → List Step → Option Json
  | v, [] => some v
  | v, s :: p => (s.next? v).bind (at? · p)

/-- Two values show the same before one goes into them: both are objects, or arrays of one length,
or else they are the same scalar. -/
def Alike : Json → Json → Prop
  | obj _, obj _ => True
  | arr xs, arr ys => xs.length = ys.length
  | x, y => x = y

theorem Alike.refl (v : Json) : Alike v v := by
  cases v with
  | arr | obj => trivial
  | _ => rfl

/-- The value has nothing inside. -/
def Scalar : Json → Prop
  | arr _ | obj _ => False
  | _ => True

theorem Scalar.at?_ne_obj {v : Json} (scalar : v.Scalar) (p : List Step)
    (ms : List (String × Json)) : v.at? p ≠ some (obj ms) := by
  intro found
  cases p with
  | nil =>
    cases found
    exact scalar
  | cons s p =>
    obtain ⟨x, inside, -⟩ := Option.bind_eq_some_iff.mp found
    cases v with
    | arr | obj => exact scalar
    | _ => cases s <;> cases inside

theorem at?_singleton (v : Json) (s : Step) : v.at? [s] = s.next? v :=
  Option.bind_fun_some _

theorem at?_cons {v x : Json} {s : Step} (inside : s.next? v = some x) (p : List Step) :
    v.at? (s :: p) = x.at? p := by
  rw [at?, inside]
  rfl

/-- `w` has all that `v` has, and where an object of `v` lacks a member, `w` has what `fill` has. -/
structure Completes (fill : List Step → Option Json) (v w : Json) : Prop where
  kept : ∀ p x, v.at? p = some x → ∃ y, w.at? p = some y ∧ Alike x y
  filled : ∀ p ms name, v.at? p = some (obj ms) → (obj ms).member? name = none →
    w.at? (p ++ [.member name]) = fill (p ++ [.member name])

/-- The value of a field completes what was given for the field, or it is the default. -/
def CompletesField (fill : List Step → Option Json) : Option Json → Json → Prop
  | some v, w => Completes fill v w
  | none, w => fill [] = some w

theorem member?_eq_none {ms : List (String × Json)} {name : String}
    (foreign : name ∉ ms.map Prod.fst) : (obj ms).member? name = none :=
  Option.not_isSome_iff_eq_none.mp (mt member?_isSome_iff.mp foreign)

theorem at?_eq_none {ms : List (String × Json)} {names : List String} {name : String}
    (foreign : name ∉ names) (all : ∀ m ∈ ms, m.1 ∈ names) :
    (obj ms).at? [.member name] = none := by
  rw [at?_singleton]
  refine member?_eq_none fun mem => foreign ?_
  obtain ⟨m, listed, rfl⟩ := List.mem_map.mp mem
  exact all m listed

namespace Completes

variable {fill : List Step → Option Json} {v w : Json}

theorem scalar (same : v = w) (scalar : w.Scalar) : Completes fill v w where
  kept _ x found := ⟨x, same ▸ found, .refl x⟩
  filled p ms _ found _ := absurd found (same ▸ scalar.at?_ne_obj p ms)

/-- A map of scalars has no defaults for what it lacks. -/
theorem map {ms : List (String × Json)} (same : v = obj ms) (scalar : ∀ m ∈ ms, m.2.Scalar)
    (bare : ∀ name, fill [.member name] = none) : Completes fill v (obj ms) where
  kept _ x found := ⟨x, same ▸ found, .refl x⟩
  filled p ns name found absent := by
    subst same
    match p, found with
    | [], found =>
      cases found
      rw [List.nil_append, bare, at?_singleton]
      exact absent
    | .member given :: p, found =>
      obtain ⟨x, inside, found⟩ := Option.bind_eq_some_iff.mp found
      exact absurd found ((scalar _ (mem_of_member? inside)).at?_ne_obj p ns)
    | .element _ :: _, found => cases found

theorem elements {inner : List Step → Option Json} {xs ys : List Json}
    (each : List.Forall₂ (Completes inner) xs ys)
    (inside : ∀ i p, fill (.element i :: p) = inner p) : Completes fill (arr xs) (arr ys) := by
  obtain ⟨length, each⟩ := List.forall₂_iff_get.mp each
  -- what stands at an index of the one list, and what completes it at the same index of the other
  have at_index {i : Nat} {x : Json} (given : xs[i]? = some x) :
      ∃ y, (Step.element i).next? (arr ys) = some y ∧ Completes inner x y := by
    obtain ⟨bound, rfl⟩ := List.getElem?_eq_some_iff.mp given
    exact ⟨_, List.getElem?_eq_getElem (length ▸ bound), each i bound (length ▸ bound)⟩
  constructor
  · intro p x found
    match p, found with
    | [], found =>
      cases found
      exact ⟨arr ys, rfl, length⟩
    | .member _ :: _, found => cases found
    | .element i :: p, found =>
      obtain ⟨z, given, found⟩ := Option.bind_eq_some_iff.mp found
      obtain ⟨w, value, completes⟩ := at_index given
      rw [at?_cons value]
      exact completes.kept p x found
  · intro p ms name found absent
    match p, found with
    | [], found => cases found
    | .member _ :: _, found => cases found
    | .element i :: p, found =>
      obtain ⟨z, given, found⟩ := Option.bind_eq_some_iff.mp found
      obtain ⟨w, value, completes⟩ := at_index given
      rw [List.cons_append, at?_cons value, inside]
      exact completes.filled p ms name found absent

theorem members {ms fields : List (String × Json)} {names : List String}
    (known : ∀ name x, (obj ms).member? name = some x → name ∈ names)
    (others : ∀ name, name ∉ names → fill [.member name] = none)
    (named : fields.map Prod.fst = names)
    (each : ∀ name w, (name, w) ∈ fields →
      CompletesField (fun p => fill (.member name :: p)) ((obj ms).member? name) w) :
    Completes fill (obj ms) (obj fields) := by
  subst named
  have field {name : String} {x : Json} (given : (obj ms).member? name = some x) :
      ∃ y, (Step.member name).next? (obj fields) = some y ∧
        Completes (fun p => fill (.member name :: p)) x y := by
    obtain ⟨y, value⟩ := Option.isSome_iff_exists.mp
      (member?_isSome_iff.mpr (known name x given))
    have completes := each name y (mem_of_member? value)
    rw [given] at completes
    exact ⟨y, value, completes⟩
  constructor
  · intro p x found
    match p, found with
    | [], found =>
      cases found
      exact ⟨obj fields, rfl, trivial⟩
    | .member name :: p, found =>
      obtain ⟨z, given, found⟩ := Option.bind_eq_some_iff.mp found
      obtain ⟨w, value, completes⟩ := field given
      rw [at?_cons value]
      exact completes.kept p x found
    | .element _ :: _, found => cases found
  · intro p ns name found absent
    match p, found with
    | [], found =>
      cases found
      rw [List.nil_append, at?_singleton]
      by_cases own : name ∈ fields.map Prod.fst
      · obtain ⟨w, value⟩ := Option.isSome_iff_exists.mp (member?_isSome_iff.mpr own)
        have default := each name w (mem_of_member? value)
        rw [absent] at default
        exact value.trans default.symm
      · exact (member?_eq_none own).trans (others name own).symm
    | .member given :: p, found =>
      obtain ⟨z, inside, found⟩ := Option.bind_eq_some_iff.mp found
      obtain ⟨w, value, completes⟩ := field inside
      rw [List.cons_append, at?_cons value]
      exact completes.filled p ns name found absent
    | .element _ :: _, found => cases found

end Completes

/-! ### Fields and lists -/

section

variable {α : Type} {fill inner : List Step → Option Json} {read : Json → Option α}
  {v : Json} {given : Option Json} {d a : α}

theorem completesField_of_required (write : α → Json)
    (back : ∀ v, given = some v → read v = some a → Completes fill v (write a))
    (found : required read given = some a) : CompletesField fill given (write a) := by
  cases given with
  | none => cases found
  | some v => exact back v rfl found

theorem completesField_of_withDefault (write : α → Json)
    (back : ∀ v, given = some v → read v = some a → Completes fill v (write a))
    (default : fill [] = some (write d))
    (found : withDefault d read given = some a) : CompletesField fill given (write a) := by
  cases given with
  | none =>
    cases found
    exact default
  | some v => exact back v rfl found

theorem completes_of_listOf? (write : α → Json) {as : List α} (found : listOf? read v = some as)
    (back : ∀ xs, v = arr xs → ∀ x ∈ xs, ∀ a, read x = some a → Completes inner x (write a))
    (inside : ∀ i p, fill (.element i :: p) = inner p) :
    Completes fill v (arr (as.map write)) := by
  cases v with
  | arr xs =>
    refine Completes.elements (List.forall₂_map_right_iff.mpr ?_) inside
    have each := (List.forall₂_and_left (p := (· ∈ xs)) xs as).mpr
      ⟨fun _ mem => mem, forall₂_of_mapM found⟩
    exact each.imp fun x a found => back xs rfl x found.1 a found.2
  | _ => cases found

end

/-! ### Values without a member -/

theorem member?_without {v : Json} {hidden name : String} (other : name ≠ hidden) :
    (v.without hidden).member? name = v.member? name := by
  cases v with
  | obj ms =>
    have passed (m : String × Json) :
        decide ((m.1 != hidden) = true ∧ (m.1 == name) = true) = (m.1 == name) := by
      by_cases same : m.1 = name
      · simp [same, other]
      · simp [same]
    change ((ms.filter _).find? _).map _ = (ms.find? _).map _
    rw [List.find?_filter, funext passed]
  | _ => rfl

theorem ne_of_member?_without {v x : Json} {hidden name : String}
    (given : (v.without hidden).member? name = some x) : name ≠ hidden := by
  cases v with
  | obj ms =>
    have passed := (List.mem_filter.mp (mem_of_member? given)).2
    exact bne_iff_ne.mp passed
  | _ => cases given

end LtiLaunch.Json
