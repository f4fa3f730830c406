import LtiLaunch.Assignment.Predicate
import LtiLaunch.Text.Find

/-!
# Guards

A guard is a condition on a request. A guard set keeps its guards cheapest first: flags, then the
question whether the user may configure, then questions about the document, which may have to
be looked up elsewhere. Two sets are exclusive when some guard of one conflicts with one of the other.
-/

namespace LtiLaunch

inductive Guard
  | flag (name : String) (enabled : Bool)
  | predicate (predicate : RequestPredicate) (expected : Bool)
  deriving DecidableEq, Repr

namespace Guard

/-- How costly the guard is to evaluate, compared with others. -/
def cost : Guard → Nat
  | flag _ _ => 0
  | predicate .mayConfigure _ => 1
  | predicate (.document _) _ => 2

/-- Whether no request can pass both guards. -/
def conflicts : Guard → Guard → Bool
  | flag name enabled, flag name' enabled' => name == name' && enabled != enabled'
  | predicate p expected, predicate q expected' => p.excludes expected q expected'
  | _, _ => false

def text : Guard → String
  | flag name enabled => "feature_flag:" ++ name ++ "=" ++ toString enabled
  | predicate p expected => p.name ++ "=" ++ toString expected

/-- The guards with the cheapest first; guards of equal cost keep their order. -/
def cheapestFirst (guards : List Guard) : List Guard :=
  guards.filter (·.cost == 0) ++ guards.filter (·.cost == 1) ++ guards.filter (·.cost == 2)

theorem cost_le_two (g : Guard) : g.cost ≤ 2 := by
  rcases g with _ | ⟨_ | _, _⟩ <;> simp [cost]

theorem pairwise_cheapestFirst (guards : List Guard) :
    (cheapestFirst guards).Pairwise (fun g h => g.cost ≤ h.cost) := by
  have same : ∀ n, (guards.filter (·.cost == n)).Pairwise (fun g h => g.cost ≤ h.cost) := by
    intro n
    refine List.Pairwise.imp_of_mem (R := fun _ _ => True) ?_ (List.pairwise_of_forall (by simp))
    intro g h hg hh _
    simp only [List.mem_filter, beq_iff_eq] at hg hh
    omega
  rw [cheapestFirst, List.pairwise_append, List.pairwise_append]
  refine ⟨⟨same 0, same 1, ?_⟩, same 2, ?_⟩
  · intro g hg h hh
    simp only [List.mem_filter, beq_iff_eq] at hg hh
    omega
  · intro g hg h hh
    simp only [List.mem_append, List.mem_filter, beq_iff_eq] at hg hh
    omega

theorem mem_cheapestFirst {g : Guard} {guards : List Guard} :
    g ∈ cheapestFirst guards ↔ g ∈ guards := by
  have := cost_le_two g
  simp only [cheapestFirst, List.mem_append, List.mem_filter, beq_iff_eq]
  constructor
  · rintro ((⟨h, _⟩ | ⟨h, _⟩) | ⟨h, _⟩) <;> exact h
  · intro h
    rcases Nat.lt_trichotomy g.cost 1 with hc | hc | hc
    · exact .inl (.inl ⟨h, by omega⟩)
    · exact .inl (.inr ⟨h, hc⟩)
    · exact .inr ⟨h, by omega⟩

theorem perm_cheapestFirst (guards : List Guard) : (cheapestFirst guards).Perm guards := by
  induction guards with
  | nil => exact .refl _
  | cons g gs ih =>
    have bound := g.cost_le_two
    have placed : (cheapestFirst (g :: gs)).Perm (g :: cheapestFirst gs) := by
      rcases (by omega : g.cost = 0 ∨ g.cost = 1 ∨ g.cost = 2) with cost | cost | cost
      · simp [cheapestFirst, cost]
      · simp [cheapestFirst, cost]
      · have moved : (gs.filter (·.cost == 0) ++ gs.filter (·.cost == 1) ++
            g :: gs.filter (·.cost == 2)).Perm (g :: cheapestFirst gs) := List.perm_middle
        simpa [cheapestFirst, cost] using moved
    exact placed.trans (ih.cons g)

end Guard

/-- Guards in the order in which they are evaluated. -/
structure GuardSet where
  guards : List Guard
  ordered : guards.Pairwise (fun g h => g.cost ≤ h.cost)

namespace GuardSet

instance : DecidableEq GuardSet := fun a b =>
  decidable_of_iff (a.guards = b.guards)
    ⟨fun h => by cases a; cases b; simp_all, fun h => by rw [h]⟩

def ofList (guards : List Guard) : GuardSet :=
  ⟨Guard.cheapestFirst guards, Guard.pairwise_cheapestFirst guards⟩

def size (s : GuardSet) : Nat := s.guards.length

/-- Whether a guard of `s` conflicts with a guard of `t`, so that no request passes both sets. -/
def exclusive (s t : GuardSet) : Bool :=
  s.guards.any (fun g => t.guards.any (fun h => g.conflicts h))

def text (s : GuardSet) : String := "[" ++ Text.joinWith ", " (s.guards.map Guard.text) ++ "]"

end GuardSet

end LtiLaunch
