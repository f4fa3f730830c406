import LtiLaunch.Proofs.Dispatch.PlainSelection

/-!
# Exclusive guard sets

Guards that conflict cannot both pass, and they cost the same. So of two exclusive sets whichever
passes, the other fails at a guard, and it fails there before it looks for a document.
-/

namespace LtiLaunch

variable {η : Type}

theorem SourcePredicate.excludes_comm (p q : SourcePredicate) (x y : Bool) :
    p.excludes x q y = q.excludes y p x := by
  cases p <;> cases q <;> cases x <;> cases y <;> simp [excludes, bne_comm]

theorem RequestPredicate.excludes_comm (p q : RequestPredicate) (x y : Bool) :
    p.excludes x q y = q.excludes y p x := by
  unfold excludes
  by_cases same : p = q
  · rw [if_pos same, if_pos same.symm, bne_comm]
  · rw [if_neg same, if_neg (Ne.symm same)]
    cases p <;> cases q <;> first | rfl | exact SourcePredicate.excludes_comm _ _ _ _

/-- No document gives both answers. -/
theorem SourcePredicate.not_holds_both {p q : SourcePredicate} {x y : Bool} (different : p ≠ q)
    (h : p.excludes x q y = true) (document : Option AssignedDocument)
    (hp : p.holds document = x) : q.holds document ≠ y := by
  rintro rfl
  subst hp
  cases p <;> cases q <;> cases document <;> simp_all [excludes, holds]
  obtain ⟨rfl, rfl⟩ := h
  exact different rfl

theorem Guard.conflicts_comm (g h : Guard) : g.conflicts h = h.conflicts g := by
  cases g <;> cases h <;> simp only [conflicts]
  · rw [BEq.comm, bne_comm]
  · exact RequestPredicate.excludes_comm _ _ _ _

theorem Guard.cost_eq_of_conflicts {g h : Guard} (c : g.conflicts h = true) : g.cost = h.cost := by
  match g, h with
  | .flag _ _, .flag _ _ => rfl
  | .predicate .mayConfigure _, .predicate .mayConfigure _ => rfl
  | .predicate (.document _) _, .predicate (.document _) _ => rfl
  | .predicate .mayConfigure _, .predicate (.document _) _ =>
    simp [conflicts, RequestPredicate.excludes] at c
  | .predicate (.document _) _, .predicate .mayConfigure _ =>
    simp [conflicts, RequestPredicate.excludes] at c

namespace GuardSet

theorem exclusive_iff {s t : GuardSet} :
    s.exclusive t = true ↔ ∃ g ∈ s.guards, ∃ h ∈ t.guards, g.conflicts h = true := by
  simp [exclusive]

theorem exclusive_comm (s t : GuardSet) : s.exclusive t = t.exclusive s := by
  rw [Bool.eq_iff_iff, exclusive_iff, exclusive_iff]
  constructor <;> rintro ⟨g, hg, h, hh, c⟩ <;> exact ⟨h, hh, g, hg, by rwa [Guard.conflicts_comm]⟩

theorem mem_ofList {g : Guard} {gs : List Guard} : g ∈ (ofList gs).guards ↔ g ∈ gs :=
  Guard.mem_cheapestFirst

end GuardSet

namespace Answers

variable {a : Answers} {r : LaunchRequest} {g h : Guard} {gs : List Guard} {e : LaunchError}

theorem guardHolds_of_cheap (cheap : g.cost < 2) : ∃ pass, a.guardHolds r g = .ok pass := by
  match g with
  | .flag _ _ => exact ⟨_, rfl⟩
  | .predicate .mayConfigure _ => exact ⟨_, rfl⟩
  | .predicate (.document _) _ => exact absurd cheap (Nat.lt_irrefl 2)

theorem guardHolds_eq_error_iff : a.guardHolds r g = .error e ↔ g.cost = 2 ∧ a.found r = .error e := by
  match g with
  | .flag _ _ => simp [guardHolds, Guard.cost]
  | .predicate .mayConfigure _ => simp [guardHolds, Guard.cost]
  | .predicate (.document _) _ =>
    unfold guardHolds Guard.cost
    cases a.found r <;> simp [Except.map]

theorem not_guardHolds_of_conflicts (c : g.conflicts h = true) (hg : a.guardHolds r g = .ok true) :
    a.guardHolds r h = .ok false := by
  match g, h with
  | .flag name x, .flag name' y =>
    simp only [Guard.conflicts, Bool.and_eq_true, beq_iff_eq, bne_iff_ne] at c
    obtain ⟨rfl, different⟩ := c
    simp only [guardHolds, Except.ok.injEq, beq_iff_eq] at hg
    subst hg
    simpa [guardHolds] using different
  | .predicate .mayConfigure x, .predicate .mayConfigure y =>
    simp only [Guard.conflicts, RequestPredicate.excludes, if_true, bne_iff_ne] at c
    simp only [guardHolds, Except.ok.injEq, beq_iff_eq] at hg
    subst hg
    simpa [guardHolds] using c
  | .predicate (.document p) x, .predicate (.document q) y =>
    unfold guardHolds at hg ⊢
    cases look : a.found r with
    | error e => simp [look, Except.map] at hg
    | ok document =>
      have hp : p.holds document = x := by simpa [look, Except.map] using hg
      have hq : q.holds document ≠ y := by
        by_cases same : p = q
        · subst same hp
          simpa [Guard.conflicts, RequestPredicate.excludes] using c
        · have c : p.excludes x q y = true := by
            simpa [Guard.conflicts, RequestPredicate.excludes, same] using c
          exact SourcePredicate.not_holds_both same c document hp
      simp [Except.map, hq]
  | .predicate .mayConfigure _, .predicate (.document _) _ =>
    exact absurd (Guard.cost_eq_of_conflicts c) (Nat.ne_of_lt (Nat.lt_succ_self 1))
  | .predicate (.document _) _, .predicate .mayConfigure _ =>
    exact absurd (Guard.cost_eq_of_conflicts c) (Nat.ne_of_gt (Nat.lt_succ_self 1))

theorem allHold_eq_true_iff : a.allHold r gs = .ok true ↔ ∀ g ∈ gs, a.guardHolds r g = .ok true := by
  induction gs with
  | nil => simp [allHold]
  | cons g gs ih =>
    rw [allHold, List.forall_mem_cons]
    cases answer : a.guardHolds r g with
    | error e => simp
    | ok pass => cases pass <;> simp [ih]

/-- Guards in order of cost fail only once all the cheaper ones have passed. -/
theorem of_allHold_eq_error (ordered : gs.Pairwise fun g h => g.cost ≤ h.cost)
    (failed : a.allHold r gs = .error e) :
    (∀ g ∈ gs, g.cost < 2 → a.guardHolds r g = .ok true) ∧ (∃ g ∈ gs, g.cost = 2) ∧
      a.found r = .error e := by
  induction gs with
  | nil => simp [allHold] at failed
  | cons g gs ih =>
    obtain ⟨first, ordered⟩ := List.pairwise_cons.mp ordered
    rw [allHold] at failed
    cases answer : a.guardHolds r g with
    | error e' =>
      obtain rfl : e' = e := by simpa [answer] using failed
      obtain ⟨cost, look⟩ := guardHolds_eq_error_iff.mp answer
      refine ⟨fun h mem cheap => ?_, ⟨g, List.mem_cons_self, cost⟩, look⟩
      have costly : 2 ≤ h.cost := by
        rcases List.mem_cons.mp mem with rfl | mem
        · exact Nat.le_of_eq cost.symm
        · exact cost ▸ first h mem
      omega
    | ok pass =>
      cases pass with
      | false => simp [answer] at failed
      | true =>
        obtain ⟨cheap, ⟨h, mem, cost⟩, look⟩ := ih ordered (by simpa [answer] using failed)
        refine ⟨fun k mem hk => ?_, ⟨h, List.mem_cons_of_mem _ mem, cost⟩, look⟩
        rcases List.mem_cons.mp mem with rfl | mem
        · exact answer
        · exact cheap k mem hk

theorem allHold_eq_error (cheap : ∀ g ∈ gs, g.cost < 2 → a.guardHolds r g = .ok true)
    (costly : ∃ g ∈ gs, g.cost = 2) (look : a.found r = .error e) :
    a.allHold r gs = .error e := by
  induction gs with
  | nil => simp at costly
  | cons g gs ih =>
    rw [allHold]
    by_cases hg : g.cost = 2
    · rw [guardHolds_eq_error_iff.mpr ⟨hg, look⟩]
    · have := Guard.cost_le_two g
      rw [cheap g List.mem_cons_self (by omega)]
      obtain ⟨h, mem, cost⟩ := costly
      rcases List.mem_cons.mp mem with rfl | mem
      · exact absurd cost hg
      · exact ih (fun k mem => cheap k (List.mem_cons_of_mem _ mem)) ⟨h, mem, cost⟩

/-- Only which guards there are decides about guards in order of cost. -/
theorem allHold_congr {hs : List Guard} (ordered : gs.Pairwise fun g h => g.cost ≤ h.cost)
    (ordered' : hs.Pairwise fun g h => g.cost ≤ h.cost) (same : ∀ g, g ∈ gs ↔ g ∈ hs) :
    a.allHold r gs = a.allHold r hs := by
  have pass : a.allHold r gs = .ok true ↔ a.allHold r hs = .ok true := by
    simp only [allHold_eq_true_iff, same]
  have fail : ∀ e, a.allHold r gs = .error e ↔ a.allHold r hs = .error e := by
    intro e
    constructor
    · intro failed
      obtain ⟨cheap, ⟨g, mem, cost⟩, look⟩ := of_allHold_eq_error ordered failed
      exact allHold_eq_error (fun g mem => cheap g ((same g).mpr mem)) ⟨g, (same g).mp mem, cost⟩ look
    · intro failed
      obtain ⟨cheap, ⟨g, mem, cost⟩, look⟩ := of_allHold_eq_error ordered' failed
      exact allHold_eq_error (fun g mem => cheap g ((same g).mp mem)) ⟨g, (same g).mpr mem, cost⟩ look
  cases answer : a.allHold r gs with
  | error e => exact ((fail e).mp answer).symm
  | ok x =>
    cases answer' : a.allHold r hs with
    | error e =>
      have := (fail e).mpr answer'
      simp [answer] at this
    | ok y => cases x <;> cases y <;> simp_all

/-- A guard that is known to fail decides, even if a document cannot be found. -/
theorem allHold_eq_false (ordered : gs.Pairwise fun g h => g.cost ≤ h.cost) (mem : h ∈ gs)
    (refused : a.guardHolds r h = .ok false) : a.allHold r gs = .ok false := by
  cases answer : a.allHold r gs with
  | ok x =>
    cases x with
    | false => rfl
    | true =>
      have pass := allHold_eq_true_iff.mp answer h mem
      simp [refused] at pass
  | error e =>
    obtain ⟨cheap, _, look⟩ := of_allHold_eq_error ordered answer
    have := Guard.cost_le_two h
    by_cases cost : h.cost < 2
    · have pass := cheap h mem cost
      simp [refused] at pass
    · have failed : a.guardHolds r h = .error e :=
        guardHolds_eq_error_iff.mpr ⟨by omega, look⟩
      simp [refused] at failed

variable {s t : GuardSet}

/-- Where one of two exclusive sets passes, the other fails at a guard, without an error. -/
theorem not_allHold_of_exclusive (exclusive : s.exclusive t = true)
    (pass : a.allHold r s.guards = .ok true) : a.allHold r t.guards = .ok false := by
  obtain ⟨g, hg, h, hh, c⟩ := GuardSet.exclusive_iff.mp exclusive
  exact allHold_eq_false t.ordered hh
    (not_guardHolds_of_conflicts c (allHold_eq_true_iff.mp pass g hg))

/-! ### Lists of candidates that exclude each other -/

variable {c : Candidate η} {cs : List (Candidate η)}

def accepts (a : Answers) (r : LaunchRequest) (c : Candidate η) : Except LaunchError Bool :=
  a.allHold r c.guards.guards

/-- Candidates of which no request passes the guards of two. -/
def Exclusive (cs : List (Candidate η)) : Prop :=
  cs.Pairwise fun c d => c.guards.exclusive d.guards = true

theorem firstMatch_of_accepts (exclusive : Exclusive cs) (mem : c ∈ cs)
    (pass : a.accepts r c = .ok true) : a.firstMatch r cs = .ok (some c) := by
  induction cs with
  | nil => cases mem
  | cons d cs ih =>
    obtain ⟨first, exclusive⟩ := List.pairwise_cons.mp exclusive
    rw [firstMatch]
    rcases List.mem_cons.mp mem with rfl | mem
    · rw [show a.allHold r c.guards.guards = .ok true from pass]
    · have others : d.guards.exclusive c.guards = true := first c mem
      rw [GuardSet.exclusive_comm] at others
      rw [not_allHold_of_exclusive others pass]
      exact ih exclusive mem

theorem firstMatch_eq_error (refused : ∀ c ∈ cs, a.accepts r c ≠ .ok true) (mem : c ∈ cs)
    (failed : a.accepts r c = .error e) : a.firstMatch r cs = .error e := by
  have look := (of_allHold_eq_error c.guards.ordered failed).2.2
  induction cs with
  | nil => cases mem
  | cons d cs ih =>
    rw [firstMatch]
    cases answer : a.allHold r d.guards.guards with
    | error e' =>
      have look' := (of_allHold_eq_error d.guards.ordered answer).2.2
      rw [look] at look'
      cases look'
      rfl
    | ok x =>
      cases x with
      | true => exact absurd answer (refused d List.mem_cons_self)
      | false =>
        rcases List.mem_cons.mp mem with rfl | mem
        · simp [accepts, answer] at failed
        · exact ih (fun c mem => refused c (List.mem_cons_of_mem _ mem)) mem

theorem firstMatch_eq_none (refused : ∀ c ∈ cs, a.accepts r c = .ok false) :
    a.firstMatch r cs = .ok none := by
  induction cs with
  | nil => rfl
  | cons d cs ih =>
    rw [firstMatch, show a.allHold r d.guards.guards = .ok false from refused d List.mem_cons_self]
    exact ih fun c mem => refused c (List.mem_cons_of_mem _ mem)

theorem select_of_accepts (exclusive : Exclusive cs) (mem : c ∈ cs)
    (pass : a.accepts r c = .ok true) : a.select r cs = .ok c := by
  rw [select, firstMatch_of_accepts exclusive mem pass]

theorem select_eq_error (refused : ∀ c ∈ cs, a.accepts r c ≠ .ok true) (mem : c ∈ cs)
    (failed : a.accepts r c = .error e) : a.select r cs = .error e := by
  rw [select, firstMatch_eq_error refused mem failed]

theorem select_eq_notFound (refused : ∀ c ∈ cs, a.accepts r c = .ok false) :
    a.select r cs = .error (.notFound ("no launch view matches " ++ r.key.text)) := by
  rw [select, firstMatch_eq_none refused]

end Answers

end LtiLaunch
