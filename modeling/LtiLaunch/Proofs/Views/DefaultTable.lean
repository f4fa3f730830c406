import LtiLaunch.Proofs.Dispatch.Declared
import LtiLaunch.Views.Default

/-!
# The default table

The candidates that the default views describe, and which of them the guards let through. A fresh
table takes all of them up.
-/

namespace LtiLaunch

variable {σ : Type}

theorem Vocabulary.meaning_builtin (p : RequestPredicate) : builtin.meaning p.name = .ok p := by
  rcases p with (source | _) | _
  · cases source <;> decide
  · decide
  · decide

namespace DefaultViews

/-- The candidate of a default view, given the predicates that its declaration names. -/
def candidate (x : Declaration (Handler σ)) (predicates : List (RequestPredicate × Bool)) :
    Candidate (Handler σ) where
  name := x.name
  route := x.route
  guards := .ofList (.flag newOauth true :: predicates.map fun p => .predicate p.1 p.2)
  preparations := x.preparations
  handler := x.handler

def selectionCandidate (v : Settings) (b : Backend σ) : Candidate (Handler σ) :=
  candidate (contentItemSelection v b) [(.mayConfigure, true)]

def configuredCandidate (b : Backend σ) (source : DocumentSource) : Candidate (Handler σ) :=
  candidate (configured b (RequestPredicate.document (.exactly source)).name)
    [(.document (.exactly source), true)]

def unconfiguredCandidate (v : Settings) (b : Backend σ) : Candidate (Handler σ) :=
  candidate (unconfigured v b) [(.document .configured, false), (.mayConfigure, true)]

def unauthorizedCandidate (b : Backend σ) : Candidate (Handler σ) :=
  candidate (unauthorized b) [(.document .configured, false), (.mayConfigure, false)]

def launchCandidates (v : Settings) (b : Backend σ) : List (Candidate (Handler σ)) :=
  [.onRecord, .canvasFile, .url, .vitalSourceBook].map (configuredCandidate b) ++
    [unconfiguredCandidate v b, unauthorizedCandidate b]

def candidates (v : Settings) (b : Backend σ) : List (Candidate (Handler σ)) :=
  selectionCandidate v b :: launchCandidates v b

/-! ### The table -/

theorem predicateGuards_builtin (predicates : List (RequestPredicate × Bool)) :
    DispatchTable.predicateGuards .builtin (predicates.map fun p => (p.1.name, p.2)) =
      .ok (predicates.map fun p => .predicate p.1 p.2) := by
  induction predicates with
  | nil => rfl
  | cons p predicates ih =>
    rw [List.map_cons, DispatchTable.predicateGuards, Vocabulary.meaning_builtin, ih]
    rfl

theorem candidateOf_eq {x : Declaration (Handler σ)} {predicates : List (RequestPredicate × Bool)}
    (named : Text.isBlank x.name = false) (flags : x.flags = [(newOauth, true)])
    (names : x.predicates = predicates.map fun p => (p.1.name, p.2)) :
    DispatchTable.candidateOf .builtin x = .ok (candidate x predicates) := by
  refine DispatchTable.candidateOf_eq_ok_iff.mpr
    ⟨named, [.flag newOauth true], predicates.map fun p => .predicate p.1 p.2, ?_, ?_, rfl⟩
  · rw [flags]
    exact DispatchTable.flagGuards_eq_ok_iff.mpr ⟨by decide, rfl⟩
  · rw [names]
    exact predicateGuards_builtin predicates

theorem candidateOf_configured (b : Backend σ) (source : DocumentSource) :
    DispatchTable.candidateOf .builtin
        (configured b (RequestPredicate.document (.exactly source)).name) =
      .ok (configuredCandidate b source) := by
  refine candidateOf_eq ?_ rfl rfl
  show Text.isBlank ((RequestPredicate.document (.exactly source)).name ++ "_basic_lti_launch") =
    false
  cases source <;> decide

theorem candidateOf_declarations (v : Settings) (b : Backend σ) :
    List.Forall₂ (fun x c => DispatchTable.candidateOf .builtin x = .ok c) (declarations v b)
      (candidates v b) := by
  refine .cons (candidateOf_eq ?_ rfl rfl) ?_
  · show Text.isBlank "content_item_selection" = false
    decide
  refine .cons (candidateOf_configured b .onRecord) (.cons (candidateOf_configured b .canvasFile) ?_)
  refine .cons (candidateOf_configured b .url) (.cons (candidateOf_configured b .vitalSourceBook) ?_)
  refine .cons (candidateOf_eq ?_ rfl rfl) (.cons (candidateOf_eq ?_ rfl rfl) .nil)
  · show Text.isBlank "unconfigured_basic_lti_launch" = false
    decide
  · show Text.isBlank "unconfigured_basic_lti_launch_not_authorized" = false
    decide

theorem compatible_candidates (v : Settings) (b : Backend σ) :
    (candidates v b).Pairwise DispatchTable.Compatible := by
  unfold DispatchTable.Compatible DispatchTable.Beside
  exact of_decide_eq_true rfl

def table (v : Settings) (b : Backend σ) : DispatchTable (Handler σ) :=
  (candidates v b).foldl DispatchTable.add .empty

theorem addTo_empty (v : Settings) (b : Backend σ) :
    addTo .builtin v b .empty = .ok (table v b) :=
  DispatchTable.declareAll_empty_eq_ok_iff.mpr
    ⟨candidates v b, candidateOf_declarations v b, compatible_candidates v b, rfl⟩

theorem exclusive_table (v : Settings) (b : Backend σ) (k : RouteKey) :
    Answers.Exclusive ((table v b).candidates k) :=
  DispatchTable.exclusive_candidates (compatible_candidates v b) k

theorem candidates_table_get (v : Settings) (b : Backend σ) (route : Route) :
    (table v b).candidates ⟨route, .get⟩ = [] := by
  rw [table, DispatchTable.candidates_ofList]
  cases route <;> rfl

theorem candidates_table_ltiLaunches (v : Settings) (b : Backend σ) :
    (table v b).candidates (.post .ltiLaunches) = launchCandidates v b := by
  rw [table, DispatchTable.candidates_ofList]
  rfl

theorem candidates_table_contentItemSelection (v : Settings) (b : Backend σ) :
    (table v b).candidates (.post .contentItemSelection) = [selectionCandidate v b] := by
  rw [table, DispatchTable.candidates_ofList]
  rfl

theorem configuredCandidate_mem (v : Settings) (b : Backend σ) (source : DocumentSource) :
    configuredCandidate b source ∈ launchCandidates v b := by
  refine List.mem_append_left _ (List.mem_map_of_mem ?_)
  cases source <;> decide

theorem mem_launchCandidates {v : Settings} {b : Backend σ} {c : Candidate (Handler σ)} :
    c ∈ launchCandidates v b ↔
      (∃ source, c = configuredCandidate b source) ∨ c = unconfiguredCandidate v b ∨
        c = unauthorizedCandidate b := by
  constructor
  · intro mem
    simp only [launchCandidates, List.mem_append, List.mem_map, List.mem_cons,
      List.not_mem_nil, or_false] at mem
    rcases mem with ⟨source, -, rfl⟩ | last
    · exact .inl ⟨source, rfl⟩
    · exact .inr last
  · rintro (⟨source, rfl⟩ | rfl | rfl)
    · exact configuredCandidate_mem v b source
    all_goals simp [launchCandidates]

theorem exists_eq_candidate {v : Settings} {b : Backend σ} {c : Candidate (Handler σ)}
    {k : RouteKey} (mem : c ∈ (table v b).candidates k) : ∃ x predicates, c = candidate x predicates := by
  rw [table, DispatchTable.candidates_ofList] at mem
  rcases List.mem_cons.mp (List.mem_filter.mp mem).1 with rfl | mem
  · exact ⟨_, _, rfl⟩
  · rcases mem_launchCandidates.mp mem with ⟨source, rfl⟩ | rfl | rfl <;> exact ⟨_, _, rfl⟩

/-! ### The guards -/

variable {a : Answers} {r : LaunchRequest} {x : Declaration (Handler σ)}
  {predicates : List (RequestPredicate × Bool)}

theorem mem_guards_candidate {g : Guard} :
    g ∈ (candidate x predicates).guards.guards ↔
      g = .flag newOauth true ∨ ∃ p ∈ predicates, .predicate p.1 p.2 = g := by
  rw [candidate, GuardSet.mem_ofList, List.mem_cons, List.mem_map]

theorem accepts_candidate_iff :
    a.accepts r (candidate x predicates) = .ok true ↔
      a.flag newOauth r = true ∧ ∀ p ∈ predicates, a.guardHolds r (.predicate p.1 p.2) = .ok true := by
  rw [Answers.accepts, Answers.allHold_eq_true_iff]
  simp only [mem_guards_candidate]
  constructor
  · intro holds
    have flag := holds _ (.inl rfl)
    exact ⟨by simpa [Answers.guardHolds] using flag, fun p mem => holds _ (.inr ⟨p, mem, rfl⟩)⟩
  · rintro ⟨flag, holds⟩ g (rfl | ⟨p, mem, rfl⟩)
    · simp [Answers.guardHolds, flag]
    · exact holds p mem

end DefaultViews

end LtiLaunch
