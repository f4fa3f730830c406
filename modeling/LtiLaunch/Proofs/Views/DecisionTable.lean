import LtiLaunch.Proofs.Dispatch.Stages
import LtiLaunch.Proofs.Launch.Record
import LtiLaunch.Proofs.Views.DefaultTable
import LtiLaunch.Proofs.Views.Screens

/-!
# The decision table

Which view answers a launch, and what the launch comes to, over every backend that answers as a
function. `Decides` has a field for each row; `addTo_decides` says that the default table decides so.
-/

namespace LtiLaunch

variable {σ : Type}

namespace DefaultViews

def configuredName : DocumentSource → String
  | .onRecord => "db_configured_basic_lti_launch"
  | .url => "url_configured_basic_lti_launch"
  | .canvasFile => "canvas_file_basic_lti_launch"
  | .vitalSourceBook => "vitalsource_book_basic_lti_launch"

def unconfiguredName (mayConfigure : Bool) : String :=
  if mayConfigure then "unconfigured_basic_lti_launch"
  else "unconfigured_basic_lti_launch_not_authorized"

/-- No view is for a launch that is not posted, or with the views disabled, or that is a selection by
someone who may not configure. -/
def Idle (a : Answers) (r : LaunchRequest) : Prop :=
  r.method = .get ∨ a.flag newOauth r = false ∨
    r.key = .post .contentItemSelection ∧ r.user.mayConfigure = false

instance (a : Answers) (r : LaunchRequest) : Decidable (Idle a r) :=
  inferInstanceAs (Decidable (_ ∨ _ ∨ _))

/-- No view matches, and the backend has been asked for nothing but flags. -/
structure Unmatched (b : Backend σ) (t : DispatchTable (Handler σ)) (r : LaunchRequest) (s : σ) :
    Prop where
  outcome : outcome (Stages.answer b t r) s =
    .error (.notFound ("no launch view matches " ++ r.key.text))
  calls : ∀ calls : σ → List BackendCall, b.Records calls →
    ∃ names : List String, calls (after (Stages.answer b t r) s) = calls s ++ names.map .flag

def Chooses (b : Backend σ) (t : DispatchTable (Handler σ)) (r : LaunchRequest) (s : σ)
    (name : String) : Prop :=
  (LtiLaunch.outcome (Stages.chosen b t r) s).map Candidate.name = .ok name

/-- What the launch of a request comes to in the world `s`. -/
structure Decides (a : Answers) (b : Backend σ) (t : DispatchTable (Handler σ)) (r : LaunchRequest)
    (s : σ) : Prop where
  get : r.method = .get → Unmatched b t r s
  disabled : a.flag newOauth r = false → Unmatched b t r s
  /-- Where the document cannot be found out, the choice fails, and the launch ends with it. -/
  undecided : r.key = .post .ltiLaunches → a.flag newOauth r = true →
    ∀ e, outcome (Signals.resolve b r) s = .error e →
      (Selection.guardFailure e).kind = .guardEvaluation ∧
        outcome (Stages.chosen b t r) s = .error (Selection.guardFailure e) ∧
        outcome (Stages.answer b t r) s = .error (Selection.guardFailure e) ∧
        after (Stages.answer b t r) s = after (Stages.chosen b t r) s
  /-- The document shown is the one that decided about the view. -/
  configured : r.key = .post .ltiLaunches → a.flag newOauth r = true →
    ∀ c, outcome (Signals.resolve b r) s = .ok (some c) →
      Chooses b t r s (configuredName c.source) ∧
        outcome (Stages.answer b t r) s = (do
          a.upsertUser r
          a.upsertCourseGroup r
          return ⟨"lms:templates/basic_lti_launch.html.jinja2", c.toJson.canonical⟩)
  unconfigured : r.key = .post .ltiLaunches → a.flag newOauth r = true →
    outcome (Signals.resolve b r) s = .ok none →
      Chooses b t r s (unconfiguredName r.user.mayConfigure)
  selection : r.key = .post .contentItemSelection → a.flag newOauth r = true →
    r.user.mayConfigure = true → Chooses b t r s "content_item_selection"
  unauthorizedSelection : r.key = .post .contentItemSelection → r.user.mayConfigure = false →
    Unmatched b t r s

variable {W : σ → Prop} {b : Backend σ} {a : Answers} {v : Settings} {r : LaunchRequest} {s : σ}

/-! ### The names of the views -/

theorem configuredName_injective {source source' : DocumentSource}
    (same : configuredName source = configuredName source') : source = source' := by
  revert same
  cases source <;> cases source' <;> decide

theorem name_configuredCandidate (b : Backend σ) (source : DocumentSource) :
    (configuredCandidate b source).name = configuredName source := by
  cases source <;> rfl

/-- The views for the sources of documents are told from all the others by their names. -/
theorem eq_configuredCandidate {k : RouteKey} {c : Candidate (Handler σ)} {source : DocumentSource}
    (mem : c ∈ (table v b).candidates k) (named : c.name = configuredName source) :
    c = configuredCandidate b source := by
  have other : ∀ name ∈ ["content_item_selection", unconfiguredName true, unconfiguredName false],
      name ≠ configuredName source := by
    cases source <;> decide
  obtain ⟨route, method⟩ := k
  cases method with
  | get =>
    rw [candidates_table_get] at mem
    cases mem
  | post =>
    cases route with
    | ltiLaunches =>
      change c ∈ (table v b).candidates (.post .ltiLaunches) at mem
      rw [candidates_table_ltiLaunches] at mem
      rcases mem_launchCandidates.mp mem with ⟨source', rfl⟩ | rfl | rfl
      · rw [name_configuredCandidate] at named
        rw [configuredName_injective named]
      · exact absurd named (other (unconfiguredName true) (by simp))
      · exact absurd named (other (unconfiguredName false) (by simp))
    | contentItemSelection =>
      change c ∈ (table v b).candidates (.post .contentItemSelection) at mem
      rw [candidates_table_contentItemSelection] at mem
      obtain rfl := List.mem_singleton.mp mem
      exact absurd named (other _ List.mem_cons_self)

/-! ### Launches that no view is for -/

theorem guardFailure_kind (e : LaunchError) : (Selection.guardFailure e).kind = .guardEvaluation := by
  unfold Selection.guardFailure
  split
  · assumption
  · rfl

/-- Each candidate for an idle launch has a cheap guard that fails. -/
theorem refused_of_idle (v : Settings) (b : Backend σ) (idle : Idle a r) :
    ∀ c ∈ (table v b).candidates r.key, ∃ g ∈ c.guards.guards,
      g.cost < 2 ∧ a.guardHolds r g = .ok false := by
  intro c mem
  rcases idle with get | disabled | ⟨key, unauthorized⟩
  · rw [LaunchRequest.key, get, candidates_table_get] at mem
    cases mem
  · obtain ⟨x, predicates, rfl⟩ := exists_eq_candidate mem
    refine ⟨.flag newOauth true, mem_guards_candidate.mpr (.inl rfl), Nat.zero_lt_two, ?_⟩
    rw [Answers.guardHolds, disabled]
    rfl
  · rw [key, candidates_table_contentItemSelection] at mem
    obtain rfl := List.mem_singleton.mp mem
    refine ⟨.predicate .mayConfigure true, mem_guards_candidate.mpr (.inr ⟨_, .head _, rfl⟩),
      Nat.one_lt_two, ?_⟩
    rw [Answers.guardHolds, unauthorized]
    rfl

theorem unmatched_of_cheap (h : b.Follows W a) (hs : W s)
    (refused : ∀ c ∈ (table v b).candidates r.key, ∃ g ∈ c.guards.guards,
      g.cost < 2 ∧ a.guardHolds r g = .ok false) :
    Unmatched b (table v b) r s := by
  have failed := (Stages.yields_chosen h.journal
    (Selection.yields_choose_of_cheap (fun name => h.flag name r) h.journal refused)).outcome_eq hs
  obtain ⟨out, world⟩ := Stages.answer_of_chosen_error failed
  refine ⟨out, fun calls records => ?_⟩
  have journals := OnlyFlags.journals (l := calls s) h records
  have asked := Stages.yields_chosen journals
    (Selection.yields_choose_of_cheap (fun name => OnlyFlags.flag h records name r) journals refused)
  rw [world]
  exact (asked.after_mem (OnlyFlags.start hs)).2

theorem unmatched_of_get (h : b.Follows W a) (hs : W s) (get : r.method = .get) :
    Unmatched b (table v b) r s :=
  unmatched_of_cheap h hs (refused_of_idle v b (.inl get))

theorem unmatched_of_disabled (h : b.Follows W a) (hs : W s)
    (disabled : a.flag newOauth r = false) : Unmatched b (table v b) r s :=
  unmatched_of_cheap h hs (refused_of_idle v b (.inr (.inl disabled)))

theorem unmatched_of_unauthorized (h : b.Follows W a) (hs : W s)
    (key : r.key = .post .contentItemSelection) (unauthorized : r.user.mayConfigure = false) :
    Unmatched b (table v b) r s :=
  unmatched_of_cheap h hs (refused_of_idle v b (.inr (.inr ⟨key, unauthorized⟩)))

/-! ### The choice -/

theorem found_of_resolve (h : b.Follows W a) (hs : W s) :
    a.found r = (outcome (Signals.resolve b r) s).mapError Selection.guardFailure := by
  rw [(Signals.yields_resolve h r).outcome_eq hs]
  rfl

theorem select_eq_guardFailure {e : LaunchError} (key : r.key = .post .ltiLaunches)
    (flag : a.flag newOauth r = true) (failed : a.found r = .error e) :
    a.select r ((table v b).candidates r.key) = .error e := by
  rw [key, candidates_table_ltiLaunches]
  have stuck (p : SourcePredicate) (expected : Bool) :
      a.guardHolds r (.predicate (.document p) expected) ≠ .ok true := by
    rw [Answers.guardHolds, failed]
    intro same
    cases same
  refine Answers.select_eq_error (fun c mem pass => ?_) (configuredCandidate_mem v b .onRecord) ?_
  · rcases mem_launchCandidates.mp mem with ⟨source, rfl⟩ | rfl | rfl <;>
      exact stuck _ _ ((accepts_candidate_iff.mp pass).2 _ (.head _))
  · refine Answers.allHold_eq_error (fun g mem cheap => ?_) ?_ failed
    · rcases mem_guards_candidate.mp mem with rfl | ⟨p, named, rfl⟩
      · rw [Answers.guardHolds, flag]
        rfl
      · obtain rfl := List.mem_singleton.mp named
        exact absurd cheap (Nat.lt_irrefl 2)
    · exact ⟨_, mem_guards_candidate.mpr (.inr ⟨_, .head _, rfl⟩), rfl⟩

theorem select_eq_configured {c : AssignedDocument} (key : r.key = .post .ltiLaunches)
    (flag : a.flag newOauth r = true) (found : a.found r = .ok (some c)) :
    a.select r ((table v b).candidates r.key) = .ok (configuredCandidate b c.source) := by
  refine Answers.select_of_accepts (exclusive_table v b r.key) ?_ ?_
  · rw [key, candidates_table_ltiLaunches]
    exact configuredCandidate_mem v b c.source
  · refine accepts_candidate_iff.mpr ⟨flag, fun p mem => ?_⟩
    obtain rfl := List.mem_singleton.mp mem
    simp [Answers.guardHolds, found, Except.map, SourcePredicate.holds]

theorem select_eq_unconfigured (key : r.key = .post .ltiLaunches)
    (flag : a.flag newOauth r = true) (found : a.found r = .ok none) :
    a.select r ((table v b).candidates r.key) =
      .ok (if r.user.mayConfigure then unconfiguredCandidate v b else unauthorizedCandidate b) := by
  refine Answers.select_of_accepts (exclusive_table v b r.key) ?_ ?_
  · rw [key, candidates_table_ltiLaunches, mem_launchCandidates]
    split
    · exact .inr (.inl rfl)
    · exact .inr (.inr rfl)
  · cases role : r.user.mayConfigure
    all_goals
      refine accepts_candidate_iff.mpr ⟨flag, fun p mem => ?_⟩
      rcases List.mem_cons.mp mem with rfl | mem
      · simp [Answers.guardHolds, found, Except.map, SourcePredicate.holds]
      · obtain rfl := List.mem_singleton.mp mem
        simp [Answers.guardHolds, role]

theorem select_eq_selection (key : r.key = .post .contentItemSelection)
    (flag : a.flag newOauth r = true) (role : r.user.mayConfigure = true) :
    a.select r ((table v b).candidates r.key) = .ok (selectionCandidate v b) := by
  refine Answers.select_of_accepts (exclusive_table v b r.key) ?_ ?_
  · rw [key, candidates_table_contentItemSelection]
    exact .head _
  · refine accepts_candidate_iff.mpr ⟨flag, fun p mem => ?_⟩
    obtain rfl := List.mem_singleton.mp mem
    rw [Answers.guardHolds, role]
    rfl

theorem chooses_of_select {c : Candidate (Handler σ)} {name : String} (h : b.Follows W a) (hs : W s)
    (select : a.select r ((table v b).candidates r.key) = .ok c) (named : c.name = name) :
    Chooses b (table v b) r s name := by
  have chosen := Stages.yields_chosen h.journal (Selection.yields_choose h (table v b) r)
  rw [Chooses, chosen.outcome_eq hs, select]
  exact congrArg Except.ok named

theorem prepareAll_provision (a : Answers) (r : LaunchRequest) :
    a.prepareAll r provision = (do a.upsertUser r; a.upsertCourseGroup r) := by
  unfold provision
  simp only [Answers.prepareAll, Answers.prepare]
  cases a.upsertCourseGroup r <;> rfl

/-- A fresh table takes up the default views, and it decides as `Decides` says. -/
theorem addTo_decides (v : Settings) (h : b.Follows W a) :
    ∃ t, addTo .builtin v b .empty = .ok t ∧ ∀ r s, W s → Decides a b t r s := by
  refine ⟨table v b, addTo_empty v b, fun r s hs => ?_⟩
  have found := found_of_resolve (r := r) h hs
  constructor
  case get => exact unmatched_of_get h hs
  case disabled => exact unmatched_of_disabled h hs
  case unauthorizedSelection => exact unmatched_of_unauthorized h hs
  case undecided =>
    intro key flag e failed
    rw [failed] at found
    have chosen := Stages.yields_chosen h.journal (Selection.yields_choose h (table v b) r)
    rw [select_eq_guardFailure key flag found] at chosen
    have failure := chosen.outcome_eq hs
    obtain ⟨out, world⟩ := Stages.answer_of_chosen_error failure
    exact ⟨guardFailure_kind e, failure, out, world⟩
  case configured =>
    intro key flag c resolved
    rw [resolved] at found
    have select := select_eq_configured (v := v) (b := b) key flag found
    refine ⟨chooses_of_select h hs select (name_configuredCandidate b c.source), ?_⟩
    have shown := Screens.yields_configured h
      (((Signals.yields_resolve h r).outcome_eq hs).symm.trans resolved)
    rw [(Stages.yields_answer h select shown).outcome_eq hs]
    show a.prepareAll r provision >>= _ = _
    rw [prepareAll_provision, bind_assoc]
    rfl
  case unconfigured =>
    intro key flag resolved
    rw [resolved] at found
    refine chooses_of_select h hs (select_eq_unconfigured key flag found) ?_
    cases r.user.mayConfigure <;> rfl
  case selection =>
    intro key flag role
    exact chooses_of_select h hs (select_eq_selection key flag role) rfl

/-- Settings to show a table with. -/
def sampleSettings : Settings := ⟨"https://launch.example.org", ⟨"client", "key"⟩⟩

/-- The document on record is shown, though nothing else about the launch can be looked up. For a
launch that is not posted the backend is asked for nothing but flags. -/
theorem addTo_decides_onRecord :
    let a := { Answers.unreachable with
      documentUrl := fun _ => .ok (some "https://example.org/a.pdf") }
    let fetched := { LaunchRequest.byInstructor with method := .get }
    ∃ t, addTo .builtin ⟨"https://launch.example.org", ⟨"client", "key"⟩⟩ a.recorder .empty = .ok t ∧
      Chooses a.recorder t .byInstructor [] "db_configured_basic_lti_launch" ∧
      outcome (Stages.answer a.recorder t .byInstructor) [] =
        .ok ⟨"lms:templates/basic_lti_launch.html.jinja2",
          (AssignedDocument.onRecord "https://example.org/a.pdf").toJson.canonical⟩ ∧
      (outcome (Stages.answer a.recorder t fetched) [] =
        .error (.notFound "no launch view matches GET lti_launches") ∧
      ∃ names : List String,
        after (Stages.answer a.recorder t fetched) [] = names.map BackendCall.flag) := by
  intro a fetched
  obtain ⟨t, taken, decides⟩ :=
    addTo_decides ⟨"https://launch.example.org", ⟨"client", "key"⟩⟩ a.follows_recorder
  obtain ⟨chosen, shown⟩ := (decides .byInstructor [] trivial).configured rfl rfl _ rfl
  have unmatched := (decides fetched [] trivial).get rfl
  exact ⟨t, taken, chosen, shown, unmatched.outcome, unmatched.calls id a.records_recorder⟩

end DefaultViews

end LtiLaunch
