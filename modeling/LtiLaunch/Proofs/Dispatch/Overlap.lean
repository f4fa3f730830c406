import LtiLaunch.Proofs.Dispatch.Declared
import LtiLaunch.Proofs.Overlay
import LtiLaunch.Url.Parser

/-!
# Overlapping guard sets

When one request can pass two guard sets. Conflicts are looked for pair by pair, and this misses one
way of excluding a request: a document is asked for, but none of the four kinds that there are.
`overlap_iff` says that nothing else is missed.
-/

namespace LtiLaunch

variable {σ η : Type}

/-! ### A request for every source -/

namespace DocumentSource

/-- A document of each source; the `address` is one that a launch may give. -/
def sample (address : String) : DocumentSource → AssignedDocument
  | onRecord => .onRecord "https://example.org/a.pdf"
  | url => .url (Text.trim address)
  | canvasFile => .canvasFile "file"
  | vitalSourceBook => .vitalSourceBook "book" none

@[simp] theorem source_sample (address : String) (v : DocumentSource) :
    (v.sample address).source = v := by
  cases v <;> rfl

/-- Launch parameters that point to the sample. -/
def sampleParams (address : String) : DocumentSource → List (String × String)
  | onRecord => [("tool_consumer_instance_guid", "platform"), ("resource_link_id", "link")]
  | url => [("url", address)]
  | canvasFile =>
    [("canvas_file", "true"), ("file_id", "file"),
      ("tool_consumer_info_product_family_code", "canvas")]
  | vitalSourceBook => [("vitalsource_book", "true"), ("book_id", "book")]

end DocumentSource

/-- A request whose user has the role or not, and whose document comes from the source. -/
def LaunchRequest.sample (address : String) (role : Bool) (source : Option DocumentSource) :
    LaunchRequest where
  method := .post
  route := .ltiLaunches
  params := .ofList ((source.map (DocumentSource.sampleParams address)).getD [])
  user := { userId := "user", consumerKey := "key", roles := if role then "Instructor" else "" }

/-- Answers with which every sample is found, if its address is a URL. -/
def Answers.sample (isUrl flags : String → Bool) : Answers where
  isUrl := isUrl
  documentUrl _ := .ok (some "https://example.org/a.pdf")
  lmsUrl _ := .ok "https://lms.example.org"
  canvasFiles _ := .ok true
  flag name _ := flags name
  upsertUser _ := .ok ()
  upsertCourseGroup _ := .ok ()

theorem LaunchRequest.mayConfigure_sample (address : String) (role : Bool)
    (source : Option DocumentSource) : (sample address role source).user.mayConfigure = role := by
  have user : (sample address role source).user = (sample "" role none).user := rfl
  rw [user]
  cases role <;> decide

variable {isUrl : String → Bool} {address : String}

theorem Answers.resolve_sample_url (readable : isUrl (Text.trim address) = true)
    (flags : String → Bool) (role : Bool) :
    (Answers.sample isUrl flags).resolve (.sample address role (some .url)) =
      .ok (some (.url (Text.trim address))) := by
  have value (name : String) : (LaunchRequest.sample address role (some .url)).value? name =
      List.lookup name [("url", address)] := SortedMap.get?_ofList _ _
  have unnamed : AssignmentKey.ofRequest? (.sample address role (some .url)) = none := by
    unfold AssignmentKey.ofRequest?
    rw [value, value]
    rfl
  have linked : Signals.linkedDocument? (Answers.sample isUrl flags).isUrl
      (.sample address role (some .url)) = some (Text.trim address) := by
    unfold Signals.linkedDocument?
    rw [value]
    exact if_pos readable
  unfold Answers.resolve Answers.documentOnRecord
  rw [unnamed, linked]
  rfl

theorem Answers.found_sample (readable : isUrl (Text.trim address) = true) (flags : String → Bool)
    (role : Bool) (source : Option DocumentSource) :
    (Answers.sample isUrl flags).found (.sample address role source) =
      .ok (source.map (DocumentSource.sample address)) := by
  have resolved : (Answers.sample isUrl flags).resolve (.sample address role source) =
      .ok (source.map (DocumentSource.sample address)) := by
    rcases source with _ | _ | _ | _ | _
    · rfl
    · rfl
    · exact Answers.resolve_sample_url readable flags role
    · rfl
    · rfl
  rw [Answers.found, resolved]
  rfl

/-! ### Guards without a conflict -/

def Guard.Consistent (gs : List Guard) : Prop := ∀ g ∈ gs, ∀ h ∈ gs, g.conflicts h = false

/-- A document is asked for, but none of the kinds that there are. -/
def Guard.FourNegatives (gs : List Guard) : Prop :=
  .predicate (.document .configured) true ∈ gs ∧
    ∀ source, .predicate (.document (.exactly source)) false ∈ gs

namespace Guard

variable {gs : List Guard}

theorem Consistent.expected_eq (consistent : Consistent gs) {p : RequestPredicate} {x y : Bool}
    (hx : .predicate p x ∈ gs) (hy : .predicate p y ∈ gs) : x = y := by
  have free := consistent _ hx _ hy
  simpa [conflicts, RequestPredicate.excludes] using free

theorem Consistent.enabled_eq (consistent : Consistent gs) {name : String} {x y : Bool}
    (hx : .flag name x ∈ gs) (hy : .flag name y ∈ gs) : x = y := by
  have free := consistent _ hx _ hy
  simpa [conflicts] using free

theorem Consistent.not_excludes (consistent : Consistent gs) {p q : SourcePredicate} {x y : Bool}
    (hp : .predicate (.document p) x ∈ gs) (hq : .predicate (.document q) y ∈ gs)
    (different : p ≠ q) : p.excludes x q y = false := by
  have free := consistent _ hp _ hq
  simpa [conflicts, RequestPredicate.excludes, different] using free

/-- One document, or none, answers all questions about the document as the guards expect. The source
that a guard asks for is taken; else any that no guard rules out, if there has to be a document. -/
theorem Consistent.exists_source (address : String) (consistent : Consistent gs)
    (possible : ¬ FourNegatives gs) :
    ∃ source : Option DocumentSource, ∀ p expected, .predicate (.document p) expected ∈ gs →
      p.holds (source.map (DocumentSource.sample address)) = expected := by
  by_cases wanted : ∃ v, .predicate (.document (.exactly v)) true ∈ gs
  · obtain ⟨v, hv⟩ := wanted
    refine ⟨some v, fun p expected mem => ?_⟩
    cases p with
    | configured =>
      have free := consistent.not_excludes hv mem (by simp)
      cases expected with
      | true => rfl
      | false => simp [SourcePredicate.excludes] at free
    | exactly w =>
      by_cases same : v = w
      · subst same
        obtain rfl := consistent.expected_eq hv mem
        simp [SourcePredicate.holds]
      · have free := consistent.not_excludes hv mem (by simpa using same)
        cases expected with
        | true => simp [SourcePredicate.excludes, same] at free
        | false => simp [SourcePredicate.holds, same]
  · have unwanted : ∀ v expected, .predicate (.document (.exactly v)) expected ∈ gs →
        expected = false := by
      intro v expected mem
      cases expected with
      | true => exact absurd ⟨v, mem⟩ wanted
      | false => rfl
    by_cases needed : .predicate (.document .configured) true ∈ gs
    · obtain ⟨v, free⟩ : ∃ v, .predicate (.document (.exactly v)) false ∉ gs := by
        by_contra all
        push Not at all
        exact possible ⟨needed, all⟩
      refine ⟨some v, fun p expected mem => ?_⟩
      cases p with
      | configured =>
        obtain rfl := consistent.expected_eq needed mem
        rfl
      | exactly w =>
        obtain rfl := unwanted w expected mem
        have different : v ≠ w := by
          rintro rfl
          exact free mem
        simp [SourcePredicate.holds, different]
    · refine ⟨none, fun p expected mem => ?_⟩
      cases p with
      | configured =>
        cases expected with
        | true => exact absurd mem needed
        | false => rfl
      | exactly w =>
        obtain rfl := unwanted w expected mem
        rfl

end Guard

namespace Answers

variable {gs : List Guard}

/-- Guards that do not conflict can all hold at once, the one exception apart. -/
theorem exists_guardHolds (readable : isUrl (Text.trim address) = true)
    (consistent : Guard.Consistent gs) (possible : ¬ Guard.FourNegatives gs) :
    ∃ (r : LaunchRequest) (a : Answers),
      a.isUrl = isUrl ∧ ∀ g ∈ gs, a.guardHolds r g = .ok true := by
  obtain ⟨source, answered⟩ := consistent.exists_source address possible
  let role : Bool := decide (.predicate .mayConfigure true ∈ gs)
  let flags (name : String) : Bool := decide (.flag name true ∈ gs)
  refine ⟨.sample address role source, .sample isUrl flags, rfl, fun g mem => ?_⟩
  match g with
  | .flag name enabled =>
    have same : flags name = enabled := by
      cases enabled with
      | true => exact decide_eq_true mem
      | false => exact decide_eq_false fun on => Bool.noConfusion (consistent.enabled_eq on mem)
    show Except.ok (flags name == enabled) = _
    rw [same, beq_self_eq_true]
  | .predicate .mayConfigure expected =>
    have same : role = expected := by
      cases expected with
      | true => exact decide_eq_true mem
      | false => exact decide_eq_false fun on => Bool.noConfusion (consistent.expected_eq on mem)
    show Except.ok ((LaunchRequest.sample address role source).user.mayConfigure == expected) = _
    rw [LaunchRequest.mayConfigure_sample, same, beq_self_eq_true]
  | .predicate (.document p) expected =>
    rw [guardHolds, found_sample readable]
    show Except.ok (p.holds (source.map (DocumentSource.sample address)) == expected) = _
    rw [answered p expected mem, beq_self_eq_true]

/-- Guards that all hold do not conflict, and they are not the exception. -/
theorem consistent_of_guardHolds {a : Answers} {r : LaunchRequest}
    (hold : ∀ g ∈ gs, a.guardHolds r g = .ok true) :
    Guard.Consistent gs ∧ ¬ Guard.FourNegatives gs := by
  constructor
  · intro g hg h hh
    by_contra conflict
    have refused := not_guardHolds_of_conflicts (by simpa using conflict) (hold g hg)
    have passed := hold h hh
    simp [refused] at passed
  · rintro ⟨needed, ruledOut⟩
    have some := hold _ needed
    unfold guardHolds at some
    cases look : a.found r with
    | error e => simp [look, Except.map] at some
    | ok document =>
      cases document with
      | none => simp [look, Except.map, SourcePredicate.holds] at some
      | some document =>
        have other := hold _ (ruledOut document.source)
        simp [guardHolds, look, Except.map, SourcePredicate.holds] at other

end Answers

/-! ### Sets that one request passes -/

/-- Whether the guards of the set pass, given what is remembered of the document. -/
def Selection.admits (b : Backend σ) (r : LaunchRequest) (memo : Memo) (s : GuardSet) :
    LaunchM σ Bool := do
  return (← passesAll b r memo s.guards).1

theorem Selection.yields_admits {W : σ → Prop} {b : Backend σ} {a : Answers} (h : b.Follows W a)
    {r : LaunchRequest} {memo : Memo} (right : Right a r memo) (s : GuardSet) :
    Yields W (admits b r memo s) (a.allHold r s.guards) := by
  unfold admits
  refine Always.bind (always_passesAll h right s.guards) ?_ ?_
  · rintro ⟨pass, memo⟩ ⟨same, _⟩
    rw [← same]
    exact Yields.pure
  · rintro e ⟨same, _⟩
    rw [← same]
    rfl

namespace GuardSet

variable {s t : GuardSet}

def SelfContradictory (s : GuardSet) : Prop :=
  ∃ g ∈ s.guards, ∃ h ∈ s.guards, g.conflicts h = true

instance : Decidable s.SelfContradictory :=
  inferInstanceAs (Decidable (∃ g ∈ s.guards, ∃ h ∈ s.guards, g.conflicts h = true))

/-- Some request passes both sets over some backend with these URLs, whatever is remembered of its
document. -/
def Overlap (isUrl : String → Bool) (s t : GuardSet) : Prop :=
  ∃ (r : LaunchRequest) (a : Answers), a.isUrl = isUrl ∧ ∀ memo, Selection.Right a r memo →
    outcome (Selection.admits (a.backend : Backend Unit) r memo s) () = .ok true ∧
      outcome (Selection.admits (a.backend : Backend Unit) r memo t) () = .ok true

theorem overlap_iff_guardHolds :
    Overlap isUrl s t ↔ ∃ (r : LaunchRequest) (a : Answers), a.isUrl = isUrl ∧
      ∀ g ∈ s.guards ++ t.guards, a.guardHolds r g = .ok true := by
  unfold Overlap
  refine exists_congr fun r => exists_congr fun a => and_congr_right fun _ => ?_
  have admitted (memo : Selection.Memo) (right : Selection.Right a r memo) (u : GuardSet) :
      outcome (Selection.admits (a.backend : Backend Unit) r memo u) () = .ok true ↔
        ∀ g ∈ u.guards, a.guardHolds r g = .ok true := by
    rw [(Selection.yields_admits a.follows_backend right u).outcome_eq trivial]
    exact Answers.allHold_eq_true_iff
  rw [List.forall_mem_append]
  constructor
  · intro pass
    obtain ⟨hs, ht⟩ := pass none (Selection.right_none a r)
    exact ⟨(admitted _ (Selection.right_none a r) s).mp hs,
      (admitted _ (Selection.right_none a r) t).mp ht⟩
  · rintro ⟨hs, ht⟩ memo right
    exact ⟨(admitted memo right s).mpr hs, (admitted memo right t).mpr ht⟩

theorem consistent_append_iff :
    Guard.Consistent (s.guards ++ t.guards) ↔
      s.exclusive t = false ∧ ¬ s.SelfContradictory ∧ ¬ t.SelfContradictory := by
  have across : s.exclusive t = false ↔
      ∀ g ∈ s.guards, ∀ h ∈ t.guards, g.conflicts h = false := by
    rw [← Bool.not_eq_true, exclusive_iff]
    simp
  have within (u : GuardSet) : ¬ u.SelfContradictory ↔
      ∀ g ∈ u.guards, ∀ h ∈ u.guards, g.conflicts h = false := by
    simp [SelfContradictory]
  rw [across, within, within]
  unfold Guard.Consistent
  simp only [List.forall_mem_append]
  constructor
  · rintro ⟨first, second⟩
    exact ⟨fun g hg => (first g hg).2, fun g hg => (first g hg).1, fun g hg => (second g hg).2⟩
  · rintro ⟨cross, hs, ht⟩
    refine ⟨fun g hg => ⟨hs g hg, cross g hg⟩, fun g hg => ⟨fun h hh => ?_, ht g hg⟩⟩
    rw [Guard.conflicts_comm]
    exact cross h hh g hg

/-- Sets overlap if the check finds no conflict across them and there is none within them, unless
they ask for a document of none of the four kinds. A launch has to be able to give an address. -/
theorem overlap_iff (readable : isUrl (Text.trim address) = true) :
    Overlap isUrl s t ↔ s.exclusive t = false ∧ ¬ s.SelfContradictory ∧ ¬ t.SelfContradictory ∧
      ¬ Guard.FourNegatives (s.guards ++ t.guards) := by
  rw [overlap_iff_guardHolds]
  constructor
  · rintro ⟨r, a, -, hold⟩
    obtain ⟨consistent, possible⟩ := Answers.consistent_of_guardHolds hold
    obtain ⟨cross, hs, ht⟩ := consistent_append_iff.mp consistent
    exact ⟨cross, hs, ht, possible⟩
  · rintro ⟨cross, hs, ht, possible⟩
    exact Answers.exists_guardHolds readable (consistent_append_iff.mpr ⟨cross, hs, ht⟩) possible

end GuardSet

namespace DispatchTable

variable {vocabulary : Vocabulary} {table : DispatchTable η} {x : Declaration η} {refusal : Refusal}

theorem eq_blankFlag_of_flagGuards {name : String} {flags : List (String × Bool)}
    (refused : flagGuards name flags = .error refusal) : refusal = .blankFlag name := by
  induction flags with
  | nil => simp [flagGuards] at refused
  | cons f flags ih =>
    rw [flagGuards] at refused
    cases blank : Text.isBlank f.1 with
    | true =>
      obtain rfl : Refusal.blankFlag name = refusal := by simpa [blank] using refused
      rfl
    | false =>
      cases rest : flagGuards name flags with
      | ok gs => simp [blank, rest, Except.map] at refused
      | error refusal' =>
        obtain rfl : refusal' = refusal := by simpa [blank, rest, Except.map] using refused
        exact ih rest

theorem eq_predicate_of_predicateGuards {predicates : List (String × Bool)}
    (refused : predicateGuards vocabulary predicates = .error refusal) :
    ∃ cause, refusal = .predicate cause := by
  induction predicates with
  | nil => simp [predicateGuards] at refused
  | cons p predicates ih =>
    rw [predicateGuards] at refused
    cases known : vocabulary.meaning p.1 with
    | error cause =>
      obtain rfl : Refusal.predicate cause = refusal := by simpa [known] using refused
      exact ⟨cause, rfl⟩
    | ok q =>
      cases rest : predicateGuards vocabulary predicates with
      | ok gs => simp [known, rest, Except.map] at refused
      | error refusal' =>
        obtain rfl : refusal' = refusal := by simpa [known, rest, Except.map] using refused
        exact ih rest

theorem candidateOf_ne_overlap {name other : String} {s t : GuardSet} {route : RouteKey} :
    candidateOf vocabulary x ≠ .error (.overlap name t other s route) := by
  intro refused
  unfold candidateOf at refused
  cases blank : Text.isBlank x.name with
  | true => simp [blank, throw, throwThe, MonadExceptOf.throw, bind, Except.bind] at refused
  | false =>
    cases flags : flagGuards x.name x.flags with
    | error refusal =>
      have cause := eq_blankFlag_of_flagGuards flags
      simp [blank, flags, bind, Except.bind, cause] at refused
    | ok fs =>
      cases predicates : predicateGuards vocabulary x.predicates with
      | error refusal =>
        obtain ⟨cause, rfl⟩ := eq_predicate_of_predicateGuards predicates
        simp [blank, flags, predicates, bind, Except.bind] at refused
      | ok ps => simp [blank, flags, predicates, bind, Except.bind, pure, Except.pure] at refused

/-- An overlap is reported only for sets in which the check has found no conflict. -/
theorem exclusive_of_declare_eq_overlap {name other : String} {s t : GuardSet} {route : RouteKey}
    (refused : table.declare vocabulary x = .error (.overlap name t other s route)) :
    s.exclusive t = false := by
  unfold declare at refused
  cases described : candidateOf vocabulary x with
  | error refusal =>
    obtain rfl : refusal = .overlap name t other s route := by
      simpa [described, bind, Except.bind] using refused
    exact absurd described candidateOf_ne_overlap
  | ok c =>
    cases conflict : conflict? (table.candidates c.route) c with
    | none => simp [described, conflict, bind, Except.bind, pure, Except.pure] at refused
    | some refusal =>
      obtain rfl : refusal = .overlap name t other s route := by
        simpa [described, conflict, bind, Except.bind, throw, throwThe, MonadExceptOf.throw]
          using refused
      unfold conflict? at conflict
      split at conflict
      · simp at conflict
      · split at conflict
        · next overlapping found =>
          obtain ⟨-, rfl, -, rfl, -⟩ : c.name = name ∧ c.guards = t ∧ overlapping.name = other ∧
              overlapping.guards = s ∧ c.route = route := by simpa using conflict
          simpa using List.find?_some found
        · cases conflict

end DispatchTable

/-- The check of two guard sets is symmetric. Sets that it calls exclusive are passed by no request,
over no backend that answers as a function. Other sets are, unless one of them contradicts itself or
together they ask for a document of none of the four kinds; so an overlap that a table reports is
one, with these exceptions. A request that has to give an address needs some text to be a URL. -/
theorem GuardSet.exclusive_exact (gs hs : List Guard) :
    let s := ofList gs
    let t := ofList hs
    s.exclusive t = t.exclusive s ∧
    (s.exclusive t = true → ∀ {σ : Type} {b : Backend σ} {W : σ → Prop} {a : Answers},
      b.Follows W a → ∀ (r : LaunchRequest) (memo memo' : Selection.Memo),
        Selection.Right a r memo → Selection.Right a r memo' → ∀ w w', W w → W w' →
          ¬ (outcome (Selection.admits b r memo s) w = .ok true ∧
            outcome (Selection.admits b r memo' t) w' = .ok true)) ∧
    ∀ {isUrl : String → Bool}, (∃ address, isUrl (Text.trim address) = true) →
      (s.exclusive t = false → ¬ s.SelfContradictory → ¬ t.SelfContradictory →
        ¬ Guard.FourNegatives (s.guards ++ t.guards) → Overlap isUrl s t) ∧
      ∀ {η : Type} (vocabulary : Vocabulary) (table : DispatchTable η) (x : Declaration η)
        (name other : String) (route : RouteKey),
        table.declare vocabulary x = .error (.overlap name t other s route) →
          Overlap isUrl s t ∨ s.SelfContradictory ∨ t.SelfContradictory ∨
            Guard.FourNegatives (s.guards ++ t.guards) := by
  intro s t
  refine ⟨exclusive_comm s t, ?_, ?_⟩
  · intro exclusive σ b W a follows r memo memo' right right' w w' hw hw'
    rw [(Selection.yields_admits follows right s).outcome_eq hw,
      (Selection.yields_admits follows right' t).outcome_eq hw']
    rintro ⟨passed, passed'⟩
    have refused := Answers.not_allHold_of_exclusive exclusive passed
    simp [refused] at passed'
  · rintro isUrl ⟨address, readable⟩
    constructor
    · intro cross hs ht possible
      exact (overlap_iff readable).mpr ⟨cross, hs, ht, possible⟩
    · intro η vocabulary table x name other route refused
      have cross := DispatchTable.exclusive_of_declare_eq_overlap refused
      by_contra none
      push Not at none
      obtain ⟨apart, hs, ht, possible⟩ := none
      exact apart ((overlap_iff readable).mpr ⟨cross, hs, ht, possible⟩)

def Candidate.behindFirst : Candidate Unit where
  name := "first"
  route := .post .ltiLaunches
  guards := .ofList [.flag "first" true]
  preparations := []
  handler := ()

def Declaration.behindSecond : Declaration Unit where
  name := "second"
  route := .post .ltiLaunches
  flags := [("second", true)]
  predicates := []
  preparations := []
  handler := ()

/-- Three of the four kinds may be ruled out; a flag that has to be on and off may not. Two flags
that can both be on make an overlap that a table reports. -/
theorem GuardSet.exclusive_exact_threeNegatives :
    Overlap Url.valid (ofList [.predicate (.document .configured) true, .flag "new_oauth" true])
      (ofList [.predicate (.document (.exactly .onRecord)) false,
        .predicate (.document (.exactly .vitalSourceBook)) false,
        .predicate (.document (.exactly .canvasFile)) false,
        .predicate .mayConfigure false]) ∧
    ¬ (outcome (Selection.admits (Answers.unreachable.backend : Backend Unit) .byInstructor none
          (ofList [.flag "new_oauth" true])) () = .ok true ∧
        outcome (Selection.admits (Answers.unreachable.backend : Backend Unit) .byInstructor none
          (ofList [.flag "new_oauth" false])) () = .ok true) ∧
    (Overlap Url.valid (ofList [.flag "first" true]) (ofList [.flag "second" true]) ∨
      (ofList [.flag "first" true]).SelfContradictory ∨
      (ofList [.flag "second" true]).SelfContradictory ∨
      Guard.FourNegatives ([.flag "first" true] ++ [.flag "second" true])) := by
  have blank : ∃ address, Url.valid (Text.trim address) = true := ⟨"about:blank", by decide +kernel⟩
  refine ⟨?_, ?_, ?_⟩
  · obtain ⟨-, -, exact⟩ :=
      exclusive_exact [.predicate (.document .configured) true, .flag "new_oauth" true]
        [.predicate (.document (.exactly .onRecord)) false,
          .predicate (.document (.exactly .vitalSourceBook)) false,
          .predicate (.document (.exactly .canvasFile)) false,
          .predicate .mayConfigure false]
    obtain ⟨overlaps, -⟩ := exact blank
    refine overlaps (by decide) (by decide) (by decide) ?_
    rintro ⟨-, all⟩
    exact absurd (all .url) (by decide)
  · obtain ⟨-, apart, -⟩ :=
      exclusive_exact [.flag "new_oauth" true] [.flag "new_oauth" false]
    have right := Selection.right_none Answers.unreachable .byInstructor
    exact apart (by decide) Answers.unreachable.follows_backend .byInstructor none none right right
      () () trivial trivial
  · obtain ⟨-, -, exact⟩ := exclusive_exact [.flag "first" true] [.flag "second" true]
    obtain ⟨-, reported⟩ := exact blank
    exact reported .builtin (DispatchTable.empty.add .behindFirst) .behindSecond "second" "first"
      (.post .ltiLaunches) rfl

end LtiLaunch
