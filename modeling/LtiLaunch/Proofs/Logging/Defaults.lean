import LtiLaunch.Logging.Defaults
import LtiLaunch.Proofs.Json.Canonical
import LtiLaunch.Proofs.Logging.Filter

/-!
# Where the default levels count

A default directive is for every target that begins with the launch target, as text. It decides
where the filter leaves the launch target open and says nothing longer about the target at hand;
everywhere else the filter works as it does without the defaults.

On a launch target itself nothing is longer. There the default decides unless a piece of the filter
is for the launch target or for one below it.
-/

namespace LtiLaunch.Filter

variable {text target : String} {level : LogLevel} {launch : String × LogLevel}
  {f own : Filter} {d : Directive} {ds : List Directive}

theorem enables_of_governing (h : f.governing? target = some d) (l : LogLevel) :
    f.enables target l = d.verbosity.allows l := by
  rw [enables, h]

theorem enables_congr (h : f.governing? target = own.governing? target) (l : LogLevel) :
    f.enables target l = own.enables target l := by
  rw [enables, enables, h]

theorem parse?_of_withDefaults (accepted : parseWithDefaults? text = some f) :
    ∃ own, parse? text = some own ∧ f = ⟨own.directives ++ defaultsFor text⟩ := by
  obtain ⟨own, read, same⟩ := Option.map_eq_some_iff.mp accepted
  exact ⟨own, read, same.symm⟩

/-! ### The default directives -/

theorem mem_defaultsFor : d ∈ defaultsFor text ↔
    ∃ launch ∈ launchDefaults, names text launch.1 = false ∧
      d = .ofTarget launch.1 (some launch.2) := by
  simp only [defaultsFor, List.mem_map, List.mem_filter, Bool.not_eq_true', and_assoc, @eq_comm _ d]

/-- No launch target is a word that a filter reads as a level. -/
theorem launchDefaults_spec : ∀ launch ∈ launchDefaults,
    launch.1 ≠ "" ∧ Verbosity.ofWord? launch.1.toList = none := by
  decide +kernel

/-- A text begins with one launch target at most, as no launch target begins with another. -/
theorem eq_of_begins {other : String × LogLevel} {cs : List Char} (mem : launch ∈ launchDefaults)
    (mem' : other ∈ launchDefaults) (begins : launch.1.toList <+: cs)
    (begins' : other.1.toList <+: cs) : launch = other := by
  have apart : ∀ a ∈ launchDefaults, ∀ b ∈ launchDefaults, a.1.toList <+: b.1.toList → a = b := by
    decide +kernel
  rcases List.prefix_or_prefix_of_prefix begins begins' with shorter | longer
  · exact apart launch mem other mem' shorter
  · exact (apart other mem' launch mem longer).symm

theorem prefer_prefer (start : Option Directive) (d : Directive) :
    prefer (prefer start d) d = prefer start d := by
  obtain ⟨e, first, rfl | same, -⟩ := exists_prefer start d
  · rw [first]
    exact prefer_eq_of_le (by simp)
  · rw [first, ← same, first, same]

theorem foldl_prefer_of_all {start : Option Directive} (mem : d ∈ ds) (all : ∀ e ∈ ds, e = d) :
    ds.foldl prefer start = prefer start d := by
  induction ds generalizing start with
  | nil => cases mem
  | cons e ds ih =>
    obtain ⟨rfl, all⟩ := List.forall_mem_cons.mp all
    rw [List.foldl_cons]
    cases ds with
    | nil => rfl
    | cons e' ds =>
      obtain rfl := all e' List.mem_cons_self
      rw [ih List.mem_cons_self all, prefer_prefer]

/-- Without an open launch target at the beginning of the target, no default is for it. -/
theorem governing?_of_closed
    (closed : ∀ launch ∈ launchDefaults, launch.1.toList <+: target.toList →
      names text launch.1 = true) :
    (Filter.mk (own.directives ++ defaultsFor text)).governing? target =
      own.governing? target := by
  have none : (defaultsFor text).filter (·.governs target) = [] := by
    refine List.filter_eq_nil_iff.mpr fun d mem governs => ?_
    obtain ⟨launch, listed, left, rfl⟩ := mem_defaultsFor.mp mem
    have named := closed launch listed (Directive.governs_ofTarget.mp governs)
    rw [left] at named
    cases named
  rw [governing?_append, none]
  rfl

/-- The one default that is for a target is preferred to what the filter has for it, unless that is
longer. -/
theorem governing?_of_open (mem : launch ∈ launchDefaults) (left : names text launch.1 = false)
    (begins : launch.1.toList <+: target.toList) :
    (Filter.mk (own.directives ++ defaultsFor text)).governing? target =
      prefer (own.governing? target) (.ofTarget launch.1 (some launch.2)) := by
  rw [governing?_append]
  refine foldl_prefer_of_all ?_ fun e governing => ?_
  · exact List.mem_filter.mpr
      ⟨mem_defaultsFor.mpr ⟨launch, mem, left, rfl⟩, Directive.governs_ofTarget.mpr begins⟩
  · obtain ⟨listed, governs⟩ := List.mem_filter.mp governing
    obtain ⟨other, mem', -, rfl⟩ := mem_defaultsFor.mp listed
    rw [eq_of_begins mem mem' begins (Directive.governs_ofTarget.mp governs)]

/-- A launch target's default decides for a target: the target begins with the launch target, which
the filter leaves open, and the filter has nothing longer for it. -/
structure Reaches (text : String) (own : Filter) (launch : String × LogLevel)
    (target : String) : Prop where
  listed : launch ∈ launchDefaults
  left : names text launch.1 = false
  begins : launch.1.toList <+: target.toList
  longest : ∀ d ∈ own.directives, d.governs target = true → d.specificity ≤ launch.1.length + 1

theorem Reaches.governing? (reaches : Reaches text own launch target) :
    (Filter.mk (own.directives ++ defaultsFor text)).governing? target =
      some (.ofTarget launch.1 (some launch.2)) := by
  rw [governing?_of_open reaches.listed reaches.left reaches.begins]
  refine prefer_eq_of_le fun e found => ?_
  obtain ⟨mem, governs⟩ := mem_of_governing? found
  exact reaches.longest e mem governs

theorem governing?_of_unreached (unreached : ∀ launch, ¬Reaches text own launch target) :
    (Filter.mk (own.directives ++ defaultsFor text)).governing? target =
      own.governing? target := by
  by_cases closed : ∀ launch ∈ launchDefaults, launch.1.toList <+: target.toList →
      names text launch.1 = true
  · exact governing?_of_closed closed
  · push Not at closed
    obtain ⟨launch, listed, begins, left⟩ := closed
    have left : names text launch.1 = false := eq_false_of_ne_true left
    rw [governing?_of_open listed left begins]
    -- The launch target is open, so something longer in the filter keeps its default away.
    have longer : ∃ d ∈ own.directives, d.governs target = true ∧
        launch.1.length + 1 < d.specificity := by
      by_contra shorter
      simp only [not_exists, not_and, Nat.not_lt] at shorter
      exact unreached launch ⟨listed, left, begins, shorter⟩
    obtain ⟨d, mem, governs, longer⟩ := longer
    obtain ⟨e, found, more⟩ := exists_governing? mem governs
    rw [found]
    exact prefer_eq_of_lt (Nat.lt_of_lt_of_le longer more)

/-- The defaults change what a filter lets through for the targets that a default reaches, and for
no others. What they reach is found by comparing texts: it need not be a launch target, nor one
below it. -/
theorem enables_iff_reached (accepted : parseWithDefaults? text = some f) :
    ∃ own, parse? text = some own ∧ ∀ target,
      (∀ launch, Reaches text own launch target →
        ∀ l, f.enables target l = true ↔ l.rank ≤ launch.2.rank) ∧
      ((∀ launch, ¬Reaches text own launch target) →
        ∀ l, f.enables target l = own.enables target l) := by
  obtain ⟨own, read, rfl⟩ := parse?_of_withDefaults accepted
  refine ⟨own, read, fun target => ⟨fun launch reaches l => ?_, fun unreached l => ?_⟩⟩
  · rw [enables_of_governing reaches.governing? l]
    exact decide_eq_true_iff
  · exact enables_congr (governing?_of_unreached unreached) l

theorem enables_iff_reached_error : ∃ own f,
    parse? "error" = some own ∧ parseWithDefaults? "error" = some f ∧ ∀ target,
      (∀ launch, Reaches "error" own launch target →
        ∀ l, f.enables target l = true ↔ l.rank ≤ launch.2.rank) ∧
      ((∀ launch, ¬Reaches "error" own launch target) →
        ∀ l, f.enables target l = own.enables target l) := by
  obtain ⟨own, read, levels⟩ := @enables_iff_reached "error" _ rfl
  exact ⟨own, _, read, rfl, levels⟩

/-- The default of the launch target `dispatch` lets events of the target `dispatcher` through, which
is no launch target and below none. -/
theorem enables_dispatcher : ∃ own f,
    parse? "error" = some own ∧ parseWithDefaults? "error" = some f ∧
      (∀ piece ∈ Text.splitOn ',' "error".toList, IsPlain piece) ∧
      (∀ launch ∈ launchDefaults, "dispatcher" ≠ launch.1 ∧
        ¬(launch.1 ++ "::").toList <+: "dispatcher".toList) ∧
      own.enables "dispatcher" .info = false ∧ f.enables "dispatcher" .info = true := by
  refine ⟨_, _, rfl, rfl, ?_, ?_, ?_, ?_⟩ <;> decide +kernel

/-! ### What the filter says about a launch target -/

/-- A piece of the filter is for the target or for one below it. -/
def SpeaksOf (text target : String) : Prop :=
  ∃ piece ∈ Text.splitOn ',' text.toList,
    leftOf piece = target.toList ∨ (target ++ "::").toList <+: leftOf piece

theorem targetPart_of_plain {piece : List Char} (plain : IsPlain piece) :
    targetPart piece = leftOf piece := by
  rw [targetPart, (takeWhile_isTargetChar plain).1]
  exact trimChars_of_plain fun c mem => plain c ((List.takeWhile_sublist _).subset mem)

theorem isWithin_iff {cs : List Char} :
    isWithin target cs = true ↔ cs = target.toList ∨ (target ++ "::").toList <+: cs := by
  rw [isWithin, Bool.or_eq_true, beq_iff_eq, List.isPrefixOf_iff_prefix]

theorem not_isWithin_nil (nonempty : target ≠ "") : isWithin target [] = false := by
  refine eq_false_of_ne_true fun within => ?_
  rcases isWithin_iff.mp within with same | begins
  · exact nonempty (String.toList_eq_nil_iff.mp same.symm)
  · simp at begins

theorem names_iff (plain : ∀ piece ∈ Text.splitOn ',' text.toList, IsPlain piece)
    (nonempty : target ≠ "") : names text target = true ↔ SpeaksOf text target := by
  simp only [names, pieces, List.any_eq_true, List.mem_filter, Bool.not_eq_true', SpeaksOf]
  refine exists_congr fun piece => ?_
  rw [and_assoc]
  refine and_congr_right fun mem => ?_
  rw [targetPart_of_plain (plain piece mem), isWithin_iff, and_iff_right_iff_imp]
  intro within
  cases piece with
  | nil =>
    have within : isWithin target [] = true := isWithin_iff.mpr within
    rw [not_isWithin_nil nonempty] at within
    cases within
  | cons c cs => rfl

/-- What a filter with the defaults lets through for a launch target with its default level. -/
structure LaunchLevels (text : String) (own f : Filter) (target : String) (level : LogLevel) :
    Prop where
  /-- If the filter speaks of the target, it decides alone. -/
  spoken : SpeaksOf text target → ∀ l, f.enables target l = own.enables target l
  /-- Of the pieces for the target itself, the last one decides. -/
  named : ∀ before piece after, Text.splitOn ',' text.toList = before ++ piece :: after →
    leftOf piece = target.toList → (∀ later ∈ after, leftOf later ≠ target.toList) →
    ∃ v, Verbosity.ofSetting? (rightOf piece) = some v ∧ ∀ l, f.enables target l = v.allows l
  /-- Otherwise the default decides, whatever else the filter says. -/
  unspoken : ¬SpeaksOf text target → ∀ l, f.enables target l = true ↔ l.rank ≤ level.rank

/-- The last piece that is for a target itself decides in a plain filter. -/
theorem governing?_of_named (plain : ∀ piece ∈ Text.splitOn ',' text.toList, IsPlain piece)
    (read : parse? text = some own) (nonempty : target ≠ "")
    (noLevel : Verbosity.ofWord? target.toList = none) {before after : List (List Char)}
    {piece : List Char} (split : Text.splitOn ',' text.toList = before ++ piece :: after)
    (here : leftOf piece = target.toList)
    (last : ∀ later ∈ after, leftOf later ≠ target.toList) :
    ∃ v, Verbosity.ofSetting? (rightOf piece) = some v ∧
      own.governing? target = some (.ofTarget target v) := by
  obtain ⟨directives, each, rfl⟩ := Option.map_eq_some_iff.mp read
  have present : piece ≠ [] := by
    rintro rfl
    exact nonempty (String.toList_eq_nil_iff.mp here.symm)
  have kept : pieces text = before.filter (fun p => !p.isEmpty) ++
      piece :: after.filter (fun p => !p.isEmpty) := by
    rw [pieces, split, List.filter_append, List.filter_cons_of_pos (by simpa using present)]
  rw [kept] at each
  obtain ⟨front, d, back, rfl, first, rest⟩ := Json.mapM_append_cons each
  have plainHere : IsPlain piece := plain piece (by simp [split])
  obtain ⟨v, set, rfl⟩ := ofPiece?_of_plain plainHere first here noLevel
  refine ⟨v, set, governing?_of_last ?_ rfl fun e mem _ whole => ?_⟩
  · exact Directive.governs_ofTarget.mpr List.prefix_rfl
  · obtain ⟨later, mem, readLater⟩ := Json.exists_of_mem_mapM rest mem
    have mem : later ∈ after := List.mem_of_mem_filter mem
    have plainLater : IsPlain later := plain later (by simp [split, mem])
    exact last later mem (toList_target_of_plain plainLater readLater whole).symm

/-- The level of each launch target under a plain filter: what the filter says of the target or of
one below it, else the default. -/
theorem enables_launchTarget (plain : ∀ piece ∈ Text.splitOn ',' text.toList, IsPlain piece)
    (accepted : parseWithDefaults? text = some f) :
    ∃ own, parse? text = some own ∧ ∀ target level, (target, level) ∈ launchDefaults →
      LaunchLevels text own f target level := by
  obtain ⟨own, read, levels⟩ := enables_iff_reached accepted
  refine ⟨own, read, fun target level listed => ?_⟩
  obtain ⟨nonempty, noLevel⟩ := launchDefaults_spec _ listed
  have spoken : SpeaksOf text target → ∀ l, f.enables target l = own.enables target l := by
    refine fun speaks => (levels target).2 fun launch reaches => ?_
    -- Only the target's own default is at its beginning, and it is not open.
    have same := eq_of_begins reaches.listed listed reaches.begins List.prefix_rfl
    have named := (names_iff plain nonempty).mpr speaks
    have left := reaches.left
    rw [same, named] at left
    cases left
  refine ⟨spoken, fun before piece after split here last => ?_, fun silent => ?_⟩
  · obtain ⟨v, set, decides⟩ := governing?_of_named plain read nonempty noLevel split here last
    refine ⟨v, set, fun l => ?_⟩
    rw [spoken ⟨piece, by simp [split], .inl here⟩ l]
    exact enables_of_governing decides l
  · refine (levels target).1 (target, level) ⟨listed, ?_, List.prefix_rfl, fun d _ governs => ?_⟩
    · exact eq_false_of_ne_true fun named => silent ((names_iff plain nonempty).mp named)
    · exact Directive.specificity_le_of_governs governs

theorem enables_launchTarget_dispatchTrace :
    (∀ piece ∈ Text.splitOn ',' "error,dispatch=trace".toList, IsPlain piece) ∧
      ∃ own f, parse? "error,dispatch=trace" = some own ∧
        parseWithDefaults? "error,dispatch=trace" = some f ∧
        LaunchLevels "error,dispatch=trace" own f "dispatch" .info ∧
        LaunchLevels "error,dispatch=trace" own f "launch" .info := by
  have plain : ∀ piece ∈ Text.splitOn ',' "error,dispatch=trace".toList, IsPlain piece := by
    decide +kernel
  obtain ⟨own, read, levels⟩ := enables_launchTarget plain rfl
  exact ⟨plain, own, _, read, rfl, levels "dispatch" .info (by decide +kernel),
    levels "launch" .info (by decide +kernel)⟩

end LtiLaunch.Filter
