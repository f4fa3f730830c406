import LtiLaunch.Proofs.Dispatch.Effects
import LtiLaunch.Proofs.Dispatch.Run
import LtiLaunch.Proofs.Overlay
import LtiLaunch.Proofs.Views.DecisionTable
import LtiLaunch.Service.Memory

/-!
# A store that others write to

The document of an assignment is looked up twice in a launch, for the guards and again for the view,
and others may insert documents before any call that the launch makes. They take none away: what was
found once is found again, unless a document has been put on record for the assignment meanwhile.
-/

namespace LtiLaunch

open Selection

/-- A store, and what others insert into it: one batch before each call. Nothing but calls reads the
store, so the batches are any interleaving of insertions with the steps of a launch. -/
structure SharedWorld where
  store : AssignmentStore
  arrivals : List (List (AssignmentKey × String))

namespace SharedWorld

variable {w w' w'' : SharedWorld}

/-- The world with the next batch inserted. -/
def next (w : SharedWorld) : SharedWorld :=
  ⟨w.store.insertAll (w.arrivals.headD []), w.arrivals.tail⟩

/-- Nothing has happened from `w` to `w'` but that the first batches of `w` were inserted. -/
def Since (w w' : SharedWorld) : Prop :=
  ∃ past, w.arrivals = past ++ w'.arrivals ∧ w'.store = w.store.insertAll past.flatten

theorem Since.refl (w : SharedWorld) : Since w w := ⟨[], rfl, rfl⟩

theorem Since.trans (h : Since w w') (h' : Since w' w'') : Since w w'' := by
  obtain ⟨past, arrivals, store⟩ := h
  obtain ⟨past', arrivals', store'⟩ := h'
  refine ⟨past ++ past', ?_, ?_⟩
  · rw [arrivals, arrivals', List.append_assoc]
  · rw [store', store, List.flatten_append]
    exact List.foldl_append.symm

theorem since_next (w : SharedWorld) : Since w w.next := by
  obtain ⟨store, arrivals⟩ := w
  cases arrivals with
  | nil => exact .refl _
  | cons batch arrivals => exact ⟨[batch], rfl, by rw [List.flatten_singleton]; rfl⟩

/-- The document on record for the assignment that the request names. -/
def documentOf? (w : SharedWorld) (r : LaunchRequest) : Option String :=
  (AssignmentKey.ofRequest? r).bind w.store.get?

theorem Since.documentOf?_isSome (h : Since w w') {r : LaunchRequest}
    (known : (w.documentOf? r).isSome) : (w'.documentOf? r).isSome := by
  obtain ⟨past, -, store⟩ := h
  unfold documentOf? at known ⊢
  cases named : AssignmentKey.ofRequest? r with
  | none => simp [named] at known
  | some key =>
    rw [named, Option.bind_some] at known
    rw [Option.bind_some, store, SortedMap.get?_insertAll, Option.isSome_or, known, Bool.or_true]

end SharedWorld

open SharedWorld

namespace Answers

/-- The backend whose documents are in the shared store, and that gives the other answers. -/
def shared (a : Answers) : Backend SharedWorld :=
  Backend.observed (fun _ => modify SharedWorld.next)
    { a.backend with
      documentUrl := (Memory.backend a.isUrl SharedWorld.store .empty .empty
        (fun r => liftM (a.canvasFiles r)) fun _ => return).documentUrl }

/-- The answers, but that this document is on record for every assignment, if there is one. -/
def withDocument (a : Answers) (document : Option String) : Answers :=
  { a with documentUrl := fun _ => .ok document }

variable {a : Answers} {r : LaunchRequest} {w g : SharedWorld}

/-- What is found once is found with a later document on record too, or it is that document. -/
theorem resolve_withDocument {document document' : Option String} {c : AssignedDocument}
    (found : (a.withDocument document).resolve r = .ok (some c))
    (kept : document.isSome → document'.isSome) :
    ∃ c', (a.withDocument document').resolve r = .ok (some c') ∧
      (c' = c ∨ ∃ key url, AssignmentKey.ofRequest? r = some key ∧ document' = some url ∧
        c' = .onRecord url) := by
  cases named : AssignmentKey.ofRequest? r with
  | none =>
    have same : (a.withDocument document').resolve r = (a.withDocument document).resolve r := by
      unfold resolve documentOnRecord
      rw [named]
      rfl
    exact ⟨c, same.trans found, .inl rfl⟩
  | some key =>
    cases document' with
    | some url =>
      refine ⟨.onRecord url, ?_, .inr ⟨key, url, rfl, rfl, rfl⟩⟩
      unfold resolve documentOnRecord
      rw [named]
      rfl
    | none =>
      obtain rfl : document = none := by simpa using kept
      exact ⟨c, found, .inl rfl⟩

/-! ### Searches for the document -/

/-- The backend once it has looked up the document. -/
def settled (a : Answers) (document : Option String) : Backend SharedWorld :=
  { a.shared with documentUrl := fun _ => return document }

theorem yields_next (g : SharedWorld) :
    Yields (Since g) (modify SharedWorld.next : LaunchM SharedWorld Unit) (.ok ()) :=
  fun w since => ⟨rfl, since.trans (since_next w)⟩

theorem follows_settled (a : Answers) (document : Option String) (g : SharedWorld) :
    (a.settled document).Follows (Since g) (a.withDocument document) where
  isUrl := rfl
  documentUrl _ := Yields.pure
  lmsUrl _ := Yields.bind (yields_next g) (Yields.ofExcept _)
  canvasFiles _ := Yields.bind (yields_next g) (Yields.ofExcept _)
  flag _ _ w since := ⟨rfl, since.trans (since_next w)⟩
  upsertUser _ := Yields.bind (yields_next g) (Yields.ofExcept _)
  upsertCourseGroup _ := Yields.bind (yields_next g) (Yields.ofExcept _)
  journal _ _ since := ⟨rfl, since⟩

/-- A search that begins in `w` sees the store as it is in `g`, and ends in `w'`. -/
structure Search (a : Answers) (r : LaunchRequest) (w g w' : SharedWorld) : Prop where
  run : (Signals.resolve a.shared r).run.run w =
    ((a.withDocument (g.documentOf? r)).resolve r, w')
  reached : Since w g
  left : Since g w'
  lookup : ∀ key, AssignmentKey.ofRequest? r = some key → g = after (a.shared.documentUrl key) w

theorem exists_search (a : Answers) (r : LaunchRequest) (w : SharedWorld) :
    ∃ g w', Search a r w g w' := by
  -- the lookup comes first, so the rest of the search is over a settled backend
  obtain ⟨g, reached, lookup, rest⟩ : ∃ g, Since w g ∧
      (∀ key, AssignmentKey.ofRequest? r = some key → g = after (a.shared.documentUrl key) w) ∧
      (Signals.resolve a.shared r).run.run w =
        (Signals.resolve (a.settled (g.documentOf? r)) r).run.run g := by
    unfold Signals.resolve Signals.documentOnRecord documentOf?
    cases named : AssignmentKey.ofRequest? r with
    | none => exact ⟨w, .refl w, by simp, rfl⟩
    | some key => exact ⟨w.next, since_next w, fun _ same => by cases same; rfl, rfl⟩
  obtain ⟨found, left⟩ :=
    Signals.yields_resolve (a.follows_settled (g.documentOf? r) g) r g (.refl g)
  exact ⟨g, _, rest.trans (Prod.ext found rfl), reached, left, lookup⟩

end Answers

/-! ### Launches -/

/-- As a search that begins in `z` looks it up, `shown` is on record for the assignment of the
request, be it from before `w` or by the batches inserted since. -/
def StoredSince (a : Answers) (r : LaunchRequest) (w z : SharedWorld) (shown : AssignedDocument) :
    Prop :=
  ∃ key url z', AssignmentKey.ofRequest? r = some key ∧ shown = .onRecord url ∧
    z' = after (a.shared.documentUrl key) z ∧ Since w z' ∧ z'.store.get? key = some url

theorem StoredSince.of_since {a : Answers} {r : LaunchRequest} {w w' z : SharedWorld}
    {shown : AssignedDocument} (stored : StoredSince a r w' z shown) (since : Since w w') :
    StoredSince a r w z shown := by
  obtain ⟨key, url, z', named, same, lookup, since', stored⟩ := stored
  exact ⟨key, url, z', named, same, lookup, since.trans since', stored⟩

/-- What is remembered at `p` of the document was seen at a moment since `w`. -/
def Recalled (a : Answers) (r : LaunchRequest) (w : SharedWorld) (p : Point SharedWorld) : Prop :=
  Since w p.1 ∧ ∀ found, p.2 = some found →
    ∃ g, Since g p.1 ∧ (a.withDocument (g.documentOf? r)).resolve r = .ok found

variable {a : Answers} {r : LaunchRequest} {w : SharedWorld}

theorem recalled_of_judged {p q : Point SharedWorld} {guard : Guard} {pass : Bool}
    (judged : Judged a.shared r p guard pass q) (recalled : Recalled a r w p) :
    Recalled a r w q := by
  obtain ⟨since, seen⟩ := recalled
  rcases judged.cases with ⟨name, enabled, -, rfl⟩ | ⟨expected, -, rfl⟩ |
    ⟨d, expected, document, -, -, known, ⟨same, world⟩ | ⟨-, run⟩⟩
  · refine ⟨since.trans (since_next p.1), fun found known => ?_⟩
    obtain ⟨g, later, resolved⟩ := seen found known
    exact ⟨g, later.trans (since_next p.1), resolved⟩
  · exact ⟨since, seen⟩
  · obtain rfl : p = q := Prod.ext world.symm (same.trans known.symm)
    exact ⟨since, seen⟩
  · obtain ⟨g, w', search⟩ := a.exists_search r p.1
    have came := search.run.symm.trans run
    obtain ⟨resolved, rfl⟩ := Prod.mk.inj came
    refine ⟨since.trans (search.reached.trans search.left), fun found remembered => ?_⟩
    obtain rfl : document = found := Option.some.inj (known.symm.trans remembered)
    exact ⟨g, search.left, resolved⟩

namespace Stages

section Guarded

variable {σ η : Type} (b : Backend σ) (t : DispatchTable η) (r : LaunchRequest)

/-- The guards that chose `c` in a launch from `s` on have seen the document `found`. -/
def Guarded (s : σ) (c : Candidate η) (found : AssignedDocument) : Prop :=
  ∃ before rest q z, t.candidates r.key = before ++ c :: rest ∧
    AllRefused b r (s, none) before q ∧ Passed b r q c.guards.guards (z, some (some found))

end Guarded

/-- A launch from `w` on that was answered by the handler of `c`: the guards have seen the document
`found`, and the handler, which begins in `z`, shows the document `shown`. -/
structure Kept (a : Answers) (t : DispatchTable (Handler SharedWorld)) (r : LaunchRequest)
    (w : SharedWorld) (c : Candidate (Handler SharedWorld)) (found shown : AssignedDocument)
    (z : SharedWorld) : Prop where
  guarded : Guarded a.shared t r w c found
  named : c.name = DefaultViews.configuredName found.source
  prepared : Made a.shared r (after (chosen a.shared t r) w) c.preparations z
  handled : outcome (c.handler r) z = .ok ⟨Screens.configuredRenderer, shown.toJson.canonical⟩
  answered : outcome (answer a.shared t r) w = outcome (c.handler r) z
  document : shown = found ∨ StoredSince a r w z shown

variable {t : DispatchTable (Handler SharedWorld)} {c : Candidate (Handler SharedWorld)}

theorem chosen_shared (a : Answers) (t : DispatchTable (Handler SharedWorld)) (r : LaunchRequest) :
    chosen a.shared t r = choose a.shared t r := rfl

theorem recalled_of_chosen (choice : outcome (chosen a.shared t r) w = .ok c) :
    ∃ before rest q z, t.candidates r.key = before ++ c :: rest ∧
      AllRefused a.shared r (w, none) before q ∧ Passed a.shared r q c.guards.guards z ∧
        Recalled a r w z ∧ after (chosen a.shared t r) w = z.1 := by
  rw [chosen_shared] at choice ⊢
  obtain ⟨before, rest, q, z, split, refused, passed, world⟩ := passed_of_choose choice
  have start : Recalled a r w (w, none) := ⟨.refl w, by simp⟩
  have recalled := passed.keeps recalled_of_judged (refused.keeps recalled_of_judged start)
  exact ⟨before, rest, q, z, split, refused, passed, recalled, world⟩

/-- Preparations that succeed are made, whatever is inserted meanwhile. -/
theorem exists_made {steps : List Preparation} (succeed : ∀ step ∈ steps, a.prepare r step = .ok ())
    (s : SharedWorld) : ∃ z, Made a.shared r s steps z ∧ Since s z := by
  induction steps generalizing s with
  | nil => exact ⟨s, .nil s, .refl s⟩
  | cons step steps ih =>
    obtain ⟨first, succeed⟩ := List.forall_mem_cons.mp succeed
    obtain ⟨done, since⟩ : outcome (prepare a.shared r step) s = .ok () ∧
        Since s (after (prepare a.shared r step) s) := by
      rw [← first]
      have settled := a.follows_settled none s
      cases step with
      | upsertUser => exact settled.upsertUser r s (.refl s)
      | upsertCourseGroup => exact settled.upsertCourseGroup r s (.refl s)
    obtain ⟨z, made, since'⟩ := ih succeed (after (prepare a.shared r step) s)
    exact ⟨z, .cons (Prod.ext done rfl) made, since.trans since'⟩

end Stages

namespace Screens

/-- Where the document had been found before, the screen shows it, or one put on record since. -/
theorem outcome_configured_shared {g z : SharedWorld} {found : AssignedDocument} (since : Since g z)
    (resolved : (a.withDocument (g.documentOf? r)).resolve r = .ok (some found)) :
    ∃ shown, outcome (configured a.shared r) z = .ok ⟨configuredRenderer, shown.toJson.canonical⟩ ∧
      (shown = found ∨ StoredSince a r z z shown) := by
  obtain ⟨z', last, search⟩ := a.exists_search r z
  obtain ⟨shown, resolved, either⟩ := Answers.resolve_withDocument resolved
    (since.trans search.reached).documentOf?_isSome
  refine ⟨shown, ?_, either.imp_right ?_⟩
  · have came := outcome_of_run search.run
    rw [resolved] at came
    exact outcome_bind_ok came
  · rintro ⟨key, url, named, stored, rfl⟩
    refine ⟨key, url, z', named, rfl, search.lookup key named, search.reached, ?_⟩
    rwa [SharedWorld.documentOf?, named, Option.bind_some] at stored

end Screens

namespace DefaultViews

/-- A launch that a configured view was chosen for is answered by it, whatever others insert into the
store meanwhile. -/
theorem addTo_keeps_configured (v : Settings) (a : Answers) :
    ∃ t, addTo .builtin v a.shared .empty = .ok t ∧ ∀ r w c source,
      a.upsertUser r = .ok () → a.upsertCourseGroup r = .ok () →
      outcome (Stages.chosen a.shared t r) w = .ok c → c.name = configuredName source →
      ∃ found shown z, Stages.Kept a t r w c found shown z := by
  refine ⟨table v a.shared, addTo_empty v a.shared, fun r w c source user group choice named => ?_⟩
  obtain ⟨before, rest, q, ⟨z, memo⟩, split, refused, passed, ⟨since, seen⟩, world⟩ :=
    Stages.recalled_of_chosen choice
  have mem : c ∈ (table v a.shared).candidates r.key := by simp [split]
  obtain rfl := eq_configuredCandidate mem named
  -- the view's own guard has asked for the document, so it is remembered, and of this source
  obtain ⟨found, rfl, holds⟩ := passed.document
    (mem_guards_candidate.mpr (.inr ⟨(.document (.exactly source), true), List.mem_cons_self, rfl⟩))
  cases found with
  | none => cases holds
  | some found =>
    obtain rfl : found.source = source := by simpa [SourcePredicate.holds] using holds
    obtain ⟨g, later, resolved⟩ := seen _ rfl
    have succeed : ∀ step ∈ provision, a.prepare r step = .ok () := by
      intro step _
      cases step with
      | upsertUser => exact user
      | upsertCourseGroup => exact group
    obtain ⟨z', made, since'⟩ := Stages.exists_made succeed z
    obtain ⟨shown, handled, document⟩ :=
      Screens.outcome_configured_shared (later.trans since') resolved
    have prepared : Stages.Made a.shared r (after (Stages.chosen a.shared (table v a.shared) r) w)
        provision z' := by rwa [world]
    exact ⟨found, shown, z', ⟨before, rest, q, z, split, refused, passed⟩, named, prepared, handled,
      Stages.outcome_answer_of_made choice prepared,
      document.imp_right fun stored => stored.of_since (since.trans since')⟩

def assignedBook : LaunchRequest :=
  { LaunchRequest.byInstructor with
    params := .ofList [("resource_link_id", "link"), ("tool_consumer_instance_guid", "platform"),
      ("vitalsource_book", "true"), ("book_id", "BOOK-1")] }

/-- A document is put on record after five flags, a lookup and a preparation. -/
def assignedMeanwhile : SharedWorld where
  store := .empty
  arrivals := List.replicate 6 [] ++ [[(⟨"platform", "link"⟩, "https://example.org/a.pdf")]]

theorem chosen_assignedBook (v : Settings) :
    outcome (Stages.chosen Answers.unreachable.shared (table v Answers.unreachable.shared)
      assignedBook) assignedMeanwhile =
        .ok (configuredCandidate Answers.unreachable.shared .vitalSourceBook) := by
  have candidates : (table v Answers.unreachable.shared).candidates assignedBook.key = _ :=
    candidates_table_ltiLaunches v Answers.unreachable.shared
  unfold Stages.chosen choose
  rw [candidates]
  rfl

/-- A book is found, and by the time it is to be shown a document is on record. -/
theorem addTo_keeps_configured_meanwhile :
    ∃ t c found shown z, addTo .builtin sampleSettings Answers.unreachable.shared .empty = .ok t ∧
      outcome (Stages.chosen Answers.unreachable.shared t assignedBook) assignedMeanwhile = .ok c ∧
      Stages.Kept Answers.unreachable t assignedBook assignedMeanwhile c found shown z ∧
      found.source = .vitalSourceBook ∧
      outcome (Stages.answer Answers.unreachable.shared t assignedBook) assignedMeanwhile =
        .ok ⟨Screens.configuredRenderer,
          (AssignedDocument.onRecord "https://example.org/a.pdf").toJson.canonical⟩ := by
  obtain ⟨t, taken, keeps⟩ := addTo_keeps_configured sampleSettings Answers.unreachable
  obtain rfl := Except.ok.inj ((addTo_empty _ _).symm.trans taken)
  have choice := chosen_assignedBook sampleSettings
  obtain ⟨found, shown, z, kept⟩ := keeps _ _ _ .vitalSourceBook rfl rfl choice rfl
  refine ⟨_, _, found, shown, z, taken, choice, kept, ?_, ?_⟩
  · exact (configuredName_injective ((name_configuredCandidate _ _).symm.trans kept.named)).symm
  · exact (Stages.outcome_answer_of_made choice (.cons rfl (.cons rfl (.nil _)))).trans rfl

end DefaultViews

end LtiLaunch
