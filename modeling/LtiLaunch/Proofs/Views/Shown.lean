import LtiLaunch.Proofs.Json.Canonical
import LtiLaunch.Proofs.Views.Reply

/-!
# What a configured view shows

A configured view shows the document that was found for the request: where it comes from, and its
fields. The source goes by its tag there, and by its name in the journal and in the names of the
views; for a VitalSource book the two are not the same.
-/

namespace LtiLaunch

variable {σ : Type}

theorem DocumentSource.tag_eq_name_iff {v : DocumentSource} :
    v.tag = v.name ↔ v ≠ .vitalSourceBook := by
  cases v <;> decide

namespace AssignedDocument

/-- What is shown of a document, apart from where it comes from. -/
def fields : AssignedDocument → List (String × String)
  | onRecord address | url address => [("document_url", address)]
  | canvasFile file => [("file_id", file)]
  | vitalSourceBook book none => [("book_id", book)]
  | vitalSourceBook book (some cfi) => [("book_id", book), ("cfi", cfi)]

/-- All that is shown of a document, in no particular order. -/
def shown (c : AssignedDocument) : List (String × Json) :=
  ("configuration", .str c.source.tag) :: c.fields.map fun f => (f.1, .str f.2)

theorem toJson_eq (c : AssignedDocument) : c.toJson = .obj c.shown := by
  rcases c with _ | _ | _ | ⟨_, _ | _⟩ <;> rfl

theorem nodup_shown (c : AssignedDocument) : (c.shown.map Prod.fst).Nodup := by
  rcases c with _ | _ | _ | ⟨_, _ | _⟩ <;> simp [shown, fields]

theorem perm_canonicalMembers_shown (c : AssignedDocument) :
    (Json.canonicalMembers c.shown).Perm c.shown := by
  refine Json.perm_canonicalMembers_self c.nodup_shown fun m mem => ?_
  rcases List.mem_cons.mp mem with rfl | field
  · rfl
  · obtain ⟨f, -, rfl⟩ := List.mem_map.mp field
    rfl

theorem member?_toJson {c : AssignedDocument} {name : String} {x : Json}
    (mem : (name, x) ∈ c.shown) : c.toJson.canonical.member? name = some x := by
  rw [toJson_eq]
  exact Json.member?_of_sorted (Json.pairwise_canonicalMembers _)
    (c.perm_canonicalMembers_shown.mem_iff.mpr mem)

end AssignedDocument

/-- The arguments show the document `c` to the request. -/
structure Json.Shows (arguments : Json) (r : LaunchRequest) (c : AssignedDocument) : Prop where
  members : ∃ ms, arguments = .obj ms ∧ ms.Perm c.shown
  /-- The source goes by its name, unless it is a VitalSource book. -/
  named : arguments.member? "configuration" = some (.str c.source.name) ↔
    c.source ≠ .vitalSourceBook
  cfi : c.source = .vitalSourceBook → arguments.member? "cfi" = (r.value? "cfi").map .str

variable {W : σ → Prop} {b : Backend σ} {a : Answers} {r : LaunchRequest} {view : View}
  {c : AssignedDocument} {book url : String} {cfi : Option String} {credentials : PickerCredentials}

theorem Signals.cfi_of_vitalSourceBook? (found : vitalSourceBook? r = some (book, cfi)) :
    cfi = r.value? "cfi" := by
  unfold vitalSourceBook? at found
  cases marked : r.has "vitalsource_book" <;> cases named : r.value? "book_id" <;>
    simp [marked, named] at found
  exact found.2.2.symm

namespace Answers

theorem cfi_of_resolve (resolved : a.resolve r = .ok (some (.vitalSourceBook book cfi))) :
    cfi = r.value? "cfi" := by
  obtain ⟨onRecord, -, resolved⟩ := exists_ok_of_bind resolved
  split at resolved
  · cases resolved
  split at resolved
  · cases resolved
  obtain ⟨file, -, resolved⟩ := exists_ok_of_bind resolved
  split at resolved
  · cases resolved
  obtain ⟨_, found, same⟩ := Option.map_eq_some_iff.mp (Except.ok.inj resolved)
  cases same
  exact Signals.cfi_of_vitalSourceBook? found

theorem renderer_contentItemSelection
    (answered : a.contentItemSelection url credentials r = .ok view) :
    view.renderer = Screens.selectionRenderer := by
  obtain ⟨context, -, shown⟩ := exists_ok_of_bind answered
  cases shown
  rfl

theorem renderer_unconfigured (answered : a.unconfigured url credentials r = .ok view) :
    view.renderer = Screens.unconfiguredRenderer := by
  obtain ⟨link, -, rest⟩ := exists_ok_of_bind answered
  obtain ⟨lmsUrl, -, rest⟩ := exists_ok_of_bind rest
  obtain ⟨courseId, -, shown⟩ := exists_ok_of_bind rest
  cases shown
  rfl

end Answers

namespace DefaultViews

variable {v : Settings}

/-- Of the views only that of a document which was found has the renderer of configured
assignments. -/
theorem document_of_reply (answered : reply a v r = .ok view)
    (renderer : view.renderer = Screens.configuredRenderer) :
    ∃ c, a.resolve r = .ok (some c) ∧ view.arguments = c.toJson.canonical := by
  unfold reply at answered
  split at answered
  · cases answered
  split at answered
  · obtain ⟨⟨⟩, -, selection⟩ := exists_ok_of_bind answered
    exact absurd ((Answers.renderer_contentItemSelection selection).symm.trans renderer) (by decide)
  · obtain ⟨document, found, answered⟩ := exists_ok_of_bind answered
    cases document with
    | some c =>
      obtain ⟨⟨⟩, -, shown⟩ := exists_ok_of_bind answered
      cases shown
      exact ⟨c, resolve_of_found found, rfl⟩
    | none =>
      dsimp only at answered
      split at answered
      · obtain ⟨⟨⟩, -, unconfigured⟩ := exists_ok_of_bind answered
        exact absurd ((Answers.renderer_unconfigured unconfigured).symm.trans renderer) (by decide)
      · cases answered
        exact absurd renderer (show Screens.unauthorizedRenderer ≠ _ by decide)

theorem shows_of_resolve (resolved : a.resolve r = .ok (some c)) :
    c.toJson.canonical.Shows r c := by
  have configuration : c.toJson.canonical.member? "configuration" = some (.str c.source.tag) :=
    AssignedDocument.member?_toJson List.mem_cons_self
  constructor
  case members =>
    rw [c.toJson_eq]
    exact ⟨_, rfl, c.perm_canonicalMembers_shown⟩
  case named =>
    rw [configuration, ← DocumentSource.tag_eq_name_iff]
    simp
  case cfi =>
    intro book
    cases c with
    | vitalSourceBook book cfi =>
      rw [← Answers.cfi_of_resolve resolved]
      cases cfi <;> rfl
    | _ => cases book

/-- A launch that is answered with the renderer of configured assignments is shown the document
that was found for it. -/
theorem addTo_shows (v : Settings) (h : b.Follows W a) :
    ∃ t, addTo .builtin v b .empty = .ok t ∧ ∀ r s view, W s →
      outcome (Stages.answer b t r) s = .ok view → view.renderer = Screens.configuredRenderer →
      ∃ c, outcome (Signals.resolve b r) s = .ok (some c) ∧ view.arguments.Shows r c := by
  refine ⟨table v b, addTo_empty v b, fun r s view hs answered renderer => ?_⟩
  rw [(yields_reply h v r).outcome_eq hs] at answered
  obtain ⟨c, resolved, shown⟩ := document_of_reply answered renderer
  refine ⟨c, ((Signals.yields_resolve h r).outcome_eq hs).trans resolved, ?_⟩
  rw [shown]
  exact shows_of_resolve resolved

def namesBook : LaunchRequest :=
  { LaunchRequest.byInstructor with
    params := .ofList [("vitalsource_book", "true"), ("book_id", "BOOK-1"), ("cfi", "/6/4")] }

theorem answer_namesBook (v : Settings) :
    outcome (Stages.answer Answers.unreachable.backend (table v Answers.unreachable.backend)
      namesBook) () = .ok ⟨Screens.configuredRenderer,
        (AssignedDocument.vitalSourceBook "BOOK-1" (some "/6/4")).toJson.canonical⟩ :=
  (yields_reply Answers.unreachable.follows_backend v namesBook).outcome_eq trivial

/-- A book is shown at the place that the request names. -/
theorem addTo_shows_book :
    ∃ t view c, addTo .builtin sampleSettings Answers.unreachable.backend .empty = .ok t ∧
      outcome (Stages.answer Answers.unreachable.backend t namesBook) () = .ok view ∧
      outcome (Signals.resolve (Answers.unreachable.backend : Backend Unit) namesBook) () =
        .ok (some c) ∧ view.arguments.Shows namesBook c := by
  obtain ⟨t, taken, shows⟩ := addTo_shows sampleSettings Answers.unreachable.follows_backend
  obtain rfl := Except.ok.inj ((addTo_empty _ _).symm.trans taken)
  have answered := answer_namesBook sampleSettings
  obtain ⟨c, resolved, shown⟩ := shows namesBook () _ trivial answered rfl
  exact ⟨_, _, c, taken, answered, resolved, shown⟩

/-- A VitalSource book is shown under a name that no source of documents has. -/
theorem configuration_of_book :
    ∃ t view, addTo .builtin sampleSettings Answers.unreachable.backend .empty = .ok t ∧
      outcome (Stages.answer Answers.unreachable.backend t namesBook) () = .ok view ∧
      outcome (Signals.resolve (Answers.unreachable.backend : Backend Unit) namesBook) () =
        .ok (some (.vitalSourceBook "BOOK-1" (some "/6/4"))) ∧
      view.arguments.member? "configuration" = some (.str "vital_source_book") ∧
      ∀ source : DocumentSource, source.name ≠ "vital_source_book" := by
  refine ⟨_, _, addTo_empty _ _, answer_namesBook _, rfl, rfl, fun source => ?_⟩
  cases source <;> decide

end DefaultViews

end LtiLaunch
