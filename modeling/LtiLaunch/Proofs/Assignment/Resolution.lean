import Mathlib.Logic.ExistsUnique
import LtiLaunch.Proofs.Launch.Answers
import LtiLaunch.Proofs.Launch.Trace

/-!
# Predicates by their signals

What the predicates about the document come to, told from the four signals each by itself. To find
the source of the document is to look for the first signal that is present, and every predicate is a
question about that source; so they all fail together, and a failure is never taken for an absence.
-/

namespace LtiLaunch

variable {σ α : Type}

/-! ### The first of a list -/

section FirstMatch

variable {ε : Type} {p : α → Except ε Bool} {l : List α} {x : α}

theorem map_isSome_findM? {m : Type → Type} [Monad m] [LawfulMonad m] (p : α → m Bool) (l : List α) :
    Option.isSome <$> l.findM? p = l.anyM p := by
  induction l with
  | nil => simp [List.findM?, List.anyM]
  | cons x l ih =>
    rw [List.findM?, List.anyM, map_bind]
    refine bind_congr fun found => ?_
    cases found with
    | true => simp
    | false => exact ih

theorem of_findM? (found : l.findM? p = .ok (some x)) : p x = .ok true := by
  induction l with
  | nil => cases found
  | cons y l ih =>
    rw [List.findM?] at found
    cases answer : p y with
    | error e => simp [answer, bind, Except.bind] at found
    | ok holds =>
      cases holds with
      | false => exact ih (by simpa [answer, bind, Except.bind] using found)
      | true =>
        obtain rfl : y = x := by simpa [answer, bind, Except.bind, pure, Except.pure] using found
        exact answer

theorem findM?_eq_some_iff [DecidableEq α] (mem : x ∈ l) :
    l.findM? p = .ok (some x) ↔ p x = .ok true ∧ ∀ y ∈ l.takeWhile (· != x), p y = .ok false := by
  induction l with
  | nil => cases mem
  | cons y l ih =>
    by_cases same : y = x
    · subst same
      constructor
      · intro found
        exact ⟨of_findM? found, by simp⟩
      · rintro ⟨holds, -⟩
        simp [List.findM?, holds, bind, Except.bind, pure, Except.pure]
    · have mem := (List.mem_cons.mp mem).resolve_left (Ne.symm same)
      have before : (y :: l).takeWhile (· != x) = y :: l.takeWhile (· != x) := by simp [same]
      rw [before, List.forall_mem_cons, List.findM?]
      cases answer : p y with
      | error e => simp [bind, Except.bind]
      | ok holds =>
        cases holds with
        | false => simpa [bind, Except.bind] using ih mem
        | true => simp [bind, Except.bind, pure, Except.pure, same]

theorem Yields.findM? {W : σ → Prop} {f : α → LaunchM σ Bool} {g : α → Except LaunchError Bool}
    (h : ∀ x, Yields W (f x) (g x)) (l : List α) : Yields W (l.findM? f) (l.findM? g) := by
  induction l with
  | nil => exact Yields.pure
  | cons x l ih =>
    rw [List.findM?, List.findM?]
    refine Yields.bind_each (h x) fun found _ => ?_
    cases found with
    | true => exact Yields.pure
    | false => exact ih

end FirstMatch

/-- What the predicate says of the source of a document. -/
def SourcePredicate.holdsOf : SourcePredicate → Option DocumentSource → Bool
  | exactly v, source => source == some v
  | configured, source => source.isSome

theorem SourcePredicate.holds_eq (p : SourcePredicate) (document : Option AssignedDocument) :
    p.holds document = p.holdsOf (document.map AssignedDocument.source) := by
  cases p <;> cases document <;> rfl

theorem DocumentSource.mem_all (v : DocumentSource) : v ∈ all := by
  cases v <;> decide

theorem AssignmentKey.ofRequest?_eq_some_iff {r : LaunchRequest} {key : AssignmentKey} :
    ofRequest? r = some key ↔ r.value? "tool_consumer_instance_guid" = some key.platformGuid ∧
      r.value? "resource_link_id" = some key.resourceLinkId := by
  obtain ⟨guid, link⟩ := key
  unfold ofRequest?
  cases r.value? "tool_consumer_instance_guid" <;> cases r.value? "resource_link_id" <;> simp

namespace Signals

/-- Whether the signal of the source is present, asked for by itself. -/
def present (b : Backend σ) (r : LaunchRequest) : DocumentSource → LaunchM σ Bool
  | .onRecord => do return (← documentOnRecord b r).isSome
  | .url => return (linkedDocument? b.isUrl r).isSome
  | .canvasFile => do return (← canvasFile b r).isSome
  | .vitalSourceBook => return (vitalSourceBook? r).isSome

/-- The document comes from the first source whose signal is present. -/
theorem source_resolve (b : Backend σ) (r : LaunchRequest) :
    Option.map AssignedDocument.source <$> resolve b r =
      DocumentSource.all.findM? (present b r) := by
  unfold resolve DocumentSource.all
  simp only [List.findM?, present, map_bind, bind_assoc, pure_bind]
  refine bind_congr fun document => ?_
  cases document with
  | some document => rfl
  | none =>
    cases linkedDocument? b.isUrl r with
    | some document => rfl
    | none =>
      simp only [Option.isSome_none, map_bind]
      refine bind_congr fun file => ?_
      cases file with
      | some file => rfl
      | none => cases vitalSourceBook? r <;> rfl

theorem evaluate_eq (b : Backend σ) (p : SourcePredicate) (r : LaunchRequest) :
    evaluate b p r = p.holdsOf <$> DocumentSource.all.findM? (present b r) := by
  rw [← source_resolve, Functor.map_map]
  unfold evaluate
  rw [map_eq_pure_bind]
  refine bind_congr fun document => ?_
  rw [SourcePredicate.holds_eq]

theorem evaluate_configured (b : Backend σ) (r : LaunchRequest) :
    evaluate b .configured r = DocumentSource.all.anyM (present b r) := by
  rw [evaluate_eq]
  exact map_isSome_findM? _ _

variable {W : σ → Prop} {b : Backend σ} {a : Answers} {r : LaunchRequest} {s : σ}

/-- Over a backend that answers as a function, a signal is the same in every world. -/
theorem yields_present (h : b.Follows W a) (hs : W s) (v : DocumentSource) :
    Yields W (present b r v) (outcome (present b r v) s) := by
  have answered : ∃ o, Yields W (present b r v) o := by
    cases v with
    | onRecord => exact ⟨_, Yields.bind_each (yields_documentOnRecord h r) fun _ _ => Yields.pure⟩
    | url => exact ⟨_, Yields.pure⟩
    | canvasFile => exact ⟨_, Yields.bind_each (yields_canvasFile h r) fun _ _ => Yields.pure⟩
    | vitalSourceBook => exact ⟨_, Yields.pure⟩
  obtain ⟨o, yields⟩ := answered
  rwa [yields.outcome_eq hs]

theorem outcome_evaluate (h : b.Follows W a) (hs : W s) (p : SourcePredicate) :
    outcome (evaluate b p r) s =
      (DocumentSource.all.findM? fun v => outcome (present b r v) s).map p.holdsOf := by
  have found := Yields.findM? (fun v => yields_present (r := r) h hs v) DocumentSource.all
  rw [evaluate_eq, map_eq_pure_bind]
  rw [(Yields.bind_each found fun _ _ => Yields.pure).outcome_eq hs]
  cases DocumentSource.all.findM? fun v => outcome (present b r v) s <;> rfl

theorem outcome_evaluate_exactly (h : b.Follows W a) (hs : W s) (v : DocumentSource) :
    outcome (evaluate b (.exactly v) r) s = .ok true ↔
      DocumentSource.all.findM? (fun w => outcome (present b r w) s) = .ok (some v) := by
  rw [outcome_evaluate h hs]
  cases DocumentSource.all.findM? fun w => outcome (present b r w) s <;>
    simp [Except.map, SourcePredicate.holdsOf]

end Signals

/-! ### Failures -/

namespace Answers

variable {a : Answers} {r : LaunchRequest} {e : LaunchError}

theorem documentOnRecord_eq_error_iff :
    a.documentOnRecord r = .error e ↔
      ∃ key, AssignmentKey.ofRequest? r = some key ∧ a.documentUrl key = .error e := by
  unfold documentOnRecord
  cases AssignmentKey.ofRequest? r <;> simp

theorem documentOnRecord_eq_none_iff :
    a.documentOnRecord r = .ok none ↔
      ∀ key, AssignmentKey.ofRequest? r = some key → a.documentUrl key = .ok none := by
  unfold documentOnRecord
  cases AssignmentKey.ofRequest? r <;> simp

theorem canvasFile_eq_error_iff :
    a.canvasFile r = .error e ↔ r.has "canvas_file" = true ∧ r.has "file_id" = true ∧
      Signals.fromCanvas r = true ∧ a.canvasFiles r = .error e := by
  unfold canvasFile
  rw [r.has_eq "file_id"]
  cases r.has "canvas_file" <;> cases r.value? "file_id" <;> cases Signals.fromCanvas r <;> simp
  cases a.canvasFiles r <;> simp [Except.map]

/-- What cannot be found out is what the first of the two questions that fails is about. -/
theorem resolve_eq_error_iff :
    a.resolve r = .error e ↔ a.documentOnRecord r = .error e ∨
      a.documentOnRecord r = .ok none ∧ Signals.LeadsToFile a.isUrl r ∧
        a.canvasFiles r = .error e := by
  have leads : Signals.linkedDocument? a.isUrl r = none ∧ a.canvasFile r = .error e ↔
      Signals.LeadsToFile a.isUrl r ∧ a.canvasFiles r = .error e := by
    rw [canvasFile_eq_error_iff]
    constructor
    · rintro ⟨unlinked, marked, named, canvas, failed⟩
      exact ⟨⟨unlinked, marked, named, canvas⟩, failed⟩
    · rintro ⟨⟨unlinked, marked, named, canvas⟩, failed⟩
      exact ⟨unlinked, marked, named, canvas, failed⟩
  rw [← leads]
  unfold resolve
  cases a.documentOnRecord r with
  | error e' => simp [bind, Except.bind]
  | ok document =>
    cases document with
    | some document => simp [bind, Except.bind, pure, Except.pure]
    | none =>
      cases Signals.linkedDocument? a.isUrl r with
      | some document => simp [bind, Except.bind, pure, Except.pure]
      | none =>
        cases a.canvasFile r with
        | error e' => simp [bind, Except.bind]
        | ok file => cases file <;> simp [bind, Except.bind, pure, Except.pure]

end Answers

namespace Signals

/-- What the predicates about the document of `r` come to in the world `s`. -/
structure BySignals (b : Backend σ) (r : LaunchRequest) (s : σ) : Prop where
  /-- The signals one after the other, up to the first that is present or fails. -/
  configured : evaluate b .configured r = DocumentSource.all.anyM (present b r)
  exactly : ∀ v x, outcome (evaluate b (.exactly v) r) s = .ok x →
    (x = true ↔ outcome (present b r v) s = .ok true ∧
      ∀ w ∈ DocumentSource.all.takeWhile (· != v), outcome (present b r w) s = .ok false)
  atMostOne : ∀ v w, outcome (evaluate b (.exactly v) r) s = .ok true →
    outcome (evaluate b (.exactly w) r) s = .ok true → v = w
  union : outcome (evaluate b .configured r) s = .ok true ↔
    ∃! v, outcome (evaluate b (.exactly v) r) s = .ok true
  together : (∃ e, ∀ p, outcome (evaluate b p r) s = .error e) ∨
    ∀ p, ∃ x, outcome (evaluate b p r) s = .ok x
  fails : ∀ p e, outcome (evaluate b p r) s = .error e ↔
    (∃ key, AssignmentKey.ofRequest? r = some key ∧ outcome (b.documentUrl key) s = .error e) ∨
      (∀ key, AssignmentKey.ofRequest? r = some key → outcome (b.documentUrl key) s = .ok none) ∧
        LeadsToFile b.isUrl r ∧ outcome (b.canvasFilesAvailable r) s = .error e
  /-- The store is asked only for an assignment that is named in full, and the platform only for a
  file that the launch leads to. -/
  calls : ∀ p, ∃ calls, (evaluate b.recorded p r).run.run (s, []) =
      (outcome (evaluate b p r) s, after (evaluate b p r) s, calls) ∧
    (∀ key, .documentUrl key ∈ calls →
      r.value? "tool_consumer_instance_guid" = some key.platformGuid ∧
        r.value? "resource_link_id" = some key.resourceLinkId) ∧
    (.canvasFiles ∈ calls → LeadsToFile b.isUrl r)

variable {W : σ → Prop} {b : Backend σ} {a : Answers} {r : LaunchRequest} {s : σ}

theorem logs_evaluate (b : Backend σ) (p : SourcePredicate) (r : LaunchRequest) (s : σ) :
    Logs (evaluate b.recorded p r) (evaluate b p r) s (Inquiry b.isUrl r) := by
  refine Logs.bind (inquiry_resolve b r s) (Q := fun _ => (· = [])) ?_ ?_ ?_
  · exact fun document _ => Logs.pure rfl
  · rintro document calls _ - asked rfl
    rwa [List.append_nil]
  · exact fun _ _ _ asked => asked

theorem outcome_evaluate_eq_error_iff (h : b.Follows W a) (hs : W s) (p : SourcePredicate)
    (e : LaunchError) : outcome (evaluate b p r) s = .error e ↔ a.resolve r = .error e := by
  have resolved : outcome (evaluate b p r) s = (a.resolve r).map p.holds :=
    (Yields.bind_each (yields_resolve h r) fun _ _ => Yields.pure).outcome_eq hs
  rw [resolved]
  cases a.resolve r <;> simp [Except.map]

/-- Over a backend that answers as a function, the predicates come to what `BySignals` says. -/
theorem evaluate_bySignals (h : b.Follows W a) (r : LaunchRequest) (hs : W s) : BySignals b r s := by
  have exactly (v : DocumentSource) := outcome_evaluate_exactly (r := r) h hs v
  have failed (p : SourcePredicate) := outcome_evaluate_eq_error_iff (r := r) h hs p
  constructor
  case configured => exact evaluate_configured b r
  case exactly =>
    intro v x came
    refine Iff.trans ?_ ((exactly v).trans (findM?_eq_some_iff (DocumentSource.mem_all v)))
    simp [came]
  case atMostOne =>
    intro v w first second
    have same := ((exactly v).mp first).symm.trans ((exactly w).mp second)
    simpa using same
  case union =>
    simp only [outcome_evaluate h hs]
    cases DocumentSource.all.findM? fun w => outcome (present b r w) s with
    | error e => simp [Except.map]
    | ok source => cases source <;> simp [Except.map, SourcePredicate.holdsOf]
  case together =>
    cases resolved : a.resolve r with
    | error e => exact .inl ⟨e, fun p => (failed p e).mpr resolved⟩
    | ok document =>
      refine .inr fun p => ?_
      cases came : outcome (evaluate b p r) s with
      | ok x => exact ⟨x, rfl⟩
      | error e =>
        have stuck := (failed p e).mp came
        rw [resolved] at stuck
        cases stuck
  case fails =>
    intro p e
    rw [failed, Answers.resolve_eq_error_iff, Answers.documentOnRecord_eq_error_iff,
      Answers.documentOnRecord_eq_none_iff]
    simp only [(h.documentUrl _).outcome_eq hs, (h.canvasFiles r).outcome_eq hs, h.isUrl]
  case calls =>
    intro p
    obtain ⟨calls, run, inquiry⟩ := logs_evaluate b p r s []
    refine ⟨calls, run, fun key asked => ?_, inquiry.leadsToFile_of_mem⟩
    exact AssignmentKey.ofRequest?_eq_some_iff.mp (inquiry.ofRequest?_of_mem asked)

def namesFile (more : List (String × String)) : LaunchRequest :=
  { LaunchRequest.byInstructor with
    params := .ofList ([("resource_link_id", "link"), ("tool_consumer_instance_guid", "platform"),
      ("canvas_file", "true"), ("file_id", "7"),
      ("tool_consumer_info_product_family_code", "Canvas")] ++ more) }

def noFiles : Answers := { Answers.unreachable with documentUrl := fun _ => .ok none }

/-- Where the platform cannot be asked for a file, no predicate comes to an answer, unless the launch
gives an address, so that the platform need not be asked. -/
theorem evaluate_bySignals_file :
    (noFiles.backend : Backend Unit).Follows (fun _ => True) noFiles ∧
      (∀ p, outcome (evaluate noFiles.backend p (namesFile [])) () =
        .error (.failedLookup "no files")) ∧
      outcome (evaluate noFiles.backend (.exactly .url)
        (namesFile [("url", "https://example.org/a.pdf")])) () = .ok true := by
  have follows := noFiles.follows_backend (σ := Unit)
  have unlinked := evaluate_bySignals follows (namesFile []) (s := ()) trivial
  have linked := evaluate_bySignals follows (namesFile [("url", "https://example.org/a.pdf")])
    (s := ()) trivial
  have address : linkedDocument? (noFiles.backend : Backend Unit).isUrl
      (namesFile [("url", "https://example.org/a.pdf")]) = some "https://example.org/a.pdf" := by
    decide +kernel
  refine ⟨follows, fun p => (unlinked.fails p _).mpr (.inr ⟨fun _ _ => rfl, ?_, rfl⟩), ?_⟩
  · exact ⟨by decide, by decide, by decide, by decide⟩
  rcases linked.together with ⟨e, failed⟩ | answered
  · rcases (linked.fails .configured e).mp (failed _) with ⟨key, -, stuck⟩ | ⟨-, leads, -⟩
    · cases stuck
    · rw [leads.unlinked] at address
      cases address
  · obtain ⟨x, came⟩ := answered (.exactly .url)
    obtain rfl : x = true := by
      refine (linked.exactly .url x came).mpr ⟨?_, ?_⟩
      · show Except.ok (linkedDocument? _ _).isSome = _
        rw [address]
        rfl
      · intro w earlier
        obtain rfl := List.mem_singleton.mp earlier
        rfl
    exact came

end Signals

end LtiLaunch
