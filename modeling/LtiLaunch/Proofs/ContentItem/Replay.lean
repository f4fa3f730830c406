import LtiLaunch.ContentItem.Selection
import LtiLaunch.Http.Service
import LtiLaunch.Proofs.Form
import LtiLaunch.Proofs.Launch.Answers
import LtiLaunch.Proofs.Overlay

/-!
# Launching a stored content item

The platform repeats the query of a stored content item at every launch of it. So the launch has
the parameters of the document that was picked, and unless the assignment has a document on record,
that document is shown.
-/

namespace LtiLaunch

variable {σ : Type}

namespace PickedDocument

def names : List String := ["url", "canvas_file", "file_id", "vitalsource_book", "book_id", "cfi"]

theorem name_mem_names {picked : PickedDocument} {p : String × String} (mem : p ∈ picked.params) :
    p.1 ∈ names := by
  have all : ∀ name ∈ picked.params.map Prod.fst, name ∈ names := by
    cases picked <;> simp [params, names]
  exact all _ (List.mem_map_of_mem mem)

def linked? (isUrl : String → Bool) : PickedDocument → Option String
  | url u => if isUrl (Text.trim u) then some (Text.trim u) else none
  | _ => none

def file? (offered : Bool) : PickedDocument → Option String
  | lmsFile file => if offered then some file else none
  | _ => none

def book? : PickedDocument → Option (String × String)
  | vitalSourceBook book cfi => if Text.isBlank book then none else some (book, cfi)
  | _ => none

/-- What a launch with the document's parameters shows; files have to be offered by the platform. -/
def shown (isUrl : String → Bool) (offered : Bool) : PickedDocument → Option AssignedDocument
  | url u => if isUrl (Text.trim u) then some (.url (Text.trim u)) else none
  | lmsFile file => if offered then some (.canvasFile file) else none
  | vitalSourceBook book cfi =>
    if Text.isBlank book then none else some (.vitalSourceBook book (some cfi))

theorem shown_eq (isUrl : String → Bool) (offered : Bool) (picked : PickedDocument) :
    picked.shown isUrl offered =
      match picked.linked? isUrl, picked.file? offered, picked.book? with
      | some document, _, _ => some (.url document)
      | none, some file, _ => some (.canvasFile file)
      | none, none, some book => some (.vitalSourceBook book.1 (some book.2))
      | none, none, none => none := by
  cases picked with
  | url u => cases valid : isUrl (Text.trim u) <;> simp [shown, linked?, file?, book?, valid]
  | lmsFile file => cases offered <;> rfl
  | vitalSourceBook book cfi =>
    cases blank : Text.isBlank book <;> simp [shown, linked?, file?, book?, blank]

end PickedDocument

namespace Text

theorem cutAt_append {sep : Char} {before : List Char} (absent : sep ∉ before)
    (rest : List Char) : cutAt sep (before ++ sep :: rest) = some (before, rest) := by
  induction before with
  | nil => rw [List.nil_append, cutAt, if_pos rfl]
  | cons c before ih =>
    obtain ⟨other, absent⟩ := not_or.mp (mt List.mem_cons.mpr absent)
    rw [List.cons_append, cutAt, if_neg (Ne.symm other), ih absent]
    rfl

end Text

theorem Route.not_mem_url {route : Route} {base : String} (absent : '?' ∉ base.toList) :
    '?' ∉ (route.url base).toList := by
  unfold url
  rw [String.toList_append, String.toList_ofList]
  intro mem
  rcases List.mem_append.mp mem with mem | mem
  · have mem := List.dropWhile_subset _ (List.mem_reverse.mp mem)
    exact absent (List.mem_reverse.mp mem)
  · revert mem
    cases route <;> decide

namespace ContentItem

theorem cutAt_url {base : String} (absent : '?' ∉ base.toList) (route : Route)
    (picked : PickedDocument) :
    ∃ link, (ofSelection (route.url base) picked).graph = [link] ∧
      Text.cutAt '?' link.url.toList =
        some ((route.url base).toList, Form.encodePairs picked.params) := by
  refine ⟨_, rfl, ?_⟩
  rw [String.toList_append, String.toList_append, List.append_assoc, Form.encode,
    String.toList_ofList, String.toList_ofList]
  exact Text.cutAt_append (Route.not_mem_url absent) _

variable {picked : PickedDocument} {body : List UInt8} {r : LaunchRequest}

theorem parameters_eq (apart : ∀ p ∈ Form.decode body, p.1 ∉ PickedDocument.names) :
    Http.parameters (some (Text.utf8 (Form.encodePairs picked.params))) body =
      (SortedMap.ofList (Form.decode body)).insertAll picked.params := by
  unfold Http.parameters
  rw [Option.getD_some, Form.decode_encodePairs]
  refine SortedMap.insertAll_ofList_comm fun p mem p' mem' same => ?_
  exact apart p' mem' (same ▸ PickedDocument.name_mem_names mem)

theorem value?_of_mem_names (apart : ∀ p ∈ Form.decode body, p.1 ∉ PickedDocument.names)
    (params : r.params = (SortedMap.ofList (Form.decode body)).insertAll picked.params)
    {name : String} (mem : name ∈ PickedDocument.names) :
    r.value? name = picked.params.reverse.lookup name := by
  have absent : ∀ p ∈ Form.decode body, p.1 ≠ name := fun p hp same => apart p hp (same ▸ mem)
  rw [LaunchRequest.value?, params, SortedMap.get?_insertAll, SortedMap.get?_ofList,
    SortedMap.lookup_reverse_eq_none absent, Option.or_none]

variable {W : σ → Prop} {b : Backend σ} {available : Bool}

/-- The parameters that stand for a document are those of the document picked. -/
def Repeats (r : LaunchRequest) (picked : PickedDocument) : Prop :=
  ∀ name ∈ PickedDocument.names, r.value? name = picked.params.reverse.lookup name

theorem linkedDocument?_picked {isUrl : String → Bool} (repeats : Repeats r picked) :
    Signals.linkedDocument? isUrl r = picked.linked? isUrl := by
  rw [Signals.linkedDocument?, repeats "url" (by decide)]
  cases picked <;> rfl

theorem yields_canvasFile_picked (repeats : Repeats r picked)
    (files : Yields W (b.canvasFilesAvailable r) (.ok available)) :
    Yields W (Signals.canvasFile b r) (.ok (picked.file? (Signals.fromCanvas r && available))) := by
  rw [Signals.canvasFile, LaunchRequest.has_eq, repeats "canvas_file" (by decide),
    repeats "file_id" (by decide)]
  cases picked with
  | url u => exact Yields.pure
  | vitalSourceBook book cfi => exact Yields.pure
  | lmsFile file =>
    show Yields W (if Signals.fromCanvas r then _ else _) _
    cases Signals.fromCanvas r with
    | false => exact Yields.pure
    | true =>
      refine Yields.bind files ?_
      cases available <;> exact Yields.pure

theorem vitalSourceBook?_picked (repeats : Repeats r picked) :
    Signals.vitalSourceBook? r = picked.book?.map fun book => (book.1, some book.2) := by
  rw [Signals.vitalSourceBook?, LaunchRequest.has_eq, repeats "vitalsource_book" (by decide),
    repeats "book_id" (by decide), repeats "cfi" (by decide)]
  cases picked with
  | url u => rfl
  | lmsFile file => rfl
  | vitalSourceBook book cfi =>
    show (if Text.isBlank book then none else some (book, some cfi)) = _
    cases blank : Text.isBlank book <;> simp [PickedDocument.book?, blank]

/-- A launch without a document on record shows the document picked. -/
theorem yields_resolve_picked (repeats : Repeats r picked)
    (noRecord : ∀ key, AssignmentKey.ofRequest? r = some key →
      Yields W (b.documentUrl key) (.ok none))
    (files : Yields W (b.canvasFilesAvailable r) (.ok available)) :
    Yields W (Signals.resolve b r)
      (.ok (picked.shown b.isUrl (Signals.fromCanvas r && available))) := by
  have onRecord : Yields W (Signals.documentOnRecord b r) (.ok none) := by
    unfold Signals.documentOnRecord
    cases named : AssignmentKey.ofRequest? r with
    | some key => exact noRecord key named
    | none => exact Yields.pure
  have filed := yields_canvasFile_picked repeats files
  unfold Signals.resolve
  rw [linkedDocument?_picked repeats, vitalSourceBook?_picked repeats]
  refine Yields.bind onRecord ?_
  rw [PickedDocument.shown_eq]
  cases picked.linked? b.isUrl with
  | some document => exact Yields.pure
  | none =>
    refine Yields.bind filed ?_
    cases picked.file? (Signals.fromCanvas r && available) with
    | some file => exact Yields.pure
    | none => cases picked.book? <;> exact Yields.pure

/-- The query of a stored item's link adds the parameters of the document picked to those that the
platform posts, and a launch with them that has no document on record shows that document. -/
theorem launch_of_stored {base : String} (plain : '?' ∉ base.toList) (picked : PickedDocument)
    {body : List UInt8} (apart : ∀ p ∈ Form.decode body, p.1 ∉ PickedDocument.names) :
    ∃ link before query, (ofSelection (Route.ltiLaunches.url base) picked).graph = [link] ∧
      Text.cutAt '?' link.url.toList = some (before, query) ∧
      Http.parameters (some (Text.utf8 query)) body =
        (SortedMap.ofList (Form.decode body)).insertAll picked.params ∧
      ∀ {σ : Type} {W : σ → Prop} {b : Backend σ} {available : Bool} (r : LaunchRequest),
        r.params = Http.parameters (some (Text.utf8 query)) body →
        (∀ key, AssignmentKey.ofRequest? r = some key → Yields W (b.documentUrl key) (.ok none)) →
        Yields W (b.canvasFilesAvailable r) (.ok available) → ∀ s, W s →
          outcome (Signals.resolve b r) s =
            .ok (picked.shown b.isUrl (Signals.fromCanvas r && available)) := by
  obtain ⟨link, only, cut⟩ := cutAt_url plain .ltiLaunches picked
  refine ⟨link, _, _, only, cut, parameters_eq apart, ?_⟩
  intro σ W b available r params noRecord files s hs
  have repeats : Repeats r picked := fun name mem =>
    value?_of_mem_names apart (params.trans (parameters_eq apart)) mem
  exact (yields_resolve_picked repeats noRecord files).outcome_eq hs

/-- A book whose identifier and place hold separators comes back as it was picked. -/
theorem launch_of_stored_book :
    ∃ link before query,
      (ofSelection (Route.ltiLaunches.url "https://launch.example.org/")
        (.vitalSourceBook "a&b=c+d" "/6/4[é]%20 #")).graph = [link] ∧
      Text.cutAt '?' link.url.toList = some (before, query) ∧
      outcome (Signals.resolve
          ({ Answers.unreachable with
              documentUrl := fun _ => .ok none
              canvasFiles := fun _ => .ok false } : Answers).backend
          { LaunchRequest.byInstructor with
            params := Http.parameters (some (Text.utf8 query)) (Text.utf8 "roles=Learner".toList) })
          () =
        .ok (some (.vitalSourceBook "a&b=c+d" (some "/6/4[é]%20 #"))) := by
  have plain : '?' ∉ "https://launch.example.org/".toList := by decide
  have apart : ∀ p ∈ Form.decode (Text.utf8 "roles=Learner".toList),
      p.1 ∉ PickedDocument.names := by decide
  obtain ⟨link, before, query, only, cut, -, resolved⟩ :=
    launch_of_stored plain (.vitalSourceBook "a&b=c+d" "/6/4[é]%20 #") apart
  refine ⟨link, before, query, only, cut, ?_⟩
  exact resolved (W := fun _ => True) _ rfl (fun _ _ => Yields.ofExcept _) (Yields.ofExcept _) ()
    trivial

end ContentItem

end LtiLaunch
