import LtiLaunch.Logging.Filter
import Mathlib.Data.List.Basic

/-!
# What a filter lets through

The directive that decides for a target is the last of the most specific ones that govern it.
Directives that are put behind a filter therefore count where nothing more specific is there.

A piece of a filter without white space and without a span is read as it looks: a target before the
first equals sign and a level behind it, or a single word.
-/

namespace LtiLaunch

namespace Directive

variable {d : Directive} {target : String}

theorem governs_iff : d.governs target = true ↔
    d.inSpans = false ∧ ∀ t, d.target = some t → t.toList <+: target.toList := by
  cases h : d.target <;> simp [governs, h, List.isPrefixOf_iff_prefix]

theorem specificity_le_of_governs (h : d.governs target = true) :
    d.specificity ≤ target.length + 1 := by
  have within := (governs_iff.mp h).2
  cases own : d.target with
  | none => simp [specificity, own]
  | some t =>
    have le := (within t own).length_le
    rw [String.length_toList, String.length_toList] at le
    simpa [specificity, own] using le

/-- Nothing is more specific for a target than the target itself. -/
theorem target_eq_of_governs (h : d.governs target = true)
    (most : target.length + 1 ≤ d.specificity) : d.target = some target := by
  have within := (governs_iff.mp h).2
  cases own : d.target with
  | none => simp [specificity, own] at most
  | some t =>
    have le : target.toList.length ≤ t.toList.length := by
      rw [String.length_toList, String.length_toList]
      simpa [specificity, own] using most
    rw [String.toList_inj.mp ((within t own).eq_of_length_le le)]

theorem governs_ofTarget {t : String} {v : Verbosity} :
    (ofTarget t v).governs target = true ↔ t.toList <+: target.toList := by
  simp [governs_iff, ofTarget]

end Directive

namespace Filter

variable {f : Filter} {d : Directive} {ds : List Directive} {target : String}

/-! ### Which directive decides -/

theorem prefer_eq_of_le {start : Option Directive}
    (le : ∀ e, start = some e → e.specificity ≤ d.specificity) : prefer start d = some d := by
  cases start with
  | none => rfl
  | some e => exact if_pos (le e rfl)

theorem prefer_eq_of_lt {e : Directive} (lt : d.specificity < e.specificity) :
    prefer (some e) d = some e :=
  if_neg (Nat.not_le.mpr lt)

/-- One step: one of the two is preferred, and neither is more specific than it. -/
theorem exists_prefer (start : Option Directive) (d : Directive) :
    ∃ e, prefer start d = some e ∧ (e = d ∨ start = some e) ∧ d.specificity ≤ e.specificity ∧
      ∀ x, start = some x → x.specificity ≤ e.specificity := by
  cases start with
  | none => exact ⟨d, rfl, .inl rfl, Nat.le_refl _, by simp⟩
  | some x =>
    rcases Nat.lt_or_ge d.specificity x.specificity with lt | le
    · exact ⟨x, prefer_eq_of_lt lt, .inr rfl, Nat.le_of_lt lt, by simp⟩
    · exact ⟨d, if_pos le, .inl rfl, Nat.le_refl _, by simpa using le⟩

theorem foldl_prefer_eq_some {start : Option Directive} (h : ds.foldl prefer start = some d) :
    (start = some d ∨ d ∈ ds) ∧ (∀ x, start = some x → x.specificity ≤ d.specificity) ∧
      ∀ x ∈ ds, x.specificity ≤ d.specificity := by
  induction ds generalizing start with
  | nil =>
    cases h
    simp
  | cons e ds ih =>
    obtain ⟨y, first, one, above, aboveStart⟩ := exists_prefer start e
    rw [List.foldl_cons, first] at h
    obtain ⟨mem, least, most⟩ := ih h
    have least := least y rfl
    refine ⟨?_, fun x same => Nat.le_trans (aboveStart x same) least, ?_⟩
    · rcases mem with same | mem
      · cases same
        rcases one with rfl | same
        · exact .inr List.mem_cons_self
        · exact .inl same
      · exact .inr (.tail _ mem)
    · exact List.forall_mem_cons.mpr ⟨Nat.le_trans above least, most⟩

theorem foldl_prefer_isSome {start : Option Directive} (present : start.isSome ∨ ds ≠ []) :
    (ds.foldl prefer start).isSome := by
  induction ds generalizing start with
  | nil => simpa using present
  | cons e ds ih =>
    obtain ⟨y, first, -⟩ := exists_prefer start e
    rw [List.foldl_cons, first]
    exact ih (.inl rfl)

theorem mem_of_governing? (h : f.governing? target = some d) :
    d ∈ f.directives ∧ d.governs target = true := by
  rcases (foldl_prefer_eq_some h).1 with none | mem
  · cases none
  · exact List.mem_filter.mp mem

theorem exists_governing? (mem : d ∈ f.directives) (governs : d.governs target = true) :
    ∃ e, f.governing? target = some e ∧ d.specificity ≤ e.specificity := by
  have mem : d ∈ f.directives.filter (·.governs target) := List.mem_filter.mpr ⟨mem, governs⟩
  obtain ⟨e, found⟩ := Option.isSome_iff_exists.mp
    (@foldl_prefer_isSome _ none (.inr (List.ne_nil_of_mem mem)))
  exact ⟨e, found, (foldl_prefer_eq_some found).2.2 d mem⟩

theorem governing?_append (ds more : List Directive) (target : String) :
    (Filter.mk (ds ++ more)).governing? target =
      (more.filter (·.governs target)).foldl prefer ((Filter.mk ds).governing? target) := by
  rw [governing?, governing?, List.filter_append, List.foldl_append]

/-- What is more specific than all that follows stays. -/
theorem foldl_prefer_of_lt (less : ∀ e ∈ ds, e.specificity < d.specificity) :
    ds.foldl prefer (some d) = some d := by
  induction ds with
  | nil => rfl
  | cons e ds ih =>
    rw [List.foldl_cons, prefer_eq_of_lt (less e List.mem_cons_self)]
    exact ih fun e mem => less e (.tail _ mem)

/-- The last of the directives for the target itself decides. -/
theorem governing?_of_last {before after : List Directive} (own : d.governs target = true)
    (whole : d.target = some target)
    (last : ∀ e ∈ after, e.governs target = true → e.target ≠ some target) :
    (Filter.mk (before ++ d :: after)).governing? target = some d := by
  have specificity : d.specificity = target.length + 1 := by simp [Directive.specificity, whole]
  have first : (d :: after).filter (·.governs target) = d :: after.filter (·.governs target) :=
    List.filter_cons_of_pos own
  rw [governing?_append, first, List.foldl_cons, prefer_eq_of_le, foldl_prefer_of_lt]
  · intro e mem
    obtain ⟨mem, governs⟩ := List.mem_filter.mp mem
    rw [specificity]
    refine Nat.lt_of_not_le fun most => last e mem governs ?_
    exact Directive.target_eq_of_governs governs most
  · intro e found
    rw [specificity]
    exact Directive.specificity_le_of_governs (mem_of_governing? found).2

/-! ### Plain pieces -/

/-- A piece without white space and without a span. -/
def IsPlain (piece : List Char) : Prop := ∀ c ∈ piece, Text.isWhite c = false ∧ c ≠ '['

instance (piece : List Char) : Decidable (IsPlain piece) :=
  List.decidableBAll _ piece

/-- What is before the first equals sign. -/
def leftOf (piece : List Char) : List Char := piece.takeWhile (· != '=')

/-- What is behind the first equals sign. -/
def rightOf (piece : List Char) : List Char := (piece.dropWhile (· != '=')).drop 1

variable {piece : List Char}

theorem takeWhile_isTargetChar (plain : IsPlain piece) :
    piece.takeWhile Directive.isTargetChar = leftOf piece ∧
      piece.dropWhile Directive.isTargetChar = piece.dropWhile (· != '=') := by
  induction piece with
  | nil => exact ⟨rfl, rfl⟩
  | cons c piece ih =>
    obtain ⟨⟨-, open_⟩, plain⟩ := List.forall_mem_cons.mp plain
    obtain ⟨taken, dropped⟩ := ih plain
    have same : Directive.isTargetChar c = (c != '=') := by simp [Directive.isTargetChar, open_]
    rw [leftOf] at taken ⊢
    simp only [List.takeWhile_cons, List.dropWhile_cons, same, taken, dropped, and_self]

theorem dropWhile_isWhite {cs : List Char} (plain : ∀ c ∈ cs, Text.isWhite c = false) :
    cs.dropWhile Text.isWhite = cs := by
  cases cs with
  | nil => rfl
  | cons c cs => simp [plain c List.mem_cons_self]

theorem trimChars_of_plain (plain : IsPlain piece) : Text.trimChars piece = piece := by
  rw [Text.trimChars, dropWhile_isWhite fun c mem => (plain c mem).1, dropWhile_isWhite]
  · exact List.reverse_reverse piece
  · exact fun c mem => (plain c (List.mem_reverse.mp mem)).1

/-- A piece is a single word or has an equals sign. -/
theorem word_or_setting (piece : List Char) :
    piece.dropWhile (· != '=') = [] ∧ leftOf piece = piece ∧ rightOf piece = [] ∨
      piece.dropWhile (· != '=') = '=' :: rightOf piece ∧
        piece = leftOf piece ++ '=' :: rightOf piece := by
  have parts : leftOf piece ++ piece.dropWhile (· != '=') = piece :=
    List.takeWhile_append_dropWhile
  cases rest : piece.dropWhile (· != '=') with
  | nil => exact .inl ⟨rfl, by simpa [rest] using parts, by simp [rightOf, rest]⟩
  | cons c cs =>
    have equals : c = '=' := by
      have := List.head_dropWhile_not (p := (· != '=')) (l := piece) (by simp [rest])
      simpa [rest] using this
    subst equals
    have right : rightOf piece = cs := by simp [rightOf, rest]
    rw [rest] at parts
    exact .inr ⟨by rw [right], by rw [right, parts]⟩

theorem byteLength_cons (c : Char) (cs : List Char) :
    Directive.byteLength (c :: cs) = c.utf8Size + Directive.byteLength cs := rfl

theorem byteLength_append_singleton (cs : List Char) (c : Char) :
    Directive.byteLength (cs ++ [c]) = Directive.byteLength cs + c.utf8Size := by
  induction cs with
  | nil => exact Nat.add_comm ..
  | cons b cs ih => rw [List.cons_append, byteLength_cons, byteLength_cons, ih, Nat.add_assoc]

theorem cutBytes_append (before after : List Char) :
    Directive.cutBytes (Directive.byteLength before) (before ++ after) = (before, after) := by
  induction before with
  | nil => cases after <;> rfl
  | cons c before ih =>
    obtain ⟨n, size⟩ := Nat.exists_eq_add_one_of_ne_zero (Nat.ne_of_gt c.utf8Size_pos)
    have length : Directive.byteLength (c :: before) = n + Directive.byteLength before + 1 := by
      rw [byteLength_cons, size]
      omega
    have rest : n + Directive.byteLength before + 1 - c.utf8Size = Directive.byteLength before := by
      omega
    rw [length, List.cons_append, Directive.cutBytes, rest, ih]

theorem cutBytes_of_setting (left right : List Char) :
    Directive.cutBytes (Directive.byteLength left + 1) (left ++ '=' :: right) =
      (left ++ ['='], right) := by
  have length : Directive.byteLength (left ++ ['=']) = Directive.byteLength left + 1 :=
    byteLength_append_singleton left '='
  rw [← length]
  simpa using cutBytes_append (left ++ ['=']) right

theorem target?_append {left : List Char} (nonempty : left ≠ []) (rest : List Char) :
    Directive.target? (Directive.byteLength left) (left ++ rest) = some (String.ofList left) := by
  obtain ⟨c, cs, rfl⟩ := List.exists_cons_of_ne_nil nonempty
  have long : Directive.byteLength (c :: cs) ≠ 0 := by
    rw [byteLength_cons]
    exact Nat.ne_of_gt (Nat.add_pos_left c.utf8Size_pos _)
  rw [Directive.target?, if_neg long, cutBytes_append]

/-- What a plain piece is read as: a single word, or a target with a level. -/
theorem ofPiece?_cases (plain : IsPlain piece) {d : Directive}
    (read : Directive.ofPiece? piece = some d) :
    leftOf piece = piece ∧ rightOf piece = [] ∧ d = Directive.ofWord piece ∨
      ∃ v, Verbosity.ofSetting? (rightOf piece) = some v ∧
        d = .ofTarget (String.ofList (leftOf piece)) v := by
  obtain ⟨taken, dropped⟩ := takeWhile_isTargetChar plain
  rw [Directive.ofPiece?, trimChars_of_plain plain] at read
  simp only [taken, dropped] at read
  split at read
  · cases read
  · next begins =>
    rcases word_or_setting piece with ⟨rest, left, right⟩ | ⟨rest, parts⟩
    · rw [rest] at read
      exact .inl ⟨left, right, (Option.some.inj read).symm⟩
    · have nonempty : leftOf piece ≠ [] := by
        intro none
        rw [none, List.nil_append] at parts
        rw [parts] at begins
        exact begins rfl
      have cut : Directive.cutBytes (Directive.byteLength (leftOf piece) + 1) piece =
          (leftOf piece ++ ['='], rightOf piece) :=
        (congrArg _ parts).trans (cutBytes_of_setting _ _)
      have named : Directive.target? (Directive.byteLength (leftOf piece)) piece =
          some (String.ofList (leftOf piece)) :=
        (congrArg _ parts).trans (target?_append nonempty _)
      rw [rest] at read
      simp only [cut, named] at read
      obtain ⟨v, set, rfl⟩ := Option.map_eq_some_iff.mp read
      exact .inr ⟨v, set, rfl⟩

/-- The target of a plain piece is what is before its equals sign. -/
theorem toList_target_of_plain (plain : IsPlain piece) {d : Directive}
    (read : Directive.ofPiece? piece = some d) {t : String} (own : d.target = some t) :
    t.toList = leftOf piece := by
  rcases ofPiece?_cases plain read with ⟨left, -, rfl⟩ | ⟨v, -, rfl⟩
  · rw [Directive.ofWord] at own
    split at own
    · cases own
    · cases own
      rw [String.toList_ofList, left]
  · cases own
    exact String.toList_ofList

/-- A plain piece for a target that is no level sets the level behind its equals sign. -/
theorem ofPiece?_of_plain (plain : IsPlain piece) {d : Directive}
    (read : Directive.ofPiece? piece = some d) {t : String} (own : leftOf piece = t.toList)
    (noLevel : Verbosity.ofWord? t.toList = none) :
    ∃ v, Verbosity.ofSetting? (rightOf piece) = some v ∧ d = .ofTarget t v := by
  rcases ofPiece?_cases plain read with ⟨left, right, rfl⟩ | ⟨v, set, rfl⟩
  · have word : piece = t.toList := left.symm.trans own
    refine ⟨some .trace, by rw [right]; rfl, ?_⟩
    rw [Directive.ofWord, word, noLevel, String.ofList_toList]
  · exact ⟨v, set, by rw [own, String.ofList_toList]⟩

end Filter

end LtiLaunch
