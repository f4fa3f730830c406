import LtiLaunch.Launch.User
import Mathlib.Data.List.Forall2

/-!
# Roles one by one

Who may configure an assignment is found out by looking for words in the whole list of roles. None of
the words has a comma, so each is found inside one role, and the list says no more than its roles
say by themselves.
-/

namespace LtiLaunch

namespace Text

variable {sep : Char} {word before after left right : List Char}

/-- A word without the separator stands before it or after it. -/
theorem append_eq_append_cons (absent : sep ∉ word)
    (h : before ++ word ++ after = left ++ sep :: right) :
    (∃ rest, left = before ++ word ++ rest ∧ after = rest ++ sep :: right) ∨
      ∃ rest, before = left ++ sep :: rest ∧ right = rest ++ word ++ after := by
  induction left generalizing before word with
  | nil =>
    cases before with
    | nil =>
      cases word with
      | nil => exact .inl ⟨[], rfl, h⟩
      | cons c word =>
        cases h
        exact absurd List.mem_cons_self absent
    | cons b before =>
      cases h
      exact .inr ⟨before, rfl, rfl⟩
  | cons c left ih =>
    cases before with
    | nil =>
      cases word with
      | nil => exact .inl ⟨c :: left, rfl, h⟩
      | cons d word =>
        obtain ⟨same, tails⟩ := List.cons.inj h
        subst same
        obtain ⟨rest, hleft, hafter⟩ | ⟨rest, hbefore, -⟩ :=
          @ih word [] (fun mem => absent (.tail _ mem)) tails
        · exact .inl ⟨rest, congrArg (d :: ·) hleft, hafter⟩
        · simp at hbefore
    | cons b before =>
      obtain ⟨same, tails⟩ := List.cons.inj h
      subst same
      obtain ⟨rest, hleft, hafter⟩ | ⟨rest, hbefore, hright⟩ := ih absent tails
      · exact .inl ⟨rest, congrArg (b :: ·) hleft, hafter⟩
      · exact .inr ⟨rest, congrArg (b :: ·) hbefore, hright⟩

/-- Where a word without the separator stands in a list of pieces: in one of them. -/
theorem append_eq_intercalate (absent : sep ∉ word) (nonempty : word ≠ [])
    {pieces : List (List Char)} (h : before ++ word ++ after = [sep].intercalate pieces) :
    ∃ front piece back b a, pieces = front ++ piece :: back ∧ piece = b ++ word ++ a ∧
      before = [sep].intercalate (front ++ [[]]) ++ b ∧
      after = a ++ [sep].intercalate ([] :: back) := by
  induction pieces generalizing before with
  | nil => simp [nonempty] at h
  | cons piece pieces ih =>
    cases pieces with
    | nil =>
      rw [List.intercalate_singleton] at h
      exact ⟨[], piece, [], before, after, rfl, h.symm, by simp, by simp⟩
    | cons next pieces =>
      rw [List.intercalate_cons_cons, List.append_assoc piece, List.singleton_append] at h
      obtain ⟨rest, hpiece, hafter⟩ | ⟨rest, hbefore, hrest⟩ := append_eq_append_cons absent h
      · exact ⟨[], piece, next :: pieces, before, rest, rfl, hpiece, by simp,
          by simpa [List.intercalate_cons_cons] using hafter⟩
      · obtain ⟨front, found, back, b, a, hpieces, hfound, hb, ha⟩ := ih hrest.symm
        refine ⟨piece :: front, found, back, b, a, congrArg (piece :: ·) hpieces, hfound, ?_, ha⟩
        rw [List.cons_append, List.intercalate_cons_of_ne_nil (by simp), hbefore, hb]
        simp

theorem infix_intercalate_of_mem {piece : List Char} {pieces : List (List Char)}
    (mem : piece ∈ pieces) : piece <:+: [sep].intercalate pieces := by
  induction pieces with
  | nil => cases mem
  | cons first pieces ih =>
    cases pieces with
    | nil =>
      cases List.mem_singleton.mp mem
      simp
    | cons next pieces =>
      rw [List.intercalate_cons_cons]
      rcases List.mem_cons.mp mem with rfl | mem
      · exact List.infix_append_of_infix_left (List.infix_append_of_infix_left List.infix_rfl)
      · exact List.infix_append_of_infix_right (ih mem)

theorem infix_intercalate_iff (absent : sep ∉ word) (nonempty : word ≠ [])
    {pieces : List (List Char)} :
    word <:+: [sep].intercalate pieces ↔ ∃ piece ∈ pieces, word <:+: piece := by
  constructor
  · rintro ⟨before, after, h⟩
    obtain ⟨front, piece, back, b, a, hpieces, hpiece, -, -⟩ :=
      append_eq_intercalate absent nonempty h
    exact ⟨piece, by simp [hpieces], b, a, hpiece.symm⟩
  · rintro ⟨piece, mem, inside⟩
    exact inside.trans (infix_intercalate_of_mem mem)

theorem infix_append_iff_right (nonempty : word ≠ []) (absent : ∀ c ∈ left, c ∉ word) :
    word <:+: left ++ right ↔ word <:+: right := by
  refine ⟨fun h => ?_, List.infix_append_of_infix_right⟩
  obtain ⟨c, rest, rfl⟩ := List.exists_cons_of_ne_nil nonempty
  rcases List.infix_append_iff.mp h with inside | inside | ⟨start, finish, hword, hstart, hfinish⟩
  · exact absurd List.mem_cons_self (absent c (inside.subset List.mem_cons_self))
  · exact inside
  · cases start with
    | nil => exact (hword ▸ hfinish : c :: rest <+: right).isInfix
    | cons d start =>
      cases hword
      exact absurd List.mem_cons_self (absent c (hstart.subset List.mem_cons_self))

theorem infix_append_iff_left (nonempty : word ≠ []) (absent : ∀ c ∈ right, c ∉ word) :
    word <:+: left ++ right ↔ word <:+: left := by
  rw [← List.reverse_infix, List.reverse_append,
    infix_append_iff_right (by simpa using nonempty) (by simpa using absent), List.reverse_infix]

theorem map_intercalate (f : Char → Char) (pieces : List (List Char)) :
    ([sep].intercalate pieces).map f = [f sep].intercalate (pieces.map (List.map f)) := by
  induction pieces with
  | nil => rfl
  | cons piece pieces ih =>
    cases pieces with
    | nil => simp
    | cons next pieces =>
      rw [List.intercalate_cons_cons, List.map_append, ih]
      simp [List.intercalate_cons_cons]

end Text

namespace User

/-- A text as it is searched: its ASCII letters in lower case. -/
def lowered (s : String) : List Char := s.toList.map Char.toLower

/-- The user with the roles, in one list. -/
def inRoles (user : User) (rs : List String) : User := { user with roles := ",".intercalate rs }

/-- The role with white space put around it. -/
def IsSpaced (r spaced : String) : Prop :=
  ∃ left right, spaced.toList = left ++ r.toList ++ right ∧ ∀ c ∈ left ++ right, Text.isWhite c

theorem lowered_intercalate (rs : List String) :
    lowered (",".intercalate rs) = [','].intercalate (rs.map lowered) := by
  have comma : ",".toList = [','] := rfl
  rw [lowered, String.toList_intercalate, comma, Text.map_intercalate, List.map_map]
  rfl

theorem mayConfigure_iff {user : User} : user.mayConfigure = true ↔
    ∃ word ∈ configuringRoles, word.toList <:+: lowered user.roles := by
  have occurs (word : List Char) : Text.occursIn word (lowered user.roles) = true ↔
      word <:+: lowered user.roles := by
    rw [Text.occursIn_iff]
    exact exists_congr fun before => exists_congr fun after => eq_comm
  simp only [mayConfigure, List.any_eq_true]
  exact exists_congr fun word => and_congr_right' (occurs word.toList)

/-! ### The words -/

theorem ne_nil_of_mem_configuringRoles {word : String} (mem : word ∈ configuringRoles) :
    word.toList ≠ [] := by
  revert word
  decide

theorem comma_not_mem_of_mem_configuringRoles {word : String} (mem : word ∈ configuringRoles) :
    ',' ∉ word.toList := by
  revert word
  decide

theorem not_isWhite_of_mem_configuringRoles {word : String} (mem : word ∈ configuringRoles) :
    ∀ c ∈ word.toList, Text.isWhite c = false := by
  have none : ∀ word ∈ configuringRoles, word.toList.any Text.isWhite = false := by decide
  exact fun c inWord => eq_false_of_ne_true (List.any_eq_false.mp (none word mem) c inWord)

theorem toLower_of_isWhite {c : Char} (white : Text.isWhite c = true) : c.toLower = c := by
  have notUpper : ¬ (65 ≤ c.toNat ∧ c.toNat ≤ 90) := by
    simp only [Text.isWhite, Bool.or_eq_true, Bool.and_eq_true, decide_eq_true_eq, beq_iff_eq]
      at white
    omega
  exact dif_neg notUpper

/-! ### Lists of roles -/

theorem mayConfigure_inRoles_iff {user : User} {rs : List String} :
    (user.inRoles rs).mayConfigure = true ↔ ∃ r ∈ rs, (user.inRoles [r]).mayConfigure = true := by
  simp only [mayConfigure_iff, inRoles, lowered_intercalate, List.map_cons, List.map_nil,
    List.intercalate_singleton]
  constructor
  · rintro ⟨word, known, inside⟩
    obtain ⟨piece, mem, found⟩ := (Text.infix_intercalate_iff
      (comma_not_mem_of_mem_configuringRoles known) (ne_nil_of_mem_configuringRoles known)).mp inside
    obtain ⟨r, given, rfl⟩ := List.mem_map.mp mem
    exact ⟨r, given, word, known, found⟩
  · rintro ⟨r, mem, word, known, found⟩
    exact ⟨word, known, found.trans (Text.infix_intercalate_of_mem (List.mem_map_of_mem mem))⟩

/-- Lists of roles with the same words in them, role for role. -/
theorem mayConfigure_inRoles_congr {user : User} {rs rs' : List String}
    (same : List.Forall₂ (fun r r' => ∀ word ∈ configuringRoles,
      (word.toList <:+: lowered r' ↔ word.toList <:+: lowered r)) rs rs') :
    (user.inRoles rs').mayConfigure = (user.inRoles rs).mayConfigure := by
  rw [Bool.eq_iff_iff, mayConfigure_inRoles_iff, mayConfigure_inRoles_iff]
  induction same with
  | nil => rfl
  | @cons r r' _ _ head _ ih =>
    have first : (user.inRoles [r']).mayConfigure = true ↔
        (user.inRoles [r]).mayConfigure = true := by
      rw [mayConfigure_iff, mayConfigure_iff]
      exact exists_congr fun word => and_congr_right (head word)
    simp only [List.exists_mem_cons_iff, first, ih]

theorem lowered_infix_of_isSpaced {r spaced : String} (h : IsSpaced r spaced) {word : String}
    (known : word ∈ configuringRoles) :
    word.toList <:+: lowered spaced ↔ word.toList <:+: lowered r := by
  obtain ⟨left, right, text, white⟩ := h
  have apart {pad : List Char} (pads : ∀ c ∈ pad, Text.isWhite c = true) :
      ∀ c ∈ pad.map Char.toLower, c ∉ word.toList := by
    intro c mem inWord
    obtain ⟨d, given, rfl⟩ := List.mem_map.mp mem
    rw [toLower_of_isWhite (pads d given)] at inWord
    exact absurd (pads d given) (by simp [not_isWhite_of_mem_configuringRoles known d inWord])
  have nonempty := ne_nil_of_mem_configuringRoles known
  have spread : lowered spaced =
      left.map Char.toLower ++ lowered r ++ right.map Char.toLower := by
    simp only [lowered, text, List.map_append]
  rw [spread,
    Text.infix_append_iff_left nonempty (apart fun c mem => white c (List.mem_append_right _ mem)),
    Text.infix_append_iff_right nonempty (apart fun c mem => white c (List.mem_append_left _ mem))]

/-- What a list of roles says about who may configure. -/
structure DecidedByRole (user : User) (rs : List String) : Prop where
  /-- It takes one of the words, and any of them does. -/
  byWord : (user.inRoles rs).mayConfigure = true ↔
    ∃ word ∈ configuringRoles, word.toList <:+: lowered (",".intercalate rs)
  byRole : (user.inRoles rs).mayConfigure =
    rs.any fun r => User.mayConfigure { user with roles := r }
  /-- Neither the order nor the number of times counts. -/
  sameRoles : ∀ rs' : List String, (∀ r, r ∈ rs' ↔ r ∈ rs) →
    (user.inRoles rs').mayConfigure = (user.inRoles rs).mayConfigure
  spaced : ∀ rs', List.Forall₂ IsSpaced rs rs' →
    (user.inRoles rs').mayConfigure = (user.inRoles rs).mayConfigure
  recased : ∀ rs', List.Forall₂ (fun r r' => lowered r = lowered r') rs rs' →
    (user.inRoles rs').mayConfigure = (user.inRoles rs).mayConfigure
  /-- With more roles no one may do less. -/
  monotone : ∀ rs', rs ⊆ rs' → (user.inRoles rs).mayConfigure = true →
    (user.inRoles rs').mayConfigure = true
  /-- Wherever a word stands in the list, it stands inside one of the roles. -/
  inOneRole : ∀ word ∈ configuringRoles, ∀ before after,
    lowered (",".intercalate rs) = before ++ word.toList ++ after →
    ∃ front r back b a, rs = front ++ r :: back ∧ lowered r = b ++ word.toList ++ a ∧
      before = lowered (",".intercalate (front ++ [""])) ++ b ∧
      after = a ++ lowered (",".intercalate ("" :: back))

theorem inOneRole_of_mem_configuringRoles {word : String} (known : word ∈ configuringRoles)
    {rs : List String} {before after : List Char}
    (h : lowered (",".intercalate rs) = before ++ word.toList ++ after) :
    ∃ front r back b a, rs = front ++ r :: back ∧ lowered r = b ++ word.toList ++ a ∧
      before = lowered (",".intercalate (front ++ [""])) ++ b ∧
      after = a ++ lowered (",".intercalate ("" :: back)) := by
  rw [lowered_intercalate] at h
  obtain ⟨front, piece, back, b, a, hpieces, hpiece, hbefore, hafter⟩ :=
    Text.append_eq_intercalate (comma_not_mem_of_mem_configuringRoles known)
      (ne_nil_of_mem_configuringRoles known) h.symm
  obtain ⟨fronts, rest, rfl, rfl, hrest⟩ := List.map_eq_append_iff.mp hpieces
  obtain ⟨r, backs, rfl, rfl, rfl⟩ := List.map_eq_cons_iff.mp hrest
  refine ⟨fronts, r, backs, b, a, rfl, hpiece, ?_, ?_⟩
  · rw [hbefore, lowered_intercalate, List.map_append]
    rfl
  · rw [hafter, lowered_intercalate, List.map_cons]
    rfl

/-- The list of roles decides role by role, however it is written and whatever else is in it. -/
theorem decidedByRole (user : User) (rs : List String) : DecidedByRole user rs := by
  constructor
  case byWord => exact mayConfigure_iff
  case byRole =>
    rw [Bool.eq_iff_iff, mayConfigure_inRoles_iff, List.any_eq_true]
    rfl
  case sameRoles =>
    intro rs' same
    rw [Bool.eq_iff_iff, mayConfigure_inRoles_iff, mayConfigure_inRoles_iff]
    simp only [same]
  case spaced =>
    intro rs' spaced
    exact mayConfigure_inRoles_congr (spaced.imp fun r r' h word => lowered_infix_of_isSpaced h)
  case recased =>
    intro rs' recased
    exact mayConfigure_inRoles_congr (recased.imp fun r r' same word _ => by rw [same])
  case monotone =>
    intro rs' more allowed
    obtain ⟨r, mem, allowed⟩ := mayConfigure_inRoles_iff.mp allowed
    exact mayConfigure_inRoles_iff.mpr ⟨r, more mem, allowed⟩
  case inOneRole => exact fun word known before after => inOneRole_of_mem_configuringRoles known

example : (User.mk "u" "k" "Learner,Instruct,or").mayConfigure = false := by decide

end User

end LtiLaunch
