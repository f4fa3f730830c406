/-!
# Finding text in text

`occursIn` says whether a word stands somewhere in a text; `occursIn_iff` states it by splitting.
-/

namespace LtiLaunch.Text

def occursIn (word : List Char) : List Char → Bool
  | [] => word.isEmpty
  | c :: rest => word.isPrefixOf (c :: rest) || occursIn word rest

theorem occursIn_iff (word text : List Char) :
    occursIn word text = true ↔ ∃ before after, text = before ++ word ++ after := by
  induction text with
  | nil => simp [occursIn]
  | cons c rest ih =>
    rw [occursIn, Bool.or_eq_true, ih, List.isPrefixOf_iff_prefix]
    constructor
    · rintro (⟨after, h⟩ | ⟨before, after, h⟩)
      · exact ⟨[], after, by simp [h]⟩
      · exact ⟨c :: before, after, by simp [h]⟩
    · rintro ⟨_ | ⟨b, before⟩, after, h⟩
      · exact .inl ⟨after, by simpa using h.symm⟩
      · refine .inr ⟨before, after, ?_⟩
        simp only [List.cons_append, List.cons.injEq] at h
        exact h.2

/-- The pieces of the text between the occurrences of `sep`; there is always at least one. -/
def splitOn (sep : Char) : List Char → List (List Char)
  | [] => [[]]
  | c :: rest =>
    if c = sep then [] :: splitOn sep rest
    else match splitOn sep rest with
      | [] => [[c]]
      | piece :: pieces => (c :: piece) :: pieces

def cutAt (sep : Char) : List Char → Option (List Char × List Char)
  | [] => none
  | c :: rest =>
    if c = sep then some ([], rest)
    else (cutAt sep rest).map (fun p => (c :: p.1, p.2))

def joinWith (sep : String) : List String → String
  | [] => ""
  | [s] => s
  | s :: rest => s ++ sep ++ joinWith sep rest

end LtiLaunch.Text
