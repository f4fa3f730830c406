import LtiLaunch.Json.Parser
import LtiLaunch.Proofs.Json.Lexing

/-!
# Reading what was written

The reader takes the tokens of a value to the place of the value, whatever is still open around it.
-/

namespace LtiLaunch.Json

/-- The tokens lead from one point of the reading to another. -/
def Leads (p : Progress) (ts : List Token) (q : Progress) : Prop :=
  ts.foldlM (step? false) p = some q

namespace Leads

variable {p q z : Progress} {ts us : List Token} {t : Token}

theorem single (h : step? false p t = some q) : Leads p [t] q := by
  unfold Leads
  rw [List.foldlM_cons, h]
  rfl

theorem append (first : Leads p ts q) (last : Leads q us z) : Leads p (ts ++ us) z := by
  unfold Leads at first last ⊢
  rw [List.foldlM_append, first]
  exact last

theorem cons (first : step? false p t = some q) (last : Leads q us z) : Leads p (t :: us) z :=
  append (single first) last

end Leads

theorem ofMembers_map (ms : List (String × Json)) :
    ofMembers (ms.reverse.map fun m => (some m.1, m.2)) = obj ms := by
  unfold ofMembers
  rw [List.map_reverse, List.reverse_reverse]
  have named : (ms.map fun m => (some m.1, m.2)).mapM
      (fun m : Option String × Json => m.1.map fun k => (k, m.2)) = some ms := by
    induction ms with
    | nil => rfl
    | cons m ms ih =>
      rw [List.map_cons, List.mapM_cons, ih]
      rfl
  rw [named]

theorem exists_tokens (v : Json) : ∃ t us, v.tokens = t :: us ∧ t ≠ .rightBracket := by
  cases v <;> exact ⟨_, _, rfl, nofun⟩

theorem exists_elementTokens (x : Json) (xs : List Json) :
    ∃ t us, elementTokens (x :: xs) = t :: us ∧ t ≠ .rightBracket := by
  obtain ⟨t, us, same, other⟩ := exists_tokens x
  cases xs with
  | nil => exact ⟨t, us, same, other⟩
  | cons y xs =>
    refine ⟨t, us ++ .comma :: elementTokens (y :: xs), ?_, other⟩
    rw [elementTokens, same]
    rfl

/-- Elements do not begin with a closing bracket, so they can follow an opening one. -/
theorem leads_firstElement {x : Json} {xs : List Json} {stack : List Frame} {q : Progress}
    (h : Leads (.value (.arr [] :: stack)) (elementTokens (x :: xs)) q) :
    Leads (.element [] stack) (elementTokens (x :: xs)) q := by
  obtain ⟨t, us, same, other⟩ := exists_elementTokens x xs
  have alike : step? false (.element [] stack) t = step? false (.value (.arr [] :: stack)) t := by
    cases t with
    | rightBracket => exact absurd rfl other
    | _ => rfl
  unfold Leads at h ⊢
  rw [same, List.foldlM_cons] at h ⊢
  rw [alike]
  exact h

theorem leads_firstMember {m : String × Json} {ms : List (String × Json)} {stack : List Frame}
    {q : Progress} (h : Leads (.name [] stack) (memberTokens (m :: ms)) q) :
    Leads (.nameOrEnd [] stack) (memberTokens (m :: ms)) q := by
  cases ms <;> exact h

mutual

theorem leads_tokens (v : Json) (faithful : v.faithful = true) (stack : List Frame) :
    Leads (.value stack) v.tokens (deliver v stack) := by
  match v with
  | .null => exact Leads.single rfl
  | .bool _ => exact Leads.single rfl
  | .num _ => exact Leads.single rfl
  | .str _ => exact Leads.single rfl
  | .unreadable => cases faithful
  | .arr [] => exact Leads.cons rfl (Leads.single rfl)
  | .arr (x :: xs) =>
    -- after the bracket the reader would also take a closing one, which no element begins with
    rw [Json.faithful] at faithful
    rw [tokens]
    refine Leads.cons (q := .element [] stack) rfl ?_
    refine Leads.append (leads_firstElement (leads_elementTokens (x :: xs) (by simp) faithful [] stack)) ?_
    refine Leads.single ?_
    change some (deliver (arr ((x :: xs).reverse ++ []).reverse) stack) = _
    rw [List.append_nil, List.reverse_reverse]
  | .obj [] => exact Leads.cons rfl (Leads.single rfl)
  | .obj (m :: ms) =>
    rw [Json.faithful] at faithful
    rw [tokens]
    refine Leads.cons (q := .nameOrEnd [] stack) rfl ?_
    refine Leads.append (leads_firstMember (leads_memberTokens (m :: ms) (by simp) faithful [] stack)) ?_
    refine Leads.single ?_
    change some (deliver (ofMembers (((m :: ms).reverse ++ []).map _)) stack) = _
    rw [List.append_nil, ofMembers_map]

/-- The elements after those that have been read, the latest of which comes first. -/
theorem leads_elementTokens (xs : List Json) (nonempty : xs ≠ []) (faithful : faithfulAll xs = true)
    (read : List Json) (stack : List Frame) :
    Leads (.value (.arr read :: stack)) (elementTokens xs)
      (.afterElement (xs.reverse ++ read) stack) := by
  match xs with
  | [] => exact absurd rfl nonempty
  | [x] =>
    rw [faithfulAll, Bool.and_eq_true] at faithful
    exact leads_tokens x faithful.1 (.arr read :: stack)
  | x :: y :: xs =>
    rw [faithfulAll, Bool.and_eq_true] at faithful
    rw [elementTokens]
    refine Leads.append (leads_tokens x faithful.1 (.arr read :: stack)) ?_
    refine Leads.cons (q := .value (.arr (x :: read) :: stack)) rfl ?_
    have rest := leads_elementTokens (y :: xs) (by simp) faithful.2 (x :: read) stack
    rw [List.reverse_cons, List.append_assoc]
    exact rest

theorem leads_memberTokens (ms : List (String × Json)) (nonempty : ms ≠ [])
    (faithful : faithfulMembers ms = true) (read : List (String × Json)) (stack : List Frame) :
    Leads (.name (read.map fun m => (some m.1, m.2)) stack) (memberTokens ms)
      (.afterMember ((ms.reverse ++ read).map fun m => (some m.1, m.2)) stack) := by
  match ms with
  | [] => exact absurd rfl nonempty
  | [(k, x)] =>
    rw [faithfulMembers, Bool.and_eq_true] at faithful
    refine Leads.cons (q := .colon _ (some k) stack) rfl (Leads.cons rfl ?_)
    exact leads_tokens x faithful.1 (.obj _ (some k) :: stack)
  | (k, x) :: m :: ms =>
    rw [faithfulMembers, Bool.and_eq_true] at faithful
    rw [memberTokens]
    refine Leads.cons (q := .colon _ (some k) stack) rfl (Leads.cons rfl ?_)
    refine Leads.append (leads_tokens x faithful.1 (.obj _ (some k) :: stack)) ?_
    refine Leads.cons (q := .name (((k, x) :: read).map fun m => (some m.1, m.2)) stack) rfl ?_
    have rest := leads_memberTokens (m :: ms) (by simp) faithful.2 ((k, x) :: read) stack
    rw [List.reverse_cons, List.append_assoc]
    exact rest

end

/-- What was written is read back. -/
theorem parse?_render (v : Json) (faithful : v.faithful = true) : parse? v.render = some v := by
  have led := leads_tokens v faithful []
  unfold Leads at led
  unfold parse?
  rw [lex?_render v faithful]
  change ofTokens? false v.tokens = some v
  unfold ofTokens?
  rw [led]
  rfl

end LtiLaunch.Json
