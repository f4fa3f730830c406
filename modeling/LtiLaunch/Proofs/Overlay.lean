import LtiLaunch.SortedMap

/-!
# Overlaid maps

What is found in a map that a list of entries was laid over: the last value that the list has for
the key, and else what the map had. Lists with different keys can be laid over in either order.
-/

namespace LtiLaunch.SortedMap

variable {κ ν : Type} [DecidableEq κ]

theorem lookup_cons_of_ne {j k : κ} (other : j ≠ k) (v : ν) (l : List (κ × ν)) :
    List.lookup k ((j, v) :: l) = l.lookup k := by
  rw [List.lookup_cons, beq_false_of_ne other.symm]

theorem lookup_reverse_eq_none {l : List (κ × ν)} {k : κ} (absent : ∀ e ∈ l, e.1 ≠ k) :
    l.reverse.lookup k = none := by
  refine List.lookup_eq_none_iff.mpr fun e mem => ?_
  have other := absent e (List.mem_reverse.mp mem)
  simpa using Ne.symm other

theorem lookup_reverse_eq_getLast? (l : List (κ × ν)) (k : κ) :
    l.reverse.lookup k = (l.filter fun e => e.1 == k).getLast?.map Prod.snd := by
  rw [List.getLast?_eq_head?_reverse, ← List.filter_reverse, List.head?_filter]
  induction l.reverse with
  | nil => rfl
  | cons e l ih =>
    obtain ⟨j, v⟩ := e
    by_cases same : j = k
    · subst same
      simp
    · have other : (j == k) = false := beq_false_of_ne same
      rw [lookup_cons_of_ne same, List.find?_cons, other]
      exact ih

variable [Ord κ] [Std.TransOrd κ] [Std.LawfulEqOrd κ]

theorem get?_insertAll (m : SortedMap κ ν) (l : List (κ × ν)) (k : κ) :
    (m.insertAll l).get? k = (l.reverse.lookup k).or (m.get? k) := by
  unfold insertAll
  induction l generalizing m with
  | nil => rfl
  | cons e l ih =>
    rw [List.foldl_cons, ih, List.reverse_cons, List.lookup_append, Option.or_assoc]
    refine congrArg _ ?_
    obtain ⟨j, v⟩ := e
    by_cases same : j = k
    · subst same
      rw [get?_insert_self, List.lookup_cons_self]
      rfl
    · rw [get?_insert_of_ne _ same, lookup_cons_of_ne same]
      rfl

theorem get?_ofList (l : List (κ × ν)) (k : κ) : (ofList l).get? k = l.reverse.lookup k := by
  have overlaid := get?_insertAll (empty : SortedMap κ ν) l k
  rw [get?_empty, Option.or_none] at overlaid
  exact overlaid

theorem insertAll_ofList_comm {l l' : List (κ × ν)} (apart : ∀ e ∈ l, ∀ e' ∈ l', e.1 ≠ e'.1) :
    (ofList l).insertAll l' = (ofList l').insertAll l := by
  refine ext_get? fun k => ?_
  rw [get?_insertAll, get?_insertAll, get?_ofList, get?_ofList]
  by_cases mem : ∃ e ∈ l, e.1 = k
  · obtain ⟨e, he, rfl⟩ := mem
    rw [lookup_reverse_eq_none fun e' he' => (apart e he e' he').symm, Option.none_or,
      Option.or_none]
  · have absent : ∀ e ∈ l, e.1 ≠ k := fun e he same => mem ⟨e, he, same⟩
    rw [lookup_reverse_eq_none absent, Option.none_or, Option.or_none]

end LtiLaunch.SortedMap
