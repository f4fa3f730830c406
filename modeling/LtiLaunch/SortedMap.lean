/-!
# Sorted maps

A map is the list of its entries in increasing order of the keys, so two maps with the same answers
are equal. `get?_insert` and `ext_get?` are the two facts everything else is derived from.
-/

namespace LtiLaunch

variable {κ ν μ : Type} [Ord κ]

/-- A finite map whose entries stand in increasing order of their keys. -/
structure SortedMap (κ ν : Type) [Ord κ] where
  entries : List (κ × ν)
  ordered : entries.Pairwise (fun a b => compare a.1 b.1 = .lt)

namespace SortedMap

instance [DecidableEq κ] [DecidableEq ν] : DecidableEq (SortedMap κ ν) := fun a b =>
  decidable_of_iff (a.entries = b.entries)
    ⟨fun h => by cases a; cases b; simp_all, fun h => by rw [h]⟩

def empty : SortedMap κ ν := ⟨[], .nil⟩

instance : EmptyCollection (SortedMap κ ν) := ⟨empty⟩
instance : Inhabited (SortedMap κ ν) := ⟨empty⟩

/-- The entries with `k` bound to `v`, in place of what `k` was bound to before. -/
def insertEntry (k : κ) (v : ν) : List (κ × ν) → List (κ × ν)
  | [] => [(k, v)]
  | (k', v') :: rest =>
    match compare k k' with
    | .lt => (k, v) :: (k', v') :: rest
    | .eq => (k, v) :: rest
    | .gt => (k', v') :: insertEntry k v rest

theorem mem_insertEntry {k : κ} {v : ν} {e : κ × ν} {l : List (κ × ν)} :
    e ∈ insertEntry k v l → e = (k, v) ∨ e ∈ l := by
  induction l with
  | nil => simp [insertEntry]
  | cons head rest ih =>
    obtain ⟨k', v'⟩ := head
    rw [insertEntry]
    split <;> grind

theorem pairwise_insertEntry [Std.TransOrd κ] (k : κ) (v : ν) {l : List (κ × ν)}
    (h : l.Pairwise (fun a b => compare a.1 b.1 = .lt)) :
    (insertEntry k v l).Pairwise (fun a b => compare a.1 b.1 = .lt) := by
  induction l with
  | nil => simp [insertEntry]
  | cons head rest ih =>
    obtain ⟨k', v'⟩ := head
    have hrest := List.pairwise_cons.mp h
    rw [insertEntry]
    split
    · next hlt =>
      refine List.pairwise_cons.mpr ⟨fun e he => ?_, h⟩
      rcases List.mem_cons.mp he with rfl | he
      · exact hlt
      · exact Std.TransCmp.lt_trans hlt (hrest.1 e he)
    · next heq =>
      exact List.pairwise_cons.mpr
        ⟨fun e he => Std.TransCmp.lt_of_eq_of_lt heq (hrest.1 e he), hrest.2⟩
    · next hgt =>
      refine List.pairwise_cons.mpr ⟨fun e he => ?_, ih hrest.2⟩
      rcases mem_insertEntry he with rfl | he
      · exact Std.OrientedCmp.lt_of_gt hgt
      · exact hrest.1 e he

def insert [Std.TransOrd κ] (m : SortedMap κ ν) (k : κ) (v : ν) : SortedMap κ ν :=
  ⟨insertEntry k v m.entries, pairwise_insertEntry k v m.ordered⟩

def get? (m : SortedMap κ ν) (k : κ) : Option ν :=
  (m.entries.find? (fun e => compare e.1 k == .eq)).map (·.2)

def contains (m : SortedMap κ ν) (k : κ) : Bool := (m.get? k).isSome

def getD (m : SortedMap κ ν) (k : κ) (d : ν) : ν := (m.get? k).getD d

/-- The map that binds each key of the list to the last value given for it. -/
def ofList [Std.TransOrd κ] (l : List (κ × ν)) : SortedMap κ ν :=
  l.foldl (fun m e => m.insert e.1 e.2) empty

/-- `m` overlaid by the entries of the list: the list wins, and its last entry for a key wins. -/
def insertAll [Std.TransOrd κ] (m : SortedMap κ ν) (l : List (κ × ν)) : SortedMap κ ν :=
  l.foldl (fun m e => m.insert e.1 e.2) m

def toList (m : SortedMap κ ν) : List (κ × ν) := m.entries

def keys (m : SortedMap κ ν) : List κ := m.entries.map (·.1)

def size (m : SortedMap κ ν) : Nat := m.entries.length

def isEmpty (m : SortedMap κ ν) : Bool := m.entries.isEmpty

def mapValues (f : ν → μ) (m : SortedMap κ ν) : SortedMap κ μ :=
  ⟨m.entries.map (fun e => (e.1, f e.2)), by
    simpa [List.pairwise_map] using m.ordered⟩

/-! ### Looking up -/

theorem find?_insertEntry [Std.TransOrd κ] (k j : κ) (v : ν) (l : List (κ × ν)) :
    ((insertEntry k v l).find? (fun e => compare e.1 j == .eq)).map (·.2) =
      if compare k j = .eq then some v
      else (l.find? (fun e => compare e.1 j == .eq)).map (·.2) := by
  induction l with
  | nil => by_cases h : compare k j = .eq <;> simp [insertEntry, h]
  | cons head rest ih =>
    obtain ⟨k', v'⟩ := head
    rw [insertEntry]
    split
    · by_cases h : compare k j = .eq <;> simp [h]
    · next heq =>
      have same : compare k' j = compare k j := (Std.TransCmp.congr_left heq).symm
      by_cases h : compare k j = .eq <;> simp [h, same]
    · next hgt =>
      by_cases h' : compare k' j = .eq
      · have h : compare k j ≠ .eq := fun h => by
          have := Std.TransCmp.eq_trans h (Std.OrientedCmp.eq_symm h')
          simp [this] at hgt
        simp [h, h']
      · have : (compare k' j == .eq) = false := by simpa using h'
        simp only [List.find?_cons, this]
        exact ih

theorem get?_insert [Std.TransOrd κ] (m : SortedMap κ ν) (k j : κ) (v : ν) :
    (m.insert k v).get? j = if compare k j = .eq then some v else m.get? j :=
  find?_insertEntry k j v m.entries

@[simp] theorem get?_insert_self [Std.TransOrd κ] (m : SortedMap κ ν) (k : κ) (v : ν) :
    (m.insert k v).get? k = some v := by
  simp [get?_insert]

theorem get?_insert_of_ne [Std.TransOrd κ] [Std.LawfulEqOrd κ] (m : SortedMap κ ν) {k j : κ}
    (h : k ≠ j) (v : ν) : (m.insert k v).get? j = m.get? j := by
  rw [get?_insert, if_neg]
  exact fun e => h (Std.LawfulEqCmp.eq_of_compare e)

@[simp] theorem get?_empty (k : κ) : (empty : SortedMap κ ν).get? k = none := rfl

theorem get?_mapValues (f : ν → μ) (m : SortedMap κ ν) (k : κ) :
    (m.mapValues f).get? k = (m.get? k).map f := by
  simp [get?, mapValues, List.find?_map, Function.comp_def]

theorem mem_keys_iff [Std.TransOrd κ] [Std.LawfulEqOrd κ] {m : SortedMap κ ν} {k : κ} :
    k ∈ m.keys ↔ m.contains k = true := by
  simp [keys, contains, get?, List.find?_isSome]

theorem pairwise_keys (m : SortedMap κ ν) : m.keys.Pairwise (fun j k => compare j k = .lt) :=
  List.pairwise_map.mpr m.ordered

/-! ### Extensionality -/

private theorem find?_eq_none_of_lt [Std.TransOrd κ] {k j : κ} {v : ν} {l : List (κ × ν)}
    (h : ((k, v) :: l).Pairwise (fun a b => compare a.1 b.1 = .lt)) (hj : compare j k ≠ .gt) :
    l.find? (fun e => compare e.1 j == .eq) = none := by
  rw [List.find?_eq_none]
  intro e he
  have hlt : compare j e.1 = .lt := by
    have hk := (List.pairwise_cons.mp h).1 e he
    cases hc : compare j k with
    | lt => exact Std.TransCmp.lt_trans hc hk
    | eq => exact Std.TransCmp.lt_of_eq_of_lt hc hk
    | gt => exact absurd hc hj
  have : compare e.1 j = .gt := Std.OrientedCmp.gt_of_lt hlt
  simp [this]

private theorem entries_eq_of_find?_eq [Std.TransOrd κ] [Std.LawfulEqOrd κ] {l l' : List (κ × ν)}
    (h : l.Pairwise (fun a b => compare a.1 b.1 = .lt))
    (h' : l'.Pairwise (fun a b => compare a.1 b.1 = .lt))
    (same : ∀ j, (l.find? (fun e => compare e.1 j == .eq)).map (·.2) =
      (l'.find? (fun e => compare e.1 j == .eq)).map (·.2)) : l = l' := by
  induction l generalizing l' with
  | nil =>
    cases l' with
    | nil => rfl
    | cons e r => have := same e.1; simp at this
  | cons e r ih =>
    obtain ⟨k, v⟩ := e
    cases l' with
    | nil => have := same k; simp at this
    | cons e' r' =>
      obtain ⟨k', v'⟩ := e'
      have hk : compare k k' = .eq := by
        cases hc : compare k k' with
        | eq => rfl
        | lt =>
          have none' := find?_eq_none_of_lt (j := k) h' (by simp [hc])
          have hne : compare k' k = .gt := Std.OrientedCmp.gt_of_lt hc
          have := same k
          simp [hne, none'] at this
        | gt =>
          have hlt : compare k' k = .lt := Std.OrientedCmp.lt_of_gt hc
          have none' := find?_eq_none_of_lt (j := k') h (by simp [hlt])
          have := same k'
          simp [hc, none'] at this
      obtain rfl : k = k' := Std.LawfulEqCmp.eq_of_compare hk
      obtain rfl : v = v' := by have := same k; simpa using this
      refine congrArg _ (ih (List.pairwise_cons.mp h).2 (List.pairwise_cons.mp h').2 fun j => ?_)
      by_cases hj : compare k j = .eq
      · have hg : compare j k ≠ .gt := by rw [Std.OrientedCmp.eq_symm hj]; simp
        rw [find?_eq_none_of_lt h hg, find?_eq_none_of_lt h' hg]
      · have := same j
        simpa [List.find?_cons, hj] using this

theorem ext_get? [Std.TransOrd κ] [Std.LawfulEqOrd κ] {m m' : SortedMap κ ν}
    (h : ∀ k, m.get? k = m'.get? k) : m = m' := by
  obtain ⟨l, hl⟩ := m
  obtain ⟨l', hl'⟩ := m'
  have : l = l' := entries_eq_of_find?_eq hl hl' h
  subst this
  rfl

end SortedMap

end LtiLaunch
