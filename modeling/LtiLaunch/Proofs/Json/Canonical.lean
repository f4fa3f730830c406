import Mathlib.Data.List.Forall2
import LtiLaunch.Json.Record
import LtiLaunch.Proofs.Json.Record

/-!
# Canonical values

In a canonical value the members of every object stand in the order of their names, each name once.
So a field of a record has no more than one value, and an object read as a map is the map's own.
-/

namespace LtiLaunch.Json

theorem insertMember_cases (k : String) (v : Json) (ms : List (String × Json)) :
    insertMember k v ms = ms ∨ insertMember k v ms = SortedMap.insertEntry k v ms := by
  induction ms with
  | nil => exact .inr rfl
  | cons m ms ih =>
    obtain ⟨k', v'⟩ := m
    rw [insertMember, SortedMap.insertEntry]
    cases compare k k' with
    | lt => exact .inr rfl
    | eq => exact .inl rfl
    | gt => exact ih.imp (congrArg _) (congrArg _)

theorem pairwise_canonicalMembers (ms : List (String × Json)) :
    (canonicalMembers ms).Pairwise fun m n => compare m.1 n.1 = .lt := by
  induction ms with
  | nil => exact .nil
  | cons m ms ih =>
    obtain ⟨k, x⟩ := m
    rw [canonicalMembers]
    rcases insertMember_cases k x.canonical (canonicalMembers ms) with same | inserted
    · rwa [same]
    · rw [inserted]
      exact SortedMap.pairwise_insertEntry k x.canonical ih

theorem mem_canonicalMembers {ms : List (String × Json)} {m : String × Json}
    (mem : m ∈ canonicalMembers ms) : ∃ n ∈ ms, m.2 = n.2.canonical := by
  induction ms with
  | nil => cases mem
  | cons head ms ih =>
    obtain ⟨k, x⟩ := head
    rw [canonicalMembers] at mem
    have either : m = (k, x.canonical) ∨ m ∈ canonicalMembers ms := by
      rcases insertMember_cases k x.canonical (canonicalMembers ms) with same | inserted
      · exact .inr (same ▸ mem)
      · exact SortedMap.mem_insertEntry (inserted ▸ mem)
    rcases either with rfl | later
    · exact ⟨(k, x), List.mem_cons_self, rfl⟩
    · obtain ⟨n, mem, same⟩ := ih later
      exact ⟨n, List.mem_cons_of_mem _ mem, same⟩

theorem perm_insertMember {k : String} {v : Json} {ms : List (String × Json)}
    (absent : k ∉ ms.map Prod.fst) : (insertMember k v ms).Perm ((k, v) :: ms) := by
  induction ms with
  | nil => exact .refl _
  | cons m ms ih =>
    obtain ⟨k', v'⟩ := m
    rw [List.map_cons, List.mem_cons, not_or] at absent
    obtain ⟨other, absent⟩ := absent
    rw [insertMember]
    cases order : compare k k' with
    | lt => exact .refl _
    | eq => exact absurd (Std.LawfulEqCmp.eq_of_compare order) other
    | gt => exact ((ih absent).cons _).trans (.swap _ _ _)

/-- Where each name is given once, sorting drops no member. -/
theorem perm_canonicalMembers {ms : List (String × Json)} (distinct : (ms.map Prod.fst).Nodup) :
    (canonicalMembers ms).Perm (ms.map fun m => (m.1, m.2.canonical)) := by
  induction ms with
  | nil => exact .refl _
  | cons m ms ih =>
    obtain ⟨k, x⟩ := m
    obtain ⟨absent, distinct⟩ := List.nodup_cons.mp distinct
    have rest := ih distinct
    have names : ((canonicalMembers ms).map Prod.fst).Perm (ms.map Prod.fst) := by
      simpa [Function.comp_def] using rest.map Prod.fst
    rw [canonicalMembers]
    exact (perm_insertMember (mt names.mem_iff.mp absent)).trans (rest.cons _)

theorem perm_canonicalMembers_self {ms : List (String × Json)} (distinct : (ms.map Prod.fst).Nodup)
    (canonical : ∀ m ∈ ms, m.2.canonical = m.2) : (canonicalMembers ms).Perm ms := by
  have sorted := perm_canonicalMembers distinct
  have same : (ms.map fun m => (m.1, m.2.canonical)) = ms.map id :=
    List.map_congr_left fun m mem => Prod.ext rfl (canonical m mem)
  rwa [same, List.map_id] at sorted

theorem canonicalAll_eq_map (xs : List Json) : canonicalAll xs = xs.map canonical := by
  induction xs with
  | nil => rfl
  | cons x xs ih => rw [canonicalAll, ih, List.map_cons]

/-- The value is in canonical form. -/
def Canonical (v : Json) : Prop := ∃ u : Json, v = u.canonical

namespace Canonical

variable {v x : Json} {ms : List (String × Json)} {xs : List Json} {name : String}

theorem sorted (canonical : (obj ms).Canonical) :
    ms.Pairwise fun m n => compare m.1 n.1 = .lt := by
  obtain ⟨u, same⟩ := canonical
  cases u with
  | obj us =>
    obtain rfl : ms = canonicalMembers us := Json.obj.inj same
    exact pairwise_canonicalMembers us
  | _ => cases same

theorem of_mem (canonical : (obj ms).Canonical) {m : String × Json} (mem : m ∈ ms) :
    m.2.Canonical := by
  obtain ⟨u, same⟩ := canonical
  cases u with
  | obj us =>
    obtain rfl : ms = canonicalMembers us := Json.obj.inj same
    obtain ⟨n, -, same⟩ := mem_canonicalMembers mem
    exact ⟨n.2, same⟩
  | _ => cases same

theorem of_element (canonical : (arr xs).Canonical) (mem : x ∈ xs) : x.Canonical := by
  obtain ⟨u, same⟩ := canonical
  cases u with
  | arr us =>
    obtain rfl : xs = canonicalAll us := Json.arr.inj same
    rw [canonicalAll_eq_map] at mem
    obtain ⟨u, -, same⟩ := List.mem_map.mp mem
    exact ⟨u, same.symm⟩
  | _ => cases same

end Canonical

/-! ### Members -/

variable {ms : List (String × Json)} {name : String} {x : Json}

theorem mem_of_member? (given : (obj ms).member? name = some x) : (name, x) ∈ ms := by
  obtain ⟨m, found, rfl⟩ := Option.map_eq_some_iff.mp given
  have same := List.find?_some found
  obtain rfl : m.1 = name := beq_iff_eq.mp same
  exact List.mem_of_find?_eq_some found

theorem member?_isSome_iff : ((obj ms).member? name).isSome ↔ name ∈ ms.map Prod.fst := by
  simp [member?, List.find?_isSome]

theorem Canonical.member? {v : Json} (canonical : v.Canonical) (found : v.member? name = some x) :
    x.Canonical := by
  cases v with
  | obj ms => exact canonical.of_mem (mem_of_member? found)
  | _ => cases found

theorem member?_cons_of_ne {m : String × Json} (other : m.1 ≠ name) :
    (obj (m :: ms)).member? name = (obj ms).member? name := by
  simp [Json.member?, other]

theorem field?_cons_of_ne {m : String × Json} (other : m.1 ≠ name) :
    field? (m :: ms) name = field? ms name := by
  unfold field?
  rw [List.filter_cons_of_neg (by simpa using other)]

theorem member?_of_sorted (sorted : ms.Pairwise fun m n => compare m.1 n.1 = .lt)
    (mem : (name, x) ∈ ms) : (obj ms).member? name = some x := by
  induction ms with
  | nil => cases mem
  | cons m ms ih =>
    obtain ⟨first, sorted⟩ := List.pairwise_cons.mp sorted
    rcases List.mem_cons.mp mem with rfl | mem
    · simp [Json.member?]
    · have less := first _ mem
      have other : m.1 ≠ name := fun same => by
        rw [same, Std.ReflOrd.compare_self] at less
        cases less
      rw [member?_cons_of_ne other]
      exact ih sorted mem

theorem field?_of_sorted (sorted : ms.Pairwise fun m n => compare m.1 n.1 = .lt) (name : String) :
    field? ms name = some ((obj ms).member? name) := by
  induction ms with
  | nil => rfl
  | cons m ms ih =>
    obtain ⟨first, sorted⟩ := List.pairwise_cons.mp sorted
    by_cases same : m.1 = name
    · subst same
      have once : ms.filter (fun n => n.1 == m.1) = [] := by
        refine List.filter_eq_nil_iff.mpr fun n mem again => ?_
        have less := first n mem
        rw [beq_iff_eq.mp again, Std.ReflOrd.compare_self] at less
        cases less
      simp [field?, Json.member?, once]
    · rw [field?_cons_of_ne same, member?_cons_of_ne same]
      exact ih sorted

/-- The fields of a canonical record are its members of those names. -/
theorem fields?_of_canonical (canonical : (obj ms).Canonical) (names : List String) :
    fields? names (obj ms) = some (names.map (obj ms).member?) := by
  change names.mapM (field? ms) = _
  induction names with
  | nil => rfl
  | cons name names ih =>
    rw [List.mapM_cons, field?_of_sorted canonical.sorted, ih]
    rfl

/-! ### Maps and lists -/

theorem forall₂_of_mapM {α β : Type} {f : α → Option β} {xs : List α} {ys : List β}
    (read : xs.mapM f = some ys) : List.Forall₂ (fun x y => f x = some y) xs ys := by
  induction xs generalizing ys with
  | nil =>
    cases read
    exact .nil
  | cons x xs ih =>
    simp only [List.mapM_cons, bind, Option.bind_eq_some_iff] at read
    obtain ⟨y, first, ys, rest, same⟩ := read
    cases same
    exact .cons first (ih rest)

theorem exists_of_mem_mapM {α β : Type} {f : α → Option β} {xs : List α} {ys : List β} {y : β}
    (read : xs.mapM f = some ys) (mem : y ∈ ys) : ∃ x ∈ xs, f x = some y := by
  obtain ⟨length, each⟩ := List.forall₂_iff_get.mp (forall₂_of_mapM read)
  obtain ⟨i, bound, rfl⟩ := List.mem_iff_getElem.mp mem
  exact ⟨xs[i], List.getElem_mem _, each i (length ▸ bound) bound⟩

theorem mapM_append_cons {α β : Type} {g : α → Option β} {before after : List α} {x : α}
    {ys : List β} (read : (before ++ x :: after).mapM g = some ys) :
    ∃ front y back, ys = front ++ y :: back ∧ g x = some y ∧ after.mapM g = some back := by
  simp only [List.mapM_append, List.mapM_cons, bind, pure, Option.bind_eq_some_iff] at read
  obtain ⟨front, -, _, ⟨y, first, back, rest, same⟩, whole⟩ := read
  cases same
  cases whole
  exact ⟨front, y, back, rfl, first, rest⟩

theorem exists_mapM {α β : Type} {f : α → Option β} {xs : List α}
    (each : ∀ x ∈ xs, ∃ y, f x = some y) : ∃ ys, xs.mapM f = some ys := by
  induction xs with
  | nil => exact ⟨[], rfl⟩
  | cons x xs ih =>
    obtain ⟨⟨y, first⟩, rest⟩ := List.forall_mem_cons.mp each
    obtain ⟨ys, rest⟩ := ih rest
    refine ⟨y :: ys, ?_⟩
    rw [List.mapM_cons, first, rest]
    rfl

/-- A canonical object read as a map is what the map is written as. -/
theorem ofMap_of_mapOf? {α : Type} {read : Json → Option α} {write : α → Json}
    (back : ∀ x a, read x = some a → x = write a) {v : Json} (canonical : v.Canonical)
    {m : SortedMap String α} (given : mapOf? read v = some m) : v = ofMap write m := by
  cases v with
  | obj ms =>
    obtain ⟨es, entries, rfl⟩ := Option.map_eq_some_iff.mp given
    have members : ms = es.map fun e => (e.1, write e.2) := by
      refine List.forall₂_eq_eq_eq ▸ List.forall₂_map_right_iff.mpr ?_
      refine (forall₂_of_mapM entries).imp fun m e same => ?_
      obtain ⟨a, value, rfl⟩ := Option.map_eq_some_iff.mp same
      exact Prod.ext rfl (back m.2 a value)
    have sorted : es.Pairwise fun d e => compare d.1 e.1 = .lt :=
      List.pairwise_map.mp (members ▸ canonical.sorted)
    have same := SortedMap.entries_insertAll (m := (SortedMap.empty : SortedMap String α)) sorted
    change (SortedMap.ofList es).entries = es at same
    unfold ofMap
    rw [same, members]
  | _ => cases given

end LtiLaunch.Json
