import LtiLaunch.Json.Record
import LtiLaunch.Proofs.Json.Reading

/-!
# Records in text

A value round-trips if it is read back from the text it is written as. What is written of a record
has to be faithful, and the reading of the written fields has to give the record.
-/

namespace LtiLaunch

/-! ### Maps -/

namespace SortedMap

variable {κ ν : Type} [Ord κ] [Std.TransOrd κ]

theorem insertEntry_of_forall_lt {k : κ} {v : ν} {l : List (κ × ν)}
    (below : ∀ e ∈ l, compare e.1 k = .lt) : insertEntry k v l = l ++ [(k, v)] := by
  induction l with
  | nil => rfl
  | cons e l ih =>
    obtain ⟨first, below⟩ := List.forall_mem_cons.mp below
    rw [insertEntry, Std.OrientedCmp.gt_of_lt first, ih below]
    rfl

theorem entries_insertAll {m : SortedMap κ ν} {l : List (κ × ν)}
    (ordered : (m.entries ++ l).Pairwise fun a b => compare a.1 b.1 = .lt) :
    (m.insertAll l).entries = m.entries ++ l := by
  induction l generalizing m with
  | nil => exact (List.append_nil _).symm
  | cons e l ih =>
    have inserted : (m.insert e.1 e.2).entries = m.entries ++ [e] :=
      insertEntry_of_forall_lt fun e' mem =>
        (List.pairwise_append.mp ordered).2.2 e' mem e List.mem_cons_self
    have step := ih (m := m.insert e.1 e.2) (by rwa [inserted, List.append_assoc])
    rw [inserted, List.append_assoc] at step
    exact step

theorem ofList_entries (m : SortedMap κ ν) : ofList m.entries = m := by
  obtain ⟨l, ordered⟩ := m
  have same := entries_insertAll (m := (empty : SortedMap κ ν)) ordered
  change (ofList l).entries = l at same
  revert same
  generalize ofList l = m'
  rintro rfl
  rfl

end SortedMap

namespace Json

variable {α : Type} {write : α → Json} {read : Json → Option α}

/-- The value is read back from the text that it is written as. -/
def RoundTrips (write : α → Json) (read : Json → Option α) (x : α) : Prop :=
  (parse? (write x).render).bind read = some x

theorem roundTrips_of_read {x : α} (faithful : (write x).faithful = true)
    (back : read (write x) = some x) : RoundTrips write read x := by
  unfold RoundTrips
  rw [parse?_render _ faithful]
  exact back

/-! ### Lists -/

theorem listOf?_map (back : ∀ x, read (write x) = some x) (xs : List α) :
    listOf? read (.arr (xs.map write)) = some xs := by
  unfold listOf?
  induction xs with
  | nil => rfl
  | cons x xs ih =>
    change (xs.map write).mapM read = some xs at ih
    change (write x :: xs.map write).mapM read = some (x :: xs)
    rw [List.mapM_cons, back, ih]
    rfl

theorem faithfulAll_map (faithful : ∀ x, (write x).faithful = true) (xs : List α) :
    faithfulAll (xs.map write) = true := by
  induction xs with
  | nil => rfl
  | cons x xs ih => rw [List.map_cons, faithfulAll, faithful, ih, Bool.true_and]

/-! ### Maps -/

theorem mapOf?_ofMap (back : ∀ x, read (write x) = some x) (m : SortedMap String α) :
    mapOf? read (ofMap write m) = some m := by
  have entries (l : List (String × α)) :
      (l.map fun e => (e.1, write e.2)).mapM (fun e => (read e.2).map fun x => (e.1, x)) = some l := by
    induction l with
    | nil => rfl
    | cons e l ih =>
      rw [List.map_cons, List.mapM_cons, back, ih]
      rfl
  change Option.map SortedMap.ofList (List.mapM _ (m.entries.map _)) = _
  rw [entries, Option.map_some, SortedMap.ofList_entries]

theorem faithful_ofMap (faithful : ∀ x, (write x).faithful = true) (m : SortedMap String α) :
    (ofMap write m).faithful = true := by
  unfold ofMap
  rw [Json.faithful]
  induction m.entries with
  | nil => rfl
  | cons e l ih => rw [List.map_cons, faithfulMembers, faithful, ih, Bool.true_and]

/-! ### Scalars -/

theorem str?_str (s : String) : str? (.str s) = some s := rfl

theorem bool?_bool (b : Bool) : bool? (.bool b) = some b := rfl

theorem word?_nat {n : Nat} (fits : n < 0x10000000000000000) : word? (nat n) = some n := by
  have bounds : 0 ≤ (n : Int) ∧ (n : Int) < 0x10000000000000000 := by omega
  change (if 0 ≤ (n : Int) ∧ (n : Int) < 0x10000000000000000 then some (n : Int).toNat else none) = _
  rw [if_pos bounds, Int.toNat_natCast]

theorem faithful_nat {n : Nat} (fits : n < 0x10000000000000000) : (nat n).faithful = true := by
  unfold nat
  rw [Json.faithful, fitsWord, Bool.and_eq_true, decide_eq_true_iff, decide_eq_true_iff]
  omega

end Json

end LtiLaunch
