import LtiLaunch.Proofs.Json.Canonical
import LtiLaunch.Schema.Check

/-!
# What a schema allows

A value is allowed if it violates no keyword. For the schemas of records, lists and scalars this says
what the value looks like.
-/

namespace LtiLaunch

namespace ValueKind

/-- What a value of the kind looks like. -/
def Shape : ValueKind → Json → Prop
  | array, v => ∃ xs, v = .arr xs
  | boolean, v => ∃ b, v = .bool b
  | integer, v => ∃ n : Number, v = .num n ∧ n.whole?.isSome
  | null, v => v = .null
  | number, v => ∃ n, v = .num n
  | object, v => ∃ ms, v = .obj ms
  | string, v => ∃ s, v = .str s

theorem shape_of_holds {kind : ValueKind} {v : Json} (holds : kind.holds v = true) :
    kind.Shape v := by
  cases kind <;> cases v <;>
    first | exact ⟨_, rfl⟩ | exact ⟨_, rfl, holds⟩ | exact rfl | cases holds

end ValueKind

namespace Schema

variable {v : Json} {ks : List Keyword} {listed : List (String × Schema)}

theorem allows_object_iff : (object ks).allows v = true ↔ ∀ k ∈ ks, keywordViolations k v = [] := by
  unfold allows
  rw [violations, List.isEmpty_iff]
  induction ks with
  | nil => simp [violationsOf]
  | cons k ks ih => rw [violationsOf, List.append_eq_nil_iff, ih, List.forall_mem_cons]

theorem shape_of_kinds {kinds : List ValueKind} (asked : .kinds kinds ∈ ks)
    (allowed : (object ks).allows v = true) : ∃ kind ∈ kinds, kind.Shape v := by
  have none := allows_object_iff.mp allowed _ asked
  rw [keywordViolations] at none
  split at none
  · next holds =>
    obtain ⟨kind, mem, holds⟩ := List.any_eq_true.mp holds
    exact ⟨kind, mem, ValueKind.shape_of_holds holds⟩
  · cases none

theorem shape_of_kind {kind : ValueKind} (asked : .kinds [kind] ∈ ks)
    (allowed : (object ks).allows v = true) : kind.Shape v := by
  obtain ⟨_, only, shape⟩ := shape_of_kinds asked allowed
  exact List.mem_singleton.mp only ▸ shape

/-! ### Records -/

theorem memberViolations_of_lookup {s : Schema} {name : String} (found : listed.lookup name = some s)
    (v : Json) : memberViolations listed name v = violations s v := by
  induction listed with
  | nil => cases found
  | cons l listed ih =>
    obtain ⟨k, t⟩ := l
    rw [List.lookup_cons] at found
    rw [memberViolations]
    split at found
    · next same =>
      cases found
      rw [if_pos (beq_iff_eq.mp same).symm]
    · next other =>
      rw [if_neg fun same => by simp [same] at other]
      exact ih found

theorem onlyMembers_of_none {ms : List (String × Json)}
    (none : keywordViolations (.onlyMembers listed) (.obj ms) = []) {m : String × Json}
    (mem : m ∈ ms) : ∃ s, listed.lookup m.1 = some s ∧ s.allows m.2 = true := by
  rw [keywordViolations] at none
  obtain ⟨each, others⟩ := List.append_eq_nil_iff.mp none
  have given : isListed listed m.1 = true := by
    unfold unlisted at others
    split at others
    · next empty => simpa using List.filter_eq_nil_iff.mp (List.map_eq_nil_iff.mp empty) m mem
    · cases others
  obtain ⟨l, mem', same⟩ := List.any_eq_true.mp given
  obtain ⟨s, found⟩ := Option.isSome_iff_exists.mp
    (List.lookup_isSome_iff.mpr ⟨l, mem', beq_iff_eq.mpr (beq_iff_eq.mp same).symm⟩)
  refine ⟨s, found, List.isEmpty_iff.mpr ?_⟩
  rw [← memberViolations_of_lookup found]
  exact List.flatMap_eq_nil_iff.mp each m mem

/-- The schema of a record: no members but the listed ones, and of these the required ones. -/
def recordOf (listed : List (String × Schema)) (required : List String) : Schema :=
  object (.onlyMembers listed ::
    ((if required = [] then [] else [.required required]) ++ [.kinds [.object]]))

/-- A value that the schema of a record allows. -/
structure IsRecord (listed : List (String × Schema)) (required : List String) (v : Json) :
    Prop where
  isObject : ∃ ms, v = .obj ms
  listed (name x) : v.member? name = some x → ∃ s, listed.lookup name = some s ∧ s.allows x = true
  required : ∀ name ∈ required, ∃ x, v.member? name = some x

namespace IsRecord

variable {required names : List String} {name : String} {x : Json}

theorem mem_names (record : IsRecord listed required v) (given : v.member? name = some x)
    (all : ∀ l ∈ listed, l.1 ∈ names) : name ∈ names := by
  obtain ⟨s, found, -⟩ := record.listed name x given
  obtain ⟨l, mem, same⟩ := List.lookup_isSome_iff.mp (Option.isSome_iff_exists.mpr ⟨s, found⟩)
  exact beq_iff_eq.mp same ▸ all l mem

theorem allows (record : IsRecord listed required v) (given : v.member? name = some x) {s : Schema}
    (found : listed.lookup name = some s) : s.allows x = true := by
  obtain ⟨s', found', allowed⟩ := record.listed name x given
  cases found.symm.trans found'
  exact allowed

end IsRecord

theorem isRecord_of_allows {required : List String}
    (allowed : (recordOf listed required).allows v = true) : IsRecord listed required v := by
  have none := allows_object_iff.mp allowed
  have isObject : ValueKind.object.Shape v := shape_of_kind (by simp) allowed
  obtain ⟨ms, rfl⟩ := isObject
  refine ⟨⟨ms, rfl⟩, fun name x found => ?_, fun name mem => ?_⟩
  · exact onlyMembers_of_none (none _ List.mem_cons_self) (Json.mem_of_member? found)
  · have given : required ≠ [] := List.ne_nil_of_mem mem
    have none := none (.required required) (by simp [given])
    rw [keywordViolations] at none
    have present := List.filter_eq_nil_iff.mp (List.map_eq_nil_iff.mp none) name mem
    exact Option.ne_none_iff_exists'.mp (by simpa using present)

/-! ### Maps and lists -/

theorem members_of_allows {each : Schema}
    (allowed : (object [.otherMembers [] each, .kinds [.object]]).allows v = true) :
    ∃ ms, v = .obj ms ∧ ∀ m ∈ ms, each.allows m.2 = true := by
  have isObject : ValueKind.object.Shape v := shape_of_kind (by simp) allowed
  obtain ⟨ms, rfl⟩ := isObject
  refine ⟨ms, rfl, fun m mem => List.isEmpty_iff.mpr ?_⟩
  have none := allows_object_iff.mp allowed _ List.mem_cons_self
  rw [keywordViolations] at none
  exact List.flatMap_eq_nil_iff.mp none m mem

theorem elements_of_allows {each : Schema}
    (allowed : (object [.elements each, .kinds [.array]]).allows v = true) :
    ∃ xs, v = .arr xs ∧ ∀ x ∈ xs, each.allows x = true := by
  have isArray : ValueKind.array.Shape v := shape_of_kind (by simp) allowed
  obtain ⟨xs, rfl⟩ := isArray
  refine ⟨xs, rfl, fun x mem => List.isEmpty_iff.mpr ?_⟩
  have none := allows_object_iff.mp allowed _ List.mem_cons_self
  rw [keywordViolations] at none
  exact List.flatMap_eq_nil_iff.mp none x mem

end Schema

end LtiLaunch
