import LtiLaunch.Service.InstanceDirectory
import Mathlib.Data.List.Nodup

/-!
# What an instance directory holds

The instances of a list are taken up one after the other: `add_cases` says what becomes of the next
one, and `foldlM_cases` what becomes of the list.
-/

namespace LtiLaunch

namespace InstanceDirectory

structure WellListed (instances : List ApplicationInstance) : Prop where
  named : ∀ i ∈ instances, Text.isBlank i.consumerKey = false
  distinct : (instances.map (·.consumerKey)).Nodup

/-- Why an instance cannot stand behind those before it. -/
inductive Fault (before : List ApplicationInstance) (i : ApplicationInstance) : Refusal → Prop
  | blank (blank : Text.isBlank i.consumerKey = true) : Fault before i .blankKey
  | repeated (named : Text.isBlank i.consumerKey = false)
      (earlier : i.consumerKey ∈ before.map (·.consumerKey)) :
      Fault before i (.duplicateKey i.consumerKey)

/-- The first instance of the list that cannot stand there is one that cannot for this reason. -/
def FirstFault (instances : List ApplicationInstance) (refusal : Refusal) : Prop :=
  ∃ before i after, instances = before ++ i :: after ∧ WellListed before ∧ Fault before i refusal

/-- What is found under a key is the instance of the list that has it. -/
def Holds (d : InstanceDirectory) (instances : List ApplicationInstance) : Prop :=
  ∀ key i, d.byConsumerKey.get? key = some i ↔ i ∈ instances ∧ i.consumerKey = key

/-- Both look-ups tell what the list says of a key, or that it says nothing. -/
structure Tells (d : InstanceDirectory) (instances : List ApplicationInstance) : Prop where
  listed : ∀ i ∈ instances, (∀ j ∈ instances, j.consumerKey = i.consumerKey → j = i) ∧
    d.lmsUrl i.consumerKey = .ok i.lmsUrl ∧ d.developerKey? i.consumerKey = i.developerKey
  unlisted : ∀ key, (∀ i ∈ instances, i.consumerKey ≠ key) →
    d.lmsUrl key = .error (.failedLookup
      ("no application instance registered for consumer key '" ++ key ++ "'")) ∧
    d.developerKey? key = none

theorem Refusal.kind_error (refusal : Refusal) : refusal.error.kind = .configuration := by
  cases refusal <;> rfl

variable {d d' : InstanceDirectory} {before instances : List ApplicationInstance}
  {i : ApplicationInstance} {refusal : Refusal}

/-! ### One instance -/

theorem Holds.contains_iff (holds : d.Holds before) {key : String} :
    d.byConsumerKey.contains key = true ↔ key ∈ before.map (·.consumerKey) := by
  rw [SortedMap.contains, Option.isSome_iff_exists, List.mem_map]
  exact exists_congr fun i => holds key i

theorem Holds.insert (holds : d.Holds before) (fresh : i.consumerKey ∉ before.map (·.consumerKey)) :
    Holds ⟨d.byConsumerKey.insert i.consumerKey i⟩ (before ++ [i]) := by
  intro key j
  rw [List.mem_append, List.mem_singleton]
  by_cases same : i.consumerKey = key
  · subst same
    rw [SortedMap.get?_insert_self]
    constructor
    · intro found
      obtain rfl := Option.some.inj found
      exact ⟨.inr rfl, rfl⟩
    · rintro ⟨mem | rfl, key⟩
      · exact absurd (List.mem_map.mpr ⟨j, mem, key⟩) fresh
      · rfl
  · rw [SortedMap.get?_insert_of_ne _ same, holds key j]
    constructor
    · rintro ⟨mem, key⟩
      exact ⟨.inl mem, key⟩
    · rintro ⟨mem | rfl, key⟩
      · exact ⟨mem, key⟩
      · exact absurd key same

theorem WellListed.append_singleton (well : WellListed before)
    (named : Text.isBlank i.consumerKey = false)
    (fresh : i.consumerKey ∉ before.map (·.consumerKey)) : WellListed (before ++ [i]) := by
  constructor
  · intro j mem
    rcases List.mem_append.mp mem with mem | last
    · exact well.named j mem
    · obtain rfl := List.mem_singleton.mp last
      exact named
  · rw [List.map_append, List.map_singleton]
    refine List.nodup_append.mpr ⟨well.distinct, List.nodup_singleton _, ?_⟩
    intro key mem last lastMem
    obtain rfl := List.mem_singleton.mp lastMem
    exact fun same => fresh (same ▸ mem)

theorem add_of_fault (holds : d.Holds before) (fault : Fault before i refusal) :
    d.add i = .error refusal := by
  unfold add
  cases fault with
  | blank blank => rw [if_pos blank]
  | repeated named earlier =>
    rw [named, if_neg Bool.false_ne_true, if_pos (holds.contains_iff.mpr earlier)]

/-- The next instance of a list is refused for a fault, or it is found beside the others. -/
theorem add_cases (holds : d.Holds before) (well : WellListed before) (i : ApplicationInstance) :
    (∃ refusal, d.add i = .error refusal ∧ Fault before i refusal) ∨
      ∃ d', d.add i = .ok d' ∧ d'.Holds (before ++ [i]) ∧ WellListed (before ++ [i]) := by
  by_cases blank : Text.isBlank i.consumerKey = true
  · have fault : Fault before i .blankKey := .blank blank
    exact .inl ⟨_, add_of_fault holds fault, fault⟩
  have named : Text.isBlank i.consumerKey = false := by simpa using blank
  by_cases earlier : i.consumerKey ∈ before.map (·.consumerKey)
  · have fault := Fault.repeated named earlier
    exact .inl ⟨_, add_of_fault holds fault, fault⟩
  · have absent := mt holds.contains_iff.mp earlier
    refine .inr ⟨_, ?_, holds.insert earlier, well.append_singleton named earlier⟩
    rw [add, if_neg blank, if_neg absent]

/-! ### Lists of instances -/

theorem foldlM_cases (holds : d.Holds before) (well : WellListed before)
    (instances : List ApplicationInstance) :
    (∃ refusal, instances.foldlM add d = .error refusal ∧
        FirstFault (before ++ instances) refusal) ∨
      ∃ d', instances.foldlM add d = .ok d' ∧ d'.Holds (before ++ instances) ∧
        WellListed (before ++ instances) := by
  induction instances generalizing before d with
  | nil =>
    rw [List.append_nil]
    exact .inr ⟨d, rfl, holds, well⟩
  | cons i instances ih =>
    rw [List.foldlM_cons]
    rcases add_cases holds well i with ⟨refusal, refused, fault⟩ | ⟨d₁, added, holds₁, well₁⟩
    · rw [refused]
      exact .inl ⟨refusal, rfl, before, i, instances, rfl, well, fault⟩
    · rw [added, List.append_cons]
      exact ih holds₁ well₁

theorem holds_empty : empty.Holds [] := by
  intro key i
  simp [empty]

theorem wellListed_nil : WellListed [] := ⟨by simp, by simp⟩

theorem ofList_cases (instances : List ApplicationInstance) :
    (∃ refusal, ofList instances = .error refusal ∧ FirstFault instances refusal) ∨
      ∃ d, ofList instances = .ok d ∧ d.Holds instances ∧ WellListed instances :=
  foldlM_cases holds_empty wellListed_nil instances

theorem holds_of_ofList (built : ofList instances = .ok d) : d.Holds instances := by
  rcases ofList_cases instances with ⟨refusal, refused, -⟩ | ⟨d', built', holds, -⟩
  · cases built.symm.trans refused
  · obtain rfl := Except.ok.inj (built.symm.trans built')
    exact holds

theorem wellListed_of_ofList (built : ofList instances = .ok d) : WellListed instances := by
  rcases ofList_cases instances with ⟨refusal, refused, -⟩ | ⟨-, -, -, well⟩
  · cases built.symm.trans refused
  · exact well

theorem WellListed.not_fault {after : List ApplicationInstance}
    (well : WellListed (before ++ i :: after)) : ¬ Fault before i refusal := by
  rintro (blank | ⟨-, earlier⟩)
  · simp [well.named i (by simp)] at blank
  · have distinct := well.distinct
    rw [List.map_append, List.map_cons] at distinct
    exact (List.nodup_append.mp distinct).2.2 _ earlier _ List.mem_cons_self rfl

theorem WellListed.not_firstFault (well : WellListed instances) :
    ¬ FirstFault instances refusal := by
  rintro ⟨before, i, after, rfl, -, fault⟩
  exact well.not_fault fault

theorem exists_of_wellListed (well : WellListed instances) :
    ∃ d, ofList instances = .ok d ∧ d.Holds instances := by
  rcases ofList_cases instances with ⟨refusal, -, fault⟩ | ⟨d, built, holds, -⟩
  · exact absurd fault well.not_firstFault
  · exact ⟨d, built, holds⟩

theorem ofList_of_firstFault (fault : FirstFault instances refusal) :
    ofList instances = .error refusal := by
  obtain ⟨before, i, after, rfl, well, fault⟩ := fault
  obtain ⟨d, built, holds⟩ := exists_of_wellListed well
  rw [ofList, List.foldlM_append, ← ofList, built]
  change (i :: after).foldlM add d = _
  rw [List.foldlM_cons, add_of_fault holds fault]
  rfl

theorem WellListed.perm (well : WellListed instances) {others : List ApplicationInstance}
    (perm : others.Perm instances) : WellListed others where
  named i mem := well.named i (perm.mem_iff.mp mem)
  distinct := (perm.map _).nodup_iff.mpr well.distinct

/-- The order of the list does not matter to the directory. -/
theorem ofList_of_perm (built : ofList instances = .ok d) {others : List ApplicationInstance}
    (perm : others.Perm instances) : ofList others = .ok d := by
  have holds := holds_of_ofList built
  obtain ⟨d', built', holds'⟩ := exists_of_wellListed ((wellListed_of_ofList built).perm perm)
  have same : d'.byConsumerKey = d.byConsumerKey := by
    apply SortedMap.ext_get?
    intro key
    apply Option.ext
    intro i
    rw [holds' key i, holds key i, perm.mem_iff]
  rw [built']
  exact congrArg (Except.ok ∘ InstanceDirectory.mk) same

theorem Holds.tells (holds : d.Holds instances) : d.Tells instances := by
  constructor
  · intro i mem
    have found : d.byConsumerKey.get? i.consumerKey = some i := (holds _ _).mpr ⟨mem, rfl⟩
    refine ⟨?_, ?_, ?_⟩
    · intro j mem key
      have found' := (holds i.consumerKey j).mpr ⟨mem, key⟩
      exact Option.some.inj (found'.symm.trans found)
    · rw [lmsUrl, found]
    · rw [developerKey?, found]
      rfl
  · intro key unlisted
    have none : d.byConsumerKey.get? key = none := by
      apply Option.eq_none_iff_forall_ne_some.mpr
      intro i found
      obtain ⟨mem, same⟩ := (holds key i).mp found
      exact unlisted i mem same
    refine ⟨?_, ?_⟩
    · rw [lmsUrl, none]
      rfl
    · rw [developerKey?, none]
      rfl

end InstanceDirectory

end LtiLaunch
