import LtiLaunch.Proofs.Config.Completion
import LtiLaunch.Proofs.Json5.Numbers

/-!
# What the schema lets through can be read

Every keyword of the shipped schema is at least as strict as the reading of what it is about, section
by section. The one gap is the number of days: the schema takes a double for an integer if it is
whole, and the reading takes none. That no integer is too large for a word the schema does not say;
JSON5 sees to it.
-/

namespace LtiLaunch

open Json (EachNumber required withDefault)
open Number (FitsWord)
open Schema (shape_of_kind)

/-! ### Fields -/

section

variable {α : Type} {d : α} {read : Json → Option α} {given : Option Json}

theorem Json.exists_withDefault (each : ∀ x, given = some x → ∃ a, read x = some a) :
    ∃ a, withDefault d read given = some a := by
  cases given with
  | none => exact ⟨d, rfl⟩
  | some x => exact each x rfl

theorem Json.exists_required (present : ∃ x, given = some x)
    (each : ∀ x, given = some x → ∃ a, read x = some a) : ∃ a, required read given = some a := by
  obtain ⟨x, rfl⟩ := present
  exact each x rfl

end

/-! ### Scalars -/

section

variable {ks : List Keyword} {x : Json}

theorem Schema.exists_str? (asked : .kinds [.string] ∈ ks) (allowed : (object ks).allows x = true) :
    ∃ s, x.str? = some s := by
  have shape : ValueKind.string.Shape x := shape_of_kind asked allowed
  obtain ⟨s, rfl⟩ := shape
  exact ⟨s, rfl⟩

theorem Schema.exists_bool? (asked : .kinds [.boolean] ∈ ks)
    (allowed : (object ks).allows x = true) : ∃ b, x.bool? = some b := by
  have shape : ValueKind.boolean.Shape x := shape_of_kind asked allowed
  obtain ⟨b, rfl⟩ := shape
  exact ⟨b, rfl⟩

theorem Config.exists_rotation (allowed : rotationRules.allows x = true) :
    ∃ r, Json.nameOf? Rotation.ofName? x = some r := by
  have shape : ValueKind.string.Shape x := shape_of_kind (by simp) allowed
  obtain ⟨s, rfl⟩ := shape
  have none := Schema.allows_object_iff.mp allowed _ List.mem_cons_self
  rw [Schema.keywordViolations] at none
  split at none
  · next listed =>
    obtain ⟨option, mem, same⟩ := List.any_eq_true.mp listed
    simp only [List.mem_cons, List.not_mem_nil, or_false] at mem
    rcases mem with rfl | rfl
    · obtain rfl : s = "daily" := beq_iff_eq.mp same
      exact ⟨.daily, rfl⟩
    · obtain rfl : s = "hourly" := beq_iff_eq.mp same
      exact ⟨.hourly, rfl⟩
  · cases none

/-- A number of days in whole notation is read; the schema only sees to it that it is positive. -/
theorem Config.exists_days (allowed : daysRules.allows x = true) (fits : EachNumber FitsWord x)
    (whole : ∀ y, x ≠ .num (.double y)) : ∃ n, x.word? = some n := by
  have shape : ValueKind.integer.Shape x := shape_of_kind (by simp) allowed
  obtain ⟨n, rfl, -⟩ := shape
  cases n with
  | double y => exact absurd rfl (whole y)
  | int i =>
    have none := Schema.allows_object_iff.mp allowed _ List.mem_cons_self
    rw [Schema.keywordViolations] at none
    split at none
    · cases none
    · next least =>
      cases fits with
      | num fits =>
        have least : 1 ≤ i := by simpa [Number.lessThan, Number.fraction] using least
        have most : i < 0x10000000000000000 := by
          have bounds : Json.fitsWord i = true := fits
          unfold Json.fitsWord at bounds
          exact decide_eq_true_iff.mp (Bool.and_eq_true_iff.mp bounds).2
        refine ⟨i.toNat, ?_⟩
        unfold Json.word?
        exact if_pos ⟨by omega, most⟩

theorem Config.exists_optionalText (allowed : optionalTextRules.allows x = true) :
    ∃ key, Json.nullable? Json.str? x = some key := by
  obtain ⟨kind, mem, shape⟩ := Schema.shape_of_kinds List.mem_cons_self allowed
  simp only [List.mem_cons, List.not_mem_nil, or_false] at mem
  rcases mem with rfl | rfl
  · cases shape
    exact ⟨none, rfl⟩
  · obtain ⟨s, rfl⟩ := shape
    exact ⟨some s, rfl⟩

theorem Schema.IsRecord.exists_text {listed : List (String × Schema)} {names : List String}
    (record : IsRecord listed names x) (name d : String)
    (found : listed.lookup name = some (object ks)) (asked : .kinds [.string] ∈ ks) :
    ∃ s, withDefault d Json.str? (x.member? name) = some s :=
  Json.exists_withDefault fun _ given => exists_str? asked (record.allows given found)

theorem Schema.IsRecord.exists_requiredText {listed : List (String × Schema)}
    {names : List String} (record : IsRecord listed names x) (name : String) (mem : name ∈ names)
    (found : listed.lookup name = some (object ks)) (asked : .kinds [.string] ∈ ks) :
    ∃ s, Json.required Json.str? (x.member? name) = some s :=
  Json.exists_required (record.required name mem) fun _ given =>
    exists_str? asked (record.allows given found)

end

/-! ### Sections -/

open Json (exists_withDefault exists_required)

variable {v : Json}

theorem ServerConfig.exists_of_rules (canonical : v.Canonical)
    (allowed : Config.serverRules.allows v = true) : ∃ c, ofJson? v = some c := by
  have record := Schema.isRecord_of_allows allowed
  obtain ⟨ms, rfl⟩ := record.isObject
  let d : ServerConfig := {}
  obtain ⟨bindAddr, isAddr⟩ := record.exists_text "bind_addr" d.bindAddr rfl (by simp)
  obtain ⟨publicBaseUrl, isUrl⟩ :=
    record.exists_text "public_base_url" d.publicBaseUrl rfl (by simp)
  exact ⟨⟨bindAddr, publicBaseUrl⟩, (ofJson?_eq_some_iff canonical).mpr ⟨isAddr, isUrl⟩⟩

theorem LoggingConfig.exists_of_rules (canonical : v.Canonical)
    (allowed : Config.loggingRules.allows v = true) (fits : EachNumber FitsWord v)
    (whole : ∀ y, v.member? "retention_days" ≠ some (.num (.double y))) :
    ∃ c, ofJson? v = some c := by
  have record := Schema.isRecord_of_allows allowed
  obtain ⟨ms, rfl⟩ := record.isObject
  let d : LoggingConfig := {}
  obtain ⟨dir, isDir⟩ := record.exists_text "dir" d.dir rfl (by simp)
  obtain ⟨filter, isFilter⟩ := record.exists_text "filter" d.filter rfl (by simp)
  obtain ⟨rotation, isRotation⟩ : ∃ r, withDefault d.rotation (Json.nameOf? Rotation.ofName?)
      ((Json.obj ms).member? "rotation") = some r :=
    exists_withDefault fun _ given => Config.exists_rotation (record.allows given rfl)
  obtain ⟨retentionDays, isDays⟩ : ∃ n, withDefault d.retentionDays Json.word?
      ((Json.obj ms).member? "retention_days") = some n :=
    exists_withDefault fun _ given => Config.exists_days (record.allows given rfl)
      (fits.member? given) fun y same => whole y (given.trans (congrArg some same))
  obtain ⟨stderrWarnEnabled, isSwitch⟩ : ∃ b, withDefault d.stderrWarnEnabled Json.bool?
      ((Json.obj ms).member? "stderr_warn_enabled") = some b :=
    exists_withDefault fun _ given => Schema.exists_bool? (by simp) (record.allows given rfl)
  exact ⟨⟨dir, filter, rotation, retentionDays, stderrWarnEnabled⟩,
    (ofJson?_eq_some_iff canonical).mpr ⟨isDir, isFilter, isRotation, isDays, isSwitch⟩⟩

theorem PickerConfig.exists_of_rules (canonical : v.Canonical)
    (allowed : Config.pickerRules.allows v = true) : ∃ c, ofJson? v = some c := by
  have record := Schema.isRecord_of_allows allowed
  obtain ⟨ms, rfl⟩ := record.isObject
  obtain ⟨clientId, isId⟩ := record.exists_requiredText "client_id" (by simp) rfl (by simp)
  obtain ⟨developerKey, isKey⟩ := record.exists_requiredText "developer_key" (by simp) rfl (by simp)
  exact ⟨⟨clientId, developerKey⟩, (ofJson?_eq_some_iff canonical).mpr ⟨isId, isKey⟩⟩

theorem ApplicationInstance.exists_of_rules (canonical : v.Canonical)
    (allowed : Config.instanceRules.allows v = true) : ∃ i, ofJson? v = some i := by
  have record := Schema.isRecord_of_allows allowed
  obtain ⟨ms, rfl⟩ := record.isObject
  obtain ⟨consumerKey, isConsumerKey⟩ :=
    record.exists_requiredText "consumer_key" (by simp) rfl (by simp)
  obtain ⟨lmsUrl, isUrl⟩ := record.exists_requiredText "lms_url" (by simp) rfl (by simp)
  obtain ⟨developerKey, isDeveloperKey⟩ : ∃ key, withDefault none (Json.nullable? Json.str?)
      ((Json.obj ms).member? "developer_key") = some key :=
    exists_withDefault fun _ given => Config.exists_optionalText (record.allows given rfl)
  exact ⟨⟨consumerKey, lmsUrl, developerKey⟩,
    (ofJson?_eq_some_iff canonical).mpr ⟨isConsumerKey, isUrl, isDeveloperKey⟩⟩

theorem AssignmentSeed.exists_of_rules (canonical : v.Canonical)
    (allowed : Config.assignmentRules.allows v = true) : ∃ s, ofJson? v = some s := by
  have record := Schema.isRecord_of_allows allowed
  obtain ⟨ms, rfl⟩ := record.isObject
  obtain ⟨platformGuid, isGuid⟩ :=
    record.exists_requiredText "tool_consumer_instance_guid" (by simp) rfl (by simp)
  obtain ⟨resourceLinkId, isId⟩ :=
    record.exists_requiredText "resource_link_id" (by simp) rfl (by simp)
  obtain ⟨documentUrl, isUrl⟩ := record.exists_requiredText "document_url" (by simp) rfl (by simp)
  exact ⟨⟨platformGuid, resourceLinkId, documentUrl⟩,
    (ofJson?_eq_some_iff canonical).mpr ⟨isGuid, isId, isUrl⟩⟩

namespace Config

theorem exists_flags (allowed : flagsRules.allows v = true) :
    ∃ flags, Json.mapOf? Json.bool? v = some flags := by
  obtain ⟨ms, rfl, each⟩ := Schema.members_of_allows allowed
  have read : ∀ m ∈ ms, ∃ e, (Json.bool? m.2).map (fun x => (m.1, x)) = some e := by
    intro m mem
    obtain ⟨b, isSwitch⟩ := Schema.exists_bool? List.mem_cons_self (each m mem)
    exact ⟨(m.1, b), Option.map_eq_some_iff.mpr ⟨b, isSwitch, rfl⟩⟩
  obtain ⟨es, entries⟩ := Json.exists_mapM read
  exact ⟨SortedMap.ofList es, Option.map_eq_some_iff.mpr ⟨es, entries, rfl⟩⟩

theorem exists_list {α : Type} {each : Schema} {read : Json → Option α}
    (exists_of_rules : ∀ {x}, x.Canonical → each.allows x = true → ∃ a, read x = some a)
    (canonical : v.Canonical) (allowed : (listRules each).allows v = true) :
    ∃ as, Json.listOf? read v = some as := by
  obtain ⟨xs, rfl, all⟩ := Schema.elements_of_allows allowed
  exact Json.exists_mapM fun x mem => exists_of_rules (canonical.of_element mem) (all x mem)

/-- Where a document says for how many days logs are kept. -/
def daysPath : List Json.Step := [.member "logging", .member "retention_days"]

theorem exists_of_rules (canonical : v.Canonical) (allowed : rules.allows v = true)
    (fits : EachNumber FitsWord v) (whole : ∀ y, v.at? daysPath ≠ some (.num (.double y))) :
    ∃ c, ofJson? v = some c := by
  have record := Schema.isRecord_of_allows allowed
  obtain ⟨ms, rfl⟩ := record.isObject
  have inside {name x} (given : (Json.obj ms).member? name = some x) : x.Canonical :=
    canonical.member? given
  obtain ⟨server, isServer⟩ : ∃ c, withDefault {} ServerConfig.ofJson?
      ((Json.obj ms).member? "server") = some c :=
    exists_withDefault fun _ given =>
      ServerConfig.exists_of_rules (inside given) (record.allows given rfl)
  obtain ⟨logging, isLogging⟩ : ∃ c, withDefault {} LoggingConfig.ofJson?
      ((Json.obj ms).member? "logging") = some c := by
    refine exists_withDefault fun x given => ?_
    refine LoggingConfig.exists_of_rules (inside given) (record.allows given rfl)
      (fits.member? given) fun y days => whole y ?_
    exact Option.bind_eq_some_iff.mpr ⟨x, given, Option.bind_eq_some_iff.mpr ⟨_, days, rfl⟩⟩
  obtain ⟨picker, isPicker⟩ := exists_required (record.required "google_picker" (by simp))
    fun _ given => PickerConfig.exists_of_rules (inside given) (record.allows given rfl)
  obtain ⟨featureFlags, areFlags⟩ : ∃ flags, withDefault .empty (Json.mapOf? Json.bool?)
      ((Json.obj ms).member? "feature_flags") = some flags :=
    exists_withDefault fun _ given => exists_flags (record.allows given rfl)
  obtain ⟨instances, areInstances⟩ : ∃ is, withDefault []
      (Json.listOf? ApplicationInstance.ofJson?)
      ((Json.obj ms).member? "application_instances") = some is :=
    exists_withDefault fun _ given =>
      exists_list ApplicationInstance.exists_of_rules (inside given) (record.allows given rfl)
  obtain ⟨assignments, areAssignments⟩ : ∃ ss, withDefault [] (Json.listOf? AssignmentSeed.ofJson?)
      ((Json.obj ms).member? "assignments") = some ss :=
    exists_withDefault fun _ given =>
      exists_list AssignmentSeed.exists_of_rules (inside given) (record.allows given rfl)
  exact ⟨⟨server, logging, picker, featureFlags, instances, assignments⟩,
    (ofJson?_eq_some_iff canonical).mpr
      ⟨isServer, isLogging, isPicker, areFlags, areInstances, areAssignments⟩⟩

/-- A number of days with a point or an exponent is not read, even if it is whole. -/
theorem ofJson?_of_double {y : Binary64} (canonical : v.Canonical)
    (days : v.at? daysPath = some (.num (.double y))) : ofJson? v = none := by
  obtain ⟨logging, given, days⟩ := Option.bind_eq_some_iff.mp days
  obtain ⟨_, days, same⟩ := Option.bind_eq_some_iff.mp days
  cases same
  obtain ⟨ms, rfl⟩ : ∃ ms, v = .obj ms := by
    cases v with
    | obj ms => exact ⟨ms, rfl⟩
    | _ => cases given
  have inside : logging.Canonical := canonical.member? given
  obtain ⟨settings, rfl⟩ : ∃ settings, logging = .obj settings := by
    cases logging with
    | obj settings => exact ⟨settings, rfl⟩
    | _ => cases days
  cases read : ofJson? (.obj ms) with
  | none => rfl
  | some c =>
    obtain ⟨-, isLogging, -⟩ := (ofJson?_eq_some_iff canonical).mp read
    change (Json.obj ms).member? "logging" = _ at given
    change (Json.obj settings).member? "retention_days" = _ at days
    rw [given] at isLogging
    obtain ⟨-, -, -, isDays, -⟩ := (LoggingConfig.ofJson?_eq_some_iff inside).mp isLogging
    rw [days] at isDays
    cases isDays

end Config

end LtiLaunch
