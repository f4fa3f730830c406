import LtiLaunch.Proofs.Config.Reading
import LtiLaunch.Proofs.Config.Rules
import LtiLaunch.Proofs.Json.Path

/-!
# Nothing of a document is lost

The shipped schema lists the members of every section, and the reading of a section knows a field of
each of these names. So what is read of an accepted document shows all of it again, and beside it
just the defaults of what the document leaves out. This goes section by section, and each time the
names in the rules are compared with the names of the fields.
-/

namespace LtiLaunch

open Json (Completes CompletesField completesField_of_required completesField_of_withDefault)

theorem Json.scalar_ofOption (s : Option String) : (ofOption str s).Scalar := by
  cases s <;> trivial

theorem Json.completesField_text {fill : List Step → Option Json} {given : Option Json}
    {d s : String} (default : fill [] = some (str d))
    (found : withDefault d str? given = some s) : CompletesField fill given (str s) :=
  completesField_of_withDefault str (fun _ _ read => .scalar (eq_of_str? read) trivial) default found

theorem Json.completesField_requiredText {fill : List Step → Option Json} {given : Option Json}
    {s : String} (found : required str? given = some s) : CompletesField fill given (str s) :=
  completesField_of_required str (fun _ _ read => .scalar (eq_of_str? read) trivial) found

theorem ServerConfig.completes {v : Json} {c : ServerConfig} (canonical : v.Canonical)
    (allowed : Config.serverRules.allows v = true) (read : ofJson? v = some c) :
    Completes (toJson {}).at? v c.toJson := by
  have record := Schema.isRecord_of_allows allowed
  obtain ⟨ms, rfl⟩ := record.isObject
  obtain ⟨isAddr, isUrl⟩ := (ofJson?_eq_some_iff canonical).mp read
  have known (name x) (given : (Json.obj ms).member? name = some x) :
      name ∈ ["bind_addr", "public_base_url"] := record.mem_names given (by decide)
  have others (name) (foreign : name ∉ ["bind_addr", "public_base_url"]) :
      (toJson {}).at? [.member name] = none := Json.at?_eq_none foreign (by decide)
  refine Completes.members known others rfl fun name w mem => ?_
  simp only [List.mem_cons, Prod.mk.injEq, List.not_mem_nil, or_false] at mem
  rcases mem with ⟨rfl, rfl⟩ | ⟨rfl, rfl⟩
  · exact Json.completesField_text rfl isAddr
  · exact Json.completesField_text rfl isUrl

theorem LoggingConfig.completes {v : Json} {c : LoggingConfig} (canonical : v.Canonical)
    (allowed : Config.loggingRules.allows v = true) (read : ofJson? v = some c) :
    Completes (toJson {}).at? v c.toJson := by
  have record := Schema.isRecord_of_allows allowed
  obtain ⟨ms, rfl⟩ := record.isObject
  obtain ⟨isDir, isFilter, isRotation, isDays, isSwitch⟩ := (ofJson?_eq_some_iff canonical).mp read
  have known (name x) (given : (Json.obj ms).member? name = some x) :
      name ∈ ["dir", "filter", "rotation", "retention_days", "stderr_warn_enabled"] :=
    record.mem_names given (by decide)
  -- a rotation could also be read from an object that binds its name to null
  have named (x) (given : (Json.obj ms).member? "rotation" = some x)
      (read : Json.nameOf? Rotation.ofName? x = some c.rotation) : x = .str c.rotation.name := by
    have isText : ValueKind.string.Shape x :=
      Schema.shape_of_kind (by simp) (record.allows given rfl)
    obtain ⟨s, rfl⟩ := isText
    exact congrArg Json.str (Rotation.eq_of_ofName? read)
  have others (name) (foreign : name ∉ ["dir", "filter", "rotation", "retention_days", "stderr_warn_enabled"]) :
      (toJson {}).at? [.member name] = none := Json.at?_eq_none foreign (by decide)
  refine Completes.members known others rfl fun name w mem => ?_
  simp only [List.mem_cons, Prod.mk.injEq, List.not_mem_nil, or_false] at mem
  rcases mem with ⟨rfl, rfl⟩ | ⟨rfl, rfl⟩ | ⟨rfl, rfl⟩ | ⟨rfl, rfl⟩ | ⟨rfl, rfl⟩
  · exact Json.completesField_text rfl isDir
  · exact Json.completesField_text rfl isFilter
  · exact completesField_of_withDefault (fun r : Rotation => .str r.name)
      (fun x given read => .scalar (named x given read) trivial) rfl isRotation
  · exact completesField_of_withDefault .nat
      (fun _ _ read => .scalar (Json.eq_of_word? read) trivial) rfl isDays
  · exact completesField_of_withDefault .bool
      (fun _ _ read => .scalar (Json.eq_of_bool? read) trivial) rfl isSwitch

theorem PickerConfig.completes {v : Json} {c : PickerConfig} (canonical : v.Canonical)
    (allowed : Config.pickerRules.allows v = true) (read : ofJson? v = some c) :
    Completes (fun _ => none) v c.toJson := by
  have record := Schema.isRecord_of_allows allowed
  obtain ⟨ms, rfl⟩ := record.isObject
  obtain ⟨isId, isKey⟩ := (ofJson?_eq_some_iff canonical).mp read
  have known (name x) (given : (Json.obj ms).member? name = some x) :
      name ∈ ["client_id", "developer_key"] := record.mem_names given (by decide)
  refine Completes.members known (fun _ _ => rfl) rfl fun name w mem => ?_
  simp only [List.mem_cons, Prod.mk.injEq, List.not_mem_nil, or_false] at mem
  rcases mem with ⟨rfl, rfl⟩ | ⟨rfl, rfl⟩
  · exact Json.completesField_requiredText isId
  · exact Json.completesField_requiredText isKey

/-- An instance has no key for developers unless one is given. -/
def ApplicationInstance.defaults : Json := .obj [("developer_key", .null)]

theorem ApplicationInstance.completes {v : Json} {i : ApplicationInstance}
    (canonical : v.Canonical) (allowed : Config.instanceRules.allows v = true)
    (read : ofJson? v = some i) : Completes defaults.at? v i.toJson := by
  have record := Schema.isRecord_of_allows allowed
  obtain ⟨ms, rfl⟩ := record.isObject
  obtain ⟨isConsumerKey, isUrl, isDeveloperKey⟩ := (ofJson?_eq_some_iff canonical).mp read
  have known (name x) (given : (Json.obj ms).member? name = some x) :
      name ∈ ["consumer_key", "lms_url", "developer_key"] := record.mem_names given (by decide)
  have others (name) (foreign : name ∉ ["consumer_key", "lms_url", "developer_key"]) :
      defaults.at? [.member name] = none := Json.at?_eq_none foreign (by decide)
  refine Completes.members known others rfl fun name w mem => ?_
  simp only [List.mem_cons, Prod.mk.injEq, List.not_mem_nil, or_false] at mem
  rcases mem with ⟨rfl, rfl⟩ | ⟨rfl, rfl⟩ | ⟨rfl, rfl⟩
  · exact Json.completesField_requiredText isConsumerKey
  · exact Json.completesField_requiredText isUrl
  · exact completesField_of_withDefault (d := none) (Json.ofOption .str)
      (fun _ _ read => .scalar (Json.eq_of_nullable? read) (Json.scalar_ofOption i.developerKey))
      rfl isDeveloperKey

theorem AssignmentSeed.completes {v : Json} {s : AssignmentSeed} (canonical : v.Canonical)
    (allowed : Config.assignmentRules.allows v = true) (read : ofJson? v = some s) :
    Completes (fun _ => none) v s.toJson := by
  have record := Schema.isRecord_of_allows allowed
  obtain ⟨ms, rfl⟩ := record.isObject
  obtain ⟨isGuid, isId, isUrl⟩ := (ofJson?_eq_some_iff canonical).mp read
  have known (name x) (given : (Json.obj ms).member? name = some x) :
      name ∈ ["tool_consumer_instance_guid", "resource_link_id", "document_url"] :=
    record.mem_names given (by decide)
  refine Completes.members known (fun _ _ => rfl) rfl fun name w mem => ?_
  simp only [List.mem_cons, Prod.mk.injEq, List.not_mem_nil, or_false] at mem
  rcases mem with ⟨rfl, rfl⟩ | ⟨rfl, rfl⟩ | ⟨rfl, rfl⟩
  · exact Json.completesField_requiredText isGuid
  · exact Json.completesField_requiredText isId
  · exact Json.completesField_requiredText isUrl

namespace Config

/-- The sections that need not be given, as they are then. -/
def defaults : Json :=
  .obj
    [("server", ServerConfig.toJson {}), ("logging", LoggingConfig.toJson {}),
      ("feature_flags", .obj []), ("application_instances", .arr []), ("assignments", .arr [])]

/-- What stands where a document has nothing. -/
def default? : List Json.Step → Option Json
  | .member "application_instances" :: .element _ :: p => ApplicationInstance.defaults.at? p
  | p => defaults.at? p

theorem default?_of_foreign {name : String} (foreign : name ∉ sectionNames) :
    default? [.member name] = none := by
  have same : default? [.member name] = defaults.at? [.member name] := by
    unfold default?
    split
    · next shape => cases shape
    · rfl
  rw [same]
  exact Json.at?_eq_none foreign (by decide)

theorem completes_list {α : Type} {each : Schema} {read : Json → Option α} {write : α → Json}
    {fill inner : List Json.Step → Option Json} {v : Json} {as : List α}
    (completes : ∀ {x a}, x.Canonical → each.allows x = true → read x = some a →
      Completes inner x (write a))
    (canonical : v.Canonical) (allowed : (listRules each).allows v = true)
    (found : Json.listOf? read v = some as) (inside : ∀ i p, fill (.element i :: p) = inner p) :
    Completes fill v (.arr (as.map write)) := by
  obtain ⟨xs, rfl, all⟩ := Schema.elements_of_allows allowed
  refine Json.completes_of_listOf? write found ?_ inside
  intro ys same x mem a read
  cases same
  exact completes (canonical.of_element mem) (all x mem) read

theorem completes_flags {v : Json} {flags : SortedMap String Bool} (canonical : v.Canonical)
    (found : Json.mapOf? Json.bool? v = some flags) :
    Completes (fun p => default? (.member "feature_flags" :: p)) v (Json.ofMap .bool flags) := by
  have same := Json.ofMap_of_mapOf? (fun _ _ => Json.eq_of_bool?) canonical found
  refine Completes.map same (fun m mem => ?_) fun _ => rfl
  obtain ⟨flag, -, rfl⟩ := List.mem_map.mp mem
  trivial

theorem completes_of_rules {v : Json} {c : Config} (canonical : v.Canonical)
    (allowed : rules.allows v = true) (read : ofJson? v = some c) :
    Completes default? (v.without "$schema") c.toJson := by
  have record := Schema.isRecord_of_allows allowed
  obtain ⟨ms, rfl⟩ := record.isObject
  obtain ⟨isServer, isLogging, isPicker, areFlags, areInstances, areAssignments⟩ :=
    (ofJson?_eq_some_iff canonical).mp read
  have inside {name x} (given : (Json.obj ms).member? name = some x) : x.Canonical :=
    canonical.member? given
  have known (name x) (given : ((Json.obj ms).without "$schema").member? name = some x) :
      name ∈ sectionNames := by
    have other := Json.ne_of_member?_without given
    rw [Json.member?_without other] at given
    have listed : name ∈ "$schema" :: sectionNames := record.mem_names given (by decide)
    exact (List.mem_cons.mp listed).resolve_left other
  refine Completes.members known (fun _ => default?_of_foreign) rfl fun name w mem => ?_
  have other : name ≠ "$schema" := by
    rintro rfl
    simp at mem
  change CompletesField _ (((Json.obj ms).without "$schema").member? name) w
  rw [Json.member?_without other]
  clear other
  simp only [List.mem_cons, Prod.mk.injEq, List.not_mem_nil, or_false] at mem
  rcases mem with ⟨rfl, rfl⟩ | ⟨rfl, rfl⟩ | ⟨rfl, rfl⟩ | ⟨rfl, rfl⟩ | ⟨rfl, rfl⟩ | ⟨rfl, rfl⟩
  · exact completesField_of_withDefault ServerConfig.toJson
      (fun _ given read => ServerConfig.completes (inside given) (record.allows given rfl) read)
      rfl isServer
  · exact completesField_of_withDefault LoggingConfig.toJson
      (fun _ given read => LoggingConfig.completes (inside given) (record.allows given rfl) read)
      rfl isLogging
  · exact completesField_of_required PickerConfig.toJson
      (fun _ given read => PickerConfig.completes (inside given) (record.allows given rfl) read)
      isPicker
  · exact completesField_of_withDefault (d := SortedMap.empty) (Json.ofMap .bool)
      (fun _ given read => completes_flags (inside given) read) rfl areFlags
  · exact completesField_of_withDefault (d := [])
      (fun is => .arr (is.map ApplicationInstance.toJson))
      (fun _ given read => completes_list ApplicationInstance.completes (inside given)
        (record.allows given rfl) read fun _ _ => rfl) rfl areInstances
  · exact completesField_of_withDefault (d := [])
      (fun ss => .arr (ss.map AssignmentSeed.toJson))
      (fun _ given read => completes_list AssignmentSeed.completes (inside given)
        (record.allows given rfl) read fun _ _ => rfl) rfl areAssignments

/-- A document that satisfies the shipped schema and can be read is shown whole by what is read of
it, but for the name of its schema; and where it leaves out a field, the default is shown. -/
theorem completes_shipped {path text : String} {v : Json} {c : Config}
    (shipped : schemaDocument? text = some schema.canonical)
    (accepted : check path text v.canonical = .ok ()) (read : ofJson? v.canonical = some c) :
    Completes default? (v.canonical.without "$schema") c.toJson :=
  completes_of_rules ⟨v, rfl⟩ ((check_eq_ok_iff shipped).mp accepted) read

/-- The key of the second instance and all but one of the settings for the logs are left out. -/
theorem completes_shipped_twoInstances :
    let v : Json := .obj
      [("$schema", .str "lms-launch.schema.json"),
        ("google_picker", .obj [("developer_key", .str "key"), ("client_id", .str "client")]),
        ("logging", .obj [("retention_days", .nat 3)]),
        ("application_instances", .arr
          [.obj [("consumer_key", .str "a"), ("lms_url", .str "b"), ("developer_key", .str "c")],
            .obj [("lms_url", .str "d"), ("consumer_key", .str "e")]])]
    let c : Config :=
      { picker := ⟨"client", "key"⟩, logging := { retentionDays := 3 },
        instances := [⟨"a", "b", some "c"⟩, ⟨"e", "d", none⟩] }
    schemaDocument? schema.render = some schema.canonical ∧
      check "lms-launch.schema.json" schema.render v.canonical = .ok () ∧
      ofJson? v.canonical = some c ∧
      Completes default? (v.canonical.without "$schema") c.toJson := by
  intro v c
  have accepted : check "lms-launch.schema.json" schema.render v.canonical = .ok () :=
    (check_eq_ok_iff schemaDocument?_render).mpr rfl
  have read : ofJson? v.canonical = some c := rfl
  exact ⟨schemaDocument?_render, accepted, read,
    completes_shipped schemaDocument?_render accepted read⟩

end Config

end LtiLaunch
