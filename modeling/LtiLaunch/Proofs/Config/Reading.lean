import LtiLaunch.Config.Wire
import LtiLaunch.Proofs.Json.Canonical

/-!
# Reading canonical records

A section of a canonical document is read if and only if each of its settings is, from the member of
its name.
-/

namespace LtiLaunch

open Json (required withDefault)

/-! ### Scalars -/

namespace Json

variable {v : Json}

theorem required_eq_some_iff {α : Type} {read : Json → Option α} {given : Option Json} {a : α} :
    required read given = some a ↔ ∃ v, given = some v ∧ read v = some a := by
  cases given <;> simp [required]

theorem eq_of_str? {s : String} (read : v.str? = some s) : v = .str s := by
  cases v with
  | str s' => exact congrArg str (Option.some.inj read)
  | _ => cases read

theorem eq_of_bool? {b : Bool} (read : v.bool? = some b) : v = .bool b := by
  cases v with
  | bool b' => exact congrArg bool (Option.some.inj read)
  | _ => cases read

theorem eq_of_word? {n : Nat} (read : v.word? = some n) : v = .nat n := by
  unfold word? at read
  split at read
  · next i =>
    split at read
    · next bounds =>
      cases read
      unfold nat
      rw [Int.toNat_of_nonneg bounds.1]
    · cases read
  · cases read

theorem eq_of_nullable? {s : Option String} (read : nullable? str? v = some s) :
    v = ofOption .str s := by
  cases v with
  | null | str =>
    cases read
    rfl
  | _ => cases read

end Json

theorem Rotation.eq_of_ofName? {s : String} {r : Rotation} (found : ofName? s = some r) :
    s = r.name := by
  have same := List.find?_some found
  exact (beq_iff_eq.mp same).symm

/-! ### Sections -/

variable {ms : List (String × Json)}

theorem ServerConfig.ofJson?_eq_some_iff {c : ServerConfig} (canonical : (Json.obj ms).Canonical) :
    ofJson? (.obj ms) = some c ↔
      let d : ServerConfig := {}
      withDefault d.bindAddr Json.str? ((Json.obj ms).member? "bind_addr") = some c.bindAddr ∧
        withDefault d.publicBaseUrl Json.str? ((Json.obj ms).member? "public_base_url") =
          some c.publicBaseUrl := by
  unfold ofJson?
  rw [Json.fields?_of_canonical canonical]
  simp only [List.map_cons, List.map_nil, bind, Option.bind_eq_some_iff]
  constructor
  · rintro ⟨_, isAddr, _, isUrl, same⟩
    cases same
    exact ⟨isAddr, isUrl⟩
  · rintro ⟨isAddr, isUrl⟩
    exact ⟨_, isAddr, _, isUrl, rfl⟩

theorem LoggingConfig.ofJson?_eq_some_iff {c : LoggingConfig}
    (canonical : (Json.obj ms).Canonical) :
    ofJson? (.obj ms) = some c ↔
      let d : LoggingConfig := {}
      withDefault d.dir Json.str? ((Json.obj ms).member? "dir") = some c.dir ∧
        withDefault d.filter Json.str? ((Json.obj ms).member? "filter") = some c.filter ∧
        withDefault d.rotation (Json.nameOf? Rotation.ofName?) ((Json.obj ms).member? "rotation") =
          some c.rotation ∧
        withDefault d.retentionDays Json.word? ((Json.obj ms).member? "retention_days") =
          some c.retentionDays ∧
        withDefault d.stderrWarnEnabled Json.bool? ((Json.obj ms).member? "stderr_warn_enabled") =
          some c.stderrWarnEnabled := by
  unfold ofJson?
  rw [Json.fields?_of_canonical canonical]
  simp only [List.map_cons, List.map_nil, bind, Option.bind_eq_some_iff]
  constructor
  · rintro ⟨_, isDir, _, isFilter, _, isRotation, _, isDays, _, isSwitch, same⟩
    cases same
    exact ⟨isDir, isFilter, isRotation, isDays, isSwitch⟩
  · rintro ⟨isDir, isFilter, isRotation, isDays, isSwitch⟩
    exact ⟨_, isDir, _, isFilter, _, isRotation, _, isDays, _, isSwitch, rfl⟩

theorem PickerConfig.ofJson?_eq_some_iff {c : PickerConfig} (canonical : (Json.obj ms).Canonical) :
    ofJson? (.obj ms) = some c ↔
      required Json.str? ((Json.obj ms).member? "client_id") = some c.clientId ∧
        required Json.str? ((Json.obj ms).member? "developer_key") = some c.developerKey := by
  unfold ofJson?
  rw [Json.fields?_of_canonical canonical]
  simp only [List.map_cons, List.map_nil, bind, Option.bind_eq_some_iff]
  constructor
  · rintro ⟨_, isId, _, isKey, same⟩
    cases same
    exact ⟨isId, isKey⟩
  · rintro ⟨isId, isKey⟩
    exact ⟨_, isId, _, isKey, rfl⟩

theorem ApplicationInstance.ofJson?_eq_some_iff {i : ApplicationInstance}
    (canonical : (Json.obj ms).Canonical) :
    ofJson? (.obj ms) = some i ↔
      required Json.str? ((Json.obj ms).member? "consumer_key") = some i.consumerKey ∧
        required Json.str? ((Json.obj ms).member? "lms_url") = some i.lmsUrl ∧
        withDefault none (Json.nullable? Json.str?) ((Json.obj ms).member? "developer_key") =
          some i.developerKey := by
  unfold ofJson?
  rw [Json.fields?_of_canonical canonical]
  simp only [List.map_cons, List.map_nil, bind, Option.bind_eq_some_iff]
  constructor
  · rintro ⟨_, isConsumerKey, _, isUrl, _, isDeveloperKey, same⟩
    cases same
    exact ⟨isConsumerKey, isUrl, isDeveloperKey⟩
  · rintro ⟨isConsumerKey, isUrl, isDeveloperKey⟩
    exact ⟨_, isConsumerKey, _, isUrl, _, isDeveloperKey, rfl⟩

theorem AssignmentSeed.ofJson?_eq_some_iff {s : AssignmentSeed}
    (canonical : (Json.obj ms).Canonical) :
    ofJson? (.obj ms) = some s ↔
      required Json.str? ((Json.obj ms).member? "tool_consumer_instance_guid") =
          some s.platformGuid ∧
        required Json.str? ((Json.obj ms).member? "resource_link_id") = some s.resourceLinkId ∧
        required Json.str? ((Json.obj ms).member? "document_url") = some s.documentUrl := by
  unfold ofJson?
  rw [Json.fields?_of_canonical canonical]
  simp only [List.map_cons, List.map_nil, bind, Option.bind_eq_some_iff]
  constructor
  · rintro ⟨_, isGuid, _, isId, _, isUrl, same⟩
    cases same
    exact ⟨isGuid, isId, isUrl⟩
  · rintro ⟨isGuid, isId, isUrl⟩
    exact ⟨_, isGuid, _, isId, _, isUrl, rfl⟩

theorem Config.ofJson?_eq_some_iff {c : Config} (canonical : (Json.obj ms).Canonical) :
    ofJson? (.obj ms) = some c ↔
      withDefault {} ServerConfig.ofJson? ((Json.obj ms).member? "server") = some c.server ∧
        withDefault {} LoggingConfig.ofJson? ((Json.obj ms).member? "logging") = some c.logging ∧
        required PickerConfig.ofJson? ((Json.obj ms).member? "google_picker") = some c.picker ∧
        withDefault .empty (Json.mapOf? Json.bool?) ((Json.obj ms).member? "feature_flags") =
          some c.featureFlags ∧
        withDefault [] (Json.listOf? ApplicationInstance.ofJson?)
          ((Json.obj ms).member? "application_instances") = some c.instances ∧
        withDefault [] (Json.listOf? AssignmentSeed.ofJson?)
          ((Json.obj ms).member? "assignments") = some c.assignments := by
  unfold ofJson?
  rw [Json.fields?_of_canonical canonical]
  simp only [sectionNames, List.map_cons, List.map_nil, bind, Option.bind_eq_some_iff]
  constructor
  · rintro ⟨_, isServer, _, isLogging, _, isPicker, _, areFlags, _, areInstances, _,
      areAssignments, same⟩
    cases same
    exact ⟨isServer, isLogging, isPicker, areFlags, areInstances, areAssignments⟩
  · rintro ⟨isServer, isLogging, isPicker, areFlags, areInstances, areAssignments⟩
    exact ⟨_, isServer, _, isLogging, _, isPicker, _, areFlags, _, areInstances, _,
      areAssignments, rfl⟩

end LtiLaunch
