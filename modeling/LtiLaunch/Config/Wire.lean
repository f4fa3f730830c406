import LtiLaunch.Config.Basic
import LtiLaunch.Json.Record

/-!
# The configuration in JSON

A section or setting that is left out has its default.
-/

namespace LtiLaunch

open Json (required withDefault)

namespace ServerConfig

def toJson (c : ServerConfig) : Json :=
  .obj [("bind_addr", .str c.bindAddr), ("public_base_url", .str c.publicBaseUrl)]

def ofJson? (v : Json) : Option ServerConfig :=
  let d : ServerConfig := {}
  match Json.fields? ["bind_addr", "public_base_url"] v with
  | some [bindAddr, publicBaseUrl] => do
    some
      { bindAddr := ← withDefault d.bindAddr Json.str? bindAddr
        publicBaseUrl := ← withDefault d.publicBaseUrl Json.str? publicBaseUrl }
  | _ => none

end ServerConfig

def Rotation.ofName? (s : String) : Option Rotation :=
  [Rotation.daily, Rotation.hourly].find? (·.name == s)

namespace LoggingConfig

def toJson (c : LoggingConfig) : Json :=
  .obj
    [("dir", .str c.dir), ("filter", .str c.filter), ("rotation", .str c.rotation.name),
      ("retention_days", .nat c.retentionDays),
      ("stderr_warn_enabled", .bool c.stderrWarnEnabled)]

def ofJson? (v : Json) : Option LoggingConfig :=
  let d : LoggingConfig := {}
  match Json.fields? ["dir", "filter", "rotation", "retention_days", "stderr_warn_enabled"] v with
  | some [dir, filter, rotation, retentionDays, stderrWarnEnabled] => do
    some
      { dir := ← withDefault d.dir Json.str? dir
        filter := ← withDefault d.filter Json.str? filter
        rotation := ← withDefault d.rotation (Json.nameOf? Rotation.ofName?) rotation
        retentionDays := ← withDefault d.retentionDays Json.word? retentionDays
        stderrWarnEnabled := ← withDefault d.stderrWarnEnabled Json.bool? stderrWarnEnabled }
  | _ => none

end LoggingConfig

namespace PickerConfig

def toJson (c : PickerConfig) : Json :=
  .obj [("client_id", .str c.clientId), ("developer_key", .str c.developerKey)]

def ofJson? (v : Json) : Option PickerConfig :=
  match Json.fields? ["client_id", "developer_key"] v with
  | some [clientId, developerKey] => do
    some
      { clientId := ← required Json.str? clientId
        developerKey := ← required Json.str? developerKey }
  | _ => none

end PickerConfig

namespace ApplicationInstance

def toJson (i : ApplicationInstance) : Json :=
  .obj
    [("consumer_key", .str i.consumerKey), ("lms_url", .str i.lmsUrl),
      ("developer_key", Json.ofOption .str i.developerKey)]

def ofJson? (v : Json) : Option ApplicationInstance :=
  match Json.fields? ["consumer_key", "lms_url", "developer_key"] v with
  | some [consumerKey, lmsUrl, developerKey] => do
    some
      { consumerKey := ← required Json.str? consumerKey
        lmsUrl := ← required Json.str? lmsUrl
        developerKey := ← withDefault none (Json.nullable? Json.str?) developerKey }
  | _ => none

end ApplicationInstance

namespace AssignmentSeed

def toJson (s : AssignmentSeed) : Json :=
  .obj
    [("tool_consumer_instance_guid", .str s.platformGuid),
      ("resource_link_id", .str s.resourceLinkId), ("document_url", .str s.documentUrl)]

def ofJson? (v : Json) : Option AssignmentSeed :=
  match Json.fields? ["tool_consumer_instance_guid", "resource_link_id", "document_url"] v with
  | some [platformGuid, resourceLinkId, documentUrl] => do
    some
      { platformGuid := ← required Json.str? platformGuid
        resourceLinkId := ← required Json.str? resourceLinkId
        documentUrl := ← required Json.str? documentUrl }
  | _ => none

end AssignmentSeed

namespace Config

def toJson (c : Config) : Json :=
  .obj
    [("server", c.server.toJson), ("logging", c.logging.toJson),
      ("google_picker", c.picker.toJson), ("feature_flags", Json.ofMap .bool c.featureFlags),
      ("application_instances", .arr (c.instances.map ApplicationInstance.toJson)),
      ("assignments", .arr (c.assignments.map AssignmentSeed.toJson))]

def sectionNames : List String :=
  ["server", "logging", "google_picker", "feature_flags", "application_instances", "assignments"]

def ofJson? (v : Json) : Option Config :=
  match Json.fields? sectionNames v with
  | some [server, logging, picker, featureFlags, instances, assignments] => do
    some
      { server := ← withDefault {} ServerConfig.ofJson? server
        logging := ← withDefault {} LoggingConfig.ofJson? logging
        picker := ← required PickerConfig.ofJson? picker
        featureFlags := ← withDefault .empty (Json.mapOf? Json.bool?) featureFlags
        instances := ← withDefault [] (Json.listOf? ApplicationInstance.ofJson?) instances
        assignments := ← withDefault [] (Json.listOf? AssignmentSeed.ofJson?) assignments }
  | _ => none

end Config

end LtiLaunch
