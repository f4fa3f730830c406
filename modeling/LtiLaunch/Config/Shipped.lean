import LtiLaunch.Json.Basic

/-!
# The shipped schema and sample

The schema that a configuration is meant to satisfy, and a configuration to start from.
-/

namespace LtiLaunch.Config

def someText : Json := .obj [("type", .str "string"), ("minLength", .nat 1)]

def anyText : Json := .obj [("type", .str "string")]

/-- A schema for objects with the given members and no others. -/
def record (required : List String) (members : List (String × Json)) : Json :=
  let names := if required = [] then [] else [("required", Json.arr (required.map .str))]
  .obj
    ([("type", .str "object"), ("additionalProperties", .bool false)] ++ names ++
      [("properties", .obj members)])

def listOf (each : Json) : Json := .obj [("type", .str "array"), ("items", each)]

def serverSchema : Json := record [] [("bind_addr", someText), ("public_base_url", someText)]

def loggingSchema : Json :=
  record []
    [("dir", someText), ("filter", someText),
      ("rotation", .obj [("type", .str "string"), ("enum", .arr [.str "daily", .str "hourly"])]),
      ("retention_days", .obj [("type", .str "integer"), ("minimum", .nat 1)]),
      ("stderr_warn_enabled", .obj [("type", .str "boolean")])]

def pickerSchema : Json :=
  record ["client_id", "developer_key"] [("client_id", someText), ("developer_key", someText)]

def flagsSchema : Json :=
  .obj [("type", .str "object"), ("additionalProperties", .obj [("type", .str "boolean")])]

def instanceSchema : Json :=
  record ["consumer_key", "lms_url"]
    [("consumer_key", someText), ("lms_url", someText),
      ("developer_key", .obj [("type", .arr [.str "string", .str "null"])])]

def assignmentSchema : Json :=
  record ["tool_consumer_instance_guid", "resource_link_id", "document_url"]
    [("tool_consumer_instance_guid", anyText), ("resource_link_id", someText),
      ("document_url", someText)]

def sections : List (String × Json) :=
  [("$schema", anyText), ("server", serverSchema), ("logging", loggingSchema),
    ("google_picker", pickerSchema), ("feature_flags", flagsSchema),
    ("application_instances", listOf instanceSchema), ("assignments", listOf assignmentSchema)]

def schema : Json :=
  .obj
    [("$schema", .str "http://json-schema.org/draft-07/schema#"),
      ("title", .str "lms-launch config"), ("type", .str "object"),
      ("additionalProperties", .bool false), ("required", .arr [.str "google_picker"]),
      ("properties", .obj sections)]

def sample : Json :=
  .obj
    [("$schema", .str "./lms-launch.schema.json"),
      ("server",
        .obj
          [("bind_addr", .str "127.0.0.1:8001"),
            ("public_base_url", .str "http://localhost:8001")]),
      ("logging",
        .obj
          [("dir", .str "./logs/lms-launch"), ("filter", .str "info,dispatch=debug"),
            ("rotation", .str "daily"), ("retention_days", .nat 14)]),
      ("google_picker",
        .obj
          [("client_id", .str "replace-me.apps.googleusercontent.com"),
            ("developer_key", .str "replace-me")]),
      ("feature_flags", .obj [("new_oauth", .bool true)]),
      ("application_instances",
        .arr
          [.obj
              [("consumer_key", .str "Hypothesis0001"),
                ("lms_url", .str "https://canvas.example.edu"),
                ("developer_key", .str "canvas-developer-key")],
            .obj
              [("consumer_key", .str "Hypothesis0002"),
                ("lms_url", .str "https://moodle.example.edu")]]),
      ("assignments",
        .arr
          [.obj
              [("tool_consumer_instance_guid", .str "canvas.example.edu"),
                ("resource_link_id", .str "week-1-reading"),
                ("document_url", .str "https://example.com/week-1.pdf")]])]

end LtiLaunch.Config
