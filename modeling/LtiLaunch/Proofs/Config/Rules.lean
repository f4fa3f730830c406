import LtiLaunch.Config.Load
import LtiLaunch.Config.Shipped
import LtiLaunch.Proofs.Json.Reading
import LtiLaunch.Proofs.Schema

/-!
# The rules of the shipped schema

What the shipped schema asks of every section, and that a document is checked against just these
rules wherever the schema is read from.
-/

namespace LtiLaunch.Config

open Schema (recordOf)

def textRules : Schema := .object [.kinds [.string]]

def someTextRules : Schema := .object [.minLength 1, .kinds [.string]]

def optionalTextRules : Schema := .object [.kinds [.null, .string]]

def switchRules : Schema := .object [.kinds [.boolean]]

def serverRules : Schema :=
  recordOf [("bind_addr", someTextRules), ("public_base_url", someTextRules)] []

def daysRules : Schema := .object [.minimum (.int 1), .kinds [.integer]]

def rotationRules : Schema := .object [.oneOf [.str "daily", .str "hourly"], .kinds [.string]]

def loggingRules : Schema :=
  recordOf
    [("dir", someTextRules), ("filter", someTextRules), ("retention_days", daysRules),
      ("rotation", rotationRules), ("stderr_warn_enabled", switchRules)] []

def pickerRules : Schema :=
  recordOf [("client_id", someTextRules), ("developer_key", someTextRules)]
    ["client_id", "developer_key"]

def flagsRules : Schema := .object [.otherMembers [] switchRules, .kinds [.object]]

def instanceRules : Schema :=
  recordOf
    [("consumer_key", someTextRules), ("developer_key", optionalTextRules),
      ("lms_url", someTextRules)]
    ["consumer_key", "lms_url"]

def assignmentRules : Schema :=
  recordOf
    [("document_url", someTextRules), ("resource_link_id", someTextRules),
      ("tool_consumer_instance_guid", textRules)]
    ["tool_consumer_instance_guid", "resource_link_id", "document_url"]

def listRules (each : Schema) : Schema := .object [.elements each, .kinds [.array]]

def rules : Schema :=
  recordOf
    [("$schema", textRules), ("application_instances", listRules instanceRules),
      ("assignments", listRules assignmentRules), ("feature_flags", flagsRules),
      ("google_picker", pickerRules), ("logging", loggingRules), ("server", serverRules)]
    ["google_picker"]

theorem ofJson_schema : Schema.ofJson schema.canonical = .ok rules := rfl

variable {path text : String} {v : Json}

/-- Where the text of a schema says what the shipped one says, the rules decide. -/
theorem check_eq_ok_iff (shipped : schemaDocument? text = some schema.canonical) :
    check path text v = .ok () ↔ rules.allows v = true := by
  unfold check Schema.allows
  rw [shipped]
  dsimp only
  rw [ofJson_schema]
  dsimp only
  cases rules.violations v with
  | nil => exact iff_of_true rfl rfl
  | cons _ _ => exact iff_of_false nofun nofun

theorem schemaDocument?_render : schemaDocument? schema.render = some schema.canonical := by
  unfold schemaDocument?
  rw [Json.parse?_render schema rfl]
  rfl

end LtiLaunch.Config
