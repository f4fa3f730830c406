import LtiLaunch.ContentItem.Selection
import LtiLaunch.Json.Record
import LtiLaunch.Json.Token

/-!
# Content items in JSON

The form holds its content item as JSON text within JSON.
-/

namespace LtiLaunch

namespace PickedDocument

def toJson : PickedDocument → Json
  | url u => .obj [("type", .str "url"), ("url", .str u)]
  | lmsFile f => .obj [("type", .str "lms_file"), ("file_id", .str f)]
  | vitalSourceBook b cfi =>
    .obj [("type", .str "vital_source_book"), ("book_id", .str b), ("cfi", .str cfi)]

def ofFields? (tag : String) (v : Json) : Option PickedDocument :=
  if tag = "url" then
    match Json.fields? ["url"] v with
    | some [u] => (Json.required Json.str? u).map url
    | _ => none
  else if tag = "lms_file" then
    match Json.fields? ["file_id"] v with
    | some [f] => (Json.required Json.str? f).map lmsFile
    | _ => none
  else if tag = "vital_source_book" then
    match Json.fields? ["book_id", "cfi"] v with
    | some [b, cfi] => do
      some (vitalSourceBook (← Json.required Json.str? b) (← Json.required Json.str? cfi))
    | _ => none
  else none

def ofJson? (v : Json) : Option PickedDocument := do
  let (tag, rest) ← Json.tagged? "type" v
  ofFields? tag rest

end PickedDocument

namespace LinkItem

def toJson (i : LinkItem) : Json :=
  .obj [("@type", .str i.type), ("mediaType", .str i.mediaType), ("url", .str i.url)]

def ofJson? (v : Json) : Option LinkItem :=
  match Json.fields? ["@type", "mediaType", "url"] v with
  | some [type, mediaType, url] => do
    some
      { type := ← Json.required Json.str? type
        mediaType := ← Json.required Json.str? mediaType
        url := ← Json.required Json.str? url }
  | _ => none

end LinkItem

namespace ContentItem

def toJson (i : ContentItem) : Json :=
  .obj [("@context", .str i.context), ("@graph", .arr (i.graph.map LinkItem.toJson))]

def ofJson? (v : Json) : Option ContentItem :=
  match Json.fields? ["@context", "@graph"] v with
  | some [context, graph] => do
    some
      { context := ← Json.required Json.str? context
        graph := ← Json.required (Json.listOf? LinkItem.ofJson?) graph }
  | _ => none

end ContentItem

namespace SelectionForm

/-- The form that sends the item back for the selection that the context was made for. -/
def ofItem (context : SelectionContext) (item : ContentItem) : SelectionForm where
  action := context.returnUrl
  fields := .ofList
    [("lti_message_type", context.formFields.messageType),
      ("lti_version", context.formFields.ltiVersion),
      ("content_items", item.toJson.render)]

def toJson (f : SelectionForm) : Json :=
  .obj [("action", .str f.action), ("fields", Json.ofMap .str f.fields)]

def ofJson? (v : Json) : Option SelectionForm :=
  match Json.fields? ["action", "fields"] v with
  | some [action, fields] => do
    some
      { action := ← Json.required Json.str? action
        fields := ← Json.required (Json.mapOf? Json.str?) fields }
  | _ => none

end SelectionForm

namespace PickerCredentials

def toJson (c : PickerCredentials) : Json :=
  .obj [("google_client_id", .str c.clientId), ("google_developer_key", .str c.developerKey)]

def ofJson? (v : Json) : Option PickerCredentials :=
  match Json.fields? ["google_client_id", "google_developer_key"] v with
  | some [clientId, developerKey] => do
    some
      { clientId := ← Json.required Json.str? clientId
        developerKey := ← Json.required Json.str? developerKey }
  | _ => none

end PickerCredentials

namespace SelectionFormFields

def toJson (f : SelectionFormFields) : Json :=
  .obj [("lti_message_type", .str f.messageType), ("lti_version", .str f.ltiVersion)]

def ofJson? (v : Json) : Option SelectionFormFields :=
  match Json.fields? ["lti_message_type", "lti_version"] v with
  | some [messageType, ltiVersion] => do
    some
      { messageType := ← Json.required Json.str? messageType
        ltiVersion := ← Json.required Json.str? ltiVersion }
  | _ => none

end SelectionFormFields

namespace SelectionContext

def toJson (c : SelectionContext) : Json :=
  .obj
    ([("content_item_return_url", .str c.returnUrl), ("lti_launch_url", .str c.launchUrl),
      ("form_fields", c.formFields.toJson), ("google_client_id", .str c.clientId),
      ("google_developer_key", .str c.developerKey), ("lms_url", .str c.lmsUrl)] ++
      Json.optionalMember "course_id" .str c.courseId)

def fieldNames : List String :=
  ["content_item_return_url", "lti_launch_url", "form_fields", "google_client_id",
    "google_developer_key", "lms_url", "course_id"]

def ofJson? (v : Json) : Option SelectionContext :=
  match Json.fields? fieldNames v with
  | some [returnUrl, launchUrl, formFields, clientId, developerKey, lmsUrl, courseId] => do
    some
      { returnUrl := ← Json.required Json.str? returnUrl
        launchUrl := ← Json.required Json.str? launchUrl
        formFields := ← Json.required SelectionFormFields.ofJson? formFields
        clientId := ← Json.required Json.str? clientId
        developerKey := ← Json.required Json.str? developerKey
        lmsUrl := ← Json.required Json.str? lmsUrl
        courseId := ← Json.withDefault none (Json.nullable? Json.str?) courseId }
  | _ => none

end SelectionContext

def SelectionState.ofJson? : Json → Option SelectionState := Json.nameOf? SelectionState.ofName?

end LtiLaunch
