import LtiLaunch.Assignment.Document
import LtiLaunch.Json.Record

/-!
# Assignments in JSON
-/

namespace LtiLaunch

def AssignmentKey.toJson (a : AssignmentKey) : Json :=
  .obj
    [("tool_consumer_instance_guid", .str a.platformGuid),
      ("resource_link_id", .str a.resourceLinkId)]

def AssignmentKey.ofJson? (v : Json) : Option AssignmentKey :=
  match Json.fields? ["tool_consumer_instance_guid", "resource_link_id"] v with
  | some [guid, link] => do
    some
      { platformGuid := ← Json.required Json.str? guid
        resourceLinkId := ← Json.required Json.str? link }
  | _ => none

def DocumentSource.ofJson? : Json → Option DocumentSource :=
  Json.nameOf? DocumentSource.ofTag?

namespace AssignedDocument

def members : AssignedDocument → List (String × Json)
  | onRecord u | url u => [("document_url", .str u)]
  | canvasFile f => [("file_id", .str f)]
  | vitalSourceBook b cfi => ("book_id", .str b) :: Json.optionalMember "cfi" .str cfi

def toJson (c : AssignedDocument) : Json :=
  .obj (("configuration", .str c.source.tag) :: c.members)

def ofFields? (source : DocumentSource) (v : Json) : Option AssignedDocument :=
  match source with
  | .onRecord =>
    match Json.fields? ["document_url"] v with
    | some [u] => (Json.required Json.str? u).map onRecord
    | _ => none
  | .url =>
    match Json.fields? ["document_url"] v with
    | some [u] => (Json.required Json.str? u).map url
    | _ => none
  | .canvasFile =>
    match Json.fields? ["file_id"] v with
    | some [f] => (Json.required Json.str? f).map canvasFile
    | _ => none
  | .vitalSourceBook =>
    match Json.fields? ["book_id", "cfi"] v with
    | some [b, cfi] => do
      some (vitalSourceBook (← Json.required Json.str? b)
        (← Json.withDefault none (Json.nullable? Json.str?) cfi))
    | _ => none

def ofJson? (v : Json) : Option AssignedDocument := do
  let (tag, rest) ← Json.tagged? "configuration" v
  ofFields? (← DocumentSource.ofTag? tag) rest

end AssignedDocument

end LtiLaunch
