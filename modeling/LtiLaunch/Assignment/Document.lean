import LtiLaunch.Launch.Request

/-!
# Documents of assignments

What an assignment shows: a document on record, a document whose address the launch gives, a file in
Canvas or a VitalSource book.
-/

namespace LtiLaunch

/-- What the learning platform calls an assignment. -/
structure AssignmentKey where
  platformGuid : String
  resourceLinkId : String
  deriving DecidableEq, Repr

namespace AssignmentKey

instance : Ord AssignmentKey :=
  ⟨compareLex (compareOn platformGuid) (compareOn resourceLinkId)⟩

instance : Std.TransOrd AssignmentKey :=
  inferInstanceAs (Std.TransCmp (compareLex (compareOn platformGuid) (compareOn resourceLinkId)))

instance : Std.LawfulEqOrd AssignmentKey where
  eq_of_compare {a b} h := by
    have h : compareLex (compareOn platformGuid) (compareOn resourceLinkId) a b = .eq := h
    rw [compareLex_eq_eq] at h
    obtain ⟨guid, link⟩ := a
    obtain ⟨guid', link'⟩ := b
    have hg : guid = guid' := Std.LawfulEqCmp.eq_of_compare h.1
    have hl : link = link' := Std.LawfulEqCmp.eq_of_compare h.2
    rw [hg, hl]

/-- A request names an assignment only by giving both parts. -/
def ofRequest? (r : LaunchRequest) : Option AssignmentKey :=
  match r.value? "tool_consumer_instance_guid", r.value? "resource_link_id" with
  | some platformGuid, some resourceLinkId => some { platformGuid, resourceLinkId }
  | _, _ => none

end AssignmentKey

inductive DocumentSource
  | onRecord
  | url
  | canvasFile
  | vitalSourceBook
  deriving DecidableEq, Repr

namespace DocumentSource

/-- The name used in view names and in the log. -/
def name : DocumentSource → String
  | onRecord => "db"
  | url => "url"
  | canvasFile => "canvas_file"
  | vitalSourceBook => "vitalsource_book"

/-- The name used in JSON. -/
def tag : DocumentSource → String
  | onRecord => "db"
  | url => "url"
  | canvasFile => "canvas_file"
  | vitalSourceBook => "vital_source_book"

def all : List DocumentSource := [onRecord, url, canvasFile, vitalSourceBook]

def ofTag? (s : String) : Option DocumentSource := all.find? (·.tag == s)

end DocumentSource

inductive AssignedDocument
  | onRecord (documentUrl : String)
  | url (documentUrl : String)
  | canvasFile (fileId : String)
  | vitalSourceBook (bookId : String) (cfi : Option String)
  deriving DecidableEq, Repr

def AssignedDocument.source : AssignedDocument → DocumentSource
  | onRecord _ => .onRecord
  | url _ => .url
  | canvasFile _ => .canvasFile
  | vitalSourceBook _ _ => .vitalSourceBook

end LtiLaunch
