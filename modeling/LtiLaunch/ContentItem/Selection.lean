import LtiLaunch.ContentItem.Context
import LtiLaunch.Form

/-!
# Content items

The document a user picked, and the content item that the platform stores for it: a link back to the
launch address whose query the platform repeats at every later launch.
-/

namespace LtiLaunch

inductive PickedDocument
  | url (url : String)
  | lmsFile (fileId : String)
  | vitalSourceBook (bookId cfi : String)
  deriving DecidableEq, Repr

/-- The launch parameters that stand for the document, sorted by name. -/
def PickedDocument.params : PickedDocument → List (String × String)
  | url u => [("url", u)]
  | lmsFile f => [("canvas_file", "true"), ("file_id", f)]
  | vitalSourceBook b cfi => [("book_id", b), ("cfi", cfi), ("vitalsource_book", "true")]

structure LinkItem where
  type : String
  mediaType : String
  url : String
  deriving DecidableEq, Repr

structure ContentItem where
  context : String
  graph : List LinkItem
  deriving DecidableEq, Repr

namespace ContentItem

def contextUrl : String := "http://purl.imsglobal.org/ctx/lti/v1/ContentItem"

def linkMediaType : String := "application/vnd.ims.lti.v1.ltilink"

def ofSelection (launchUrl : String) (s : PickedDocument) : ContentItem where
  context := contextUrl
  graph :=
    [{ type := "LtiLinkItem"
       mediaType := linkMediaType
       url := launchUrl ++ "?" ++ Form.encode s.params }]

end ContentItem

structure SelectionForm where
  action : String
  fields : SortedMap String String
  deriving DecidableEq

end LtiLaunch
