import LtiLaunch.Config.Wire
import LtiLaunch.Files.Basic
import LtiLaunch.Files.Path
import LtiLaunch.Json.Parser
import LtiLaunch.Json5.Parser
import LtiLaunch.Schema.Check
import LtiLaunch.Schema.Wire

/-!
# Loading the configuration

A configuration is read as JSON5, checked against its schema and only then decoded. The schema is
the one that the document names, or else the one beside it. Relative paths in the document are seen
from the directory that the document is in.
-/

namespace LtiLaunch.Config

inductive LoadError
  | unreadable (path : String)
  | malformed (path : String)
  | noSchema
  | schemaUnreadable (path : String)
  | schemaMalformed (path : String)
  | schemaInvalid (why : Schema.Violation)
  | violations (all : List Schema.Violation)
  | undecodable
  | badPicker (e : LaunchError)

def schemaFile : String := "lms-launch.schema.json"

def LoadError.message : LoadError → String
  | unreadable path => "failed to read " ++ path
  | malformed path => "failed to parse " ++ path
  | noSchema =>
    "unable to resolve schema path: expected $schema in config or " ++ schemaFile
  | schemaUnreadable path => "failed to read schema " ++ path
  | schemaMalformed path => "failed to parse schema " ++ path
  | schemaInvalid why => "failed to compile schema: " ++ why.message
  | violations all =>
    "config validation failed: " ++ Text.joinWith "; " (all.map Schema.Violation.message)
  | undecodable => "failed to deserialize launch config"
  | badPicker e => "invalid google_picker section: " ++ e.message

def document? (text : String) : Option Json := (Json5.parse? text).map Json.canonical

def schemaDocument? (text : String) : Option Json := Json.parse? text >>= Json.free? Json.maxDepth

/-- The path of the schema that the document itself names. -/
def namedSchema? (base : String) (v : Json) : Option String :=
  (v.member? "$schema" >>= Json.str?).map (Path.join base)

def rebase (base : String) (c : Config) : Config :=
  { c with logging := { c.logging with dir := Path.join base c.logging.dir } }

def decode (base : String) (v : Json) : Except LoadError Config :=
  match ofJson? v with
  | none => .error .undecodable
  | some c =>
    match (rebase base c).credentials with
    | .ok _ => .ok (rebase base c)
    | .error e => .error (.badPicker e)

def check (schemaPath schemaText : String) (v : Json) : Except LoadError Unit :=
  match schemaDocument? schemaText with
  | none => .error (.schemaMalformed schemaPath)
  | some s =>
    match Schema.ofJson s with
    | .error why => .error (.schemaInvalid why)
    | .ok s =>
      match s.violations v with
      | [] => .ok ()
      | all => .error (.violations all)

variable {m : Type → Type} [Monad m]

/-- The path of the schema for the document: the one it names, or else the one beside it. -/
def schemaPath (files : FileReader m) (base : String) (v : Json) : ExceptT LoadError m String := do
  match namedSchema? base v with
  | some path => return path
  | none =>
    let beside := Path.join base schemaFile
    if ← (files.isPresent beside : m Bool) then return beside else throw .noSchema

def load (files : FileReader m) (path : String) : ExceptT LoadError m Config := do
  let some text ← (files.read path : m (Option String)) | throw (.unreadable path)
  let some v := document? text | throw (.malformed path)
  let base := Path.directory path
  let schemaPath ← schemaPath files base v
  let some schemaText ← (files.read schemaPath : m (Option String)) |
    throw (.schemaUnreadable schemaPath)
  let _ ← ExceptT.mk (pure (check schemaPath schemaText v))
  ExceptT.mk (pure (decode base v))

end LtiLaunch.Config
