import LtiLaunch.Proofs.Config.Gate

/-!
# Loading under the shipped schema

A document is loaded if the schema lets it through and the picker is named, unless its number of days
is written with a point or an exponent. Nothing is supposed of the text of the schema but that it
says what the shipped one says.
-/

namespace LtiLaunch.Config

open Json (EachNumber)
open Number (FitsWord)

variable {v : Json}

def clientIdPath : List Json.Step := [.member "google_picker", .member "client_id"]

def developerKeyPath : List Json.Step := [.member "google_picker", .member "developer_key"]

/-- A document that is read gives both parts of the picker. -/
theorem at?_picker {c : Config} (canonical : v.Canonical) (allowed : rules.allows v = true)
    (read : ofJson? v = some c) :
    v.at? clientIdPath = some (.str c.picker.clientId) ∧
      v.at? developerKeyPath = some (.str c.picker.developerKey) := by
  have record := Schema.isRecord_of_allows allowed
  obtain ⟨ms, rfl⟩ := record.isObject
  obtain ⟨-, -, isPicker, -, -, -⟩ := (ofJson?_eq_some_iff canonical).mp read
  obtain ⟨x, given, isPicker⟩ := Json.required_eq_some_iff.mp isPicker
  have picker := Schema.isRecord_of_allows (record.allows given rfl)
  obtain ⟨ns, rfl⟩ := picker.isObject
  obtain ⟨isId, isKey⟩ := (PickerConfig.ofJson?_eq_some_iff (canonical.member? given)).mp isPicker
  have inside {name s : String}
      (is : Json.required Json.str? ((Json.obj ns).member? name) = some s) :
      (Json.obj ms).at? [.member "google_picker", .member name] = some (.str s) := by
    obtain ⟨y, found, text⟩ := Json.required_eq_some_iff.mp is
    have step : (Json.Step.member "google_picker").next? (.obj ms) = some (.obj ns) := given
    rw [Json.at?_cons step, Json.at?_singleton, ← Json.eq_of_str? text]
    exact found
  exact ⟨inside isId, inside isKey⟩

theorem decode_eq {c : Config} (base : String) (read : ofJson? v = some c) :
    decode base v =
      match c.credentials with
      | .ok _ => .ok (rebase base c)
      | .error e => .error (.badPicker e) := by
  rw [decode, read]
  rfl

theorem credentials_eq_ok {c : Config} (named : Text.isBlank c.picker.clientId = false)
    (keyed : Text.isBlank c.picker.developerKey = false) :
    c.credentials = .ok ⟨c.picker.clientId, c.picker.developerKey⟩ := by
  simp [credentials, PickerCredentials.check, named, keyed]

theorem credentials_eq_error {c : Config}
    (blank : Text.isBlank c.picker.clientId = true ∨ Text.isBlank c.picker.developerKey = true) :
    ∃ e, c.credentials = .error e := by
  unfold credentials PickerCredentials.check
  split
  · exact ⟨_, rfl⟩
  · next named =>
    rw [if_pos (blank.resolve_left named)]
    exact ⟨_, rfl⟩

variable {m : Type → Type} [Monad m] {files : FileReader m} {path : String}

/-- The file at the path holds the document. The schema found for it says what the shipped one says,
and it accepts the document. -/
structure Accepted (files : FileReader m) (path : String) (v : Json) : Prop where
  document : ∃ text, files.read path = pure (some text) ∧ document? text = some v
  schema : ∃ schemaPath text, Config.schemaPath files (Path.directory path) v = pure schemaPath ∧
    files.read schemaPath = pure (some text) ∧ schemaDocument? text = some schema.canonical ∧
    check schemaPath text v = .ok ()

/-- Whether an accepted document is loaded is only a question of decoding it. -/
theorem load_eq [LawfulMonad m] (accepted : Accepted files path v) :
    load files path = ExceptT.mk (pure (decode (Path.directory path) v)) := by
  obtain ⟨text, document, parsed⟩ := accepted.document
  obtain ⟨schemaPath, schemaText, resolved, found, -, passed⟩ := accepted.schema
  unfold load
  simp only [document, liftM_pure, pure_bind, parsed, resolved, found, passed]
  change (pure () >>= fun _ => _) = _
  exact pure_bind _ _

theorem Accepted.rules (accepted : Accepted files path v) : rules.allows v = true := by
  obtain ⟨schemaPath, text, -, -, shipped, passed⟩ := accepted.schema
  exact (check_eq_ok_iff shipped).mp passed

theorem Accepted.canonical (accepted : Accepted files path v) : v.Canonical := by
  obtain ⟨text, -, parsed⟩ := accepted.document
  obtain ⟨u, -, rfl⟩ := Option.map_eq_some_iff.mp parsed
  exact ⟨u, rfl⟩

theorem Accepted.fitsWord (accepted : Accepted files path v) : EachNumber FitsWord v := by
  obtain ⟨text, -, parsed⟩ := accepted.document
  obtain ⟨u, read, rfl⟩ := Option.map_eq_some_iff.mp parsed
  exact (Json5.eachNumber_parse? read).canonical

/-- Days with a point or an exponent pass the schema and cannot be read. -/
theorem load_of_double [LawfulMonad m] (accepted : Accepted files path v) {y : Binary64}
    (days : v.at? daysPath = some (.num (.double y))) :
    load files path = throw .undecodable := by
  rw [load_eq accepted, decode, ofJson?_of_double accepted.canonical days]
  rfl

/-- A document that its schema accepts is loaded, unless its days are written with a point or an
exponent, or a part of its picker is blank. -/
theorem load_of_accepted [LawfulMonad m] (accepted : Accepted files path v)
    (whole : ∀ y, v.at? daysPath ≠ some (.num (.double y))) :
    ∃ c, ofJson? v = some c ∧
      v.at? clientIdPath = some (.str c.picker.clientId) ∧
      v.at? developerKeyPath = some (.str c.picker.developerKey) ∧
      (Text.isBlank c.picker.clientId = false → Text.isBlank c.picker.developerKey = false →
        load files path = pure (rebase (Path.directory path) c)) ∧
      (Text.isBlank c.picker.clientId = true ∨ Text.isBlank c.picker.developerKey = true →
        ∃ e, load files path = throw (.badPicker e)) := by
  obtain ⟨c, read⟩ := exists_of_rules accepted.canonical accepted.rules accepted.fitsWord whole
  obtain ⟨clientId, developerKey⟩ := at?_picker accepted.canonical accepted.rules read
  refine ⟨c, read, clientId, developerKey, ?_, ?_⟩
  · intro named keyed
    rw [load_eq accepted, decode_eq _ read, credentials_eq_ok named keyed]
    rfl
  · intro blank
    obtain ⟨e, refused⟩ := credentials_eq_error blank
    refine ⟨e, ?_⟩
    rw [load_eq accepted, decode_eq _ read, refused]
    rfl

/-- A directory with a document and, beside it, the shipped schema. -/
def besideSchema (text : String) : FileReader Id where
  read path :=
    if path = "lms-launch.jsonc" then some text
    else if path = schemaFile then some schema.render
    else none
  isPresent path := path == schemaFile

def daysText (days : String) : String :=
  "\x7bgoogle_picker: \x7bclient_id: 'c', developer_key: 'k'\x7d, logging: \x7bretention_days: " ++
    days ++ "\x7d\x7d"

def daysTokens (days : Number) : List Json.Token :=
  [.leftBrace, .str "google_picker", .colon, .leftBrace, .str "client_id", .colon, .str "c", .comma,
    .str "developer_key", .colon, .str "k", .rightBrace, .comma, .str "logging", .colon, .leftBrace,
    .str "retention_days", .colon, .num days, .rightBrace, .rightBrace]

def daysDocument (days : Number) : Json :=
  .obj
    [("google_picker", .obj [("client_id", .str "c"), ("developer_key", .str "k")]),
      ("logging", .obj [("retention_days", .num days)])]

theorem accepted_besideSchema {text : String} {days : Number}
    (lexed : Json5.lex? text.toList = some (daysTokens days))
    (allowed : Config.rules.allows (daysDocument days) = true) :
    Accepted (besideSchema text) "lms-launch.jsonc" (daysDocument days) := by
  have parsed : document? text = some (daysDocument days) := by
    unfold document? Json5.parse?
    rw [lexed]
    rfl
  have beside : Path.join (Path.directory "lms-launch.jsonc") schemaFile = schemaFile := by
    decide +kernel
  have resolved : Config.schemaPath (besideSchema text) (Path.directory "lms-launch.jsonc")
      (daysDocument days) = pure schemaFile := by
    have unnamed (base : String) : namedSchema? base (daysDocument days) = none := rfl
    unfold Config.schemaPath
    rw [unnamed, beside]
    rfl
  refine ⟨⟨text, rfl, parsed⟩, schemaFile, schema.render, resolved, rfl, schemaDocument?_render, ?_⟩
  exact (check_eq_ok_iff schemaDocument?_render).mpr allowed

theorem load_of_accepted_wholeDays :
    Accepted (besideSchema (daysText "14")) "lms-launch.jsonc" (daysDocument (.int 14)) ∧
      (∀ y, (daysDocument (.int 14)).at? daysPath ≠ some (.num (.double y))) ∧
      ∃ c, load (besideSchema (daysText "14")) "lms-launch.jsonc" = pure c := by
  have lexed : Json5.lex? (daysText "14").toList = some (daysTokens (.int 14)) := by
    decide +kernel
  have accepted := accepted_besideSchema lexed rfl
  have whole (y : Binary64) : (daysDocument (.int 14)).at? daysPath ≠ some (.num (.double y)) :=
    nofun
  obtain ⟨c, read, -, -, filled, -⟩ := load_of_accepted accepted whole
  cases read
  exact ⟨accepted, whole, _, filled (by decide) (by decide)⟩

/-- The schema takes fourteen days with a point for a whole number. -/
theorem load_pointedDays :
    let v := daysDocument (.double ⟨false, 7881299347898368, -49⟩)
    Accepted (besideSchema (daysText "14.0")) "lms-launch.jsonc" v ∧
      v.at? clientIdPath = some (.str "c") ∧ Text.isBlank "c" = false ∧
      v.at? developerKeyPath = some (.str "k") ∧ Text.isBlank "k" = false ∧
      load (besideSchema (daysText "14.0")) "lms-launch.jsonc" = throw .undecodable ∧
      ¬ ∃ c, load (besideSchema (daysText "14.0")) "lms-launch.jsonc" = pure c := by
  intro v
  have lexed : Json5.lex? (daysText "14.0").toList =
      some (daysTokens (.double ⟨false, 7881299347898368, -49⟩)) := by decide +kernel
  have accepted : Accepted (besideSchema (daysText "14.0")) "lms-launch.jsonc" v :=
    accepted_besideSchema lexed rfl
  have failed := load_of_double accepted rfl
  refine ⟨accepted, rfl, by decide, rfl, by decide, failed, ?_⟩
  rintro ⟨c, loaded⟩
  cases failed.symm.trans loaded

end LtiLaunch.Config
