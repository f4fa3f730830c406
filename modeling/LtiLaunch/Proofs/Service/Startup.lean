import LtiLaunch.Proofs.Config.Rules
import LtiLaunch.Proofs.Service.InstanceDirectory
import LtiLaunch.Proofs.Service.Wiring

/-!
# Starting the service

A service starts from a configuration that could be loaded if every instance has a consumer key, and
no two have the same. Otherwise the first instance of the list that breaks this is to blame.
-/

namespace LtiLaunch

/-! ### Loaded configurations -/

namespace Config

variable {ε ω α β : Type}

theorem exists_of_run_bind {x : ExceptT ε (StateM ω) α} {f : α → ExceptT ε (StateM ω) β} {w w' : ω}
    {y : β} (run : (x >>= f).run.run w = (.ok y, w')) :
    ∃ a w₁, x.run.run w = (.ok a, w₁) ∧ (f a).run.run w₁ = (.ok y, w') := by
  rw [ExceptT.run_bind, StateT.run_bind] at run
  rcases first : x.run.run w with ⟨_ | a, w₁⟩
  · rw [first] at run
    cases run
  · rw [first] at run
    exact ⟨a, w₁, rfl, run⟩

variable {files : FileReader (StateM ω)} {path : String} {w w' : ω} {c : Config}

/-- A configuration that is loaded was decoded, whatever the files and the schema were. -/
theorem exists_decode_of_load (loaded : (load files path).run.run w = (.ok c, w')) :
    ∃ v, decode (Path.directory path) v = .ok c := by
  unfold load at loaded
  obtain ⟨text, _, -, loaded⟩ := exists_of_run_bind loaded
  cases text with
  | none => cases loaded
  | some text =>
    dsimp only at loaded
    split at loaded
    · next v _ =>
      obtain ⟨schemaPath, _, -, loaded⟩ := exists_of_run_bind loaded
      obtain ⟨schemaText, _, -, loaded⟩ := exists_of_run_bind loaded
      cases schemaText with
      | none => cases loaded
      | some schemaText =>
        obtain ⟨_, _, -, loaded⟩ := exists_of_run_bind loaded
        exact ⟨v, congrArg Prod.fst loaded⟩
    · cases loaded

/-- The picker of a configuration that is loaded has been checked. -/
theorem exists_credentials_of_load (loaded : (load files path).run.run w = (.ok c, w')) :
    ∃ credentials, c.credentials = .ok credentials := by
  obtain ⟨v, decoded⟩ := exists_decode_of_load loaded
  unfold decode at decoded
  split at decoded
  · cases decoded
  · split at decoded
    · next credentials checked =>
      obtain rfl := Except.ok.inj decoded
      exact ⟨credentials, checked⟩
    · cases decoded

end Config

namespace Service

open InstanceDirectory (WellListed FirstFault)

/-- What becomes of a service that is wired from the configuration. -/
structure Starts (isUrl : String → Bool) (c : Config) : Prop where
  credentials : ∃ credentials, c.credentials = .ok credentials
  starts_iff : (∃ s, ofConfig isUrl c = .ok s) ↔ WellListed c.instances
  fails_iff : ∀ e, ofConfig isUrl c = .error e ↔
    ∃ refusal, FirstFault c.instances refusal ∧ e = refusal.error
  kind : ∀ e, ofConfig isUrl c = .error e → e.kind = .configuration
  lookups : ∀ s, ofConfig isUrl c = .ok s → ∃ directory : InstanceDirectory,
    s.backend = memoryBackend isUrl directory c.featureFlags ∧ directory.Tells c.instances
  rearranged : ∀ s instances, ofConfig isUrl c = .ok s → instances.Perm c.instances →
    ofConfig isUrl { c with instances } = .ok s

variable {isUrl : String → Bool} {c : Config} {credentials : PickerCredentials}

/-- With a picker that can be used, the instances alone decide. -/
theorem ofConfig_of_credentials (checked : c.credentials = .ok credentials) :
    ofConfig isUrl c = ((InstanceDirectory.ofList c.instances).mapError
      InstanceDirectory.Refusal.error).map (wire isUrl c credentials) := by
  cases listed : InstanceDirectory.ofList c.instances with
  | ok directory => exact ofConfig_eq_ok_iff.mpr ⟨credentials, directory, checked, listed, rfl⟩
  | error refusal =>
    unfold ofConfig
    rw [checked, listed]
    rfl

theorem ofConfig_eq_error_iff (checked : c.credentials = .ok credentials) {e : LaunchError} :
    ofConfig isUrl c = .error e ↔
      ∃ refusal, FirstFault c.instances refusal ∧ e = refusal.error := by
  rw [ofConfig_of_credentials checked]
  constructor
  · intro failed
    rcases InstanceDirectory.ofList_cases c.instances with ⟨refusal, refused, fault⟩ | ⟨d, built, -⟩
    · rw [refused] at failed
      exact ⟨refusal, fault, (Except.error.inj failed).symm⟩
    · rw [built] at failed
      cases failed
  · rintro ⟨refusal, fault, rfl⟩
    rw [InstanceDirectory.ofList_of_firstFault fault]
    rfl

theorem starts_of_credentials (checked : c.credentials = .ok credentials) : Starts isUrl c := by
  constructor
  case credentials => exact ⟨credentials, checked⟩
  case starts_iff =>
    rw [ofConfig_of_credentials checked]
    rcases InstanceDirectory.ofList_cases c.instances with
      ⟨refusal, refused, fault⟩ | ⟨d, built, -, well⟩
    · rw [refused]
      exact iff_of_false nofun fun well => well.not_firstFault fault
    · rw [built]
      exact iff_of_true ⟨_, rfl⟩ well
  case fails_iff => exact fun e => ofConfig_eq_error_iff checked
  case kind =>
    intro e failed
    obtain ⟨refusal, -, rfl⟩ := (ofConfig_eq_error_iff checked).mp failed
    exact refusal.kind_error
  case lookups =>
    intro s started
    obtain ⟨_, directory, -, built, rfl⟩ := ofConfig_eq_ok_iff.mp started
    exact ⟨directory, rfl, (InstanceDirectory.holds_of_ofList built).tells⟩
  case rearranged =>
    intro s instances started perm
    obtain ⟨credentials, directory, checked, built, rfl⟩ := ofConfig_eq_ok_iff.mp started
    have built' := InstanceDirectory.ofList_of_perm built perm
    exact ofConfig_eq_ok_iff.mpr ⟨credentials, directory, checked, built', rfl⟩

theorem starts_of_load {ω : Type} {files : FileReader (StateM ω)} {path : String} {w w' : ω}
    (loaded : (Config.load files path).run.run w = (.ok c, w')) : Starts isUrl c := by
  obtain ⟨credentials, checked⟩ := Config.exists_credentials_of_load loaded
  exact starts_of_credentials checked

/-- The files of a document beside the shipped schema. -/
def startFiles (text : String) : FileReader (StateM Unit) where
  read path := pure (some (if path = Config.schemaFile then Config.schema.render else text))
  isPresent path := pure (path = Config.schemaFile)

def twoPlatformsText : String :=
  "\x7bgoogle_picker: \x7bclient_id: 'c', developer_key: 'k'\x7d, application_instances: " ++
    "[\x7bconsumer_key: 'a', lms_url: 'u', developer_key: 'd'\x7d, " ++
    "\x7bconsumer_key: 'b', lms_url: 'v'\x7d]\x7d"

def twoPlatformsTokens : List Json.Token :=
  [.leftBrace, .str "google_picker", .colon,
    .leftBrace, .str "client_id", .colon, .str "c", .comma, .str "developer_key", .colon, .str "k",
      .rightBrace, .comma,
    .str "application_instances", .colon, .leftBracket,
      .leftBrace, .str "consumer_key", .colon, .str "a", .comma, .str "lms_url", .colon, .str "u",
        .comma, .str "developer_key", .colon, .str "d", .rightBrace, .comma,
      .leftBrace, .str "consumer_key", .colon, .str "b", .comma, .str "lms_url", .colon, .str "v",
        .rightBrace, .rightBracket, .rightBrace]

def twoPlatformsDocument : Json :=
  .obj
    [("application_instances", .arr
        [.obj [("consumer_key", .str "a"), ("developer_key", .str "d"), ("lms_url", .str "u")],
          .obj [("consumer_key", .str "b"), ("lms_url", .str "v")]]),
      ("google_picker", .obj [("client_id", .str "c"), ("developer_key", .str "k")])]

def twoPlatforms : Config where
  picker := ⟨"c", "k"⟩
  instances := [⟨"a", "u", some "d"⟩, ⟨"b", "v", none⟩]

theorem document?_twoPlatformsText :
    Config.document? twoPlatformsText = some twoPlatformsDocument := by
  have lexed : Json5.lex? twoPlatformsText.toList = some twoPlatformsTokens := by decide +kernel
  unfold Config.document? Json5.parse?
  rw [lexed]
  rfl

theorem schemaPath_startFiles (text : String) :
    Config.schemaPath (startFiles text) (Path.directory "lms-launch.jsonc") twoPlatformsDocument =
      pure Config.schemaFile := by
  have unnamed (base : String) : Config.namedSchema? base twoPlatformsDocument = none := rfl
  have beside : Path.join (Path.directory "lms-launch.jsonc") Config.schemaFile =
      Config.schemaFile := by decide +kernel
  unfold Config.schemaPath
  rw [unnamed, beside]
  rfl

theorem load_twoPlatforms :
    Config.load (startFiles twoPlatformsText) "lms-launch.jsonc" = pure twoPlatforms := by
  have document : (startFiles twoPlatformsText).read "lms-launch.jsonc" =
      pure (some twoPlatformsText) := rfl
  have schema : (startFiles twoPlatformsText).read Config.schemaFile =
      pure (some Config.schema.render) := rfl
  have checked : Config.check Config.schemaFile Config.schema.render twoPlatformsDocument = .ok () :=
    (Config.check_eq_ok_iff Config.schemaDocument?_render).mpr rfl
  have decoded : Config.decode (Path.directory "lms-launch.jsonc") twoPlatformsDocument =
      .ok twoPlatforms := rfl
  unfold Config.load
  simp only [document, liftM_pure, pure_bind, document?_twoPlatformsText, schemaPath_startFiles,
    schema, checked, decoded]
  rfl

theorem starts_of_load_twoPlatforms :
    (Config.load (startFiles twoPlatformsText) "lms-launch.jsonc").run.run () =
        (.ok twoPlatforms, ()) ∧
      Starts Url.valid twoPlatforms := by
  have loaded : (Config.load (startFiles twoPlatformsText) "lms-launch.jsonc").run.run () =
      (.ok twoPlatforms, ()) := by
    rw [load_twoPlatforms]
    rfl
  exact ⟨loaded, starts_of_load loaded⟩

end Service

end LtiLaunch
