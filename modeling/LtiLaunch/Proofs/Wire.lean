import LtiLaunch.Assignment.Wire
import LtiLaunch.Config.Wire
import LtiLaunch.ContentItem.Wire
import LtiLaunch.Launch.Wire
import LtiLaunch.Proofs.Json.Record
import LtiLaunch.Proofs.Overlay

/-!
# Round trips of the wire types

Every value of a type that goes over the wire is read back from its text, and so is the content item
that a selection form holds as text within text.
-/

namespace LtiLaunch

open Json (RoundTrips roundTrips_of_read)

theorem AssignedDocument.roundTrips (c : AssignedDocument) : RoundTrips toJson ofJson? c := by
  cases c with
  | vitalSourceBook book cfi => cases cfi <;> exact roundTrips_of_read rfl rfl
  | _ => exact roundTrips_of_read rfl rfl

theorem PickedDocument.roundTrips (d : PickedDocument) : RoundTrips toJson ofJson? d := by
  cases d <;> exact roundTrips_of_read rfl rfl

theorem User.roundTrips (u : User) : RoundTrips toJson ofJson? u := roundTrips_of_read rfl rfl

theorem SelectionContext.roundTrips (c : SelectionContext) : RoundTrips toJson ofJson? c := by
  obtain ⟨_, _, _, _, _, _, courseId⟩ := c
  cases courseId <;> exact roundTrips_of_read rfl rfl

/-! ### Content items -/

theorem LinkItem.ofJson?_toJson (i : LinkItem) : ofJson? i.toJson = some i := rfl

namespace ContentItem

theorem faithful_toJson (i : ContentItem) : i.toJson.faithful = true := by
  change (Json.faithfulAll (i.graph.map LinkItem.toJson) && true) = true
  rw [Json.faithfulAll_map fun _ => rfl]
  rfl

theorem ofJson?_toJson (i : ContentItem) : ofJson? i.toJson = some i := by
  have graph := Json.listOf?_map LinkItem.ofJson?_toJson i.graph
  change (Json.listOf? _ (.arr (i.graph.map LinkItem.toJson))).bind _ = _
  rw [graph]
  rfl

theorem roundTrips (i : ContentItem) : RoundTrips toJson ofJson? i :=
  roundTrips_of_read i.faithful_toJson i.ofJson?_toJson

end ContentItem

namespace SelectionForm

theorem roundTrips (f : SelectionForm) : RoundTrips toJson ofJson? f := by
  apply roundTrips_of_read
  · change (true && ((Json.ofMap .str f.fields).faithful && true)) = true
    rw [Json.faithful_ofMap fun _ => rfl]
    rfl
  · have fields := Json.mapOf?_ofMap Json.str?_str f.fields
    change (Json.mapOf? Json.str? (Json.ofMap .str f.fields)).bind _ = _
    rw [fields]
    rfl

/-- The content item that the form holds as text. -/
def item? (f : SelectionForm) : Option ContentItem := do
  let text ← f.fields.get? "content_items"
  ContentItem.ofJson? (← Json.parse? text)

theorem item?_ofItem (context : SelectionContext) (item : ContentItem) :
    (ofItem context item).item? = some item := by
  have text : (ofItem context item).fields.get? "content_items" = some item.toJson.render := by
    unfold ofItem
    rw [SortedMap.get?_ofList]
    rfl
  unfold item?
  rw [text]
  exact item.roundTrips

end SelectionForm

/-! ### The configuration -/

namespace LoggingConfig

/-- The days stand apart, since the bound for them is too large a number to be computed with. -/
theorem ofJson?_of_fields {c : LoggingConfig} {v days : Json}
    (given : Json.fields? ["dir", "filter", "rotation", "retention_days", "stderr_warn_enabled"] v =
      some [some (.str c.dir), some (.str c.filter), some (.str c.rotation.name), some days,
        some (.bool c.stderrWarnEnabled)])
    (read : days.word? = some c.retentionDays) : ofJson? v = some c := by
  have rotation : Rotation.ofName? c.rotation.name = some c.rotation := by
    cases c.rotation <;> rfl
  unfold ofJson?
  rw [given]
  simp only [Json.withDefault, Json.str?, Json.bool?, Json.nameOf?, rotation, read]
  rfl

theorem ofJson?_toJson {c : LoggingConfig} (word : c.retentionDays < 0x10000000000000000) :
    ofJson? c.toJson = some c :=
  ofJson?_of_fields rfl (Json.word?_nat word)

end LoggingConfig

namespace ApplicationInstance

theorem faithful_toJson (i : ApplicationInstance) : i.toJson.faithful = true := by
  obtain ⟨_, _, developerKey⟩ := i
  cases developerKey <;> rfl

theorem ofJson?_toJson (i : ApplicationInstance) : ofJson? i.toJson = some i := by
  obtain ⟨_, _, developerKey⟩ := i
  cases developerKey <;> rfl

end ApplicationInstance

theorem AssignmentSeed.ofJson?_toJson (s : AssignmentSeed) : ofJson? s.toJson = some s := rfl

namespace Config

theorem faithful_toJson {c : Config} (word : c.logging.retentionDays < 0x10000000000000000) :
    c.toJson.faithful = true := by
  change (true && ((true && (true && (true && ((Json.nat c.logging.retentionDays).faithful && (true && true))))) &&
    (true && ((Json.ofMap .bool c.featureFlags).faithful &&
      (Json.faithfulAll (c.instances.map ApplicationInstance.toJson) &&
        (Json.faithfulAll (c.assignments.map AssignmentSeed.toJson) && true)))))) = true
  rw [Json.faithful_nat word, Json.faithful_ofMap fun _ => rfl,
    Json.faithfulAll_map ApplicationInstance.faithful_toJson, Json.faithfulAll_map fun _ => rfl]
  rfl

theorem ofJson?_of_fields {c : Config} {v logging : Json}
    (given : Json.fields? sectionNames v = some [some c.server.toJson, some logging,
      some c.picker.toJson, some (Json.ofMap .bool c.featureFlags),
      some (.arr (c.instances.map ApplicationInstance.toJson)),
      some (.arr (c.assignments.map AssignmentSeed.toJson))])
    (read : LoggingConfig.ofJson? logging = some c.logging) : ofJson? v = some c := by
  have server : ServerConfig.ofJson? c.server.toJson = some c.server := rfl
  have picker : PickerConfig.ofJson? c.picker.toJson = some c.picker := rfl
  have flags := Json.mapOf?_ofMap Json.bool?_bool c.featureFlags
  have instances := Json.listOf?_map ApplicationInstance.ofJson?_toJson c.instances
  have assignments := Json.listOf?_map AssignmentSeed.ofJson?_toJson c.assignments
  unfold ofJson?
  rw [given]
  simp only [Json.withDefault, Json.required, server, read, picker, flags, instances, assignments]
  rfl

theorem ofJson?_toJson {c : Config} (word : c.logging.retentionDays < 0x10000000000000000) :
    ofJson? c.toJson = some c :=
  ofJson?_of_fields rfl (LoggingConfig.ofJson?_toJson word)

end Config

/-- What goes over the wire is read back from its text; of a configuration this supposes that the
days are a number of the size of a word. -/
theorem roundTrips_wire :
    (∀ c, RoundTrips AssignedDocument.toJson AssignedDocument.ofJson? c) ∧
    (∀ d, RoundTrips PickedDocument.toJson PickedDocument.ofJson? d) ∧
    (∀ i, RoundTrips ContentItem.toJson ContentItem.ofJson? i) ∧
    (∀ c, RoundTrips SelectionContext.toJson SelectionContext.ofJson? c) ∧
    (∀ f, RoundTrips SelectionForm.toJson SelectionForm.ofJson? f) ∧
    (∀ u, RoundTrips User.toJson User.ofJson? u) ∧
    (∀ c, c.logging.retentionDays < 0x10000000000000000 → RoundTrips Config.toJson Config.ofJson? c) ∧
    ∀ context item,
      (SelectionForm.ofItem context item).item? = some item ∧
        ∃ form, (Json.parse? (SelectionForm.ofItem context item).toJson.render).bind
          SelectionForm.ofJson? = some form ∧ form.item? = some item := by
  refine ⟨AssignedDocument.roundTrips, PickedDocument.roundTrips, ContentItem.roundTrips,
    SelectionContext.roundTrips, SelectionForm.roundTrips, User.roundTrips, ?_, ?_⟩
  · intro c word
    exact roundTrips_of_read (Config.faithful_toJson word) (Config.ofJson?_toJson word)
  · intro context item
    have held := SelectionForm.item?_ofItem context item
    exact ⟨held, _, SelectionForm.roundTrips _, held⟩

/-- A line break and quotation marks are escaped, and the defaults are written out. -/
theorem roundTrips_wire_escaped :
    let c : Config := { picker := ⟨"client\n", "\"key\""⟩ }
    c.logging.retentionDays < 0x10000000000000000 ∧ RoundTrips Config.toJson Config.ofJson? c := by
  intro c
  have word : c.logging.retentionDays < 0x10000000000000000 := by decide
  obtain ⟨-, -, -, -, -, -, config, -⟩ := roundTrips_wire
  exact ⟨word, config c word⟩

end LtiLaunch
