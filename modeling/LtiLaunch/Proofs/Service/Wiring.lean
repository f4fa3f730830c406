import LtiLaunch.Proofs.Http.Launch
import LtiLaunch.Proofs.Service.Memory
import LtiLaunch.Proofs.Views.Reply

/-!
# Wired services

What a service that is wired from a configuration replies, in every state. Requests leave its store
as it is, so what it answers to one does not depend on those before it.
-/

namespace LtiLaunch

/-- Steps that keep to the worlds of `W`, where each gives one answer, give these answers in a row. -/
theorem run_mapM_eq_map {σ α β : Type} {W : σ → Prop} {f : α → StateM σ β} {g : α → β}
    (step : ∀ x s, W s → ((f x).run s).1 = g x ∧ W ((f x).run s).2) (l : List α) {s : σ}
    (world : W s) : ((l.mapM f).run s).1 = l.map g := by
  induction l generalizing s with
  | nil => rfl
  | cons x l ih =>
    obtain ⟨first, next⟩ := step x s world
    rw [List.mapM_cons, List.map_cons, ← first, ← ih next]
    rfl

namespace Service

variable {isUrl : String → Bool} {c : Config} {s : Service} {credentials : PickerCredentials}
  {directory : InstanceDirectory}

def wire (isUrl : String → Bool) (c : Config) (credentials : PickerCredentials)
    (directory : InstanceDirectory) : Service where
  backend := memoryBackend isUrl directory c.featureFlags
  table :=
    DefaultViews.table (settings c credentials) (memoryBackend isUrl directory c.featureFlags)
  initial := { store := .ofSeeds c.assignments, journal := [] }

theorem ofConfig_eq_ok_iff :
    ofConfig isUrl c = .ok s ↔ ∃ credentials directory, c.credentials = .ok credentials ∧
      InstanceDirectory.ofList c.instances = .ok directory ∧
        s = wire isUrl c credentials directory := by
  unfold ofConfig
  cases picker : c.credentials with
  | error e =>
    constructor
    · intro built
      cases built
    · rintro ⟨credentials, directory, other, -⟩
      cases other
  | ok credentials =>
    cases instances : InstanceDirectory.ofList c.instances with
    | error e =>
      constructor
      · intro built
        cases built
      · rintro ⟨credentials, directory, -, other, -⟩
        cases other
    | ok directory =>
      have taken := DefaultViews.addTo_empty (settings c credentials)
        (memoryBackend isUrl directory c.featureFlags)
      change (DefaultViews.addTo .builtin _ _ .empty).mapError _ >>= _ = _ ↔ _
      rw [taken]
      constructor
      · intro built
        exact ⟨credentials, directory, rfl, rfl, (Except.ok.inj built).symm⟩
      · rintro ⟨credentials', directory', same, same', rfl⟩
        obtain rfl := Except.ok.inj same
        obtain rfl := Except.ok.inj same'
        rfl

/-- What a service replies to a launch whose store is `store`. -/
def reply (isUrl : String → Bool) (c : Config) (credentials : PickerCredentials)
    (directory : InstanceDirectory) (store : AssignmentStore) :
    Route → Http.Request → Except LaunchError View :=
  Http.reply (DefaultViews.reply (Memory.answers isUrl directory c.featureFlags store)
    (settings c credentials))

theorem yields_launch (isUrl : String → Bool) (c : Config) (credentials : PickerCredentials)
    (directory : InstanceDirectory) (store : AssignmentStore) (route : Route) (q : Http.Request) :
    Yields (fun st => st.store = store)
      (Http.launch (wire isUrl c credentials directory).backend
        (wire isUrl c credentials directory).table route q)
      (reply isUrl c credentials directory store route q) :=
  Http.yields_launch
    (fun r => DefaultViews.yields_reply
      (Memory.follows_answers isUrl directory c.featureFlags store) (settings c credentials) r)
    route q

theorem store_respond (isUrl : String → Bool) (c : Config) (credentials : PickerCredentials)
    (directory : InstanceDirectory) (q : Http.Request) (st : ServiceState) :
    (((wire isUrl c credentials directory).respond q).run st).2.store = st.store :=
  Http.serve_mem (W := fun st' : ServiceState => st'.store = st.store)
    (Memory.follows_answers isUrl directory c.featureFlags st.store).journal rfl
    fun route => (yields_launch isUrl c credentials directory st.store route q).after_mem rfl

/-- Responses are alike where the replies are. -/
theorem respond_congr {isUrl' : String → Bool} {c' : Config} {credentials' : PickerCredentials}
    {directory' : InstanceDirectory} {q : Http.Request} {st st' : ServiceState}
    (same : ∀ route, reply isUrl c credentials directory st.store route q =
      reply isUrl' c' credentials' directory' st'.store route q) :
    (((wire isUrl c credentials directory).respond q).run st).1 =
      (((wire isUrl' c' credentials' directory').respond q).run st').1 := by
  refine Http.serve_congr fun route => ?_
  rw [(yields_launch isUrl c credentials directory st.store route q).outcome_eq rfl,
    (yields_launch isUrl' c' credentials' directory' st'.store route q).outcome_eq rfl, same route]

/-- Each request is answered as if it were the first. -/
theorem answers_eq_map (isUrl : String → Bool) (c : Config) (credentials : PickerCredentials)
    (directory : InstanceDirectory) (qs : List Http.Request) :
    (wire isUrl c credentials directory).answers qs = qs.map fun q =>
      (((wire isUrl c credentials directory).respond q).run
        (wire isUrl c credentials directory).initial).1 := by
  refine run_mapM_eq_map
    (W := fun st => st.store = (wire isUrl c credentials directory).initial.store) ?_ qs rfl
  intro q st world
  refine ⟨respond_congr fun route => by rw [world], ?_⟩
  rw [store_respond, world]

end Service

end LtiLaunch
