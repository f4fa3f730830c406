import LtiLaunch.Proofs.Service.Wiring

/-!
# Secrets

Two texts of the configuration are secret: the picker's credentials, which only users who may
configure get to see, and the developer keys of the platforms, which nobody does.
-/

namespace LtiLaunch

def PickerCredentials.Valid (x : PickerCredentials) : Prop := check x.clientId x.developerKey = .ok x

instance (x : PickerCredentials) : Decidable x.Valid := inferInstanceAs (Decidable (_ = _))

def Config.withPicker (c : Config) (x : PickerCredentials) : Config :=
  { c with picker := ⟨x.clientId, x.developerKey⟩ }

/-- No user that the request names may configure assignments. -/
def Http.Request.Unauthorized (q : Http.Request) : Prop :=
  ∀ user, User.ofParams q.params = .ok user → user.mayConfigure = false

/-- Instances that differ at most in what their developer key is, not in whether there is one. -/
structure ApplicationInstance.SameButKey (i j : ApplicationInstance) : Prop where
  consumerKey : i.consumerKey = j.consumerKey
  lmsUrl : i.lmsUrl = j.lmsUrl
  developerKey : i.developerKey.isSome = j.developerKey.isSome

structure Config.SameButKeys (c d : Config) : Prop where
  server : c.server = d.server
  logging : c.logging = d.logging
  picker : c.picker = d.picker
  featureFlags : c.featureFlags = d.featureFlags
  instances : List.Forall₂ ApplicationInstance.SameButKey c.instances d.instances
  assignments : c.assignments = d.assignments

/-! ### Developer keys -/

namespace InstanceDirectory

variable {d d' e : InstanceDirectory} {i j : ApplicationInstance}
  {is js : List ApplicationInstance}

/-- Directories of instances that differ at most in their developer keys. -/
def SameButKeys (d e : InstanceDirectory) : Prop :=
  ∀ key, Option.Rel ApplicationInstance.SameButKey (d.byConsumerKey.get? key) (e.byConsumerKey.get? key)

theorem get?_of_sameButKeys (same : SameButKeys d e) (key : String) :
    (d.byConsumerKey.get? key = none ∧ e.byConsumerKey.get? key = none) ∨
      ∃ i j, d.byConsumerKey.get? key = some i ∧ e.byConsumerKey.get? key = some j ∧
        i.SameButKey j := by
  have related := same key
  generalize d.byConsumerKey.get? key = left at related
  generalize e.byConsumerKey.get? key = right at related
  cases related with
  | none => exact .inl ⟨rfl, rfl⟩
  | some alike => exact .inr ⟨_, _, rfl, rfl, alike⟩

theorem contains_of_sameButKeys (same : SameButKeys d e) (key : String) :
    d.byConsumerKey.contains key = e.byConsumerKey.contains key := by
  unfold SortedMap.contains
  rcases get?_of_sameButKeys same key with ⟨left, right⟩ | ⟨i, j, left, right, -⟩ <;>
    simp only [left, right, Option.isSome_some]

theorem add_of_sameButKeys (same : SameButKeys d e) (alike : i.SameButKey j)
    (added : d.add i = .ok d') : ∃ e', e.add j = .ok e' ∧ SameButKeys d' e' := by
  unfold add at added ⊢
  rw [← alike.consumerKey, ← contains_of_sameButKeys same]
  split at added
  · cases added
  next named =>
    split at added
    · cases added
    next fresh =>
      obtain rfl := Except.ok.inj added
      rw [if_neg named, if_neg fresh]
      refine ⟨_, rfl, fun key => ?_⟩
      rw [SortedMap.get?_insert, SortedMap.get?_insert]
      split
      · exact .some alike
      · exact same key

theorem foldlM_of_sameButKeys (alike : List.Forall₂ ApplicationInstance.SameButKey is js)
    (same : SameButKeys d e) (built : is.foldlM add d = .ok d') :
    ∃ e', js.foldlM add e = .ok e' ∧ SameButKeys d' e' := by
  induction alike generalizing d e with
  | nil =>
    obtain rfl : d = d' := Except.ok.inj built
    exact ⟨e, rfl, same⟩
  | @cons i j is js first _ ih =>
    rw [List.foldlM_cons] at built ⊢
    cases added : d.add i with
    | error refusal =>
      rw [added] at built
      cases built
    | ok d₁ =>
      obtain ⟨e₁, added', same₁⟩ := add_of_sameButKeys same first added
      rw [added] at built
      rw [added']
      exact ih same₁ built

theorem ofList_of_sameButKeys (alike : List.Forall₂ ApplicationInstance.SameButKey is js)
    (built : ofList is = .ok d) : ∃ e, ofList js = .ok e ∧ SameButKeys d e :=
  foldlM_of_sameButKeys alike (fun _ => .none) built

theorem lmsUrl_of_sameButKeys (same : SameButKeys d e) (key : String) : d.lmsUrl key = e.lmsUrl key := by
  unfold lmsUrl
  rcases get?_of_sameButKeys same key with ⟨left, right⟩ | ⟨i, j, left, right, alike⟩
  · rw [left, right]
  · rw [left, right]
    exact congrArg Except.ok alike.lmsUrl

theorem developerKey?_of_sameButKeys (same : SameButKeys d e) (key : String) :
    (d.developerKey? key).isSome = (e.developerKey? key).isSome := by
  unfold developerKey?
  rcases get?_of_sameButKeys same key with ⟨left, right⟩ | ⟨i, j, left, right, alike⟩
  · rw [left, right]
  · rw [left, right]
    exact alike.developerKey

end InstanceDirectory

theorem Memory.answers_of_sameButKeys {d e : InstanceDirectory} (same : d.SameButKeys e)
    (isUrl : String → Bool) (flags : SortedMap String Bool) (store : AssignmentStore) :
    answers isUrl d flags store = answers isUrl e flags store := by
  have urls : d.lmsUrl = e.lmsUrl := funext (InstanceDirectory.lmsUrl_of_sameButKeys same)
  have keys : (fun key => (d.developerKey? key).isSome) = fun key => (e.developerKey? key).isSome :=
    funext (InstanceDirectory.developerKey?_of_sameButKeys same)
  unfold answers
  rw [urls]
  simp only [congrFun keys]

/-! ### The picker's credentials -/

namespace Service

variable {isUrl : String → Bool} {c d : Config} {directory directory' : InstanceDirectory}
  {s : Service}
  {x y : PickerCredentials} {q : Http.Request}

theorem reply_of_unauthorized (isUrl : String → Bool) (c : Config) (x y : PickerCredentials)
    (directory : InstanceDirectory) (store : AssignmentStore) (route : Route)
    (unauthorized : q.Unauthorized) :
    reply isUrl (c.withPicker x) x directory store route q =
      reply isUrl (c.withPicker y) y directory store route q := by
  unfold reply Http.reply LaunchRequest.ofParams
  cases Http.methodOf? q.method with
  | none => rfl
  | some method =>
    simp only
    cases named : User.ofParams q.params with
    | error e => rfl
    | ok user => exact DefaultViews.reply_of_unauthorized _ _ x y (unauthorized user named)

theorem ofConfig_withPicker (accepted : InstanceDirectory.ofList c.instances = .ok directory)
    (valid : x.Valid) : ofConfig isUrl (c.withPicker x) =
      .ok (wire isUrl (c.withPicker x) x directory) :=
  ofConfig_eq_ok_iff.mpr ⟨x, directory, valid, accepted, rfl⟩

/-- The answers to users who may not configure do not depend on the picker's credentials, whoever was
served before them, and no answer depends on the text of a developer key. -/
theorem answers_conceal (accepted : ofConfig isUrl c = .ok s) :
    (∀ x y : PickerCredentials, x.Valid → y.Valid →
      ∃ s₁ s₂, ofConfig isUrl (c.withPicker x) = .ok s₁ ∧ ofConfig isUrl (c.withPicker y) = .ok s₂ ∧
        ∀ (qs : List Http.Request) (i : Nat) (q : Http.Request), qs[i]? = some q → q.Unauthorized →
          (s₁.answers qs)[i]? = (s₂.answers qs)[i]?) ∧
    ∀ d, c.SameButKeys d →
      ∃ s', ofConfig isUrl d = .ok s' ∧ ∀ qs, s.answers qs = s'.answers qs := by
  obtain ⟨credentials, directory, picker, instances, rfl⟩ := ofConfig_eq_ok_iff.mp accepted
  constructor
  · intro x y valid valid'
    refine ⟨_, _, ofConfig_withPicker instances valid, ofConfig_withPicker instances valid', ?_⟩
    intro qs i q at_i unauthorized
    rw [answers_eq_map, answers_eq_map, List.getElem?_map, List.getElem?_map, at_i]
    refine congrArg some (respond_congr fun route => ?_)
    exact reply_of_unauthorized isUrl c x y directory _ route unauthorized
  · intro d same
    obtain ⟨directory', instances', alike⟩ :=
      InstanceDirectory.ofList_of_sameButKeys same.instances instances
    have picker' : d.credentials = .ok credentials := by
      rw [← picker, Config.credentials, Config.credentials, same.picker]
    refine ⟨_, ofConfig_eq_ok_iff.mpr ⟨_, _, picker', instances', rfl⟩, fun qs => ?_⟩
    rw [answers_eq_map, answers_eq_map]
    refine List.map_congr_left fun q _ => respond_congr fun route => ?_
    unfold reply wire settings
    rw [same.server, same.featureFlags, same.assignments, Memory.answers_of_sameButKeys alike]

def oneCourse (developerKey : String) : Config where
  picker := ⟨"client", "key"⟩
  featureFlags := .ofList [("new_oauth", true)]
  instances := [⟨"registered", "https://lms.example.org", some developerKey⟩]

def byLearner : Http.Request where
  method := "POST"
  target := ⟨Route.ltiLaunches.path, none⟩
  body := Text.utf8 "oauth_consumer_key=registered&resource_link_id=link&roles=Learner".toList

theorem unauthorized_byLearner : byLearner.Unauthorized := by
  intro user named
  have given : User.ofParams byLearner.params = .ok ⟨"", "registered", "Learner"⟩ := by
    decide +kernel
  obtain rfl := Except.ok.inj (given.symm.trans named)
  decide

/-- A learner does not notice other credentials, and an instructor does not notice another
developer key, though files of the course can be picked. -/
theorem answers_conceal_oneCourse :
    ∃ s s' s₁ s₂, ofConfig Url.valid (oneCourse "first") = .ok s ∧
      ofConfig Url.valid (oneCourse "second") = .ok s' ∧
      ofConfig Url.valid ((oneCourse "first").withPicker ⟨"one", "two"⟩) = .ok s₁ ∧
      ofConfig Url.valid ((oneCourse "first").withPicker ⟨"three", "four"⟩) = .ok s₂ ∧
      ∀ qs : List Http.Request, s.answers qs = s'.answers qs ∧
        ∀ i : Nat, qs[i]? = some byLearner → (s₁.answers qs)[i]? = (s₂.answers qs)[i]? := by
  obtain ⟨directory, instances⟩ :
      ∃ d, InstanceDirectory.ofList (oneCourse "first").instances = .ok d := ⟨_, rfl⟩
  have accepted : ofConfig Url.valid (oneCourse "first") =
      .ok (wire Url.valid (oneCourse "first") ⟨"client", "key"⟩ directory) :=
    ofConfig_eq_ok_iff.mpr ⟨_, _, by decide, instances, rfl⟩
  obtain ⟨pickers, keys⟩ := answers_conceal accepted
  obtain ⟨s₁, s₂, built₁, built₂, same⟩ :=
    pickers ⟨"one", "two"⟩ ⟨"three", "four"⟩ (by decide) (by decide)
  obtain ⟨s', built', same'⟩ := keys (oneCourse "second")
    ⟨rfl, rfl, rfl, rfl, .cons ⟨rfl, rfl, rfl⟩ .nil, rfl⟩
  exact ⟨_, s', s₁, s₂, accepted, built', built₁, built₂, fun qs =>
    ⟨same' qs, fun i at_i => same qs i _ at_i unauthorized_byLearner⟩⟩

end Service

end LtiLaunch
