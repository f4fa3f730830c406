import LtiLaunch.Proofs.Service.InstanceDirectory
import LtiLaunch.Proofs.Service.Wiring

/-!
# The status of every answer

The status of what a wired service answers, as a function of the method, the route and the
parameters. Which of several faults is reported follows the order in which they are looked for.
-/

namespace LtiLaunch

/-! ### Reports -/

theorem LaunchError.missingParameter_inj {name name' : String}
    (same : missingParameter name = missingParameter name') : name = name' := by
  have messages := congrArg (fun e => e.message.toList) same
  simp only [missingParameter, protocolViolation, String.toList_append, List.append_cancel_left_eq,
    List.append_cancel_right_eq] at messages
  exact String.toList_inj.mp messages

/-- The outcome has a status, and it does not miss the course of the launch. -/
structure Reports (n : Nat) (o : Except LaunchError View) : Prop where
  status : Http.statusOf o = n
  course : o ≠ .error (.missingParameter "custom_canvas_course_id")

namespace Reports

theorem of_eq {m n : Nat} {o : Except LaunchError View} (h : Reports n o) (same : n = m) :
    Reports m o := same ▸ h

theorem ok (view : View) : Reports 200 (.ok view) :=
  ⟨rfl, fun same => by cases same⟩

theorem of_kind {e : LaunchError} (other : e.kind ≠ .protocolViolation) :
    Reports e.kind.status (.error e) :=
  ⟨rfl, fun same => other (by cases same; rfl)⟩

theorem notFound (message : String) : Reports 404 (.error (.notFound message)) :=
  of_kind (e := .notFound message) (show ErrorKind.notFound ≠ .protocolViolation by decide)

theorem missing {name : String} (other : name ≠ "custom_canvas_course_id") :
    Reports 400 (.error (.missingParameter name)) :=
  ⟨rfl, fun same => other (LaunchError.missingParameter_inj (Except.error.inj same))⟩

theorem require {r : LaunchRequest} {name : String} {n : Nat}
    {f : String → Except LaunchError View} (other : name ≠ "custom_canvas_course_id")
    (rest : ∀ value, Reports n (f value)) :
    Reports (if r.has name then n else 400) (r.require name >>= f) := by
  rw [LaunchRequest.has_eq]
  unfold LaunchRequest.require
  cases r.value? name with
  | some value => exact rest value
  | none => exact missing other

variable {isUrl : String → Bool} {directory : InstanceDirectory} {flags : SortedMap String Bool}
  {store : AssignmentStore}

theorem platformUrl {r : LaunchRequest} {f : String → Option String → View} :
    Reports (if r.has "custom_canvas_api_domain" ||
        directory.byConsumerKey.contains r.user.consumerKey then 200 else 502) (do
      let lmsUrl ← (Memory.answers isUrl directory flags store).platformUrl r
      let courseId ← (Memory.answers isUrl directory flags store).canvasCourse r
      return f lmsUrl courseId) := by
  obtain ⟨course, known⟩ := Memory.canvasCourse_answers isUrl directory flags store r
  split
  · next reachable =>
    obtain ⟨url, found⟩ := Memory.platformUrl_answers_ok isUrl flags store
      ((Bool.or_eq_true _ _).mp reachable)
    rw [found, known]
    exact ok _
  · next unreachable =>
    simp only [Bool.or_eq_true, not_or, Bool.not_eq_true] at unreachable
    rw [Memory.platformUrl_answers_error isUrl flags store unreachable.1 unreachable.2]
    have other : ErrorKind.failedLookup ≠ .protocolViolation := by decide
    exact of_kind (e := InstanceDirectory.unknownKey r.user.consumerKey) other

end Reports

namespace Service

/-! ### What status is expected -/

def mayConfigure (p : Params) : Bool :=
  User.mayConfigure { userId := "", consumerKey := "", roles := p.getD "roles" "" }

/-- Whether the platform's address is known: the launch gives it, or the key is registered. -/
def reachable (c : Config) (p : Params) (key : String) : Bool :=
  p.contains "custom_canvas_api_domain" || decide (key ∈ c.instances.map (·.consumerKey))

/-- The status of a posted selection with this consumer key, the views being enabled. -/
def selectionStatus (c : Config) (p : Params) (key : String) : Nat :=
  if ¬ mayConfigure p then 404
  else if ¬ p.contains "content_item_return_url" ∨ ¬ p.contains "lti_version" then 400
  else if reachable c p key then 200
  else 502

def launchStatus (c : Config) (p : Params) (key : String) (configured : Bool) : Nat :=
  if configured ∨ ¬ mayConfigure p then 200
  else if ¬ p.contains "resource_link_id" then 400
  else if reachable c p key then 200
  else 502

def enabledStatus (c : Config) (p : Params) (key : String) (configured : Bool) : Route → Nat
  | .contentItemSelection => selectionStatus c p key
  | .ltiLaunches => launchStatus c p key configured

/-- The status of a request to a route, given whether its assignment has a document. -/
def statusFor (c : Config) (method : String) (route : Route) (p : Params) (configured : Bool) :
    Nat :=
  if method ≠ "GET" ∧ method ≠ "POST" then 404
  else match p.get? "oauth_consumer_key" with
    | none => 400
    | some key =>
      if Text.isBlank key then 400
      else if method = "GET" ∨ c.featureFlags.get? "new_oauth" ≠ some true then 404
      else enabledStatus c p key configured route

theorem statusFor_ne (c : Config) (method : String) (route : Route) (p : Params)
    (configured : Bool) : statusFor c method route p configured ≠ 500 := by
  unfold statusFor enabledStatus selectionStatus launchStatus
  repeat' split
  all_goals decide

/-- Whether the launch with these parameters has a document in the state `st`. -/
def isConfigured (s : Service) (st : ServiceState) (route : Route) (p : Params) : Bool :=
  match LaunchRequest.ofParams .post route p with
  | .ok r => (outcome (Signals.resolve s.backend r) st matches .ok (some _))
  | .error _ => false

/-! ### Services wired from a configuration -/

variable {isUrl : String → Bool} {c : Config} {directory : InstanceDirectory}
  {credentials : PickerCredentials}

/-- The service answers from the configuration, its parts being known. -/
structure Wired (isUrl : String → Bool) (c : Config) (directory : InstanceDirectory) (s : Service) :
    Prop where
  instances : InstanceDirectory.ofList c.instances = .ok directory
  backend : s.backend = memoryBackend isUrl directory c.featureFlags
  table : ∃ v, s.table = DefaultViews.table v s.backend

theorem exists_wired (picker : c.credentials = .ok credentials)
    (instances : InstanceDirectory.ofList c.instances = .ok directory) :
    ∃ s, ofConfig isUrl c = .ok s ∧ Wired isUrl c directory s :=
  ⟨wire isUrl c credentials directory, ofConfig_eq_ok_iff.mpr ⟨_, _, picker, instances, rfl⟩,
    instances, rfl, _, rfl⟩

namespace Wired

variable {s : Service} {r : LaunchRequest}

theorem follows (wired : Wired isUrl c directory s) (st : ServiceState) :
    s.backend.Follows (fun s' => s'.store = st.store)
      (Memory.answers isUrl directory c.featureFlags st.store) := by
  rw [wired.backend]
  exact Memory.follows_answers isUrl directory c.featureFlags st.store

theorem outcome_resolve (wired : Wired isUrl c directory s) (st : ServiceState)
    (r : LaunchRequest) :
    outcome (Signals.resolve s.backend r) st =
      (Memory.answers isUrl directory c.featureFlags st.store).resolve r :=
  (Signals.yields_resolve (wired.follows st) r).outcome_eq rfl

theorem reachable_eq (wired : Wired isUrl c directory s) (p : Params) (key : String) :
    reachable c p key =
      (p.contains "custom_canvas_api_domain" || directory.byConsumerKey.contains key) := by
  unfold reachable
  rw [Bool.eq_iff_iff, Bool.or_eq_true, Bool.or_eq_true, decide_eq_true_iff,
    (InstanceDirectory.holds_of_ofList wired.instances).contains_iff]

theorem outcome_answer (wired : Wired isUrl c directory s) {st : ServiceState}
    {x : Candidate (Handler ServiceState)} {o : Except LaunchError View}
    (select : (Memory.answers isUrl directory c.featureFlags st.store).select r
      (s.table.candidates r.key) = .ok x)
    (prepared : x.preparations = [] ∨ x.preparations = DefaultViews.provision)
    (shown : Yields (fun s' => s'.store = st.store) (x.handler r) o) :
    outcome (Stages.answer s.backend s.table r) st = o := by
  have answered := (Stages.yields_answer (wired.follows st) select shown).outcome_eq rfl
  rw [answered]
  rcases prepared with none | both
  · rw [none]
    rfl
  · rw [both]
    rfl

theorem enabled_iff {flags : SortedMap String Bool} :
    Memory.flagEnabled flags "new_oauth" = true ↔ flags.get? "new_oauth" = some true := by
  unfold Memory.flagEnabled SortedMap.getD
  cases flags.get? "new_oauth" with
  | none => simp
  | some on => simp

theorem mayConfigure_eq (roles : r.user.roles = r.params.getD "roles" "") :
    mayConfigure r.params = r.user.mayConfigure := by
  unfold mayConfigure User.mayConfigure
  rw [roles]

theorem reports_selection (wired : Wired isUrl c directory s) (st : ServiceState)
    (key : r.key = .post .contentItemSelection) (roles : r.user.roles = r.params.getD "roles" "")
    (enabled : c.featureFlags.get? "new_oauth" = some true) :
    Reports (selectionStatus c r.params r.user.consumerKey)
      (outcome (Stages.answer s.backend s.table r) st) := by
  obtain ⟨v, table⟩ := wired.table
  have h := wired.follows st
  unfold selectionStatus
  rw [mayConfigure_eq roles, wired.reachable_eq]
  cases role : r.user.mayConfigure with
  | false =>
    rw [table, (DefaultViews.unmatched_of_unauthorized h rfl key role).outcome]
    exact Reports.notFound _
  | true =>
    have flag : (Memory.answers isUrl directory c.featureFlags st.store).flag
        DefaultViews.newOauth r = true := enabled_iff.mpr enabled
    have select := DefaultViews.select_eq_selection (v := v) (b := s.backend) key flag role
    rw [← table] at select
    rw [wired.outcome_answer select (.inr rfl) (Screens.yields_contentItemSelection h _ _ r)]
    unfold Answers.contentItemSelection Answers.selectionContext
    simp only [bind_assoc, pure_bind]
    refine Reports.of_eq (Reports.require (by decide) fun returnUrl =>
      Reports.require (by decide) fun ltiVersion => Reports.platformUrl) ?_
    unfold LaunchRequest.has
    by_cases returnUrl : r.params.contains "content_item_return_url" = true <;>
      by_cases version : r.params.contains "lti_version" = true <;> simp [returnUrl, version]

theorem reports_launch (wired : Wired isUrl c directory s) (st : ServiceState)
    (key : r.key = .post .ltiLaunches) (roles : r.user.roles = r.params.getD "roles" "")
    (enabled : c.featureFlags.get? "new_oauth" = some true) {found : Option AssignedDocument}
    (resolved : (Memory.answers isUrl directory c.featureFlags st.store).resolve r = .ok found) :
    Reports (launchStatus c r.params r.user.consumerKey found.isSome)
      (outcome (Stages.answer s.backend s.table r) st) := by
  obtain ⟨v, table⟩ := wired.table
  have h := wired.follows st
  have flag : (Memory.answers isUrl directory c.featureFlags st.store).flag
      DefaultViews.newOauth r = true := enabled_iff.mpr enabled
  have look : (Memory.answers isUrl directory c.featureFlags st.store).found r = .ok found := by
    rw [Answers.found, resolved]
    rfl
  unfold launchStatus
  rw [mayConfigure_eq roles, wired.reachable_eq]
  cases found with
  | some document =>
    have select := DefaultViews.select_eq_configured (v := v) (b := s.backend) key flag look
    rw [← table] at select
    rw [wired.outcome_answer select (.inr rfl) (Screens.yields_configured h resolved)]
    exact Reports.ok _
  | none =>
    have select := DefaultViews.select_eq_unconfigured (v := v) (b := s.backend) key flag look
    rw [← table] at select
    cases role : r.user.mayConfigure with
    | false =>
      rw [role] at select
      rw [wired.outcome_answer select (.inl rfl) (Screens.yields_unauthorized h r)]
      exact Reports.ok _
    | true =>
      rw [role] at select
      rw [wired.outcome_answer select (.inr rfl) (Screens.yields_unconfigured h _ _ r)]
      refine Reports.of_eq (Reports.require (by decide) fun link => Reports.platformUrl) ?_
      unfold LaunchRequest.has
      by_cases link : r.params.contains "resource_link_id" = true <;> simp [link]

theorem isConfigured_eq (wired : Wired isUrl c directory s) {st : ServiceState} {p : Params}
    {route : Route} {found : Option AssignedDocument}
    (made : LaunchRequest.ofParams .post route p = .ok r)
    (resolved : (Memory.answers isUrl directory c.featureFlags st.store).resolve r = .ok found) :
    isConfigured s st route p = found.isSome := by
  unfold isConfigured
  rw [made]
  simp only
  rw [wired.outcome_resolve, resolved]
  cases found <;> rfl

theorem reports_answer (wired : Wired isUrl c directory s) (st : ServiceState)
    (made : LaunchRequest.ofParams r.method r.route r.params = .ok r)
    (roles : r.user.roles = r.params.getD "roles" "") :
    Reports
      (if r.method = .get ∨ c.featureFlags.get? "new_oauth" ≠ some true then 404
      else enabledStatus c r.params r.user.consumerKey (isConfigured s st r.route r.params) r.route)
      (outcome (Stages.answer s.backend s.table r) st) := by
  obtain ⟨v, table⟩ := wired.table
  have h := wired.follows st
  by_cases get : r.method = .get
  · rw [if_pos (.inl get), table, (DefaultViews.unmatched_of_get h rfl get).outcome]
    exact Reports.notFound _
  by_cases enabled : c.featureFlags.get? "new_oauth" = some true
  · rw [if_neg (not_or.mpr ⟨get, not_not_intro enabled⟩)]
    have post : r.method = .post := by
      cases method : r.method with
      | get => exact absurd method get
      | post => rfl
    rw [post] at made
    obtain ⟨found, resolved⟩ := Memory.resolve_answers isUrl directory c.featureFlags st.store r
    rw [wired.isConfigured_eq made resolved]
    cases route : r.route with
    | contentItemSelection =>
      have key : r.key = .post .contentItemSelection := by rw [LaunchRequest.key, post, route]; rfl
      exact wired.reports_selection st key roles enabled
    | ltiLaunches =>
      have key : r.key = .post .ltiLaunches := by rw [LaunchRequest.key, post, route]; rfl
      exact wired.reports_launch st key roles enabled resolved
  · have disabled : Memory.flagEnabled c.featureFlags "new_oauth" = false := by
      rw [← Bool.not_eq_true, enabled_iff]
      exact enabled
    rw [if_pos (.inr enabled), table, (DefaultViews.unmatched_of_disabled h rfl disabled).outcome]
    exact Reports.notFound _

theorem reports_request (wired : Wired isUrl c directory s) (st : ServiceState) (route : Route)
    (q : Http.Request) :
    Reports (statusFor c q.method route q.params (isConfigured s st route q.params))
      (outcome (Http.launch s.backend s.table route q) st) := by
  unfold statusFor
  by_cases unknown : q.method ≠ "GET" ∧ q.method ≠ "POST"
  · rw [if_pos unknown, Http.outcome_launch_of_none (Http.methodOf?_eq_none unknown)]
    exact Reports.notFound _
  rw [if_neg unknown]
  obtain ⟨method, known, isGet⟩ := Http.exists_methodOf? unknown
  have refused (anonymous : ∀ key, q.params.get? "oauth_consumer_key" = some key →
      Text.isBlank key = true) : Reports 400 (outcome (Http.launch s.backend s.table route q) st) := by
    rw [Http.outcome_launch_of_error known (LaunchRequest.ofParams_of_anonymous method route anonymous)]
    exact Reports.missing (by decide)
  cases given : q.params.get? "oauth_consumer_key" with
  | none => exact refused (by simp [given])
  | some key =>
    simp only [isGet]
    cases blank : Text.isBlank key with
    | true => exact refused (by simp [given, blank])
    | false =>
      obtain ⟨r, made, rfl, rfl, params, rfl, roles⟩ :=
        LaunchRequest.exists_ofParams method route given blank
      rw [Http.outcome_launch_of_ok known made, if_neg Bool.false_ne_true]
      rw [← params] at made roles ⊢
      exact wired.reports_answer st made roles

end Wired

/-- Every configuration whose parts are accepted makes a service, and in each of its states the
status of every answer is as `statusFor` says. No answer has status 500, the document of an
assignment is always found out, and no launch misses its course. -/
theorem status_respond (picker : c.credentials = .ok credentials)
    (instances : InstanceDirectory.ofList c.instances = .ok directory) :
    ∃ s, ofConfig isUrl c = .ok s ∧ ∀ st : ServiceState,
      (∀ method route query body,
        let p := Http.parameters (query.map fun text => Text.utf8 text.toList) body
        ((s.respond ⟨method, ⟨route.path, query⟩, body⟩).run st).1.status =
          statusFor c method route p (isConfigured s st route p)) ∧
      (∀ q, ((s.respond q).run st).1.status ≠ 500) ∧
      (∀ r, ∃ found, outcome (Signals.resolve s.backend r) st = .ok found) ∧
      ∀ route q, outcome (Http.launch s.backend s.table route q) st ≠
        .error (.missingParameter "custom_canvas_course_id") := by
  obtain ⟨s, built, wired⟩ := exists_wired picker instances
  refine ⟨s, built, fun st => ⟨fun method route query body => ?_, fun q => ?_, fun r => ?_,
    fun route q => (wired.reports_request st route q).course⟩⟩
  · unfold respond
    rw [Http.status_serve, Http.status_answer (Http.routeOf?_path route)]
    exact (wired.reports_request st route _).status
  · unfold respond
    rw [Http.status_serve]
    cases found : Http.routeOf? q.target.path with
    | none =>
      rw [Http.status_answer_of_none found]
      decide
    | some route =>
      rw [Http.status_answer found, (wired.reports_request st route q).status]
      exact statusFor_ne _ _ _ _ _
  · rw [wired.outcome_resolve]
    exact Memory.resolve_answers isUrl directory c.featureFlags st.store r

def oneInstance : Config where
  picker := ⟨"client", "key"⟩
  featureFlags := .ofList [("new_oauth", true)]
  instances := [⟨"registered", "https://lms.example.org", none⟩]

def pickerForm (key : String) : List UInt8 :=
  Text.utf8 ("oauth_consumer_key=" ++ key ++
    "&roles=Instructor&content_item_return_url=back&lti_version=1").toList

/-- The picker is opened only for the platform that is registered. -/
theorem status_respond_oneInstance :
    ∃ s, ofConfig Url.valid oneInstance = .ok s ∧
      ∀ x ∈ [("registered", 200), ("unknown", 502), ("+", 400)],
        ((s.respond ⟨"POST", ⟨Route.contentItemSelection.path, none⟩, pickerForm x.1⟩).run
          s.initial).1.status = x.2 := by
  have picker : oneInstance.credentials = .ok ⟨"client", "key"⟩ := by decide
  obtain ⟨directory, instances⟩ :
      ∃ d, InstanceDirectory.ofList oneInstance.instances = .ok d := ⟨_, rfl⟩
  obtain ⟨s, built, answers⟩ := status_respond picker instances
  refine ⟨s, built, fun x mem => ?_⟩
  rw [(answers s.initial).1]
  generalize isConfigured s s.initial _ _ = configured
  revert configured x
  decide +kernel

end Service

end LtiLaunch
