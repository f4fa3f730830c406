import LtiLaunch.Proofs.Form
import LtiLaunch.Proofs.Http.Launch
import LtiLaunch.Proofs.Overlay

/-!
# Parameters of a request

The parameters of a request are those of its query and its body in a row, where the last value of a
name counts. So what the body gives is not changed by the query: a link that is replayed with another
query is still a launch by the user that the platform posted.
-/

namespace LtiLaunch

namespace Form

/-- The names that the bytes give values for. -/
def names (bytes : List UInt8) : List String := (decode bytes).map Prod.fst

/-- The last of the values that the bytes give for the name. -/
def lastValue? (name : String) (bytes : List UInt8) : Option String :=
  ((decode bytes).filter fun p => p.1 == name).getLast?.map Prod.snd

theorem lastValue?_eq_none_iff {name : String} {bytes : List UInt8} :
    lastValue? name bytes = none ↔ name ∉ names bytes := by
  simp only [lastValue?, Option.map_eq_none_iff, List.getLast?_eq_none_iff, List.filter_eq_nil_iff,
    beq_iff_eq, names, List.mem_map, not_exists, not_and]

/-- A pair never goes beyond a separator, so the pairs of two forms in a row are those of each. -/
theorem decode_append_cons (query body : List UInt8) :
    decode (query ++ 0x26 :: body) = decode query ++ decode body := by
  simp only [decode, splitOn_append_cons, List.filter_append, List.map_append]

end Form

namespace Http

theorem get?_parameters (query : Option (List UInt8)) (body : List UInt8) (name : String) :
    (parameters query body).get? name =
      (Form.lastValue? name body).or (Form.lastValue? name (query.getD [])) := by
  rw [parameters, SortedMap.get?_insertAll, SortedMap.get?_ofList,
    SortedMap.lookup_reverse_eq_getLast?, SortedMap.lookup_reverse_eq_getLast?]
  rfl

theorem parameters_eq_joined (query body : List UInt8) :
    parameters (some query) body = parameters none (query ++ 0x26 :: body) := by
  have nothing : Form.decode [] = [] := rfl
  unfold parameters
  rw [Option.getD_some, Option.getD_none, nothing, Form.decode_append_cons]
  exact (List.foldl_append ..).symm

/-- The parameters `p` are those of the query overlaid by those of the body. -/
structure Merges (query body : List UInt8) (p : Params) : Prop where
  joined : p = parameters none (query ++ 0x26 :: body)
  names : ∀ name, name ∈ p.keys ↔ name ∈ Form.names query ∨ name ∈ Form.names body
  ofBody : ∀ name ∈ Form.names body, p.get? name = Form.lastValue? name body
  ofQuery : ∀ name, name ∉ Form.names body → p.get? name = Form.lastValue? name query

theorem merges_parameters (query body : List UInt8) :
    Merges query body (parameters (some query) body) := by
  have found := get?_parameters (some query) body
  have ofBody : ∀ name ∈ Form.names body,
      (parameters (some query) body).get? name = Form.lastValue? name body := by
    intro name given
    rw [found]
    cases last : Form.lastValue? name body with
    | some value => rfl
    | none => exact absurd given (Form.lastValue?_eq_none_iff.mp last)
  have ofQuery : ∀ name, name ∉ Form.names body →
      (parameters (some query) body).get? name = Form.lastValue? name query := by
    intro name absent
    rw [found, Form.lastValue?_eq_none_iff.mpr absent]
    rfl
  refine ⟨parameters_eq_joined query body, fun name => ?_, ofBody, ofQuery⟩
  rw [SortedMap.mem_keys_iff, SortedMap.contains, Option.isSome_iff_ne_none, ne_eq]
  by_cases given : name ∈ Form.names body
  · have last : Form.lastValue? name body ≠ none := fun none =>
      Form.lastValue?_eq_none_iff.mp none given
    simp [ofBody name given, last, given]
  · simp [ofQuery name given, Form.lastValue?_eq_none_iff, given]

/-- The body names the user by itself: by a consumer key, an identifier and the roles. -/
structure NamesUser (body : List UInt8) (user : User) : Prop where
  consumerKey : Form.lastValue? "oauth_consumer_key" body = some user.consumerKey
  notBlank : Text.isBlank user.consumerKey = false
  userId : Form.lastValue? "user_id" body = some user.userId
  roles : Form.lastValue? "roles" body = some user.roles

variable {body : List UInt8} {user : User}

theorem ofParams_of_namesUser (named : NamesUser body user) (query : Option (List UInt8))
    (method : HttpMethod) (route : Route) :
    LaunchRequest.ofParams method route (parameters query body) =
      .ok { method, route, params := parameters query body, user } := by
  have found {name value : String} (given : Form.lastValue? name body = some value) :
      (parameters query body).get? name = some value := by
    rw [get?_parameters, given]
    rfl
  have principal : User.ofParams (parameters query body) = .ok user := by
    simp only [User.ofParams, SortedMap.getD, found named.consumerKey, found named.userId,
      found named.roles, named.notBlank]
    rfl
  rw [LaunchRequest.ofParams, principal]

/-- The parameters of a query and a body are merged as `Merges` says. Where the body names the user,
launches with any two queries are made for that user, so that the query has no say in who launches
or in whether they may configure. -/
theorem parameters_merged (body : List UInt8) :
    (∀ query, Merges query body (parameters (some query) body)) ∧
      ∀ user, NamesUser body user → ∀ q₁ q₂ : Request, q₁.body = body → q₂.body = body →
        ∀ method route, methodOf? q₁.method = some method → methodOf? q₂.method = some method →
          ∃ r₁ r₂, LaunchRequest.ofParams method route q₁.params = .ok r₁ ∧
            LaunchRequest.ofParams method route q₂.params = .ok r₂ ∧
            (∀ {σ : Type} (b : Backend σ) (t : DispatchTable (Handler σ)),
              launch b t route q₁ = Stages.answer b t r₁ ∧
                launch b t route q₂ = Stages.answer b t r₂) ∧
            r₁.user = user ∧ r₂.user = user ∧ r₁.user.mayConfigure = r₂.user.mayConfigure := by
  refine ⟨fun query => merges_parameters query body, ?_⟩
  rintro user named q₁ q₂ rfl same method route known₁ known₂
  have made₁ : LaunchRequest.ofParams method route q₁.params = _ := ofParams_of_namesUser named ..
  have made₂ : LaunchRequest.ofParams method route q₂.params = _ :=
    ofParams_of_namesUser (same ▸ named) ..
  refine ⟨_, _, made₁, made₂, fun b t => ⟨?_, ?_⟩, rfl, rfl, rfl⟩
  · exact launch_of_ok known₁ made₁
  · exact launch_of_ok known₂ made₂

def postedByLearner (query : Option String) : Request where
  method := "POST"
  target := ⟨Route.ltiLaunches.path, query⟩
  body := Text.utf8 "user_id=first&roles=Learner&oauth_consumer_key=key".toList

/-- A query that claims to be from an instructor, with its names spelled in another way. -/
theorem parameters_merged_claimedRole :
    let learner : User := { userId := "first", consumerKey := "key", roles := "Learner" }
    let claim := some "roles=Instructor&r%6Fles=Instructor&user_id=second&oauth_consumer_key=other"
    NamesUser (postedByLearner none).body learner ∧
      ∃ r₁ r₂, LaunchRequest.ofParams .post .ltiLaunches (postedByLearner none).params = .ok r₁ ∧
        LaunchRequest.ofParams .post .ltiLaunches (postedByLearner claim).params = .ok r₂ ∧
        r₁.user = learner ∧ r₂.user = learner ∧ r₂.user.mayConfigure = false := by
  intro learner claim
  have named : NamesUser (postedByLearner none).body learner :=
    ⟨by decide +kernel, by decide, by decide +kernel, by decide +kernel⟩
  obtain ⟨r₁, r₂, made₁, made₂, -, user₁, user₂, -⟩ :=
    (parameters_merged (postedByLearner none).body).2 learner named (postedByLearner none)
      (postedByLearner claim) rfl rfl .post .ltiLaunches rfl rfl
  exact ⟨named, r₁, r₂, made₁, made₂, user₁, user₂, by rw [user₂]; decide⟩

end Http

end LtiLaunch
