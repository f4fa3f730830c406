import LtiLaunch.Proofs.Views.DecisionTable

/-!
# What the default views reply

The reply to a launch as a function of what the backend answers and of the settings. The picker's
credentials are in the replies to those who may configure, and in no others.
-/

namespace LtiLaunch

variable {σ : Type}

namespace Stages

variable {W : σ → Prop} {b : Backend σ} {t : DispatchTable (Handler σ)} {r : LaunchRequest}

theorem yields_answer_of_error {e : LaunchError} (journals : b.Journals W)
    (failed : Yields W (Selection.choose b t r) (.error e)) : Yields W (answer b t r) (.error e) :=
  Yields.bind (journals _) (Yields.bind_error failed)

end Stages

namespace DefaultViews

def replyToSelection (a : Answers) (v : Settings) (r : LaunchRequest) : Except LaunchError View := do
  a.prepareAll r provision
  a.contentItemSelection (launchUrl v) v.credentials r

def replyToLaunch (a : Answers) (v : Settings) (r : LaunchRequest) : Except LaunchError View := do
  match ← a.found r with
  | some document =>
    a.prepareAll r provision
    return ⟨Screens.configuredRenderer, document.toJson.canonical⟩
  | none =>
    if r.user.mayConfigure then
      a.prepareAll r provision
      a.unconfigured (launchUrl v) v.credentials r
    else return Screens.unauthorizedView

/-- The reply, given the answers of the backend. -/
def reply (a : Answers) (v : Settings) (r : LaunchRequest) : Except LaunchError View :=
  if Idle a r then .error (.notFound ("no launch view matches " ++ r.key.text))
  else match r.route with
    | .contentItemSelection => replyToSelection a v r
    | .ltiLaunches => replyToLaunch a v r

variable {W : σ → Prop} {b : Backend σ} {a : Answers} {r : LaunchRequest}

theorem busy_cases (busy : ¬ Idle a r) :
    r.key = .post r.route ∧ a.flag newOauth r = true ∧
      (r.route = .contentItemSelection → r.user.mayConfigure = true) := by
  simp only [Idle, not_or, not_and, Bool.not_eq_false] at busy
  obtain ⟨get, flag, authorized⟩ := busy
  have key : r.key = .post r.route := by
    unfold LaunchRequest.key
    cases method : r.method with
    | get => exact absurd method get
    | post => rfl
  exact ⟨key, flag, fun route => authorized (by rw [key, route])⟩

theorem resolve_of_found {c : AssignedDocument} (found : a.found r = .ok (some c)) :
    a.resolve r = .ok (some c) := by
  unfold Answers.found at found
  cases resolved : a.resolve r with
  | error e =>
    rw [resolved] at found
    cases found
  | ok document =>
    rw [resolved] at found
    exact found

theorem yields_replyToSelection (h : b.Follows W a) (v : Settings)
    (key : r.key = .post .contentItemSelection) (flag : a.flag newOauth r = true)
    (role : r.user.mayConfigure = true) :
    Yields W (Stages.answer b (table v b) r) (replyToSelection a v r) :=
  Stages.yields_answer h (select_eq_selection key flag role)
    (Screens.yields_contentItemSelection h _ _ r)

theorem yields_replyToLaunch (h : b.Follows W a) (v : Settings)
    (key : r.key = .post .ltiLaunches) (flag : a.flag newOauth r = true) :
    Yields W (Stages.answer b (table v b) r) (replyToLaunch a v r) := by
  unfold replyToLaunch
  cases found : a.found r with
  | error e =>
    have failed := Selection.yields_choose h (table v b) r
    rw [select_eq_guardFailure key flag found] at failed
    exact Stages.yields_answer_of_error h.journal failed
  | ok document =>
    cases document with
    | some c =>
      exact Stages.yields_answer h (select_eq_configured key flag found)
        (Screens.yields_configured h (resolve_of_found found))
    | none =>
      have select := select_eq_unconfigured (v := v) (b := b) key flag found
      cases role : r.user.mayConfigure with
      | true =>
        rw [role] at select
        exact Stages.yields_answer h select (Screens.yields_unconfigured h _ _ r)
      | false =>
        rw [role] at select
        exact Stages.yields_answer h select (Screens.yields_unauthorized h r)

theorem yields_reply (h : b.Follows W a) (v : Settings) (r : LaunchRequest) :
    Yields W (Stages.answer b (table v b) r) (reply a v r) := by
  unfold reply
  split
  · next idle =>
    exact Stages.yields_answer_of_error h.journal (Selection.yields_choose_of_cheap
      (fun name => h.flag name r) h.journal (refused_of_idle v b idle))
  · next busy =>
    obtain ⟨key, flag, authorized⟩ := busy_cases busy
    cases route : r.route with
    | contentItemSelection =>
      rw [route] at key
      exact yields_replyToSelection h v key flag (authorized route)
    | ltiLaunches =>
      rw [route] at key
      exact yields_replyToLaunch h v key flag

/-- The credentials are not in the reply to a user who may not configure. -/
theorem reply_of_unauthorized (a : Answers) (url : String) (x y : PickerCredentials)
    (role : r.user.mayConfigure = false) : reply a ⟨url, x⟩ r = reply a ⟨url, y⟩ r := by
  unfold reply
  split
  · rfl
  · next busy =>
    obtain ⟨-, -, authorized⟩ := busy_cases busy
    cases route : r.route with
    | contentItemSelection =>
      rw [authorized route] at role
      cases role
    | ltiLaunches =>
      unfold replyToLaunch
      simp only [role]
      rfl

end DefaultViews

end LtiLaunch
