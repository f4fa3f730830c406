import LtiLaunch.Dispatch.Stages
import LtiLaunch.Proofs.Launch.Answers

/-!
# Plain selection

Selection without a memo: the candidates one after the other, the guards of each from the first on,
and the document resolved afresh for every guard that asks about it. `yields_choose` says that the
selection that remembers the document comes to the same.
-/

namespace LtiLaunch

variable {σ η : Type}

namespace Answers

/-- The document of the assignment, as a guard finds it. -/
def found (a : Answers) (r : LaunchRequest) : Except LaunchError (Option AssignedDocument) :=
  (a.resolve r).mapError Selection.guardFailure

def guardHolds (a : Answers) (r : LaunchRequest) : Guard → Except LaunchError Bool
  | .flag name enabled => .ok (a.flag name r == enabled)
  | .predicate .mayConfigure expected => .ok (r.user.mayConfigure == expected)
  | .predicate (.document p) expected => (a.found r).map fun document => p.holds document == expected

/-- Whether all the guards pass, the first one that does not ending the matter. -/
def allHold (a : Answers) (r : LaunchRequest) : List Guard → Except LaunchError Bool
  | [] => .ok true
  | g :: gs =>
    match a.guardHolds r g with
    | .ok true => a.allHold r gs
    | .ok false => .ok false
    | .error e => .error e

def firstMatch (a : Answers) (r : LaunchRequest) :
    List (Candidate η) → Except LaunchError (Option (Candidate η))
  | [] => .ok none
  | c :: cs =>
    match a.allHold r c.guards.guards with
    | .ok true => .ok (some c)
    | .ok false => a.firstMatch r cs
    | .error e => .error e

def select (a : Answers) (r : LaunchRequest) (cs : List (Candidate η)) :
    Except LaunchError (Candidate η) :=
  match a.firstMatch r cs with
  | .ok (some c) => .ok c
  | .ok none => .error (.notFound ("no launch view matches " ++ r.key.text))
  | .error e => .error e

end Answers

namespace Selection

variable {W : σ → Prop} {b : Backend σ} {a : Answers}

def Right (a : Answers) (r : LaunchRequest) (memo : Memo) : Prop :=
  ∀ document, memo = some document → a.found r = .ok document

theorem right_none (a : Answers) (r : LaunchRequest) : Right a r none := fun _ same => by cases same

theorem right_some {r : LaunchRequest} {document : Option AssignedDocument}
    (h : a.found r = .ok document) : Right a r (some document) :=
  fun _ same => by cases same; exact h

theorem yields_document (h : b.Follows W a) {r : LaunchRequest} {memo : Memo}
    (right : Right a r memo) : Yields W (document b r memo) (a.found r) := by
  unfold document
  cases memo with
  | some remembered =>
    rw [right remembered rfl]
    exact Yields.pure
  | none =>
    have asked := Signals.yields_resolve h r
    show Yields W _ ((a.resolve r).mapError guardFailure)
    cases answer : a.resolve r with
    | ok document =>
      rw [answer] at asked
      exact Yields.tryCatch_ok asked
    | error e =>
      rw [answer] at asked
      exact Yields.tryCatch_error asked Yields.throw

/-- What comes of evaluating guards with a memo: the answer `e`, and again a memo that is right. -/
def Comes (a : Answers) (r : LaunchRequest) (e : Except LaunchError Bool)
    (o : Except LaunchError (Bool × Memo)) : Prop :=
  o.map Prod.fst = e ∧ ∀ p, o = .ok p → Right a r p.2

theorem Comes.ok {r : LaunchRequest} {pass : Bool} {memo : Memo} (right : Right a r memo) :
    Comes a r (.ok pass) (.ok (pass, memo)) :=
  ⟨rfl, fun _ same => by cases same; exact right⟩

theorem Comes.error {r : LaunchRequest} {e : LaunchError} : Comes a r (.error e) (.error e) :=
  ⟨rfl, fun _ same => by cases same⟩

theorem always_passes (h : b.Follows W a) {r : LaunchRequest} {memo : Memo}
    (right : Right a r memo) (g : Guard) :
    Always W (passes b r memo g) (Comes a r (a.guardHolds r g)) := by
  match g with
  | .flag name enabled =>
    refine Always.bind (h.flag name r) (fun _ same => ?_) (fun _ same => by cases same)
    cases same
    exact Always.pure (Comes.ok right)
  | .predicate .mayConfigure expected => exact Always.pure (Comes.ok right)
  | .predicate (.document p) expected =>
    unfold Answers.guardHolds
    refine Always.bind (yields_document h right) (fun document same => ?_) (fun e same => ?_)
    · rw [← same]
      exact Always.pure (Comes.ok (right_some same.symm))
    · rw [← same]
      exact Comes.error

theorem always_passesAll (h : b.Follows W a) {r : LaunchRequest} {memo : Memo}
    (right : Right a r memo) (gs : List Guard) :
    Always W (passesAll b r memo gs) (Comes a r (a.allHold r gs)) := by
  induction gs generalizing memo with
  | nil => exact Always.pure (Comes.ok right)
  | cons g gs ih =>
    unfold passesAll Answers.allHold
    refine Always.bind (always_passes h right g) ?_ ?_
    · rintro ⟨pass, memo⟩ ⟨same, right⟩
      rw [← same]
      cases pass with
      | true => exact ih (right _ rfl)
      | false => exact Always.pure (Comes.ok (right _ rfl))
    · rintro e ⟨same, _⟩
      rw [← same]
      exact Comes.error

theorem yields_firstMatch (h : b.Follows W a) {r : LaunchRequest} {memo : Memo}
    (right : Right a r memo) (cs : List (Candidate η)) :
    Yields W (firstMatch b r memo cs) (a.firstMatch r cs) := by
  induction cs generalizing memo with
  | nil => exact Yields.pure
  | cons c cs ih =>
    unfold firstMatch Answers.firstMatch
    refine Always.bind (always_passesAll h right c.guards.guards) ?_ ?_
    · rintro ⟨pass, memo⟩ ⟨same, right⟩
      rw [← same]
      cases pass with
      | true => exact Yields.pure
      | false => exact ih (right _ rfl)
    · rintro e ⟨same, _⟩
      rw [← same]
      rfl

/-- The memo changes nothing about which candidate is chosen, nor about how the choice fails. -/
theorem yields_choose (h : b.Follows W a) (t : DispatchTable η) (r : LaunchRequest) :
    Yields W (choose b t r) (a.select r (t.candidates r.key)) := by
  have matched := yields_firstMatch h (right_none a r) (t.candidates r.key)
  unfold choose Answers.select
  cases answer : a.firstMatch r (t.candidates r.key) with
  | error e =>
    rw [answer] at matched
    exact Yields.bind_error matched
  | ok c =>
    rw [answer] at matched
    refine Yields.bind matched ?_
    cases c with
    | some c => exact Yields.bind (h.journal _) Yields.pure
    | none => exact Yields.bind (h.journal _) Yields.throw

end Selection

end LtiLaunch
