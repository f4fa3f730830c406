import LtiLaunch.Json.Parser
import LtiLaunch.Proofs.Json.Canonical

/-!
# The numbers in a value

What holds of every number among the tokens of a text holds of every number in the value that is read
from them: the reader puts values into the arrays and objects that are still open, and makes none.
-/

namespace LtiLaunch.Json

variable {P : Number → Prop}

/-- Every number in the value, however deep, satisfies `P`. -/
inductive EachNumber (P : Number → Prop) : Json → Prop
  | null : EachNumber P null
  | bool (b : Bool) : EachNumber P (bool b)
  | num {n : Number} (holds : P n) : EachNumber P (num n)
  | str (s : String) : EachNumber P (str s)
  | arr {xs : List Json} (all : ∀ x ∈ xs, EachNumber P x) : EachNumber P (arr xs)
  | obj {ms : List (String × Json)} (all : ∀ m ∈ ms, EachNumber P m.2) : EachNumber P (obj ms)
  | unreadable : EachNumber P unreadable

namespace EachNumber

theorem canonical {v : Json} (each : EachNumber P v) : EachNumber P v.canonical := by
  induction each with
  | arr all ih =>
    rw [Json.canonical, canonicalAll_eq_map]
    refine .arr fun x mem => ?_
    obtain ⟨u, given, rfl⟩ := List.mem_map.mp mem
    exact ih u given
  | obj all ih =>
    rw [Json.canonical]
    refine .obj fun m mem => ?_
    obtain ⟨n, mem, same⟩ := mem_canonicalMembers mem
    exact same ▸ ih n mem
  | num holds => exact .num holds
  | null | bool | str | unreadable => constructor

theorem member? {v x : Json} {name : String} (each : EachNumber P v)
    (given : v.member? name = some x) : EachNumber P x := by
  cases each with
  | obj all => exact all _ (mem_of_member? given)
  | _ => cases given

end EachNumber

/-! ### Reading -/

def Token.EachNumber (P : Number → Prop) (t : Token) : Prop := ∀ n, t = .num (some n) → P n

def Frame.EachNumber (P : Number → Prop) : Frame → Prop
  | .arr xs => ∀ x ∈ xs, Json.EachNumber P x
  | .obj ms _ => ∀ m ∈ ms, Json.EachNumber P m.2

def Progress.EachNumber (P : Number → Prop) : Progress → Prop
  | .value stack => ∀ f ∈ stack, f.EachNumber P
  | .element xs stack | .afterElement xs stack =>
    (∀ x ∈ xs, Json.EachNumber P x) ∧ ∀ f ∈ stack, f.EachNumber P
  | .nameOrEnd ms stack | .name ms stack | .colon ms _ stack | .afterMember ms stack =>
    (∀ m ∈ ms, Json.EachNumber P m.2) ∧ ∀ f ∈ stack, f.EachNumber P
  | .finished v => Json.EachNumber P v

theorem eachNumber_deliver {v : Json} {stack : List Frame} (value : EachNumber P v)
    (frames : ∀ f ∈ stack, f.EachNumber P) : (deliver v stack).EachNumber P := by
  cases stack with
  | nil => exact value
  | cons f stack =>
    obtain ⟨first, rest⟩ := List.forall_mem_cons.mp frames
    cases f with
    | arr xs => exact ⟨List.forall_mem_cons.mpr ⟨value, first⟩, rest⟩
    | obj ms k => exact ⟨List.forall_mem_cons.mpr ⟨value, first⟩, rest⟩

theorem eachNumber_arr {xs : List Json} (all : ∀ x ∈ xs, EachNumber P x) :
    EachNumber P (arr xs.reverse) :=
  .arr fun x mem => all x (List.mem_reverse.mp mem)

theorem eachNumber_ofMembers {ms : List (Option String × Json)}
    (all : ∀ m ∈ ms, EachNumber P m.2) : EachNumber P (ofMembers ms) := by
  unfold ofMembers
  split
  · next ns named =>
    refine .obj fun n mem => ?_
    obtain ⟨m, given, same⟩ := exists_of_mem_mapM named mem
    obtain ⟨k, -, rfl⟩ := Option.map_eq_some_iff.mp same
    exact all m (List.mem_reverse.mp given)
  · exact .unreadable

theorem eachNumber_scalar? {t : Token} {v : Json} (token : t.EachNumber P)
    (scalar : t.scalar? = some v) : EachNumber P v := by
  cases t with
  | num n =>
    cases n with
    | none =>
      cases scalar
      exact .unreadable
    | some n =>
      cases scalar
      exact .num (token n rfl)
  | str s =>
    cases s <;> cases scalar <;> constructor
  | null | bool =>
    cases scalar
    constructor
  | _ => cases scalar

theorem eachNumber_startValue? {t : Token} {stack : List Frame} {q : Progress}
    (token : t.EachNumber P) (frames : ∀ f ∈ stack, f.EachNumber P)
    (started : startValue? stack t = some q) : q.EachNumber P := by
  unfold startValue? at started
  split at started
  · cases started
    exact ⟨nofun, frames⟩
  · cases started
    exact ⟨nofun, frames⟩
  · obtain ⟨v, scalar, rfl⟩ := Option.map_eq_some_iff.mp started
    exact eachNumber_deliver (eachNumber_scalar? token scalar) frames

theorem eachNumber_step? {trailing : Bool} {p q : Progress} {t : Token} (token : t.EachNumber P)
    (before : p.EachNumber P) (step : step? trailing p t = some q) : q.EachNumber P := by
  unfold step? at step
  -- one case for each line of the reader's step, in its order
  split at step
  · exact eachNumber_startValue? token before step
  · cases step
    exact eachNumber_deliver (eachNumber_arr before.1) before.2
  · refine eachNumber_startValue? token ?_ step
    exact List.forall_mem_cons.mpr before
  · cases step
    split
    · exact before
    · exact List.forall_mem_cons.mpr before
  · cases step
    exact eachNumber_deliver (eachNumber_arr before.1) before.2
  · cases step
    exact eachNumber_deliver (eachNumber_ofMembers before.1) before.2
  · cases step
    exact before
  · cases step
    exact before
  · cases step
    exact List.forall_mem_cons.mpr before
  · cases step
    split <;> exact before
  · cases step
    exact eachNumber_deliver (eachNumber_ofMembers before.1) before.2
  · cases step

theorem eachNumber_foldlM {trailing : Bool} {ts : List Token} {p q : Progress}
    (tokens : ∀ t ∈ ts, t.EachNumber P) (before : p.EachNumber P)
    (run : ts.foldlM (step? trailing) p = some q) : q.EachNumber P := by
  induction ts generalizing p with
  | nil =>
    cases run
    exact before
  | cons t ts ih =>
    obtain ⟨first, rest⟩ := List.forall_mem_cons.mp tokens
    rw [List.foldlM_cons] at run
    obtain ⟨p', step, run⟩ := Option.bind_eq_some_iff.mp run
    exact ih rest (eachNumber_step? first before step) run

theorem eachNumber_ofTokens? {trailing : Bool} {ts : List Token} {v : Json}
    (tokens : ∀ t ∈ ts, t.EachNumber P) (read : ofTokens? trailing ts = some v) :
    EachNumber P v := by
  unfold ofTokens? at read
  split at read
  · next finished =>
    cases read
    exact eachNumber_foldlM tokens (p := .value []) nofun finished
  · cases read

end LtiLaunch.Json
