import LtiLaunch.Json5.Parser
import LtiLaunch.Proofs.Json.Numbers

/-!
# Whole numbers in JSON5

A whole number that can be read from JSON5 has the size of a word: a numeral beyond that is no
token, and the text is not read at all.
-/

namespace LtiLaunch

/-- A whole number of the size of a word, or any double. -/
def Number.FitsWord : Number → Prop
  | int n => Json.fitsWord n = true
  | double _ => True

namespace Text

theorem exists_of_mem_tokens? {τ : Type} {take? : List Char → Option (τ × List Char)}
    {cs : List Char} {ts : List τ} {t : τ} (lexed : tokens? take? cs = some ts) (mem : t ∈ ts) :
    ∃ cs rest, take? cs = some (t, rest) := by
  fun_induction tokens? take? cs generalizing ts with
  | case1 =>
    cases lexed
    cases mem
  | case2 => cases lexed
  | case3 cs _ first rest taken _ ih =>
    obtain ⟨later, others, rfl⟩ := Option.map_eq_some_iff.mp lexed
    rcases List.mem_cons.mp mem with rfl | mem
    · exact ⟨cs, rest, taken⟩
    · exact ih others mem
  | case4 => cases lexed

end Text

namespace Json5

open Json (EachNumber Token)
open Number (FitsWord)

theorem fitsWord_of_fitsSigned {n : Int} (fits : fitsSigned n = true) :
    Json.fitsWord n = true := by
  unfold fitsSigned at fits
  unfold Json.fitsWord
  rw [Bool.and_eq_true, decide_eq_true_iff, decide_eq_true_iff] at fits ⊢
  omega

theorem eachNumber_value? {l : Literal} {v : Json} (value : l.value? = some v) :
    EachNumber FitsWord v := by
  unfold Literal.value? at value
  split at value
  · obtain ⟨small, same⟩ := Option.ite_none_right_eq_some.mp value
    cases same
    refine .num (fitsWord_of_fitsSigned ?_)
    have bound := (Bool.and_eq_true_iff.mp small).2
    have size : Nat.pow 2 32 = 0x100000000 := rfl
    rw [decide_eq_true_iff, size] at bound
    unfold fitsSigned
    rw [Bool.and_eq_true, decide_eq_true_iff, decide_eq_true_iff]
    omega
  · split at value
    · cases value
    · cases value
      exact .null
  · split at value
    · obtain ⟨y, -, rfl⟩ := Option.map_eq_some_iff.mp value
      exact .num trivial
    · obtain ⟨fits, same⟩ := Option.ite_none_right_eq_some.mp value
      cases same
      exact .num (fitsWord_of_fitsSigned fits)

/-! ### Tokens -/

def Lexeme.EachNumber (P : Number → Prop) : Lexeme → Prop
  | .token t => t.EachNumber P
  | .value v => Json.EachNumber P v
  | .word _ => True

theorem eachNumber_takeString? {P : Number → Prop} {quote : Char} {cs rest : List Char}
    {x : Lexeme} (taken : takeString? quote cs = some (x, rest)) : x.EachNumber P := by
  simp only [takeString?, bind, Option.bind_eq_some_iff, Option.some.injEq, Prod.mk.injEq] at taken
  obtain ⟨_, -, _, -, rfl, -⟩ := taken
  nofun

theorem eachNumber_takeWord? {P : Number → Prop} {cs rest : List Char} {x : Lexeme}
    (taken : takeWord? cs = some (x, rest)) : x.EachNumber P := by
  obtain ⟨-, taken⟩ := Option.ite_none_right_eq_some.mp taken
  split at taken
  · cases taken
  · cases taken
    trivial

theorem eachNumber_takeLexeme? {cs rest : List Char} {x : Lexeme}
    (taken : takeLexeme? cs = some (x, rest)) : x.EachNumber FitsWord := by
  unfold takeLexeme? at taken
  split at taken
  case h_7 | h_8 => exact eachNumber_takeString? taken
  case h_9 =>
    split at taken
    · simp only [bind, Option.bind_eq_some_iff, Option.some.injEq, Prod.mk.injEq] at taken
      obtain ⟨⟨l, r⟩, -, v, value, rfl, -⟩ := taken
      exact eachNumber_value? value
    · exact eachNumber_takeWord? taken
  case h_10 => cases taken
  all_goals
    cases taken
    nofun

theorem eachNumber_valueToken {P : Number → Prop} {v : Json} (each : EachNumber P v) :
    (valueToken v).EachNumber P := by
  cases each with
  | num holds => 
    intro n same
    cases same
    exact holds
  | _ => nofun

theorem eachNumber_literal? {P : Number → Prop} {ps : List Json.Text.Piece} {t : Token}
    (literal : literal? ps = some t) : t.EachNumber P := by
  unfold literal? at literal
  repeat' split at literal
  all_goals
    cases literal
  all_goals
    nofun

theorem eachNumber_settle? {P : Number → Prop} {xs : List Lexeme} {ts : List Token}
    (lexemes : ∀ x ∈ xs, x.EachNumber P) (settled : settle? xs = some ts) :
    ∀ t ∈ ts, t.EachNumber P := by
  fun_induction settle? xs generalizing ts with
  | case1 =>
    cases settled
    nofun
  | case2 ps rest ih =>
    simp only [bind, Option.bind_eq_some_iff, Option.some.injEq] at settled
    obtain ⟨name, -, us, others, rfl⟩ := settled
    have rest := (List.forall_mem_cons.mp (List.forall_mem_cons.mp lexemes).2).2
    exact List.forall_mem_cons.mpr ⟨nofun, List.forall_mem_cons.mpr ⟨nofun, ih rest others⟩⟩
  | case3 ps rest _ ih =>
    simp only [bind, Option.bind_eq_some_iff, Option.some.injEq] at settled
    obtain ⟨t, literal, us, others, rfl⟩ := settled
    have rest := (List.forall_mem_cons.mp lexemes).2
    exact List.forall_mem_cons.mpr ⟨eachNumber_literal? literal, ih rest others⟩
  | case4 t rest ih =>
    obtain ⟨us, others, rfl⟩ := Option.map_eq_some_iff.mp settled
    obtain ⟨first, rest⟩ := List.forall_mem_cons.mp lexemes
    exact List.forall_mem_cons.mpr ⟨first, ih rest others⟩
  | case5 v rest ih =>
    obtain ⟨us, others, rfl⟩ := Option.map_eq_some_iff.mp settled
    obtain ⟨first, rest⟩ := List.forall_mem_cons.mp lexemes
    exact List.forall_mem_cons.mpr ⟨eachNumber_valueToken first, ih rest others⟩

theorem eachNumber_lex? {cs : List Char} {ts : List Token} (lexed : lex? cs = some ts) :
    ∀ t ∈ ts, t.EachNumber FitsWord := by
  simp only [lex?, bind, Option.bind_eq_some_iff] at lexed
  obtain ⟨cs, -, xs, lexed, settled⟩ := lexed
  refine eachNumber_settle? (fun x mem => ?_) settled
  obtain ⟨cs, rest, taken⟩ := Text.exists_of_mem_tokens? lexed mem
  simp only [takeAndSkip?, bind, Option.bind_eq_some_iff, Option.some.injEq, Prod.mk.injEq] at taken
  obtain ⟨⟨x, r⟩, taken, _, -, rfl, -⟩ := taken
  exact eachNumber_takeLexeme? taken

/-- Whole numbers in a text that is read have the size of a word. -/
theorem eachNumber_parse? {text : String} {v : Json} (read : parse? text = some v) :
    EachNumber FitsWord v := by
  obtain ⟨ts, lexed, read⟩ := Option.bind_eq_some_iff.mp read
  exact Json.eachNumber_ofTokens? (eachNumber_lex? lexed) read

end Json5

end LtiLaunch
