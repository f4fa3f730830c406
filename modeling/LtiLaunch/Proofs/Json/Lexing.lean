import LtiLaunch.Json.Token

/-!
# Lexing what was written

The tokens of a written value are found again in its text. A numeral ends where a token that can
follow a value begins, so each token is found in front of any text of that kind.
-/

namespace LtiLaunch

/-! ### Strings -/

namespace Json.Text

/-- The piece that a written character is read as. -/
def pieceOf (c : Char) : Piece :=
  if c.toNat < 0x20 ∧ c ∉ ['\x08', '\x0c', '\n', '\r', '\t'] then .unit c.toNat else .char c

theorem hexQuad?_hexDigit :
    ∀ n < 0x20, hexQuad? '0' '0' (hexDigit (n / 16)) (hexDigit (n % 16)) = some n := by decide

theorem scan?_plain {c : Char} (quote : c ≠ '"') (backslash : c ≠ '\\') (printable : ¬ c.toNat < 0x20)
    (rest : List Char) :
    scan? (c :: rest) = (scan? rest).map fun p => (.char c :: p.1, p.2) := by
  rw [scan?.eq_def]
  split
  · next empty => cases empty
  · next same => exact absurd (List.cons.inj same).1 quote
  · next same => exact absurd (List.cons.inj same).1 backslash
  · next same => exact absurd (List.cons.inj same).1 backslash
  · next same =>
    obtain ⟨rfl, rfl⟩ := List.cons.inj same
    rw [if_neg (not_or.mpr ⟨printable, backslash⟩)]
    cases scan? rest <;> rfl

theorem scan?_short {e c : Char} (short : shortEscape? e = some c) (rest : List Char) :
    scan? ('\\' :: e :: rest) = (scan? rest).map fun p => (.char c :: p.1, p.2) := by
  have other : e ≠ 'u' := by
    rintro rfl
    cases short
  rw [scan?.eq_def]
  split
  · next empty => cases empty
  · next same => exact absurd (List.cons.inj same).1 (by decide)
  · next same => exact absurd (List.cons.inj (List.cons.inj same).2).1 other
  · next same =>
    obtain ⟨rfl, rfl⟩ := List.cons.inj (List.cons.inj same).2
    rw [short]
    cases scan? rest <;> rfl
  · next other same =>
    obtain ⟨rfl, rfl⟩ := List.cons.inj same
    exact (other e rest rfl rfl).elim

theorem scan?_control {c : Char} (control : c.toNat < 0x20) (rest : List Char) :
    scan? ('\\' :: 'u' :: '0' :: '0' :: hexDigit (c.toNat / 16) :: hexDigit (c.toNat % 16) :: rest) =
      (scan? rest).map fun p => (.unit c.toNat :: p.1, p.2) := by
  rw [scan?, hexQuad?_hexDigit c.toNat control]
  cases scan? rest <;> rfl

/-- How a character is written: with a short escape, with its code, or as it is. -/
theorem escapeChar_cases (c : Char) :
    (∃ e, shortEscape? e = some c ∧ escapeChar c = ['\\', e] ∧ pieceOf c = .char c) ∨
      (c.toNat < 0x20 ∧
        escapeChar c = ['\\', 'u', '0', '0', hexDigit (c.toNat / 16), hexDigit (c.toNat % 16)] ∧
        pieceOf c = .unit c.toNat) ∨
      (c ≠ '"' ∧ c ≠ '\\' ∧ ¬ c.toNat < 0x20 ∧ escapeChar c = [c] ∧ pieceOf c = .char c) := by
  by_cases short : c ∈ ['"', '\\', '\x08', '\x0c', '\n', '\r', '\t']
  · simp only [List.mem_cons, List.not_mem_nil, or_false] at short
    rcases short with rfl | rfl | rfl | rfl | rfl | rfl | rfl
    · exact .inl ⟨'"', rfl, rfl, rfl⟩
    · exact .inl ⟨'\\', rfl, rfl, rfl⟩
    · exact .inl ⟨'b', rfl, rfl, rfl⟩
    · exact .inl ⟨'f', rfl, rfl, rfl⟩
    · exact .inl ⟨'n', rfl, rfl, rfl⟩
    · exact .inl ⟨'r', rfl, rfl, rfl⟩
    · exact .inl ⟨'t', rfl, rfl, rfl⟩
  · simp only [List.mem_cons, List.not_mem_nil, or_false, not_or] at short
    obtain ⟨quote, backslash, b, f, n, r, t⟩ := short
    unfold escapeChar pieceOf
    rw [if_neg quote, if_neg backslash, if_neg b, if_neg f, if_neg n, if_neg r, if_neg t]
    by_cases control : c.toNat < 0x20
    · exact .inr (.inl ⟨control, if_pos control, if_pos ⟨control, by simp [b, f, n, r, t]⟩⟩)
    · exact .inr (.inr ⟨quote, backslash, control, if_neg control, if_neg fun both => control both.1⟩)

theorem scan?_escapeChar (c : Char) (rest : List Char) :
    scan? (escapeChar c ++ rest) = (scan? rest).map fun p => (pieceOf c :: p.1, p.2) := by
  rcases escapeChar_cases c with ⟨e, short, written, piece⟩ | ⟨control, written, piece⟩ |
    ⟨quote, backslash, printable, written, piece⟩
  · rw [written, piece]
    exact scan?_short short rest
  · rw [written, piece]
    exact scan?_control control rest
  · rw [written, piece]
    exact scan?_plain quote backslash printable rest

theorem scan?_flatMap_escapeChar (cs rest : List Char) :
    scan? (cs.flatMap escapeChar ++ '"' :: rest) = some (cs.map pieceOf, rest) := by
  induction cs with
  | nil => rw [List.flatMap_nil, List.nil_append, scan?]; rfl
  | cons c cs ih =>
    rw [List.flatMap_cons, List.append_assoc, scan?_escapeChar, ih]
    rfl

theorem assemble?_unit {n : Nat} (small : n < 0x20) (ps : List Piece) :
    assemble? (.unit n :: ps) = (assemble? ps).map (Char.ofNat n :: ·) := by
  have high : isHigh n = false := by simp [isHigh]; omega
  have low : isLow n = false := by simp [isLow]; omega
  cases ps with
  | nil => simp [assemble?, high, low]
  | cons p ps => cases p <;> simp [assemble?, high, low]

theorem assemble?_pieceOf (cs : List Char) : assemble? (cs.map pieceOf) = some cs := by
  induction cs with
  | nil => rfl
  | cons c cs ih =>
    rw [List.map_cons, pieceOf]
    split
    · next control =>
      rw [assemble?_unit control.1, ih, Char.ofNat_toNat]
      rfl
    · rw [assemble?, ih]
      rfl

end Json.Text

/-! ### Numbers -/

namespace Decimal

theorem head?_digits_ne_zero {n : Nat} (positive : 0 < n) : (digits n).head? ≠ some 0 := by
  induction n using digits.induct with
  | case1 n small =>
    rw [digits, if_pos small, List.head?_cons]
    intro zero
    cases zero
    cases positive
  | case2 n large ih =>
    rw [digits, if_neg large]
    have first := ih (by omega)
    cases upper : digits (n / 10) with
    | nil => exact absurd upper (digits_ne_nil _)
    | cons d ds =>
      rw [upper] at first
      exact first

theorem digitChar_ne_zero : ∀ d < 10, d ≠ 0 → digitChar d ≠ '0' := by decide

theorem digitChar_ne_minus : ∀ d < 10, digitChar d ≠ '-' := by decide

end Decimal

namespace Json

/-- What can follow a value: nothing, or text that begins with one of these characters. -/
def Ends (rest : List Char) : Prop := ∀ c, rest.head? = some c → c ∈ [',', ']', '\x7d']

theorem Ends.nil : Ends [] := fun _ none => by cases none

theorem Ends.cons {c : Char} (ending : c ∈ [',', ']', '\x7d']) (rest : List Char) : Ends (c :: rest) :=
  fun _ same => Option.some.inj same ▸ ending

theorem Ends.digitValue? {rest : List Char} (ends : Ends rest) :
    ∀ c, rest.head? = some c → Decimal.digitValue? c = none := by
  intro c head
  have ending := ends c head
  simp only [List.mem_cons, List.not_mem_nil, or_false] at ending
  rcases ending with rfl | rfl | rfl <;> decide

theorem takeWhole?_text (n : Nat) {rest : List Char} (ends : Ends rest) :
    takeWhole? (Decimal.text n ++ rest) = some (Decimal.digits n, rest) := by
  have taken := Decimal.takeDigits_append (Decimal.digits n) rest
    (fun d => Decimal.lt_ten_of_mem_digits) ends.digitValue?
  unfold Decimal.text
  by_cases zero : n = 0
  · subst zero
    have one : Decimal.digits 0 = [0] := by rw [Decimal.digits]; rfl
    rw [one]
    rfl
  · cases written : Decimal.digits n with
    | nil => exact absurd written (Decimal.digits_ne_nil n)
    | cons d ds =>
      have nonzero : d ≠ 0 := by
        rintro rfl
        exact Decimal.head?_digits_ne_zero (Nat.pos_of_ne_zero zero) (by rw [written]; rfl)
      have digit : d < 10 := Decimal.lt_ten_of_mem_digits (written ▸ List.mem_cons_self)
      rw [written] at taken
      unfold takeWhole?
      split
      · next same =>
        exact absurd (List.cons.inj same).1 (Decimal.digitChar_ne_zero d digit nonzero)
      · rw [taken]

theorem takeFraction?_of_ends {rest : List Char} (ends : Ends rest) :
    takeFraction? rest = some ([], rest) := by
  unfold takeFraction?
  split
  · next rest => exact absurd (ends '.' rfl) (by decide)
  · rfl

theorem takeExponent?_of_ends {rest : List Char} (ends : Ends rest) :
    takeExponent? rest = some (none, rest) := by
  cases rest with
  | nil => rfl
  | cons c rest =>
    have ending := ends c rfl
    rw [takeExponent?, if_neg]
    rintro (rfl | rfl) <;> exact absurd ending (by decide)

theorem takeMinus_text (n : Nat) (rest : List Char) :
    takeMinus (Decimal.text n ++ rest) = (false, Decimal.text n ++ rest) := by
  unfold Decimal.text
  cases written : Decimal.digits n with
  | nil => exact absurd written (Decimal.digits_ne_nil n)
  | cons d ds =>
    have digit : d < 10 := Decimal.lt_ten_of_mem_digits (written ▸ List.mem_cons_self)
    unfold takeMinus
    split
    · next same => exact absurd (List.cons.inj same).1 (Decimal.digitChar_ne_minus d digit)
    · rfl

theorem takeNumeral?_intText (n : Int) {rest : List Char} (ends : Ends rest) :
    takeNumeral? (Decimal.intText n ++ rest) =
      some (⟨decide (n < 0), Decimal.digits n.natAbs, [], none⟩, rest) := by
  have minus : takeMinus (Decimal.intText n ++ rest) =
      (decide (n < 0), Decimal.text n.natAbs ++ rest) := by
    unfold Decimal.intText
    by_cases negative : n < 0
    · rw [if_pos negative, decide_eq_true negative]
      rfl
    · rw [if_neg negative, decide_eq_false negative]
      exact takeMinus_text _ _
  unfold takeNumeral?
  rw [minus, takeWhole?_text _ ends]
  simp only [bind, Option.bind_some]
  rw [takeFraction?_of_ends ends]
  simp only [Option.bind_some]
  rw [takeExponent?_of_ends ends]
  rfl

theorem numberOf?_intText {n : Int} (fits : fitsWord n = true) :
    numberOf? ⟨decide (n < 0), Decimal.digits n.natAbs, [], none⟩ = some (.int n) := by
  have value : (if decide (n < 0) = true then -(n.natAbs : Int) else n.natAbs) = n := by
    by_cases negative : n < 0
    · rw [if_pos (decide_eq_true negative)]
      omega
    · rw [if_neg (by simpa using negative)]
      omega
  have exact : (decide (n < 0) && n == 0) = false := by
    by_cases zero : n = 0
    · simp [zero]
    · simp [zero]
  unfold numberOf?
  simp only [Decimal.ofDigits_digits]
  rw [value, fits, exact]
  rfl

/-! ### Tokens -/

def numeralStarts : List Char := ['-', '0', '1', '2', '3', '4', '5', '6', '7', '8', '9']

theorem digitChar_mem_numeralStarts : ∀ d < 10, Decimal.digitChar d ∈ numeralStarts := by decide

theorem exists_intText (n : Int) : ∃ c cs, Decimal.intText n = c :: cs ∧ c ∈ numeralStarts := by
  unfold Decimal.intText Decimal.text
  split
  · exact ⟨'-', _, rfl, by decide⟩
  · cases written : Decimal.digits n.natAbs with
    | nil => exact absurd written (Decimal.digits_ne_nil _)
    | cons d ds =>
      have digit : d < 10 := Decimal.lt_ten_of_mem_digits (written ▸ List.mem_cons_self)
      exact ⟨Decimal.digitChar d, _, rfl, digitChar_mem_numeralStarts d digit⟩

theorem takeToken?_numeral {c : Char} (start : c ∈ numeralStarts) (rest : List Char) :
    takeToken? (c :: rest) =
      (takeNumeral? (c :: rest)).map fun p => (.num (numberOf? p.1), p.2) := by
  unfold takeToken?
  split
  case h_11 => rfl
  all_goals
    next same =>
      rw [(List.cons.inj same).1] at start
      exact absurd start (by decide)

theorem lex?_of_takeToken? {c : Char} {cs r : List Char} {t : Token} (dark : isSpace c = false)
    (taken : takeToken? (c :: cs) = some (t, r)) : lex? (c :: cs) = (lex? r).map (t :: ·) := by
  rw [lex?, if_neg (by simp [dark])]
  split
  · next none => rw [none] at taken; cases taken
  · next some =>
    rw [some] at taken
    cases taken
    rfl

theorem lex?_str (s : String) (rest : List Char) :
    lex? (Token.chars (.str (some s)) ++ rest) = (lex? rest).map (.str (some s) :: ·) := by
  have text : Token.chars (.str (some s)) ++ rest =
      '"' :: (s.toList.flatMap Text.escapeChar ++ '"' :: rest) := by
    change '"' :: (_ ++ ['"']) ++ rest = _
    rw [List.cons_append, List.append_assoc]
    rfl
  rw [text]
  refine lex?_of_takeToken? rfl ?_
  change (Text.scan? _).map _ = _
  rw [Text.scan?_flatMap_escapeChar, Option.map_some, Text.assemble?_pieceOf, Option.map_some,
    String.ofList_toList]

theorem lex?_int {n : Int} (fits : fitsWord n = true) {rest : List Char} (ends : Ends rest) :
    lex? (Token.chars (.num (some (.int n))) ++ rest) =
      (lex? rest).map (.num (some (.int n)) :: ·) := by
  change lex? (Decimal.intText n ++ rest) = _
  have numeral := takeNumeral?_intText n ends
  obtain ⟨c, cs, written, start⟩ := exists_intText n
  have dark : isSpace c = false := by
    have none : numeralStarts.all (!isSpace ·) = true := by decide
    simpa using List.all_eq_true.mp none c start
  rw [written, List.cons_append] at numeral ⊢
  refine lex?_of_takeToken? dark ?_
  rw [takeToken?_numeral start, numeral, Option.map_some, numberOf?_intText fits]

/-! ### Values -/

mutual

/-- Whether the value can be read back: its numbers are whole and are kept exactly. -/
def faithful : Json → Bool
  | num (.int n) => fitsWord n
  | num (.double _) => false
  | arr xs => faithfulAll xs
  | obj ms => faithfulMembers ms
  | unreadable => false
  | _ => true

def faithfulAll : List Json → Bool
  | [] => true
  | x :: xs => x.faithful && faithfulAll xs

def faithfulMembers : List (String × Json) → Bool
  | [] => true
  | (_, x) :: ms => x.faithful && faithfulMembers ms

end

/-- The tokens are found again in their text when `rest` comes after it. -/
def Lexes (ts : List Token) (rest : List Char) : Prop :=
  lex? (ts.flatMap Token.chars ++ rest) = (lex? rest).map (ts ++ ·)

namespace Lexes

variable {rest : List Char} {ts us : List Token}

theorem nil (rest : List Char) : Lexes [] rest := by
  unfold Lexes
  rw [List.flatMap_nil, List.nil_append]
  cases lex? rest <;> rfl

theorem single {t : Token} (h : lex? (t.chars ++ rest) = (lex? rest).map (t :: ·)) :
    Lexes [t] rest := by
  unfold Lexes
  rw [List.flatMap_singleton, h]
  rfl

theorem append (first : Lexes ts (us.flatMap Token.chars ++ rest)) (last : Lexes us rest) :
    Lexes (ts ++ us) rest := by
  unfold Lexes at first last ⊢
  rw [List.flatMap_append, List.append_assoc, first, last, Option.map_map]
  simp only [Function.comp_def, List.append_assoc]

theorem cons {t : Token} (first : Lexes [t] (us.flatMap Token.chars ++ rest))
    (last : Lexes us rest) : Lexes (t :: us) rest :=
  append first last

theorem str (s : String) (rest : List Char) : Lexes [.str (some s)] rest := single (lex?_str s rest)

theorem mark {t : Token} {c : Char} (chars : t.chars = [c]) (dark : isSpace c = false)
    (taken : ∀ rest, takeToken? (c :: rest) = some (t, rest)) (rest : List Char) :
    Lexes [t] rest := by
  refine single ?_
  rw [chars]
  exact lex?_of_takeToken? dark (taken rest)

end Lexes

mutual

theorem lexes_tokens (v : Json) {rest : List Char} (faithful : v.faithful = true)
    (ends : Ends rest) : Lexes v.tokens rest := by
  match v with
  | .null => exact Lexes.single (lex?_of_takeToken? rfl rfl)
  | .bool true => exact Lexes.single (lex?_of_takeToken? rfl rfl)
  | .bool false => exact Lexes.single (lex?_of_takeToken? rfl rfl)
  | .num (.int n) =>
    rw [Json.faithful] at faithful
    exact Lexes.single (lex?_int faithful ends)
  | .num (.double _) => cases faithful
  | .str s => exact Lexes.str s rest
  | .arr xs =>
    rw [Json.faithful] at faithful
    rw [tokens]
    refine Lexes.cons (Lexes.mark rfl rfl (fun _ => rfl) _) (Lexes.append ?_ ?_)
    · exact lexes_elementTokens xs faithful (Ends.cons (by decide) _)
    · exact Lexes.mark rfl rfl (fun _ => rfl) rest
  | .obj ms =>
    rw [Json.faithful] at faithful
    rw [tokens]
    refine Lexes.cons (Lexes.mark rfl rfl (fun _ => rfl) _) (Lexes.append ?_ ?_)
    · exact lexes_memberTokens ms faithful (Ends.cons (by decide) _)
    · exact Lexes.mark rfl rfl (fun _ => rfl) rest
  | .unreadable => cases faithful

theorem lexes_elementTokens (xs : List Json) {rest : List Char} (faithful : faithfulAll xs = true)
    (ends : Ends rest) : Lexes (elementTokens xs) rest := by
  match xs with
  | [] => exact Lexes.nil rest
  | [x] =>
    rw [faithfulAll, Bool.and_eq_true] at faithful
    exact lexes_tokens x faithful.1 ends
  | x :: y :: xs =>
    rw [faithfulAll, Bool.and_eq_true] at faithful
    rw [elementTokens]
    refine Lexes.append (lexes_tokens x faithful.1 (Ends.cons (by decide) _)) ?_
    refine Lexes.cons (Lexes.mark rfl rfl (fun _ => rfl) _) ?_
    exact lexes_elementTokens (y :: xs) faithful.2 ends

theorem lexes_memberTokens (ms : List (String × Json)) {rest : List Char}
    (faithful : faithfulMembers ms = true) (ends : Ends rest) : Lexes (memberTokens ms) rest := by
  match ms with
  | [] => exact Lexes.nil rest
  | [(k, x)] =>
    rw [faithfulMembers, Bool.and_eq_true] at faithful
    rw [memberTokens]
    refine Lexes.cons (Lexes.str k _) (Lexes.cons (Lexes.mark rfl rfl (fun _ => rfl) _) ?_)
    exact lexes_tokens x faithful.1 ends
  | (k, x) :: m :: ms =>
    rw [faithfulMembers, Bool.and_eq_true] at faithful
    rw [memberTokens]
    refine Lexes.cons (Lexes.str k _) (Lexes.cons (Lexes.mark rfl rfl (fun _ => rfl) _) ?_)
    refine Lexes.append (lexes_tokens x faithful.1 (Ends.cons (by decide) _)) ?_
    refine Lexes.cons (Lexes.mark rfl rfl (fun _ => rfl) _) ?_
    exact lexes_memberTokens (m :: ms) faithful.2 ends

end

theorem lex?_render (v : Json) (faithful : v.faithful = true) :
    lex? v.render.toList = some v.tokens := by
  have lexed := lexes_tokens v faithful Ends.nil
  unfold Lexes at lexed
  rw [List.append_nil] at lexed
  rw [render, String.toList_ofList, lexed, lex?]
  simp

end Json

end LtiLaunch
