import LtiLaunch.Json.Number
import LtiLaunch.Json.Text

/-!
# JSON tokens

A JSON text is a sequence of tokens with white space between them. `lex?` finds the tokens of a text
and `Token.chars` writes one of them.
-/

namespace LtiLaunch.Json

/-- A token; a number or string of the right form can still stand for nothing. -/
inductive Token
  | leftBracket
  | rightBracket
  | leftBrace
  | rightBrace
  | comma
  | colon
  | null
  | bool (b : Bool)
  | num (n : Option Number)
  | str (s : Option String)
  deriving DecidableEq, Repr

/-- The first token of a text that does not start with white space, and what follows it. -/
def takeToken? : List Char → Option (Token × List Char)
  | '[' :: rest => some (.leftBracket, rest)
  | ']' :: rest => some (.rightBracket, rest)
  | '\x7b' :: rest => some (.leftBrace, rest)
  | '\x7d' :: rest => some (.rightBrace, rest)
  | ',' :: rest => some (.comma, rest)
  | ':' :: rest => some (.colon, rest)
  | 'n' :: 'u' :: 'l' :: 'l' :: rest => some (.null, rest)
  | 't' :: 'r' :: 'u' :: 'e' :: rest => some (.bool true, rest)
  | 'f' :: 'a' :: 'l' :: 's' :: 'e' :: rest => some (.bool false, rest)
  | '"' :: rest =>
    (Text.scan? rest).map (fun p => (.str ((Text.assemble? p.1).map String.ofList), p.2))
  | cs => (takeNumeral? cs).map (fun p => (.num (numberOf? p.1), p.2))

theorem length_of_takeToken? {cs r : List Char} {t : Token} (h : takeToken? cs = some (t, r)) :
    r.length < cs.length := by
  unfold takeToken? at h
  split at h
  case h_10 rest =>
    simp only [Option.map_eq_some_iff, Prod.mk.injEq] at h
    obtain ⟨⟨ps, r'⟩, hs, h⟩ := h
    have := Text.length_of_scan? hs
    simp only [List.length_cons, ← h.2]
    omega
  case h_11 =>
    simp only [Option.map_eq_some_iff, Prod.mk.injEq] at h
    obtain ⟨⟨x, r'⟩, hs, h⟩ := h
    rw [← h.2]
    exact length_of_takeNumeral? hs
  all_goals
    simp only [Option.some.injEq, Prod.mk.injEq] at h
    simp only [List.length_cons, ← h.2]
    omega

def isSpace (c : Char) : Bool := c == ' ' || c == '\t' || c == '\n' || c == '\r'

def lex? : List Char → Option (List Token)
  | [] => some []
  | c :: rest =>
    if isSpace c then lex? rest
    else match _h : takeToken? (c :: rest) with
      | none => none
      | some (t, r) => (lex? r).map (t :: ·)
termination_by cs => cs.length
decreasing_by
  · simp
  · exact length_of_takeToken? (by assumption)

/-! ### Writing -/

def Token.chars : Token → List Char
  | leftBracket => ['[']
  | rightBracket => [']']
  | leftBrace => ['\x7b']
  | rightBrace => ['\x7d']
  | comma => [',']
  | colon => [':']
  | null => "null".toList
  | bool true => "true".toList
  | bool false => "false".toList
  | num (some n) => numberChars n
  | str (some s) => Text.quote s.toList
  | num none | str none => []

mutual

def tokens : Json → List Token
  | null => [.null]
  | bool b => [.bool b]
  | num n => [.num (some n)]
  | str s => [.str (some s)]
  | arr xs => .leftBracket :: (elementTokens xs ++ [.rightBracket])
  | obj ms => .leftBrace :: (memberTokens ms ++ [.rightBrace])
  | unreadable => [.num none]

def elementTokens : List Json → List Token
  | [] => []
  | [x] => x.tokens
  | x :: y :: xs => x.tokens ++ .comma :: elementTokens (y :: xs)

def memberTokens : List (String × Json) → List Token
  | [] => []
  | [(k, x)] => .str (some k) :: .colon :: x.tokens
  | (k, x) :: m :: ms => .str (some k) :: .colon :: (x.tokens ++ .comma :: memberTokens (m :: ms))

end

def render (v : Json) : String := String.ofList (v.tokens.flatMap Token.chars)

end LtiLaunch.Json
