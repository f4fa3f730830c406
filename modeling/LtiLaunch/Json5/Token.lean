import LtiLaunch.Json.Token
import LtiLaunch.Json5.Number
import LtiLaunch.Text.Tokens
import LtiLaunch.Unicode.Category

/-!
# JSON5 tokens

JSON5 adds comments, more white space, strings in single quotes that may go on over a line end,
names without quotes and more ways to write a number. Its tokens are those of JSON once words are
told apart: a word before a colon is a name, and any other is a literal.
-/

namespace LtiLaunch.Json5

open Json (Token)

def isLineEnd (c : Char) : Bool :=
  c == '\n' || c == '\r' || c == '\u2028' || c == '\u2029'

/-- White space: line ends, tabs, form feeds, the byte order mark and the category Zs. -/
def isSpace (c : Char) : Bool :=
  let n := c.toNat
  isLineEnd c || n == 0x09 || n == 0x0B || n == 0x0C || n == 0x20 || n == 0xA0 || n == 0xFEFF ||
    n == 0x1680 || (0x2000 ≤ n && n ≤ 0x200A) || n == 0x202F || n == 0x205F || n == 0x3000

inductive Gap
  | blank
  | line
  | block

/-- The text from the next token on; a comment that is not closed is a failure. -/
def skip? : Gap → List Char → Option (List Char)
  | .blank, '/' :: '/' :: cs => skip? .line cs
  | .blank, '/' :: '*' :: cs => skip? .block cs
  | .blank, c :: cs => if isSpace c then skip? .blank cs else some (c :: cs)
  | .line, c :: cs => if isLineEnd c then skip? .blank cs else skip? .line cs
  | .block, '*' :: '/' :: cs => skip? .blank cs
  | .block, _ :: cs => skip? .block cs
  | .blank, [] | .line, [] => some []
  | .block, [] => none

/-! ### Strings and names -/

open Json.Text (Piece hexQuad? isHigh isLow)

/-- What an escaped character other than a digit, `x` or `u` stands for. -/
def escaped (c : Char) : Char :=
  match c with
  | 'b' => '\x08'
  | 'f' => '\x0c'
  | 'n' => '\n'
  | 'r' => '\r'
  | 't' => '\t'
  | 'v' => '\x0b'
  | c => c

def scan? (quote : Char) : List Char → Option (List Piece × List Char)
  | [] => none
  | '\\' :: 'u' :: a :: b :: c :: d :: rest => do
    let n ← hexQuad? a b c d
    let (ps, r) ← scan? quote rest
    some (.unit n :: ps, r)
  | '\\' :: 'x' :: a :: b :: rest => do
    let n ← hexQuad? '0' '0' a b
    let (ps, r) ← scan? quote rest
    some (.char (Char.ofNat n) :: ps, r)
  | '\\' :: '\r' :: '\n' :: rest => scan? quote rest
  | '\\' :: '0' :: rest => do
    let (ps, r) ← scan? quote rest
    some (.char '\x00' :: ps, r)
  | '\\' :: e :: rest =>
    if isLineEnd e then scan? quote rest
    else if e.isDigit || e == 'x' || e == 'u' then none
    else do
      let (ps, r) ← scan? quote rest
      some (.char (escaped e) :: ps, r)
  | c :: rest =>
    if c = quote then some ([], rest)
    else if isLineEnd c || c == '\\' then none
    else do
      let (ps, r) ← scan? quote rest
      some (.char c :: ps, r)

/-- The character of a surrogate pair, with the bits of the two halves laid over each other. -/
def pairChar (high low : Nat) : Char :=
  Char.ofNat (((high - 0xD800) <<< 10) ||| ((low - 0xDC00) + 0x10000))

/-- The characters of the pieces; a surrogate outside a pair is a failure. -/
def assemble? : List Piece → Option (List Char)
  | [] => some []
  | .char c :: ps => (assemble? ps).map (c :: ·)
  | .unit n :: .unit m :: ps =>
    if isHigh n then
      if isLow m then (assemble? ps).map (pairChar n m :: ·) else none
    else if isLow n then none
    else (assemble? (.unit m :: ps)).map (Char.ofNat n :: ·)
  | .unit n :: ps =>
    if isHigh n || isLow n then none else (assemble? ps).map (Char.ofNat n :: ·)

def isNameStart (c : Char) : Bool :=
  c == '$' || c == '_' || Unicode.letter.contains c || Unicode.letterNumber.contains c

def isNamePart (c : Char) : Bool :=
  isNameStart c || (Unicode.mark.contains c && !Unicode.enclosingMark.contains c) ||
    Unicode.decimalDigit.contains c || Unicode.connector.contains c || c == '\u200c' ||
    c == '\u200d'

/-- The pieces of a name that go on where one has begun, and what follows them. -/
def scanName : List Char → List Piece × List Char
  | '\\' :: 'u' :: a :: b :: c :: d :: rest =>
    match hexQuad? a b c d with
    | some n =>
      let (ps, r) := scanName rest
      (.unit n :: ps, r)
    | none => ([], '\\' :: 'u' :: a :: b :: c :: d :: rest)
  | c :: rest =>
    if isNamePart c then
      let (ps, r) := scanName rest
      (.char c :: ps, r)
    else ([], c :: rest)
  | [] => ([], [])

/-! ### Tokens -/

/-- A token that may still be a name or a literal. -/
inductive Lexeme
  | token (t : Token)
  | value (v : Json)
  | word (pieces : List Piece)

def takeString? (quote : Char) (cs : List Char) : Option (Lexeme × List Char) := do
  let (ps, r) ← scan? quote cs
  let text ← assemble? ps
  some (.token (.str (some (String.ofList text))), r)

def takeWord? (cs : List Char) : Option (Lexeme × List Char) :=
  let begins := match cs with
    | '\\' :: _ => true
    | c :: _ => isNameStart c
    | [] => false
  if begins then
    match scanName cs with
    | ([], _) => none
    | (ps, r) => some (.word ps, r)
  else none

def takeLexeme? : List Char → Option (Lexeme × List Char)
  | '[' :: rest => some (.token .leftBracket, rest)
  | ']' :: rest => some (.token .rightBracket, rest)
  | '\x7b' :: rest => some (.token .leftBrace, rest)
  | '\x7d' :: rest => some (.token .rightBrace, rest)
  | ',' :: rest => some (.token .comma, rest)
  | ':' :: rest => some (.token .colon, rest)
  | '"' :: rest => takeString? '"' rest
  | '\'' :: rest => takeString? '\'' rest
  | c :: rest =>
    if c.isDigit || c == '+' || c == '-' || c == '.' then do
      let (x, r) ← takeLiteral? (c :: rest)
      some (.value (← x.value?), r)
    else takeWord? (c :: rest)
  | [] => none

def takeAndSkip? (cs : List Char) : Option (Lexeme × List Char) := do
  let (x, r) ← takeLexeme? cs
  some (x, ← skip? .blank r)

/-- The literals: words without escapes. -/
def literal? (ps : List Piece) : Option Token :=
  if ps = "null".toList.map .char then some .null
  else if ps = "true".toList.map .char then some (.bool true)
  else if ps = "false".toList.map .char then some (.bool false)
  else if ps = "Infinity".toList.map .char ∨ ps = "NaN".toList.map .char then some .null
  else none

def valueToken : Json → Token
  | .num n => .num (some n)
  | _ => .null

/-- Tells names and literals apart by whether a colon follows. -/
def settle? : List Lexeme → Option (List Token)
  | [] => some []
  | .word ps :: .token .colon :: rest => do
    let name ← assemble? ps
    let ts ← settle? rest
    some (.str (some (String.ofList name)) :: .colon :: ts)
  | .word ps :: rest => do
    let t ← literal? ps
    let ts ← settle? rest
    some (t :: ts)
  | .token t :: rest => (settle? rest).map (t :: ·)
  | .value v :: rest => (settle? rest).map (valueToken v :: ·)

def lex? (cs : List Char) : Option (List Token) := do
  let cs ← skip? .blank cs
  settle? (← Text.tokens? takeAndSkip? cs)

end LtiLaunch.Json5
