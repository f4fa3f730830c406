import LtiLaunch.Json.Number

/-!
# JSON5 numbers

A numeral may have a sign, a point at either end, or be hexadecimal; infinity and NaN are numerals
too. A numeral is whole if it has neither point nor exponent, and then it has to fit the range of
its notation. What is not finite is read as null.
-/

namespace LtiLaunch.Json5

inductive Literal
  | hex (signed : Bool) (digits : List Nat)
  /-- Infinity or NaN, after a plus sign or not. -/
  | infinite (plus : Bool)
  | decimal (x : Numeral) (point : Bool)

def takeHexDigits : List Char → List Nat × List Char
  | [] => ([], [])
  | c :: rest =>
    match Decimal.hexValue? c with
    | some d =>
      let (ds, r) := takeHexDigits rest
      (d :: ds, r)
    | none => ([], c :: rest)

/-- The exponent after an `e` with digits; an `e` without digits belongs to what comes next. -/
def takeExponent (cs : List Char) : Option Int × List Char :=
  (Json.takeExponent? cs).getD (none, cs)

/-- Digits and a point: the digits before it, those after it, and whether it is there. -/
def takePoint? (cs : List Char) : Option (List Nat × List Nat × Bool × List Char) :=
  match cs with
  | '.' :: rest =>
    match Decimal.takeDigits rest with
    | ([], _) => none
    | (ds, r) => some ([], ds, true, r)
  | _ =>
    match Json.takeWhole? cs with
    | none => none
    | some (ds, '.' :: rest) =>
      let (fs, r) := Decimal.takeDigits rest
      some (ds, fs, true, r)
    | some (ds, r) => some (ds, [], false, r)

def takeDecimal? (negative : Bool) (cs : List Char) : Option (Literal × List Char) := do
  let (whole, fraction, point, r) ← takePoint? cs
  let (exponent, r) := takeExponent r
  some (.decimal { negative, whole, fraction, exponent } point, r)

def takeUnsigned? (sign : Option Char) (cs : List Char) : Option (Literal × List Char) :=
  match cs with
  | 'I' :: 'n' :: 'f' :: 'i' :: 'n' :: 'i' :: 't' :: 'y' :: rest
  | 'N' :: 'a' :: 'N' :: rest => some (.infinite (sign == some '+'), rest)
  | '0' :: x :: rest =>
    if x = 'x' ∨ x = 'X' then
      match takeHexDigits rest with
      | ([], _) => takeDecimal? (sign == some '-') cs
      | (ds, r) => some (.hex sign.isSome ds, r)
    else takeDecimal? (sign == some '-') cs
  | _ => takeDecimal? (sign == some '-') cs

def takeLiteral? (cs : List Char) : Option (Literal × List Char) :=
  match cs with
  | '+' :: rest => takeUnsigned? (some '+') rest
  | '-' :: rest => takeUnsigned? (some '-') rest
  | _ => takeUnsigned? none cs

/-- Whole numbers in decimal notation are signed words. -/
def fitsSigned (n : Int) : Bool := -0x8000000000000000 ≤ n && n < 0x8000000000000000

/-- The value of a numeral: hexadecimal ones have no sign and fit 32 bits, and neither infinity nor
NaN has a plus sign. -/
def Literal.value? : Literal → Option Json
  | hex signed digits =>
    let n := digits.foldl (fun n d => 16 * n + d) 0
    if !signed && n < Nat.pow 2 32 then some (.nat n) else none
  | infinite plus => if plus then none else some .null
  | decimal x point =>
    if point || x.exponent.isSome then x.rounded?.map (fun y => .num (.double y))
    else
      let n : Int := Decimal.ofDigits x.whole
      let n := if x.negative then -n else n
      if fitsSigned n then some (.num (.int n)) else none

end LtiLaunch.Json5
