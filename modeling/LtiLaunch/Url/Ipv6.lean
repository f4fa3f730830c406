import LtiLaunch.Decimal.Digits

/-!
# IPv6 addresses

Eight pieces of up to four hexadecimal digits, where `::` once stands for any number of zero pieces
and an IPv4 address may take the place of the last two.
-/

namespace LtiLaunch.Url.Ipv6

/-- Up to `n` hexadecimal digits at the start: how many there are, and the rest. -/
def skipHex : Nat → List Char → Nat × List Char
  | n + 1, c :: cs =>
    if (Decimal.hexValue? c).isSome then
      let (k, rest) := skipHex n cs
      (k + 1, rest)
    else (0, c :: cs)
  | _, cs => (0, cs)

/-- A decimal number below 256 without a zero before other digits. -/
def isByte (cs : List Char) : Bool :=
  let (digits, rest) := Decimal.takeDigits cs
  rest.isEmpty && !digits.isEmpty && (digits.length == 1 || digits.head? != some 0) &&
    Decimal.ofDigits digits < 256

def splitDots : List Char → List (List Char)
  | [] => [[]]
  | c :: rest =>
    match splitDots rest with
    | [] => [[c]]
    | piece :: pieces => if c = '.' then [] :: piece :: pieces else (c :: piece) :: pieces

def isDotted (cs : List Char) : Bool :=
  let pieces := splitDots cs
  pieces.length == 4 && pieces.all isByte

/-- Whether the text goes on to a valid end after `pieces` pieces, `compressed` telling whether `::`
has been used. -/
def validFrom (pieces : Nat) (compressed : Bool) : List Char → Bool
  | [] => compressed || pieces == 8
  | c :: cs =>
    if 8 ≤ pieces then false
    else if c = ':' then !compressed && validFrom (pieces + 1) true cs
    else
      match skipHex 4 (c :: cs) with
      | (_, []) => compressed || pieces + 1 == 8
      | (_, ':' :: rest) => !rest.isEmpty && validFrom (pieces + 1) compressed rest
      | (k, '.' :: _) =>
        0 < k && pieces ≤ 6 && isDotted (c :: cs) && (compressed || pieces + 2 == 8)
      | _ => false
termination_by 8 - pieces

def valid : List Char → Bool
  | ':' :: ':' :: cs => validFrom 1 true cs
  | ':' :: _ => false
  | cs => 2 ≤ cs.length && validFrom 0 false cs

end LtiLaunch.Url.Ipv6
