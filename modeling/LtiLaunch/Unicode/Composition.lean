import LtiLaunch.Unicode.Composites

/-!
# Composed form

A text in composed form has a letter and its marks as one code point wherever there is one for them,
and what is left of the marks in the order of their classes. Texts that look the same then are.
-/

namespace LtiLaunch.Unicode

/-- The class at `n`, given the class of the code points before the next change. -/
def classFrom (n current : Nat) : List (Nat × Nat) → Nat
  | [] => current
  | (start, next) :: rest => if n < start then current else classFrom n next rest

def combiningClass (n : Nat) : Nat := classFrom n 0 classChanges

/-! ### Hangul

A syllable has a leading consonant, one of 21 vowels, and one of 27 trailing consonants or none. -/

def syllablePieces? (n : Nat) : Option (List Nat) :=
  if 0xAC00 ≤ n ∧ n < 0xD7A4 then
    let i := n - 0xAC00
    let front := [0x1100 + i / (21 * 28), 0x1161 + i / 28 % 21]
    some (if i % 28 = 0 then front else front ++ [0x11A7 + i % 28])
  else none

def openSyllable? (lead vowel : Nat) : Option Nat :=
  if 0x1100 ≤ lead ∧ lead < 0x1113 ∧ 0x1161 ≤ vowel ∧ vowel < 0x1176 then
    some (0xAC00 + ((lead - 0x1100) * 21 + (vowel - 0x1161)) * 28)
  else none

def syllable? : List Nat → Option Nat
  | [lead, vowel] => openSyllable? lead vowel
  | [lead, vowel, trail] =>
    if 0x11A7 < trail ∧ trail < 0x11C3 then
      (openSyllable? lead vowel).map (· + (trail - 0x11A7))
    else none
  | _ => none

/-! ### Pieces and order -/

def pieces (n : Nat) : List Nat :=
  match composites.find? (·.1 == n) with
  | some (_, parts) => parts
  | none => (syllablePieces? n).getD [n]

/-- The code point for the pieces together. -/
def whole? (parts : List Nat) : Option Nat :=
  match parts with
  | [n] => some n
  | _ => ((composites.find? (·.2 == parts)).map (·.1)).orElse fun _ => syllable? parts

/-- Puts a code point in front of a text in order; marks of lower classes stay before it. -/
def arrangeFirst (n : Nat) : List Nat → List Nat
  | [] => [n]
  | m :: rest =>
    if combiningClass m != 0 && combiningClass m < combiningClass n then m :: arrangeFirst n rest
    else n :: m :: rest

def arrange (ns : List Nat) : List Nat := ns.foldr arrangeFirst []

/-! ### Composition -/

/-- Composes a text in order. `letter` has the pieces taken up by the last letter before it, and
`marks`, the latest first, what has stayed behind that letter. -/
def compose (letter marks : List Nat) : List Nat → List Nat
  | [] => (whole? letter).toList ++ marks.reverse
  | n :: rest =>
    -- A mark of the same class in between keeps the letter from taking up this one.
    let near := marks.head?.all fun m => combiningClass m < combiningClass n
    if near && (whole? (letter ++ [n])).isSome && !letter.isEmpty then
      compose (letter ++ [n]) marks rest
    else if combiningClass n = 0 then
      (whole? letter).toList ++ marks.reverse ++ compose [n] [] rest
    else compose letter (n :: marks) rest

def composed (cs : List Char) : List Char :=
  (compose [] [] (arrange (cs.flatMap fun c => pieces c.toNat))).map Char.ofNat

end LtiLaunch.Unicode
