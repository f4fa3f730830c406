/-!
# Punycode

Reading the ASCII form of a label that has characters beyond ASCII. The part before the last hyphen
is taken as it is; the digits after it tell, one after the other, which character comes next and
where it goes.
-/

namespace LtiLaunch.Url.Punycode

/-- The value of a digit: the letters come before the numerals. -/
def digit? (c : Char) : Option Nat :=
  if 'a' ≤ c ∧ c ≤ 'z' then some (c.toNat - 97)
  else if 'A' ≤ c ∧ c ≤ 'Z' then some (c.toNat - 65)
  else if '0' ≤ c ∧ c ≤ '9' then some (c.toNat - 48 + 26)
  else none

/-- The least digit that does not end a number, for its `k`-th place. -/
def threshold (k bias : Nat) : Nat :=
  if k ≤ bias then 1 else if bias + 26 ≤ k then 26 else k - bias

def adaptFrom (delta k : Nat) : Nat :=
  if 455 < delta then adaptFrom (delta / 35) (k + 36)
  else k + 36 * delta / (delta + 38)
termination_by delta

/-- The bias for the next number, after one that moved on by `delta`. -/
def adapt (delta points : Nat) (first : Bool) : Nat :=
  let delta := if first then delta / 700 else delta / 2
  adaptFrom (delta + delta / points) 0

/-- What has been read so far; `weight` and `place` belong to a number that is not complete. -/
structure State where
  output : List Char
  codePoint : Nat
  bias : Nat
  index : Nat
  start : Nat
  weight : Nat
  place : Nat
  complete : Bool

def begin (base : List Char) : State :=
  { output := base, codePoint := 128, bias := 72, index := 0, start := 0, weight := 1, place := 36,
    complete := true }

def limit : Nat := Nat.pow 2 32

def place? (s : State) (index : Nat) : Option State :=
  let points := s.output.length + 1
  let codePoint := s.codePoint + index / points
  let at' := index % points
  if codePoint < 0x110000 ∧ ¬(0xD800 ≤ codePoint ∧ codePoint < 0xE000) then
    some
      { output := s.output.take at' ++ Char.ofNat codePoint :: s.output.drop at'
        codePoint
        bias := adapt (index - s.start) points (s.start == 0)
        index := at' + 1
        start := at' + 1
        weight := 1
        place := 36
        complete := true }
  else none

def step? (s : State) (c : Char) : Option State := do
  let d ← digit? c
  let index := s.index + d * s.weight
  let t := threshold s.place s.bias
  if limit ≤ index then none
  else if d < t then place? s index
  else
    let weight := s.weight * (36 - t)
    if limit ≤ weight then none
    else some { s with index, weight, place := s.place + 36, complete := false }

/-- The part before the last hyphen and the digits after it; a hyphen in front is a digit. -/
def splitBase (cs : List Char) : List Char × List Char :=
  let digits := (cs.reverse.takeWhile (· != '-')).reverse
  let base := cs.take (cs.length - digits.length - 1)
  if digits.length < cs.length ∧ base ≠ [] then (base, digits) else ([], cs)

def decode? (cs : List Char) : Option (List Char) := do
  let (base, digits) := splitBase cs
  let s ← digits.foldlM step? (begin base)
  if s.complete then some s.output else none

end LtiLaunch.Url.Punycode
