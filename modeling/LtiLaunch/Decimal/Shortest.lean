import LtiLaunch.Decimal.Binary64
import LtiLaunch.Decimal.Digits

/-!
# Shortest decimals

The shortest decimal that rounds back to a number: of all the decimals with the fewest digits in the
interval of reals that round to it, the one nearest to it.
-/

namespace LtiLaunch.Binary64

/-- The reals that round to a positive number, as a common denominator and the numerators of the
lower end, the number and the upper end. -/
structure Interval where
  low : Nat
  mid : Nat
  high : Nat
  den : Nat
  closed : Bool

/-- The ends lie half way to the neighbours, and the lower neighbour of a power of two is nearer. -/
def interval (x : Binary64) : Interval :=
  let gap := if x.significand = Nat.pow 2 52 ∧ x.exponent > minExponent then 1 else 2
  let (n, d) := scaled 1 1 (2 - x.exponent)
  -- `n / d` is a quarter of the distance between neighbours
  { low := (4 * x.significand - gap) * n
    mid := 4 * x.significand * n
    high := (4 * x.significand + 2) * n
    den := d
    closed := x.significand % 2 == 0 }

/-- Whether `digits * 10 ^ k` lies in the interval. -/
def Interval.mem (i : Interval) (digits : Nat) (k : Int) : Bool :=
  let value := if 0 ≤ k then digits * Nat.pow 10 k.toNat * i.den else digits * i.den
  let unit := if 0 ≤ k then 1 else Nat.pow 10 (-k).toNat
  if i.closed then i.low * unit ≤ value && value ≤ i.high * unit
  else i.low * unit < value && value < i.high * unit

/-- The greatest `k` with `10 ^ k ≤ num / den`, for a binary64 number `num / den`. -/
def log10 (num den : Nat) : Int :=
  (LtiLaunch.Decimal.digits (num * Nat.pow 10 400 / den)).length - 401

structure Decimal where
  digits : Nat
  exponent : Int
  deriving DecidableEq, Repr

/-- The nearest decimal in the interval that is a multiple of `10 ^ k`, if there is one: it is one
of the two neighbours of the number on that grid. -/
def onGrid? (i : Interval) (k : Int) : Option Decimal :=
  let (n, d) := if 0 ≤ k then (i.mid, i.den * Nat.pow 10 k.toNat)
    else (i.mid * Nat.pow 10 (-k).toNat, i.den)
  let below := n / d
  let twice := 2 * (n % d)
  let upper := decide (twice > d) || (decide (twice = d) && below % 2 == 1)
  match i.mem below k, i.mem (below + 1) k with
  | true, true => some ⟨if upper then below + 1 else below, k⟩
  | true, false => some ⟨below, k⟩
  | false, true => some ⟨below + 1, k⟩
  | false, false => none

/-- Moves zeros at the end of the digits into the exponent. -/
def Decimal.normalise : Nat → Decimal → Decimal
  | 0, d => d
  | fuel + 1, d =>
    if d.digits ≠ 0 ∧ d.digits % 10 = 0 then normalise fuel ⟨d.digits / 10, d.exponent + 1⟩ else d

/-- The shortest decimal for the absolute value of a number that is not zero. Seventeen digits
always suffice. -/
def shortest (x : Binary64) : Decimal :=
  let i := x.interval
  let top := log10 i.mid i.den
  match (List.range 17).findSome? (fun n : Nat => onGrid? i (top - (n : Int))) with
  | some d => d.normalise 20
  | none => ⟨x.significand, 0⟩

end LtiLaunch.Binary64
