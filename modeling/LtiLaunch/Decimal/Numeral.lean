import LtiLaunch.Decimal.Binary64
import LtiLaunch.Decimal.Digits

/-!
# Numerals

A numeral is the text of a decimal number taken apart. It has two values: `rounded?`, the number
nearest to what it says, and `stepwise?`, for which its leading digits and the power of ten are
rounded before they are multiplied.
-/

namespace LtiLaunch

structure Numeral where
  negative : Bool
  whole : List Nat
  fraction : List Nat
  exponent : Option Int
  deriving DecidableEq, Repr

namespace Numeral

/-- The number nearest to what the numeral says, if there is one. -/
def rounded? (x : Numeral) : Option Binary64 :=
  let m := Decimal.ofDigits (x.whole ++ x.fraction)
  let e : Int := x.exponent.getD 0 - x.fraction.length
  if m = 0 then some (.zero x.negative)
  else
    let size : Int := (Decimal.digits m).length + e
    -- beyond these bounds the answer is plain, and the power of ten would be too large to form
    if size > 400 then none
    else if size < -400 then some (.zero x.negative)
    else if 0 ≤ e then Binary64.nearest? x.negative (m * Nat.pow 10 e.toNat) 1
    else Binary64.nearest? x.negative m (Nat.pow 10 (-e).toNat)

/-! ### Stepwise reading -/

def maxSignificand : Nat := Nat.pow 2 64 - 1

/-- The leading digits as far as they fit into 64 bits, and how many of the digits that count for
the magnitude do not. -/
structure Leading where
  significand : Nat
  exponent : Int

/-- Once a whole digit does not fit, it and all that follow only raise the exponent. -/
def Leading.whole : Nat → List Nat → Leading
  | n, [] => ⟨n, 0⟩
  | n, d :: ds =>
    if 10 * n + d > maxSignificand then ⟨n, ds.length + 1⟩ else whole (10 * n + d) ds

/-- Once a digit of the fraction does not fit, it and all that follow are left out. -/
def Leading.fraction : Leading → List Nat → Leading
  | l, [] => l
  | l, d :: ds =>
    if 10 * l.significand + d > maxSignificand then l
    else fraction ⟨10 * l.significand + d, l.exponent - 1⟩ ds

def leading (x : Numeral) : Leading := (Leading.whole 0 x.whole).fraction x.fraction

/-- `x / 10 ^ k`, in steps of at most `10 ^ 308`. -/
def divPow10? (x : Binary64) (k : Nat) : Option Binary64 :=
  if x.isZero then some x
  else if k ≤ 308 then do x.div? (← Binary64.ofNat? (Nat.pow 10 k))
  else do divPow10? (← x.div? (← Binary64.ofNat? (Nat.pow 10 308))) (k - 308)
termination_by k

/-- `significand * 10 ^ exponent`, where both factors are rounded first; there is no such number
beyond the greatest finite one. -/
def stepwise? (x : Numeral) : Option Binary64 := do
  let l := x.leading
  let e := x.exponent.getD 0 + l.exponent
  let m ← Binary64.ofNat? l.significand
  let r ← if m.isZero then some m
    else if e > 308 then none
    else if 0 ≤ e then m.mul? (← Binary64.ofNat? (Nat.pow 10 e.toNat))
    else divPow10? m (-e).toNat
  some { r with negative := x.negative }

end Numeral

end LtiLaunch
