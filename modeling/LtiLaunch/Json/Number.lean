import LtiLaunch.Decimal.Digits
import LtiLaunch.Decimal.Numeral
import LtiLaunch.Decimal.Shortest
import LtiLaunch.Json.Basic

/-!
# JSON numbers

The form of a number in JSON text, the number it stands for, and how a number is written.
-/

namespace LtiLaunch.Json

/-- The whole numbers that are kept exactly; every other number is read as a double. -/
def fitsWord (n : Int) : Bool := -0x8000000000000000 ≤ n && n < 0x10000000000000000

/-- The number a numeral stands for. A minus sign before a zero makes it a double. -/
def numberOf? (x : Numeral) : Option Number :=
  let n : Int := Decimal.ofDigits x.whole
  let n := if x.negative then -n else n
  if x.fraction.isEmpty && x.exponent.isNone && fitsWord n && !(x.negative && n == 0) then
    some (.int n)
  else x.stepwise?.map .double

/-- The digits after a point, if there is one; at least one digit has to follow it. -/
def takeFraction? : List Char → Option (List Nat × List Char)
  | '.' :: rest =>
    match Decimal.takeDigits rest with
    | ([], _) => none
    | (ds, r) => some (ds, r)
  | cs => some ([], cs)

def takeSign : List Char → Bool × List Char
  | '-' :: rest => (true, rest)
  | '+' :: rest => (false, rest)
  | cs => (false, cs)

/-- The exponent after an `e`, if there is one; at least one digit has to be in it. -/
def takeExponent? : List Char → Option (Option Int × List Char)
  | [] => some (none, [])
  | c :: rest =>
    if c = 'e' ∨ c = 'E' then
      let (negative, rest) := takeSign rest
      match Decimal.takeDigits rest with
      | ([], _) => none
      | (ds, r) =>
        let n : Int := Decimal.ofDigits ds
        some (some (if negative then -n else n), r)
    else some (none, c :: rest)

/-- Digits without a zero before others. -/
def takeWhole? (cs : List Char) : Option (List Nat × List Char) :=
  match cs with
  | '0' :: rest => some ([0], rest)
  | _ =>
    match Decimal.takeDigits cs with
    | ([], _) => none
    | (ds, r) => some (ds, r)

def takeMinus : List Char → Bool × List Char
  | '-' :: rest => (true, rest)
  | cs => (false, cs)

def takeNumeral? (cs : List Char) : Option (Numeral × List Char) := do
  let (whole, r) ← takeWhole? (takeMinus cs).2
  let (fraction, r) ← takeFraction? r
  let (exponent, r) ← takeExponent? r
  some ({ negative := (takeMinus cs).1, whole, fraction, exponent }, r)

theorem length_of_takeFraction? {cs r : List Char} {ds : List Nat}
    (h : takeFraction? cs = some (ds, r)) : r.length ≤ cs.length := by
  unfold takeFraction? at h
  split at h
  · next rest =>
    have hd := Decimal.length_takeDigits rest
    split at h
    · simp at h
    · next heq =>
      simp only [Option.some.injEq, Prod.mk.injEq] at h
      rw [heq] at hd
      simp only at hd
      simp only [List.length_cons, ← h.2]
      omega
  · simp only [Option.some.injEq, Prod.mk.injEq] at h
    simp [h.2]

theorem length_takeSign (cs : List Char) : (takeSign cs).2.length ≤ cs.length := by
  unfold takeSign
  split <;> simp

theorem length_takeMinus (cs : List Char) : (takeMinus cs).2.length ≤ cs.length := by
  unfold takeMinus
  split <;> simp

theorem length_of_takeExponent? {cs r : List Char} {e : Option Int}
    (h : takeExponent? cs = some (e, r)) : r.length ≤ cs.length := by
  cases cs with
  | nil => simp_all [takeExponent?]
  | cons c rest =>
    have hs := length_takeSign rest
    have hd := Decimal.length_takeDigits (takeSign rest).2
    simp only [takeExponent?] at h
    split at h
    · split at h
      · simp at h
      · next heq =>
        simp only [Option.some.injEq, Prod.mk.injEq] at h
        rw [heq] at hd
        simp only at hd
        simp only [List.length_cons, ← h.2]
        omega
    · simp only [Option.some.injEq, Prod.mk.injEq] at h
      simp [← h.2]

theorem length_of_takeWhole? {cs r : List Char} {ds : List Nat}
    (h : takeWhole? cs = some (ds, r)) : r.length < cs.length := by
  unfold takeWhole? at h
  split at h
  · simp only [Option.some.injEq, Prod.mk.injEq] at h
    simp [← h.2]
  · cases cs with
    | nil => simp [Decimal.takeDigits] at h
    | cons c rest =>
      have hd := Decimal.length_takeDigits rest
      simp only [Decimal.takeDigits] at h
      split at h
      · simp at h
      · next heq =>
        simp only [Option.some.injEq, Prod.mk.injEq] at h
        split at heq
        · simp only [Prod.mk.injEq] at heq
          simp only [List.length_cons, ← h.2, ← heq.2]
          omega
        · simp_all

theorem length_of_takeNumeral? {cs r : List Char} {x : Numeral}
    (h : takeNumeral? cs = some (x, r)) : r.length < cs.length := by
  unfold takeNumeral? at h
  simp only [bind, Option.bind_eq_some_iff] at h
  obtain ⟨⟨whole, r₁⟩, h₁, ⟨fraction, r₂⟩, h₂, ⟨exponent, r₃⟩, h₃, h⟩ := h
  simp only [Option.some.injEq, Prod.mk.injEq] at h
  have l₀ := length_takeMinus cs
  have l₁ := length_of_takeWhole? h₁
  have l₂ := length_of_takeFraction? h₂
  have l₃ := length_of_takeExponent? h₃
  have l₄ := congrArg List.length h.2
  simp only at l₂ l₃ l₄
  omega

/-! ### Writing -/

/-- The text of a double: its shortest digits, positional as long as the point is near them, and at
least one digit after a point unless there is an exponent. -/
def doubleChars (x : Binary64) : List Char :=
  let sign := if x.negative then ['-'] else []
  if x.isZero then sign ++ ['0', '.', '0']
  else
    let d := x.shortest
    let ds := Decimal.text d.digits
    let n : Int := ds.length
    let point := n + d.exponent
    sign ++
      if 0 ≤ d.exponent ∧ point ≤ 16 then
        ds ++ List.replicate d.exponent.toNat '0' ++ ['.', '0']
      else if 0 < point ∧ point ≤ 16 then
        ds.take point.toNat ++ '.' :: ds.drop point.toNat
      else if -5 < point ∧ point ≤ 0 then
        '0' :: '.' :: (List.replicate (-point).toNat '0' ++ ds)
      else
        let mantissa := match ds with
          | [c] => [c]
          | c :: cs => c :: '.' :: cs
          | [] => []
        mantissa ++ 'e' :: Decimal.intText (point - 1)

def numberChars : Number → List Char
  | .int n => Decimal.intText n
  | .double x => doubleChars x

end LtiLaunch.Json
