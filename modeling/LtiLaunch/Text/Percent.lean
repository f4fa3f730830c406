import LtiLaunch.Decimal.Digits

/-!
# Percent-encoding
-/

namespace LtiLaunch.Text

def upperHexDigit (n : Nat) : Char := if n < 10 then Char.ofNat (48 + n) else Char.ofNat (55 + n)

def percentByte (b : UInt8) : List Char :=
  ['%', upperHexDigit (b.toNat / 16), upperHexDigit (b.toNat % 16)]

def hexByte? (b : UInt8) : Option Nat := Decimal.hexValue? (Char.ofNat b.toNat)

/-- Each `%` with two hexadecimal digits becomes a byte; any other `%` stays. -/
def percentDecode : List UInt8 → List UInt8
  | [] => []
  | a :: b :: c :: rest =>
    if a = 0x25 then
      match hexByte? b, hexByte? c with
      | some x, some y => UInt8.ofNat (16 * x + y) :: percentDecode rest
      | _, _ => a :: percentDecode (b :: c :: rest)
    else a :: percentDecode (b :: c :: rest)
  | a :: rest => a :: percentDecode rest

end LtiLaunch.Text
