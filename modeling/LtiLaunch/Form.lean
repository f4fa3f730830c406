import LtiLaunch.Text.Percent
import LtiLaunch.Text.Utf8

/-!
# Form encoding

Pairs of names and values as they stand in the query of an address or in the body of a posted form:
`name=value` with `&` between the pairs, a space as `+`, and other bytes percent-encoded.
-/

namespace LtiLaunch.Form

/-- The bytes that stand for themselves. -/
def isPlain (b : UInt8) : Bool :=
  let c := Char.ofNat b.toNat
  c.isAlphanum || c == '*' || c == '-' || c == '.' || c == '_'

def encodeByte (b : UInt8) : List Char :=
  if b = 0x20 then ['+']
  else if isPlain b then [Char.ofNat b.toNat]
  else Text.percentByte b

def encodeChars (cs : List Char) : List Char := (Text.utf8 cs).flatMap encodeByte

def encodePair (p : String × String) : List Char :=
  encodeChars p.1.toList ++ '=' :: encodeChars p.2.toList

def encodePairs : List (String × String) → List Char
  | [] => []
  | [p] => encodePair p
  | p :: ps => encodePair p ++ '&' :: encodePairs ps

def encode (ps : List (String × String)) : String := String.ofList (encodePairs ps)

/-! ### Reading -/

/-- The bytes between the occurrences of `sep`. -/
def splitOn (sep : UInt8) : List UInt8 → List (List UInt8)
  | [] => [[]]
  | b :: rest =>
    if b = sep then [] :: splitOn sep rest
    else match splitOn sep rest with
      | [] => [[b]]
      | piece :: pieces => (b :: piece) :: pieces

/-- The bytes before and after the first `=`; without one, all of them are the name. -/
def splitPair : List UInt8 → List UInt8 × List UInt8
  | [] => ([], [])
  | b :: rest =>
    if b = 0x3D then ([], rest)
    else let (name, value) := splitPair rest; (b :: name, value)

def decodeBytes (bytes : List UInt8) : String :=
  let spaced := bytes.map (fun b => if b = 0x2B then 0x20 else b)
  String.ofList (Text.ofUtf8Lossy (Text.percentDecode spaced))

/-- The pairs that the bytes hold, in order; empty pieces are skipped. -/
def decode (bytes : List UInt8) : List (String × String) :=
  ((splitOn 0x26 bytes).filter (fun piece => !piece.isEmpty)).map fun piece =>
    let (name, value) := splitPair piece
    (decodeBytes name, decodeBytes value)

end LtiLaunch.Form
