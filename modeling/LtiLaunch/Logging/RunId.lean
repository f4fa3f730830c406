import LtiLaunch.Files.Basic

/-!
# Run identifiers

Every run of the program has an identifier: a UUID of version 7, which begins with the time.
-/

namespace LtiLaunch.RunId

def hex (width n : Nat) : List Char :=
  (List.range width).reverse.map fun i => Nat.digitChar (n / Nat.pow 16 i % 16)

def groups : List Nat := [8, 4, 4, 4, 12]

def dashed : List Nat → List Char → List Char
  | [], _ => []
  | [n], cs => cs.take n
  | n :: more, cs => cs.take n ++ '-' :: dashed more (cs.drop n)

/-- The 128 bits: 48 of milliseconds, the version, 12 at random, the variant, 62 at random. -/
def bits (now : Instant) (random : Nat) : Nat :=
  let milliseconds := (now / 1000000).toNat % Nat.pow 2 48
  milliseconds * Nat.pow 2 80 + 7 * Nat.pow 2 76 +
    random / Nat.pow 2 62 % Nat.pow 2 12 * Nat.pow 2 64 + 2 * Nat.pow 2 62 + random % Nat.pow 2 62

def make (now : Instant) (random : Nat) : String :=
  String.ofList (dashed groups (hex 32 (bits now random)))

/-- Whether the text has the form of a UUID, with 7 as its version. -/
def isVersion7 (s : String) : Bool :=
  let cs := s.toList
  let isDash (i : Nat) := i == 8 || i == 13 || i == 18 || i == 23
  cs.length == 36 && cs[14]? == some '7' &&
    (cs[19]?.map ['8', '9', 'a', 'b'].contains).getD false &&
    cs.zipIdx.all fun (c, i) =>
      if isDash i then c == '-' else c.isDigit || ('a' ≤ c && c ≤ 'f')

end LtiLaunch.RunId
