import LtiLaunch.Text.Find
import LtiLaunch.Text.Percent
import LtiLaunch.Text.Utf8
import LtiLaunch.Unicode.Category
import LtiLaunch.Unicode.Composition
import LtiLaunch.Unicode.Direction
import LtiLaunch.Unicode.Joining
import LtiLaunch.Url.HostMapping
import LtiLaunch.Url.Ipv4
import LtiLaunch.Url.Punycode

/-!
# Host names

The host names of web addresses, international ones included. A name is mapped, which folds case
and drops what is invisible, composed, and split into labels; labels in their ASCII form are decoded,
and have to be in composed form then. No label may begin with a mark, the invisible joiners have to
stand where they join, and names of right-to-left scripts have to be readable in one order only.
-/

namespace LtiLaunch.Url.HostName

open Unicode

/-- ASCII characters that a host name may not have, as they are or percent-encoded. -/
def isDenied (c : Char) : Bool :=
  c.toNat ≤ 0x20 || c == '\x7f' || " #%/:<>?@[\\]^|".toList.contains c

def asciiOfRow? (n : Nat) (row : HostMapping.AsciiRow) : Option Char :=
  if row.start ≤ n ∧ n < row.start + row.length then
    let i := n - row.start
    let first := row.first.toNat
    if 'a' ≤ row.first ∧ row.first ≤ 'z' then some (Char.ofNat (97 + (first - 97 + i) % 26))
    else if '0' ≤ row.first ∧ row.first ≤ '9' then
      some (Char.ofNat (48 + (first - 48 + i) % 10))
    else some (Char.ofNat (first + i))
  else none

/-- The characters that a character stands for. One that stands for others beyond ASCII is kept where
the rules below say the same of it and of them. -/
def mapChar? (c : Char) : Option (List Char) :=
  let n := c.toNat
  if n < 0x80 then some [c.toLower]
  else if HostMapping.refused.mem n then none
  else if HostMapping.dropped.mem n then some []
  else match HostMapping.asciiRows.findSome? (asciiOfRow? n) with
    | some a => some [a]
    | none =>
      match HostMapping.words.find? (·.1 == n) with
      | some (_, word) => some word.toList
      | none => some [c]

def mapChars? (cs : List Char) : Option (List Char) := (cs.mapM mapChar?).map List.flatten

def isSettled (c : Char) : Bool :=
  let n := c.toNat
  if n < 0x80 then !isDenied c && c != '.'
  else !HostMapping.refused.mem n && !HostMapping.dropped.mem n && !HostMapping.mapped.mem n

/-! ### Labels -/

def encoded? : List Char → Option (List Char)
  | 'x' :: 'n' :: '-' :: '-' :: rest => some rest
  | _ => none

def readLabel? (label : List Char) : Option (List Char) :=
  match encoded? label with
  | none => some label
  | some text =>
    if text.getLast?.all (· == '-') || !text.all (·.toNat < 0x80) then none
    else
      match Punycode.decode? text with
      | some decoded =>
        if decoded.all isSettled && composed decoded == decoded && (encoded? decoded).isNone then
          some decoded
        else none
      | none => none

def zwnj : Char := '\u200c'
def zwj : Char := '\u200d'

/-- The combining class of the signs that take a vowel away. -/
def virama : Nat := 9

/-- Whether a joiner may stand after `before`, which is in reverse, and before `after`. -/
def joinerFits (joiner : Char) (before after : List Char) : Bool :=
  match before with
  | [] => false
  | previous :: _ =>
    combiningClass previous.toNat == virama ||
      (joiner == zwnj &&
        ((before.dropWhile transparent.contains).head?.any joinsAfter.contains) &&
        ((after.dropWhile transparent.contains).head?.any joinsBefore.contains))

def joinersFit (before : List Char) : List Char → Bool
  | [] => true
  | c :: rest =>
    (if c == zwnj || c == zwj then joinerFits c before rest else true) &&
      joinersFit (c :: before) rest

def beginsWithMark (label : List Char) : Bool := label.head?.any mark.contains

/-! ### Right-to-left names -/

def isRightToLeft (label : List Char) : Bool :=
  label.any (fun c => rightToLeft.contains c || arabicNumber.contains c)

/-- Whether a label of a name with right-to-left scripts reads in one order only. -/
def directionFits (label : List Char) : Bool :=
  match label with
  | [] => true
  | first :: _ =>
    let core := (label.reverse.dropWhile nonspacing.contains).reverse
    let last := core.getLast?
    if rightToLeft.contains first then
      label.all (!leftToRight.contains ·) &&
        last.all (fun c =>
          rightToLeft.contains c || europeanNumber.contains c || arabicNumber.contains c) &&
        !(label.any europeanNumber.contains && label.any arabicNumber.contains)
    else
      leftToRight.contains first &&
        label.all (fun c => !rightToLeft.contains c && !arabicNumber.contains c) &&
        last.all (fun c => leftToRight.contains c || europeanNumber.contains c)

/-! ### Names -/

def labels? (cs : List Char) : Option (List (List Char)) := do
  let name := composed (← mapChars? cs)
  -- A denied sign may have become part of another one.
  if name.any isDenied then none
  let labels := Text.splitOn '.' name
  let readable ← labels.mapM readLabel?
  if readable.any beginsWithMark then none
  else if readable.all (joinersFit []) then
    if readable.any isRightToLeft && !readable.all directionFits then none else some labels
  else none

/-- Whether the text, which may be percent-encoded, is a host name or an IPv4 address. -/
def valid (text : List Char) : Bool :=
  match Text.ofUtf8? (Text.percentDecode (Text.utf8 text)) with
  | none => false
  | some cs =>
    match labels? cs with
    | none => false
    | some labels =>
      labels != [[]] && (!Ipv4.endsInNumber labels || Ipv4.valid labels)

end LtiLaunch.Url.HostName
