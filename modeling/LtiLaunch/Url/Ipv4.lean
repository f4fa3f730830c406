import LtiLaunch.Decimal.Digits

/-!
# IPv4 addresses in host names

A host name whose last label is a number is an IPv4 address, of one to four numbers. A number may be
decimal, octal after `0` or hexadecimal after `0x`; the last one fills all the bytes that are left.
-/

namespace LtiLaunch.Url.Ipv4

def valueIn (base : Nat) (cs : List Char) : Option Nat :=
  cs.foldlM (fun n c =>
    match Decimal.hexValue? c with
    | some d => if d < base then some (n * base + d) else none
    | none => none) 0

/-- The value of a number; `0x` alone is zero. -/
def number? : List Char → Option Nat
  | [] => none
  | '0' :: 'x' :: cs | '0' :: 'X' :: cs => valueIn 16 cs
  | '0' :: c :: cs => valueIn 8 (c :: cs)
  | cs => valueIn 10 cs

def withoutRoot (labels : List (List Char)) : List (List Char) :=
  match labels.reverse with
  | [] :: rest => rest.reverse
  | _ => labels

def isNumber (label : List Char) : Bool :=
  (!label.isEmpty && label.all (fun c => '0' ≤ c && c ≤ '9')) || (number? label).isSome

def endsInNumber (labels : List (List Char)) : Bool :=
  match (withoutRoot labels).getLast? with
  | some label => isNumber label
  | none => false

def valid (labels : List (List Char)) : Bool :=
  let labels := withoutRoot labels
  match labels.mapM number? with
  | none => false
  | some numbers =>
    match numbers.reverse with
    | [] => false
    | last :: rest =>
      numbers.length ≤ 4 && rest.all (· ≤ 255) && last < Nat.pow 256 (4 - rest.length)

end LtiLaunch.Url.Ipv4
