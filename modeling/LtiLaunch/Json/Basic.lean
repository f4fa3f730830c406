import LtiLaunch.Decimal.Binary64

/-!
# JSON values

A value keeps the members of its objects as they were written, in order and with repetitions;
`canonical` sorts them and lets the last member of a name win. A text can also hold a scalar of
correct form that stands for nothing, such as a number beyond all bounds: `unreadable`.
-/

namespace LtiLaunch

inductive Number
  | int (n : Int)
  | double (x : Binary64)
  deriving DecidableEq, Repr

namespace Number

/-- The value as a fraction with a positive denominator. -/
def fraction : Number → Int × Nat
  | int n => (n, 1)
  | double x => x.fraction

def lessThan (x y : Number) : Bool :=
  let (p, q) := x.fraction
  let (r, s) := y.fraction
  p * s < r * q

def sameValue (x y : Number) : Bool := !x.lessThan y && !y.lessThan x

def whole? : Number → Option Int
  | int n => some n
  | double x => x.toInt?

end Number

inductive Json
  | null
  | bool (b : Bool)
  | num (n : Number)
  | str (s : String)
  | arr (elements : List Json)
  | obj (members : List (String × Json))
  /-- A scalar, or an object with a name, that has the right form but no value. -/
  | unreadable
  deriving Repr

namespace Json

instance : Inhabited Json := ⟨null⟩

def nat (n : Nat) : Json := num (.int n)

mutual

def readable : Json → Bool
  | unreadable => false
  | arr xs => readableAll xs
  | obj ms => readableMembers ms
  | _ => true

def readableAll : List Json → Bool
  | [] => true
  | x :: xs => x.readable && readableAll xs

def readableMembers : List (String × Json) → Bool
  | [] => true
  | (_, x) :: ms => x.readable && readableMembers ms

end

mutual

/-- How many arrays and objects stand around the innermost scalar; a scalar has depth zero. -/
def depth : Json → Nat
  | arr xs => depthAll xs + 1
  | obj ms => depthMembers ms + 1
  | _ => 0

def depthAll : List Json → Nat
  | [] => 0
  | x :: xs => max x.depth (depthAll xs)

def depthMembers : List (String × Json) → Nat
  | [] => 0
  | (_, x) :: ms => max x.depth (depthMembers ms)

end

/-- Puts a member in its place among sorted members, unless a later member of that name is there. -/
def insertMember (k : String) (v : Json) : List (String × Json) → List (String × Json)
  | [] => [(k, v)]
  | (k', v') :: rest =>
    match compare k k' with
    | .lt => (k, v) :: (k', v') :: rest
    | .eq => (k', v') :: rest
    | .gt => (k', v') :: insertMember k v rest

mutual

/-- The value with the members of every object sorted by name, the last of each name kept. -/
def canonical : Json → Json
  | arr xs => arr (canonicalAll xs)
  | obj ms => obj (canonicalMembers ms)
  | v => v

def canonicalAll : List Json → List Json
  | [] => []
  | x :: xs => x.canonical :: canonicalAll xs

def canonicalMembers : List (String × Json) → List (String × Json)
  | [] => []
  | (k, x) :: ms => insertMember k x.canonical (canonicalMembers ms)

end

mutual

/-- Whether two values are equal, with numbers compared by their value. -/
def same : Json → Json → Bool
  | null, null => true
  | bool a, bool b => a == b
  | num a, num b => a.sameValue b
  | str a, str b => a == b
  | arr xs, arr ys => sameAll xs ys
  | obj ms, obj ns => sameMembers ms ns
  | _, _ => false

def sameAll : List Json → List Json → Bool
  | [], [] => true
  | x :: xs, y :: ys => x.same y && sameAll xs ys
  | _, _ => false

def sameMembers : List (String × Json) → List (String × Json) → Bool
  | [], [] => true
  | (j, x) :: ms, (k, y) :: ns => j == k && x.same y && sameMembers ms ns
  | _, _ => false

end

/-- The first member of the name; in a canonical object it is the only one. -/
def member? (v : Json) (name : String) : Option Json :=
  match v with
  | obj ms => (ms.find? (fun m => m.1 == name)).map (·.2)
  | _ => none

def str? : Json → Option String
  | str s => some s
  | _ => none

def bool? : Json → Option Bool
  | bool b => some b
  | _ => none

def arr? : Json → Option (List Json)
  | arr xs => some xs
  | _ => none

def obj? : Json → Option (List (String × Json))
  | obj ms => some ms
  | _ => none

def word? : Json → Option Nat
  | num (.int n) => if 0 ≤ n ∧ n < 0x10000000000000000 then some n.toNat else none
  | _ => none

end Json

end LtiLaunch
