/-!
# Sets of code points

A set is given by the code points at which membership changes, in increasing order: what comes
before the first is not in the set.
-/

namespace LtiLaunch.Unicode

structure CodePointSet where
  changes : List Nat

namespace CodePointSet

def ofChanges (changes : List Nat) : CodePointSet := ⟨changes⟩

/-- Whether `n` is a member, given whether the code points before the next change are. -/
def memFrom (n : Nat) (inside : Bool) : List Nat → Bool
  | [] => inside
  | c :: rest => if n < c then inside else memFrom n (!inside) rest

def mem (s : CodePointSet) (n : Nat) : Bool := memFrom n false s.changes

def contains (s : CodePointSet) (c : Char) : Bool := s.mem c.toNat

end CodePointSet

end LtiLaunch.Unicode
