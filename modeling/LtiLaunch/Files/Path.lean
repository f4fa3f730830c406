import LtiLaunch.Text.Find

/-!
# Paths

A path is text with `/` between its pieces. Joining and cutting keep the text as it was written: a
piece `.` or `..` stays where it is.
-/

namespace LtiLaunch.Path

def isAbsolute (p : String) : Bool := p.toList.head? == some '/'

/-- The path `p` seen from `base`. -/
def join (base p : String) : String :=
  if isAbsolute p then p
  else if base.isEmpty || base.toList.getLast? == some '/' then base ++ p
  else base ++ "/" ++ p

def pieces (p : String) : List String := (Text.splitOn '/' p.toList).map String.ofList

def isIdle (piece : String) : Bool := piece == "" || piece == "."

def dropIdle (ps : List String) : List String := (ps.reverse.dropWhile isIdle).reverse

/-- The path without its last piece that leads somewhere. A single piece leaves the empty path, and
the root and the empty path have no parent. -/
def parent? (p : String) : Option String :=
  match pieces p with
  | [] => none
  | first :: rest =>
    match dropIdle rest with
    | [] => if first = "" then none else some ""
    | named =>
      match dropIdle named.dropLast with
      | [] => some (if first = "" then "/" else first)
      | kept => some (Text.joinWith "/" (first :: kept))

/-- The directory that a file's neighbours are looked up in. -/
def directory (p : String) : String := (parent? p).getD "."

end LtiLaunch.Path
