import LtiLaunch.Files.Basic
import LtiLaunch.Files.Path
import LtiLaunch.Text.Utf8

/-!
# File trees

A tree of directories and files, seen from its root. A path is followed a piece at a time: `.`
stays, `..` goes up, and every step starts in a directory. An absolute path leads out of the tree,
and so does going up from its root.
-/

namespace LtiLaunch

inductive FileNode
  | directory
  | file (content : List UInt8)
  deriving DecidableEq, Repr

/-- The nodes below the root, by the names on the way to them, and when each was last changed. -/
structure FileTree where
  nodes : List (List String × FileNode × Instant)

namespace FileTree

def empty : FileTree := ⟨[]⟩

def node? (t : FileTree) : List String → Option FileNode
  | [] => some .directory
  | place => (t.nodes.find? (·.1 == place)).map (·.2.1)

def isDirectory (t : FileTree) (place : List String) : Bool := t.node? place == some .directory

def put (t : FileTree) (place : List String) (node : FileNode) (modified : Instant) : FileTree :=
  ⟨(place, node, modified) :: t.nodes.filter (·.1 != place)⟩

/-- The place that the pieces lead to from a directory, if each of them can be followed. -/
def follow? (t : FileTree) (place : List String) : List String → Option (List String)
  | [] => some place
  | piece :: rest =>
    if !t.isDirectory place then none
    else if Path.isIdle piece then t.follow? place rest
    else if piece = ".." then if place = [] then none else t.follow? place.dropLast rest
    else if (t.node? (place ++ [piece])).isSome then t.follow? (place ++ [piece]) rest
    else none

def place? (t : FileTree) (path : String) : Option (List String) :=
  if path.isEmpty || Path.isAbsolute path then none else t.follow? [] (Path.pieces path)

def at? (t : FileTree) (path : String) : Option FileNode := t.place? path >>= t.node?

def read (t : FileTree) (path : String) : Option String :=
  match t.at? path with
  | some (.file content) => (Text.ofUtf8? content).map String.ofList
  | _ => none

def maxNameLength : Nat := 255

def canName (name : String) : Bool :=
  name.utf8ByteSize ≤ maxNameLength && !name.toList.contains '\x00'

/-- Whether all that follows only says to stay, and says so: a directory that is not there yet
cannot be named that way. -/
def staysPut (pieces : List String) : Bool := pieces.contains "." && pieces.all Path.isIdle

/-- Follows the pieces and makes the directories that are missing. -/
def makeWay? (now : Instant) (t : FileTree) (place : List String) :
    List String → FileTree × Bool
  | [] => (t, t.isDirectory place)
  | piece :: rest =>
    if !t.isDirectory place then (t, false)
    else if Path.isIdle piece then makeWay? now t place rest
    else if piece = ".." then
      if place = [] then (t, false) else makeWay? now t place.dropLast rest
    else if (t.node? (place ++ [piece])).isSome then makeWay? now t (place ++ [piece]) rest
    else if canName piece && !staysPut rest then
      makeWay? now (t.put (place ++ [piece]) .directory now) (place ++ [piece]) rest
    else (t, false)

def makeDirectory (now : Instant) (t : FileTree) (path : String) : FileTree × Bool :=
  if path.isEmpty || Path.isAbsolute path then (t, false) else makeWay? now t [] (Path.pieces path)

/-- Puts a node where the path says, with the directories above it. -/
def plant (now : Instant) (t : FileTree) (path : String) (node : FileNode) : FileTree :=
  let place := (Path.pieces path).filter (!Path.isIdle ·)
  let above := (List.range place.length).map (place.take ·)
  let t := above.foldl (fun t p => if (t.node? p).isSome then t else t.put p .directory now) t
  t.put place node now

def isEntryOf (place : List String) (n : List String × FileNode × Instant) : Bool :=
  !n.1.isEmpty && n.1.dropLast == place

def entries (t : FileTree) (path : String) : Option (List DirectoryEntry) := do
  let place ← t.place? path
  if t.isDirectory place then
    return (t.nodes.filter (isEntryOf place)).map fun (p, node, modified) =>
      ⟨p.getLast?.getD "", node != .directory, modified⟩
  else none

def remove (t : FileTree) (path : String) : FileTree × Bool :=
  match t.place? path with
  | some place =>
    match t.node? place with
    | some (.file _) => (⟨t.nodes.filter (·.1 != place)⟩, true)
    | _ => (t, false)
  | none => (t, false)

/-- Access to the files of a tree, when the time does not pass. -/
def files (now : Instant) : Files (StateM FileTree) where
  read path := return (← get).read path
  isPresent path := return ((← get).at? path).isSome
  makeDirectory path := modifyGet fun t => (t.makeDirectory now path).swap
  entries path := return (← get).entries path
  remove path := modifyGet fun t => (t.remove path).swap

end FileTree

end LtiLaunch
