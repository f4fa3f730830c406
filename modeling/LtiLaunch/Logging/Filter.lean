import LtiLaunch.Decimal.Digits
import LtiLaunch.Logging.Level
import LtiLaunch.Text.Blank
import LtiLaunch.Text.Find
import LtiLaunch.Unicode.Category

/-!
# Log filters

A filter is a list of directives, each of which lets entries through up to a level: those whose
target begins with the directive's target. Of the directives that apply, the one with the longest
target decides, and of two for the same target the later.
-/

namespace LtiLaunch

/-- What is let through: nothing, or the levels up to one. -/
abbrev Verbosity := Option LogLevel

namespace Verbosity

def allows : Verbosity → LogLevel → Bool
  | none, _ => false
  | some most, level => level.rank ≤ most.rank

def ofNumber? : Nat → Option Verbosity
  | 0 => some none
  | n => (LogLevel.all.find? (·.rank == n)).map some

def number? (cs : List Char) : Option Nat :=
  let cs := match cs with
    | '+' :: rest => rest
    | cs => cs
  match Decimal.takeDigits cs with
  | ([], _) => none
  | (ds, []) => some (Decimal.ofDigits ds)
  | _ => none

def ofName? (cs : List Char) : Option Verbosity :=
  let word := cs.map Char.toLower
  if word = "off".toList then some none
  else (LogLevel.all.find? (fun l => l.name.toList.map Char.toLower == word)).map some

/-- A level word: the name of a level in any case, `off`, or a number up to five. -/
def ofWord? (cs : List Char) : Option Verbosity :=
  ((number? cs).bind ofNumber?).or (ofName? cs)

/-- What may follow an equals sign: a level word, or nothing for all levels. -/
def ofSetting? (cs : List Char) : Option Verbosity :=
  if cs = [] then some (some .trace) else ofWord? cs

end Verbosity

/-- One rule of a filter. A rule in spans is about what happens inside certain spans, and lets
nothing through outside them. -/
structure Directive where
  target : Option String
  inSpans : Bool
  verbosity : Verbosity
  deriving DecidableEq, Repr

namespace Directive

def ofTarget (target : String) (verbosity : Verbosity) : Directive :=
  ⟨some target, false, verbosity⟩

/-- Whether the directive applies to entries with the target, outside any span. -/
def governs (d : Directive) (target : String) : Bool :=
  !d.inSpans &&
    match d.target with
    | none => true
    | some t => t.toList.isPrefixOf target.toList

/-- The length of the target; a directive without one is the least specific. -/
def specificity (d : Directive) : Nat :=
  match d.target with
  | none => 0
  | some t => t.length + 1

/-! ### Reading a directive -/

def byteLength (cs : List Char) : Nat := cs.foldr (fun c n => c.utf8Size + n) 0

/-- The text before and after an offset in bytes. -/
def cutBytes : Nat → List Char → List Char × List Char
  | 0, cs => ([], cs)
  | _ + 1, [] => ([], [])
  | n + 1, c :: cs =>
    let (before, after) := cutBytes (n + 1 - c.utf8Size) cs
    (c :: before, after)

/-- The characters a directive can begin with, unless it begins with a span. -/
def isStart (c : Char) : Bool := c == '-' || c == ':' || c == '_' || Unicode.isAlphanumeric c

def beginsWell : List Char → Bool
  | [] => false
  | c :: _ => c == '[' || isStart c

/-- The text after the fields of a span and the span itself. -/
def afterFields? : List Char → Option (List Char)
  | [] => none
  | '\x7d' :: rest =>
    match rest with
    | ']' :: rest => some rest
    | _ => none
  | _ :: rest => afterFields? rest

/-- The text after the description of a span; braces in it have to name a field. -/
def afterSpan? : List Char → Option (List Char)
  | [] => none
  | ']' :: rest => some rest
  | '\x7b' :: '\x7d' :: _ => none
  | '\x7b' :: rest => afterFields? rest
  | _ :: rest => afterSpan? rest

def isTargetChar (c : Char) : Bool := c != '=' && c != '['

/-- A directive that is a single word: a level for all targets, or a target at all levels. -/
def ofWord (piece : List Char) : Directive :=
  match Verbosity.ofWord? piece with
  | some v => ⟨none, false, v⟩
  | none => ofTarget (String.ofList piece) (some .trace)

def target? (n : Nat) (piece : List Char) : Option String :=
  if n = 0 then none else some (String.ofList (cutBytes n piece).1)

/-- Reads one piece of a filter. Where its parts begin is found in the piece without the white space
at its ends, but the parts are then taken from the piece as it is. -/
def ofPiece? (piece : List Char) : Option Directive :=
  let cs := Text.trimChars piece
  if !beginsWell cs then none
  else
    let n := byteLength (cs.takeWhile isTargetChar)
    match cs.dropWhile isTargetChar with
    | [] => some (ofWord piece)
    | '=' :: _ =>
      (Verbosity.ofSetting? (cutBytes (n + 1) piece).2).map fun v => ⟨target? n piece, false, v⟩
    | _ :: rest =>
      match afterSpan? rest with
      | none => none
      | some [] => some ⟨target? n piece, true, some .trace⟩
      | some ('=' :: level) =>
        (Verbosity.ofSetting? (cutBytes (byteLength cs - byteLength level) piece).2).map fun v =>
          ⟨target? n piece, true, v⟩
      | some _ => none

end Directive

structure Filter where
  directives : List Directive
  deriving DecidableEq, Repr

namespace Filter

def pieces (text : String) : List (List Char) :=
  (Text.splitOn ',' text.toList).filter (fun p => !p.isEmpty)

def parse? (text : String) : Option Filter :=
  ((pieces text).mapM Directive.ofPiece?).map Filter.mk

/-- The more specific of two directives, the later if they are equally specific. -/
def prefer (earlier : Option Directive) (later : Directive) : Option Directive :=
  match earlier with
  | some d => if d.specificity ≤ later.specificity then some later else some d
  | none => some later

def governing? (f : Filter) (target : String) : Option Directive :=
  (f.directives.filter (·.governs target)).foldl prefer none

def enables (f : Filter) (target : String) (level : LogLevel) : Bool :=
  match f.governing? target with
  | some d => d.verbosity.allows level
  | none => false

end Filter

end LtiLaunch
