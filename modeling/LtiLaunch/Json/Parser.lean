import LtiLaunch.Json.Token

/-!
# Reading JSON

A value is read from its tokens with a stack of the arrays and objects that are still open. One
token makes one step, so the reader needs no bound on the depth of a text.
-/

namespace LtiLaunch.Json

/-- An array or object that is still open, with what it has so far, the latest first. -/
inductive Frame
  | arr (elements : List Json)
  | obj (members : List (Option String × Json)) (name : Option String)

/-- What has been read, and what may come next. -/
inductive Progress
  | value (stack : List Frame)
  | element (elements : List Json) (stack : List Frame)
  | afterElement (elements : List Json) (stack : List Frame)
  | nameOrEnd (members : List (Option String × Json)) (stack : List Frame)
  | name (members : List (Option String × Json)) (stack : List Frame)
  | colon (members : List (Option String × Json)) (name : Option String) (stack : List Frame)
  | afterMember (members : List (Option String × Json)) (stack : List Frame)
  | finished (v : Json)

/-- A complete value takes its place in the innermost open array or object. -/
def deliver (v : Json) : List Frame → Progress
  | [] => .finished v
  | .arr xs :: stack => .afterElement (v :: xs) stack
  | .obj ms k :: stack => .afterMember ((k, v) :: ms) stack

/-- An object of members in reverse; if a name stands for nothing, so does the object. -/
def ofMembers (ms : List (Option String × Json)) : Json :=
  match ms.reverse.mapM (fun m => m.1.map (fun k => (k, m.2))) with
  | some ms => obj ms
  | none => unreadable

def Token.scalar? : Token → Option Json
  | null => some .null
  | bool b => some (.bool b)
  | num n => some ((n.map Json.num).getD unreadable)
  | str s => some ((s.map Json.str).getD unreadable)
  | _ => none

def startValue? (stack : List Frame) : Token → Option Progress
  | .leftBracket => some (.element [] stack)
  | .leftBrace => some (.nameOrEnd [] stack)
  | t => t.scalar?.map (deliver · stack)

/-- What the next token leads to; `trailing` allows a comma before a closing bracket or brace. -/
def step? (trailing : Bool) : Progress → Token → Option Progress
  | .value stack, t => startValue? stack t
  | .element xs stack, .rightBracket => some (deliver (arr xs.reverse) stack)
  | .element xs stack, t => startValue? (.arr xs :: stack) t
  | .afterElement xs stack, .comma =>
    some (if trailing then .element xs stack else .value (.arr xs :: stack))
  | .afterElement xs stack, .rightBracket => some (deliver (arr xs.reverse) stack)
  | .nameOrEnd ms stack, .rightBrace => some (deliver (ofMembers ms) stack)
  | .nameOrEnd ms stack, .str k => some (.colon ms k stack)
  | .name ms stack, .str k => some (.colon ms k stack)
  | .colon ms k stack, .colon => some (.value (.obj ms k :: stack))
  | .afterMember ms stack, .comma =>
    some (if trailing then .nameOrEnd ms stack else .name ms stack)
  | .afterMember ms stack, .rightBrace => some (deliver (ofMembers ms) stack)
  | _, _ => none

def ofTokens? (trailing : Bool) (ts : List Token) : Option Json :=
  match ts.foldlM (step? trailing) (.value []) with
  | some (.finished v) => some v
  | _ => none

def parse? (s : String) : Option Json := lex? s.toList >>= ofTokens? false

end LtiLaunch.Json
