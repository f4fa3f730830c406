import LtiLaunch.Http.Service

/-!
# Requests and responses as lines

A request is a line of its method, its target and its body, with a space between each two; the body
may be left out. A response is a line of its status and its body.
-/

namespace LtiLaunch.Http

/-- The text up to the first space, and what comes after it. -/
def firstWord (cs : List Char) : List Char × List Char :=
  (Text.cutAt ' ' cs).getD (cs, [])

def isMethodChar (c : Char) : Bool := c.isAlphanum || "!#$%&'*+-.^_`|~".toList.contains c

def isMethod (name : String) : Bool := !name.isEmpty && name.toList.all isMethodChar

def Request.ofLine? (line : String) : Option Request := do
  let (method, rest) := firstWord line.toList
  let (target, body) := firstWord rest
  let target ← Target.parse? (String.ofList target)
  let method := String.ofList method
  if isMethod method then some { method, target, body := Text.utf8 body } else none

def Response.line (r : Response) : String :=
  if r.body.isEmpty then toString r.status else toString r.status ++ " " ++ r.body

end LtiLaunch.Http
