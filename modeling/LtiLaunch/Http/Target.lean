import LtiLaunch.Text.Find

/-!
# Request targets

The path and the query of the address that a request is sent to. The address may be absolute, and a
fragment is not part of it.
-/

namespace LtiLaunch.Http

structure Target where
  path : String
  query : Option String
  deriving DecidableEq, Repr

namespace Target

def isPathChar (c : Char) : Bool :=
  c.toNat > 0x20 && c != '<' && c != '>' && c != '\\' && c != '^' && c != '`'

def isQueryChar (c : Char) : Bool := c.toNat > 0x20 && c != '<' && c != '>'

def ofPathAndQuery? (cs : List Char) : Option Target :=
  match Text.cutAt '?' cs with
  | some (path, query) =>
    if path.all isPathChar && query.all isQueryChar then
      some ⟨String.ofList path, some (String.ofList query)⟩
    else none
  | none => if cs.all isPathChar then some ⟨String.ofList cs, none⟩ else none

def afterScheme? : List Char → Option (List Char)
  | ':' :: '/' :: '/' :: rest => some rest
  | _ :: rest => afterScheme? rest
  | [] => none

def isAuthorityEnd (c : Char) : Bool := c == '/' || c == '?'

def parse? (s : String) : Option Target :=
  let cs := s.toList.takeWhile (· != '#')
  match cs with
  | [] => none
  | '/' :: _ => ofPathAndQuery? cs
  | _ =>
    match afterScheme? cs with
    | some rest =>
      match rest.dropWhile (!isAuthorityEnd ·) with
      | '/' :: path => ofPathAndQuery? ('/' :: path)
      | rest => ofPathAndQuery? ('/' :: rest)
    | none => some ⟨"", none⟩

end Target

end LtiLaunch.Http
