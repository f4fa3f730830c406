import LtiLaunch.Url.HostName
import LtiLaunch.Url.Ipv6

/-!
# Addresses

Which texts are absolute addresses of documents. Only the scheme and what stands between the slashes
and the path can be wrong: every path, query and fragment is accepted.
-/

namespace LtiLaunch.Url

/-- Schemes whose addresses name a host, and may be written with backslashes. -/
def specialSchemes : List String := ["http", "https", "ws", "wss", "ftp"]

def splitScheme? (cs : List Char) : Option (String × List Char) :=
  match cs with
  | [] => none
  | c :: _ =>
    if c.isAlpha then
      let scheme := cs.takeWhile (fun c => c.isAlphanum || c == '+' || c == '-' || c == '.')
      match cs.drop scheme.length with
      | ':' :: rest => some (String.ofList (scheme.map Char.toLower), rest)
      | _ => none
    else none

def endsAuthority (special : Bool) (c : Char) : Bool :=
  c == '/' || c == '?' || c == '#' || (special && c == '\\')

def splitUser? (cs : List Char) : Option (List Char × List Char) :=
  let host := (cs.reverse.takeWhile (· != '@')).reverse
  if host.length < cs.length then some (cs.take (cs.length - host.length - 1), host) else none

/-- The host and the rest from the colon of the port on; colons in brackets belong to the host. -/
def splitPort : Bool → List Char → List Char × List Char
  | _, [] => ([], [])
  | inside, c :: cs =>
    if c == ':' && !inside then ([], c :: cs)
    else
      let inside := if c == '[' then true else if c == ']' then false else inside
      let (host, rest) := splitPort inside cs
      (c :: host, rest)

def validPort (cs : List Char) : Bool :=
  let (digits, rest) := Decimal.takeDigits cs
  Decimal.ofDigits digits ≤ 65535 && (rest.isEmpty || rest.head? == some '\\')

def validHost (name : List Char → Bool) (host : List Char) : Bool :=
  match host with
  | '[' :: rest => rest.getLast? == some ']' && Ipv6.valid rest.dropLast
  | _ => name host

/-- Whether a host is accepted where hosts are not looked up. -/
def validOpaque (host : List Char) : Bool :=
  host.all (fun c => c.toNat != 0 && !"\t\n\r #/:<>?@[\\]^|".toList.contains c)

/-- Whether a user or a password is left, once the colon between them is taken away. -/
def namesUser (user : List Char) : Bool := user != [] && user != [':']

/-- What stands between the slashes and the path: user, host and port. -/
def validAuthority (special : Bool) (cs : List Char) : Bool :=
  let authority := cs.takeWhile (!endsAuthority special ·)
  let path := cs.dropWhile (!endsAuthority special ·)
  let (user, place) := (splitUser? authority).getD ([], authority)
  let (host, port) := splitPort false place
  if (splitUser? authority).isSome && user.isEmpty && place.isEmpty && !path.isEmpty then false
  else if host.isEmpty then !special && port.isEmpty && !namesUser user
  else
    validHost (if special then HostName.valid else validOpaque) host &&
      match port with
      | ':' :: digits => validPort digits
      | _ => true

def isDrive : List Char → Bool
  | [c, d] => c.isAlpha && (d == ':' || d == '|')
  | _ => false

def isSlash (c : Char) : Bool := c == '/' || c == '\\'

/-- What follows the scheme of a file: after two slashes there may be a host. -/
def validFile : List Char → Bool
  | a :: b :: rest =>
    if isSlash a && isSlash b then
      let host := rest.takeWhile (!endsAuthority true ·)
      host.isEmpty || isDrive host || validHost HostName.valid host
    else true
  | _ => true

/-- The text without control characters and spaces at its ends, and without tabs and line ends. -/
def strip (cs : List Char) : List Char :=
  let isEdge (c : Char) : Bool := c.toNat ≤ 0x20
  let inner := ((cs.dropWhile isEdge).reverse.dropWhile isEdge).reverse
  inner.filter (fun c => c != '\t' && c != '\n' && c != '\r')

def valid (text : String) : Bool :=
  match splitScheme? (strip text.toList) with
  | none => false
  | some (scheme, rest) =>
    if scheme = "file" then validFile rest
    else if specialSchemes.contains scheme then validAuthority true (rest.dropWhile isSlash)
    else match rest with
      | '/' :: '/' :: rest => validAuthority false rest
      | _ => true

end LtiLaunch.Url
