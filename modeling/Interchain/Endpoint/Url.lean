import Interchain.Endpoint.Host
import Interchain.Endpoint.Path

/-!
# Addresses of gateways

An address is parsed into its parts, relative references are resolved against
it, and it is written back in its normal form: scheme and host lowered, a
default port left out, steps to the same or to the parent directory carried
out, and characters that a part may not hold percent-encoded.
-/

namespace Interchain

/-- The path of an address: a text without structure, or segments that each follow
a slash. -/
inductive UrlPath where
  | text (value : String)
  | segments (value : String)
deriving DecidableEq, Repr

/-- An address in normal form. -/
structure Url where
  scheme : String
  user : String
  password : String
  /-- `none` where the address has no authority at all. -/
  host : Option String
  port : Option Nat
  path : UrlPath
  query : Option String
  fragment : Option String
deriving DecidableEq, Repr

/-- The path as it is written.  Without a host, two slashes in front would be taken
for the beginning of one. -/
def UrlPath.render (path : UrlPath) (hasHost : Bool) : String :=
  match path with
  | .text t => t
  | .segments t => if !hasHost ∧ t.startsWith "//" then "/." ++ t else t

namespace Url

/-- The schemes whose addresses always have a host and a path, with the port
each of them implies. -/
def specialSchemes : List (String × Option Nat) :=
  [("http", some 80), ("https", some 443), ("ws", some 80), ("wss", some 443), ("ftp", some 21),
   ("file", none)]

def isSpecial (scheme : String) : Bool :=
  specialSchemes.any fun s => s.1 == scheme

/-- What a scheme makes of paths. -/
def pathRules (scheme : String) : PathRules :=
  ⟨isSpecial scheme, scheme == "file"⟩

def defaultPort? (scheme : String) : Option Nat :=
  (specialSchemes.find? fun s => s.1 == scheme).bind Prod.snd

/-! ## Writing -/

/-- User and password in front of the host. -/
def credentials (u : Url) : String :=
  if u.user = "" ∧ u.password = "" then ""
  else u.user ++ (if u.password = "" then "" else ":" ++ u.password) ++ "@"

/-- The address as it is written. -/
def render (u : Url) : String :=
  u.scheme ++ ":" ++
    (match u.host with
      | none => ""
      | some host =>
        "//" ++ u.credentials ++ host ++
          match u.port with
          | none => ""
          | some p => ":" ++ Decimal.naturalText p) ++
    u.path.render u.host.isSome ++
    (match u.query with
      | none => ""
      | some q => "?" ++ q) ++
    match u.fragment with
    | none => ""
    | some f => "#" ++ f

/-- The address without user and password, if these can be sent apart from it. -/
def anonymous (u : Url) : Url :=
  let user := u.user.toList
  let password := u.password.toList
  if Percent.isDecodable user ∧ (!user.isEmpty ∨ Percent.isDecodable password) then
    { u with user := "", password := "" }
  else u

/-- The most bytes of an address that a request can be sent to. -/
def maxSent : Nat := 65534

/-- Whether requests can be sent to an address.  Some characters that a host may hold
cannot be sent. -/
def isSendable (u : Url) : Bool :=
  (u.scheme == "http" || u.scheme == "https") &&
    (u.host.all fun host => host.toList.all fun c =>
      !(['"', Char.ofNat 0x60, '\x7b', '\x7d'].contains c)) &&
    u.anonymous.render.utf8ByteSize ≤ maxSent

/-! ## Reading -/

/-- Characters that are dropped at the ends of an address. -/
def isEdge (c : Char) : Bool := c.toNat ≤ 0x20

/-- The text without controls and spaces at its ends, and without tabs and line
ends anywhere. -/
def clean (s : String) : List Char :=
  let cs := ((s.toList.dropWhile isEdge).reverse.dropWhile isEdge).reverse
  cs.filter fun c => c ≠ '\t' ∧ c ≠ '\n' ∧ c ≠ '\r'

/-- The text before the first of a character, and what follows it. -/
def cut (separator : Char) (cs : List Char) : List Char × Option (List Char) :=
  match cs.dropWhile (· ≠ separator) with
  | [] => (cs, none)
  | _ :: rest => (cs.takeWhile (· ≠ separator), some rest)

/-- The scheme and what follows its colon. -/
def scheme? (cs : List Char) : Option (String × List Char) :=
  match cs with
  | [] => none
  | c :: _ =>
    if c.isAlpha then
      let name := cs.takeWhile fun c => c.isAlphanum || c == '+' || c == '-' || c == '.'
      match cs.drop name.length with
      | ':' :: rest => some (String.ofList (name.map Char.toLower), rest)
      | _ => none
    else none

/-- The text before the last of a character, and what follows it. -/
def cutLast (separator : Char) (cs : List Char) : Option (List Char) × List Char :=
  match cs.reverse.dropWhile (· ≠ separator) with
  | [] => (none, cs)
  | _ :: front => (some front.reverse, (cs.reverse.takeWhile (· ≠ separator)).reverse)

/-- The host and the text after the colon behind it, if there is one.  Colons in
brackets belong to the host. -/
def hostAndPort (inside : Bool) : List Char → List Char × Option (List Char)
  | [] => ([], none)
  | c :: rest =>
    if c = ':' ∧ !inside then ([], some rest)
    else
      let (host, port) := hostAndPort (c = '[' ∨ (inside ∧ c ≠ ']')) rest
      (c :: host, port)

/-- A port; an empty one and the one that the scheme implies are left out. -/
def port? (scheme : String) (cs : List Char) : Option (Option Nat) :=
  if cs.isEmpty then some none
  else if cs.all Char.isDigit then
    let n := cs.foldl (fun n c => n * 10 + (c.toNat - 48)) 0
    if 65535 < n then none else some (if defaultPort? scheme = some n then none else some n)
  else none

/-- What stands between the slashes behind a scheme and the path. -/
structure Authority where
  user : String
  password : String
  host : String
  port : Option Nat
  /-- What is left for the path. -/
  rest : List Char
deriving DecidableEq, Repr

/-- Read user, password, host and port from a text with a path behind them.
`isAlone` says that nothing follows the text, so that it may consist of an empty
user alone. -/
def authority? (scheme : String) (cs : List Char) (isAlone : Bool) : Option Authority := do
  let special := isSpecial scheme
  let place := cs.takeWhile fun c => !(pathRules scheme).isSlash c
  let rest := cs.drop place.length
  let (info, place) := cutLast '@' place
  let (host, port) := hostAndPort false place
  let (user, password) := cut ':' (info.getD [])
  let hasUser := !user.isEmpty || !(password.getD []).isEmpty
  if info = some [] ∧ place.isEmpty ∧ !(isAlone ∧ rest.isEmpty) then none
  else if host.isEmpty ∧ (special ∨ hasUser ∨ port.isSome) then none
  else
    let host ← if special then Host.special? host else Host.plain? host
    let (digits, behind) := (port.getD []).span (· ≠ '\\')
    let port ← port? scheme digits
    let encode := fun cs => String.ofList (Percent.encode Percent.inUserInfo cs)
    return ⟨encode user, encode (password.getD []), String.ofList host, port, behind ++ rest⟩

/-- The query of an address. -/
def queryText (special : Bool) (cs : List Char) : String :=
  String.ofList (Percent.encode (if special then Percent.inSpecialQuery else Percent.inQuery) cs)

def fragmentText (cs : List Char) : String :=
  String.ofList (Percent.encode Percent.inFragment cs)

/-- The path of an address with a host. -/
def pathOf (scheme : String) (cs : List Char) : UrlPath :=
  .segments (String.ofList (Course.start (pathRules scheme) cs).path)

/-- Host and path of a file: the host may be left out, this host counts as none, and
behind a drive there is none either. -/
def file? (cs : List Char) : Option (String × UrlPath) :=
  let rules := pathRules "file"
  match cs with
  | a :: b :: rest =>
    if rules.isSlash a && rules.isSlash b then
      let host := rest.takeWhile fun c => !rules.isSlash c
      if host.isEmpty ∨ Course.isDrive host then some ("", pathOf "file" rest)
      else
        (Host.special? host).map fun h =>
          let course := Course.start rules (rest.drop host.length)
          let host := String.ofList h
          (if host = "localhost" ∨ course.hasDrive then "" else host,
            .segments (String.ofList course.path))
    else some ("", pathOf "file" cs)
  | cs => some ("", pathOf "file" cs)

/-- The address that a text denotes, which must be absolute. -/
def parse? (s : String) : Option Url := do
  let (scheme, rest) ← scheme? (clean s)
  let (rest, fragment) := cut '#' rest
  let (front, query) := cut '?' rest
  let special := isSpecial scheme
  let isAlone := query.isNone && fragment.isNone
  let query := query.map (queryText special)
  let fragment := fragment.map fragmentText
  if scheme = "file" then
    let (host, path) ← file? front
    return ⟨scheme, "", "", some host, none, path, query, fragment⟩
  else if special then
    let a ← authority? scheme (front.dropWhile (pathRules scheme).isSlash) isAlone
    return ⟨scheme, a.user, a.password, some a.host, a.port, pathOf scheme a.rest, query, fragment⟩
  else
    match front with
    | '/' :: '/' :: front =>
      let a ← authority? scheme front isAlone
      return ⟨scheme, a.user, a.password, some a.host, a.port, pathOf scheme a.rest, query,
        fragment⟩
    | '/' :: _ => return ⟨scheme, "", "", none, none, pathOf scheme front, query, fragment⟩
    | _ =>
      let path := String.ofList (Percent.encode Percent.inControls front)
      return ⟨scheme, "", "", none, none, .text path, query, fragment⟩

/-- The address with a slash at the end of its path.  A text without structure does
not begin with a slash, so that one in front is encoded. -/
def asDirectory (u : Url) : Url :=
  match u.path with
  | .text t =>
    if t.endsWith "/" then u
    else { u with path := .text (if t = "" then "%2F" else t ++ "/") }
  | .segments t => if t.endsWith "/" then u else { u with path := pathOf u.scheme (t ++ "/").toList }

/-- Resolve a reference that starts with a segment of a path.  An address whose
path has no segments has nothing to resolve against. -/
def resolve? (base : Url) (reference : String) : Option Url :=
  match base.path with
  | .text _ => none
  | .segments t =>
    let rules := pathRules base.scheme
    let (rest, fragment) := cut '#' (clean reference)
    let (front, query) := cut '?' rest
    let parent := Course.pop rules t.toList
    let course := Course.follow rules (if parent.isEmpty then ['/'] else parent) front
    some { base with
      path := .segments (String.ofList course.path)
      query := query.map (queryText rules.isSpecial)
      fragment := fragment.map fragmentText }

end Url

end Interchain
