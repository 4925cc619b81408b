import Scenarist.Url.Host

/-!
# Addresses

An absolute address of the web: a scheme, perhaps a host with a port and user information, a path,
a query and a fragment. The schemes that are known have a host always and a path that begins with
a slash. The path of an address without a host may be any text.
-/

namespace Scenarist.Url

/-- The path of an address. -/
inductive Path where
  /-- The segments after the slashes. -/
  | segments (list : List (List Char))
  /-- A text without a slash at its start. -/
  | text (cs : List Char)
deriving DecidableEq, Repr

/-- An absolute address. -/
structure Address where
  scheme : List Char
  userinfo : List Char
  host : Option Host
  port : Option Nat
  path : Path
  query : Option (List Char)
  fragment : Option (List Char)
deriving DecidableEq, Repr

/-- The port that goes without saying, for a scheme that has one. -/
def defaultPort? (scheme : List Char) : Option Nat :=
  [("http", 80), ("ws", 80), ("https", 443), ("wss", 443), ("ftp", 21)].lookup
    (String.ofList scheme)

/-- The scheme is known; the path of such an address takes backslashes for slashes. -/
def isSpecial (scheme : List Char) : Bool :=
  (defaultPort? scheme).isSome || scheme = "file".toList

namespace Address

/-- The text of a path. -/
def pathText (a : Address) : List Char :=
  match a.path with
  | .text cs => cs
  | .segments list =>
    let text := list.flatMap fun s => '/' :: s
    match list with
    | [] :: _ :: _ => if a.host.isNone then '/' :: '.' :: text else text
    | _ => text

/-- The host with the port, if it has to be said. -/
def hostText (a : Address) : List Char :=
  match a.host with
  | none => []
  | some h =>
    '/' :: '/' :: (if a.userinfo.isEmpty then [] else a.userinfo ++ ['@']) ++ h.text ++
      (match a.port with
        | none => []
        | some p => ':' :: Nat.toDigits 10 p)

/-- The text of an address up to its fragment. -/
def requestText (a : Address) : List Char :=
  a.scheme ++ ':' :: a.hostText ++ a.pathText ++
    (match a.query with
      | none => []
      | some q => '?' :: q)

/-- The text of an address. -/
def text (a : Address) : List Char :=
  a.requestText ++
    (match a.fragment with
      | none => []
      | some f => '#' :: f)

/-- The address has a pair with the given name in its query. -/
def hasPair (a : Address) (name : String) : Bool :=
  match a.query with
  | none => false
  | some q => (pairNames q).contains (Text.bytes name.toList)

/-- The address with one more pair at the end of its query. -/
def appendPair (a : Address) (name value : String) : Address :=
  let pair := pairEncode name.toList ++ '=' :: pairEncode value.toList
  { a with query := some (match a.query with
      | none => pair
      | some [] => pair
      | some q => q ++ '&' :: pair) }

/-- The address without user information. -/
def anonymous (a : Address) : Address := { a with userinfo := [] }

end Address

/-! ### Reading -/

/-- Takes a scheme and its colon off a text. -/
def schemeOf? (acc : List Char) : List Char → Option (List Char × List Char)
  | [] => none
  | ':' :: cs => if acc.isEmpty then none else some (acc.reverse, cs)
  | c :: cs =>
    let inside := c.isAlphanum || c = '+' || c = '-' || c = '.'
    if (if acc.isEmpty then c.isAlpha else inside) then schemeOf? (c.toLower :: acc) cs else none

/-- A slash, or a backslash where it counts as one. -/
def isSlash (special : Bool) (c : Char) : Bool := c = '/' || (special && c = '\\')

/-- The character ends the host of an address. -/
def endsHost (special : Bool) (c : Char) : Bool := isSlash special c || c = '?' || c = '#'

/-- User information: the name and perhaps a password after a colon, both encoded. -/
def userinfoText (cs : List Char) : List Char :=
  let name := percentEncode inUserinfo (cs.takeWhile (· ≠ ':'))
  let password := percentEncode inUserinfo ((cs.dropWhile (· ≠ ':')).drop 1)
  if password.isEmpty then name else name ++ ':' :: password

/-- The user information before the last at sign, and the rest. -/
def splitUserinfo (authority : List Char) : Option (List Char) × List Char :=
  match (authority.reverse.span (· ≠ '@')) with
  | (host, _ :: info) => (some info.reverse, host.reverse)
  | (_, []) => (none, authority)

/-- The host at the start of a text, and the rest from a colon outside brackets on. -/
def splitHost (inside : Bool) : List Char → List Char × List Char
  | [] => ([], [])
  | c :: cs =>
    if c = ':' && !inside then ([], c :: cs)
    else
      let (h, rest) := splitHost (if c = '[' then true else if c = ']' then false else inside) cs
      (c :: h, rest)

/-- A port, unless it goes without saying. -/
def portOf (scheme cs : List Char) : Except Flaw (Option Nat) :=
  if cs.isEmpty then .ok none
  else
    match if cs.all Char.isDigit then Text.numberIn? 10 cs else none with
    | some n =>
      if 65535 < n then .error .port
      else if defaultPort? scheme = some n then .ok none
      else .ok (some n)
    | none => .error .port

/-- User information, host and port. -/
def authorityOf (scheme authority : List Char) :
    Except Flaw (List Char × Host × Option Nat) := do
  let special := isSpecial scheme
  let (info, rest) := splitUserinfo authority
  let (host, after) := splitHost false rest
  if host.isEmpty && (special || info.isSome || !after.isEmpty) then throw .emptyHost
  let h ← if special then specialHost host else otherHost host
  let port ← portOf scheme (after.drop 1)
  return ((info.map userinfoText).getD [], h, port)

/-- The segment leads to where it is in. -/
def isSingleDot (s : List Char) : Bool :=
  [".", "%2e"].contains (String.ofList (s.map Char.toLower))

/-- The segment leads above where it is in. -/
def isDoubleDot (s : List Char) : Bool :=
  ["..", "%2e.", ".%2e", "%2e%2e"].contains (String.ofList (s.map Char.toLower))

/-- Resolves the dots among segments; `done` holds the segments so far, backwards. -/
def resolveDots (done : List (List Char)) : List (List Char) → List (List Char)
  | [] => done.reverse
  | [s] =>
    if isDoubleDot s then ([] :: done.tail).reverse
    else if isSingleDot s then ([] :: done).reverse
    else (s :: done).reverse
  | s :: rest =>
    if isDoubleDot s then resolveDots done.tail rest
    else if isSingleDot s then resolveDots done rest
    else resolveDots (s :: done) rest

/-- Cuts a path at its slashes. -/
def cutSegments (special : Bool) (cs : List Char) : List (List Char) :=
  cutAt '/' (cs.map fun c => if isSlash special c then '/' else c)

/-- The segments of a path, given what follows its first slash. -/
def segmentsOf (special : Bool) (cs : List Char) : Path :=
  .segments (resolveDots [] ((cutSegments special cs).map (percentEncode inPath)))

/-- The path of an address with a host. -/
def pathAfterHost (special : Bool) (cs : List Char) : Path :=
  match cs with
  | [] => if special then .segments [[]] else .segments []
  | c :: rest => if isSlash special c then segmentsOf special rest else segmentsOf special cs

/-- A text up to a character, and what follows the character, if it occurs. -/
def splitAtFirst (c : Char) (cs : List Char) : List Char × Option (List Char) :=
  match cs.span (· ≠ c) with
  | (front, _ :: back) => (front, some back)
  | (front, []) => (front, none)

/-- Controls and blanks at either end of an address do not count, nor do tabs and line ends. -/
def cleaned (cs : List Char) : List Char :=
  let drop (l : List Char) := l.dropWhile fun c => c.toNat ≤ 0x20
  (drop (drop cs).reverse).reverse.filter fun c => c ≠ '\t' && c ≠ '\n' && c ≠ '\r'

/-- Host and path of an address, which come after the scheme. -/
def hierarchyOf (scheme cs : List Char) :
    Except Flaw (List Char × Option Host × Option Nat × Path) :=
  let special := isSpecial scheme
  let withHost (cs : List Char) : Except Flaw (List Char × Option Host × Option Nat × Path) := do
    let authority := cs.takeWhile fun c => !endsHost special c
    let rest := cs.dropWhile fun c => !endsHost special c
    let (info, host, port) ← authorityOf scheme authority
    return (info, some host, port, pathAfterHost special rest)
  if scheme = "file".toList then
    if 2 ≤ (cs.takeWhile (isSlash true)).length then do
      let name := (cs.drop 2).takeWhile fun c => !endsHost true c
      let host ← fileHost name
      return ([], some host, none, pathAfterHost true (cs.drop (2 + name.length)))
    else .ok ([], some (.name []), none, pathAfterHost true cs)
  else if special then withHost (cs.dropWhile (isSlash true))
  else
    match cs with
    | '/' :: '/' :: rest => withHost rest
    | '/' :: rest => .ok ([], none, none, segmentsOf false rest)
    | cs => .ok ([], none, none, .text (percentEncode isControl cs))

/-- Reads an absolute address. -/
def parse (s : String) : Except Flaw Address :=
  match schemeOf? [] (cleaned s.toList) with
  | none => .error .relative
  | some (scheme, rest) => do
    let (rest, fragment) := splitAtFirst '#' rest
    let (rest, query) := splitAtFirst '?' rest
    let (userinfo, host, port, path) ← hierarchyOf scheme rest
    let querySet := if isSpecial scheme then inSpecialQuery else inQuery
    return {
      scheme := scheme
      userinfo := userinfo
      host := host
      port := port
      path := path
      query := query.map (percentEncode querySet)
      fragment := fragment.map (percentEncode inFragment) }

end Scenarist.Url
