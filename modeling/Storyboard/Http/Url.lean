import Storyboard.HostName.Label
import Storyboard.Http.Address
import Storyboard.Text.LetterCase

/-!
# Addresses

An address is cut into its parts from the left: scheme, authority, path, query,
fragment. Each part is normalised on its own; characters that cannot stand in a
part are percent-encoded, and sequences that are percent-encoded already are kept.
A part that is replaced later on is normalised again, with all the others.
-/
namespace Storyboard.Http

/-- The parts of an address. -/
structure Url where
  scheme : String
  userInfo : String
  host : String
  port : Option Int
  path : String
  query : Option String
  fragment : Option String
  deriving DecidableEq, Repr

/-- Why a text is no address. -/
inductive UrlFault where
  | tooLong
  | longPart (name : String)
  | control (c : Char) (position : Nat)
  | badAddress (host : String)
  | badGroups (host : String)
  | badName (host : String)
  | badPort (port : String)
  | relativeUnderAuthority
  | doubleSlash
  | colonFirst
  deriving DecidableEq, Repr

def UrlFault.message : UrlFault → String
  | .tooLong => "URL too long"
  | .longPart name => "URL component " ++ Json.inspectString name ++ " too long"
  | .control c position =>
    "Invalid non-printable ASCII character in URL, " ++ Json.inspectString (String.singleton c) ++
      " at position " ++ toString position ++ "."
  | .badAddress host => "Invalid IPv4 address: " ++ Json.inspectString host
  | .badGroups host => "Invalid IPv6 address: " ++ Json.inspectString host
  | .badName host => "Invalid IDNA hostname: " ++ Json.inspectString host
  | .badPort port => "Invalid port: " ++ Json.inspectString port
  | .relativeUnderAuthority => "For absolute URLs, path must be empty or begin with '/'"
  | .doubleSlash => "Relative URLs cannot have a path starting with '//'"
  | .colonFirst => "Relative URLs cannot have a path starting with ':'"

/-- What stands before and behind the first character of a kind. -/
def splitAt? (stop : Char → Bool) (s : List Char) : Option (List Char × List Char) :=
  match s.dropWhile fun c => !stop c with
  | _ :: rest => some (s.takeWhile fun c => !stop c, rest)
  | [] => none

/-- The scheme, with what follows it. -/
def cutScheme (s : List Char) : List Char × List Char :=
  match splitAt? (· == ':') s with
  | some (name, rest) =>
    match name with
    | [] => ([], rest)
    | first :: more =>
      let follows (c : Char) : Bool := c.isAlphanum || ['+', '.', '-'].contains c
      if first.isAlpha && more.all follows then (name, rest) else ([], s)
  | none => ([], s)

/-- The authority, with what follows it. -/
def cutAuthority (s : List Char) : List Char × List Char :=
  match s with
  | '/' :: '/' :: rest =>
    let ends (c : Char) : Bool := c == '/' || c == '?' || c == '#'
    (rest.takeWhile fun c => !ends c, rest.dropWhile fun c => !ends c)
  | _ => ([], s)

/-- The part behind a mark, if the mark is there. -/
def cutBehind (mark : Char) (s : List Char) : List Char × Option (List Char) :=
  match splitAt? (· == mark) s with
  | some (before, behind) => (before, some behind)
  | none => (s, none)

/-- A host up to the first colon, with the port behind it. -/
def cutPlainHost (s : List Char) : List Char × List Char :=
  (s.takeWhile (· != ':'), (s.dropWhile (· != ':')).drop 1)

/-- User info, host and port of an authority; the last at sign ends the user info.
A host in brackets goes on to the last bracket. -/
def cutHost (authority : List Char) : List Char × List Char × List Char :=
  let reversed := authority.reverse
  let (userInfo, rest) := match splitAt? (· == '@') reversed with
    | some (behind, before) => (before.reverse, behind.reverse)
    | none => ([], authority)
  match rest with
  | '[' :: _ =>
    match splitAt? (· == ']') rest.reverse with
    | some (port, inner) =>
      let port := match port.reverse with
        | ':' :: port => port
        | port => port
      (userInfo, inner.reverse ++ [']'], port)
    | none => (userInfo, cutPlainHost rest)
  | _ => (userInfo, cutPlainHost rest)

/-- A host as it goes into an address: numbers are checked, ASCII is encoded, and
other names are written in ASCII. -/
def normalHost (host : List Char) : Except UrlFault String :=
  let name := String.ofList host
  if host.isEmpty then .ok ""
  else if looksNumeric host then
    if isFourBytes host then .ok name else .error (.badAddress name)
  else if host.head? == some '[' && host.getLast? == some ']' then
    let inner := host.tail.dropLast
    if isEightGroups inner then .ok (String.ofList inner) else .error (.badGroups name)
  else if host.all fun c => c.toNat < 128 then
    .ok (encodePart hostKept (host.map Char.toLower))
  else (HostName.write (Text.lower name)).mapError fun _ => .badName name

/-- The ports that go without saying. -/
def usualPort? : String → Option Int
  | "ftp" => some 21
  | "http" => some 80
  | "https" => some 443
  | "ws" => some 80
  | "wss" => some 443
  | _ => none

def normalPort (scheme : String) (port : List Char) : Except UrlFault (Option Int) :=
  if port.isEmpty then .ok none
  else match Numeral.parseInt? port with
    | none => .error (.badPort (String.ofList port))
    | some n => .ok (if usualPort? scheme == some n then none else some n)

/-- A path with its dot segments taken away. -/
def normalPath (path : List Char) : List Char :=
  let parts := pieces '/' path
  if parts.all fun p => p != ['.'] && p != ['.', '.'] then path
  else
    let kept := parts.foldl (fun out p =>
      if p == ['.'] then out
      else if p == ['.', '.'] then (if out.isEmpty || out == [[]] then out else out.dropLast)
      else out ++ [p]) []
    (kept.intersperse ['/']).flatten

/-- The position of a control character. -/
def controlAt? (index : Nat) : List Char → Option (Char × Nat)
  | [] => none
  | c :: rest =>
    if c.toNat < 0x20 || c.toNat == 0x7F then some (c, index) else controlAt? (index + 1) rest

namespace Url

/-- The longest address. -/
def lengthLimit : Nat := 65536

/-- Brings the parts of an address into their normal forms. -/
def normalize (scheme authority path : List Char) (query fragment : Option (List Char)) :
    Except UrlFault Url := do
  let (userInfo, host, port) := cutHost authority
  let host ← normalHost host
  let port ← normalPort (String.ofList scheme) port
  let scheme := String.ofList (scheme.map Char.toLower)
  let hasAuthority := !userInfo.isEmpty || host != "" || port.isSome
  if hasAuthority && !path.isEmpty && path.head? != some '/' then throw .relativeUnderAuthority
  if scheme == "" && !hasAuthority then
    if ['/', '/'].isPrefixOf path then throw .doubleSlash
    if [':'].isPrefixOf path then throw .colonFirst
  let path := if scheme != "" || hasAuthority then normalPath path else path
  return {
    scheme, host, port
    userInfo := encodePart (printableBut userInfoBarred) userInfo
    path := encodePart (printableBut pathBarred) path
    query := query.map (encodePart (printableBut queryBarred))
    fragment := fragment.map (encodePart (printableBut fragmentBarred)) }

/-- Reads an address. -/
def parse (text : String) : Except UrlFault Url := do
  let s := text.toList
  if lengthLimit < s.length then throw .tooLong
  if let some (c, position) := controlAt? 0 s then throw (.control c position)
  let (scheme, rest) := cutScheme s
  let (authority, rest) := cutAuthority rest
  let (rest, fragment) := cutBehind '#' rest
  let (path, query) := cutBehind '?' rest
  normalize scheme authority path query fragment

/-- The host with its port. -/
def netLocation (u : Url) : String :=
  (if u.host.toList.contains ':' then "[" ++ u.host ++ "]" else u.host) ++
    (match u.port with
      | some n => ":" ++ toString n
      | none => "")

def authority (u : Url) : String :=
  (if u.userInfo == "" then "" else u.userInfo ++ "@") ++ u.netLocation

def text (u : Url) : String :=
  (if u.scheme == "" then "" else u.scheme ++ ":") ++
    (if u.authority == "" then "" else "//" ++ u.authority) ++ u.path ++
    (match u.query with
      | some q => "?" ++ q
      | none => "") ++
    (match u.fragment with
      | some f => "#" ++ f
      | none => "")

def isAbsolute (u : Url) : Bool := u.scheme != "" && u.host != ""

/-- Normalises an address anew, after a part of it was replaced. -/
def renew (u : Url) : Except UrlFault Url := do
  let scheme := u.scheme.toList
  let authority := u.authority.toList
  let path := u.path.toList
  let query := u.query.map String.toList
  let fragment := u.fragment.map String.toList
  let parts := [("scheme", scheme), ("authority", authority), ("path", path),
    ("query", query.getD []), ("fragment", fragment.getD [])]
  if let some (name, _) := parts.find? fun p => lengthLimit < p.2.length then
    throw (.longPart name)
  normalize scheme authority path query fragment

/-- An address without scheme or host is taken from the root. -/
def fromRoot (u : Url) : Except UrlFault Url :=
  if u.isAbsolute then .ok u
  else
    let path := "/" ++ String.ofList (u.path.toList.dropWhile (· == '/'))
    renew ⟨"", "", "", none, path, u.query, none⟩

end Url

/-- A text as part of a query: blanks as plus signs. -/
def queryText (s : String) : String :=
  String.ofList (s.toList.flatMap fun c =>
    if c == ' ' then ['+'] else if isUnreserved c then [c] else percent c)

/-- The text of one parameter. -/
def parameterText : Json → String
  | .null => ""
  | .bool b => if b then "true" else "false"
  | v => v.display

/-- The parameters of a payload; a list gives one for each of its items. -/
def parameters (payload : Assoc Json) : List (String × String) :=
  payload.flatMap fun (key, v) =>
    match v with
    | .arr items => items.map fun item => (key, parameterText item)
    | v => [(key, parameterText v)]

/-- The query of a payload; none when the payload is empty. -/
def queryOf? (payload : Assoc Json) : Option String :=
  if payload.isEmpty then none
  else
    let terms := (parameters payload).map fun (k, v) => queryText k ++ "=" ++ queryText v
    some (String.intercalate "&" terms)

end Storyboard.Http
