import OutOfBand.Web.Host
import OutOfBand.Web.Path

/-!
# URLs

Absolute URLs as the generic grammar of the web reads and prints them. Reading brings a URL into its
normal form: the scheme and the host in lower case, the port left out where it is the usual one of
the scheme, dots in the path resolved, and what may not stand as it is written by its bytes in
percent. Credentials in a URL say nothing about where it leads and are passed over.
-/

namespace OutOfBand.Web

/-- An absolute URL in its normal form. -/
structure Url where
  scheme : String
  /-- The host as it is printed; absent if the URL has no place for one. -/
  host : Option String
  /-- The port, unless it is the usual one. -/
  port : Option Nat
  /-- The path as it is printed. -/
  path : String
  query : Option String
  fragment : Option String
  deriving DecidableEq, Repr, Inhabited

namespace Url

/-! ## Printing -/

/-- The URL as text. A path that begins with two slashes is kept from looking like a host. -/
def text (u : Url) : String :=
  let port := match u.port with
    | some port => s!":{port}"
    | none => ""
  let authority := match u.host with
    | some host => "//" ++ host ++ port
    | none => if ['/', '/'].isPrefixOf u.path.toList then "/." else ""
  let query := match u.query with
    | some query => "?" ++ query
    | none => ""
  let fragment := match u.fragment with
    | some fragment => "#" ++ fragment
    | none => ""
  u.scheme ++ ":" ++ authority ++ u.path ++ query ++ fragment

/-! ## Schemes -/

/-- The usual port of a scheme whose URLs always have a host. -/
def usualPort : String → Option Nat
  | "http" | "ws" => some 80
  | "https" | "wss" => some 443
  | "ftp" => some 21
  | _ => none

/-- The kind of the paths under a scheme. -/
def kindOf (scheme : String) : Path.Kind :=
  if scheme == "file" then .file
  else if (usualPort scheme).isSome then .web
  else .other

/-- What may not stand in a fragment. -/
def fragmentExtra : List Char := [' ', '"', '<', '>', Char.ofNat 0x60]

/-- What may not stand in the query of a URL. -/
def queryExtra (kind : Path.Kind) : List Char :=
  [' ', '"', '#', '<', '>'] ++ if kind == .other then [] else ['\'']

/-! ## Places

The place that a URL leads to is what stands between its scheme and its query. -/

/-- A host, if there is room for one, a port, and a path. -/
structure Place where
  host : Option String
  port : Option Nat
  path : String
  deriving DecidableEq, Repr, Inhabited

/-- The host of an authority, and what follows it from the first colon outside brackets on. -/
def splitHost (inside : Bool) : List Char → List Char × List Char
  | [] => ([], [])
  | c :: cs =>
    if c == ':' && !inside then ([], c :: cs)
    else
      let (host, rest) := splitHost (c == '[' || (inside && c != ']')) cs
      (c :: host, rest)

/-- The port that follows a host, if its colon and a digit do, and what follows the port: nothing,
or what begins with a backslash. -/
def readPort : List Char → Option (Option Nat × List Char)
  | ':' :: cs =>
    let digits := cs.takeWhile Decimal.isDigit
    let rest := cs.dropWhile Decimal.isDigit
    let n := Decimal.accumulate 0 digits
    if UInt16.size ≤ n || rest.head?.any (· != '\\') then none
    else some (if digits.isEmpty then none else some n, rest)
  | cs => some (none, cs)

/-- The credentials before the last `@`, if there is any, and what follows them. -/
def splitCredentials (authority : List Char) : Option (List Char) × List Char :=
  if authority.contains '@' then
    let rest := (authority.reverse.takeWhile (· != '@')).reverse
    (some (authority.take (authority.length - rest.length - 1)), rest)
  else (none, authority)

/-- The place under a scheme of the web, after the slashes before its host. -/
def webPlace (usual : Option Nat) (rest : List Char) : Option Place := do
  let authority := rest.takeWhile fun c => !Path.isSlash .web c
  let path := rest.dropWhile fun c => !Path.isSlash .web c
  let (host, port) := splitHost false (splitCredentials authority).2
  let host ← Host.of? host
  let (port, _) ← readPort port
  return ⟨some host, if port == usual then none else port,
    Path.text .web (Path.segments .web (path.drop 1))⟩

/-- A path that is separated from what stands before it. -/
def pathAfter (kind : Path.Kind) (cs : List Char) : String :=
  Path.text kind (Path.segments kind (if cs.head?.any (Path.isSlash kind) then cs.drop 1 else cs))

/-- The place of a file. A host that is the own one or only a drive letter is none. -/
def filePlace (rest : List Char) : Option Place :=
  let isSlash := Path.isSlash .file
  if (rest.take 2).all isSlash && 2 ≤ rest.length then do
    let rest := rest.drop 2
    let host := rest.takeWhile fun c => !isSlash c
    if host.isEmpty || (Path.drive? host).isSome then return ⟨some "", none, pathAfter .file rest⟩
    else
      let segments := Path.segments .file ((rest.dropWhile fun c => !isSlash c).drop 1)
      let host ← Host.of? host
      let isOwn := host == "localhost" || segments.head?.any Path.isDrive
      return ⟨some (if isOwn then "" else host), none, Path.text .file segments⟩
  else some ⟨some "", none, pathAfter .file rest⟩

/-- Whether a place may lack its host between the given credentials and what follows it: without
credentials that say anything and without a port. -/
def mayLackHost (credentials : Option (List Char)) (port rest : List Char) : Bool :=
  port.isEmpty && match credentials with
    | none => true
    | some [] => rest.isEmpty
    | some cs => cs == [':']

/-- The place under any other scheme; `after` is what follows it in the URL. -/
def otherPlace (rest after : List Char) : Option Place :=
  match rest with
  | '/' :: '/' :: rest => do
    let (credentials, authority) := splitCredentials (rest.takeWhile (· != '/'))
    let path := rest.dropWhile (· != '/')
    let (host, port) := splitHost false authority
    guard (!host.isEmpty || mayLackHost credentials port (path ++ after))
    let host ← Host.free? host
    let (port, extra) ← readPort port
    let path := extra ++ path
    return ⟨some host, port, if path.isEmpty then "" else pathAfter .other path⟩
  | '/' :: rest => some ⟨none, none, pathAfter .other ('/' :: rest)⟩
  | _ => some ⟨none, none, String.ofList (encoded [] rest)⟩

/-! ## Reading -/

/-- The characters up to the first `c`, and those from there on. -/
def cut (c : Char) (cs : List Char) : List Char × List Char :=
  (cs.takeWhile (· != c), cs.dropWhile (· != c))

/-- A text without the blanks and controls at its ends and without line breaks and tabs. -/
def cleaned (s : String) : List Char :=
  let blank (c : Char) : Bool := c.toNat ≤ 0x20
  (Text.dropEndWhile blank (s.toList.dropWhile blank)).filter fun c =>
    !(c == '\t' || c == '\n' || c == '\r')

def isScheme : List Char → Bool
  | [] => false
  | c :: cs => c.isAlpha && cs.all fun c => c.isAlphanum || c == '+' || c == '-' || c == '.'

/-- What follows a sign, with what may not stand there written by its bytes. -/
def part (extra : List Char) : List Char → Option String
  | [] => none
  | _ :: cs => some (String.ofList (encoded extra cs))

def parse? (s : String) : Option Url := do
  let (scheme, rest) := cut ':' (cleaned s)
  guard (isScheme scheme && !rest.isEmpty)
  let scheme := String.ofList (scheme.map Char.toLower)
  let kind := kindOf scheme
  let (rest, fragment) := cut '#' (rest.drop 1)
  let (rest, query) := cut '?' rest
  let place ← match kind with
    | .web => webPlace (usualPort scheme) (rest.dropWhile (Path.isSlash .web))
    | .file => filePlace rest
    | .other => otherPlace rest (query ++ fragment)
  return ⟨scheme, place.host, place.port, place.path, part (queryExtra kind) query,
    part fragmentExtra fragment⟩

/-! ## Requests -/

/-- Whether the URL leads to a host. -/
def hasHost (u : Url) : Bool :=
  match u.host with
  | none | some "" => false
  | some _ => true

/-- Whether requests can be sent under the scheme of the URL. -/
def isWeb (u : Url) : Bool := u.scheme == "http" || u.scheme == "https"

/-- The bytes that the URL of a request may have. -/
def longest : Nat := 65534

/-- What may stand in the host of a URL but not in that of a request. -/
def unsendable : List Char := ['"', Char.ofNat 0x60, '\x7b', '\x7d']

/-- Whether the URL can be written in a request. -/
def isSendable (u : Url) : Bool :=
  u.text.utf8ByteSize ≤ longest && !(u.host.getD "").toList.any unsendable.contains

end Url

end OutOfBand.Web
