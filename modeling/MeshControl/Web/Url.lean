import MeshControl.Net.SocketAddress
import MeshControl.Web.Host

/-!
Web addresses, as an HTTP client reads them.

Reading is generous: blanks around the text are dropped, tabs and line ends everywhere, a
backslash counts as a slash, and the path is normalized. Only the two schemes of HTTP are read. A
reference that is not complete is read against the address of the page that it stands on.
-/

namespace MeshControl.Web

inductive Scheme where
  | http
  | https
deriving DecidableEq

def Scheme.ofName (name : List Char) : Option Scheme :=
  if name = "http".toList then some .http
  else if name = "https".toList then some .https
  else none

/-- The port that is meant if none is given. -/
def Scheme.defaultPort : Scheme → Net.Port
  | .http => 80
  | .https => 443

/-- A web address without what a server does not see. -/
structure Url where
  scheme : Scheme
  /-- The host, in lower case; an IPv6 address stands in brackets. -/
  host : List Char
  port : Net.Port
  /-- The parts of the path between its slashes. -/
  path : List (List Char)
  query : Option (List Char)
deriving DecidableEq

namespace Url

/-! ## Characters -/

/-- A slash of either kind. -/
def isSlash (c : Char) : Bool := c == '/' || c == '\\'

/-- Whether a character ends the host of an address. -/
def endsHost (c : Char) : Bool := isSlash c || c == '?' || c == '#'

/-- A character that is dropped at the ends of an address. -/
def isEdgeBlank (c : Char) : Bool := c.toNat ≤ 0x20

/-- A character that is dropped wherever it stands. -/
def isLineBlank (c : Char) : Bool := c == '\t' || c == '\n' || c == '\r'

/-- The text without what is dropped from it. -/
def clean (text : List Char) : List Char :=
  let trimmed := ((text.dropWhile isEdgeBlank).reverse.dropWhile isEdgeBlank).reverse
  trimmed.filter fun c => !isLineBlank c

/-- Whether a character of a path is written as it is. -/
def isPathCharacter (c : Char) : Bool :=
  0x21 ≤ c.toNat && c.toNat < 0x7f &&
    ['"', '#', '<', '>', '?', '\x60', '\x7b', '\x7d'].all (· != c)

def isQueryCharacter (c : Char) : Bool :=
  0x21 ≤ c.toNat && c.toNat < 0x7f && ['"', '#', '<', '>', '\x27'].all (· != c)

/-- A byte as a percent sign and two hexadecimal digits. -/
def percentByte (byte : UInt8) : List Char :=
  ['%', (Nat.digitChar (byte.toNat / 16)).toUpper, (Nat.digitChar (byte.toNat % 16)).toUpper]

/-- A text in which the characters that cannot be written as they are become bytes. -/
def encode (isPlain : Char → Bool) (text : List Char) : List Char :=
  text.flatMap fun c =>
    if isPlain c then [c] else (String.utf8EncodeChar c).flatMap percentByte

/-- A part of a path as it is sent to a server. -/
def encodePart (part : List Char) : List Char :=
  encode isPathCharacter part

/-! ## Parts -/

/-- The scheme in front of an address, in lower case, and what follows its colon. -/
def splitScheme (text : List Char) : Option (List Char × List Char) :=
  match Net.SocketAddress.splitAtFirst ':' text with
  | none => none
  | some (name, rest) =>
    let isName := (name.head?).any Char.isAlpha &&
      name.all fun c => c.isAlphanum || c == '+' || c == '-' || c == '.'
    if isName then some (name.map Char.toLower, rest) else none

/-- The port of an address; an empty one is the one of the scheme. -/
def readPort (scheme : Scheme) (text : List Char) : Option Net.Port :=
  if text.isEmpty then some scheme.defaultPort else Text.readBounded 65536 text

/-- The host and the port of an address, without the name of a user. -/
def readAuthority (scheme : Scheme) (text : List Char) : Option (List Char × Net.Port) :=
  let place := match Net.SocketAddress.splitAtLast '@' text with
    | some (_, place) => place
    | none => text
  match Net.SocketAddress.splitAtLast ':' place with
  | some (host, port) =>
    if port.contains ']' then (Host.read place).map (·, scheme.defaultPort)
    else do return (← Host.read host, ← readPort scheme port)
  | none => (Host.read place).map (·, scheme.defaultPort)

def isHere (part : List Char) : Bool :=
  [".", "%2e"].any fun name => name.toList == part.map Char.toLower

/-- Whether a part of a path stands for the directory above. -/
def isAbove (part : List Char) : Bool :=
  ["..", ".%2e", "%2e.", "%2e%2e"].any fun name => name.toList == part.map Char.toLower

/-- The parts of a text between slashes of either kind. -/
def splitAtSlashes (text : List Char) : List (List Char) :=
  text.splitOnP isSlash

/-- Walk down a path from a directory. -/
def walk : List (List Char) → List (List Char) → List (List Char)
  | directory, [] => directory
  | directory, [last] =>
    if isAbove last then directory.dropLast ++ [[]]
    else if isHere last then directory ++ [[]]
    else directory ++ [encodePart last]
  | directory, part :: rest =>
    if isAbove part then walk directory.dropLast rest
    else if isHere part then walk directory rest
    else walk (directory ++ [encodePart part]) rest

/-- The path and the query of an address, which end at a number sign. -/
def splitResource (text : List Char) : List Char × Option (List Char) :=
  let resource := text.takeWhile (· ≠ '#')
  match Net.SocketAddress.splitAtFirst '?' resource with
  | some (path, query) => (path, some (encode isQueryCharacter query))
  | none => (resource, none)

/-! ## Reading -/

/-- A complete address, after the colon of its scheme; any number of slashes may follow it. -/
def readAbsolute (scheme : Scheme) (text : List Char) : Option Url := do
  let text := text.dropWhile isSlash
  let (host, port) ← readAuthority scheme (text.takeWhile fun c => !endsHost c)
  let (path, query) := splitResource (text.dropWhile fun c => !endsHost c)
  return ⟨scheme, host, port, walk [] (splitAtSlashes (path.drop 1)), query⟩

/-- A reference without a scheme, on a page. -/
def readRelative (page : Url) (text : List Char) : Option Url :=
  match text with
  | first :: second :: _ =>
    if isSlash first && isSlash second then readAbsolute page.scheme text
    else some (resolve first)
  | first :: [] => some (resolve first)
  | [] => some page
where
  /-- The page that a reference with this first character leads to, on the same host. -/
  resolve (first : Char) : Url :=
    let (path, query) := splitResource text
    if isSlash first then
      { page with path := walk [] (splitAtSlashes (path.drop 1)), query }
    else if path.isEmpty then
      { page with query := if first = '?' then query else page.query }
    else { page with path := walk page.path.dropLast (splitAtSlashes path), query }

/-- The address of a text, which may be a reference on a page. -/
def read (page : Option Url) (text : List Char) : Option Url :=
  let text := clean text
  match splitScheme text with
  | none => page.bind (readRelative · text)
  | some (name, rest) =>
    match Scheme.ofName name with
    | none => none
    | some scheme =>
      match page with
      | some page =>
        if page.scheme = scheme && !(rest.head?).any isSlash then readRelative page rest
        else readAbsolute scheme rest
      | none => readAbsolute scheme rest

/-- The path and the query, as they are sent to the server. -/
def target (url : Url) : String :=
  let path := url.path.flatMap ('/' :: ·)
  String.ofList (path ++ match url.query with
    | some query => '?' :: query
    | none => [])

/-! ## Hosts -/

/-- The addresses of a host. Only the name of the machine itself is known. -/
def addresses (url : Url) : List Net.IpAddress :=
  if url.host = "localhost".toList then [.v6 .loopback, .v4 .loopback]
  else
    let inside := url.host.filter fun c => c ≠ '[' && c ≠ ']'
    (Net.IpAddress.read inside).toList

/-- Whether a client that dials an address reaches a listener bound to an address. -/
def reaches (url : Url) (bound : Net.SocketAddress) : Bool :=
  let listening := bound.ip.canonical
  url.port == bound.port && url.addresses.any fun ip =>
    ip.canonical == listening || listening.isWildcard

end Url

end MeshControl.Web
