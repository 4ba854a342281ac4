import ResourceEditor.Controller.Host
/-
This file reads web addresses and writes them in their normal form: lower case where case does not
count, no default ports, no dots in paths, and percent signs for what a part cannot hold.
-/

namespace ResourceEditor

open Text

structure Authority where
  user : String
  password : String
  host : String
  port : Option Nat
deriving Repr, DecidableEq

inductive UrlPath where
  | segments (names : List String)
  | opaqueText (text : String)
deriving Repr, DecidableEq

structure Url where
  scheme : String
  authority : Option Authority
  path : UrlPath
  query : Option String
  fragment : Option String
deriving Repr, DecidableEq

namespace Url

/-- The schemes of the web, with the ports that go without saying. -/
def defaultPort? (scheme : String) : Option Nat :=
  [("http", 80), ("https", 443), ("ws", 80), ("wss", 443), ("ftp", 21)].lookup scheme

def isWeb (scheme : String) : Bool := (defaultPort? scheme).isSome

/-- Whether a path goes down from a root, with slashes of both kinds. -/
def isRooted (scheme : String) : Bool := isWeb scheme || scheme == "file"

def isControl (c : Char) : Bool := c.toNat < 0x20 || 0x7E < c.toNat

def inFragment (c : Char) : Bool := isControl c || " \"<>`".toList.contains c

def inPath (c : Char) : Bool :=
  inFragment c || c == '#' || c == '?' || c == '\x7b' || c == '\x7d'

def inUser (c : Char) : Bool := inPath c || "/:;=@[\\]^|".toList.contains c

/-- A query after a rooted path encodes single quotes as well. -/
def inQuery (rooted : Bool) (c : Char) : Bool :=
  isControl c || " \"#<>".toList.contains c || (rooted && c == '\x27')

def encode (encoded : Char → Bool) (text : List Char) : String :=
  String.ofList (percentEncode encoded text)

/-- The text without controls and blanks at its ends, and without tabs and line ends. -/
def clean (text : String) : List Char :=
  let drop (c : Char) : Bool := c.toNat ≤ 0x20
  (dropLastWhile drop (text.toList.dropWhile drop)).filter fun c =>
    c != '\t' && c != '\n' && c != '\r'

/-- The text before the first mark, and the text after it if there is one. -/
def cut (mark : Char) (text : List Char) : List Char × Option (List Char) :=
  match text.span (· != mark) with
  | (before, []) => (before, none)
  | (before, _ :: after) => (before, some after)

/-- A scheme is a letter, then letters, digits and a few signs, up to a colon. -/
def splitScheme (text : List Char) : Except UrlFault (String × List Char) :=
  match cut ':' text with
  | (c :: rest, some after) =>
      if c.isAlpha && rest.all (fun d => d.isAlphanum || d == '+' || d == '-' || d == '.') then
        .ok (asciiLower (String.ofList (c :: rest)), after)
      else .error .noScheme
  | _ => .error .noScheme

def isSlash (web : Bool) (c : Char) : Bool := c == '/' || (web && c == '\\')

/-- The parts between slashes. -/
def splitSlashes (web : Bool) : List Char → List (List Char)
  | [] => [[]]
  | c :: rest =>
      if isSlash web c then [] :: splitSlashes web rest
      else
        match splitSlashes web rest with
        | [] => [[c]]
        | part :: parts => (c :: part) :: parts

def isSingleDot (segment : String) : Bool :=
  [".", "%2e"].contains (asciiLower segment)

def isDoubleDot (segment : String) : Bool :=
  ["..", ".%2e", "%2e.", "%2e%2e"].contains (asciiLower segment)

/-- Whether a segment names a drive: a letter, and a colon or a bar. -/
def isDrive (segment : String) : Bool :=
  match segment.toList with
  | [letter, mark] => letter.isAlpha && (mark == ':' || mark == '|')
  | _ => false

/-- Adds a segment to those before it, which are held in reverse. A drive is named with a colon. -/
def addSegment (files : Bool) (before : List String) (segment : String) : List String :=
  if files && before.isEmpty && isDrive segment then [(segment.take 1).toString ++ ":"]
  else segment :: before

/-- Goes up one segment. There is nothing above a drive. -/
def goUp (files : Bool) : List String → List String
  | [top] => if files && isDrive top then [top] else []
  | before => before.tail

/-- Resolves the dots among segments; the segments before them are held in reverse. -/
def resolveDots (files : Bool) : List String → List String → List String
  | before, [] => before.reverse
  | before, [last] =>
      if isDoubleDot last then ("" :: goUp files before).reverse
      else if isSingleDot last then ("" :: before).reverse
      else (addSegment files before last).reverse
  | before, segment :: rest =>
      if isDoubleDot segment then resolveDots files (goUp files before) rest
      else if isSingleDot segment then resolveDots files before rest
      else resolveDots files (addSegment files before segment) rest

/-- The segments of a path; a rooted path has one segment at least. -/
def readPath (scheme : String) (text : List Char) : UrlPath :=
  match text with
  | [] => .segments (if isRooted scheme then [""] else [])
  | _ :: rest =>
      .segments (resolveDots (scheme == "file") []
        ((splitSlashes (isRooted scheme) rest).map (encode inPath)))

/-- The text before the last mark and the text after it. -/
def cutLast (mark : Char) (text : List Char) : Option (List Char × List Char) :=
  if text.contains mark then
    some ((text.reverse.dropWhile (· != mark)).tail.reverse,
      (text.reverse.takeWhile (· != mark)).reverse)
  else none

/-- Separates a host from the port after it; colons in brackets belong to the host. -/
def splitPort : Bool → List Char → List Char × Option (List Char)
  | _, [] => ([], none)
  | inside, c :: rest =>
      if c == ':' && !inside then ([], some rest)
      else
        let (host, port) := splitPort (c == '[' || (inside && c != ']')) rest
        (c :: host, port)

def readPort (scheme : String) (text : Option (List Char)) : Except UrlFault (Option Nat) :=
  match text with
  | none => .ok none
  | some [] => .ok none
  | some digits =>
      match (Decimal.readDigits digits).filter (· ≤ 65535) with
      | none => .error .badPort
      | some port => .ok (if defaultPort? scheme = some port then none else some port)

/-- Reads who asks, and the host and the port. Only an address of another kind than those of the web
can be without a host, and then it has nothing else. -/
def readAuthority (scheme : String) (text : List Char) : Except UrlFault Authority := do
  let (login, address) := (cutLast '@' text).getD ([], text)
  let (user, password) := cut ':' login
  let (host, port) := splitPort false address
  if host.isEmpty && (port.isSome || !(login == [':'] || (cutLast '@' text).isNone)) then
    throw .emptyHost
  let host ← if isWeb scheme then Host.read host else Host.readOpaque host
  let port ← readPort scheme port
  return ⟨encode inUser user, encode inUser (password.getD []), host, port⟩

/-- The host of a path of files, of which this machine is left out. -/
def readFileHost (text : List Char) : Except UrlFault Authority := do
  let host ← if text.isEmpty then pure "" else Host.read text
  return ⟨"", "", if host == "localhost" then "" else host, none⟩

/-- The host and the path of a file. A drive at the place of the host belongs to the path. -/
def readFile (text : List Char) : Except UrlFault (Option Authority × UrlPath) := do
  let (slashes, rest) := (text.take 2, text.drop 2)
  if slashes.length == 2 && slashes.all (isSlash true) then
    let (host, path) := rest.span (!isSlash true ·)
    if isDrive (String.ofList host) then
      return (some (← readFileHost []), readPath "file" ('/' :: rest))
    else return (some (← readFileHost host), readPath "file" path)
  else
    let path := if slashes.head?.any (isSlash true) then text else '/' :: text
    return (some (← readFileHost []), readPath "file" path)

/-- What comes after the scheme, up to the query. -/
def readRest (scheme : String) (text : List Char) :
    Except UrlFault (Option Authority × UrlPath) := do
  if isWeb scheme then
    let (address, path) := (text.dropWhile (isSlash true)).span (!isSlash true ·)
    let authority ← readAuthority scheme address
    return (some authority, readPath scheme path)
  else if scheme == "file" then readFile text
  else
    match text with
    | '/' :: '/' :: rest =>
        let (address, path) := rest.span (· != '/')
        let authority ← readAuthority scheme address
        return (some authority, readPath scheme path)
    | '/' :: _ => return (none, readPath scheme text)
    | text => return (none, .opaqueText (encode isControl text))

def parse (text : String) : Except UrlFault Url := do
  let (scheme, rest) ← splitScheme (clean text)
  let (rest, fragment) := cut '#' rest
  let (rest, query) := cut '?' rest
  let (authority, path) ← readRest scheme rest
  return ⟨scheme, authority, path, query.map (encode (inQuery (isRooted scheme))),
    fragment.map (encode inFragment)⟩

def renderPath : UrlPath → String
  | .segments names => String.join (names.map ("/" ++ ·))
  | .opaqueText text => text

/-- What keeps a path with an empty segment in front from being read as a host. -/
def pathGuard (url : Url) : String :=
  match url.authority, url.path with
  | none, .segments ("" :: _ :: _) => "/."
  | _, _ => ""

def renderQuery : Option String → String
  | some query => "?" ++ query
  | none => ""

def renderLogin (authority : Authority) : String :=
  if authority.password.isEmpty then
    if authority.user.isEmpty then "" else authority.user ++ "@"
  else authority.user ++ ":" ++ authority.password ++ "@"

def renderAuthority (authority : Authority) : String :=
  renderLogin authority ++ authority.host ++
    (match authority.port with
    | some port => ":" ++ toString port
    | none => "")

def render (url : Url) : String :=
  url.scheme ++ ":" ++
    (match url.authority with
    | some authority => "//" ++ renderAuthority authority
    | none => "") ++
    pathGuard url ++ renderPath url.path ++ renderQuery url.query ++
    (match url.fragment with
    | some fragment => "#" ++ fragment
    | none => "")

/-- What a request asks of the host: the path and the query. -/
def target (url : Url) : String := renderPath url.path ++ renderQuery url.query

/-- Whether two addresses lead to the same host and port. -/
def sameOrigin (first second : Url) : Bool :=
  first.scheme == second.scheme && first.authority.map (·.host) == second.authority.map (·.host) &&
    first.authority.map (·.port) == second.authority.map (·.port)

/-- The address of a path below a base, with one slash between the two. -/
def join (base : Url) (path : String) : Except UrlFault Url :=
  let start := dropLastWhile (· == '/') base.render.toList
  let rest := path.toList.dropWhile (· == '/')
  parse (String.ofList (start ++ '/' :: rest))

end Url

end ResourceEditor
