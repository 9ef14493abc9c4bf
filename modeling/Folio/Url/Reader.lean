import Folio.Url.Host

/-!
# Reading URLs

A URL is read from left to right: the scheme up to its colon; behind two slashes the user, the host and its number;
and the path up to a question mark or a number sign. The user, the number and what follows the path are not kept,
but faults in them are found. The schemes of the network always have a host, and there a backslash is as good as a
slash.
-/

namespace Folio.Url

/-- How the URLs of a scheme are read. -/
inductive Family
  | file
  | network
  | other
  deriving Repr, DecidableEq

/-- The family of a scheme. -/
def Family.ofScheme (scheme : String) : Family :=
  if scheme = "file" then .file
  else if ["http", "https", "ws", "wss", "ftp"].contains scheme then .network
  else .other

/-- Does the character part the segments of a path? -/
def Family.isSlash (f : Family) (c : Char) : Bool :=
  c = '/' || (f ≠ .other && c = '\\')

/-! ## Parts -/

/-- Does the character end the path? -/
def endsPath (c : Char) : Bool :=
  c = '?' || c = '#'

/-- The text without the controls and spaces at its two ends, and without the tabs and line ends inside. -/
def clean (s : String) : List Char :=
  let isEdge (c : Char) : Bool := c ≤ ' '
  let cs := ((s.toList.dropWhile isEdge).reverse.dropWhile isEdge).reverse
  cs.filter fun c => !(c = '\t' || c = '\n' || c = '\r')

/-- May the character stand in a scheme? -/
def isSchemeChar (c : Char) : Bool :=
  c.isAlphanum || c = '+' || c = '-' || c = '.'

/-- The scheme in lower case, and what follows its colon. -/
def readScheme (cs : List Char) : Option (String × List Char) :=
  if cs.head?.any Char.isAlpha then
    match cs.span isSchemeChar with
    | (name, ':' :: rest) => some (String.ofList (name.map Char.toLower), rest)
    | _ => none
  else none

/-- Splits a text at its last at sign. -/
def splitAtLastSign (cs : List Char) : Option (List Char × List Char) :=
  match cs.reverse.span (· ≠ '@') with
  | (back, _ :: front) => some (front.reverse, back.reverse)
  | (_, []) => none

/-- Skips the user; also, whether there is one. -/
def skipUser (f : Family) (cs : List Char) : Except Fault (Bool × List Char) :=
  let (authority, rest) := cs.span fun c => !(f.isSlash c || endsPath c)
  match splitAtLastSign authority with
  | none => .ok (false, cs)
  | some ([], []) => if rest.isEmpty then .ok (false, []) else .error .emptyHost
  | some (user, host) => .ok (user ≠ [] && user ≠ [':'], host ++ rest)

/-- Splits off the text of the host. Between brackets, colons are part of it. -/
def splitHost (f : Family) (bracketed : Bool) : List Char → List Char × List Char
  | [] => ([], [])
  | c :: cs =>
    if (c = ':' && !bracketed) || f.isSlash c || endsPath c then ([], c :: cs)
    else
      let bracketed := if c = '[' then true else if c = ']' then false else bracketed
      let (host, rest) := splitHost f bracketed cs
      (c :: host, rest)

/-- The greatest number that a host is asked at. -/
def greatestPort : Nat := 65535

/-- Skips the number behind the host, if there is one. -/
def skipPort : List Char → Except Fault (List Char)
  | ':' :: cs =>
    let (digits, rest) := cs.span Char.isDigit
    let inRange := digits.isEmpty || (numberIn? 10 digits).any (· ≤ greatestPort)
    let ends := rest.head?.all fun c => c = '/' || c = '\\' || endsPath c
    if inRange && ends then .ok rest else .error .portNumber
  | cs => .ok cs

/-! ## Paths -/

/-- Is the segment a dot, be it escaped? -/
def isDot (segment : List Char) : Bool :=
  [".", "%2e"].contains (String.ofList (segment.map Char.toLower))

/-- Is the segment a pair of dots, be they escaped? -/
def isDoubleDot (segment : List Char) : Bool :=
  ["..", ".%2e", "%2e.", "%2e%2e"].contains (String.ofList (segment.map Char.toLower))

/-- Goes on to the next segment: a dot stays, a pair of dots goes back. -/
def enter (path : List String) (segment : List Char) : List String :=
  if isDoubleDot segment then path.dropLast
  else if isDot segment then path
  else path ++ [String.ofList (percentEncode isEscapedInPath segment)]

/-- Goes along the segments. Where the last one is not added itself, an empty one is. -/
def follow (path : List String) : List (List Char) → List String
  | [] => path
  | [last] => enter path last ++ (if isDoubleDot last || isDot last then [""] else [])
  | segment :: rest => follow (enter path segment) rest

/-- The segments of a text, which stands behind the first slash. -/
def segmentsOf (f : Family) (cs : List Char) : List String :=
  follow [] (cs.splitOnP f.isSlash)

/-- The path of a URL that has a host. -/
def readPath (f : Family) (cs : List Char) : Path :=
  match cs.takeWhile (!endsPath ·) with
  | [] => .rooted (if f = .other then [] else [""])
  | c :: text => .rooted (segmentsOf f (if f.isSlash c then text else c :: text))

/-- The path of a URL whose scheme is not followed by a slash. A space at its end is escaped where something
follows. -/
def readRootless (cs : List Char) : Path :=
  let (text, rest) := cs.span (!endsPath ·)
  let text := percentEncode isControl text
  .rootless (String.ofList
    (if text.getLast? = some ' ' && !rest.isEmpty then text.dropLast ++ escape ' ' else text))

/-! ## URLs -/

/-- Reads on behind two slashes. -/
def readAuthority (scheme : String) (f : Family) (cs : List Char) : Except Fault Url := do
  let (hasUser, cs) ← skipUser f cs
  let (text, cs) := splitHost f false cs
  if text.isEmpty then
    if f ≠ .other || hasUser || cs.head? = some ':' then throw .emptyHost
    return ⟨scheme, none, readPath f cs⟩
  let host ← readHost (if f = .other then readPlainHost else readName) text
  let cs ← skipPort cs
  return ⟨scheme, some host, readPath f cs⟩

/-- Is the text a letter and a colon or bar, the name of a drive? -/
def isDrive : List Char → Bool
  | [c, mark] => c.isAlpha && (mark = ':' || mark = '|')
  | _ => false

/-- Reads on behind the two slashes of a file. -/
def readFile (cs : List Char) : Except Fault Url := do
  let (text, rest) := cs.span fun c => !(Family.file.isSlash c || endsPath c)
  if isDrive text then return ⟨"file", none, readPath .file cs⟩
  if text.isEmpty then return ⟨"file", none, readPath .file rest⟩
  match ← readHost readName text with
  | .name "localhost" => return ⟨"file", none, readPath .file rest⟩
  | host => return ⟨"file", some host, readPath .file rest⟩

/-- Reads a URL. -/
def read (s : String) : Except Fault Url :=
  match readScheme (clean s) with
  | none => .error .noScheme
  | some (scheme, cs) =>
    match Family.ofScheme scheme, cs with
    | .network, cs => readAuthority scheme .network (cs.dropWhile Family.network.isSlash)
    | .file, a :: b :: rest =>
      if Family.file.isSlash a && Family.file.isSlash b then readFile rest
      else .ok ⟨scheme, none, readPath .file cs⟩
    | .file, cs => .ok ⟨scheme, none, readPath .file cs⟩
    | .other, '/' :: '/' :: rest => readAuthority scheme .other rest
    | .other, '/' :: rest => .ok ⟨scheme, none, readPath .other ('/' :: rest)⟩
    | .other, cs => .ok ⟨scheme, none, readRootless cs⟩

end Folio.Url
