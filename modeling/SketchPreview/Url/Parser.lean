import SketchPreview.Url.Basic

/-!
# Reading addresses

Blanks and control characters around an address are dropped, and so are tabs and ends of lines
within it. What follows the scheme depends on it: special schemes have an authority behind any
number of strokes, files have one behind two strokes if there are two, and any other scheme has a
plain path unless a stroke follows.

* `scheme?`, `cutAt`: the ends of an address;
* `parseAuthority`: user, host and service;
* `Url.parse`: an address.
-/

namespace SketchPreview.Url

/-- A character that does not count at the ends of an address. -/
def isSurrounding (c : Char) : Bool := c.toNat ≤ 0x20

/-- A character that does not count anywhere in an address. -/
def isSkipped (c : Char) : Bool := c == '\t' || c == '\n' || c == '\r'

/-- The characters of an address that count. -/
def clean (s : List Char) : List Char :=
  (((s.dropWhile isSurrounding).reverse.dropWhile isSurrounding).reverse).filter (!isSkipped ·)

/-- A character of a scheme. -/
def isSchemeChar (c : Char) : Bool := c.isAlphanum || c == '+' || c == '-' || c == '.'

/-- The scheme of an address in small letters, and what follows its colon. -/
def scheme? (s : List Char) : Option (List Char × List Char) :=
  match (s.head?).any Char.isAlpha, s.dropWhile isSchemeChar with
  | true, ':' :: rest => some ((s.takeWhile isSchemeChar).map Char.toLower, rest)
  | _, _ => none

/-- A text in front of a mark, and what follows the mark if it is there. -/
def cutAt (mark : Char) (s : List Char) : List Char × Option (List Char) :=
  match s.dropWhile (· ≠ mark) with
  | [] => (s, none)
  | _ :: rest => (s.takeWhile (· ≠ mark), some rest)

/-- Whether a character is a stroke of a special scheme. -/
def isStroke (c : Char) : Bool := c == '/' || c == '\\'

/-! ## Authorities -/

/-- The text in front of the last `@`, if there is one, and the text behind it. -/
def cutUser (s : List Char) : Option (List Char) × List Char :=
  let host := (s.reverse.takeWhile (· ≠ '@')).reverse
  if host.length = s.length then (none, s) else (some (s.take (s.length - host.length - 1)), host)

/-- A host in front of the colon of a service. Colons between brackets belong to the host. -/
def cutHost (bracketed : Bool) : List Char → List Char × List Char
  | [] => ([], [])
  | c :: rest =>
    if c = ':' ∧ ¬bracketed then ([], c :: rest)
    else
      let (host, rest) := cutHost (c = '[' || (bracketed && c != ']')) rest
      (c :: host, rest)

/-- The greatest number of a service. -/
def maxService : Nat := 65535

/-- The number of a service behind a colon, and what follows it from a backslash on. -/
def parseService (scheme : List Char) : List Char → Except Fault (Option Nat × List Char)
  | ':' :: s =>
    let digits := s.takeWhile Char.isDigit
    let rest := s.dropWhile Char.isDigit
    let n := Text.readNat digits
    if maxService < n ∨ (rest ≠ [] ∧ rest.head? ≠ some '\\') then .error .badService
    else .ok (if digits = [] ∨ standardService? scheme = some n then none else some n, rest)
  | s => .ok (none, s)

/-- The host that a text writes. Only a scheme that is not special does without one. -/
def parseHost (scheme s : List Char) : Except Fault Host :=
  if isSpecial scheme then if s.isEmpty then .error .emptyHost else Host.parse s
  else Host.parsePlain s

/-- The user, host and service that a text writes, and what follows them from a backslash on. -/
def parseAuthority (scheme s : List Char) : Except Fault (Authority × List Char) := do
  let (login, s) := cutUser s
  if login = some [] ∧ s = [] then throw .emptyHost
  let (user, password) := cutAt ':' (login.getD [])
  let (host, rest) := cutHost false s
  let host ← parseHost scheme host
  if host.isEmpty && !rest.isEmpty then throw .emptyHost
  let (service, rest) ← parseService scheme rest
  let authority : Authority :=
    { user := percentEncode isUnsafeInCredentials user,
      password := percentEncode isUnsafeInCredentials (password.getD []), host, service }
  if host.isEmpty && !authority.credentialsText.isEmpty then throw .emptyHost
  return (authority, rest)

/-! ## Paths behind the scheme -/

/-- A text in which every stroke of a special scheme is a plain one. -/
def withPlainStrokes (s : List Char) : List Char := s.map fun c => if isStroke c then '/' else c

/-- A text without the stroke in front, if there is one. -/
def behindRoot : List Char → List Char
  | '/' :: rest => rest
  | s => s

/-- Authority and path of a special scheme. -/
def parseHosted (scheme s : List Char) : Except Fault (Option Authority × Path) := do
  let s := s.dropWhile isStroke
  let (authority, _) ← parseAuthority scheme (s.takeWhile (!isStroke ·))
  let path := withPlainStrokes (s.dropWhile (!isStroke ·))
  return (authority, .segments (pathSegments (behindRoot path)))

/-- The host of a file; the own computer counts as none. -/
def parseFileHost (s : List Char) : Except Fault Host := do
  if s.isEmpty then return .name []
  let host ← Host.parse s
  return if host = .name "localhost".toList then .name [] else host

/-- The authority and path of a file that a host keeps. -/
def fileOf (host : Host) (path : List Char) : Option Authority × Path :=
  (some ⟨[], [], host, none⟩, .segments (fileSegments path))

/-- Host and path of a file. A path that begins with a drive needs no host. Behind a host that is
left out the stroke at the root stays, and a drive behind it is not the first segment. -/
def parseFile (s : List Char) : Except Fault (Option Authority × Path) := do
  match withPlainStrokes s with
  | '/' :: '/' :: s =>
    let name := s.takeWhile (· ≠ '/')
    let path := s.dropWhile (· ≠ '/')
    if namesDrive name then return fileOf (.name []) s
    let host ← parseFileHost name
    if host.isEmpty then return fileOf host path
    if beginsWithDrive (behindRoot path) then return fileOf (.name []) (behindRoot path)
    return fileOf host (behindRoot path)
  | s => return fileOf (.name []) (behindRoot s)

/-- Authority and path of a scheme that is neither special nor that of files. -/
def parseOther (scheme : List Char) : List Char → Except Fault (Option Authority × Path)
  | '/' :: '/' :: s => do
    let (authority, rest) ← parseAuthority scheme (s.takeWhile (· ≠ '/'))
    let path := rest ++ s.dropWhile (· ≠ '/')
    return (authority, .segments (if path = [] then [] else pathSegments (behindRoot path)))
  | '/' :: s => return (none, .segments (pathSegments s))
  | s => return (none, .plain (percentEncode isControl s))

/-- The address that a text writes. -/
def parse (text : String) : Except Fault Url := do
  match scheme? (clean text.toList) with
  | none => throw .noScheme
  | some (scheme, s) =>
    let (s, fragment) := cutAt '#' s
    let (s, query) := cutAt '?' s
    let (authority, path) ←
      if scheme = fileScheme then parseFile s
      else if isSpecial scheme then parseHosted scheme s
      else parseOther scheme s
    return { scheme, authority, path,
             query := query.map (percentEncode (isUnsafeInQuery (isSpecial scheme)))
             fragment := fragment.map (percentEncode isUnsafeInFragment) }

end SketchPreview.Url
