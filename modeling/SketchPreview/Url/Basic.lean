import SketchPreview.Url.Host
import SketchPreview.Url.Path

/-!
# Addresses

An address is a scheme and a path, mostly with an authority between them, and perhaps a query and a
fragment. Its parts are kept as they stand in the address, where everything unsafe is encoded.

* `Url`, `Url.Authority`, `Url.Path`;
* `Url.isSpecial`, `Url.standardService?`: what a scheme implies;
* `Url.text`: an address in writing;
* `Url.withoutCredentials`: an address that tells nothing about its user.
-/

namespace SketchPreview

namespace Url

/-- The user, the host and the number of the service on that host. The name and the password of the
user are empty where none are given, and the number is left out where the scheme implies it. -/
structure Authority where
  user : List Char
  password : List Char
  host : Host
  service : Option Nat
  deriving DecidableEq, Repr, Inhabited

/-- The path of an address: segments, or a text whose strokes mean nothing. -/
inductive Path where
  | plain (s : List Char)
  | segments (all : List (List Char))
  deriving DecidableEq, Repr, Inhabited

end Url

/-- An address. -/
structure Url where
  scheme : List Char
  authority : Option Url.Authority
  path : Url.Path
  query : Option (List Char)
  fragment : Option (List Char)
  deriving DecidableEq, Repr, Inhabited

namespace Url

/-- The scheme of files. -/
def fileScheme : List Char := "file".toList

/-- The schemes of hosts that serve files and messages, each with the number of its service. -/
def standardServices : List (List Char × Nat) :=
  [("http".toList, 80), ("https".toList, 443), ("ws".toList, 80), ("wss".toList, 443),
    ("ftp".toList, 21)]

/-- The number of the service that a scheme implies. -/
def standardService? (scheme : List Char) : Option Nat := standardServices.lookup scheme

/-- Whether a scheme is special: a backslash is a stroke then, and host names are in ASCII. -/
def isSpecial (scheme : List Char) : Bool :=
  scheme == fileScheme || (standardService? scheme).isSome

namespace Authority

/-- The name and the password of a user, as they stand in an address. -/
def credentialsText (a : Authority) : List Char :=
  if a.user.isEmpty && a.password.isEmpty then []
  else a.user ++ (if a.password.isEmpty then [] else ':' :: a.password) ++ ['@']

/-- An authority as it stands in an address. -/
def text (a : Authority) : List Char :=
  a.credentialsText ++ a.host.text ++ a.service.elim [] fun n => ':' :: Nat.toDigits 10 n

/-- An authority without a name and a password. What does not encode a text is left there. -/
def withoutCredentials (a : Authority) : Authority :=
  let isKnown := a.user ≠ [] || (percentText? a.password).isSome
  if (percentText? a.user).isSome && isKnown then { a with user := [], password := [] } else a

end Authority

/-- What stands in front of a path so that its empty first segment is no authority. -/
def pathGuard (u : Url) : List Char :=
  match u.authority, u.path with
  | none, .segments ([] :: _ :: _) => "/.".toList
  | _, _ => []

/-- An address in characters. -/
def chars (u : Url) : List Char :=
  u.scheme ++ ':' :: (u.authority.elim [] fun a => '/' :: '/' :: a.text) ++ u.pathGuard ++
    (match u.path with
      | .plain s => s
      | .segments all => pathText all) ++
    u.query.elim [] ('?' :: ·) ++ u.fragment.elim [] ('#' :: ·)

/-- An address in writing. -/
def text (u : Url) : String := String.ofList u.chars

/-- An address without the name and the password of a user. -/
def withoutCredentials (u : Url) : Url :=
  { u with authority := u.authority.map Authority.withoutCredentials }

end Url

end SketchPreview
