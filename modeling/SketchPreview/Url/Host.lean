import SketchPreview.Url.Domain
import SketchPreview.Url.Fault
import SketchPreview.Url.Ipv4
import SketchPreview.Url.Ipv6

/-!
# Hosts

The host of an address is a name or a numeric address. Schemes that are not special take a name as
it is.

* `Url.Host`, `Url.Host.text`;
* `Url.Host.parse`: the host of a special scheme;
* `Url.Host.parsePlain`: the host of any other scheme.
-/

namespace SketchPreview.Url

/-- A host: a name, which may be empty, or a numeric address. -/
inductive Host where
  | name (s : List Char)
  | ipv4 (address : UInt32)
  | ipv6 (numbers : List Nat)
  deriving DecidableEq, Repr, Inhabited

namespace Host

/-- A host as it stands in an address. -/
def text : Host → List Char
  | name s => s
  | ipv4 a => Ipv4.text a
  | ipv6 numbers => '[' :: Ipv6.text numbers ++ [']']

/-- Whether there is no host. -/
def isEmpty : Host → Bool
  | name s => s.isEmpty
  | _ => false

/-- The numeric address between brackets, given what follows the opening one. -/
def parseBracketed (s : List Char) : Except Fault Host :=
  match s.getLast?, Ipv6.ofText? s.dropLast with
  | some ']', some numbers => .ok (ipv6 numbers)
  | _, _ => .error .badIpv6

/-- The host that a host name writes. -/
def ofDomain (domain : List Char) : Except Fault Host :=
  if domain.isEmpty then .error .emptyHost
  else if Ipv4.endsInNumber domain then
    match Ipv4.ofText? domain with
    | some a => .ok (ipv4 a)
    | none => .error .badIpv4
  else .ok (name domain)

/-- The host that a text writes in an address of a special scheme. -/
def parse : List Char → Except Fault Host
  | '[' :: rest => parseBracketed rest
  | s =>
    match domain? s with
    | some domain => ofDomain domain
    | none => .error .badDomain

/-- A character that no host holds. -/
def isForbidden (c : Char) : Bool :=
  c ∈ ['\x00', '\t', '\n', '\r', ' ', '#', '/', ':', '<', '>', '?', '@', '[', '\\', ']', '^', '|']

/-- The host that a text writes in an address of a scheme that is not special. -/
def parsePlain : List Char → Except Fault Host
  | '[' :: rest => parseBracketed rest
  | s =>
    if s.any isForbidden then .error .badHostCharacter
    else .ok (name (percentEncode isControl s))

end Host

end SketchPreview.Url
