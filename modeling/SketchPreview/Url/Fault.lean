/-!
# Failures of addresses

* `Url.Fault`: why a text is no address;
* `Url.Fault.message`: the reason in words.
-/

namespace SketchPreview.Url

/-- Why a text is no address. -/
inductive Fault where
  | noScheme
  | emptyHost
  | badDomain
  | badHostCharacter
  | badIpv4
  | badIpv6
  | badService
  deriving DecidableEq, Repr, Inhabited

/-- The words of a failure. -/
def Fault.message : Fault → String
  | noScheme => "relative URL without a base"
  | emptyHost => "empty host"
  | badDomain => "invalid international domain name"
  | badHostCharacter => "invalid domain character"
  | badIpv4 => "invalid IPv4 address"
  | badIpv6 => "invalid IPv6 address"
  | badService => "invalid port number"

end SketchPreview.Url
