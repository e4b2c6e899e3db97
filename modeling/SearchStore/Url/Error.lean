/-! # Why a text is no URL -/

namespace SearchStore

/-- Why a text is no URL. -/
inductive Url.Error where
  | emptyHost
  | invalidPortNumber
  | invalidIpv4
  | invalidIpv6
  | invalidHostCharacter
  | invalidInternationalHost
  | missingScheme
deriving DecidableEq, Repr

def Url.Error.message : Url.Error → String
  | .emptyHost => "empty host"
  | .invalidPortNumber => "invalid port number"
  | .invalidIpv4 => "invalid IPv4 address"
  | .invalidIpv6 => "invalid IPv6 address"
  | .invalidHostCharacter => "invalid domain character"
  | .invalidInternationalHost => "invalid international domain name"
  | .missingScheme => "relative URL without a base"

end SearchStore
