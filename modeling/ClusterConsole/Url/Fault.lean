/-! # Why an address is refused -/

namespace ClusterConsole

/-- What is wrong with a text that should be an address. -/
inductive UrlFault where
  /-- There is no scheme, and nothing that the text could be relative to. -/
  | relativeWithoutBase
  | emptyHost
  | invalidPort
  | invalidIpv4
  | invalidIpv6
  /-- A name of a host with a character that no name can have. -/
  | invalidDomain
  /-- The same for schemes with names of their own. -/
  | invalidDomainCharacter
deriving DecidableEq, Repr

/-- The fault in words. -/
def UrlFault.message : UrlFault → String
  | .relativeWithoutBase => "relative URL without a base"
  | .emptyHost => "empty host"
  | .invalidPort => "invalid port number"
  | .invalidIpv4 => "invalid IPv4 address"
  | .invalidIpv6 => "invalid IPv6 address"
  | .invalidDomain => "invalid international domain name"
  | .invalidDomainCharacter => "invalid domain character"

end ClusterConsole
