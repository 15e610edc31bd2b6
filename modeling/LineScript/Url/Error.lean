/-!
Errors of URLs: the causes and their wording.
-/

namespace LineScript

inductive UrlError where
  | relative
  | emptyHost
  | invalidDomain
  | invalidName
  | invalidIpv4
  | invalidIpv6
  | invalidPort
deriving DecidableEq

def UrlError.message : UrlError → String
  | relative => "RelativeUrlWithoutBase: relative URL without a base"
  | emptyHost => "EmptyHost: empty host"
  | invalidDomain => "IdnaError: invalid international domain name"
  | invalidName => "InvalidDomainCharacter: invalid domain character"
  | invalidIpv4 => "InvalidIpv4Address: invalid IPv4 address"
  | invalidIpv6 => "InvalidIpv6Address: invalid IPv6 address"
  | invalidPort => "InvalidPort: invalid port number"

end LineScript
