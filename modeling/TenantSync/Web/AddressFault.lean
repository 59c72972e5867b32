/-! # Why a text is not a web address -/

namespace TenantSync

/-- What is wrong with a text that should be an absolute address. -/
inductive AddressFault where
  | relative
  | emptyHost
  | port
  | ipv4
  | ipv6
  | domain
  | domainCharacter
  deriving DecidableEq, Repr

/-- The wording of an address fault. -/
def AddressFault.message : AddressFault → String
  | relative => "relative URL without a base"
  | emptyHost => "empty host"
  | port => "invalid port number"
  | ipv4 => "invalid IPv4 address"
  | ipv6 => "invalid IPv6 address"
  | domain => "invalid international domain name"
  | domainCharacter => "invalid domain character"

end TenantSync
