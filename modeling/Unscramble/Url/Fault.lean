/-!
# What makes a text no URL
-/

namespace Unscramble.Url

/-- Why a text is no URL. -/
inductive Fault
  /-- It does not begin with a scheme. -/
  | noScheme
  /-- A host must be named, and none is. -/
  | emptyHost
  /-- The host is no domain name. -/
  | domain
  /-- The host has a character that no host can have. -/
  | hostCharacter
  /-- The host looks like four numbers, but they are no address. -/
  | ipv4
  /-- The host is in brackets, but what they hold is no address. -/
  | ipv6
  /-- The port is no number up to 65535. -/
  | port
  deriving DecidableEq, Repr

/-- The wording of a fault. -/
def Fault.message : Fault → String
  | noScheme => "relative URL without a base"
  | emptyHost => "empty host"
  | domain => "invalid international domain name"
  | hostCharacter => "invalid domain character"
  | ipv4 => "invalid IPv4 address"
  | ipv6 => "invalid IPv6 address"
  | port => "invalid port number"

end Unscramble.Url
