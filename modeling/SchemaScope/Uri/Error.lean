/-!
Why a text is not read as a URI.
-/

namespace SchemaScope

/-- Why a text is not read as a URI. -/
inductive UriError where
  /-- It does not begin with a scheme. -/
  | relative
  | emptyHost
  /-- A name of a host has characters that it must not have. -/
  | domain
  /-- A host that is not looked up by name has characters that it must not
  have. -/
  | hostCharacter
  | ipv4
  | ipv6
  | port
  deriving DecidableEq, Repr

def UriError.message : UriError → String
  | relative => "relative URL without a base"
  | emptyHost => "empty host"
  | domain => "invalid international domain name"
  | hostCharacter => "invalid domain character"
  | ipv4 => "invalid IPv4 address"
  | ipv6 => "invalid IPv6 address"
  | port => "invalid port number"

end SchemaScope
