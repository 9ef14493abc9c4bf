/-!
# URLs

A URL has a scheme, perhaps a host, and a path. The path is a list of segments, each behind a slash; only a URL
whose scheme is followed by neither a slash nor a host has a path that is any text.
-/

namespace Folio

/-- The host of a URL. -/
inductive Url.Host
  | name (text : String)
  | ipv4 (address : Nat)
  /-- Eight groups of sixteen bits. -/
  | ipv6 (groups : List Nat)
  deriving Repr, DecidableEq

/-- The path of a URL. -/
inductive Url.Path
  | rootless (text : String)
  | rooted (segments : List String)
  deriving Repr, DecidableEq

/-- A URL. -/
structure Url where
  /-- The scheme, in lower case. -/
  scheme : String
  host : Option Url.Host
  path : Url.Path
  deriving Repr, DecidableEq

/-- Why a text is no URL. -/
inductive Url.Fault
  /-- It does not begin with a scheme. -/
  | noScheme
  | emptyHost
  /-- The host is no name of the network. -/
  | hostName
  /-- The host has a character that no host may have. -/
  | hostCharacter
  | ipv4
  | ipv6
  /-- What stands behind the colon after the host is no number of 16 bits. -/
  | portNumber
  deriving Repr, DecidableEq

namespace Url

/-- The wording of the reason. -/
def Fault.message : Fault → String
  | .noScheme => "relative URL without a base"
  | .emptyHost => "empty host"
  | .hostName => "invalid international domain name"
  | .hostCharacter => "invalid domain character"
  | .ipv4 => "invalid IPv4 address"
  | .ipv6 => "invalid IPv6 address"
  | .portNumber => "invalid port number"

/-- The path as text. -/
def Path.toText : Path → String
  | .rootless text => text
  | .rooted segments => String.join (segments.map ("/" ++ ·))

end Url

end Folio
