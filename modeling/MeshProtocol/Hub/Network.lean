import Mathlib.Data.Fin.VecNotation
import Mathlib.Data.Fintype.Basic

/-!
# Outbound addresses (`mesh-hub/src/network.rs`)

What a hub checks before it connects to an address that a descriptor or a configuration gives it.
Parsing the text of a socket address is the standard library's, and a parameter.
-/

namespace MeshProtocol

/-- An IPv4 address: four octets. -/
structure Ipv4Addr where
  octets : Fin 4 → UInt8
deriving DecidableEq

/-- An IPv6 address: eight segments. -/
structure Ipv6Addr where
  segments : Fin 8 → UInt16
deriving DecidableEq

/-- An IP address. -/
inductive IpAddr where
  | v4 (addr : Ipv4Addr)
  | v6 (addr : Ipv6Addr)
deriving DecidableEq

/-- An IP address and a port. -/
structure SocketAddr where
  ip : IpAddr
  port : UInt16
deriving DecidableEq

/-- `str::parse::<SocketAddr>`: the address, or the text of the parse error. -/
class SocketAddrParser where
  parse : String → Except String SocketAddr

namespace Ipv4Addr

/-- 127.0.0.0/8. -/
def isLoopback (a : Ipv4Addr) : Bool := a.octets 0 = 127

/-- 10.0.0.0/8, 172.16.0.0/12 and 192.168.0.0/16. -/
def isPrivate (a : Ipv4Addr) : Bool :=
  a.octets 0 = 10 ∨ (a.octets 0 = 172 ∧ a.octets 1 &&& 0xf0 = 16) ∨
    (a.octets 0 = 192 ∧ a.octets 1 = 168)

/-- 169.254.0.0/16. -/
def isLinkLocal (a : Ipv4Addr) : Bool := a.octets 0 = 169 ∧ a.octets 1 = 254

/-- 0.0.0.0. -/
def isUnspecified (a : Ipv4Addr) : Bool := a.octets = ![0, 0, 0, 0]

/-- Carrier-grade NAT, 100.64.0.0/10. -/
def isCgn (a : Ipv4Addr) : Bool := a.octets 0 = 100 ∧ a.octets 1 &&& 0xc0 = 64

end Ipv4Addr

namespace Ipv6Addr

/-- ::1. -/
def isLoopback (a : Ipv6Addr) : Bool := a.segments = ![0, 0, 0, 0, 0, 0, 0, 1]

/-- ::. -/
def isUnspecified (a : Ipv6Addr) : Bool := a.segments = ![0, 0, 0, 0, 0, 0, 0, 0]

/-- Unique local addresses, fc00::/7. -/
def isUla (a : Ipv6Addr) : Bool := a.segments 0 &&& 0xfe00 = 0xfc00

/-- fe80::/10. -/
def isLinkLocal (a : Ipv6Addr) : Bool := a.segments 0 &&& 0xffc0 = 0xfe80

end Ipv6Addr

/-- Whether an address is private, loopback, link-local, or reserved. -/
def isPrivateIp : IpAddr → Bool
  | .v4 a => a.isLoopback || a.isPrivate || a.isLinkLocal || a.isUnspecified || a.isCgn
  | .v6 a => a.isLoopback || a.isUnspecified || a.isUla || a.isLinkLocal

/-- Errors of `validateOutboundAddr`, with their texts. -/
inductive AddressValidationError where
  | parseError (text : String)
  | privateAddress (text : String)
deriving DecidableEq, Repr

/-- The `Display` text. -/
def AddressValidationError.message : AddressValidationError → String
  | .parseError text => text
  | .privateAddress text => text

/-- Parses an address and refuses private ones, except those in the allowlist. -/
def validateOutboundAddr [SocketAddrParser] (addr : String) (allowlist : List String) :
    Except AddressValidationError SocketAddr :=
  match SocketAddrParser.parse addr with
  | .error e => .error (.parseError ("invalid address '" ++ addr ++ "': " ++ e))
  | .ok socketAddr =>
    if addr ∈ allowlist then .ok socketAddr
    else if isPrivateIp socketAddr.ip then
      .error (.privateAddress ("address '" ++ addr ++
        "' is private/loopback/reserved and not in the outbound allowlist"))
    else .ok socketAddr

end MeshProtocol
