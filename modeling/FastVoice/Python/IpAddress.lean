import Mathlib.Algebra.Group.Nat.Defs

/-! # IPv4 and IPv6 addresses, as the module `ipaddress` classifies them -/
namespace FastVoice.Python.IpAddress

structure Network (w : Nat) where
  networkAddress : BitVec w
  prefixLength : Nat
  noHostBits : networkAddress &&& (BitVec.allOnes w <<< (w - prefixLength)) = networkAddress

namespace Network

variable {w : Nat}

def netmask (network : Network w) : BitVec w := BitVec.allOnes w <<< (w - network.prefixLength)

def contains (network : Network w) (ip : BitVec w) : Bool := ip &&& network.netmask == network.networkAddress

end Network

structure Constants (w : Nat) where
  linklocalNetwork : Network w
  loopbackNetwork : Network w
  multicastNetwork : Network w
  privateNetworks : List (Network w)
  privateNetworksExceptions : List (Network w)
  reservedNetworks : List (Network w)

namespace Constants

variable {w : Nat} (constants : Constants w)

def isPrivate (ip : BitVec w) : Bool :=
  constants.privateNetworks.any (·.contains ip) && constants.privateNetworksExceptions.all (! ·.contains ip)

def isReserved (ip : BitVec w) : Bool := constants.reservedNetworks.any (·.contains ip)

end Constants

def ipv4Constants : Constants 32 where
  linklocalNetwork := ⟨0xA9FE0000#32, 16, by decide⟩
  loopbackNetwork := ⟨0x7F000000#32, 8, by decide⟩
  multicastNetwork := ⟨0xE0000000#32, 4, by decide⟩
  privateNetworks := [
    ⟨0x00000000#32, 8, by decide⟩, ⟨0x0A000000#32, 8, by decide⟩, ⟨0x7F000000#32, 8, by decide⟩,
    ⟨0xA9FE0000#32, 16, by decide⟩, ⟨0xAC100000#32, 12, by decide⟩, ⟨0xC0000000#32, 24, by decide⟩,
    ⟨0xC00000AA#32, 31, by decide⟩, ⟨0xC0000200#32, 24, by decide⟩, ⟨0xC0A80000#32, 16, by decide⟩,
    ⟨0xC6120000#32, 15, by decide⟩, ⟨0xC6336400#32, 24, by decide⟩, ⟨0xCB007100#32, 24, by decide⟩,
    ⟨0xF0000000#32, 4, by decide⟩, ⟨0xFFFFFFFF#32, 32, by decide⟩]
  privateNetworksExceptions := [⟨0xC0000009#32, 32, by decide⟩, ⟨0xC000000A#32, 32, by decide⟩]
  reservedNetworks := [⟨0xF0000000#32, 4, by decide⟩]

def ipv6Constants : Constants 128 where
  linklocalNetwork := ⟨0xFE800000000000000000000000000000#128, 10, by decide⟩
  loopbackNetwork := ⟨1#128, 128, by decide⟩
  multicastNetwork := ⟨0xFF000000000000000000000000000000#128, 8, by decide⟩
  privateNetworks := [
    ⟨1#128, 128, by decide⟩, ⟨0#128, 128, by decide⟩, ⟨0xFFFF00000000#128, 96, by decide⟩,
    ⟨0x0064FF9B000100000000000000000000#128, 48, by decide⟩,
    ⟨0x01000000000000000000000000000000#128, 64, by decide⟩,
    ⟨0x20010000000000000000000000000000#128, 23, by decide⟩,
    ⟨0x20010DB8000000000000000000000000#128, 32, by decide⟩,
    ⟨0x20020000000000000000000000000000#128, 16, by decide⟩,
    ⟨0x3FFF0000000000000000000000000000#128, 20, by decide⟩,
    ⟨0xFC000000000000000000000000000000#128, 7, by decide⟩,
    ⟨0xFE800000000000000000000000000000#128, 10, by decide⟩]
  privateNetworksExceptions := [
    ⟨0x20010001000000000000000000000001#128, 128, by decide⟩,
    ⟨0x20010001000000000000000000000002#128, 128, by decide⟩,
    ⟨0x20010003000000000000000000000000#128, 32, by decide⟩,
    ⟨0x20010004011200000000000000000000#128, 48, by decide⟩,
    ⟨0x20010020000000000000000000000000#128, 28, by decide⟩,
    ⟨0x20010030000000000000000000000000#128, 28, by decide⟩]
  reservedNetworks := [
    ⟨0x00000000000000000000000000000000#128, 8, by decide⟩,
    ⟨0x01000000000000000000000000000000#128, 8, by decide⟩,
    ⟨0x02000000000000000000000000000000#128, 7, by decide⟩,
    ⟨0x04000000000000000000000000000000#128, 6, by decide⟩,
    ⟨0x08000000000000000000000000000000#128, 5, by decide⟩,
    ⟨0x10000000000000000000000000000000#128, 4, by decide⟩,
    ⟨0x40000000000000000000000000000000#128, 3, by decide⟩,
    ⟨0x60000000000000000000000000000000#128, 3, by decide⟩,
    ⟨0x80000000000000000000000000000000#128, 3, by decide⟩,
    ⟨0xA0000000000000000000000000000000#128, 3, by decide⟩,
    ⟨0xC0000000000000000000000000000000#128, 3, by decide⟩,
    ⟨0xE0000000000000000000000000000000#128, 4, by decide⟩,
    ⟨0xF0000000000000000000000000000000#128, 5, by decide⟩,
    ⟨0xF8000000000000000000000000000000#128, 6, by decide⟩,
    ⟨0xFE000000000000000000000000000000#128, 9, by decide⟩]

end IpAddress

inductive IpAddress where
  | v4 (ip : BitVec 32)
  | v6 (ip : BitVec 128)
  deriving DecidableEq

namespace IpAddress

def ipv4Mapped (ip : BitVec 128) : Option (BitVec 32) :=
  if ip >>> 32 = 0xFFFF#128 then some (ip.setWidth 32) else none

/-- A property of addresses, asked of the IPv4 address where an IPv6 address maps one. -/
def classify (ofV4 : BitVec 32 → Bool) (ofV6 : BitVec 128 → Bool) : IpAddress → Bool
  | .v4 ip => ofV4 ip
  | .v6 ip => ((ipv4Mapped ip).map ofV4).getD (ofV6 ip)

def isPrivate : IpAddress → Bool := classify ipv4Constants.isPrivate ipv6Constants.isPrivate

def isLoopback : IpAddress → Bool :=
  classify ipv4Constants.loopbackNetwork.contains ipv6Constants.loopbackNetwork.contains

def isLinkLocal : IpAddress → Bool :=
  classify ipv4Constants.linklocalNetwork.contains ipv6Constants.linklocalNetwork.contains

def isMulticast : IpAddress → Bool :=
  classify ipv4Constants.multicastNetwork.contains ipv6Constants.multicastNetwork.contains

def isReserved : IpAddress → Bool := classify ipv4Constants.isReserved ipv6Constants.isReserved

def isUnspecified : IpAddress → Bool := classify (· == 0) (· == 0)

end FastVoice.Python.IpAddress
