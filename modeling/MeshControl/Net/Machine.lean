import MeshControl.Net.SocketAddress
import MeshControl.SystemError

/-!
The machine on which listeners are bound.

Whether a listener gets an address depends on the address first and on the other listeners second.
A machine whose loopback interface is down has no addresses at all. It then cannot tell foreign
IPv4 addresses from its own, so any of them can be bound, although no client can connect to it.
-/

namespace MeshControl.Net

/-- The machine as listeners and their clients find it. -/
structure Machine where
  /-- Whether the loopback interface is up; it is the only interface. -/
  isUp : Bool
  /-- The addresses on which somebody listens already. -/
  taken : List SocketAddress

namespace Machine

def loopbackScope : Scope := 1

/-- Why the machine refuses to bind an IPv6 address. Nobody listens on a group of machines, and an
address that is valid on one link only has to say on which. -/
def refusalV6 (machine : Machine) (ip : Ipv6) (scope : Scope) : Option SystemError :=
  if ip.isWildcard then none
  else if ip.isMulticast then some .invalidArgument
  else if ip.isLinkLocal && scope == 0 then some .invalidArgument
  else if ip.isLinkLocal && scope != loopbackScope then some .noSuchDevice
  else if machine.isUp && ip.isLoopback then none
  else some .addressNotAvailable

/-- Why the machine refuses to bind an IPv4 address. -/
def refusalV4 (machine : Machine) (ip : Ipv4) : Option SystemError :=
  if !machine.isUp || ip.isWildcard || ip.isLoopback then none else some .addressNotAvailable

/-- Why the machine refuses to bind an address, even if nobody listens on it. -/
def refusal (machine : Machine) (address : SocketAddress) : Option SystemError :=
  match address.ip.canonical with
  | .v4 ip => machine.refusalV4 ip
  | .v6 ip => machine.refusalV6 ip address.scope

/-- The address that a listener gets if nothing is in its way, given the port that is used if it
asks for any. -/
def granted (freePort : Port) (address : SocketAddress) : SocketAddress :=
  (if address.port = 0 then address.withPort freePort else address).withoutScope

/-- Bind a listener to an address, if the machine has it and nobody listens on it. -/
def bind (machine : Machine) (freePort : Port) (address : SocketAddress) :
    Except SystemError SocketAddress :=
  let bound := granted freePort address
  match machine.refusal address with
  | some error => .error error
  | none => if machine.taken.any bound.overlaps then .error .addressInUse else .ok bound

/-- What a listener gets does not depend on what others have; only whether it gets it does. -/
theorem eq_granted_of_bind {machine : Machine} {freePort : Port} {address bound : SocketAddress}
    (found : machine.bind freePort address = .ok bound) : bound = granted freePort address := by
  simp only [bind] at found
  split at found
  · cases found
  · split at found
    · cases found
    · cases found
      rfl

/-- The machine when somebody listens on more addresses. -/
def occupy (machine : Machine) (bound : List SocketAddress) : Machine :=
  { machine with taken := bound ++ machine.taken }

end Machine

end MeshControl.Net
