import ClusterConsole.Registry.Client
import ClusterConsole.Server.SocketAddress
import ClusterConsole.Settings.Environment

/-! # Starting the server

First the client of the registry is made, then the address to listen at is read, and at last the server begins to listen
there. The first of these that fails ends it. -/

namespace ClusterConsole.Server

/-- Why a server cannot listen at an address. -/
inductive ListenFault where
  | inUse
  | notAvailable
  | notPermitted
deriving DecidableEq, Repr

/-- The fault in words. -/
def ListenFault.message : ListenFault → String
  | .inUse => "Address already in use (os error 98)"
  | .notAvailable => "Cannot assign requested address (os error 99)"
  | .notPermitted => "Permission denied (os error 13)"

/-- Why a server does not start. -/
inductive StartFault where
  | client (error : FetchError)
  | malformedAddress
  | listen (fault : ListenFault)
deriving DecidableEq, Repr

/-- The fault in words. -/
def StartFault.message : StartFault → String
  | .client error => error.message
  | .malformedAddress => "invalid socket address syntax"
  | .listen fault => fault.message

/-- A server that listens. -/
structure Started where
  client : RegistryClient
  zone : DisplayZone
  address : SocketAddress
deriving DecidableEq, Repr

/-- Starts a server. `listen` tells whether it may listen at an address. -/
def start (listen : SocketAddress → Except ListenFault Unit) (s : Settings) : Except StartFault Started := do
  let client ← (RegistryClient.ofUrl s.apiUrl s.timeout.toNat).mapError .client
  match SocketAddress.parse? s.bindAddress.toList with
  | none => .error .malformedAddress
  | some address =>
    (listen address).mapError .listen
    return { client, zone := s.zone, address }

end ClusterConsole.Server
