import ClusterConsole.Http.Message
import ClusterConsole.Listing.Command
import Std.Async.DNS
import Std.Async.TCP
import Std.Async.Timer

/-! # The command

Connects the listing to the network and to the terminal. Only addresses of the scheme `http` can be reached. -/

open Std.Async Std.Net

namespace ClusterConsole

/-- The numbers of a host. -/
def numbersOf : Host → Async (List IPAddr)
  | .name text => do return (← DNS.getAddrInfo (String.ofList text) "").toList
  | host =>
    let text := String.ofList host.text
    match IPv4Addr.ofString text, IPv6Addr.ofString ((text.drop 1).dropEnd 1).toString with
    | some number, _ => return [.v4 number]
    | none, some number => return [.v6 number]
    | none, none => return []

/-- Connects to the first number that accepts. -/
def connect (port : UInt16) : List IPAddr → Async TCP.Socket.Client
  | [] => throw (IO.userError "no address")
  | number :: others => do
    try
      let socket ← TCP.Socket.Client.mk
      socket.connect (match number with | .v4 addr => .v4 ⟨addr, port⟩ | .v6 addr => .v6 ⟨addr, port⟩)
      return socket
    catch error =>
      if others.isEmpty then throw error
      connect port others

/-- All that comes before the connection ends. -/
partial def receive (socket : TCP.Socket.Client) (before : ByteArray) : Async ByteArray := do
  match ← socket.recv? 65536 with
  | some bytes => receive socket (before ++ bytes)
  | none => return before

/-- Sends a request and waits for the answer. -/
def exchangeOver (request : Http.Request) : Async Http.Exchange := do
  match request.url.scheme with
  | .https => return .failed
  | .http =>
    let socket ← connect (.ofNat request.url.effectivePort) (← numbersOf request.url.host)
    socket.send request.head.toUTF8
    return .ofBytes (← receive socket .empty).toList

instance : Inhabited Http.Exchange := ⟨.failed⟩

/-- The network of this machine. What takes longer than the client waits has failed. -/
def network (client : RegistryClient) : Http.Network IO where
  exchange request := do
    let limit : Async Http.Exchange := do
      sleep (.ofNat client.timeout)
      return .failed
    try
      Async.block (Async.race (exchangeOver request) limit)
    catch _ => return .failed

end ClusterConsole

open ClusterConsole in
/-- Lists the nodes of the cluster. -/
def main (arguments : List String) : IO UInt32 := do
  let result ← Listing.run network arguments
  IO.print result.output
  if let some failure := result.failure then
    IO.eprint failure
  return .ofNat result.code
