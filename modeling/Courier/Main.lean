import Courier.Http.Message
import Courier.Program
import Std.Async.DNS
import Std.Async.TCP
import Std.Async.Timer

/-!
# The executable

Holds the conversation of the program over real connections: posts go out over TCP, the log and
complaints to standard error, lines to standard output. Encrypted connections are not spoken
here; a post to one is lost.
-/
namespace Courier.Executable

open Std.Async

/-- The addresses of a host: itself, if it is one, or what it resolves to. -/
def addresses (host : String) : IO (List Std.Net.IPAddr) :=
  match Std.Net.IPv4Addr.ofString host, Std.Net.IPv6Addr.ofString host with
  | some address, _ => return [.v4 address]
  | none, some address => return [.v6 address]
  | none, none => do
    let found ← (DNS.getAddrInfo host "").block
    return found.toList

/-- A socket that is connected to a port of an address. -/
def connect (address : Std.Net.IPAddr) (port : UInt16) : Async TCP.Socket.Client := do
  let socket ← TCP.Socket.Client.mk
  match address with
  | .v4 addr => socket.connect (.v4 { addr, port })
  | .v6 addr => socket.connect (.v6 { addr, port })
  return socket

/-- Bytes that are asked for at a time. -/
def chunk : UInt64 := 65536

/-- Reads until the reply is complete or the other side closes. -/
partial def receive (socket : TCP.Socket.Client) (bytes : List UInt8) : Async Reply := do
  match ← socket.recv? chunk with
  | none => return (Http.reply? true bytes).getD .lost
  | some more =>
    let bytes := bytes ++ more.toList
    match Http.reply? false bytes with
    | some reply => return reply
    | none => receive socket bytes

/-- Posts over a connection to one address. -/
def exchangeWith (endpoint : Endpoint) (body : String) (address : Std.Net.IPAddr) :
    Async Reply := do
  let socket ← connect address (UInt16.ofNat endpoint.port)
  socket.send ⟨(Http.post endpoint body).toArray⟩
  receive socket []

/-- Gives up after the time that a reply may take. -/
def giveUp : Async Reply := do
  sleep (.ofNat replyTimeout)
  return .lost

instance : Inhabited Reply := ⟨.lost⟩

/-- The reply to a posted body, from the first address that takes it. -/
def exchange (endpoint : Endpoint) (body : String) : IO Reply := do
  if endpoint.secure then return .lost
  let hosts ← try addresses endpoint.host catch _ => pure []
  for address in hosts do
    try
      return ← (Async.race (exchangeWith endpoint body address) giveUp).block
    catch _ => continue
  return .lost

/-- The texts that a run takes from here. -/
def wording : Rpc.Wording where
  fault
    | .unsendable => "builder error"
    | .lost => "error sending request"
    | .broken => "request or response body error"
    | .undecodable _ => "error decoding response body"
  causes
    | .unsendable => ["the URL names no HTTP endpoint"]
    | .lost => ["no answer"]
    | .broken => ["end of file before message length reached"]
    | .undecodable _ => ["the body spells no envelope"]
  request := Rpc.Request.text
  result
    | some result => result.text
    | none => "none"

/-- Holds a conversation. -/
def hold {α : Type} : Conversation α → IO α
  | .done result => return result
  | .post endpoint body next => do
    let reply ← exchange endpoint body
    hold (next reply)
  | .log event next => do
    IO.eprintln (Program.logLine wording event)
    hold next
  | .print line next => do
    IO.println line
    (← IO.getStdout).flush
    hold next
  | .pause milliseconds next => do
    IO.sleep (UInt32.ofNat (min milliseconds (UInt32.size - 1)))
    hold next

end Courier.Executable

/-- Runs the program on its arguments and environment. -/
def main (arguments : List String) : IO UInt32 := do
  let environment ← IO.getEnv "SEND_TX_TIMEOUT"
  let verdict ← Courier.Executable.hold (Courier.Program.run arguments environment)
  match verdict.complaint? Courier.Executable.wording with
  | some complaint => IO.eprintln complaint
  | none => pure ()
  return verdict.exitCode.toUInt32
