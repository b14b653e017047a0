import Courier.Json.Printer
import Courier.Transaction

/-!
# Requests

A JSON-RPC request names a method and its parameters. Requests follow one another strictly, so
all carry the same number.
-/
namespace Courier.Rpc

/-- A request to a node. -/
structure Request where
  /-- What is asked. -/
  method : String
  /-- What it is asked of. -/
  params : Json.Value
  deriving Repr

namespace Request

/-- The version of the protocol. -/
def version : String := "2.0"

/-- The number that every request carries. -/
def number : Int := 1

/-- The request to send a transaction. Its members stand in ascending order of names. -/
def sendTransaction (transaction : Transaction) : Request where
  method := "eth_sendTransaction"
  params := .array [.object (Json.Members.ofList transaction.members)]

/-- The request for the receipt of a transaction. -/
def transactionReceipt (hash : String) : Request where
  method := "eth_getTransactionReceipt"
  params := .array [.string hash]

/-- The request as JSON. -/
def json (request : Request) : Json.Value :=
  .object [("jsonrpc", .string version), ("method", .string request.method),
    ("params", request.params), ("id", .integer number)]

/-- The body that is sent. -/
def text (request : Request) : String := request.json.text

end Request

end Courier.Rpc
