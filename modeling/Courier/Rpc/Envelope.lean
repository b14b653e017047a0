import Courier.Json.Reader

/-!
# Envelopes

What a node answers with: a record of four optional fields. An error is a record too, whose code
and message must be there.
-/
namespace Courier.Rpc

/-- An error that a node reports. -/
structure ErrorObject where
  /-- What kind of error. -/
  code : Int
  /-- Its wording. -/
  message : String
  /-- More about it. -/
  data : Option Json.Value
  deriving Repr

/-- The answer of a node. -/
structure Envelope where
  /-- The version of the protocol. -/
  jsonrpc : Option String
  /-- The number of the request. -/
  id : Option Json.Value
  /-- The outcome of the request. -/
  result : Option Json.Value
  /-- Why there is none. -/
  error : Option ErrorObject
  deriving Repr

/-- The error that a document spells, with room for so many nested containers. -/
def ErrorObject.ofDocument? (room : Nat) (document : Json.Document) : Option ErrorObject :=
  if room = 0 then none
  else do
    let field ← Json.Record.fields? ["code", "message", "data"] document
    let code ← (← field "code").int64?
    let message ← (← field "message").text?
    let data ← Json.Record.optional? (Json.Document.value? (room - 1)) (field "data")
    return { code, message, data }

namespace Envelope

/-- The envelope that a document spells. -/
def ofDocument? (document : Json.Document) : Option Envelope := do
  let room := Json.maxDepth - 1
  let field ← Json.Record.fields? ["jsonrpc", "id", "result", "error"] document
  let jsonrpc ← Json.Record.optional? Json.Document.text? (field "jsonrpc")
  let id ← Json.Record.optional? (Json.Document.value? room) (field "id")
  let result ← Json.Record.optional? (Json.Document.value? room) (field "result")
  let error ← Json.Record.optional? (ErrorObject.ofDocument? room) (field "error")
  return { jsonrpc, id, result, error }

/-- The envelope that an input spells. -/
def ofSymbols? (input : List Json.Symbol) : Option Envelope :=
  (Json.Document.ofSymbols? input).bind ofDocument?

/-- The envelope that a text spells. -/
def ofText? (text : String) : Option Envelope := ofSymbols? (Json.symbols text)

/-- The envelope that bytes spell. -/
def ofBytes? (bytes : List UInt8) : Option Envelope := ofSymbols? (Text.Utf8.scan bytes)

end Envelope

end Courier.Rpc
