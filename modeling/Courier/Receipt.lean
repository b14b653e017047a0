import Courier.Json.Printer
import Courier.Json.Reader

/-!
# Receipts

The record of a transaction that was mined, kept as the value the node sent: whatever the types
of its fields, there is a receipt. A transaction succeeded exactly if the status is the string
`0x1`.
-/
namespace Courier

/-- The record of a mined transaction. -/
structure Receipt where
  /-- The record as the node sent it. -/
  value : Json.Value
  deriving Repr

/-- A field for display: a string as it is, another value as JSON, a missing one as `?`. -/
def display : Option Json.Value → String
  | some (.string s) => s
  | some value => value.text
  | none => "?"

namespace Receipt

/-- The receipt as JSON, which is the record itself. -/
def text (receipt : Receipt) : String := receipt.value.text

/-- The receipt that a text spells: any value will do. -/
def ofText? (text : String) : Option Receipt := (Json.Value.ofText? text).map Receipt.mk

/-- The status of a transaction that succeeded. -/
def successStatus : String := "0x1"

/-- A field that is there and not `null`. -/
def field? (receipt : Receipt) (name : String) : Option Json.Value :=
  match receipt.value.member? name with
  | some .null => none
  | found => found

/-- The status. -/
def status? (receipt : Receipt) : Option Json.Value := receipt.field? "status"

/-- The hash of the transaction, if the record holds it as a string. -/
def transactionHash? (receipt : Receipt) : Option String :=
  (receipt.field? "transactionHash").bind Json.Value.text?

/-- Whether the transaction succeeded. -/
def isSuccess (receipt : Receipt) : Bool :=
  receipt.status?.bind Json.Value.text? = some successStatus

/-- The status for display. -/
def statusDisplay (receipt : Receipt) : String := display receipt.status?

/-- One line about the receipt. -/
def summary (receipt : Receipt) : String :=
  "status=" ++ display receipt.status? ++
  " block=" ++ display (receipt.field? "blockNumber") ++
  " gas_used=" ++ display (receipt.field? "gasUsed")

end Receipt

end Courier
