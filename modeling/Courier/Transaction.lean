import Courier.Address
import Courier.Calldata
import Courier.Json.Members

/-!
# Transactions

A transaction for an account that the node holds unlocked: no nonce and no signature. A `Call`
is what a user asks for, as strings; `Transaction.ofCall` is what is sent, if the strings make
sense. The sender is looked at first, then the target, then the parameters.
-/
namespace Courier

/-- The spelling of a number that a node expects: `0x` and the small hexadecimal digits, without
leading zeros; zero is `0x0`. -/
def Quantity.encode (value : Nat) : String := "0x" ++ String.ofList (Nat.toDigits 16 value)

/-- A call as a user spells it. -/
structure Call where
  /-- The account that sends. -/
  sender : String
  /-- The contract or account that is called. -/
  target : String
  /-- The signature of the function, or nothing if the parameters are all of the calldata. -/
  signature : String
  /-- The encoded parameters in hexadecimal. -/
  params : String
  deriving DecidableEq, Repr

/-- The gas that a transaction may use unless told otherwise. -/
def defaultGas : UInt64 := 0x100000

/-- The price of gas, in wei, unless told otherwise. -/
def defaultGasPrice : UInt64 := 1000000000

/-- A transaction that can be sent. -/
structure Transaction where
  /-- The account that sends. -/
  sender : Address
  /-- The contract or account that is called. -/
  target : Address
  /-- The calldata, with its prefix. -/
  data : String
  /-- The gas it may use. -/
  gas : UInt64
  /-- The price of gas, in wei. -/
  gasPrice : UInt64

namespace Transaction

/-- The transaction of a call, with the default gas and price. -/
def ofCall (call : Call) : Except EncodingError Transaction := do
  let sender ← Address.parse call.sender
  let target ← Address.parse call.target
  let data ← Calldata.encode call.signature call.params
  return { sender, target, data, gas := defaultGas, gasPrice := defaultGasPrice }

/-- The transaction with another gas limit and price. -/
def withGas (transaction : Transaction) (gas gasPrice : UInt64) : Transaction :=
  { transaction with gas, gasPrice }

/-- The transaction of a call with a gas limit and price of its own, or the default ones. -/
def ofCallWith (call : Call) (gas : Option (UInt64 × UInt64)) :
    Except EncodingError Transaction :=
  (ofCall call).map fun transaction =>
    match gas with
    | some (gas, gasPrice) => transaction.withGas gas gasPrice
    | none => transaction

/-- The members that spell a transaction, in their usual order. -/
def members (transaction : Transaction) : List (String × Json.Value) :=
  [("from", .string transaction.sender.checksum),
   ("to", .string transaction.target.checksum),
   ("data", .string transaction.data),
   ("gas", .string (Quantity.encode transaction.gas.toNat)),
   ("gasPrice", .string (Quantity.encode transaction.gasPrice.toNat))]

end Transaction

end Courier
