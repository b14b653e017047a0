import Courier.Proofs.Calldata
import Courier.Proofs.Exchange
import Courier.Proofs.Json.RoundTrip
import Courier.Proofs.Results

/-!
# The transaction on the wire

What the one body says that a submission posts. It is read back as JSON, and each part of the
transaction in it decodes to what the call asks for: the addresses to the bytes that the call
spells, the calldata to the selector (the front of a hash that `Keccak.Standard` defines) and the
parameters, the quantities to the gas and its price.
-/
namespace Courier

/-- Whether a text is `0x` and an even number of hexadecimal digits, which decode to bytes. -/
def Spells (text : String) (bytes : List UInt8) : Prop :=
  ∃ digits, text = "0x" ++ String.ofList digits ∧ digits.length % 2 = 0 ∧
    (∀ c ∈ digits, Hex.isDigit c = true) ∧ Hex.decode? digits = some bytes

/-- Digits that decode to bytes spell them behind the mark. -/
theorem spells_of_decode? {digits : List Char} {bytes : List UInt8}
    (decoded : Hex.decode? digits = some bytes) : Spells ("0x" ++ String.ofList digits) bytes := by
  obtain ⟨even, all⟩ := Hex.exists_decode?_iff.1 ⟨bytes, decoded⟩
  exact ⟨digits, rfl, even, all, decoded⟩

/-- Whether bytes are those that a signature puts first: none for the empty signature, and for any
other the four whose bits begin the hash of its characters without the blank ones. -/
def Selects (signature : String) (selector : List UInt8) : Prop :=
  if signature = "" then selector = []
  else
    let message := Keccak.Standard.bitsOf (Text.Utf8.encode (Text.dropBlanks signature))
    Keccak.Standard.bitsOf selector = (Keccak.Standard.hash message).take 32

/-- The bytes of the selector are those that the signature puts first. -/
theorem Calldata.selects_selectorBytes (signature : String) :
    Selects signature (selectorBytes signature) := by
  unfold Selects selectorBytes
  split
  · rfl
  · rw [Keccak.bitsOf_take, Keccak.bitsOf_digest]

/-- Whether the parts of a transaction mean what a call asks for with a gas and a price. -/
structure Means (call : Call) (gas gasPrice : UInt64)
    (sender target data gasText gasPriceText : String) : Prop where
  /-- The sender is the twenty bytes that the digits of the user's spelling decode to. -/
  sender : ∃ bytes, Hex.decode? (Address.digits call.sender) = some bytes ∧ bytes.length = 20 ∧
    Spells sender bytes
  /-- The target is the twenty bytes that the digits of its spelling decode to. -/
  target : ∃ bytes, Hex.decode? (Address.digits call.target) = some bytes ∧ bytes.length = 20 ∧
    Spells target bytes
  /-- The calldata is the selector of the signature and the bytes of the parameters. -/
  data : ∃ selector params, Selects call.signature selector ∧
    Hex.decode? (Params.digits call.params) = some params ∧ Spells data (selector ++ params)
  /-- The gas is the number asked for. -/
  gas : Quantity.decode? gasText = some gas.toNat
  /-- The price is the number asked for. -/
  gasPrice : Quantity.decode? gasPriceText = some gasPrice.toNat

namespace Transaction

/-- A call comes to a transaction exactly if its addresses are addresses and its calldata can be
encoded, and the transaction holds these. -/
theorem ofCall_eq_ok_iff {call : Call} {transaction : Transaction} :
    ofCall call = .ok transaction ↔
      Address.parse call.sender = .ok transaction.sender ∧
      Address.parse call.target = .ok transaction.target ∧
      Calldata.encode call.signature call.params = .ok transaction.data ∧
      transaction.gas = defaultGas ∧ transaction.gasPrice = defaultGasPrice := by
  obtain ⟨sender, target, data, gas, gasPrice⟩ := transaction
  unfold ofCall
  simp only [bind_eq_ok_iff, pure, Except.pure, Except.ok.injEq, Transaction.mk.injEq]
  constructor
  · rintro ⟨_, first, _, second, _, third, rfl, rfl, rfl, rfl, rfl⟩
    exact ⟨first, second, third, rfl, rfl⟩
  · rintro ⟨first, second, third, rfl, rfl⟩
    exact ⟨_, first, _, second, _, third, rfl, rfl, rfl, rfl, rfl⟩

/-- The members of a transaction in ascending order of names. -/
theorem ofList_members (transaction : Transaction) :
    Json.Members.ofList transaction.members =
      [("data", .string transaction.data), ("from", .string transaction.sender.checksum),
       ("gas", .string (Quantity.encode transaction.gas.toNat)),
       ("gasPrice", .string (Quantity.encode transaction.gasPrice.toNat)),
       ("to", .string transaction.target.checksum)] := by
  simp (disch := decide) only [members, Json.Members.ofList, List.foldl_cons, List.foldl_nil,
    Json.Members.insert, if_pos, if_neg]

/-- The calldata of a transaction of a call is the selector and the parameters. -/
theorem spells_data {call : Call} {data : String}
    (encoded : Calldata.encode call.signature call.params = .ok data) :
    ∃ selector params, Selects call.signature selector ∧
      Hex.decode? (Params.digits call.params) = some params ∧ Spells data (selector ++ params) := by
  obtain ⟨text, accepted, rfl⟩ := Calldata.encode_eq_ok_iff.1 encoded
  have behind := Params.behind_digits call.params
  obtain ⟨rfl, whole⟩ := (Params.normalize_eq_ok_iff behind).1 accepted
  obtain ⟨params, decoded⟩ := whole.exists_decode?
  rw [String.toList_ofList] at decoded
  have both := Hex.decode?_append (Calldata.decode?_selectorDigits call.signature) decoded
  refine ⟨_, params, Calldata.selects_selectorBytes call.signature, decoded, ?_⟩
  rw [← String.ofList_toList (s := Calldata.selectorDigits call.signature), ← String.ofList_append]
  exact spells_of_decode? both

/-- The checksum spelling of an address spells its bytes. -/
theorem spells_checksum (address : Address) : Spells address.checksum address.bytes := by
  have marked : address.checksum = "0x" ++ String.ofList address.checksumDigits := by
    rw [← String.toList_inj]
    simp [Address.checksum]
  rw [marked]
  exact spells_of_decode? address.decode?_checksumDigits

/-- The parts of a transaction of a call mean the call. -/
theorem means_of_ofCall {call : Call} {transaction : Transaction}
    (encoded : ofCall call = .ok transaction) (gas gasPrice : UInt64) :
    Means call gas gasPrice transaction.sender.checksum transaction.target.checksum
      transaction.data (Quantity.encode gas.toNat) (Quantity.encode gasPrice.toNat) := by
  obtain ⟨sender, target, data, -, -⟩ := ofCall_eq_ok_iff.1 encoded
  exact {
    sender := ⟨_, Address.decode?_digits_of_parse sender, transaction.sender.length_bytes,
      spells_checksum transaction.sender⟩
    target := ⟨_, Address.decode?_digits_of_parse target, transaction.target.length_bytes,
      spells_checksum transaction.target⟩
    data := spells_data data
    gas := Quantity.decode?_encode gas.toNat
    gasPrice := Quantity.decode?_encode gasPrice.toNat }

end Transaction

/-- The text of a request to send a transaction is read back. -/
theorem Rpc.Request.ofText?_sendTransaction (transaction : Transaction) :
    Json.Value.ofText? (sendTransaction transaction).text =
      some (decoded "eth_sendTransaction"
        (.array [.object (Json.Members.ofList transaction.members)])) := by
  refine ofText?_text (sendTransaction transaction) (.array fun item listed => ?_)
  obtain rfl := List.mem_singleton.1 listed
  refine .object (Json.Members.ascending_ofList transaction.members) fun member found => ?_
  rw [transaction.ofList_members] at found
  simp only [List.mem_cons, List.not_mem_nil, or_false] at found
  rcases found with rfl | rfl | rfl | rfl | rfl <;> exact .string _

/-- The value of a request to send the one transaction that has the parts. -/
def sendingValue (sender target data gas gasPrice : String) : Json.Value :=
  .object [
    ("id", .integer 1),
    ("jsonrpc", .string "2.0"),
    ("method", .string "eth_sendTransaction"),
    ("params", .array [.object [
      ("data", .string data),
      ("from", .string sender),
      ("gas", .string gas),
      ("gasPrice", .string gasPrice),
      ("to", .string target)]])]

/-- A submission has one body to post, and that body means the call: it is read as a request to send
one transaction, with exactly five members, each of which decodes to what the call, the gas and the
price ask for. It is posted once if the URL reaches the node, and nothing is posted if not. -/
theorem submit_body_means_call (submitter : Submitter) {call : Call} {transaction : Transaction}
    (encoded : Transaction.ofCall call = .ok transaction) :
    ∃ body sender target data gas gasPrice,
      Json.Value.ofText? body = some (sendingValue sender target data gas gasPrice) ∧
      Means call submitter.gas submitter.gasPrice sender target data gas gasPrice ∧
      ∀ (reaches : Endpoint → Bool) (answers : List Answer),
        let shown := (submitter.submit call).play reaches answers
        (Reached reaches submitter.url → shown.requests = [body]) ∧
        (¬Reached reaches submitter.url → shown.requests = []) := by
  have read := Rpc.Request.ofText?_sendTransaction (submitter.outgoing transaction)
  rw [Transaction.ofList_members] at read
  refine ⟨(Rpc.Request.sendTransaction (submitter.outgoing transaction)).text, _, _, _, _, _,
    read, Transaction.means_of_ofCall encoded _ _, fun reaches answers => ⟨?_, ?_⟩⟩
  · intro reached
    rw [Submitter.play_submit reached encoded]
  · intro lost
    obtain ⟨fault, shown⟩ := Submitter.play_submit_of_not_reached lost encoded answers
    rw [shown]
    rfl

/-- A call between addresses in either case, one of them without its mark. -/
theorem submit_body_means_call_mixed_case :
    let submitter : Submitter := { url := "http://127.0.0.1:8547", gas := 0, gasPrice := 255 }
    let call : Call :=
      ⟨"0xabcdefABCDEF0123456789abcdefABCDEF012345", "00000000000000000000000000000000000000fF",
        "ping( uint256 )", "0x00Ff"⟩
    (∃ transaction, Transaction.ofCall call = .ok transaction) ∧
    Reached (fun _ => true) submitter.url ∧
    ∃ body sender target data gas gasPrice,
      Json.Value.ofText? body = some (sendingValue sender target data gas gasPrice) ∧
      Means call 0 255 sender target data gas gasPrice ∧
      ((submitter.submit call).play (fun _ => true) []).requests = [body] := by
  intro submitter call
  have reached : Reached (fun _ => true) submitter.url := reached_local
  have sender : (Address.parse? call.sender).isSome = true := by decide
  have target : (Address.parse? call.target).isSome = true := by decide
  have params : Params.normalize call.params = .ok "00Ff" := by decide
  obtain ⟨first, sender⟩ := Option.isSome_iff_exists.1 sender
  obtain ⟨second, target⟩ := Option.isSome_iff_exists.1 target
  have encoded : Transaction.ofCall call = .ok
      ⟨first, second, "0x" ++ Calldata.selectorDigits call.signature ++ "00Ff", defaultGas,
        defaultGasPrice⟩ := by
    rw [Transaction.ofCall_eq_ok_iff, Address.parse, Address.parse, Calldata.encode, sender,
      target, params]
    exact ⟨rfl, rfl, rfl, rfl, rfl⟩
  obtain ⟨body, sender, target, data, gas, gasPrice, read, means, posted⟩ :=
    submit_body_means_call submitter encoded
  exact ⟨⟨_, encoded⟩, reached, body, sender, target, data, gas, gasPrice, read, means,
    (posted _ []).1 reached⟩

end Courier
