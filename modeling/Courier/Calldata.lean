import Courier.Selector

/-!
# Calldata

What a call hands to a contract: the selector of a function, then the parameters, which the
caller has encoded already. Parameters are checked to be whole bytes in hexadecimal and keep
the case they came in.
-/
namespace Courier

namespace Params

/-- The digits of parameters: the text without one leading `0x`. -/
def digits (params : String) : List Char :=
  match params.toList with
  | '0' :: 'x' :: rest => rest
  | all => all

/-- The parameters without their prefix, if they are whole bytes in hexadecimal. The length in
bytes is looked at before the characters. -/
def normalize (params : String) : Except EncodingError String :=
  let digits := digits params
  let text := String.ofList digits
  if text.utf8ByteSize % 2 ≠ 0 then .error (.oddLength text.utf8ByteSize)
  else
    match digits.find? fun c => !Hex.isDigit c with
    | some c => .error (.notADigit c)
    | none => .ok text

end Params

namespace Calldata

/-- The selector digits that a signature puts first: none for the empty signature. -/
def selectorDigits (signature : String) : String :=
  if signature.isEmpty then "" else (Selector.ofSignature signature).hex

/-- The calldata of a call: `0x`, the selector of the signature unless that is empty, and the
parameters. -/
def encode (signature params : String) : Except EncodingError String :=
  (Params.normalize params).map fun digits => "0x" ++ selectorDigits signature ++ digits

end Calldata

end Courier
