import ContractHarness.Abi.Basic
import ContractHarness.BigNumber.Reader
import ContractHarness.Json.Writer

/-!
# Values of event arguments

The arguments of a decoded event, and the values that they are expected to have. Small integers are
plain numbers and all others are big numbers; addresses and bytes are kept as their text. Arrays and
tuples have no comparison and are kept as a description.
-/

set_option autoImplicit false

namespace ContractHarness

/-- The value of an event argument, or one that is expected of it. -/
inductive EventValue where
  | number (value : Int64)
  | bool (value : Bool)
  | text (value : String)
  | big (value : BigNumber)
  /-- A value that nothing can be compared with. -/
  | unsupported (description : String)
  /-- No value at all. -/
  | undefined
deriving DecidableEq, Repr, Inhabited

namespace EventValue

/-- Integers declared with more bits than this are big numbers. -/
def maximalNumberBits : Nat := 48

/-- The integer is one of 64 bits. -/
def fitsNumber (value : Int) : Bool :=
  Int64.minValue.toInt ≤ value && value ≤ Int64.maxValue.toInt

/-- An integer as a plain number, if its declaration and its value allow that. -/
def ofInt (bits : Nat) (value : Int) (big : BigNumber) : EventValue :=
  if bits ≤ maximalNumberBits ∧ fitsNumber value then .number (Int64.ofInt value)
  else .big big

/-- Bytes as text. -/
def ofBytes (bytes : Bytes) : EventValue :=
  .text (Hex.prefixed (Hex.ofBytes bytes))

/-- An address as text. -/
def ofAddress (a : Address) : EventValue :=
  .text a.checksummed

/-- A decoded value as an event argument. -/
def ofAbi : AbiValue → EventValue
  | .bool value => .bool value
  | .int bits value => ofInt bits value.toInt (.ofSignedWord value)
  | .uint bits value => ofInt bits value.toNat (.ofWord value)
  | .address value => ofAddress value
  | .fixedBytes size word => ofBytes (word.toBytes.take size)
  | .bytes value => ofBytes value
  | .function value => ofBytes (Bytes.ofNat 24 value.toNat)
  | .string value => .text value
  | value => .unsupported value.shown

/-- A value as it is shown. -/
def shown : EventValue → String
  | .number value => toString value.toInt
  | .bool value => toString value
  | .text value => value
  | .big value => value.decimal
  | .unsupported description => description
  | .undefined => "undefined"

/-- A value in a JSON document; a big number is the text of its hexadecimal form. -/
def toJson : EventValue → Json
  | .number value => .number (toString value.toInt)
  | .bool value => .bool value
  | .text value => .string value
  | .big value => .string value.hex
  | .unsupported description => .string description
  | .undefined => .null

/-- The value that a JSON value stands for. A number has to be an integer of 64 bits, and a string
is always a text. -/
def ofJson? : Json → Option EventValue
  | .number digits =>
    match Json.numberInt? digits with
    | some n => if fitsNumber n then some (.number (Int64.ofInt n)) else none
    | none => none
  | .bool value => some (.bool value)
  | .string value => some (.text value)
  | .null => some .undefined
  | _ => none

/-- The number that a value can be compared as. -/
inductive NumberError where
  /-- The text is no number. -/
  | text (reason : BigNumber.ReadError)
  /-- The value is of another kind. -/
  | kind (description : String)
deriving DecidableEq, Repr

/-- The message of a failed conversion to a number. -/
def NumberError.message : NumberError → String
  | .text reason => reason.message
  | .kind description => s!"invalid BigNumber value: {description}"

/-- A value as a number. -/
def toNumber : EventValue → Except NumberError BigNumber
  | .number value => .ok (.ofInt64 value)
  | .big value => .ok value
  | .text value => (BigNumber.read value).mapError .text
  | value => .error (.kind value.shown)

end EventValue

/-- A decoded value as a number. -/
def AbiValue.toNumber : AbiValue → Except EventValue.NumberError BigNumber
  | .uint _ value => .ok (.ofWord value)
  | .int _ value => .ok (.ofSignedWord value)
  | .address value => .ok (.ofAddress value)
  | .string value => (BigNumber.read value).mapError .text
  | value => .error (.kind value.shown)

end ContractHarness
