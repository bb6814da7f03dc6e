import ContractHarness.Abi.Decoding
import ContractHarness.Abi.Encoding
import ContractHarness.BigNumber.Basic

/-!
# Metatokens

A metatoken is attached to a token of another contract. Its number packs the address of the
metatoken contract into the upper 160 bits and the number of the token into the lower 96. Calls to
a metatoken go through a proxy, which wraps their results in bytes.
-/

set_option autoImplicit false

namespace ContractHarness.Metatoken

/-- How far the address is shifted to make room for the number of the token. -/
def addressShift : Nat := 96

/-- The bits of the number of the token in that of the metatoken. -/
def tokenMask : Word := BitVec.allOnes 256 >>> (256 - addressShift)

/-- The largest number of a token that fits beside the address. -/
def maximalToken : Nat := tokenMask.toNat

/-- Why there is no metatoken number. -/
inductive IdError where
  | negative (token : BigNumber)
  | tooLarge (token : BigNumber)
  /-- The address and the number of the token do not fit a word together. -/
  | overflow
deriving DecidableEq, Repr

/-- The message of an error in a metatoken number. -/
def IdError.message : IdError → String
  | .negative token => s!"NFT ID must not be negative: {token.decimal}"
  | .tooLarge token => s!"NFT ID too large: {token.decimal}"
  | .overflow => "Metatoken ID overflow"

/-- The sum of two words, if it is a word. -/
def addWords? (a b : Word) : Option Word :=
  if a.toNat + b.toNat < Word.size then some (a + b) else none

/-- The address in the upper bits of a word. -/
def category (contract : Address) : Word :=
  BitVec.ofNat 256 contract.toNat <<< addressShift

/-- The number of a metatoken. -/
def id (contract : Address) (token : BigNumber) : Except IdError Word :=
  match token.toWord? with
  | none => .error (.negative token)
  | some w =>
    if tokenMask < w then .error (.tooLarge token)
    else match addWords? (category contract) w with
      | none => .error .overflow
      | some id => .ok id

/-- A flag in the status of a registered metatoken. -/
inductive Flag where
  | registered
  | isImplementation
  | enabled
deriving DecidableEq, Repr

/-- The bit of a flag. -/
def Flag.bits : Flag → Nat
  | .registered => 1
  | .isImplementation => 2
  | .enabled => 4

/-- The status does not fit sixteen bits. -/
structure StatusError where
  status : BigNumber
deriving DecidableEq, Repr

/-- The message of an error in a status. -/
def StatusError.message (e : StatusError) : String :=
  s!"Metatoken status not uint16: {e.status.hex}"

/-- The flag is set in a status. -/
def hasFlag (status : BigNumber) (flag : Flag) : Except StatusError Bool :=
  match status.toWord? with
  | none => .error ⟨status⟩
  | some w =>
    if w.toNat < UInt16.size then .ok (w.toNat &&& flag.bits = flag.bits) else .error ⟨status⟩

/-- What a category of metatokens is told of. -/
inductive Hook where
  | tokenBurn
  | tokenMint
  | tokenTransfer
  | metaBurn
  | metaMint
  | metaTransfer
deriving DecidableEq, Repr

/-- The bit of a hook. -/
def Hook.bits : Hook → Nat
  | .tokenBurn => 0x01
  | .tokenMint => 0x04
  | .tokenTransfer => 0x08
  | .metaBurn => 0x10
  | .metaMint => 0x40
  | .metaTransfer => 0x80

/-- All hooks, in the order of their bits. -/
def Hook.all : List Hook :=
  [.tokenBurn, .tokenMint, .tokenTransfer, .metaBurn, .metaMint, .metaTransfer]

/-- How a call goes through the proxy. -/
structure CallOptions where
  /-- The address of the metatoken and the sender go along with the data. -/
  includeSender : Bool
  /-- The data is not wrapped in bytes. -/
  sendRaw : Bool
deriving DecidableEq, Repr

/-- The bits of the options. -/
def CallOptions.bits (options : CallOptions) : Nat :=
  (if options.includeSender then 1 else 0) + (if options.sendRaw then 2 else 0)

/-- Why values are no calldata for types. -/
inductive CalldataError where
  /-- There are more or fewer values than types. -/
  | count
  /-- A value is not of its type. -/
  | type (value : AbiValue) (expected : AbiType)
deriving Repr

/-- The message of a calldata error. -/
def CalldataError.message : CalldataError → String
  | .count => "Arrays must have same length."
  | .type value expected => s!"The value {value.shown} is not of type {expected.name}"

/-- The values are of the types, as far as there are both. -/
def checkTypes : List AbiType → List AbiValue → Except CalldataError Unit
  | type :: types, value :: values =>
    if type.accepts value then checkTypes types values else .error (.type value type)
  | _, _ => .ok ()

/-- Encodes values as the parameters of a call through the proxy. -/
def encodeCalldata (types : List AbiType) (values : List AbiValue) :
    Except CalldataError Bytes :=
  if types.length ≠ values.length then .error .count
  else (checkTypes types values).map fun () => AbiValue.encodeSequence values

/-- Why the result of a call through the proxy cannot be decoded. -/
inductive ResultError where
  /-- The bytes around the result cannot be decoded. -/
  | wrapping (reason : DecodeError)
  /-- What was decoded are not bytes. -/
  | notBytes
  /-- The values in the bytes cannot be decoded. -/
  | values (reason : DecodeError)
deriving DecidableEq, Repr

/-- The message of an error in a result. -/
def ResultError.message : ResultError → String
  | .wrapping _ => "Failed to decode the bytes returned by the proxied call"
  | .notBytes => "The proxied call did not return bytes"
  | .values _ => "Failed to decode the values of the proxied call"

/-- Decodes the result of a call through the proxy: values in bytes. -/
def decodeResult (memory : Memory) (types : List AbiType) (data : Bytes) :
    Except ResultError (List AbiValue) :=
  match AbiType.decodeSequence memory [.bytes] data with
  | .error reason => .error (.wrapping reason)
  | .ok [.bytes inner] => (AbiType.decodeSequence memory types inner).mapError .values
  | .ok _ => .error .notBytes

end ContractHarness.Metatoken
