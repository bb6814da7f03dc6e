import ContractHarness.Event.Value

/-!
# Numbers in every representation

Whatever a test compares numerically: machine integers of all widths, words, addresses, texts,
event arguments and decoded values. All of them convert to big numbers, a few can fail to.
-/

set_option autoImplicit false

namespace ContractHarness

/-- A value that may denote a number. -/
inductive Numeric where
  | text (value : String)
  | int32 (value : Int32)
  | int64 (value : Int64)
  | uint32 (value : UInt32)
  | uint64 (value : UInt64)
  | uint128 (value : BitVec 128)
  | uint256 (value : Word)
  /-- A word in two's complement. -/
  | int256 (value : Word)
  | big (value : BigNumber)
  | address (value : Address)
  | event (value : EventValue)
  | abi (value : AbiValue)
deriving Repr

/-- Why a value denotes no number. -/
abbrev NumberError := EventValue.NumberError

/-- The number that a value denotes. -/
def Numeric.toNumber : Numeric → Except NumberError BigNumber
  | .text value => (BigNumber.read value).mapError .text
  | .int32 value => .ok (.ofInt64 value.toInt64)
  | .int64 value => .ok (.ofInt64 value)
  | .uint32 value => .ok (.ofNat value.toNat)
  | .uint64 value => .ok (.ofNat value.toNat)
  | .uint128 value => .ok (.ofNat value.toNat)
  | .uint256 value => .ok (.ofWord value)
  | .int256 value => .ok (.ofSignedWord value)
  | .big value => .ok value
  | .address value => .ok (.ofAddress value)
  | .event value => value.toNumber
  | .abi value => value.toNumber

end ContractHarness
