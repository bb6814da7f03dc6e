import ContractHarness.BigNumber.Basic
import ContractHarness.Text.Lowercase

/-!
# Anything that stands for an address

Addresses reach a test in several guises: as such, as numbers, and as texts with or without the
mark `0x` and in any letter case. Each is brought to one normal form, lowercase behind `0x`, before
it is compared.
-/

set_option autoImplicit false

namespace ContractHarness

/-- A value that stands for an address. -/
inductive AddressLike where
  | address (value : Address)
  | number (value : BigNumber)
  | text (value : String)
deriving DecidableEq, Repr

namespace AddressLike

/-- The text that a value is written as before it is normalised. -/
def digits : AddressLike → List Char
  | .address a => a.checksummed.toList
  | .number n =>
    if n.negative then n.hex.toList else Nat.toDigits 16 n.magnitude.toNat
  | .text s => s.toList

/-- The text starts with the mark `0x`. -/
def isMarked : List Char → Bool
  | '0' :: 'x' :: _ => true
  | _ => false

/-- Puts the mark in front of a text that lacks it, which is filled up to forty characters. -/
def mark (text : List Char) : List Char :=
  if isMarked text then text
  else '0' :: 'x' :: (List.replicate (40 - text.length) '0' ++ text)

/-- The characters of the normal form. -/
def normalChars (x : AddressLike) : List Char :=
  Text.lowercase (mark x.digits)

/-- The normal form. -/
def normalize (x : AddressLike) : String :=
  String.ofList x.normalChars

end AddressLike

end ContractHarness
