import ContractHarness.Failure
import ContractHarness.Secp256k1

/-!
# The wallet

The accounts that the harness signs with, found from their private keys. A key is a number of 64
hexadecimal digits that lies between one and the order of the curve; the first account is the one
that sends what is sent in nobody's name.
-/

set_option autoImplicit false

namespace ContractHarness

/-- A factor of the base point of the signature curve. -/
structure PrivateKey where
  value : Nat
  value_pos : 0 < value
  value_lt : value < Secp256k1.order

namespace PrivateKey

/-- The key with a number, which has to be in range. -/
def ofNat? (value : Nat) : Option PrivateKey :=
  if h : 0 < value ∧ value < Secp256k1.order then some ⟨value, h.1, h.2⟩ else none

/-- Reads a key with or without the prefix `0x`. -/
def read? (text : String) : Option PrivateKey :=
  (Hash.ofDigits? (Hex.dropAnyMark text.toList)).bind fun word => ofNat? word.toNat

/-- The account that the key controls. -/
def account (key : PrivateKey) : Address :=
  Secp256k1.accountOf key.value

end PrivateKey

/-- Accounts with their keys, of which there is at least one. -/
structure Wallet where
  main : PrivateKey
  others : List PrivateKey

namespace Wallet

/-- Reads the keys from a position on. -/
def readKeys (position : Nat) : List String → Except ErrorChain (List PrivateKey)
  | [] => .ok []
  | text :: rest =>
    match PrivateKey.read? text with
    | none => .error (.ofText s!"Failed to parse the private key of account #{position}")
    | some key => (readKeys (position + 1) rest).map (key :: ·)

/-- The wallet of the keys that are written down. -/
def ofKeys (texts : List String) : Except ErrorChain Wallet :=
  match readKeys 0 texts with
  | .error e => .error e
  | .ok [] => .error (.ofText "At least one account private key must be configured")
  | .ok (main :: others) => .ok ⟨main, others⟩

/-- The account that sends what is sent in nobody's name. -/
def defaultAccount (wallet : Wallet) : Address :=
  wallet.main.account

/-- All accounts in the order of their keys. -/
def accounts (wallet : Wallet) : List Address :=
  wallet.defaultAccount :: wallet.others.map PrivateKey.account

end Wallet

end ContractHarness
