import ContractHarness.Address
import ContractHarness.CommandLine.Grammar
import ContractHarness.Text.Decimal

/-!
# Values of a command line

How the texts that fill the places of a command line are read.
-/

set_option autoImplicit false

namespace ContractHarness.CommandLine

/-- A text as it is. -/
def readText (text : String) : Except UsageError String :=
  .ok text

/-- A text that must not be empty. -/
def readPath (text : String) : Except UsageError String :=
  if text.isEmpty then .error .lacksValue else .ok text

/-- A value of a kind that not every text denotes. -/
def readValid {α : Type} (value : Option α) : Except UsageError α :=
  match value with
  | some a => .ok a
  | none => .error .unreadableValue

/-- A number of 64 bits in decimal digits, perhaps with a plus sign. -/
def readNumber (text : String) : Except UsageError UInt64 :=
  let digits := match text.toList with
    | '+' :: rest => rest
    | digits => digits
  readValid <| (Decimal.toNat? digits).bind fun n =>
    if n < UInt64.size then some (UInt64.ofNat n) else none

/-- An address with or without the prefix `0x`. -/
def readAddress (text : String) : Except UsageError Address :=
  readValid (Address.ofDigits? (Hex.dropAnyMark text.toList))

/-- The hash of a transaction with or without the prefix `0x`. -/
def readHash (text : String) : Except UsageError Hash :=
  readValid (Hash.ofDigits? (Hex.dropAnyMark text.toList))

/-- A place for a value that is given at most once. -/
def single {α β : Type} (name : String) (read : String → Except UsageError α) (wrap : α → β) :
    Slot β :=
  ⟨name, true, fun text => (read text).map wrap⟩

/-- A place for any number of values. -/
def repeated {α β : Type} (name : String) (read : String → Except UsageError α) (wrap : α → β) :
    Slot β :=
  ⟨name, false, fun text => (read text).map wrap⟩

end ContractHarness.CommandLine
