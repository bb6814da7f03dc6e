import ContractHarness.BigNumber.Reader
import ContractHarness.Json.Reader
import ContractHarness.Json.Writer

/-!
# Big numbers in documents

In a JSON document a number is the string of its hexadecimal form. A string in any form that can be
read is taken for a number.
-/

set_option autoImplicit false

namespace ContractHarness.BigNumber

/-- A number as a JSON value. -/
def toJson (n : BigNumber) : Json :=
  .string n.hex

/-- The number that a JSON value stands for. -/
def ofJson? (value : Json) : Option BigNumber :=
  value.string?.bind fun text => (read text).toOption

/-- The document that holds a number. -/
def document (n : BigNumber) : String :=
  n.toJson.compact

/-- The number that a document holds. -/
def ofDocument? (document : String) : Option BigNumber :=
  (Json.read? document).bind ofJson?

end ContractHarness.BigNumber
