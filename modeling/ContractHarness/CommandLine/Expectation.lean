import ContractHarness.BigNumber.Reader
import ContractHarness.Event.Value
import ContractHarness.Failure
import ContractHarness.Text.Split

/-!
# Expected arguments

On the command line an argument of an event is expected as `key=value`. The value is a truth value
or a number if it can be read as one, and a text otherwise.
-/

set_option autoImplicit false

namespace ContractHarness.CommandLine

/-- The value that a text stands for. -/
def expectedValue (text : String) : EventValue :=
  if text = "true" then .bool true
  else if text = "false" then .bool false
  else
    match BigNumber.read text with
    | .ok n => .big n
    | .error _ => .text text

/-- The key and the value that a text stands for. -/
def expectedArgument (text : String) : Except ErrorChain (String × EventValue) :=
  match splitAtMark '=' text.toList with
  | some (key, value) => .ok (String.ofList key, expectedValue (String.ofList value))
  | none =>
    .error (.ofText s!"Expected an event argument of the form key=value but got {text}")

end ContractHarness.CommandLine
