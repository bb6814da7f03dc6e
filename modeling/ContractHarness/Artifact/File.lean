import ContractHarness.Abi.Interface
import ContractHarness.Json.Reader
import ContractHarness.Text.Hex

/-!
# Artifact files

The part of a compiler's output that the harness needs: the interface of a contract and the code
that creates it. A contract that cannot be created, such as an abstract one, has no code.
-/

set_option autoImplicit false

namespace ContractHarness

/-- A compiled contract. -/
structure Artifact where
  interface : Interface
  bytecode : Bytes
deriving Repr

namespace Artifact

/-- A byte as a number. -/
def readByte? (json : Json) : Option UInt8 :=
  json.nat?.bind fun n => if n < 256 then some (UInt8.ofNat n) else none

/-- Bytes as a text of digits or as a list of numbers. -/
def readBytes? : Json → Option Bytes
  | .string text => Hex.toBytes? (Hex.dropAnyMark text.toList)
  | .array items => items.mapM readByte?
  | _ => none

/-- Code, as it is or as the `object` of a description of the code. -/
def readBytecode? : Json → Option Bytes
  | .object members => ((Json.object members).uniqueMember? "object").bind readBytes?
  | json => readBytes? json

/-- The artifact of an interface and code. -/
def ofParts? (abi bytecode : Json) : Option Artifact := do
  return ⟨← Interface.read? abi, ← readBytecode? bytecode⟩

/-- The artifact that a document describes: an object with its parts, each given once, or the list
of the two. -/
def ofJson? : Json → Option Artifact
  | .array [abi, bytecode] => ofParts? abi bytecode
  | json => do
    ofParts? (← json.uniqueMember? "abi") (← json.uniqueMember? "bytecode")

/-- The parts of an artifact file that are wanted. -/
def outline : Json.Outline :=
  .record [("abi", .whole), ("bytecode", .whole)]

/-- The artifact that a file holds. -/
def read? (content : String) : Option Artifact :=
  (Json.readOutlined? outline content).bind ofJson?

end Artifact

end ContractHarness
