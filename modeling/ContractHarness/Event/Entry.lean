import ContractHarness.Event.Value
import ContractHarness.OrderedMap

/-!
# Log entries

A log of a transaction after decoding: who emitted it, which event it is, and its arguments in the
order of their declaration, each under its name or, without a name, under its position.
-/

set_option autoImplicit false

namespace ContractHarness

/-- Arguments of an event by name. -/
abbrev EventArgs := OrderedMap String EventValue

namespace EventArgs

/-- Arguments as a JSON object. -/
def toJson (args : EventArgs) : Json :=
  .object (args.entries.map fun entry => (entry.1, entry.2.toJson))

/-- Reads a JSON object as arguments. -/
def ofJson? : Json → Option EventArgs
  | .object members =>
    let entries := members.mapM fun member =>
      (EventValue.ofJson? member.2).map fun value => (member.1, value)
    entries.map OrderedMap.ofList
  | _ => none

end EventArgs

/-- A decoded log. -/
structure LogEntry where
  /-- The contract that emitted the log. -/
  address : Address
  /-- The name of the event; none when the log is of no event of the interface. -/
  event : Option String
  args : EventArgs
deriving DecidableEq, Repr

namespace LogEntry

/-- The entry of a log that is of no event of the interface. -/
def placeholder (address : Address) : LogEntry :=
  ⟨address, none, ∅⟩

/-- The key is a position and not a name. The empty key counts as one. -/
def isPosition (key : String) : Bool :=
  key.toList.all Char.isDigit

/-- The entry with the arguments that have a name. -/
def namedOnly (entry : LogEntry) : LogEntry :=
  { entry with args := entry.args.filterKeys fun key => !isPosition key }

/-- An entry as a JSON object. -/
def toJson (entry : LogEntry) : Json :=
  .object [
    ("address", .string entry.address.hex),
    ("event", match entry.event with | some name => .string name | none => .null),
    ("args", entry.args.toJson)]

end LogEntry

end ContractHarness
