import ContractHarness.CommandLine.Value
import ContractHarness.Contract

/-!
# Commands

`deploy` gets the instance of an artifact, and deploys one when there is none. `events` decodes the
logs of a transaction, and may expect an event among them.
-/

set_option autoImplicit false

namespace ContractHarness.CommandLine

/-! ## Getting an instance -/

/-- Gets an instance of an artifact. -/
structure DeployCommand where
  name : ArtifactName
  /-- Where the instance is, if it is not the canonical one. -/
  address : Option Address
  /-- A new instance is demanded. -/
  redeploy : Bool
  /-- The texts of the constructor's arguments. -/
  args : List String
deriving DecidableEq, Repr

/-- A part of a `deploy` command. -/
inductive DeployPart where
  | name (text : ArtifactName)
  | address (a : Address)
  | redeploy
  | arg (text : String)
deriving DecidableEq, Repr

namespace DeployPart

/-- What stands behind `deploy`. -/
def grammar : Grammar DeployPart where
  flags := [("redeploy", .redeploy)]
  options := [single "address" readAddress .address]
  positionals := [single "NAME" readText .name, repeated "ARGS" readText .arg]
  commands := []

/-- The artifact that a part names. -/
def name? : DeployPart → Option ArtifactName
  | .name text => some text
  | _ => none

/-- The address that a part gives. -/
def address? : DeployPart → Option Address
  | .address a => some a
  | _ => none

/-- The argument that a part gives. -/
def arg? : DeployPart → Option String
  | .arg text => some text
  | _ => none

end DeployPart

/-- The command of parts, which have to name an artifact. -/
def DeployCommand.ofParts (parts : List DeployPart) : Except UsageError DeployCommand :=
  match parts.findSome? DeployPart.name? with
  | none => .error .missingArgument
  | some name =>
    .ok {
      name
      address := parts.findSome? DeployPart.address?
      redeploy := decide (DeployPart.redeploy ∈ parts)
      args := parts.filterMap DeployPart.arg? }

/-! ## Decoding the logs of a transaction -/

/-- Decodes the logs of a transaction. -/
structure EventsCommand where
  name : ArtifactName
  transaction : Hash
  /-- The event that is expected. -/
  event : Option String
  /-- The arguments that the event is expected to have. -/
  args : List String
deriving DecidableEq, Repr

/-- A part of an `events` command. -/
inductive EventsPart where
  | name (text : ArtifactName)
  | transaction (h : Hash)
  | event (text : String)
  | arg (text : String)
deriving DecidableEq, Repr

namespace EventsPart

/-- What stands behind `events`. -/
def grammar : Grammar EventsPart where
  flags := []
  options := [single "event" readText .event, repeated "arg" readText .arg]
  positionals := [single "NAME" readText .name, single "TRANSACTION_HASH" readHash .transaction]
  commands := []

/-- The artifact that a part names. -/
def name? : EventsPart → Option ArtifactName
  | .name text => some text
  | _ => none

/-- The transaction that a part names. -/
def transaction? : EventsPart → Option Hash
  | .transaction h => some h
  | _ => none

/-- The event that a part names. -/
def event? : EventsPart → Option String
  | .event text => some text
  | _ => none

/-- The argument that a part gives. -/
def arg? : EventsPart → Option String
  | .arg text => some text
  | _ => none

end EventsPart

/-- The command of parts, which have to name an artifact and a transaction, and an event if they
say what its arguments are. -/
def EventsCommand.ofParts (parts : List EventsPart) : Except UsageError EventsCommand :=
  let event := parts.findSome? EventsPart.event?
  let args := parts.filterMap EventsPart.arg?
  match parts.findSome? EventsPart.name?, parts.findSome? EventsPart.transaction? with
  | some name, some transaction =>
    if event.isNone ∧ args ≠ [] then .error .missingArgument
    else .ok { name, transaction, event, args }
  | _, _ => .error .missingArgument

/-! ## Either command -/

/-- What the harness is to do. -/
inductive Command where
  | deploy (command : DeployCommand)
  | events (command : EventsCommand)
deriving DecidableEq, Repr

namespace Command

/-- The words that are understood as commands. -/
def names : List String :=
  ["deploy", "events", "help"]

/-- Reads the words behind a command by its grammar. -/
def readParts {α : Type} (g : Grammar α) (words : List String) : Except UsageError (List α) := do
  (← g.read words).1.finish

/-- What is told when help on commands is asked for: the words have to name a command, and no
command has commands below it. -/
def helpOn : List String → UsageError
  | [] => .helpRequested
  | [name] => if name ∈ names then .helpRequested else .unknownCommand
  | _ => .unknownCommand

/-- Reads the command with a name. -/
def read (name : String) (words : List String) : Except UsageError Command :=
  match name with
  | "deploy" => do return .deploy (← DeployCommand.ofParts (← readParts DeployPart.grammar words))
  | "events" => do return .events (← EventsCommand.ofParts (← readParts EventsPart.grammar words))
  | _ => .error (helpOn words)

end Command

end ContractHarness.CommandLine
