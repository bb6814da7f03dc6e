import ContractHarness.CommandLine.Command
import ContractHarness.CommandLine.Setting

/-!
# Invocations

What a command line of the harness says: a configuration and a command.
-/

set_option autoImplicit false

namespace ContractHarness.CommandLine

/-- A configuration and a command. -/
structure Invocation where
  configuration : Configuration
  command : Command
deriving DecidableEq, Repr

/-- The invocation that a command line stands for. What is wrong behind the command is told before
what is wrong with the last option in front of it. -/
def Invocation.read (words : List String) : Except UsageError Invocation := do
  let (settings, stop) ← (Setting.grammar Command.names).read words
  match stop with
  | some (name, rest) =>
    let command ← Command.read name rest
    return { configuration := Setting.configuration (← settings.finish), command }
  | none =>
    if (← settings.finish).isEmpty then .error .nothingGiven
    else .error .missingCommand

end ContractHarness.CommandLine
