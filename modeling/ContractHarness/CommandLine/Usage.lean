/-!
# Usage errors

Why a command line is not carried out. To ask for help is one of the reasons.
-/

set_option autoImplicit false

namespace ContractHarness.CommandLine

/-- Why a command line is not carried out. -/
inductive UsageError where
  /-- A word is an option that does not exist, or a value too many. -/
  | unknownArgument
  /-- An option lacks its value, or the value is empty where it must not be. -/
  | lacksValue
  /-- A value is not of the kind that is asked for. -/
  | unreadableValue
  /-- What may be given once was given twice. -/
  | repeatedOption
  /-- A value is attached to an option that takes none. -/
  | uncalledForValue
  /-- Something that has to be given was not given. -/
  | missingArgument
  /-- A word stands where a command should, and is none. -/
  | unknownCommand
  /-- Options were given, but no command. -/
  | missingCommand
  /-- Help was asked for. -/
  | helpRequested
  /-- Nothing was given. -/
  | nothingGiven
deriving DecidableEq, Repr

/-- The name that a usage error is reported under. -/
def UsageError.name : UsageError → String
  | .unknownArgument => "UnknownArgument"
  | .lacksValue => "InvalidValue"
  | .unreadableValue => "ValueValidation"
  | .repeatedOption => "ArgumentConflict"
  | .uncalledForValue => "TooManyValues"
  | .missingArgument => "MissingRequiredArgument"
  | .unknownCommand => "InvalidSubcommand"
  | .missingCommand => "MissingSubcommand"
  | .helpRequested => "DisplayHelp"
  | .nothingGiven => "DisplayHelpOnMissingArgumentOrSubcommand"

end ContractHarness.CommandLine
