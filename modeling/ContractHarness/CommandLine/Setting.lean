import ContractHarness.CommandLine.Value
import ContractHarness.Configuration

/-!
# Settings

The options in front of the command say how the configuration deviates from the default one. Any
keys that are given take the place of both default keys.
-/

set_option autoImplicit false

namespace ContractHarness.CommandLine

/-- A deviation from the default configuration. -/
inductive Setting where
  | nodeUrl (text : String)
  | key (text : String)
  | artifacts (text : String)
  | fastMillis (n : UInt64)
  | mediumMillis (n : UInt64)
  | gasPriceGwei (n : UInt64)
  | etherPrice (n : UInt64)
deriving DecidableEq, Repr

namespace Setting

/-- The key that a setting adds. -/
def key? : Setting → Option String
  | .key text => some text
  | _ => none

/-- The configuration with a setting. Keys are not set one by one. -/
def apply (c : Configuration) : Setting → Configuration
  | .nodeUrl text => { c with nodeUrl := text }
  | .key _ => c
  | .artifacts text => { c with artifacts := text }
  | .fastMillis n => { c with reporting.fastMillis := n }
  | .mediumMillis n => { c with reporting.mediumMillis := n }
  | .gasPriceGwei n => { c with reporting.gasPriceGwei := n }
  | .etherPrice n => { c with reporting.etherPrice := n }

/-- The configuration of settings. -/
def configuration (settings : List Setting) : Configuration :=
  let keys := settings.filterMap key?
  let start : Configuration := if keys.isEmpty then {} else { keys }
  settings.foldl apply start

/-- What stands in front of the command. -/
def grammar (commands : List String) : Grammar Setting where
  flags := []
  options := [
    single "rpc-url" readText .nodeUrl,
    repeated "account" readText .key,
    single "artifacts" readPath .artifacts,
    single "deploy-fast-ms" readNumber .fastMillis,
    single "deploy-medium-ms" readNumber .mediumMillis,
    single "gas-price-gwei" readNumber .gasPriceGwei,
    single "eth-price" readNumber .etherPrice]
  positionals := []
  commands

end Setting

end ContractHarness.CommandLine
