import ContractHarness.Json.Reader
import ContractHarness.Report.Cost
import ContractHarness.Report.Speed

/-!
# The configuration

Everything that the harness has to be told: which node to talk to, which accounts to sign with,
where the artifacts are, and how to report times and costs. The configuration has a JSON form in
which every group is an object; a group may also be given as the list of its members.
-/

set_option autoImplicit false

namespace ContractHarness

/-- How times and costs are reported. -/
structure Reporting where
  /-- Deployments that take fewer milliseconds are fast. -/
  fastMillis : UInt64 := 2000
  /-- Deployments that take fewer milliseconds, but are not fast, are medium. -/
  mediumMillis : UInt64 := 5000
  /-- The price of a unit of gas in billionths of an ether. -/
  gasPriceGwei : UInt64 := 90
  /-- The price of an ether in dollars. -/
  etherPrice : UInt64 := 5000
deriving DecidableEq, Repr

/-- The thresholds that the speed of a deployment is told by. -/
def Reporting.thresholds (reporting : Reporting) : Report.Thresholds :=
  ⟨reporting.fastMillis.toNat, reporting.mediumMillis.toNat⟩

/-- The prices that the cost of gas is told with. -/
def Reporting.pricing (reporting : Reporting) : Report.Pricing :=
  ⟨reporting.gasPriceGwei, reporting.etherPrice⟩

/-- The private keys that every development node knows. -/
def developmentKeys : List String :=
  ["0xac0974bec39a17e36ba4a6b4d238ff944bacb478cbed5efcae784d7bf4f2ff80",
    "0x59c6995e998f97a5a0044966f0945389dc9e86dae88c7a8412f4603b6b78690d"]

/-- What the harness is told before it starts. -/
structure Configuration where
  /-- Where the node listens. -/
  nodeUrl : String := "http://127.0.0.1:8545"
  /-- The private keys to sign with as they are written, the one of the deployer first. -/
  keys : List String := developmentKeys
  /-- The folder of the artifacts. -/
  artifacts : String := "artifacts"
  reporting : Reporting := {}
deriving DecidableEq, Repr

namespace Configuration

/-! ## The JSON form -/

/-- The members of a group in the order of their names, each of them given once; members with other
names do not count. A list has to hold exactly the members. -/
def readGroup? (names : List String) : Json → Option (List Json)
  | .object members => names.mapM fun name => (Json.object members).uniqueMember? name
  | .array items => if items.length = names.length then some items else none
  | _ => none

/-- A number of 64 bits. -/
def readNumber? (json : Json) : Option UInt64 :=
  json.nat?.bind fun n => if n < UInt64.size then some (UInt64.ofNat n) else none

/-- The only member of a group. -/
def readSingle? (name : String) (json : Json) : Option Json :=
  match readGroup? [name] json with
  | some [value] => some value
  | _ => none

/-- A list of texts. -/
def readTexts? (json : Json) : Option (List String) := do
  (← json.items?).mapM Json.string?

/-- The group that says how to report. -/
def readReporting? (json : Json) : Option Reporting :=
  match readGroup? ["deploy_fast_ms", "deploy_medium_ms", "gas_price_gwei", "eth_price"] json with
  | some [fast, medium, gas, ether] => do
    return ⟨← readNumber? fast, ← readNumber? medium, ← readNumber? gas, ← readNumber? ether⟩
  | _ => none

/-- The configuration that a JSON value describes. -/
def ofJson? (json : Json) : Option Configuration :=
  match readGroup? ["rpc", "wallet", "artifacts", "reporting"] json with
  | some [rpc, wallet, artifacts, reporting] => do
    return {
      nodeUrl := ← (← readSingle? "rpc_url" rpc).string?
      keys := ← readTexts? (← readSingle? "accounts" wallet)
      artifacts := ← (← readSingle? "artifacts_directory" artifacts).string?
      reporting := ← readReporting? reporting }
  | _ => none

/-- The parts of a document that are wanted. -/
def outline : Json.Outline :=
  .record [
    ("rpc", .record [("rpc_url", .whole)]),
    ("wallet", .record [("accounts", .whole)]),
    ("artifacts", .record [("artifacts_directory", .whole)]),
    ("reporting", .record [("deploy_fast_ms", .whole), ("deploy_medium_ms", .whole),
      ("gas_price_gwei", .whole), ("eth_price", .whole)])]

/-- The configuration that a document describes. -/
def read? (document : String) : Option Configuration :=
  (Json.readOutlined? outline document).bind ofJson?

/-- A number as JSON. -/
def writeNumber (n : UInt64) : Json :=
  .number n.toNat.repr

/-- The JSON form of a configuration. -/
def toJson (c : Configuration) : Json :=
  .object [
    ("rpc", .object [("rpc_url", .string c.nodeUrl)]),
    ("wallet", .object [("accounts", .array (c.keys.map .string))]),
    ("artifacts", .object [("artifacts_directory", .string c.artifacts)]),
    ("reporting", .object [
      ("deploy_fast_ms", writeNumber c.reporting.fastMillis),
      ("deploy_medium_ms", writeNumber c.reporting.mediumMillis),
      ("gas_price_gwei", writeNumber c.reporting.gasPriceGwei),
      ("eth_price", writeNumber c.reporting.etherPrice)])]

end Configuration

end ContractHarness
