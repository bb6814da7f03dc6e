import ContractHarness.Abi.Literal
import ContractHarness.Abi.Selection
import ContractHarness.Artifact.Store
import ContractHarness.Assertion
import ContractHarness.BigNumber.Document
import ContractHarness.CommandLine.Expectation
import ContractHarness.CommandLine.Invocation
import ContractHarness.CommandLine.Run
import ContractHarness.Deployment.Lookup
import ContractHarness.Event.Decoding
import ContractHarness.Event.Matching
import ContractHarness.Event.Transaction
import ContractHarness.Json.Magnitude
import ContractHarness.Json.Reader
import ContractHarness.Main
import ContractHarness.Metatoken
import ContractHarness.Node.Remote
import ContractHarness.Proofs.BigNumber.Checksum
import ContractHarness.Proofs.BigNumber.Forms
import ContractHarness.Proofs.BigNumber.Reading
import ContractHarness.Proofs.Deployment.Errands
import ContractHarness.Proofs.Deployment.Isolation
import ContractHarness.Proofs.Deployment.Rehearsed
import ContractHarness.Proofs.Event.Emission
import ContractHarness.Proofs.Event.Incomparable
import ContractHarness.Proofs.Event.Selection
import ContractHarness.Proofs.Event.Stored
import ContractHarness.Proofs.Metatoken.Proxied
import ContractHarness.Proofs.Reversion.Mined
import ContractHarness.Rehearsal.Contract
import ContractHarness.Rehearsal.Endpoint
import ContractHarness.Rehearsal.Node
import ContractHarness.Rehearsal.Schedule
import ContractHarness.Report.Cost
import ContractHarness.Report.Speed
import ContractHarness.Reversion
import ContractHarness.Secp256k1
import ContractHarness.Text.CombiningClass
import ContractHarness.Text.Composition
import ContractHarness.Text.CompositionTable
import ContractHarness.Text.Direction
import ContractHarness.Text.Entries
import ContractHarness.Text.Joining
import ContractHarness.Text.Listed
import ContractHarness.Text.Mark
import ContractHarness.Text.Punycode
import ContractHarness.Text.Runs
import ContractHarness.Url.Name
import ContractHarness.Url.NameTable
import ContractHarness.Wallet
import ContractHarness.Proofs.Event.Opposition
import ContractHarness.Proofs.Event.Receipts
import ContractHarness.Proofs.AddressLike
import ContractHarness.Proofs.Abi.Typed
import ContractHarness.Proofs.Metatoken.Typed
import ContractHarness.Proofs.Deployment.Verdict
import ContractHarness.Proofs.Artifact.Search
import ContractHarness.Proofs.Artifact.Names
import ContractHarness.Proofs.Artifact.Index
import ContractHarness.Proofs.Artifact.History
import ContractHarness.Proofs.Abi.Arguments
import ContractHarness.Proofs.Abi.Selection
import ContractHarness.Proofs.Node.Requests
import ContractHarness.Proofs.Artifact.Creation
import ContractHarness.Proofs.Callable.Invocation
import ContractHarness.Proofs.Artifact.Coercion
import ContractHarness.Proofs.AddressLike.Normal
import ContractHarness.Proofs.BigNumber.Comparison
import ContractHarness.Proofs.CommandLine.Expectation
import ContractHarness.Proofs.Reversion.Judgement
import ContractHarness.Proofs.Report.Cost
import ContractHarness.Proofs.Metatoken.Packing
import ContractHarness.Proofs.Abi.Identifier
import ContractHarness.Proofs.Artifact.Exploration
