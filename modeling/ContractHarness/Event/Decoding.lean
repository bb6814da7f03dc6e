import ContractHarness.Abi.Decoding
import ContractHarness.Abi.Interface
import ContractHarness.Event.Entry
import ContractHarness.Failure

/-!
# Decoding logs

A log starts with the topic of its event, followed by one topic for each indexed parameter; its data
holds the other parameters. The first event of the interface with that topic decides how the log is
read. A log of no event becomes a placeholder, but a log that does not fit its event is an error. How
much room there is for decoding, and in which words a fault is told, is a parameter, the `Decoder`.
-/

set_option autoImplicit false

namespace ContractHarness

/-- A log as it is stored on the chain. -/
structure RawLog where
  address : Address
  topics : List Word
  data : Bytes
deriving DecidableEq, Repr

/-- What keeps a log from fitting its event. -/
inductive LogFault where
  /-- There are more or fewer topics than the event has. -/
  | topicCount (expected given : Nat)
  /-- The event declares more indexed parameters than a log has room for. -/
  | tooManyTopics
  /-- The type of a parameter is unknown. -/
  | unresolved
  /-- The data cannot be decoded. -/
  | data (reason : DecodeError)
deriving DecidableEq, Repr

/-- A decoder of what is encoded on the chain. -/
structure Decoder where
  /-- The room that it has. -/
  memory : Memory
  /-- The words in which it tells what is wrong, as texts from the outermost layer on. -/
  words : LogFault → List String

/-- A log that is of an event and does not fit it. -/
structure LogError where
  event : String
  fault : LogFault
deriving DecidableEq, Repr

/-- A log error as a chain of texts. The cause is in the words of the decoder. -/
def LogError.chain (decoder : Decoder) (e : LogError) : ErrorChain :=
  ⟨s!"Failed to decode the {e.event} event", decoder.words e.fault⟩

namespace Event

/-- The most topics that a log has. -/
def maximalTopics : Nat := 4

/-- The parameters that are in the topics, or those that are not. -/
def inputsWhere (e : Event) (indexed : Bool) : List Param :=
  e.inputs.filter (·.indexed = indexed)

/-- Decodes the topics behind the first one and the data of a log: the values of the indexed
parameters and those of the others. -/
def decodeParts (memory : Memory) (e : Event) (topics : List Word) (data : Bytes) :
    Except LogFault (List AbiValue × List AbiValue) := do
  let some indexed := Param.resolveAll? (e.inputsWhere true) | throw .unresolved
  let some body := Param.resolveAll? (e.inputsWhere false) | throw .unresolved
  if maximalTopics < indexed.length + 1 then throw .tooManyTopics
  if topics.length ≠ indexed.length then
    throw (.topicCount (indexed.length + 1) (topics.length + 1))
  let values ← (AbiType.decodeSequence memory body data).mapError .data
  return (List.zipWith AbiType.ofWord indexed topics, values)

/-- The key of a parameter at a position. -/
def argumentKey (position : Nat) (param : Param) : String :=
  if param.name.isEmpty then position.repr else param.name

/-- Puts the values of the indexed parameters and those of the others back into the order of the
declaration, from a position on. A parameter for which no value is left is passed over. -/
def interleave (position : Nat) :
    List Param → List AbiValue → List AbiValue → List (String × EventValue)
  | [], _, _ => []
  | param :: params, indexed, body =>
    match param.indexed, indexed, body with
    | true, value :: indexed, body =>
      (argumentKey position param, .ofAbi value) :: interleave (position + 1) params indexed body
    | false, indexed, value :: body =>
      (argumentKey position param, .ofAbi value) :: interleave (position + 1) params indexed body
    | _, indexed, body => interleave (position + 1) params indexed body

end Event

namespace Interface

/-- The event that logs with a topic are of. -/
def eventOf? (abi : Interface) (topic : Word) : Option Event :=
  abi.events.find? fun e => !e.anonymous && e.topic = topic

/-- Decodes a log. -/
def decodeLog (memory : Memory) (abi : Interface) (log : RawLog) : Except LogError LogEntry :=
  match log.topics with
  | [] => .ok (.placeholder log.address)
  | topic :: topics =>
    match abi.eventOf? topic with
    | none => .ok (.placeholder log.address)
    | some event =>
      match event.decodeParts memory topics log.data with
      | .error fault => .error ⟨event.name, fault⟩
      | .ok (indexed, body) => .ok {
          address := log.address
          event := some event.name
          args := .ofList (Event.interleave 0 event.inputs indexed body) }

/-- Decodes logs up to the first that does not fit its event. -/
def decodeLogs (memory : Memory) (abi : Interface) (logs : List RawLog) :
    Except LogError (List LogEntry) :=
  logs.mapM (abi.decodeLog memory)

end Interface

end ContractHarness
