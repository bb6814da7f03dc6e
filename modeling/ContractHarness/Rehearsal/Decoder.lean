import ContractHarness.Event.Decoding

/-!
# A decoder for rehearsals

A decoder with some room and with words of its own. Nothing depends on how much room it has or on
what it says.
-/

set_option autoImplicit false

namespace ContractHarness.Rehearsal

/-- The room for templates in rehearsals. -/
def memory : Memory where
  tokens := 1073741824
  tokens_pos := by decide
  tokens_lt := by decide

/-- What is told in rehearsals about data that cannot be decoded. -/
def dataFault : DecodeError → String
  | .overrun => "buffer overrun while deserializing"
  | .tooDeep => s!"recursion limit of {maximalDepth} exceeded during decoding"
  | .outOfMemory => "no room for the template"

/-- What is told in rehearsals about a log that does not fit. -/
def logFault : LogFault → String
  | .topicCount expected given =>
    s!"invalid log topic list length: expected {expected} topics, got {given}"
  | .tooManyTopics => "too many indexed parameters"
  | .unresolved => "unknown parameter type"
  | .data reason => dataFault reason

/-- The decoder of rehearsals. -/
def decoder : Decoder where
  memory := memory
  words fault := [logFault fault]

end ContractHarness.Rehearsal
