import ContractHarness.Assertion
import ContractHarness.Callable
import ContractHarness.Text.Occurrence

/-!
# Expecting a call to revert

A node does not always tell why a transaction reverted: custom errors that it cannot decode and
reversions without a reason are told in words of its own. Such a reversion counts as the expected
one, with a warning that its reason could not be confirmed. Every failure of the call counts, also
one before the transaction reached the node.

`numberIs` is the other assertion about a call: the first output of a view denotes a number.
-/

set_option autoImplicit false

namespace ContractHarness

/-- What the message of a failed call says about the reason. -/
inductive RevertMessage where
  /-- There is an error that the node could not decode. -/
  | unrecognizedCustomError
  /-- There is no reason. -/
  | noReasonString
  /-- The reason, if there is one, is part of the message. -/
  | other
deriving DecidableEq, Repr

/-- Why a reversion was accepted although its reason is not known. -/
inductive Unverifiable where
  | unrecognizedCustomError
  | noReasonString
deriving DecidableEq, Repr

/-- What came of a call that was expected to revert. -/
inductive Reversion where
  /-- The call reverted, for the expected reason if one was given. -/
  | reverted
  /-- The call reverted and the node did not tell the reason. -/
  | unverifiable (why : Unverifiable)
deriving DecidableEq, Repr

namespace RevertMessage

/-- How nodes tell of a custom error that they cannot decode. -/
def unrecognizedPatterns : List String := [
  "revert with unrecognized return data or custom error",
  "reverted with an unrecognized custom error"]

/-- How nodes tell of a reversion without data. -/
def noReasonPattern : String := "reverted without a reason string"

/-- Classifies a message. An error that could not be decoded goes before a missing reason. -/
def classify (message : String) : RevertMessage :=
  if unrecognizedPatterns.any (Text.contains message) then .unrecognizedCustomError
  else if Text.contains message noReasonPattern then .noReasonString
  else .other

end RevertMessage

namespace Reversion

/-- The reason that stands for an empty one. -/
def invalidOpcode : String := "invalid opcode"

/-- The reason that is looked for in the message. -/
def expectedReason (reason : String) : String :=
  if reason = "" then invalidOpcode else reason

/-- What is told when the reason could not be confirmed. -/
def warning (why : Unverifiable) (reason : String) : Notice :=
  match why with
  | .unrecognizedCustomError => .warn s!"Got unrecognized custom error instead of: {reason}"
  | .noReasonString => .warn s!"Got no error reason instead of: {reason}"

/-- Accepts a reversion whose reason the node did not tell. -/
def accept (why : Unverifiable) (reason : Option String) : Except Failure Reversion × List Notice :=
  (.ok (.unverifiable why), (reason.map (warning why)).toList)

/-- Judges the message of a call that failed against the reason that was expected, if any. -/
def judge (reason : Option String) (message : String) : Except Failure Reversion × List Notice :=
  let reason := reason.map expectedReason
  match RevertMessage.classify message with
  | .unrecognizedCustomError => accept .unrecognizedCustomError reason
  | .noReasonString => accept .noReasonString reason
  | .other =>
    match reason with
    | none => (.ok .reverted, [])
    | some reason =>
      if Text.contains message reason then (.ok .reverted, [])
      else (.error (.assertion
        ("Expected revert reason \"" ++ reason ++ "\" but got \"" ++ message ++ "\"")), [])

end Reversion

namespace Callable

variable {σ : Type}

/-- Invokes a method by a transaction that has to revert, for a reason if one is given. -/
def expectReversion (target : Callable σ) (reason : Option String) (caller : Address)
    (method : String) (args : List AbiValue) : Action σ Failure Reversion := do
  match ← (target.send caller method args).attempt with
  | .ok _ => throw (.assertion s!"{method}(...[{args.length}]) did not revert")
  | .error chain => .ofJudgement (Reversion.judge reason chain.text)

/-- The first output of a view denotes the same number as the target. -/
def numberIs (target : Callable σ) (number : Numeric) (message method : String)
    (args : List AbiValue) : Action σ Failure Unit := do
  let outputs ← (target.view method args).mapError .error
  .ofExcept (outputIs outputs number message method)

end Callable

end ContractHarness
