import ContractHarness.Proofs.Event.Logs
import ContractHarness.Rehearsal.Decoder
import ContractHarness.Rehearsal.Node
import ContractHarness.Reversion

/-!
# Transactions that were mined and expected to revert

A transaction that was mined has not reverted, but the call that sent it can still fail: a log that
is of an event of the interface and does not fit it is an error, and an expected reversion cannot
tell that error from one of the node. So the expectation fails as it should exactly when all logs of
the receipt can be decoded, and otherwise it judges the error of the first log that cannot.
-/

set_option autoImplicit false

namespace ContractHarness

variable {σ : Type}

/-! ## Judgements -/

namespace Reversion

/-- A failed call counts as the expected reversion when the node does not tell the reason, when none
is expected, or when the message contains it. -/
theorem judge_ok_iff {reason : Option String} {message : String} :
    (∃ r, (judge reason message).1 = .ok r) ↔
      RevertMessage.classify message ≠ .other ∨
        ∀ text, reason = some text → Text.contains message (expectedReason text) = true := by
  unfold judge accept
  cases RevertMessage.classify message with
  | unrecognizedCustomError => simp
  | noReasonString => simp
  | other =>
    cases reason with
    | none => simp
    | some text =>
      by_cases h : Text.contains message (expectedReason text) = true
      · simp [h]
      · simp [h]

/-- What is told about an unexpected reason ends with a quotation mark, so that it is never what is
told about a call that did not revert. -/
theorem judge_ne_didNotRevert {reason : Option String} {message method : String} {n : Nat} :
    (judge reason message).1 ≠ .error (.assertion s!"{method}(...[{n}]) did not revert") := by
  have hrevert : s!"{method}(...[{n}]) did not revert".toList.getLast? = some 't' := by
    show (method ++ "(...[" ++ toString n ++ "]) did not revert").toList.getLast? = some 't'
    rw [String.toList_append, List.getLast?_append]
    rfl
  unfold judge accept
  cases RevertMessage.classify message with
  | unrecognizedCustomError => simp
  | noReasonString => simp
  | other =>
    cases reason with
    | none => simp
    | some text =>
      dsimp only [Option.map_some]
      split
      · simp
      · intro h
        have hquote := Failure.assertion.inj (Except.error.inj h)
        rw [← hquote, String.toList_append, List.getLast?_append] at hrevert
        cases hrevert

end Reversion

/-! ## Calls -/

namespace Contract

variable {c : Contract} {node : Node σ} {decoder : Decoder} {caller : Address} {method : String}
  {args : List AbiValue} {input : Bytes} {receipt : Receipt} {world : σ}

/-- Sending a transaction that is mined fails when a log cannot be decoded, and in no other way. -/
theorem run_send_of_mined (decoder : Decoder) (hinput : c.encodeCall method args = .ok input)
    (hmined : ((node.execute ⟨caller, some c.address, input⟩).run world).result = .ok receipt) :
    ((c.send node decoder caller method args).run world).result =
      CallResult.ofReceipt decoder c.interface receipt := by
  unfold send
  rw [Action.run_bind, Action.run_ofExcept, hinput]
  dsimp only
  rw [Action.run_bind]
  generalize (node.execute ⟨caller, some c.address, input⟩).run world = o at hmined
  obtain ⟨result, world', notices⟩ := o
  cases hmined
  rfl

/-- What comes of an expected reversion whose transaction was mined. -/
theorem result_expectReversion_of_mined (hinput : c.encodeCall method args = .ok input)
    (hmined : ((node.execute ⟨caller, some c.address, input⟩).run world).result = .ok receipt)
    (reason : Option String) :
    (((c.on node decoder).expectReversion reason caller method args).run world).result =
      match c.interface.decodeLogs decoder.memory receipt.logs with
      | .ok _ => .error (.assertion s!"{method}(...[{args.length}]) did not revert")
      | .error e => (Reversion.judge reason (e.chain decoder).text).1 := by
  have hsend := run_send_of_mined decoder hinput hmined
  unfold Callable.expectReversion
  rw [Action.run_bind, Action.run_attempt]
  dsimp only [on]
  rw [hsend]
  unfold CallResult.ofReceipt
  cases c.interface.decodeLogs decoder.memory receipt.logs with
  | ok entries => rfl
  | error e => rfl

/-- A log that cannot be decoded passes for a reversion when no reason is expected. -/
theorem expectReversion_of_stray {log : RawLog} {logs : List RawLog} {e : LogError}
    (hinput : c.encodeCall method args = .ok input)
    (hmined : ((node.execute ⟨caller, some c.address, input⟩).run world).result = .ok receipt)
    (hlogs : receipt.logs = log :: logs)
    (hlog : c.interface.decodeLog decoder.memory log = .error e) :
    ∃ reversion, (((c.on node decoder).expectReversion none caller method args).run world).result =
      .ok reversion := by
  rw [result_expectReversion_of_mined hinput hmined none, hlogs,
    Interface.decodeLogs_cons_of_error hlog]
  exact Reversion.judge_ok_iff.mpr (.inr fun text h => by cases h)

/-- When the transaction was mined, the expectation of a reversion fails because there was none
exactly when all logs of the receipt can be decoded. Otherwise the error of the first log that
cannot be is taken for a reversion: always when no reason is expected, and else when it contains the
reason or reads like that of a node that does not tell one. -/
theorem expectReversion_of_mined (hinput : c.encodeCall method args = .ok input)
    (hmined : ((node.execute ⟨caller, some c.address, input⟩).run world).result = .ok receipt)
    (reason : Option String) :
    let result := (((c.on node decoder).expectReversion reason caller method args).run world).result
    (result = .error (.assertion s!"{method}(...[{args.length}]) did not revert") ↔
        ∀ log ∈ receipt.logs, ∃ entry, c.interface.decodeLog decoder.memory log = .ok entry) ∧
      ((∃ reversion, result = .ok reversion) ↔
        ∃ before log after e, receipt.logs = before ++ log :: after ∧
          (∀ log ∈ before, ∃ entry, c.interface.decodeLog decoder.memory log = .ok entry) ∧
          c.interface.decodeLog decoder.memory log = .error e ∧
          (RevertMessage.classify (e.chain decoder).text ≠ .other ∨ ∀ text, reason = some text →
            Text.contains (e.chain decoder).text (Reversion.expectedReason text) = true)) := by
  intro result
  have hresult : result = _ := result_expectReversion_of_mined hinput hmined reason
  rw [hresult, ← Interface.decodeLogs_ok_iff]
  cases hlogs : c.interface.decodeLogs decoder.memory receipt.logs with
  | ok entries =>
    constructor
    · exact ⟨fun _ => ⟨entries, rfl⟩, fun _ => rfl⟩
    · constructor
      · rintro ⟨reversion, h⟩
        cases h
      · rintro ⟨before, log, after, e, hsplit, hbefore, he, -⟩
        rw [Interface.decodeLogs_error_iff.mpr ⟨before, log, after, hsplit, hbefore, he⟩] at hlogs
        cases hlogs
  | error e =>
    constructor
    · constructor
      · intro h
        exact absurd h Reversion.judge_ne_didNotRevert
      · rintro ⟨entries, h⟩
        cases h
    · rw [Reversion.judge_ok_iff]
      constructor
      · intro h
        obtain ⟨before, log, after, hsplit, hbefore, he⟩ := Interface.decodeLogs_error_iff.mp hlogs
        exact ⟨before, log, after, e, hsplit, hbefore, he, h⟩
      · rintro ⟨before, log, after, e', hsplit, hbefore, he, h⟩
        rw [Interface.decodeLogs_error_iff.mpr ⟨before, log, after, hsplit, hbefore, he⟩] at hlogs
        rw [← Except.error.inj hlogs]
        exact h

end Contract

/-! ## A log that does not fit its event -/

section Stray

open Rehearsal (deployer)

/-- The function of a contract that emits one event. -/
def ping : Method := ⟨"ping", [], []⟩

/-- An event without parameters. -/
def pinged : Event := ⟨"Pinged", [], false⟩

/-- A contract with the function and the event. -/
def pinger : Contract := ⟨"Pinger", Address.ofNat 1, ⟨none, [ping], [pinged]⟩, none⟩

/-- The call of the function is its selector alone. -/
theorem encodeCall_ping : pinger.encodeCall "ping" [] = .ok (ping.selector.toBytes ++ []) := rfl

/-- A log of the event with a topic too many. -/
def strayLog : RawLog := ⟨pinger.address, [pinged.topic, 0], []⟩

/-- A log with a topic too many cannot be decoded, whatever the memory. -/
theorem decodeLog_strayLog (memory : Memory) :
    pinger.interface.decodeLog memory strayLog = .error ⟨"Pinged", .topicCount 1 2⟩ := by
  have hevent : pinger.interface.eventOf? pinged.topic = some pinged := by
    simp [Interface.eventOf?, pinger, pinged]
  exact Interface.decodeLog_of_error hevent rfl

/-- A transaction that was mined and did not revert is taken for one that did, whatever the decoder
says of the log. -/
theorem expectReversion_strayLog :
    ((Rehearsal.node.execute
        ⟨deployer, some pinger.address, ping.selector.toBytes ++ []⟩).run
          { logs := [strayLog] }).result = .ok ⟨1, deployer, none, 0, [strayLog]⟩ ∧
      ∀ decoder, ∃ reversion,
        (((pinger.on Rehearsal.node decoder).expectReversion none deployer "ping" []).run
          { logs := [strayLog] }).result = .ok reversion := by
  have hmined : ((Rehearsal.node.execute
      ⟨deployer, some pinger.address, ping.selector.toBytes ++ []⟩).run
        { logs := [strayLog] }).result = .ok ⟨1, deployer, none, 0, [strayLog]⟩ := rfl
  refine ⟨hmined, fun decoder => ?_⟩
  exact Contract.expectReversion_of_stray encodeCall_ping hmined rfl
    (decodeLog_strayLog decoder.memory)

/-- The exact condition at the two receipts: with a log that fits and with one that does not. -/
theorem expectReversion_ping :
    (((pinger.on Rehearsal.node Rehearsal.decoder).expectReversion none deployer "ping" []).run
        {}).result = .error (.assertion "ping(...[0]) did not revert") ∧
      (((pinger.on Rehearsal.node Rehearsal.decoder).expectReversion none deployer "ping" []).run
        { logs := [strayLog] }).result ≠ .error (.assertion "ping(...[0]) did not revert") := by
  constructor
  · have hmined : ((Rehearsal.node.execute
        ⟨deployer, some pinger.address, ping.selector.toBytes ++ []⟩).run {}).result =
          .ok ⟨1, deployer, none, 0, []⟩ := rfl
    exact (Contract.expectReversion_of_mined encodeCall_ping hmined none).1.mpr
      fun log h => absurd h List.not_mem_nil
  · have hmined : ((Rehearsal.node.execute
        ⟨deployer, some pinger.address, ping.selector.toBytes ++ []⟩).run
          { logs := [strayLog] }).result = .ok ⟨1, deployer, none, 0, [strayLog]⟩ := rfl
    intro h
    obtain ⟨entry, hentry⟩ :=
      (Contract.expectReversion_of_mined encodeCall_ping hmined none).1.mp h strayLog
        List.mem_cons_self
    rw [decodeLog_strayLog] at hentry
    cases hentry

end Stray

end ContractHarness
