import ContractHarness.Event.Decoding
import ContractHarness.Proofs.Except

/-!
# Lists of logs

A log of an event is decoded as the event says, and the logs of a receipt are decoded one by one, up
to the first that does not fit its event.
-/

set_option autoImplicit false

namespace ContractHarness.Interface

variable {memory : Memory} {abi : Interface} {log : RawLog} {logs : List RawLog} {e : LogError}

section Event

variable {event : Event} {address : Address} {topic : Word} {topics : List Word} {data : Bytes}

/-- The event of a topic is the first one with it that is not anonymous. -/
theorem eventOf?_eq_some_iff : abi.eventOf? topic = some event ↔
    event.topic = topic ∧ event.anonymous = false ∧
      ∃ before after, abi.events = before ++ event :: after ∧
        ∀ other ∈ before, other.anonymous = false → other.topic ≠ topic := by
  have hother (other : Event) : (!(!other.anonymous && decide (other.topic = topic))) = true ↔
      (other.anonymous = false → other.topic ≠ topic) := by
    cases other.anonymous <;> simp
  unfold eventOf?
  rw [List.find?_eq_some_iff_append]
  simp only [hother, Bool.and_eq_true, Bool.not_eq_true', decide_eq_true_eq]
  rw [and_comm (a := event.anonymous = false), and_assoc]

/-- A topic is that of no event exactly when no event which is not anonymous has it. -/
theorem eventOf?_eq_none_iff : abi.eventOf? topic = none ↔
    ∀ event ∈ abi.events, event.anonymous = false → event.topic ≠ topic := by
  unfold eventOf?
  rw [List.find?_eq_none]
  simp

/-- A log of no event becomes a placeholder. -/
theorem decodeLog_of_none (hevent : abi.eventOf? topic = none) :
    abi.decodeLog memory ⟨address, topic :: topics, data⟩ = .ok (.placeholder address) := by
  unfold decodeLog
  dsimp only
  rw [hevent]

/-- A log that does not fit its event is an error with the name of the event. -/
theorem decodeLog_of_error {fault : LogFault} (hevent : abi.eventOf? topic = some event)
    (h : event.decodeParts memory topics data = .error fault) :
    abi.decodeLog memory ⟨address, topic :: topics, data⟩ = .error ⟨event.name, fault⟩ := by
  unfold decodeLog
  dsimp only
  rw [hevent]
  dsimp only
  rw [h]

/-- A log that fits its event becomes an entry with the values of the topics and the data, put
together. -/
theorem decodeLog_of_ok {indexed body : List AbiValue} (hevent : abi.eventOf? topic = some event)
    (h : event.decodeParts memory topics data = .ok (indexed, body)) :
    abi.decodeLog memory ⟨address, topic :: topics, data⟩ =
      .ok ⟨address, some event.name, .ofList (Event.interleave 0 event.inputs indexed body)⟩ := by
  unfold decodeLog
  dsimp only
  rw [hevent]
  dsimp only
  rw [h]

end Event

/-- A log that is decoded has its entry in front of those of the others. -/
theorem decodeLogs_cons_of_ok {entry : LogEntry} (h : abi.decodeLog memory log = .ok entry) :
    abi.decodeLogs memory (log :: logs) = (abi.decodeLogs memory logs).map (entry :: ·) := by
  unfold decodeLogs
  rw [List.mapM_cons, h]
  rfl

/-- A log that is not decoded ends the decoding with its error. -/
theorem decodeLogs_cons_of_error (h : abi.decodeLog memory log = .error e) :
    abi.decodeLogs memory (log :: logs) = .error e := by
  unfold decodeLogs
  rw [List.mapM_cons, h]
  rfl

/-- Logs can be decoded when each of them can. -/
theorem decodeLogs_ok_iff :
    (∃ entries, abi.decodeLogs memory logs = .ok entries) ↔
      ∀ log ∈ logs, ∃ entry, abi.decodeLog memory log = .ok entry := by
  induction logs with
  | nil => exact ⟨fun _ log h => absurd h List.not_mem_nil, fun _ => ⟨[], rfl⟩⟩
  | cons log logs ih =>
    rw [List.forall_mem_cons, ← ih]
    cases h : abi.decodeLog memory log with
    | error e => simp [decodeLogs_cons_of_error h]
    | ok entry =>
      rw [decodeLogs_cons_of_ok h]
      cases abi.decodeLogs memory logs with
      | error e => simp [Except.map]
      | ok entries => simp [Except.map]

/-- Decoding fails with the error of the first log that cannot be decoded. -/
theorem decodeLogs_error_iff :
    abi.decodeLogs memory logs = .error e ↔ ∃ before log after, logs = before ++ log :: after ∧
      (∀ log ∈ before, ∃ entry, abi.decodeLog memory log = .ok entry) ∧
      abi.decodeLog memory log = .error e :=
  Except.mapM_error_iff

end ContractHarness.Interface
