import ContractHarness.Rehearsal.Contract
import ContractHarness.Reversion

/-!
# Judging a call that is expected to revert

The method is invoked once, as it was asked for, and what comes of the expectation depends on that
invocation alone. An error is judged by what occurs in the text of its whole chain: an error that
the node could not decode goes before a missing reason, and both go before the reason that is
expected, even when that reason is one of these messages or occurs beside them. So the reason was
found whenever the call counts as reverted for it.
-/

set_option autoImplicit false

namespace ContractHarness

/-! ## Occurrences -/

namespace Text

/-- The pattern stands somewhere in the text. -/
def Occurs (pattern text : String) : Prop :=
  ∃ before after, text = before ++ pattern ++ after

/-- The search finds a pattern exactly when it stands somewhere in the text. -/
theorem contains_iff {text pattern : String} :
    contains text pattern = true ↔ Occurs pattern text := by
  rw [contains, occursIn_iff_isInfix]
  constructor
  · rintro ⟨before, after, h⟩
    refine ⟨String.ofList before, String.ofList after, String.toList_inj.mp ?_⟩
    rw [String.toList_append, String.toList_append, String.toList_ofList, String.toList_ofList, h]
  · rintro ⟨before, after, rfl⟩
    refine ⟨before.toList, after.toList, ?_⟩
    rw [String.toList_append, String.toList_append]

/-- Whether a pattern stands in a text can be computed, since the search does so. -/
instance (pattern text : String) : Decidable (Occurs pattern text) :=
  decidable_of_iff _ contains_iff

end Text

/-! ## Messages -/

namespace RevertMessage

/-- The message tells of an error that the node could not decode. -/
def Unrecognized (message : String) : Prop :=
  ∃ pattern ∈ unrecognizedPatterns, Text.Occurs pattern message

/-- The message tells of a reversion without a reason. -/
def Reasonless (message : String) : Prop :=
  Text.Occurs noReasonPattern message

/-- Each of the patterns can be searched for. -/
instance (message : String) : Decidable (Unrecognized message) :=
  inferInstanceAs (Decidable (∃ pattern ∈ unrecognizedPatterns, Text.Occurs pattern message))

/-- The pattern can be searched for. -/
instance (message : String) : Decidable (Reasonless message) :=
  inferInstanceAs (Decidable (Text.Occurs noReasonPattern message))

/-- The search for the patterns decides whether the error was not recognized. -/
theorem any_contains_iff {message : String} :
    unrecognizedPatterns.any (Text.contains message) = true ↔ Unrecognized message := by
  rw [List.any_eq_true]
  exact exists_congr fun pattern => and_congr_right fun _ => Text.contains_iff

end RevertMessage

/-! ## Judgements -/

namespace Reversion

open RevertMessage

variable {reason : Option String} {message : String} {result : Except Failure Reversion}

/-- What is told about a reason that does not occur in the message. -/
def mismatch (reason message : String) : String :=
  "Expected revert reason \"" ++ reason ++ "\" but got \"" ++ message ++ "\""

/-- The ways to judge a message, each with the condition that it is taken on. -/
inductive Judged (reason : Option String) (message : String) : Except Failure Reversion → Prop where
  | unrecognized (unrecognized : Unrecognized message) :
    Judged reason message (.ok (.unverifiable .unrecognizedCustomError))
  | noReason (recognized : ¬Unrecognized message) (reasonless : Reasonless message) :
    Judged reason message (.ok (.unverifiable .noReasonString))
  | reverted (recognized : ¬Unrecognized message) (reasoned : ¬Reasonless message)
    (occurs : ∀ text, reason = some text → Text.Occurs (expectedReason text) message) :
    Judged reason message (.ok .reverted)
  | refused (recognized : ¬Unrecognized message) (reasoned : ¬Reasonless message) {text : String}
    (expected : reason = some text) (absent : ¬Text.Occurs (expectedReason text) message) :
    Judged reason message (.error (.assertion (mismatch (expectedReason text) message)))

/-- A message is judged by the patterns in their order of priority. -/
theorem judged (reason : Option String) (message : String) :
    Judged reason message (judge reason message).1 := by
  unfold judge classify
  by_cases hunrecognized : Unrecognized message
  · rw [if_pos (any_contains_iff.mpr hunrecognized)]
    exact .unrecognized hunrecognized
  rw [if_neg (mt any_contains_iff.mp hunrecognized)]
  by_cases hreasonless : Reasonless message
  · rw [if_pos (Text.contains_iff.mpr hreasonless)]
    exact .noReason hunrecognized hreasonless
  rw [if_neg (mt Text.contains_iff.mp hreasonless)]
  cases reason with
  | none => exact .reverted hunrecognized hreasonless nofun
  | some text =>
    dsimp only [Option.map_some]
    by_cases hoccurs : Text.Occurs (expectedReason text) message
    · rw [if_pos (Text.contains_iff.mpr hoccurs)]
      refine .reverted hunrecognized hreasonless ?_
      rintro _ ⟨⟩
      exact hoccurs
    · rw [if_neg (mt Text.contains_iff.mp hoccurs)]
      exact .refused hunrecognized hreasonless rfl hoccurs

/-- The warnings that come with a result: there is one if a reason was expected that could not be
confirmed. -/
def warnings (reason : Option String) (result : Except Failure Reversion) : List Notice :=
  match result with
  | .ok (.unverifiable why) => (reason.map fun text => warning why (expectedReason text)).toList
  | _ => []

/-- The only notice is the warning of an expected reason that cannot be verified. -/
theorem notices_judge (reason : Option String) (message : String) :
    (judge reason message).2 = warnings reason (judge reason message).1 := by
  unfold judge accept
  cases classify message with
  | unrecognizedCustomError | noReasonString => cases reason <;> rfl
  | other =>
    cases reason with
    | none => rfl
    | some text =>
      dsimp only [Option.map_some]
      split <;> rfl

/-- There is a warning exactly when a reason was expected and cannot be verified. -/
theorem mem_warnings_iff {notice : Notice} :
    notice ∈ warnings reason result ↔ ∃ why text,
      result = .ok (.unverifiable why) ∧ reason = some text ∧
        notice = warning why (expectedReason text) := by
  unfold warnings
  split
  · next why => cases reason <;> simp
  · next hother =>
    refine iff_of_false List.not_mem_nil ?_
    rintro ⟨why, text, hresult, -⟩
    exact hother why hresult

/-- Such a notice is a warning. -/
theorem level_warning (why : Unverifiable) (reason : String) :
    (warning why reason).level = .warn := by
  cases why <;> rfl

namespace Judged

/-- The error is judged unrecognized exactly when the message tells so. -/
theorem unrecognized_iff (h : Judged reason message result) :
    result = .ok (.unverifiable .unrecognizedCustomError) ↔ Unrecognized message := by
  cases h with
  | unrecognized hunrecognized => exact iff_of_true rfl hunrecognized
  | noReason hrecognized _ => exact iff_of_false nofun hrecognized
  | reverted hrecognized _ _ => exact iff_of_false nofun hrecognized
  | refused hrecognized _ _ _ => exact iff_of_false nofun hrecognized

/-- The reason is judged missing exactly when the message tells so and of no unrecognized error. -/
theorem noReason_iff (h : Judged reason message result) :
    result = .ok (.unverifiable .noReasonString) ↔
      ¬Unrecognized message ∧ Reasonless message := by
  cases h with
  | unrecognized hunrecognized => exact iff_of_false nofun fun h => h.1 hunrecognized
  | noReason hrecognized hreasonless => exact iff_of_true rfl ⟨hrecognized, hreasonless⟩
  | reverted _ hreasoned _ => exact iff_of_false nofun fun h => hreasoned h.2
  | refused _ hreasoned _ _ => exact iff_of_false nofun fun h => hreasoned h.2

/-- The reversion is judged as expected exactly when the message has the expected reason, if any. -/
theorem reverted_iff (h : Judged reason message result) :
    result = .ok .reverted ↔ ¬Unrecognized message ∧ ¬Reasonless message ∧
      ∀ text, reason = some text → Text.Occurs (expectedReason text) message := by
  cases h with
  | unrecognized hunrecognized => exact iff_of_false nofun fun h => h.1 hunrecognized
  | noReason _ hreasonless => exact iff_of_false nofun fun h => h.2.1 hreasonless
  | reverted hrecognized hreasoned hoccurs =>
    exact iff_of_true rfl ⟨hrecognized, hreasoned, hoccurs⟩
  | refused _ _ hexpected habsent =>
    exact iff_of_false nofun fun h => habsent (h.2.2 _ hexpected)

/-- The assertion fails exactly when the message has a reason that is not the expected one. -/
theorem refused_iff (h : Judged reason message result) :
    (∃ told, result = .error (.assertion told)) ↔ ¬Unrecognized message ∧ ¬Reasonless message ∧
      ∃ text, reason = some text ∧ ¬Text.Occurs (expectedReason text) message := by
  cases h with
  | unrecognized hunrecognized => exact iff_of_false nofun fun h => h.1 hunrecognized
  | noReason _ hreasonless => exact iff_of_false nofun fun h => h.2.1 hreasonless
  | reverted _ _ hoccurs =>
    refine iff_of_false nofun ?_
    rintro ⟨-, -, text, hexpected, habsent⟩
    exact habsent (hoccurs text hexpected)
  | refused hrecognized hreasoned hexpected habsent =>
    exact iff_of_true ⟨_, rfl⟩ ⟨hrecognized, hreasoned, _, hexpected, habsent⟩

/-- What is told of a refusal has the expected reason and the message in it. -/
theorem told_eq {told text : String} (h : Judged reason message (.error (.assertion told)))
    (hexpected : reason = some text) : told = mismatch (expectedReason text) message := by
  cases h with
  | refused _ _ hother _ => rw [Option.some.inj (hexpected.symm.trans hother)]

end Judged

/-- What comes of a call that was expected to revert, and the notices that are given about it, by
what came of the call. -/
structure Judgement (reason : Option String) (method : String) (count : Nat)
    (sent : Except ErrorChain CallResult) (result : Except Failure Reversion)
    (given : List Notice) : Prop where
  /-- A call that succeeds has not reverted. -/
  succeeds : ∀ a, sent = .ok a →
    result = .error (.assertion s!"{method}(...[{count}]) did not revert")
  /-- Otherwise an error that the node could not decode is looked for first, -/
  unrecognized : ∀ e, sent = .error e →
    (result = .ok (.unverifiable .unrecognizedCustomError) ↔ Unrecognized e.text)
  /-- then a missing reason, -/
  noReason : ∀ e, sent = .error e →
    (result = .ok (.unverifiable .noReasonString) ↔ ¬Unrecognized e.text ∧ Reasonless e.text)
  /-- and then the reason that is expected, if any. -/
  refused : ∀ e, sent = .error e →
    ((∃ told, result = .error (.assertion told)) ↔ ¬Unrecognized e.text ∧ ¬Reasonless e.text ∧
      ∃ text, reason = some text ∧ ¬Text.Occurs (expectedReason text) e.text)
  reverted : ∀ e, sent = .error e →
    (result = .ok .reverted ↔ ¬Unrecognized e.text ∧ ¬Reasonless e.text ∧
      ∀ text, reason = some text → Text.Occurs (expectedReason text) e.text)
  told : ∀ e told text, sent = .error e → result = .error (.assertion told) →
    reason = some text → told = mismatch (expectedReason text) e.text
  /-- A warning is given exactly when a reason was expected that could not be confirmed. -/
  warned : ∀ notice, notice ∈ given ↔ ∃ why text,
    result = .ok (.unverifiable why) ∧ reason = some text ∧
      notice = warning why (expectedReason text)
  level : ∀ notice ∈ given, notice.level = .warn
  /-- The call counts as reverted for a reason only when that reason occurs in the message. -/
  confirmed : ∀ text, result = .ok .reverted → reason = some text →
    ∃ e, sent = .error e ∧ Text.Occurs (expectedReason text) e.text

/-- The result and the notices that follow from what came of the call. -/
def conclude (reason : Option String) (method : String) (count : Nat) :
    Except ErrorChain CallResult → Except Failure Reversion × List Notice
  | .ok _ => (.error (.assertion s!"{method}(...[{count}]) did not revert"), [])
  | .error e => judge reason e.text

/-- What is concluded leaves no other notices than the warnings of its outcome. -/
theorem notices_conclude (reason : Option String) (method : String) (count : Nat)
    (sent : Except ErrorChain CallResult) :
    (conclude reason method count sent).2 =
      warnings reason (conclude reason method count sent).1 := by
  cases sent with
  | ok a => rfl
  | error e => exact notices_judge reason e.text

/-- The conclusion judges what was sent: its success as a failure, and its failure by the message.
-/
theorem judgement_conclude (reason : Option String) (method : String) (count : Nat)
    (sent : Except ErrorChain CallResult) :
    Judgement reason method count sent (conclude reason method count sent).1
      (conclude reason method count sent).2 where
  succeeds := by
    rintro a rfl
    rfl
  unrecognized := by
    rintro e rfl
    exact (judged reason e.text).unrecognized_iff
  noReason := by
    rintro e rfl
    exact (judged reason e.text).noReason_iff
  refused := by
    rintro e rfl
    exact (judged reason e.text).refused_iff
  reverted := by
    rintro e rfl
    exact (judged reason e.text).reverted_iff
  told := by
    rintro e told text rfl htold hexpected
    have hjudged : Judged reason e.text (.error (.assertion told)) := by
      rw [← htold]
      exact judged reason e.text
    exact hjudged.told_eq hexpected
  warned := by
    intro notice
    rw [notices_conclude, mem_warnings_iff]
  level := by
    intro notice hnotice
    rw [notices_conclude, mem_warnings_iff] at hnotice
    obtain ⟨why, text, -, -, rfl⟩ := hnotice
    exact level_warning why _
  confirmed := by
    intro text hreverted hexpected
    cases sent with
    | ok a => cases hreverted
    | error e =>
      obtain ⟨-, -, hoccurs⟩ := (judged reason e.text).reverted_iff.mp hreverted
      exact ⟨e, rfl, hoccurs text hexpected⟩

end Reversion

/-! ## Invocations -/

namespace Callable

variable {σ ε α : Type}

/-- How a contract is invoked. -/
inductive Invocation where
  | send (caller : Address) (method : String) (args : List AbiValue)
  | view (method : String) (args : List AbiValue)

/-- An action that is noted behind the invocations before. -/
def noted (x : Action σ ε α) (invocation : Invocation) : Action (σ × List Invocation) ε α :=
  x.within Prod.fst fun world kept => (kept, world.2 ++ [invocation])

/-- The contract with a record of how it was invoked. -/
def recorded (target : Callable σ) : Callable (σ × List Invocation) where
  contract := target.contract
  send caller method args := noted (target.send caller method args) (.send caller method args)
  view method args := noted (target.view method args) (.view method args)

variable {target : Callable σ} {reason : Option String} {caller : Address} {method : String}
  {args : List AbiValue} {world : σ}

/-- The assertion sends once and concludes from what came of it. -/
theorem run_expectReversion :
    (target.expectReversion reason caller method args).run world =
      ⟨(Reversion.conclude reason method args.length
          ((target.send caller method args).run world).result).1,
        ((target.send caller method args).run world).world,
        ((target.send caller method args).run world).notices ++
          (Reversion.conclude reason method args.length
            ((target.send caller method args).run world).result).2⟩ := by
  unfold expectReversion
  rw [Action.run_bind, Action.run_attempt]
  dsimp only
  cases ((target.send caller method args).run world).result <;> rfl

/-- The method is invoked once by a transaction, as it was asked for and whatever comes of it, and
that invocation decides what the result is and whether there is a warning. -/
theorem expectReversion_judgement (target : Callable σ) (reason : Option String)
    (caller : Address) (method : String) (args : List AbiValue) (world : σ)
    (invocations : List Invocation) :
    ∃ result given,
      (target.recorded.expectReversion reason caller method args).run (world, invocations) =
        ⟨result,
          (((target.send caller method args).run world).world,
            invocations ++ [.send caller method args]),
          ((target.send caller method args).run world).notices ++ given⟩ ∧
      (target.expectReversion reason caller method args).run world =
        ⟨result, ((target.send caller method args).run world).world,
          ((target.send caller method args).run world).notices ++ given⟩ ∧
      Reversion.Judgement reason method args.length
        ((target.send caller method args).run world).result result given := by
  refine ⟨_, _, ?_, run_expectReversion, Reversion.judgement_conclude reason method args.length _⟩
  rw [run_expectReversion]
  rfl

/-! ## A message that tells of both -/

section Undecoded

/-- A node tells in one message that there is no reason and that there is one it cannot decode. -/
def undecoded : Rehearsal.Part where
  failure := some ⟨"Failed to send mint",
    ["reverted without a reason string", "reverted with an unrecognized custom error"]⟩

/-- The error that could not be decoded decides, and the empty reason is told as the one that it
stands for. -/
theorem expectReversion_undecoded :
    ∃ result given,
      ((undecoded.callable "Token").recorded.expectReversion (some "") Address.zero "mint" []).run
          ([], []) =
        ⟨result, ([⟨Address.zero, "mint", []⟩], [.send Address.zero "mint" []]), given⟩ ∧
      result = .ok (.unverifiable .unrecognizedCustomError) ∧
      .warn "Got unrecognized custom error instead of: invalid opcode" ∈ given := by
  obtain ⟨result, given, hrecorded, -, hjudgement⟩ :=
    expectReversion_judgement (undecoded.callable "Token") (some "") Address.zero "mint" [] [] []
  have hresult := (hjudgement.unrecognized _ rfl).mpr (by decide +kernel)
  exact ⟨result, given, hrecorded, hresult, (hjudgement.warned _).mpr ⟨_, _, hresult, rfl, rfl⟩⟩

end Undecoded

end Callable

end ContractHarness
