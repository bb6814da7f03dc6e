import ContractHarness.Event.Entry
import ContractHarness.Failure
import ContractHarness.Notice

/-!
# Matching log entries

An entry matches a predicate when it has every argument that the predicate names, with the value
that it expects. Plain values are compared as they are and big numbers as integers. A value that
has no comparison makes the predicate itself wrong, which is an error and no mismatch.

`expectEvent` and `expectNoEvent` are the two assertions over the matching entries. When one of
them does not hold although a predicate was given, they show the entries that came into question.
-/

set_option autoImplicit false

namespace ContractHarness

/-- Why a value cannot be compared with an expected one. -/
inductive MatchError where
  /-- A big number is expected and the value is no number. -/
  | notNumber (actual : EventValue) (expected : BigNumber) (reason : EventValue.NumberError)
  /-- Nothing is expected. -/
  | undefined
  /-- Something is expected that has no comparison. -/
  | unsupported (description : String)
deriving DecidableEq, Repr

/-- A matching error as a chain of texts. -/
def MatchError.chain : MatchError → ErrorChain
  | .notNumber actual expected reason =>
    ⟨s!"Failed to compare {actual.shown} with {expected.decimal}", [reason.message]⟩
  | .undefined => .ofText "Cannot be function / symbol / undefined."
  | .unsupported description => .ofText s!"Unknown type for {description}"

/-- The value is the expected one. -/
def EventValue.matches (expected actual : EventValue) : Except MatchError Bool :=
  match expected with
  | .big n =>
    match actual.toNumber with
    | .ok m => .ok (n = m)
    | .error reason => .error (.notNumber actual n reason)
  | .undefined => .error .undefined
  | .unsupported description => .error (.unsupported description)
  | expected => .ok (expected = actual)

namespace LogEntry

/-- The entry has the expected arguments, taken in order up to the first that decides. -/
def matchesArgs (entry : LogEntry) : List (String × EventValue) → Except MatchError Bool
  | [] => .ok true
  | (key, expected) :: rest =>
    match entry.args.get? key with
    | none => .ok false
    | some actual =>
      match expected.matches actual with
      | .ok true => entry.matchesArgs rest
      | .ok false => .ok false
      | .error e => .error e

/-- The entry is of the event and has the expected arguments, if any are expected. -/
def satisfies (event : String) (expected : Option EventArgs) (entry : LogEntry) :
    Except MatchError Bool :=
  if entry.event ≠ some event then .ok false
  else match expected with
    | none => .ok true
    | some args => entry.matchesArgs args.entries

end LogEntry

/-- The entries of an event with the expected arguments, in order. -/
def filterEvents (event : String) (expected : Option EventArgs) :
    List LogEntry → Except MatchError (List LogEntry)
  | [] => .ok []
  | entry :: entries =>
    match entry.satisfies event expected with
    | .error e => .error e
    | .ok true => (filterEvents event expected entries).map (entry :: ·)
    | .ok false => filterEvents event expected entries

/-- The entries that came into question and what was asked of them, when there are any. -/
def candidateNotices (event : String) (expected : Option EventArgs) (entries : List LogEntry) :
    List Notice :=
  match expected with
  | none => []
  | some args =>
    let candidates := entries.filter (·.event = some event)
    let shown := Json.array (candidates.map fun entry => entry.namedOnly.toJson)
    if candidates.isEmpty then []
    else [
      .info s!"Potentially matching {event} events: {shown.pretty}",
      .info s!"Your args: {args.toJson.pretty}"]

/-- The result of an assertion with the notices that it gave. -/
abbrev Verdict := Except Failure Unit × List Notice

/-- Some entry is of the event and has the expected arguments. -/
def expectEvent (event : String) (expected : Option EventArgs) (entries : List LogEntry) :
    Verdict :=
  match filterEvents event expected entries with
  | .error e => (.error (.error e.chain), [])
  | .ok (_ :: _) => (.ok (), [])
  | .ok [] =>
    (.error (.assertion s!"expected at least one {event} event"),
      candidateNotices event expected entries)

/-- No entry is of the event and has the expected arguments. -/
def expectNoEvent (event : String) (expected : Option EventArgs) (entries : List LogEntry) :
    Verdict :=
  match filterEvents event expected entries with
  | .error e => (.error (.error e.chain), [])
  | .ok [] => (.ok (), [])
  | .ok found =>
    (.error (.assertion s!"expected no {event} events but found {found.length}"),
      candidateNotices event expected entries)

end ContractHarness
