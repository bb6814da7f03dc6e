import ContractHarness.CommandLine.Run
import ContractHarness.Json.Reader
import ContractHarness.Rehearsal.Decoder
import ContractHarness.Rehearsal.Endpoint

/-!
# The program

Rehearses a command line. The files are given on standard input, as one line with a JSON object of
their paths and contents, and the node is a rehearsed one. What the command prints goes to standard
output; the notices and the reason of a failure go to the error output.
-/

set_option autoImplicit false

namespace ContractHarness

/-- The files that a document lists. A content that is no text is written as JSON. -/
def filesOf : Json → Entry
  | .object members =>
    let add (files : Entry) (member : String × Json) :=
      files.write (.file (member.2.string?.getD member.2.compact)) (FilePath.ofText member.1)
    members.foldl add (.folder [])
  | _ => .folder []

/-- The text that a failed run ends with. -/
def CommandLine.RunError.message : CommandLine.RunError → String
  | .usage e => e.name
  | .failure f => f.message

/-- The code that a run exits with: one for failures, and two where the words are no invocation. To
ask for help is no error. -/
def exitCode : Except CommandLine.RunError Unit → UInt32
  | .ok () => 0
  | .error (.usage .helpRequested) => 0
  | .error (.usage _) => 2
  | .error (.failure _) => 1

end ContractHarness

open ContractHarness

/-- The program takes files from the first line of its input, and all else from its arguments. -/
def main (args : List String) : IO UInt32 := do
  let document := (Json.read? (← (← IO.getStdin).getLine)).getD (.object [])
  let outcome :=
    (CommandLine.run Rehearsal.endpoint Rehearsal.decoder args).run ⟨filesOf document, {}, ""⟩
  for notice in outcome.notices do
    IO.eprintln (notice.level.name ++ " " ++ notice.text)
  IO.print outcome.world.printed
  match outcome.result with
  | .ok () => pure ()
  | .error e => IO.eprintln ("Error: " ++ e.message)
  return exitCode outcome.result
