import ContractHarness.Text.Split

/-!
# Words of a command line

A word that starts with two dashes names an option, perhaps with a value behind an equals sign. Two
dashes alone end the options. One dash stands in front of options of one letter each. Every other
word, a lone dash among them, is a value.
-/

set_option autoImplicit false

namespace ContractHarness.CommandLine

/-- What a word of a command line is, as long as options are recognised. -/
inductive Word where
  /-- The end of the options. -/
  | escape
  /-- An option with the value that is attached to it. -/
  | long (name : String) (attached : Option String)
  /-- Options of one letter. -/
  | short (letters : List Char)
  /-- A value. -/
  | plain (text : String)
deriving DecidableEq, Repr

/-- What a word is. -/
def Word.ofText (text : String) : Word :=
  match text.toList with
  | ['-', '-'] => .escape
  | '-' :: '-' :: rest =>
    match splitAtMark '=' rest with
    | some (name, attached) => .long (String.ofList name) (some (String.ofList attached))
    | none => .long (String.ofList rest) none
  | '-' :: letter :: rest => .short (letter :: rest)
  | _ => .plain text

end ContractHarness.CommandLine
