import ContractHarness.CommandLine.Usage
import ContractHarness.CommandLine.Word

/-!
# Reading a command line by a grammar

A grammar lists the flags and the options that a command knows, the places for values that belong to
no option, and the commands below it. Reading goes over the words once and gathers the parts that
they stand for, in order; it ends with the words or at the name of a command.

A value is not read before the next option or place is met, or the words end. Until then only the
shape of the words counts: an unknown option or a value too many is told before an unreadable value
in front of it. Each grammar knows `--help` and `-h`.
-/

set_option autoImplicit false

namespace ContractHarness.CommandLine

/-- A place for a value. -/
structure Slot (α : Type) where
  name : String
  /-- The place is filled at most once. -/
  isSingle : Bool
  read : String → Except UsageError α

/-- What the command line of a command is made of. -/
structure Grammar (α : Type) where
  /-- Options without a value, with what they stand for. -/
  flags : List (String × α)
  /-- Options with a value. -/
  options : List (Slot α)
  /-- Places for values that belong to no option. One that is not single takes all that follow. -/
  positionals : List (Slot α)
  /-- The names of the commands below. -/
  commands : List String

/-- The words read so far. -/
structure Reading (α : Type) where
  /-- What the values and flags stand for. -/
  parts : List α := []
  /-- The names of the single options and flags among them. -/
  given : List String := []
  /-- The place that was met last, with the text in it, which is not read yet. -/
  pending : Option (Slot α × Option String) := none
  /-- The places that are still to be filled. -/
  positionals : List (Slot α)
  /-- The options have ended. -/
  isTrailing : Bool := false

namespace Reading

variable {α : Type}

/-- Adds a part under a name, which must be new if the part may be given once. -/
def add (r : Reading α) (name : String) (isSingle : Bool) (part : Except UsageError α) :
    Except UsageError (Reading α) :=
  if isSingle ∧ name ∈ r.given then .error .repeatedOption
  else
    part.map fun part =>
      { r with
        parts := r.parts ++ [part]
        given := if isSingle then r.given ++ [name] else r.given }

/-- Reads a text in a place. -/
def fill (r : Reading α) (slot : Slot α) (text : String) : Except UsageError (Reading α) :=
  r.add slot.name slot.isSingle (slot.read text)

/-- Reads what is pending. -/
def settle (r : Reading α) : Except UsageError (Reading α) :=
  match r.pending with
  | none => .ok r
  | some (_, none) => .error .lacksValue
  | some (slot, some text) => { r with pending := none }.fill slot text

/-- The option that waits for its value. -/
def awaiting? (r : Reading α) : Option (Slot α) :=
  match r.pending with
  | some (slot, none) => if r.isTrailing then none else some slot
  | _ => none

/-- Tells that help was asked for, unless what is pending is wrong. -/
def help (r : Reading α) : Except UsageError (Reading α) := do
  let _ ← r.settle
  .error .helpRequested

/-- Goes on with an option. -/
def long (g : Grammar α) (r : Reading α) (name : String) (attached : Option String) :
    Except UsageError (Reading α) :=
  match g.options.find? (·.name == name) with
  | some slot => do
    let r ← r.settle
    match attached with
    | some text => r.fill slot text
    | none => return { r with pending := some (slot, none) }
  | none =>
    match g.flags.lookup name with
    | some part =>
      if attached.isSome then .error .uncalledForValue
      else do (← r.settle).add name true (.ok part)
    | none =>
      if name = "help" then
        if attached.isSome then .error .uncalledForValue else r.help
      else .error .unknownArgument

/-- Goes on with options of one letter. -/
def short (r : Reading α) (letters : List Char) : Except UsageError (Reading α) :=
  if letters.head? = some 'h' then r.help else .error .unknownArgument

/-- Why there is no place for a value: it stands where a command should, or it is one too many. A
command behind the end of the options is one too many as well. -/
def surplus (g : Grammar α) (r : Reading α) (text : String) : UsageError :=
  if g.commands.isEmpty ∨ (r.isTrailing ∧ text ∈ g.commands) then .unknownArgument
  else .unknownCommand

/-- Goes on with a value that belongs to no option. -/
def place (g : Grammar α) (r : Reading α) (text : String) : Except UsageError (Reading α) :=
  match r.positionals with
  | [] => .error (r.surplus g text)
  | slot :: later => do
    let r ← r.settle
    return { r with
      pending := some (slot, some text)
      positionals := if slot.isSingle then later else slot :: later }

/-- Goes on with a word. -/
def word (g : Grammar α) (r : Reading α) (text : String) : Except UsageError (Reading α) :=
  if r.isTrailing then r.place g text
  else
    match Word.ofText text with
    | .escape => .ok { r with isTrailing := true }
    | .long name attached => r.long g name attached
    | .short letters => r.short letters
    | .plain text =>
      match r.awaiting? with
      | some slot => .ok { r with pending := some (slot, some text) }
      | none => r.place g text

/-- The word is the name of a command, and stands where a command can. -/
def meetsCommand (g : Grammar α) (r : Reading α) (text : String) : Bool :=
  !r.isTrailing && r.awaiting?.isNone && g.commands.contains text

/-- What is read, with the command that was met and the words behind it. -/
abbrev Stop (α : Type) := Reading α × Option (String × List String)

/-- Goes on with words until they end or a command is met. -/
def words (g : Grammar α) (r : Reading α) : List String → Except UsageError (Stop α)
  | [] => .ok (r, none)
  | text :: rest =>
    if r.meetsCommand g text then .ok (r, some (text, rest))
    else do (← r.word g text).words g rest

/-- The parts of a reading that has come to its end. -/
def finish (r : Reading α) : Except UsageError (List α) :=
  r.settle.map Reading.parts

end Reading

/-- Reads words from the start. -/
def Grammar.read {α : Type} (g : Grammar α) (words : List String) :
    Except UsageError (Reading.Stop α) :=
  Reading.words g { positionals := g.positionals } words

end ContractHarness.CommandLine
