/-!
# Listed items

Items between an opening and a closing character, separated by commas. A comma may stand behind the
last item. Gaps may stand behind the opening character, behind a comma and before the closing
character, but not before a comma. What an item is, the caller says.
-/

set_option autoImplicit false

namespace ContractHarness.Listed

/-- A space or a tabulator. -/
def isGap (c : Char) : Bool :=
  c = ' ' || c = '\t'

/-- The text behind its leading gaps. -/
def skipGaps (text : List Char) : List Char :=
  text.dropWhile isGap

/-- The text behind gaps and a closing character. -/
def readEnd (close : Char) (text : List Char) : Option (List Char) :=
  match skipGaps text with
  | c :: rest => if c = close then some rest else none
  | [] => none

/-- Reads the items of a list up to its closing character. The fuel is the number of items that
there may be. -/
def readItems {α : Type} (readItem : List Char → Option (α × List Char)) (close : Char) :
    (fuel : Nat) → List Char → Option (List α × List Char)
  | 0, _ => none
  | fuel + 1, text => do
    let (item, rest) ← readItem text
    match rest with
    | ',' :: rest =>
      match readEnd close rest with
      | some rest => some ([item], rest)
      | none =>
        let (items, rest) ← readItems readItem close fuel (skipGaps rest)
        some (item :: items, rest)
    | rest => (readEnd close rest).map fun rest => ([item], rest)

/-- Reads a list behind its opening character. -/
def readList {α : Type} (readItem : List Char → Option (α × List Char)) (close : Char)
    (text : List Char) : Option (List α × List Char) :=
  match readEnd close text with
  | some rest => some ([], rest)
  | none => readItems readItem close (text.length + 1) (skipGaps text)

end ContractHarness.Listed
