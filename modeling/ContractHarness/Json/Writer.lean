import ContractHarness.Json.Basic
import ContractHarness.Text.Hex

/-!
# Writing JSON

The compact form has no blanks at all. The pretty form puts every item and member on a line of its
own, two spaces deeper than the bracket around it, and leaves empty brackets closed. Strings escape
the quote, the backslash and the control characters below the space, and nothing else.
-/

set_option autoImplicit false

namespace ContractHarness.Json

/-- How one character of a string is written. -/
def escapedChar (c : Char) : List Char :=
  if c = '"' then ['\\', '"']
  else if c = '\\' then ['\\', '\\']
  else if c = '\x08' then ['\\', 'b']
  else if c = '\t' then ['\\', 't']
  else if c = '\n' then ['\\', 'n']
  else if c = '\x0c' then ['\\', 'f']
  else if c = '\r' then ['\\', 'r']
  else if c.toNat < 0x20 then '\\' :: 'u' :: Hex.ofNat 4 c.toNat
  else [c]

/-- A string with its quotes. -/
def quote (text : String) : String :=
  String.ofList ('"' :: (text.toList.flatMap escapedChar ++ ['"']))

/-- Items with commas between them. -/
def separated (separator : String) (items : List String) : String :=
  separator.intercalate items

mutual
/-- The compact form of a value. -/
def compact : Json → String
  | .null => "null"
  | .bool true => "true"
  | .bool false => "false"
  | .number text => text
  | .string value => quote value
  | .array items => "[" ++ separated "," (compactItems items) ++ "]"
  | .object members => "\x7b" ++ separated "," (compactMembers members) ++ "\x7d"

/-- The compact forms of values. -/
def compactItems : List Json → List String
  | [] => []
  | item :: rest => item.compact :: compactItems rest

/-- The compact forms of members. -/
def compactMembers : List (String × Json) → List String
  | [] => []
  | (name, value) :: rest => (quote name ++ ":" ++ value.compact) :: compactMembers rest
end

/-- The start of a line at a level of nesting. -/
def newLine (level : Nat) : String :=
  "\n" ++ String.ofList (List.replicate (2 * level) ' ')

/-- Lines between brackets, one level deeper than the brackets. -/
def block (opening closing : String) (level : Nat) (lines : List String) : String :=
  if lines.isEmpty then opening ++ closing
  else opening ++ newLine (level + 1) ++ separated ("," ++ newLine (level + 1)) lines
    ++ newLine level ++ closing

mutual
/-- The pretty form of a value at a level of nesting. -/
def prettyAt (level : Nat) : Json → String
  | .array items => block "[" "]" level (prettyItems (level + 1) items)
  | .object members => block "\x7b" "\x7d" level (prettyMembers (level + 1) members)
  | .null => "null"
  | .bool true => "true"
  | .bool false => "false"
  | .number text => text
  | .string value => quote value

/-- The pretty forms of values. -/
def prettyItems (level : Nat) : List Json → List String
  | [] => []
  | item :: rest => item.prettyAt level :: prettyItems level rest

/-- The pretty forms of members. -/
def prettyMembers (level : Nat) : List (String × Json) → List String
  | [] => []
  | (name, value) :: rest =>
    (quote name ++ ": " ++ value.prettyAt level) :: prettyMembers level rest
end

/-- The pretty form of a value. -/
def pretty (value : Json) : String :=
  value.prettyAt 0

end ContractHarness.Json
