import ContractHarness.Abi.Basic
import ContractHarness.Text.Listed

/-!
# Type texts

How types are spelled in a contract's interface: a name, a qualified name or a parenthesised list,
followed by the brackets of arrays. Lists nest up to a limit. Spelling and meaning are apart.
`TypeText.read?` accepts any name, and `resolve?` finds the type that is meant, if there is one.
-/

set_option autoImplicit false

namespace ContractHarness

/-- A type as it is spelled. -/
inductive TypeText where
  | named (name : String)
  | tuple (members : List TypeText)
  | array (item : TypeText)
  | fixedArray (item : TypeText) (count : Nat)
deriving Repr, Inhabited

/-- The character can start an identifier. -/
def isIdentifierStart (c : Char) : Bool :=
  c.isAlpha || c = '_' || c = '$'

/-- The character can stand in an identifier. -/
def isIdentifierPart (c : Char) : Bool :=
  isIdentifierStart c || c.isDigit

/-- The text is an identifier. -/
def isIdentifier (text : String) : Bool :=
  match text.toList with
  | c :: rest => isIdentifierStart c && rest.all isIdentifierPart
  | [] => false

namespace TypeText

/-- Reads an identifier. -/
def readIdentifier : List Char → Option (List Char × List Char)
  | c :: rest =>
    if isIdentifierStart c then
      some (c :: rest.takeWhile isIdentifierPart, rest.dropWhile isIdentifierPart)
    else none
  | [] => none

/-- Reads a name. A qualified name is one of an enumeration, which is a number of eight bits. What
follows its point may be empty. -/
def readName (text : List Char) : Option (TypeText × List Char) :=
  match readIdentifier text with
  | none => none
  | some (_, '.' :: rest) =>
    match readIdentifier rest with
    | some (_, rest) => some (.named "uint8", rest)
    | none => some (.named "uint8", rest)
  | some (name, rest) => some (.named (String.ofList name), rest)

/-- Reads the length in the brackets of a fixed array: a positive number of 64 bits. -/
def readCount (text : List Char) : Option (Nat × List Char) :=
  let digits := text.takeWhile Char.isDigit
  let count := Nat.ofDigitChars 10 digits 0
  match text.dropWhile Char.isDigit with
  | ']' :: rest =>
    if !digits.isEmpty && 0 < count && count < UInt64.size then some (count, rest) else none
  | _ => none

/-- Reads the brackets behind a type. -/
def readBrackets : (fuel : Nat) → TypeText → List Char → Option (TypeText × List Char)
  | 0, _, _ => none
  | fuel + 1, type, text =>
    match text with
    | '[' :: ']' :: rest => readBrackets fuel (.array type) rest
    | '[' :: rest =>
      match readCount rest with
      | some (count, rest) => readBrackets fuel (.fixedArray type count) rest
      | none => none
    | rest => some (type, rest)

/-- The character can stand in the brackets of an array. -/
def isBracketPart (c : Char) : Bool :=
  c = '[' || c = ']' || c.isDigit

/-- Reads all the brackets behind a type. -/
def readAllBrackets (type : TypeText) (text : List Char) : Option (TypeText × List Char) :=
  readBrackets ((text.takeWhile isBracketPart).length + 1) type text

/-- How many types may stand inside one another, counting the outermost one and each that is a
member of a tuple. Brackets do not count. -/
def nestingLimit : Nat := 80

/-- Reads a type in which types may stand inside one another up to a depth. -/
def readType : (depth : Nat) → List Char → Option (TypeText × List Char)
  | 0, _ => none
  | depth + 1, text =>
    let stem : Option (TypeText × List Char) := match text with
      | '(' :: rest =>
        (Listed.readList (readType depth) ')' rest).map fun (members, rest) =>
          (.tuple members, rest)
      | 't' :: 'u' :: 'p' :: 'l' :: 'e' :: '(' :: rest =>
        (Listed.readList (readType depth) ')' rest).map fun (members, rest) =>
          (.tuple members, rest)
      | rest => readName rest
    match stem with
    | some (type, rest) => readAllBrackets type rest
    | none => none

/-- The type that a text spells. -/
def read? (text : String) : Option TypeText :=
  match readType nestingLimit text.toList with
  | some (type, []) => some type
  | _ => none

/-- The number behind the stem of a name, when nothing but digits stands there. -/
def width? (stem : String) (name : String) : Option Nat :=
  let digits := name.toList.drop stem.length
  if stem.toList.isPrefixOf name.toList && !digits.isEmpty && digits.all Char.isDigit then
    some (Nat.ofDigitChars 10 digits 0)
  else none

/-- The width of a number: a positive multiple of eight up to 256. -/
def isWidth (bits : Nat) : Bool :=
  0 < bits && bits ≤ 256 && bits % 8 = 0

/-- The type with a name. -/
def resolveName? (name : String) : Option AbiType :=
  match name with
  | "address" => some .address
  | "function" => some .function
  | "bool" => some .bool
  | "string" => some .string
  | "bytes" => some .bytes
  | "uint" => some (.uint 256)
  | "int" => some (.int 256)
  | name =>
    match width? "bytes" name, width? "uint" name, width? "int" name with
    | some size, _, _ => if 0 < size && size ≤ 32 then some (.fixedBytes size) else none
    | _, some bits, _ => if isWidth bits then some (.uint bits) else none
    | _, _, some bits => if isWidth bits then some (.int bits) else none
    | _, _, _ => none

mutual
/-- The type that is meant. -/
def resolve? : TypeText → Option AbiType
  | .named name => resolveName? name
  | .tuple members => (resolveAll? members).map .tuple
  | .array item => item.resolve?.map .array
  | .fixedArray item count => item.resolve?.map (.fixedArray · count)

/-- The types that are meant, if all of them are known. -/
def resolveAll? : List TypeText → Option (List AbiType)
  | [] => some []
  | member :: members =>
    match member.resolve?, resolveAll? members with
    | some type, some types => some (type :: types)
    | _, _ => none
end

/-- Puts the brackets of the spelling around a type. -/
def wrap (inner : AbiType) : TypeText → AbiType
  | .array item => .array (item.wrap inner)
  | .fixedArray item count => .fixedArray (item.wrap inner) count
  | _ => inner

end TypeText

/-- The type that a text spells and means. -/
def AbiType.read? (text : String) : Option AbiType :=
  (TypeText.read? text).bind TypeText.resolve?

end ContractHarness
