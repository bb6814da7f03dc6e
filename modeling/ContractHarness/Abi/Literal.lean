import ContractHarness.Abi.Interface
import ContractHarness.Text.Blank
import ContractHarness.Text.Listed

/-!
# Literals

Values as people write them on a command line. How a text is read depends on the type that is
expected: numbers may carry a fraction, an exponent and a unit of currency, bytes are hexadecimal,
arrays stand in brackets and tuples in parentheses. A text is a literal of a type only if all of it
is read.
-/

set_option autoImplicit false

namespace ContractHarness.Literal

/-- A number that fits a word. -/
def inWord (n : Nat) : Option Nat :=
  if n < Word.size then some n else none

/-- A power of ten that fits a word. -/
def powerOfTen (exponent : Nat) : Option Nat :=
  if exponent < 78 then some (Nat.pow 10 exponent) else none

/-! ## Numbers -/

/-- The value of digits in a radix, if all of them are digits of the radix. -/
def valueIn (radix : Nat) (digits : List Char) : Option Nat :=
  digits.foldlM (fun value c => do
    let d ← Hex.digitValue? c
    if d < radix then some (radix * value + d) else none) 0

/-- The radix that a letter behind a leading zero stands for. -/
def radixOf? : Char → Option Nat
  | 'b' => some 2
  | 'B' => some 2
  | 'o' => some 8
  | 'O' => some 8
  | 'x' => some 16
  | 'X' => some 16
  | _ => none

/-- Reads digits that satisfy a test, at least one, as a number in a radix. -/
def readDigits (radix : Nat) (isDigit : Char → Bool) (text : List Char) :
    Option (Nat × List Char) := do
  let digits := text.takeWhile isDigit
  if digits.isEmpty then none
  let value ← (valueIn radix digits).bind inWord
  return (value, text.dropWhile isDigit)

/-- Reads the whole part of a number. -/
def readWhole (text : List Char) : Option (Nat × List Char) :=
  match text with
  | '0' :: mark :: rest =>
    match radixOf? mark with
    | some radix => readDigits radix Hex.isDigit rest
    | none => readDigits 10 Char.isDigit text
  | _ => readDigits 10 Char.isDigit text

/-- Reads the digits of a fraction behind its point. -/
def readFraction : List Char → Option (List Char × List Char)
  | '.' :: rest =>
    let digits := rest.takeWhile Char.isDigit
    if digits.isEmpty then none else some (digits, rest.dropWhile Char.isDigit)
  | text => some ([], text)

/-- Reads the number of an exponent: zero, or digits without a leading zero and with or without a
sign, within 64 bits. -/
def readExponentNumber (text : List Char) : Option (Int × List Char) :=
  match text with
  | '0' :: rest => some (0, rest)
  | _ =>
    let (negative, digits) := match text with
      | '+' :: rest => (false, rest)
      | '-' :: rest => (true, rest)
      | rest => (false, rest)
    match digits with
    | c :: _ =>
      if c.isDigit && c ≠ '0' then
        let n : Int := Nat.ofDigitChars 10 (digits.takeWhile Char.isDigit) 0
        let exponent := if negative then -n else n
        if Int64.minValue.toInt ≤ exponent ∧ exponent ≤ Int64.maxValue.toInt then
          some (exponent, digits.dropWhile Char.isDigit)
        else none
      else none
    | [] => none

/-- Reads an exponent; what does not have the form of one is left where it is. -/
def readExponent : List Char → Int × List Char
  | 'e' :: rest => (readExponentNumber rest).getD (0, 'e' :: rest)
  | 'E' :: rest => (readExponentNumber rest).getD (0, 'E' :: rest)
  | text => (0, text)

/-- The power of ten that a unit of currency stands for. -/
def unit? (name : String) : Option Nat :=
  match name with
  | "" => some 0
  | "wei" => some 0
  | "gwei" => some 9
  | "nano" => some 9
  | "nanoether" => some 9
  | "ether" => some 18
  | _ => none

/-- Moves the point of a number with the digits of a fraction behind it. A fraction that would not
disappear is refused. -/
def scale (whole : Nat) (fraction : List Char) (places : Nat) : Option Nat := do
  if fraction.isEmpty then
    inWord (whole * (← powerOfTen places))
  else
    let part ← inWord (Nat.ofDigitChars 10 fraction 0)
    if places < fraction.length then none
    let value ← inWord (whole * (← powerOfTen fraction.length))
    let value ← inWord (value + part)
    inWord (value * (← powerOfTen (places - fraction.length)))

/-- Reads an unsigned number of a width. -/
def readUnsigned (bits : Nat) (text : List Char) : Option (Nat × List Char) := do
  let (whole, rest) ← readWhole text
  let (fraction, rest) ← readFraction rest
  let (exponent, rest) := readExponent rest
  let rest := Listed.skipGaps rest
  let unit ← unit? (String.ofList (rest.takeWhile Char.isAlpha))
  let places := exponent + unit
  if places < 0 then none
  let value ← scale whole fraction places.toNat
  if value < Nat.pow 2 bits then some (value, rest.dropWhile Char.isAlpha) else none

/-- Reads a signed number of a width. -/
def readSigned (bits : Nat) (text : List Char) : Option (Int × List Char) := do
  let (negative, unsigned) := match text with
    | '+' :: rest => (false, rest)
    | '-' :: rest => (true, rest)
    | rest => (false, rest)
  let (n, rest) ← readUnsigned bits unsigned
  let value : Int := if negative then -n else n
  let bound : Int := Nat.pow 2 (bits - 1)
  if -bound ≤ value ∧ value < bound then some (value, rest) else none

/-! ## Words, bytes and text -/

/-- Reads a truth value. -/
def readBool (text : List Char) : Option (Bool × List Char) :=
  let rest := text.dropWhile Char.isAlpha
  match String.ofList (text.takeWhile Char.isAlpha) with
  | "true" => some (true, rest)
  | "false" => some (false, rest)
  | _ => none

/-- Reads hexadecimal digits, of which there is at least one unless the mark `0x` stands before
them. -/
def readHexDigits (text : List Char) : Option (List Char × List Char) :=
  match text with
  | '0' :: 'x' :: rest => some (rest.takeWhile Hex.isDigit, rest.dropWhile Hex.isDigit)
  | _ =>
    let digits := text.takeWhile Hex.isDigit
    if digits.isEmpty then none else some (digits, text.dropWhile Hex.isDigit)

/-- Reads any number of bytes. -/
def readBytes (text : List Char) : Option (Bytes × List Char) := do
  let (digits, rest) ← readHexDigits text
  return (← Hex.toBytes? digits, rest)

/-- Reads a fixed number of bytes. -/
def readFixedBytes (size : Nat) (text : List Char) : Option (Bytes × List Char) := do
  let (bytes, rest) ← readBytes text
  if bytes.length = size then some (bytes, rest) else none

/-- The character opens a quoted text. -/
def isQuote (c : Char) : Bool :=
  c = '"' || c = '\''

/-- Reads a text. A quoted one goes up to the next quote of its kind. An unquoted one goes up to
the next comma or the bracket that closes the list around it, loses the blanks at its end, and may
be empty only at the end of everything. -/
def readText (closing : Option Char) (text : List Char) : Option (List Char × List Char) :=
  match text with
  | [] => some ([], [])
  | c :: rest =>
    if isQuote c then
      match rest.dropWhile (· ≠ c) with
      | _ :: after => some (rest.takeWhile (· ≠ c), after)
      | [] => none
    else
      let goesOn (c : Char) := closing.all fun close => c ≠ ',' && c ≠ close
      let taken := text.takeWhile goesOn
      if taken.isEmpty then none else some (Text.trimEnd taken, text.dropWhile goesOn)

/-! ## Lists -/

/-- How many arrays with items may stand inside one another. Tuples do not count. -/
def nestingLimit : Nat := 79

/-- Reads an array in which arrays may stand inside one another up to a depth. -/
def readArray (readItem : (depth : Nat) → List Char → Option (AbiValue × List Char)) :
    (depth : Nat) → List Char → Option (List AbiValue × List Char)
  | 0, '[' :: rest => Listed.readList (fun _ => none) ']' rest
  | depth + 1, '[' :: rest => Listed.readList (readItem depth) ']' rest
  | _, _ => none

mutual
/-- Reads a value of a type. An unquoted text ends where the list around it may be closed. -/
def readValue : AbiType → (closing : Option Char) → (depth : Nat) → List Char →
    Option (AbiValue × List Char)
  | .bool, _, _, text => (readBool text).map fun (b, rest) => (.bool b, rest)
  | .uint bits, _, _, text =>
    (readUnsigned bits text).map fun (n, rest) => (.uint bits (BitVec.ofNat 256 n), rest)
  | .int bits, _, _, text =>
    (readSigned bits text).map fun (n, rest) => (.int bits (BitVec.ofInt 256 n), rest)
  | .fixedBytes size, _, _, text =>
    (readFixedBytes size text).map fun (bytes, rest) =>
      (.fixedBytes size (Word.ofBytes (Bytes.padded bytes)), rest)
  | .address, _, _, text =>
    (readFixedBytes 20 text).map fun (bytes, rest) => (.address (Address.ofBytes bytes), rest)
  | .function, _, _, text =>
    (readFixedBytes 24 text).map fun (bytes, rest) =>
      (.function (BitVec.ofNat 192 (Bytes.toNat bytes)), rest)
  | .bytes, _, _, text => (readBytes text).map fun (bytes, rest) => (.bytes bytes, rest)
  | .string, closing, _, text =>
    (readText closing text).map fun (content, rest) => (.string (String.ofList content), rest)
  | .array item, _, depth, text =>
    (readArray (fun depth text => readValue item (some ']') depth text) depth text).map
      fun (items, rest) => (.array items, rest)
  | .fixedArray item count, _, depth, text => do
    let (items, rest) ←
      readArray (fun depth text => readValue item (some ']') depth text) depth text
    if items.length = count then some (.fixedArray items, rest) else none
  | .tuple types, _, depth, text =>
    match Listed.skipGaps text with
    | '(' :: rest =>
      (readMembers types depth rest).map fun (values, rest) => (.tuple values, rest)
    | _ => none

/-- Reads the members of a tuple up to its parenthesis. -/
def readMembers : List AbiType → (depth : Nat) → List Char →
    Option (List AbiValue × List Char)
  | [], _, text =>
    match Listed.skipGaps text with
    | ')' :: rest => some ([], rest)
    | _ => none
  | type :: types, depth, text =>
    match readValue type (some ')') depth (Listed.skipGaps text) with
    | none => none
    | some (value, rest) =>
      (readFurtherMembers types depth rest).map fun (values, rest) => (value :: values, rest)

/-- Reads the members of a tuple behind its first one. -/
def readFurtherMembers : List AbiType → (depth : Nat) → List Char →
    Option (List AbiValue × List Char)
  | [], _, text =>
    match Listed.skipGaps text with
    | ')' :: rest => some ([], rest)
    | _ => none
  | type :: types, depth, text =>
    match Listed.skipGaps text with
    | ',' :: rest =>
      match readValue type (some ')') depth (Listed.skipGaps rest) with
      | none => none
      | some (value, rest) =>
        (readFurtherMembers types depth rest).map fun (values, rest) => (value :: values, rest)
    | _ => none
end

/-- The value of the type that a text is a literal of. -/
def read? (type : AbiType) (text : String) : Option AbiValue :=
  match readValue type none nestingLimit text.toList with
  | some (value, []) => some value
  | _ => none

end ContractHarness.Literal

namespace ContractHarness

/-- Why texts are no arguments for parameters. -/
inductive CoerceError where
  /-- There are more or fewer texts than parameters. -/
  | count (expected given : Nat)
  /-- The type of a parameter is unknown. -/
  | unresolved (param : String)
  /-- A text is no literal of the type of its parameter. -/
  | unreadable (text typeText : String)
deriving DecidableEq, Repr

/-- The message of a coercion error. -/
def CoerceError.message : CoerceError → String
  | .count expected given => s!"Expected {expected} arguments but {given} were provided"
  | .unresolved param => s!"Failed to resolve the type of {param}"
  | .unreadable text typeText => s!"Failed to coerce {Text.quoted text} into {typeText}"

/-- Reads a text as an argument for a parameter. -/
def Param.coerce (param : Param) (text : String) : Except CoerceError AbiValue :=
  match param.resolve? with
  | none => .error (.unresolved param.name)
  | some type =>
    match Literal.read? type text with
    | none => .error (.unreadable text param.typeText)
    | some value => .ok value

/-- Reads texts as arguments for parameters, one for each. -/
def Param.coerceEach : List Param → List String → Except CoerceError (List AbiValue)
  | param :: params, text :: texts => do
    let value ← param.coerce text
    let values ← coerceEach params texts
    return value :: values
  | _, _ => .ok []

/-- Reads texts as arguments for parameters. -/
def Param.coerceAll (params : List Param) (texts : List String) :
    Except CoerceError (List AbiValue) :=
  if params.length ≠ texts.length then .error (.count params.length texts.length)
  else coerceEach params texts

/-- Reads texts as arguments for the constructor. A contract without one takes no arguments. -/
def Interface.coerceConstructorArguments (abi : Interface) (texts : List String) :
    Except CoerceError (List AbiValue) :=
  Param.coerceAll (abi.constructor?.getD []) texts

end ContractHarness
