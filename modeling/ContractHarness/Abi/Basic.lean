import ContractHarness.Address
import ContractHarness.Text.Quoted

/-!
# The types and values of contract calls

What goes into a contract and comes out of it is typed by a small closed family of types. A value
carries the width or size it was declared with. The value itself is always a whole word, so a
number need not fit its declared width; `accepts` compares declarations only.
-/

set_option autoImplicit false

namespace ContractHarness

/-- A type of a parameter. -/
inductive AbiType where
  | bool
  | int (bits : Nat)
  | uint (bits : Nat)
  | fixedBytes (size : Nat)
  | address
  | function
  | bytes
  | string
  | array (item : AbiType)
  | fixedArray (item : AbiType) (count : Nat)
  | tuple (members : List AbiType)
deriving Repr, Inhabited

/-- A value of a parameter. -/
inductive AbiValue where
  | bool (value : Bool)
  /-- A word in two's complement. -/
  | int (bits : Nat) (value : Word)
  | uint (bits : Nat) (value : Word)
  /-- The bytes at the front of a word; what follows them is kept. -/
  | fixedBytes (size : Nat) (word : Word)
  | address (value : Address)
  /-- An address and a selector, twenty-four bytes together. -/
  | function (value : BitVec 192)
  | bytes (value : Bytes)
  | string (value : String)
  | array (items : List AbiValue)
  | fixedArray (items : List AbiValue)
  | tuple (members : List AbiValue)
deriving Repr, Inhabited

namespace AbiType

mutual
/-- The value is of the type: of the same kind, width and size throughout. -/
def accepts : AbiType → AbiValue → Bool
  | .bool, .bool _ => true
  | .int bits, .int bits' _ => bits = bits'
  | .uint bits, .uint bits' _ => bits = bits'
  | .fixedBytes size, .fixedBytes size' _ => size = size'
  | .address, .address _ => true
  | .function, .function _ => true
  | .bytes, .bytes _ => true
  | .string, .string _ => true
  | .array item, .array items => items.all fun value => item.accepts value
  | .fixedArray item count, .fixedArray items =>
    items.length = count && items.all fun value => item.accepts value
  | .tuple types, .tuple values => acceptsAll types values
  | _, _ => false

/-- There is one value for each type and it is of that type. -/
def acceptsAll : List AbiType → List AbiValue → Bool
  | [], [] => true
  | type :: types, value :: values => type.accepts value && acceptsAll types values
  | _, _ => false
end

mutual
/-- The encoding of a value of the type is not of fixed length, so that the place of the value
holds an offset to it. -/
def isDynamic : AbiType → Bool
  | .bytes => true
  | .string => true
  | .array _ => true
  | .fixedArray item count => count ≠ 0 && item.isDynamic
  | .tuple types => anyDynamic types
  | _ => false

/-- One of the types is dynamic. -/
def anyDynamic : List AbiType → Bool
  | [] => false
  | type :: types => type.isDynamic || anyDynamic types
end

mutual
/-- A value of the type has nothing in it that would be encoded. -/
def isZeroSized : AbiType → Bool
  | .array item => item.isZeroSized
  | .fixedArray item count => count = 0 || item.isZeroSized
  | .tuple types => allZeroSized types
  | _ => false

/-- None of the types has anything that would be encoded. -/
def allZeroSized : List AbiType → Bool
  | [] => true
  | type :: types => type.isZeroSized && allZeroSized types
end

mutual
/-- The fewest words that a value of the type takes. -/
def minimumWords : AbiType → Nat
  | .fixedArray item count => count * item.minimumWords
  | .tuple types => minimumWordsOfAll types
  | _ => 1

/-- The fewest words that values of the types take together. -/
def minimumWordsOfAll : List AbiType → Nat
  | [] => 0
  | type :: types => type.minimumWords + minimumWordsOfAll types
end

mutual
/-- The name of a type in its canonical spelling. A tuple of one member keeps a comma behind it. -/
def name : AbiType → String
  | .bool => "bool"
  | .int bits => s!"int{bits}"
  | .uint bits => s!"uint{bits}"
  | .fixedBytes size => s!"bytes{size}"
  | .address => "address"
  | .function => "function"
  | .bytes => "bytes"
  | .string => "string"
  | .array item => item.name ++ "[]"
  | .fixedArray item count => item.name ++ s!"[{count}]"
  | .tuple types =>
    "(" ++ ",".intercalate (names types) ++ (if types.length = 1 then ",)" else ")")

/-- The names of types. -/
def names : List AbiType → List String
  | [] => []
  | type :: types => type.name :: names types
end

end AbiType

namespace AbiValue

mutual
/-- The name of the type that a value shows. An empty array does not show what it could hold, and
neither does a value that holds one. -/
def typeName? : AbiValue → Option String
  | .bool _ => some "bool"
  | .int bits _ => some s!"int{bits}"
  | .uint bits _ => some s!"uint{bits}"
  | .fixedBytes size _ => some s!"bytes{size}"
  | .address _ => some "address"
  | .function _ => some "function"
  | .bytes _ => some "bytes"
  | .string _ => some "string"
  | .array items => (firstTypeName? items).map (· ++ "[]")
  | .fixedArray items => (firstTypeName? items).map (· ++ s!"[{items.length}]")
  | .tuple values =>
    (typeNames? values).map fun names =>
      "(" ++ ",".intercalate names ++ (if values.length = 1 then ",)" else ")")

/-- The name of the type that the first of the values shows. -/
def firstTypeName? : List AbiValue → Option String
  | [] => none
  | value :: _ => value.typeName?

/-- The names of the types that the values show, if all of them do. -/
def typeNames? : List AbiValue → Option (List String)
  | [] => some []
  | value :: values =>
    match value.typeName?, typeNames? values with
    | some name, some names => some (name :: names)
    | _, _ => none
end

mutual
/-- A value as it is shown inside an error message, with its kind in front of it. -/
def shown : AbiValue → String
  | .bool value => s!"Bool({value})"
  | .int bits value => s!"Int({value.toInt}, {bits})"
  | .uint bits value => s!"Uint({value.toNat}, {bits})"
  | .fixedBytes size word => "FixedBytes(" ++ Hash.hex word ++ s!", {size})"
  | .address value => "Address(" ++ value.hex ++ ")"
  | .function value => "Function(" ++ Hex.prefixed (Hex.ofNat 48 value.toNat) ++ ")"
  | .bytes value => "Bytes([" ++ ", ".intercalate (value.map fun b => b.toNat.repr) ++ "])"
  | .string value => "String(" ++ Text.quoted value ++ ")"
  | .array items => "Array([" ++ ", ".intercalate (shownAll items) ++ "])"
  | .fixedArray items => "FixedArray([" ++ ", ".intercalate (shownAll items) ++ "])"
  | .tuple values => "Tuple([" ++ ", ".intercalate (shownAll values) ++ "])"

/-- Values as they are shown. -/
def shownAll : List AbiValue → List String
  | [] => []
  | value :: values => value.shown :: shownAll values
end

end AbiValue

end ContractHarness
