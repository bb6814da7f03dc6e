import ContractHarness.Abi.Basic

/-!
# Decoding values

Reading back what `AbiValue.encodeSequence` lays out, without holding the data to that layout:
parts may overlap or stand in any order, padding is not looked at, and a number may exceed its
declared width. Items without anything to encode are not counted: an array of them is empty,
whatever its length says. What is refused is reading past the end, offsets and lengths that cannot
be met, and nesting deeper than `maximalDepth`.

Before the data is read, the decoder makes a template of the types, with a token for every value
that they have a place for. How many tokens a process has room for is not known here: it is a
parameter, the `Memory`. Types whose template does not fit are refused whatever the data is.
-/

set_option autoImplicit false

namespace ContractHarness

/-- Why data cannot be decoded. -/
inductive DecodeError where
  /-- The data ends before the value does. -/
  | overrun
  /-- The value is nested too deeply. -/
  | tooDeep
  /-- There is no room for the template of the types. -/
  | outOfMemory
deriving DecidableEq, Repr

/-- How many times a reader may step into a nested part. -/
def maximalDepth : Nat := 16

/-- The room that a process has for templates. -/
structure Memory where
  /-- How many tokens fit. -/
  tokens : Nat
  /-- The template of a type without parts fits. -/
  tokens_pos : 0 < tokens
  /-- Every token has an address of 64 bits. -/
  tokens_lt : tokens < UInt64.size

/-- A place in encoded data. -/
structure Cursor where
  /-- The part that offsets count from, up to the end of the data. -/
  content : Bytes
  /-- What lies ahead. -/
  rest : Bytes
  /-- How many parts have been stepped into. -/
  depth : Nat

namespace Cursor

/-- The start of the data. -/
def start (data : Bytes) : Cursor :=
  ⟨data, data, 0⟩

/-- How many whole words lie ahead. -/
def remainingWords (c : Cursor) : Nat :=
  c.rest.length / 32

/-- Reads a word. -/
def word (c : Cursor) : Except DecodeError (Word × Cursor) :=
  let bytes := c.rest.take 32
  if bytes.length = 32 then .ok (Word.ofBytes bytes, { c with rest := c.rest.drop 32 })
  else .error .overrun

/-- Reads an offset or a length. -/
def number (c : Cursor) : Except DecodeError (Nat × Cursor) := do
  let (w, c) ← c.word
  if w.toNat < UInt64.size then .ok (w.toNat, c) else .error .overrun

/-- Steps into the part at an offset of the content. -/
def part (c : Cursor) (offset : Nat) : Except DecodeError Cursor :=
  if maximalDepth ≤ c.depth then .error .tooDeep
  else if c.content.length < offset then .error .overrun
  else .ok ⟨c.content.drop offset, c.content.drop offset, c.depth + 1⟩

/-- Steps into the part that lies ahead. -/
def inner (c : Cursor) : Except DecodeError Cursor :=
  if maximalDepth ≤ c.depth then .error .tooDeep
  else .ok ⟨c.rest, c.rest, c.depth + 1⟩

/-- Reads an offset and steps into the part there; the second cursor is behind the offset. -/
def follow (c : Cursor) : Except DecodeError (Cursor × Cursor) := do
  let (offset, after) ← c.number
  let target ← c.part offset
  return (target, after)

/-- Reads a number of bytes. -/
def bytes (c : Cursor) (count : Nat) : Except DecodeError Bytes :=
  if c.rest.length < count then .error .overrun else .ok (c.rest.take count)

/-- Reads one value after the other with the same reader. -/
def repeated {α : Type} (read : Cursor → Except DecodeError (α × Cursor)) :
    (count : Nat) → Cursor → Except DecodeError (List α × Cursor)
  | 0, c => .ok ([], c)
  | count + 1, c => do
    let (value, c) ← read c
    let (values, c) ← repeated read count c
    return (value :: values, c)

/-- Reads a group of values in a part of its own, which lies ahead or, if the group is `remote`,
at an offset. -/
def group {α : Type} (remote : Bool) (read : Cursor → Except DecodeError (α × Cursor))
    (c : Cursor) : Except DecodeError (α × Cursor) :=
  if remote then do
    let (target, after) ← c.follow
    let (value, _) ← read target
    return (value, after)
  else do
    let (value, after) ← read (← c.inner)
    return (value, { c with rest := after.rest })

end Cursor

namespace AbiType

/-- Reads the bytes at an offset, behind their number. -/
def decodeBytes (c : Cursor) : Except DecodeError (Bytes × Cursor) := do
  let (target, after) ← c.follow
  let (count, target) ← target.number
  return (← target.bytes count, after)

/-- The value of the type that a word denotes. A type of more than one word has no value in a word
and leaves the word itself. -/
def ofWord : AbiType → Word → AbiValue
  | .bool, w => .bool (w ≠ 0)
  | .int bits, w => .int bits w
  | .uint bits, w => .uint bits w
  | .fixedBytes size, w => .fixedBytes size w
  | .address, w => .address (Address.ofNat w.toNat)
  | .function, w => .function (w.extractLsb' 64 192)
  | _, w => .fixedBytes 32 w

mutual
/-- Reads a value of the type. -/
def decode : AbiType → Cursor → Except DecodeError (AbiValue × Cursor)
  | .bytes, c => do
    let (content, c) ← decodeBytes c
    return (.bytes content, c)
  | .string, c => do
    let (content, c) ← decodeBytes c
    return (.string (Utf8.decode content), c)
  | .array item, c => do
    let (target, after) ← c.follow
    let (count, target) ← target.number
    if count = 0 || item.minimumWords = 0 then return (.array [], after)
    if target.remainingWords < count * item.minimumWords then throw .overrun
    let (items, _) ← Cursor.repeated (fun c => item.decode c) count (← target.inner)
    return (.array items, after)
  | .fixedArray item count, c => do
    let (items, c) ← Cursor.group (count ≠ 0 && item.isDynamic)
      (Cursor.repeated (fun c => item.decode c) count) c
    return (.fixedArray items, c)
  | .tuple types, c => do
    let (values, c) ← Cursor.group (anyDynamic types) (fun c => decodeEach types c) c
    return (.tuple values, c)
  | type, c => do
    let (w, c) ← c.word
    return (type.ofWord w, c)

/-- Reads one value of each type. -/
def decodeEach : List AbiType → Cursor → Except DecodeError (List AbiValue × Cursor)
  | [], c => .ok ([], c)
  | type :: types, c => do
    let (value, c) ← type.decode c
    let (values, c) ← decodeEach types c
    return (value :: values, c)
end

mutual
/-- How many tokens are made for the template of a type. The items of a fixed array are copies of a
first one, which is made even if there are none; those of an array are only known from the data, and
one of them is kept in the template. -/
def tokens : AbiType → Nat
  | .array item => item.tokens + 1
  | .fixedArray item count => max 1 count * item.tokens + 1
  | .tuple types => tokensOfAll types + 1
  | _ => 1

/-- How many tokens are made for the templates of types. -/
def tokensOfAll : List AbiType → Nat
  | [] => 0
  | type :: types => type.tokens + tokensOfAll types
end

/-- Decodes the parameters of a call. Parameters without anything to encode are left out, whatever
the data. -/
def decodeSequence (memory : Memory) (types : List AbiType) (data : Bytes) :
    Except DecodeError (List AbiValue) := do
  if allZeroSized types then return []
  if data.length / 32 < minimumWordsOfAll types then throw .overrun
  if memory.tokens < tokensOfAll types then throw .outOfMemory
  let (values, _) ← decodeEach types (Cursor.start data)
  return values

/-- The value of a type without anything to encode. -/
def zeroSizedValue : AbiType → AbiValue
  | .array _ => .array []
  | .fixedArray _ _ => .fixedArray []
  | _ => .tuple []

/-- Decodes the outputs of a call one after another, each with a template of its own. -/
def decodeOutputsFrom (memory : Memory) :
    List AbiType → Cursor → Except DecodeError (List AbiValue)
  | [], _ => .ok []
  | type :: types, c => do
    if type.isZeroSized then
      return type.zeroSizedValue :: (← decodeOutputsFrom memory types c)
    if c.remainingWords < type.minimumWords then throw .overrun
    if memory.tokens < type.tokens then throw .outOfMemory
    let (value, c) ← type.decode c
    return value :: (← decodeOutputsFrom memory types c)

/-- Decodes the outputs of a call. -/
def decodeOutputs (memory : Memory) (types : List AbiType) (data : Bytes) :
    Except DecodeError (List AbiValue) :=
  decodeOutputsFrom memory types (Cursor.start data)

end AbiType

end ContractHarness
