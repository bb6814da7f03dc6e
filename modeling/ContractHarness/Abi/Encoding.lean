import ContractHarness.Abi.Basic

/-!
# Encoding values

Values in a sequence are laid out in two parts. At its place in the head, a value of fixed length
stands itself, and any other value is represented by the offset of its encoding in the tail behind
the head. Offsets count from the start of the head.
-/

set_option autoImplicit false

namespace ContractHarness

/-- The encoding of a value, by where it goes. -/
inductive Piece where
  /-- Stands in the head. -/
  | inline (encoding : Bytes)
  /-- Stands in the tail, with its offset in the head. -/
  | remote (encoding : Bytes)
deriving DecidableEq, Repr

namespace Piece

/-- How many bytes of the head the piece takes. -/
def headLength : Piece → Nat
  | .inline encoding => encoding.length
  | .remote _ => 32

/-- The bytes of the tail that belong to the piece. -/
def tail : Piece → Bytes
  | .inline _ => []
  | .remote encoding => encoding

/-- The piece stands in the tail. -/
def isRemote : Piece → Bool
  | .inline _ => false
  | .remote _ => true

/-- A number as a word of the head. -/
def numberWord (n : Nat) : Bytes :=
  Bytes.ofNat 32 n

/-- The head of the pieces, the first tail of which starts at an offset. -/
def head (offset : Nat) : List Piece → Bytes
  | [] => []
  | .inline encoding :: pieces => encoding ++ head offset pieces
  | .remote encoding :: pieces => numberWord offset ++ head (offset + encoding.length) pieces

/-- The length of the head of the pieces. -/
def headsLength : List Piece → Nat
  | [] => 0
  | piece :: pieces => piece.headLength + headsLength pieces

/-- The pieces laid out: the head, then the tails in order. -/
def assemble (pieces : List Piece) : Bytes :=
  head (headsLength pieces) pieces ++ pieces.flatMap tail

end Piece

namespace AbiValue

/-- Bytes behind their number, filled up to whole words. -/
def encodeBytes (bytes : Bytes) : Bytes :=
  Piece.numberWord bytes.length ++ Bytes.padded bytes

/-- Members of fixed length make a whole of fixed length. -/
def aggregate (pieces : List Piece) : Piece :=
  if pieces.any Piece.isRemote then .remote (Piece.assemble pieces)
  else .inline (Piece.assemble pieces)

mutual
/-- The encoding of a value as a piece of a sequence. -/
def piece : AbiValue → Piece
  | .bool value => .inline (Piece.numberWord value.toNat)
  | .int _ value => .inline value.toBytes
  | .uint _ value => .inline value.toBytes
  | .fixedBytes _ word => .inline word.toBytes
  | .address value => .inline (Piece.numberWord value.toNat)
  | .function value => .inline (Piece.numberWord (value.toNat <<< 64))
  | .bytes value => .remote (encodeBytes value)
  | .string value => .remote (encodeBytes (Utf8.encode value))
  | .array items => .remote (Piece.numberWord items.length ++ Piece.assemble (pieces items))
  | .fixedArray items => aggregate (pieces items)
  | .tuple values => aggregate (pieces values)

/-- The encodings of values as pieces of a sequence. -/
def pieces : List AbiValue → List Piece
  | [] => []
  | value :: values => value.piece :: pieces values
end

/-- The encoding of values as the parameters of a call. -/
def encodeSequence (values : List AbiValue) : Bytes :=
  Piece.assemble (pieces values)

end AbiValue

/-- Why values cannot be encoded as parameters. -/
inductive EncodeError where
  /-- There are more or fewer values than parameters. -/
  | count (expected given : Nat)
  /-- A value is not of the type of its parameter. -/
  | type (expected : AbiType) (given : AbiValue)
  /-- The type of a parameter is unknown. -/
  | unresolved (typeText : String)
deriving Repr

/-- The message of an encoding error. -/
def EncodeError.message : EncodeError → String
  | .count expected given => s!"encode length mismatch: expected {expected} types, got {given}"
  | .type expected given =>
    "type mismatch: expected type \"" ++ expected.name ++ "\", got value with type \""
      ++ (given.typeName?).getD "<none>" ++ "\""
  | .unresolved typeText => s!"invalid type: {typeText}"

end ContractHarness
