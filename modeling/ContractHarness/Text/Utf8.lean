/-!
# UTF-8

Text as bytes, and bytes as text. Reading never fails: each maximal part of the bytes that is no
character, the shortest sequence that cannot be continued to one, is read as the replacement
character. Reading what was written gives the text back.
-/

set_option autoImplicit false

namespace ContractHarness.Utf8

/-- The bytes of a text. -/
def encode (text : String) : List UInt8 :=
  text.toList.flatMap String.utf8EncodeChar

/-- The character that stands for bytes that are no character. -/
def replacement : Char := '\uFFFD'

/-- The byte carries six bits of a character that began before it. -/
def isContinuation (b : UInt8) : Bool :=
  0x80 ≤ b && b ≤ 0xBF

/-- The six bits that a continuation byte carries. -/
def payload (b : UInt8) : Nat :=
  b.toNat % 0x40

/-- The byte can follow the first byte of a three-byte character. After `E0` only the longer forms
are left, and after `ED` the surrogates are cut out. -/
def followsInThree (first second : UInt8) : Bool :=
  (if first = 0xE0 then 0xA0 else 0x80) ≤ second && second ≤ (if first = 0xED then 0x9F else 0xBF)

/-- The byte can follow the first byte of a four-byte character. After `F0` only the longer forms
are left, and after `F4` the code points end at `10FFFF`. -/
def followsInFour (first second : UInt8) : Bool :=
  (if first = 0xF0 then 0x90 else 0x80) ≤ second && second ≤ (if first = 0xF4 then 0x8F else 0xBF)

/-- Reads the first character of the bytes, or the replacement for the part that is none, and
says how many bytes beyond the first one it took. -/
def readChar (first : UInt8) (rest : List UInt8) : Char × Nat :=
  if first < 0x80 then (Char.ofNat first.toNat, 0)
  else if 0xC2 ≤ first && first ≤ 0xDF then
    match rest with
    | second :: _ =>
      if isContinuation second then
        (Char.ofNat (first.toNat % 0x20 * 0x40 + payload second), 1)
      else (replacement, 0)
    | [] => (replacement, 0)
  else if 0xE0 ≤ first && first ≤ 0xEF then
    match rest with
    | second :: rest =>
      if followsInThree first second then
        match rest with
        | third :: _ =>
          if isContinuation third then
            (Char.ofNat (first.toNat % 0x10 * 0x1000 + payload second * 0x40 + payload third), 2)
          else (replacement, 1)
        | [] => (replacement, 1)
      else (replacement, 0)
    | [] => (replacement, 0)
  else if 0xF0 ≤ first && first ≤ 0xF4 then
    match rest with
    | second :: rest =>
      if followsInFour first second then
        match rest with
        | third :: rest =>
          if isContinuation third then
            match rest with
            | fourth :: _ =>
              if isContinuation fourth then
                (Char.ofNat (first.toNat % 8 * 0x40000 + payload second * 0x1000
                  + payload third * 0x40 + payload fourth), 3)
              else (replacement, 2)
            | [] => (replacement, 2)
          else (replacement, 1)
        | [] => (replacement, 1)
      else (replacement, 0)
    | [] => (replacement, 0)
  else (replacement, 0)

/-- The characters of the bytes, with a replacement for each part that is none. -/
def decodeChars : List UInt8 → List Char
  | [] => []
  | first :: rest =>
    (readChar first rest).1 :: decodeChars (rest.drop (readChar first rest).2)
termination_by bytes => bytes.length
decreasing_by
  rw [List.length_drop, List.length_cons]
  omega

/-- The text of the bytes, with a replacement for each part that is no character. -/
def decode (bytes : List UInt8) : String :=
  String.ofList (decodeChars bytes)

/-- The bytes are the encoding of a text. -/
def isValid (bytes : List UInt8) : Bool :=
  encode (decode bytes) == bytes

end ContractHarness.Utf8
