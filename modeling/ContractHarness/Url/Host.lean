import ContractHarness.Text.Decimal
import ContractHarness.Text.Utf8
import ContractHarness.Url.Name

/-!
# Hosts

The host of a URL is a name or an IP address. A name whose last part is a number is an IPv4 address,
and has to be a good one; its numbers may be octal or hexadecimal, and the last one stands for all
the bytes that are left. An IPv6 address is written in brackets.
-/

set_option autoImplicit false

namespace ContractHarness.Url

/-- Why a URL is not one that a node can be reached at. -/
inductive UrlError where
  | noScheme
  | unknownScheme (scheme : String)
  | noHost
  | badName
  | badCharacter
  | badIpv4
  | badIpv6
  | badService
deriving DecidableEq, Repr

/-- What is told about a URL. -/
def UrlError.message : UrlError → String
  | .noScheme => "relative URL without a base"
  | .unknownScheme scheme =>
    "invalid URL scheme: " ++ scheme ++ "; expected `http` or `https`"
  | .noHost => "empty host"
  | .badName => "invalid international domain name"
  | .badCharacter => "invalid domain character"
  | .badIpv4 => "invalid IPv4 address"
  | .badIpv6 => "invalid IPv6 address"
  | .badService => "invalid port number"

/-! ## IPv4 -/

/-- The character is a digit of an octal number. -/
def isOctal (c : Char) : Bool :=
  '0' ≤ c && c ≤ '7'

/-- The number that a part of an IPv4 address denotes. -/
def ipv4Number? : List Char → Option Nat
  | '0' :: 'x' :: digits => Hex.toNat? digits
  | '0' :: 'X' :: digits => Hex.toNat? digits
  | '0' :: digits => if digits.all isOctal then some (Nat.ofDigitChars 8 digits 0) else none
  | digits => Decimal.toNat? digits

/-- The parts of a name. A dot at the end closes the last part. -/
def nameParts (name : List Char) : List (List Char) :=
  let parts := splitAtMarks '.' name
  if parts.getLast? = some [] then parts.dropLast else parts

/-- The last part of a name is a number. -/
def endsInNumber (name : List Char) : Bool :=
  match (nameParts name).getLast? with
  | some part => (Decimal.toNat? part).isSome || (ipv4Number? part).isSome
  | none => false

/-- The numbers are the bytes of an address, the last one all those that are left. -/
def areIpv4Numbers (numbers : List Nat) : Bool :=
  match numbers.getLast? with
  | some last =>
    numbers.length ≤ 4 && numbers.dropLast.all (· < 256) && last < Nat.pow 256 (5 - numbers.length)
  | none => false

/-- The name is an IPv4 address. -/
def isIpv4 (name : List Char) : Bool :=
  match (nameParts name).mapM ipv4Number? with
  | some numbers => areIpv4Numbers numbers
  | none => false

/-- The digits are a byte without leading zeros. -/
def isByte (digits : List Char) : Bool :=
  (Decimal.toNat? digits).any (· < 256) && (digits.length == 1 || digits.head? != some '0')

/-- The text is an IPv4 address of four decimal bytes. -/
def isDotted (text : List Char) : Bool :=
  let parts := splitAtMarks '.' text
  parts.length == 4 && parts.all isByte

/-! ## IPv6 -/

/-- The text is a group of an IPv6 address. -/
def isGroup (text : List Char) : Bool :=
  !text.isEmpty && text.length ≤ 4 && text.all Hex.isDigit

/-- How many groups a sequence of groups stands for, at the end of which there may be an IPv4
address in the place of two. -/
def groups? : List (List Char) → Option Nat
  | [] => some 0
  | [last] => if isGroup last then some 1 else if isDotted last then some 2 else none
  | group :: rest => if isGroup group then (groups? rest).map (· + 1) else none

/-- Splits an address at the first place where groups are left out. -/
def splitAtGap : List Char → Option (List Char × List Char)
  | ':' :: ':' :: rest => some ([], rest)
  | c :: rest => (splitAtGap rest).map fun (before, after) => (c :: before, after)
  | [] => none

/-- The groups of a text, which may be empty. -/
def groupTexts (text : List Char) : List (List Char) :=
  if text.isEmpty then [] else splitAtMarks ':' text

/-- The text is an IPv6 address: eight groups, or fewer with a gap among them. -/
def isIpv6 (text : List Char) : Bool :=
  match splitAtGap text with
  | none => groups? (groupTexts text) == some 8
  | some (before, after) =>
    (groupTexts before).all isGroup &&
      (groups? (groupTexts after)).any fun n => (groupTexts before).length + n ≤ 7

/-! ## Names -/

/-- Replaces a percent sign and two digits by the byte that they stand for. -/
def percentDecode : List UInt8 → List UInt8
  | 0x25 :: high :: low :: rest =>
    match Hex.digitValue? (Char.ofNat high.toNat), Hex.digitValue? (Char.ofNat low.toNat) with
    | some h, some l => UInt8.ofNat (16 * h + l) :: percentDecode rest
    | _, _ => 0x25 :: percentDecode (high :: low :: rest)
  | b :: rest => b :: percentDecode rest
  | [] => []

/-- The name that a text stands for. -/
def decodeName (text : List Char) : List Char :=
  (Utf8.decode (percentDecode (Utf8.encode (String.ofList text)))).toList

/-- Checks an address in brackets, behind the first of them. -/
def checkBrackets (rest : List Char) : Except UrlError Unit :=
  if rest.getLast? = some ']' ∧ isIpv6 rest.dropLast then .ok () else .error .badIpv6

/-- Checks the name of a host. -/
def checkName (name : List Char) : Except UrlError Unit :=
  if name.isEmpty then .error .noHost
  else if endsInNumber name ∧ ¬ isIpv4 name then .error .badIpv4
  else .ok ()

/-- Checks a host. -/
def checkHost : List Char → Except UrlError Unit
  | [] => .error .noHost
  | '[' :: rest => checkBrackets rest
  | text =>
    match readName? (decodeName text) with
    | some name => checkName name
    | none => .error .badName

/-- The character cannot stand in a host that is not looked up by its name. -/
def isForbiddenOpaque (c : Char) : Bool :=
  "\x00\t\n\r #/:<>?@[\\]^|".toList.contains c

/-- Checks a host that is not looked up by its name. -/
def checkOpaqueHost : List Char → Except UrlError Unit
  | '[' :: rest => checkBrackets rest
  | text => if text.any isForbiddenOpaque then .error .badCharacter else .ok ()

end ContractHarness.Url
