import ContractHarness.Text.Printable

/-!
# Quoted text

A text as it is shown inside an error message: between double quotes, with the quote, the backslash
and every character that would not show replaced by an escape.
-/

set_option autoImplicit false

namespace ContractHarness.Text

/-- The escape of a character by its code point, as in `\u{200b}`. -/
def codePointEscape (c : Char) : List Char :=
  '\\' :: 'u' :: '{' :: (Nat.toDigits 16 c.toNat ++ ['}'])

/-- How one character is written between the quotes. -/
def quotedChar (c : Char) : List Char :=
  if c = '\x00' then ['\\', '0']
  else if c = '\t' then ['\\', 't']
  else if c = '\n' then ['\\', 'n']
  else if c = '\r' then ['\\', 'r']
  else if c = '"' then ['\\', '"']
  else if c = '\\' then ['\\', '\\']
  else if isPrintable c && !isCombining c then [c]
  else codePointEscape c

/-- The text between double quotes. -/
def quoted (text : String) : String :=
  String.ofList ('"' :: (text.toList.flatMap quotedChar ++ ['"']))

end ContractHarness.Text
