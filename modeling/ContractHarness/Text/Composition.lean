import ContractHarness.Text.CombiningClass
import ContractHarness.Text.CompositionTable

/-!
# Composed texts

A letter with its marks can be written as one character or as several, and so can a syllable of
Hangul. Of all the ways to write a text, one is the composed one: every character is taken apart,
the marks are put into the order of their classes, and what can stand as one character is put
together again. Characters that never stand in a composed text are not taken apart here.
-/

set_option autoImplicit false

namespace ContractHarness.Text

/-! ## Syllables of Hangul -/

/-- The first syllable. -/
def firstSyllable : Nat := 0xAC00

/-- The first consonant that a syllable can begin with. -/
def firstLead : Nat := 0x1100

/-- The first vowel of a syllable. -/
def firstVowel : Nat := 0x1161

/-- The code point before the first consonant that a syllable can end with. -/
def beforeTails : Nat := 0x11A7

/-- How many consonants a syllable can begin with. -/
def leadCount : Nat := 19

/-- How many vowels a syllable can have. -/
def vowelCount : Nat := 21

/-- How many consonants a syllable can end with, none of them included. -/
def tailCount : Nat := 28

/-- The code point is the one of a syllable. -/
def isSyllable (n : Nat) : Bool :=
  firstSyllable ≤ n && n < firstSyllable + leadCount * vowelCount * tailCount

/-- The pair that a syllable stands for: a shorter one and its last consonant, or two letters. -/
def syllablePair (n : Nat) : Nat × Nat :=
  let index := n - firstSyllable
  let tail := index % tailCount
  if tail = 0 then
    (firstLead + index / (vowelCount * tailCount),
      firstVowel + index % (vowelCount * tailCount) / tailCount)
  else (n - tail, beforeTails + tail)

/-- The syllable that a pair is written as. -/
def syllable? (a b : Nat) : Option Nat :=
  if firstLead ≤ a ∧ a < firstLead + leadCount ∧ firstVowel ≤ b ∧ b < firstVowel + vowelCount then
    some (firstSyllable + ((a - firstLead) * vowelCount + (b - firstVowel)) * tailCount)
  else if isSyllable a ∧ (a - firstSyllable) % tailCount = 0 ∧ beforeTails < b
      ∧ b < beforeTails + tailCount then
    some (a + (b - beforeTails))
  else none

/-! ## Taking apart and putting together -/

/-- The pair that a code point stands for. -/
def pair? (n : Nat) : Option (Nat × Nat) :=
  match compositions.lookup n with
  | some [a, b] => some (a, b)
  | _ => if isSyllable n then some (syllablePair n) else none

/-- The code point that a pair is written as. -/
def composite? (a b : Nat) : Option Nat :=
  match compositions.find? (·.2 == [a, b]) with
  | some (n, _) => some n
  | none => syllable? a b

/-- No character stands for more than a letter and this many marks. -/
def markLimit : Nat := 4

/-- What a code point stands for, taken apart so many times. -/
def parts : (times : Nat) → Nat → List Nat
  | 0, n => [n]
  | times + 1, n =>
    match pair? n with
    | some (a, b) => parts times a ++ [b]
    | none => [n]

/-- Puts a character in front of a text, behind the marks of lower classes there. -/
def insertMark (c : Char) : List Char → List Char
  | [] => [c]
  | d :: rest =>
    if combiningClass d ≠ 0 ∧ combiningClass d < combiningClass c then d :: insertMark c rest
    else c :: d :: rest

/-- The text with everything in it taken apart and the marks in order. -/
def decomposed (text : List Char) : List Char :=
  (text.flatMap fun c => (parts markLimit c.toNat).map Char.ofNat).foldr insertMark []

/-- The marks behind a letter keep it from a character behind them. -/
def areBetween (marks : List Char) (c : Char) : Bool :=
  match marks.getLast? with
  | some mark => combiningClass c ≤ combiningClass mark
  | none => false

/-- Puts a text together behind a letter and the marks that stay behind it. -/
def composeAfter (letter : Char) (marks : List Char) : List Char → List Char
  | [] => letter :: marks
  | c :: rest =>
    match if areBetween marks c then none else composite? letter.toNat c.toNat with
    | some n => composeAfter (Char.ofNat n) marks rest
    | none =>
      if combiningClass c = 0 then letter :: marks ++ composeAfter c [] rest
      else composeAfter letter (marks ++ [c]) rest

/-- Puts a text together. Marks that it begins with stay as they are. -/
def compose : List Char → List Char
  | [] => []
  | c :: rest => if combiningClass c = 0 then composeAfter c [] rest else c :: compose rest

/-- The composed form of a text. -/
def composed (text : List Char) : List Char :=
  compose (decomposed text)

end ContractHarness.Text
