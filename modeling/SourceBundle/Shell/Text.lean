import SourceBundle.Text.Utf8

/-! # Texts of a shell — bytes as characters

    A shell knows no encoding: each character of a text stands for one byte.  This
    module holds that view of bytes, and the small readings of a text that the rest
    of the shell shares: names, blanks and whole numbers. -/

namespace SourceBundle.Shell

/-- A text as a shell sees it, each character one byte. -/
abbrev Text := List Char

/-- A byte as the character with its number. -/
def ofByte (b : UInt8) : Char := Char.ofNat b.toNat

/-- Bytes as characters. -/
def ofBytes (bytes : Bytes) : Text := bytes.map ofByte

/-- Characters as bytes, each character's number a byte. -/
def toBytes (text : Text) : Bytes := text.map fun c => UInt8.ofNat c.toNat

/-- The text of a string, character by character. -/
def text (s : String) : Text := s.toList

/-! ## Names -/

/-- May a name begin with the character? -/
def isNameStart (c : Char) : Bool := c.isAlpha || c == '_'

/-- May the character stand in a name? -/
def isNameChar (c : Char) : Bool := c.isAlphanum || c == '_'

/-- Is the text a name? -/
def isName : Text → Bool
  | [] => false
  | c :: rest => isNameStart c && rest.all isNameChar

/-- Does the character name a parameter of its own? -/
def isSpecialParameter (c : Char) : Bool :=
  c.isDigit || ['#', '?', '$', '!', '-', '*', '@'].contains c

/-! ## Blanks -/

/-- A space, a tab or a line feed. -/
def isDefaultBlank (c : Char) : Bool := c == ' ' || c == '\t' || c == '\n'

/-- A character that separates words for the system's own readers of numbers. -/
def isSpace (c : Char) : Bool := c == ' ' || ('\t' ≤ c && c ≤ '\r')

/-! ## Whole numbers -/

/-- The decimal text of a number. -/
def decimal (n : Int) : Text := (toString n).toList

/-- The value of a digit in a base up to 36. -/
def digitValue? (c : Char) : Option Nat :=
  if c.isDigit then some (c.toNat - 0x30)
  else if 'a' ≤ c ∧ c ≤ 'z' then some (c.toNat - 0x57)
  else if 'A' ≤ c ∧ c ≤ 'Z' then some (c.toNat - 0x37)
  else none

/-- Is the character a digit in the base? -/
def isDigitOf (base : Nat) (c : Char) : Bool :=
  match digitValue? c with
  | some d => d < base
  | none => false

/-- The number that digits stand for in a base. -/
def ofDigits (base : Nat) (digits : Text) : Nat :=
  digits.foldl (fun n c => n * base + (digitValue? c).getD 0) 0

/-- The largest and the least number of 64 bits. -/
def maxInteger : Int := 9223372036854775807

@[inherit_doc maxInteger]
def minInteger : Int := -9223372036854775808

/-- A number read from the front of a text. -/
structure Numeral where
  value : Int
  /-- Was the number written too large for 64 bits? The value is then the nearest that fits. -/
  overflow : Bool
  rest : Text

/-- The number at the front of a text, after blanks and with an optional sign; nothing if there
    is none. In base 0 the digits say their base: 16 after `0x`, 8 after `0`, else 10. -/
def numeral? (base : Nat) (s : Text) : Option Numeral :=
  let s := s.dropWhile isSpace
  let (negative, s) :=
    match s with
    | '-' :: rest => (true, rest)
    | '+' :: rest => (false, rest)
    | _ => (false, s)
  let hexadecimal : Option Text :=
    match s with
    | '0' :: x :: c :: rest =>
        if (x = 'x' ∨ x = 'X') ∧ (base = 0 ∨ base = 16) ∧ isDigitOf 16 c then some (c :: rest)
        else none
    | _ => none
  let (base, s) :=
    match hexadecimal with
    | some rest => (16, rest)
    | none => (if base ≠ 0 then base else if s.head? = some '0' then 8 else 10, s)
  let digits := s.takeWhile (isDigitOf base)
  if digits = [] then none
  else
    let n : Int := ofDigits base digits
    let n := if negative then -n else n
    let clamped := max minInteger (min maxInteger n)
    some ⟨clamped, n ≠ clamped, s.dropWhile (isDigitOf base)⟩

/-- The whole number a text is, blanks around it allowed; nothing if it is none or too large. -/
def wholeNumber? (base : Nat) (s : Text) : Option Int :=
  match numeral? base s with
  | some n => if n.overflow ∨ n.rest.any (! isSpace ·) then none else some n.value
  | none => none

end SourceBundle.Shell
