import SourceBundle.Text.Invisible

/-! # Escaped text — a text shown between quotes

    A message that shows a text as a value writes it between double quotes, with
    escapes for the quote, the backslash, tab, line feed, carriage return and NUL,
    and `\u{…}` for every other character without a visible form. -/

namespace SourceBundle

/-- The digits of a number in base 16, small letters. -/
def hexDigits (n : Nat) : List Char :=
  Nat.toDigits 16 n

/-- One character of a quoted text. -/
def escapeChar (c : Char) : List Char :=
  if c == '\x00' then ['\\', '0']
  else if c == '\t' then ['\\', 't']
  else if c == '\r' then ['\\', 'r']
  else if c == '\n' then ['\\', 'n']
  else if c == '\\' then ['\\', '\\']
  else if c == '\x22' then ['\\', '\x22']
  else if c.toNat < 0x20 || c.toNat == 0x7F || (0x7F < c.toNat && isInvisible c) then
    ['\\', 'u', '\x7b'] ++ hexDigits c.toNat ++ ['\x7d']
  else [c]

/-- A text between quotes, escaped. -/
def quoteEscaped (text : String) : String :=
  String.ofList ('\x22' :: text.toList.flatMap escapeChar ++ ['\x22'])

end SourceBundle
