/-! # Blanks — the Unicode property White_Space

    A backend's name is read without the blanks around it, and a shown command
    quotes the words that hold one.  Both mean the property White_Space of the
    Unicode Character Database. -/

namespace SourceBundle

/-- The characters with the Unicode property White_Space. -/
def isBlank (c : Char) : Bool :=
  let n := c.toNat
  (0x09 ≤ n && n ≤ 0x0D) || n == 0x20 || n == 0x85 || n == 0xA0 || n == 0x1680
    || (0x2000 ≤ n && n ≤ 0x200A) || n == 0x2028 || n == 0x2029 || n == 0x202F
    || n == 0x205F || n == 0x3000

/-- A text without the blanks at its two ends. -/
def trimBlanks (text : String) : String :=
  String.ofList ((text.toList.dropWhile isBlank).reverse.dropWhile isBlank).reverse

/-- A text with the capital letters of ASCII made small; other letters keep their case. -/
def lowerAscii (text : String) : String :=
  String.ofList (text.toList.map Char.toLower)

end SourceBundle
