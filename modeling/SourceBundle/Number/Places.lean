import SourceBundle.Number.Binary64

/-! # Decimal places — binary numbers to a given number of digits

    The fixed, the scientific and the shorter of these two forms of a finite number
    `m · 2^q`, each rounded to the nearest with a tie to the even digit, and the
    exact form in base 16. Signs are left to the caller. -/

namespace SourceBundle

namespace Binary64

/-- A number's digits with as many places after the point. A point with nothing after it is
    written only on demand. -/
def withPoint (digits places : Nat) (point : Bool) : List Char :=
  let ds := Nat.toDigits 10 digits
  let ds := List.replicate (places + 1 - ds.length) '0' ++ ds
  let whole := ds.take (ds.length - places)
  if places = 0 ∧ ¬ point then whole else whole ++ '.' :: ds.drop (ds.length - places)

/-- The number as a whole multiple of `10^k`, rounded. -/
def multipleOf (m : Nat) (q k : Int) : Nat :=
  let (twoUp, twoDown) := powFraction 2 q
  let (tenUp, tenDown) := powFraction 10 k
  roundDiv (m * twoUp * tenDown) (twoDown * tenUp)

/-- The form without exponent. -/
def fixed (m : Nat) (q : Int) (places : Nat) (point : Bool) : List Char :=
  withPoint (multipleOf m q (-(places : Int))) places point

/-- Is the number at least `10^k`? -/
def reaches (m : Nat) (q k : Int) : Bool :=
  let (twoUp, twoDown) := powFraction 2 q
  let (tenUp, tenDown) := powFraction 10 k
  tenUp * twoDown ≤ m * twoUp * tenDown

/-- The greatest `k` with `10^k` at most the number; 0 for the number 0. -/
def decimalExponent (m : Nat) (q : Int) : Int :=
  if m = 0 then 0
  else
    let guess : Int := ((m.log2 : Int) + q) * 30103 / 100000 + 1
    if reaches m q guess then guess
    else if reaches m q (guess - 1) then guess - 1
    else guess - 2

/-- The digits of the scientific form, one of them before the point, and its exponent. -/
def scientificParts (m : Nat) (q : Int) (places : Nat) : Nat × Int :=
  let e := decimalExponent m q
  let digits := multipleOf m q (e - places)
  if Nat.pow 10 (places + 1) ≤ digits then (digits / 10, e + 1) else (digits, e)

/-- An exponent with its sign and at least two digits. -/
def exponentText (e : Int) : List Char :=
  let ds := Nat.toDigits 10 e.natAbs
  (if e < 0 then '-' else '+') :: (if ds.length < 2 then '0' :: ds else ds)

/-- The form with one digit before the point and an exponent. -/
def scientific (m : Nat) (q : Int) (places : Nat) (point : Bool) : List Char :=
  let (digits, e) := scientificParts m q places
  withPoint digits places point ++ 'e' :: exponentText e

/-- A number with its zeros after the point taken off, and the point if nothing is left. -/
def dropZeros (ds : List Char) : List Char :=
  if ds.contains '.' then
    let kept := ds.reverse.dropWhile (· = '0')
    (match kept with
      | '.' :: rest => rest
      | kept => kept).reverse
  else ds

/-- The fixed form, or for very large and small numbers the scientific one, with as many
    significant digits; zeros at the end are kept only on demand. -/
def general (m : Nat) (q : Int) (digits : Nat) (keepZeros : Bool) : List Char :=
  let digits := max digits 1
  let (ds, e) := scientificParts m q (digits - 1)
  let trimmed (ds : List Char) : List Char := if keepZeros then ds else dropZeros ds
  if -4 ≤ e ∧ e < digits then trimmed (fixed m q ((digits : Int) - 1 - e).toNat keepZeros)
  else trimmed (withPoint ds (digits - 1) keepZeros) ++ 'e' :: exponentText e

/-- The form in base 16, one digit before the point and a power of two after it. -/
def hexadecimal (m : Nat) (q : Int) (places : Option Nat) (point : Bool) : List Char :=
  let normal := fullMantissa ≤ m
  let e : Int := if m = 0 then 0 else q + 52
  let scaled (places : Nat) : Nat := roundDiv m (Nat.pow 16 (13 - places))
  let written (places : Nat) : List Char :=
    let ds := Nat.toDigits 16 (scaled places)
    let ds := List.replicate (places + 1 - ds.length) '0' ++ ds
    if places = 0 ∧ ¬ point then ds else ds.take 1 ++ '.' :: ds.drop 1
  let digits := match places with
    | some places => written (min places 13) ++ List.replicate (places - 13) '0'
    | none =>
        let ds := dropZeros (written 13)
        if point ∧ ¬ ds.contains '.' then ds ++ ['.'] else ds
  let e := if normal ∨ m = 0 then e else -1022
  let ds := Nat.toDigits 10 e.natAbs
  ['0', 'x'] ++ digits ++ 'p' :: (if e < 0 then '-' else '+') :: ds

/-- One and a half in each form, and a tie that goes to the even digit. -/
example :
    let m := 6755399441055744
    let q := -52
    fixed m q 2 false = "1.50".toList ∧ scientific m q 1 false = "1.5e+00".toList
      ∧ general m q 6 false = "1.5".toList ∧ fixed m q 0 true = "2.".toList
      ∧ hexadecimal m q none false = "0x1.8p+0".toList := by decide +kernel

end Binary64

end SourceBundle
