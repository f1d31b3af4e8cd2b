/-! # Binary floating point — reading and writing 64-bit numbers exactly

    A finite number is `±m · 2^q` with `m < 2^53` and `-1074 ≤ q ≤ 971`.
    `Binary64.ofDecimal` takes the number nearest to a decimal one, a tie going to
    the even `m`.  `Binary64.display` writes the fewest digits that read back, the
    nearest of those, always with a point.  All arithmetic is on natural numbers. -/

namespace SourceBundle

/-- A 64-bit floating-point number. -/
inductive Binary64 where
  | finite (negative : Bool) (mantissa : Nat) (exponent : Int)
  | infinite (negative : Bool)
  | nan
  deriving DecidableEq, Repr

namespace Binary64

/-- The quotient rounded to the nearest integer, a tie to the even one. -/
def roundDiv (num den : Nat) : Nat :=
  let quotient := num / den
  let twice := 2 * (num % den)
  if den < twice || (den == twice && quotient % 2 == 1) then quotient + 1 else quotient

/-- Powers of a base with an exponent of either sign, as a fraction. -/
def powFraction (base : Nat) (e : Int) : Nat × Nat :=
  if 0 ≤ e then (base.pow e.toNat, 1) else (1, base.pow (-e).toNat)

/-- The least mantissa of a number with all its bits, `2^52`. -/
def fullMantissa : Nat := 0x10000000000000

/-- The number nearest to `num / den`. -/
def ofFraction (negative : Bool) (num den : Nat) : Binary64 :=
  if num = 0 then .finite negative 0 (-1074)
  else
    let guess : Int := (num.log2 : Int) - (den.log2 : Int) - 52
    let scaled (q : Int) : Nat × Nat :=
      let (up, down) := powFraction 2 q
      (num * down, den * up)
    let guess := if (scaled guess).1 < fullMantissa * (scaled guess).2 then guess - 1 else guess
    let q := max guess (-1074)
    let m := roundDiv (scaled q).1 (scaled q).2
    let (m, q) := if m = 2 * fullMantissa then (fullMantissa, q + 1) else (m, q)
    if 971 < q then .infinite negative else .finite negative m q

/-- The number nearest to `digits · 10^exponent`. Exponents far beyond the range are answered
    without computing the power. -/
def ofDecimal (negative : Bool) (digits : Nat) (exponent : Int) : Binary64 :=
  let size : Int := (Nat.toDigits 10 digits).length
  if digits = 0 || size + exponent < -330 then .finite negative 0 (-1074)
  else if 320 < size + exponent then .infinite negative
  else
    let (up, down) := powFraction 10 exponent
    ofFraction negative (digits * up) down

/-- A grid point `c · 10^k` that reads back as `m · 2^q`, the nearer of the two next to it. -/
def gridPoint? (m : Nat) (q : Int) (k : Int) : Option (Nat × Int) :=
  let (tenUp, tenDown) := powFraction 10 k
  let (twoUp, twoDown) := powFraction 2 (q - 2)
  let step := tenUp * twoDown
  let unit := twoUp * tenDown
  let value := 4 * m * unit
  let low := (if m = fullMantissa && -1074 < q then 4 * m - 1 else 4 * m - 2) * unit
  let high := (4 * m + 2) * unit
  let inside (x : Nat) : Bool :=
    0 < x && (if m % 2 == 0 then low ≤ x && x ≤ high else low < x && x < high)
  let c := value / step
  let (below, above) := (c * step, (c + 1) * step)
  match inside below, inside above with
  | true, true => if value - below ≤ above - value then some (c, k) else some (c + 1, k)
  | true, false => some (c, k)
  | false, true => some (c + 1, k)
  | false, false => none

/-- The shortest decimal `c · 10^k` that reads back: the coarsest grid with a point inside. -/
def shortest (m : Nat) (q : Int) : Nat × Int :=
  ((List.range 720).findSome? fun (i : Nat) => gridPoint? m q (330 - (i : Int))).getD (0, 0)

/-- A decimal number without exponent, with a point. -/
def positional (digits : Nat) (exponent : Int) : List Char :=
  let ds := Nat.toDigits 10 digits
  if 0 ≤ exponent then ds ++ List.replicate exponent.toNat '0' ++ ['.', '0']
  else
    let places := (-exponent).toNat
    let padded := List.replicate (places + 1 - ds.length) '0' ++ ds
    padded.take (padded.length - places) ++ '.' :: padded.drop (padded.length - places)

/-- The text of a number. -/
def display : Binary64 → String
  | .nan => "NaN"
  | .infinite negative => if negative then "-inf" else "inf"
  | .finite negative m q =>
      let (digits, exponent) := if m = 0 then (0, 0) else shortest m q
      String.ofList ((if negative then ['-'] else []) ++ positional digits exponent)

/-- One tenth has one digit, the smallest number too, and a tie is read to the even mantissa. -/
example : shortest 7205759403792794 (-56) = (1, -1) ∧ shortest 1 (-1074) = (5, -324)
    ∧ ofDecimal false 9007199254740993 0 = .finite false 4503599627370496 1 := by
  decide +kernel

end Binary64

end SourceBundle
