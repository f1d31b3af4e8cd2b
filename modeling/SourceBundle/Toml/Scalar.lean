import SourceBundle.Toml.Text
import SourceBundle.Toml.Value

/-! # TOML scalars — numbers, booleans, dates and times

    A scalar other than a string is a word (`isWordChar`); a date may be followed by
    one space and a time.  Each kind of word is a grammar on its characters. -/

namespace SourceBundle.Toml

/-- The characters of words. -/
def isWordChar (c : Char) : Bool :=
  c.isAlphanum || c == '+' || c == '-' || c == '.' || c == '_' || c == ':'

/-! ## Numbers -/

/-- The digits of a number, where single underscores may stand between two of them. -/
def digits? (isDigit : Char → Bool) : List Char → Option (List Char)
  | [] => none
  | [c] => if isDigit c then some [c] else none
  | c :: '_' :: rest => if isDigit c then (digits? isDigit rest).map (c :: ·) else none
  | c :: rest => if isDigit c then (digits? isDigit rest).map (c :: ·) else none

/-- A number written in a base. -/
def numberIn (base : Nat) (digits : List Char) : Nat :=
  digits.foldl (fun n c => n * base + (hexValue? c).getD 0) 0

/-- A word without its sign, and whether the sign is a minus. -/
def splitSign : List Char → Bool × List Char
  | '+' :: rest => (false, rest)
  | '-' :: rest => (true, rest)
  | word => (false, word)

/-- The digits of a whole number in base 10: no zero in front of others. -/
def wholeDigits? (word : List Char) : Option (List Char) :=
  match word with
  | '0' :: _ :: _ => none
  | _ => digits? Char.isDigit word

/-- Is it a digit of this base, at most 16? -/
def isDigitOf (base : Nat) (c : Char) : Bool :=
  match hexValue? c with
  | some n => n < base
  | none => false

/-- An integer, which has to fit in 64 bits with sign. -/
def integer? (word : List Char) : Option Int := do
  let n : Int ←
    match word with
    | '0' :: 'x' :: rest => (digits? (isDigitOf 16) rest).map fun ds => (numberIn 16 ds : Int)
    | '0' :: 'o' :: rest => (digits? (isDigitOf 8) rest).map fun ds => (numberIn 8 ds : Int)
    | '0' :: 'b' :: rest => (digits? (isDigitOf 2) rest).map fun ds => (numberIn 2 ds : Int)
    | _ =>
        let (negative, rest) := splitSign word
        (wholeDigits? rest).map fun ds =>
          if negative then -(numberIn 10 ds : Int) else numberIn 10 ds
  if -0x8000000000000000 ≤ n ∧ n < 0x8000000000000000 then some n else none

/-- The exponent of a floating-point word, after its `e`. -/
def exponent? (word : List Char) : Option Int := do
  let (negative, rest) := splitSign word
  let ds ← digits? Char.isDigit rest
  return if negative then -(numberIn 10 ds : Int) else numberIn 10 ds

/-- A floating-point number. One too large is refused unless it is negative. -/
def float? (word : List Char) : Option Binary64 := do
  let (negative, rest) := splitSign word
  if rest = ['i', 'n', 'f'] then return .infinite negative
  if rest = ['n', 'a', 'n'] then return .nan
  let isE (c : Char) : Bool := c == 'e' || c == 'E'
  let mantissa := rest.takeWhile (! isE ·)
  let scale := rest.dropWhile (! isE ·)
  let whole ← wholeDigits? (mantissa.takeWhile (· ≠ '.'))
  let fraction ←
    match mantissa.dropWhile (· ≠ '.') with
    | [] => if scale = [] then none else some []
    | _ :: places => digits? Char.isDigit places
  let exponent ←
    match scale with
    | [] => some 0
    | _ :: places => exponent? places
  let x := Binary64.ofDecimal negative (numberIn 10 (whole ++ fraction))
    (exponent - (fraction.length : Int))
  if x = .infinite false then none else return x

/-! ## Dates and times -/

/-- Two digits as a number. -/
def twoDigits? (a b : Char) : Option Nat :=
  if a.isDigit && b.isDigit then some (numberIn 10 [a, b]) else none

/-- The days of a month. -/
def daysIn (year month : Nat) : Nat :=
  if month = 2 then
    if year % 4 = 0 ∧ (year % 100 ≠ 0 ∨ year % 400 = 0) then 29 else 28
  else if month = 4 ∨ month = 6 ∨ month = 9 ∨ month = 11 then 30
  else 31

/-- A date such as `1979-05-27`. -/
def isDate : List Char → Bool
  | [a, b, c, d, '-', m, m', '-', n, n'] =>
      match twoDigits? a b, twoDigits? c d, twoDigits? m m', twoDigits? n n' with
      | some century, some year, some month, some day =>
          1 ≤ month && month ≤ 12 && 1 ≤ day && day ≤ daysIn (century * 100 + year) month
      | _, _, _, _ => false
  | _ => false

/-- What follows `07:32` with an hour and a minute in range. -/
def afterHourMinute? : List Char → Option (List Char)
  | h :: h' :: ':' :: m :: m' :: rest =>
      match twoDigits? h h', twoDigits? m m' with
      | some hour, some minute => if hour ≤ 23 ∧ minute ≤ 59 then some rest else none
      | _, _ => none
  | _ => none

/-- What follows `07:32:00` or `07:32:00.5`; the second may be a leap second. -/
def afterTime? (word : List Char) : Option (List Char) :=
  match afterHourMinute? word with
  | some (':' :: s :: s' :: rest) =>
      match twoDigits? s s' with
      | some second =>
          if second ≤ 60 then
            match rest with
            | '.' :: d :: rest => if d.isDigit then some (rest.dropWhile Char.isDigit) else none
            | _ => some rest
          else none
      | none => none
  | _ => none

/-- A time such as `07:32:00`. -/
def isTime (word : List Char) : Bool :=
  afterTime? word == some []

/-- A time with or without `Z` or an offset such as `-07:00`. -/
def isTimeWithOffset (word : List Char) : Bool :=
  match afterTime? word with
  | some [] => true
  | some [c] => c == 'Z' || c == 'z'
  | some (c :: offset) => (c == '+' || c == '-') && afterHourMinute? offset == some []
  | none => false

/-- A date, `T` and a time in one word. -/
def isDateTime (word : List Char) : Bool :=
  isDate (word.take 10)
    && (match word.drop 10 with
        | c :: time => (c == 'T' || c == 't') && isTimeWithOffset time
        | [] => false)

/-! ## Words -/

/-- The value of a word. -/
def ofWord? (word : List Char) : Option Value :=
  if word = ['t', 'r', 'u', 'e'] then some (.boolean true)
  else if word = ['f', 'a', 'l', 's', 'e'] then some (.boolean false)
  else if isDate word || isDateTime word || isTime word then some .datetime
  else match float? word with
    | some x => some (.float x)
    | none => (integer? word).map .integer

/-- The scalar at the front of a text. -/
def readScalar : Reader Value := fun text =>
  let word := text.takeWhile isWordChar
  let rest := text.dropWhile isWordChar
  match rest with
  | ' ' :: next =>
      let time := next.takeWhile isWordChar
      if isDate word && isTimeWithOffset time then some (.datetime, next.dropWhile isWordChar)
      else (ofWord? word).map (·, rest)
  | _ => (ofWord? word).map (·, rest)

end SourceBundle.Toml
