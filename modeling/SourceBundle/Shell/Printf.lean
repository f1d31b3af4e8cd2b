import SourceBundle.Number.Places
import SourceBundle.Shell.Text

/-! # Formats — what `printf` and `echo` write

    A format is read once into pieces (`Piece`): characters that stand for
    themselves and conversions that take an argument each.  `printed` goes through
    the pieces until the arguments are used up, and says besides the text what it
    has to complain about. -/

namespace SourceBundle.Shell

/-! ## Escapes -/

/-- A digit of base 8. -/
def isOctal (c : Char) : Bool := isDigitOf 8 c

/-- The character that up to three digits of base 8 number, as a byte, and what follows them. -/
def octalEscape (s : Text) : Char × Text :=
  let digits := (s.take 3).takeWhile isOctal
  (Char.ofNat (ofDigits 8 digits % 256), s.drop digits.length)

/-- The character an escape of one letter stands for. -/
def escapeOf? (c : Char) : Option Char :=
  ([('\\', '\\'), ('a', '\x07'), ('b', '\x08'), ('e', '\x1B'), ('f', '\x0C'), ('n', '\n'),
    ('r', '\r'), ('t', '\t'), ('v', '\x0B')] : List (Char × Char)).lookup c

/-- The character that a backslash and what follows it stand for, and the rest. A backslash that
    begins no escape stands for itself. -/
def escape (s : Text) : Char × Text :=
  match s with
  | [] => ('\\', [])
  | c :: rest =>
      if isOctal c then octalEscape s
      else match escapeOf? c with
        | some d => (d, rest)
        | none => ('\\', s)

/-- An argument with its escapes replaced, and whether one of them asked to stop there. Digits of
    base 8 may come after a zero. -/
def unescaped : (fuel : Nat) → Text → Text × Bool
  | 0, s => (s, false)
  | _, [] => ([], false)
  | fuel + 1, '\\' :: rest =>
      match rest with
      | 'c' :: _ => ([], true)
      | _ =>
          let digits : Text :=
            match rest with
            | '0' :: d :: _ => if isOctal d then rest.drop 1 else rest
            | _ => rest
          let (c, rest) := escape digits
          let (s, stop) := unescaped fuel rest
          (c :: s, stop)
  | fuel + 1, c :: rest =>
      let (s, stop) := unescaped fuel rest
      (c :: s, stop)

/-- The text that `echo` writes. -/
def echoText (args : List Text) : Text :=
  let (silentEnd, args) :=
    match args with
    | ['-', 'n'] :: args => (true, args)
    | args => (false, args)
  let joined := [' '].intercalate args
  let (s, stop) := unescaped joined.length joined
  if silentEnd || stop then s else s ++ ['\n']

/-! ## Formats -/

/-- A width or a precision: written in the format, or taken from the arguments. -/
inductive Amount where
  | number (n : Nat)
  | argument
  deriving DecidableEq, Repr

/-- How an argument is converted. -/
structure Conversion where
  /-- The conversion as it is written. -/
  written : Text
  flags : Text
  width : Option Amount
  precision : Option Amount
  kind : Char
  deriving DecidableEq, Repr

/-- A piece of a format. -/
inductive Piece where
  | char (c : Char)
  | conversion (c : Conversion)
  /-- The format ends inside a conversion. -/
  | broken
  deriving DecidableEq, Repr

/-- A width or precision at the front, and what follows it. -/
def amount? (s : Text) : Option Amount × Text :=
  match s with
  | '*' :: rest => (some .argument, rest.dropWhile Char.isDigit)
  | _ =>
      let digits := s.takeWhile Char.isDigit
      (if digits = [] then none else some (.number (ofDigits 10 digits)),
        s.drop digits.length)

/-- The conversion after a percent sign, and what follows it. -/
def conversion? (s : Text) : Option (Conversion × Text) :=
  let isFlag (c : Char) : Bool := ['#', '-', '+', ' ', '0'].contains c
  let flags := s.takeWhile isFlag
  let (width, rest) := amount? (s.drop flags.length)
  let (precision, rest) :=
    match rest with
    | '.' :: rest =>
        let (precision, rest) := amount? rest
        (some (precision.getD (.number 0)), rest)
    | _ => (none, rest)
  match rest with
  | [] => none
  | kind :: rest =>
      some (⟨'%' :: s.take (s.length - rest.length), flags, width, precision, kind⟩, rest)

/-- The pieces of a format. -/
def pieces : (fuel : Nat) → Text → List Piece
  | 0, _ => []
  | _, [] => []
  | fuel + 1, '\\' :: rest =>
      let (c, rest) := escape rest
      .char c :: pieces fuel rest
  | fuel + 1, '%' :: '%' :: rest => .char '%' :: pieces fuel rest
  | fuel + 1, '%' :: rest =>
      match conversion? rest with
      | some (c, rest) => .conversion c :: pieces fuel rest
      | none => [.broken]
  | fuel + 1, c :: rest => .char c :: pieces fuel rest

/-! ## Numbers -/

/-- How a number is laid out: flags, width and precision, all known. -/
structure Layout where
  left : Bool
  zeros : Bool
  plus : Bool
  space : Bool
  alternate : Bool
  width : Nat
  precision : Option Nat

namespace Layout

/-- A text padded with blanks to the width. -/
def pad (l : Layout) (s : Text) : Text :=
  let gap := List.replicate (l.width - s.length) ' '
  if l.left then s ++ gap else gap ++ s

/-- A number padded to the width: blanks around it, or zeros after what stands in front. -/
def padNumber (l : Layout) (zeros : Bool) (front digits : Text) : Text :=
  if zeros ∧ ¬ l.left then
    front ++ List.replicate (l.width - front.length - digits.length) '0' ++ digits
  else l.pad (front ++ digits)

/-- The sign of a number. -/
def sign (l : Layout) (negative : Bool) : Text :=
  if negative then ['-'] else if l.plus then ['+'] else if l.space then [' '] else []

/-- A whole number with at least as many digits as the precision asks for. -/
def whole (l : Layout) (front digits : Text) : Text :=
  let digits :=
    match l.precision with
    | some n =>
        if n = 0 ∧ digits = ['0'] then [] else List.replicate (n - digits.length) '0' ++ digits
    | none => digits
  l.padNumber (l.zeros && l.precision.isNone) front digits

/-- A whole number with its sign. -/
def signed (l : Layout) (n : Int) : Text :=
  l.whole (l.sign (n < 0)) (Nat.toDigits 10 n.natAbs)

/-- A number without a sign in the base that the letter asks for. -/
def unsigned (l : Layout) (kind : Char) (n : Nat) : Text :=
  if kind = 'o' then
    let digits := Nat.toDigits 8 n
    let digits :=
      if l.alternate ∧ n ≠ 0 ∧ (l.precision.getD 0 ≤ digits.length) then '0' :: digits else digits
    if l.alternate ∧ n = 0 ∧ l.precision = some 0 then l.padNumber false [] ['0']
    else l.whole [] digits
  else if kind = 'x' ∨ kind = 'X' then
    let digits := Nat.toDigits 16 n
    let front := if l.alternate ∧ n ≠ 0 then ['0', 'x'] else []
    let upper (s : Text) : Text := if kind = 'X' then s.map Char.toUpper else s
    l.whole (upper front) (upper digits)
  else l.whole [] (Nat.toDigits 10 n)

/-- A floating-point number in the form that the letter asks for. -/
def floating (l : Layout) (kind : Char) (x : Binary64) : Text :=
  let places := l.precision.getD 6
  let upper (s : Text) : Text := if kind.isUpper then s.map Char.toUpper else s
  let lower := kind.toLower
  match x with
  | .nan => upper (l.pad (l.sign false ++ text "nan"))
  | .infinite negative => upper (l.pad (l.sign negative ++ text "inf"))
  | .finite negative m q =>
      let digits :=
        if lower = 'f' then Binary64.fixed m q places l.alternate
        else if lower = 'e' then Binary64.scientific m q places l.alternate
        else if lower = 'g' then Binary64.general m q places l.alternate
        else Binary64.hexadecimal m q l.precision l.alternate
      let (front, digits) :=
        if lower = 'a' then (digits.take 2, digits.drop 2) else ([], digits)
      upper (l.padNumber l.zeros (l.sign negative ++ front) digits)

end Layout

/-- A floating-point number read from the front of a text. -/
structure FloatNumeral where
  value : Binary64
  /-- Was the number written too large, or too small for all its bits? -/
  outOfRange : Bool
  rest : Text

/-- The number at the front of a text without a sign, in base 10 with a power of ten after an
    `e`, or in base 16 with a power of two after a `p`. -/
def floatIn? (base : Nat) (negative : Bool) (s : Text) : Option FloatNumeral :=
  let whole := s.takeWhile (isDigitOf base)
  let rest := s.drop whole.length
  let (fraction, rest) :=
    match rest with
    | '.' :: after => (after.takeWhile (isDigitOf base), after.dropWhile (isDigitOf base))
    | _ => ([], rest)
  if whole = [] ∧ fraction = [] then none
  else
    let letter := if base = 16 then 'p' else 'e'
    let (exponent, rest) : Int × Text :=
      match rest with
      | e :: after =>
          let (minus, digits) :=
            match after with
            | '-' :: digits => (true, digits)
            | '+' :: digits => (false, digits)
            | digits => (false, digits)
          let ds := digits.takeWhile Char.isDigit
          if e.toLower = letter ∧ ds ≠ [] then
            let n : Int := ofDigits 10 ds
            (if minus then -n else n, digits.drop ds.length)
          else (0, rest)
      | [] => (0, [])
    let digits := ofDigits base (whole ++ fraction)
    let places := if base = 16 then 4 * fraction.length else fraction.length
    let power := max (-100000) (min 100000 (exponent - places))
    let (up, down) := Binary64.powFraction (if base = 16 then 2 else 10) power
    let value :=
      if base = 16 then Binary64.ofFraction negative (digits * up) down
      else Binary64.ofDecimal negative digits power
    let outOfRange : Bool :=
      match value with
      | .infinite _ => true
      | .finite _ m _ =>
          digits ≠ 0 && m < Binary64.fullMantissa
            && (m = 0 || digits * up * Nat.pow 2 1074 ≠ m * down)
      | .nan => false
    some ⟨value, outOfRange, rest⟩

/-- The floating-point number at the front of a text, after blanks and with an optional sign. -/
def floatNumeral? (s : Text) : Option FloatNumeral :=
  let s := s.dropWhile isSpace
  let (negative, s) :=
    match s with
    | '-' :: rest => (true, rest)
    | '+' :: rest => (false, rest)
    | _ => (false, s)
  let begins (word : String) : Bool := (s.take word.length).map Char.toLower == word.toList
  if begins "infinity" then some ⟨.infinite negative, false, s.drop 8⟩
  else if begins "inf" then some ⟨.infinite negative, false, s.drop 3⟩
  else if begins "nan" then some ⟨.nan, false, afterNote (s.drop 3)⟩
  else
    match s with
    | '0' :: x :: rest =>
        if x = 'x' ∨ x = 'X' then (floatIn? 16 negative rest).or (floatIn? 10 negative s)
        else floatIn? 10 negative s
    | _ => floatIn? 10 negative s
where
  /-- A text without the note in parentheses that may stand at its front. -/
  afterNote (s : Text) : Text :=
    match s with
    | '(' :: rest =>
        match rest.dropWhile isNameChar with
        | ')' :: after => after
        | _ => s
    | _ => s

/-! ## Printing -/

/-- Where the printing of a format stands. -/
structure Printing where
  /-- The text so far, the last character first. -/
  backward : Text
  args : List Text
  warnings : List Text
  /-- The complaint that ends the printing. -/
  failure : Option Text
  /-- Does an argument ask to stop, or a failure? -/
  stopped : Bool

/-- A step of printing. -/
abbrev Print := StateM Printing

namespace Print

/-- Print a text. -/
def put (s : Text) : Print Unit := modify fun p => { p with backward := s.reverse ++ p.backward }

/-- The next argument; nothing if there is none left. -/
def next? : Print (Option Text) := fun p =>
  match p.args with
  | [] => (none, p)
  | arg :: args => (some arg, { p with args := args })

/-- Complain, and go on. -/
def warn (message : Text) : Print Unit :=
  modify fun p => { p with warnings := p.warnings ++ [message] }

/-- Complain, and stop. -/
def fail (message : Text) : Print Unit :=
  modify fun p => { p with failure := some message, stopped := true }

/-- Complain if an argument is not a number to its end. -/
def check (arg rest : Text) (outOfRange : Bool) : Print Unit :=
  if rest = arg ∧ arg ≠ [] then warn (arg ++ text ": expected numeric value")
  else if rest ≠ [] then warn (arg ++ text ": not completely converted")
  else if outOfRange then warn (arg ++ text ": Numerical result out of range")
  else return ()

/-- The next argument as a whole number; a character after a quote stands for its number. -/
def integer (signed : Bool) : Print Int := do
  match ← next? with
  | none => return 0
  | some arg =>
      match arg with
      | q :: rest =>
          if q = '\'' ∨ q = '\x22' then return (rest.head?.map fun c => (c.toNat : Int)).getD 0
          else match numeral? 0 arg with
            | none => do
                check arg arg false
                return 0
            | some n => do
                let exact := exactValue arg n
                let overflow := if signed then n.overflow else exact.natAbs > maxUnsigned
                check arg n.rest overflow
                if signed then return n.value
                else if overflow then return maxUnsigned
                else return exact
      | [] => return 0
where
  /-- The largest number of 64 bits without a sign. -/
  maxUnsigned : Nat := 18446744073709551615
  /-- The number an argument writes, however large. -/
  exactValue (arg : Text) (n : Numeral) : Int :=
    if ! n.overflow then n.value
    else
      let written := (arg.take (arg.length - n.rest.length)).dropWhile isSpace
      let negative := written.head? = some '-'
      let digits := written.dropWhile fun c => c = '-' || c = '+'
      let value : Int :=
        match digits with
        | '0' :: x :: rest =>
            if x = 'x' ∨ x = 'X' then ofDigits 16 rest else ofDigits 8 (x :: rest)
        | digits => ofDigits 10 digits
      if negative then -value else value

/-- The next argument as a floating-point number. -/
def float : Print Binary64 := do
  match ← next? with
  | none => return .finite false 0 (-1074)
  | some arg =>
      match arg with
      | [] => return .finite false 0 (-1074)
      | q :: rest =>
          if q = '\'' ∨ q = '\x22' then
            return .ofFraction false ((rest.head?.map Char.toNat).getD 0) 1
          else match floatNumeral? arg with
            | none => do
                check arg arg false
                return .finite false 0 (-1074)
            | some n => do
                check arg n.rest n.outOfRange
                return n.value

/-- A width or precision; nothing if none is given. An argument is cut to 32 bits. -/
def amount : Option Amount → Print (Option Int)
  | none => return none
  | some (.number n) => return some n
  | some .argument => return some (Int.bmod (← integer true) 4294967296)

/-- Print one conversion. -/
def conversion (c : Conversion) : Print Unit := do
  let width ← amount c.width
  let precision ← amount c.precision
  let has (flag : Char) : Bool := c.flags.contains flag
  let width := width.getD 0
  let layout : Layout :=
    { left := has '-' || decide (width < 0), zeros := has '0', plus := has '+', space := has ' ',
      alternate := has '#', width := width.natAbs,
      precision := (precision.filter (0 ≤ ·)).map Int.toNat }
  let limited (s : Text) : Text := s.take (layout.precision.getD s.length)
  if c.kind = 's' then put (layout.pad (limited ((← next?).getD [])))
  else if c.kind = 'c' then
    put (layout.pad [((← next?).getD []).head?.getD '\x00'])
  else if c.kind = 'b' then
    let arg := (← next?).getD []
    let (s, stop) := unescaped arg.length arg
    put (layout.pad (limited s))
    if stop then modify fun p => { p with stopped := true }
  else if c.kind = 'd' ∨ c.kind = 'i' then put (layout.signed (← integer true))
  else if ['o', 'u', 'x', 'X'].contains c.kind then
    let n ← integer false
    put (layout.unsigned c.kind (if n < 0 then (n + 18446744073709551616).toNat else n.toNat))
  else if ['a', 'A', 'e', 'E', 'f', 'F', 'g', 'G'].contains c.kind then
    put (layout.floating c.kind (← float))
  else fail (c.written ++ text ": invalid directive")

/-- Print pieces, up to one that stops. -/
def all : List Piece → Print Unit
  | [] => return ()
  | piece :: rest => do
      match piece with
      | .char c => put [c]
      | .conversion c => conversion c
      | .broken => fail (text "missing format character")
      if (← get).stopped then return () else all rest

/-- Print pieces again until the arguments are used up. -/
def rounds (template : List Piece) (given : Nat) : (fuel : Nat) → Print Unit
  | 0 => return ()
  | fuel + 1 => do
      all template
      let p ← get
      if p.stopped ∨ p.args = [] ∨ p.args.length = given then return ()
      else rounds template given fuel

end Print

/-- What comes of a format and its arguments. -/
structure Printed where
  text : Text
  warnings : List Text
  failure : Option Text

/-- Print a format with arguments. -/
def printed (format : Text) (args : List Text) : Printed :=
  let start : Printing := ⟨[], args, [], none, false⟩
  let template := pieces (format.length + 1) format
  let (_, p) := (Print.rounds template args.length (args.length + 1)).run start
  ⟨p.backward.reverse, p.warnings, p.failure⟩

end SourceBundle.Shell
