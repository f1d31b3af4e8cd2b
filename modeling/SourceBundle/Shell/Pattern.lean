import SourceBundle.Shell.Text

/-! # Patterns — texts with wildcards

    A pattern fits a whole text.  `*` stands for any characters, `?` for one, and
    `[…]` for one of a set, with ranges, named classes and with `!` for all others;
    quoted characters and those after a backslash stand for themselves.  A pattern
    is read once (`Pattern.ofGlyphs`) and then compared item by item. -/

namespace SourceBundle.Shell

/-- A character of a pattern as it is written, and whether quotes make it stand for itself. -/
structure Glyph where
  quoted : Bool
  char : Char
  deriving DecidableEq, Repr

/-- What a set of characters is made of. -/
inductive Member where
  | range (low high : Char)
  | named (name : String)
  deriving DecidableEq, Repr

/-- A piece of a pattern. -/
inductive PatternItem where
  | literal (c : Char)
  | anyOne
  | anyMany
  | oneOf (negated : Bool) (members : List Member)
  deriving DecidableEq, Repr

/-- A pattern: its items in order. -/
abbrev Pattern := List PatternItem

/-! ## Comparing -/

/-- Where a character stands among all bytes: those from 128 on come first. -/
def byteRank (c : Char) : Int := if c.toNat < 128 then c.toNat else (c.toNat : Int) - 256

/-- The classes of characters with names; characters beyond ASCII belong to none. -/
def characterClasses : List (String × (Char → Bool)) :=
  [("alnum", Char.isAlphanum), ("alpha", Char.isAlpha), ("blank", fun c => c == ' ' || c == '\t'),
    ("cntrl", fun c => c.toNat < 0x20 || c.toNat == 0x7F), ("digit", Char.isDigit),
    ("graph", isVisible), ("lower", Char.isLower), ("print", fun c => c == ' ' || isVisible c),
    ("punct", fun c => isVisible c && !c.isAlphanum), ("space", isSpace),
    ("upper", Char.isUpper), ("xdigit", isDigitOf 16)]
where
  /-- Does the character show as something? -/
  isVisible (c : Char) : Bool := 0x20 < c.toNat && c.toNat < 0x7F

/-- Does a member of a set stand for the character? -/
def Member.fits (m : Member) (c : Char) : Bool :=
  match m with
  | .range low high => byteRank low ≤ byteRank c && byteRank c ≤ byteRank high
  | .named name =>
      match characterClasses.lookup name with
      | some isIn => isIn c
      | none => false

/-- Does an item that stands for one character stand for this one? -/
def PatternItem.fits (item : PatternItem) (c : Char) : Bool :=
  match item with
  | .literal d => c == d
  | .anyOne => true
  | .anyMany => false
  | .oneOf negated members => members.any (·.fits c) != negated

/-- The ends of a text, from the whole of it to the empty one. -/
def suffixes : Text → List Text
  | [] => [[]]
  | c :: rest => (c :: rest) :: suffixes rest

/-- Does the pattern fit the whole text? -/
def Pattern.fits : Pattern → Text → Bool
  | [], text => text.isEmpty
  | .anyMany :: items, text => (suffixes text).any (Pattern.fits items)
  | _ :: _, [] => false
  | item :: items, c :: rest => item.fits c && Pattern.fits items rest

/-! ## Reading -/

namespace Pattern

/-- Backslashes that are not quoted make the character after them stand for itself. -/
def dropBackslashes : List Glyph → List Glyph
  | ⟨false, '\\'⟩ :: g :: rest => ⟨true, g.char⟩ :: dropBackslashes rest
  | ⟨false, '\\'⟩ :: [] => [⟨true, '\\'⟩]
  | g :: rest => g :: dropBackslashes rest
  | [] => []

/-- The named class at the front, after its opening bracket. -/
def className? (glyphs : List Glyph) : Option (String × List Glyph) :=
  match glyphs with
  | ⟨_, ':'⟩ :: rest =>
      let name := rest.takeWhile fun g => g.char.isAlpha
      match rest.drop name.length with
      | ⟨_, ':'⟩ :: ⟨_, ']'⟩ :: after =>
          let name := String.ofList (name.map (·.char))
          if (characterClasses.lookup name).isSome then some (name, after) else none
      | _ => none
  | _ => none

/-- The members of a set and what follows its closing bracket. The first member may be a closing
    bracket itself. -/
def members? : (fuel : Nat) → (first : Bool) → List Glyph → Option (List Member × List Glyph)
  | 0, _, _ => none
  | _, _, [] => none
  | fuel + 1, first, g :: rest =>
      let more (m : Member) (rest : List Glyph) : Option (List Member × List Glyph) :=
        (members? fuel false rest).map fun (ms, rest) => (m :: ms, rest)
      if g = ⟨false, ']'⟩ ∧ ¬ first then some ([], rest)
      else match if g = ⟨false, '['⟩ then className? rest else none with
        | some (name, rest) => more (.named name) rest
        | none =>
            match rest with
            | ⟨false, '-'⟩ :: high :: after =>
                if high = ⟨false, ']'⟩ then more (.range g.char g.char) rest
                else more (.range g.char high.char) after
            | _ => more (.range g.char g.char) rest

/-- The set that an opening bracket begins, if it is closed. -/
def set? (glyphs : List Glyph) : Option (PatternItem × List Glyph) :=
  match glyphs with
  | ⟨false, '!'⟩ :: rest =>
      (members? (rest.length + 1) true rest).map fun (ms, rest) => (.oneOf true ms, rest)
  | _ => (members? (glyphs.length + 1) true glyphs).map fun (ms, rest) => (.oneOf false ms, rest)

/-- The items of a pattern without backslashes. -/
def items : (fuel : Nat) → List Glyph → Pattern
  | 0, _ => []
  | _, [] => []
  | fuel + 1, g :: rest =>
      if g = ⟨false, '*'⟩ then .anyMany :: items fuel rest
      else if g = ⟨false, '?'⟩ then .anyOne :: items fuel rest
      else if g = ⟨false, '['⟩ then
        match set? rest with
        | some (item, rest) => item :: items fuel rest
        | none => .literal '[' :: items fuel rest
      else .literal g.char :: items fuel rest

/-- The pattern that glyphs write. -/
def ofGlyphs (glyphs : List Glyph) : Pattern :=
  let glyphs := dropBackslashes glyphs
  items (glyphs.length + 1) glyphs

/-- Does the pattern hold anything but single characters that stand for themselves? -/
def isWild (p : Pattern) : Bool :=
  p.any fun item =>
    match item with
    | .literal _ => false
    | _ => true

/-- The text a pattern without wildcards stands for. -/
def plain (p : Pattern) : Text :=
  p.filterMap fun item =>
    match item with
    | .literal c => some c
    | _ => none

/-! ## Trimming -/

/-- A text without the shortest or longest part at one end that the pattern fits. -/
def trim (p : Pattern) (atEnd longest : Bool) (text : Text) : Text :=
  let cuts := List.range (text.length + 1)
  let cuts := if atEnd = longest then cuts else cuts.reverse
  let fitsAt (n : Nat) : Bool := p.fits (if atEnd then text.drop n else text.take n)
  match cuts.find? fitsAt with
  | none => text
  | some n => if atEnd then text.take n else text.drop n

/-- A pattern as it is written, sets of characters left out. -/
def written (p : Pattern) : Text :=
  p.map fun item =>
    match item with
    | .literal c => c
    | .anyOne => '?'
    | .anyMany => '*'
    | .oneOf _ _ => '['

/-- Characters that are marked as quoted where values stand between quotes. -/
def isMarked (c : Char) : Bool := (Shell.text "!*?[=~:/-\\").contains c

/-- Trim some values that stand in one text with NULs between them. A part of the text goes no
    further than a NUL, so a part at the front is looked for in the first value only. A part at
    the end is looked for from the end of the text on. If the first value holds marked
    characters, what is looked at is that value and the pattern before it, but what is cut is as
    far from the end of the text. -/
def trimJoined (p : Pattern) (atEnd longest quoted : Bool) (values : Text) : Text :=
  let fits (s : Text) : Bool := p.fits (s.takeWhile (· ≠ '\x00'))
  let first := values.takeWhile (· ≠ '\x00')
  let strays : Bool := quoted && first.any isMarked
  let before (n : Nat) : Bool :=
    fits (if atEnd then first.drop n else first.take n)
  let seen := if strays then values ++ '\x00' :: written p ++ '\x00' :: first else values
  let front := if strays then first else values
  let fromEnd (n : Nat) : Bool :=
    if atEnd then fits (seen.drop (seen.length - n))
    else fits (if n ≤ front.length then front.take (front.length - n) else front)
  let cut :=
    if atEnd = longest then (List.range (first.length + 1)).find? before
    else ((List.range (values.length + 1)).find? fromEnd).map (values.length - ·)
  match cut with
  | none => values
  | some n => if atEnd then values.take n else values.drop n

end Pattern

end SourceBundle.Shell
