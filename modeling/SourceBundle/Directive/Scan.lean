import SourceBundle.Directive

/-! # Scanning — the directives of a source

    A directive is `#`, a keyword in any letter case, one space, a path of at least
    one byte between quotes, and `;;`, all on one line.  The path ends at the first
    `";;` after its first byte.  `scan` goes through a source from left to right and
    takes a directive wherever one starts outside the ones already taken. -/

namespace SourceBundle

/-- The byte that ends a line. -/
def lineFeed : UInt8 := 0x0A

/-- The bytes that close a directive: quote, semicolon, semicolon. -/
def terminator : Bytes := [0x22, 0x3B, 0x3B]

/-- A byte with a capital letter of ASCII made small. -/
def lowerByte (b : UInt8) : UInt8 :=
  if 0x41 ≤ b && b ≤ 0x5A then b + 0x20 else b

/-- What follows `word` at the front of `bytes`; capital letters in `bytes` match small ones. -/
def dropWord : (word : Bytes) → (bytes : Bytes) → Option Bytes
  | [], bytes => some bytes
  | _ :: _, [] => none
  | w :: word, b :: bytes => if lowerByte b = w then dropWord word bytes else none

/-- The path at the front of `bytes` and what follows its terminator. The first byte belongs
    to the path whatever it is, unless it ends the line. -/
def takePath : (bytes : Bytes) → Option (Bytes × Bytes)
  | [] => none
  | b :: bytes =>
      if b = lineFeed then none
      else match dropWord terminator bytes with
        | some rest => some ([b], rest)
        | none => (takePath bytes).map fun (path, rest) => (b :: path, rest)

/-- A directive at the very front of some bytes. -/
structure Occurrence where
  kind : DirectiveKind
  path : Bytes
  rest : Bytes

/-- How many bytes a directive takes. -/
def Occurrence.length (o : Occurrence) : Nat :=
  o.kind.opening.length + o.path.length + terminator.length

/-- The directive of one kind at the front of `bytes`. -/
def occurrenceOf? (kind : DirectiveKind) (bytes : Bytes) : Option Occurrence := do
  let afterOpening ← dropWord kind.opening bytes
  let (path, rest) ← takePath afterOpening
  return ⟨kind, path, rest⟩

/-- The directive at the front of `bytes`. -/
def occurrence? (bytes : Bytes) : Option Occurrence :=
  occurrenceOf? .inline bytes <|> occurrenceOf? .link bytes

/-- A word takes as many bytes as it has. -/
theorem length_of_dropWord {word bytes rest : Bytes} (h : dropWord word bytes = some rest) :
    bytes.length = word.length + rest.length := by
  fun_induction dropWord word bytes with
  | case1 bytes =>
      obtain rfl := Option.some.inj h
      exact (Nat.zero_add _).symm
  | case3 word b bytes ih =>
      have hrest := ih h
      rw [List.length_cons, List.length_cons, hrest]
      omega
  | case2 | case4 => exact nomatch h

/-- A path and its terminator are cut off from what follows them. -/
theorem length_of_takePath {bytes path rest : Bytes} (h : takePath bytes = some (path, rest)) :
    bytes.length = path.length + terminator.length + rest.length := by
  fun_induction takePath bytes generalizing path rest with
  | case3 b bytes _ after hafter =>
      -- the path is this one byte, and its terminator was found
      obtain ⟨rfl, rfl⟩ := Prod.mk.inj (Option.some.inj h)
      have hlength := length_of_dropWord hafter
      rw [List.length_cons, List.length_singleton, hlength]
      omega
  | case4 b bytes _ _ ih =>
      obtain ⟨⟨path', rest'⟩, htail, heq⟩ := Option.map_eq_some_iff.1 h
      obtain ⟨rfl, rfl⟩ := Prod.mk.inj heq
      have hlength := ih htail
      rw [List.length_cons, List.length_cons, hlength]
      omega
  | case1 | case2 => exact nomatch h

/-- What follows a directive is shorter by its length. -/
theorem length_of_occurrenceOf? {kind : DirectiveKind} {bytes : Bytes} {o : Occurrence}
    (h : occurrenceOf? kind bytes = some o) : bytes.length = o.length + o.rest.length := by
  simp only [occurrenceOf?, bind, Option.bind_eq_some_iff, pure, Option.some.injEq] at h
  obtain ⟨after, hopen, ⟨path, rest⟩, hpath, rfl⟩ := h
  simp only [Occurrence.length]
  rw [length_of_dropWord hopen, length_of_takePath hpath]
  omega

theorem length_of_occurrence? {bytes : Bytes} {o : Occurrence}
    (h : occurrence? bytes = some o) : bytes.length = o.length + o.rest.length := by
  simp only [occurrence?, Option.orElse_eq_orElse, Option.orElse_eq_or, Option.or_eq_some_iff] at h
  rcases h with hinline | ⟨-, hlink⟩
  · exact length_of_occurrenceOf? hinline
  · exact length_of_occurrenceOf? hlink

/-- The terminator alone takes bytes. -/
theorem Occurrence.length_pos (o : Occurrence) : 0 < o.length := by
  simp [Occurrence.length, terminator]

/-- The directives of `bytes`, which stand at byte `start` and line `line` of a source. -/
def scanFrom (start line : Nat) (bytes : Bytes) : List Directive :=
  match h : occurrence? bytes with
  | some o =>
      { kind := o.kind, path := Utf8.decodeLossy o.path,
        start := start, stop := start + o.length, line := line }
        :: scanFrom (start + o.length) line o.rest
  | none =>
      match bytes with
      | [] => []
      | b :: rest => scanFrom (start + 1) (if b = lineFeed then line + 1 else line) rest
termination_by bytes.length
decreasing_by
  · have hlength := length_of_occurrence? h
    have hpos := o.length_pos
    omega
  · simp

/-- The directives of a source, in the order they stand in it. -/
def scan (source : Bytes) : List Directive :=
  scanFrom 0 1 source

end SourceBundle
