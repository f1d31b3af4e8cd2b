/-! # UTF-8 — strict and forgiving decoding of bytes

    Text reaches the program as bytes that need not be well formed.  `Utf8.scalars`
    cuts a byte string into its characters and its *faults*, a fault being a longest
    run of bytes that starts a character and breaks off (or a single byte that
    starts none).  Two readings share that cut: `decode?` accepts only text without
    faults, and `decodeLossy` puts `�` for each fault. -/

namespace SourceBundle

/-- A byte string: source text, the bytes of a path, what a child process wrote. -/
abbrev Bytes := List UInt8

namespace Utf8

/-- The bytes of a text. -/
def encode (text : String) : Bytes :=
  text.toList.flatMap String.utf8EncodeChar

/-- What a first byte announces: how many bytes follow it, the range of the first of them,
    and the bits the first byte itself gives. -/
structure Lead where
  following : Nat
  low : UInt8
  high : UInt8
  bits : Nat

/-- The first bytes of characters of two and more bytes. The narrower ranges after `E0`,
    `ED`, `F0` and `F4` leave out long forms, surrogates and what lies beyond U+10FFFF. -/
def Lead.of? (b : UInt8) : Option Lead :=
  if 0xC2 ≤ b && b ≤ 0xDF then some ⟨1, 0x80, 0xBF, b.toNat - 0xC0⟩
  else if b == 0xE0 then some ⟨2, 0xA0, 0xBF, 0⟩
  else if b == 0xED then some ⟨2, 0x80, 0x9F, 0xD⟩
  else if 0xE1 ≤ b && b ≤ 0xEF then some ⟨2, 0x80, 0xBF, b.toNat - 0xE0⟩
  else if b == 0xF0 then some ⟨3, 0x90, 0xBF, 0⟩
  else if 0xF1 ≤ b && b ≤ 0xF3 then some ⟨3, 0x80, 0xBF, b.toNat - 0xF0⟩
  else if b == 0xF4 then some ⟨3, 0x80, 0x8F, 4⟩
  else none

/-- Read `n` following bytes, the first between `low` and `high`: the value they complete, or
    nothing if they break off, and the bytes not used. -/
def following : Nat → UInt8 → UInt8 → Nat → Bytes → Option Nat × Bytes
  | 0, _, _, value, rest => (some value, rest)
  | _ + 1, _, _, _, [] => (none, [])
  | n + 1, low, high, value, b :: rest =>
      if low ≤ b && b ≤ high then
        following n 0x80 0xBF (value * 64 + (b.toNat - 0x80)) rest
      else (none, b :: rest)

theorem length_following_le (n : Nat) (low high : UInt8) (value : Nat) (rest : Bytes) :
    (following n low high value rest).2.length ≤ rest.length := by
  induction rest generalizing n low high value with
  | nil => cases n <;> simp [following]
  | cons b rest ih =>
      cases n with
      | zero => simp [following]
      | succ n =>
          simp only [following]
          split
          · exact Nat.le_succ_of_le (ih ..)
          · simp

/-- The character that starts with byte `b`, or nothing for a fault, and the bytes after it. -/
def next (b : UInt8) (rest : Bytes) : Option Char × Bytes :=
  if b < 0x80 then (some (Char.ofNat b.toNat), rest)
  else match Lead.of? b with
    | none => (none, rest)
    | some lead =>
        let (value, rest) := following lead.following lead.low lead.high lead.bits rest
        (value.map Char.ofNat, rest)

theorem length_next_le (b : UInt8) (rest : Bytes) : (next b rest).2.length ≤ rest.length := by
  unfold next
  split
  · simp
  · split
    · simp
    · exact length_following_le ..

/-- The characters of a byte string in order, `none` standing for each fault. -/
def scalars : Bytes → List (Option Char)
  | [] => []
  | b :: rest => (next b rest).1 :: scalars (next b rest).2
termination_by bytes => bytes.length
decreasing_by exact Nat.lt_succ_of_le (length_next_le b rest)

/-- The text of well-formed bytes. -/
def decode? (bytes : Bytes) : Option String :=
  ((scalars bytes).mapM id).map String.ofList

/-- The text of any bytes, each fault read as U+FFFD. -/
def decodeLossy (bytes : Bytes) : String :=
  String.ofList ((scalars bytes).map (·.getD '\uFFFD'))

end Utf8

end SourceBundle
