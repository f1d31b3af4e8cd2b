import Mathlib
import SourceBundle.Path

/-! # Encoding — well-formed bytes are those a text is written with

    `Utf8.decode?` reads bytes one character at a time.  A character is read
    at the front exactly where its own bytes stand (`next_eq_some_iff`), so a
    byte string is text exactly when it is the encoding of one, and of that one
    only (`decode?_eq_some_iff`).

    All of it is arithmetic on the numbers of bytes; the ranges of the byte
    after a first byte are what keeps out long forms, surrogates and numbers
    too large. -/

namespace SourceBundle.Utf8

/-! ## Following bytes -/

/-- Without bytes to follow, the value is complete. -/
theorem following_zero_eq_some_iff {value v : Nat} {low high : UInt8}
    {bytes rest : Bytes} :
    following 0 low high value bytes = (some v, rest) ↔
      value = v ∧ bytes = rest := by
  simp [following]

/-- One more following byte is one in range, with the rest behind it. -/
theorem following_succ_eq_some_iff {n value v : Nat} {low high : UInt8}
    {bytes rest : Bytes} :
    following (n + 1) low high value bytes = (some v, rest) ↔
      ∃ b bytes', bytes = b :: bytes' ∧ low.toNat ≤ b.toNat ∧
        b.toNat ≤ high.toNat ∧
        following n 0x80 0xBF (value * 64 + (b.toNat - 0x80)) bytes'
          = (some v, rest) := by
  cases bytes with
  | nil => simp [following]
  | cons b bytes =>
      simp only [following, Bool.and_eq_true, decide_eq_true_eq,
        UInt8.le_iff_toNat_le]
      constructor
      · intro h
        split at h
        · next hrange => exact ⟨b, bytes, rfl, hrange.1, hrange.2, h⟩
        · cases h
      · rintro ⟨b', bytes', heq, hlow, hhigh, h⟩
        obtain ⟨rfl, rfl⟩ := List.cons.inj heq
        rw [if_pos ⟨hlow, hhigh⟩]
        exact h

/-- One byte follows, in the range that the lead allows. -/
theorem following_one_eq_some_iff {value v : Nat} {low high : UInt8}
    {bytes rest : Bytes} :
    following 1 low high value bytes = (some v, rest) ↔
      ∃ b, bytes = b :: rest ∧ low.toNat ≤ b.toNat ∧ b.toNat ≤ high.toNat ∧
        value * 64 + (b.toNat - 0x80) = v := by
  rw [following_succ_eq_some_iff]
  constructor
  · rintro ⟨b, bytes', rfl, hlow, hhigh, h⟩
    obtain ⟨hv, rfl⟩ := following_zero_eq_some_iff.mp h
    exact ⟨b, rfl, hlow, hhigh, hv⟩
  · rintro ⟨b, rfl, hlow, hhigh, hv⟩
    exact ⟨b, rest, rfl, hlow, hhigh, following_zero_eq_some_iff.mpr ⟨hv, rfl⟩⟩

/-- Two bytes follow; only the first has a range of its own. -/
theorem following_two_eq_some_iff {value v : Nat} {low high : UInt8}
    {bytes rest : Bytes} :
    following 2 low high value bytes = (some v, rest) ↔
      ∃ b₂ b₃, bytes = b₂ :: b₃ :: rest ∧
        low.toNat ≤ b₂.toNat ∧ b₂.toNat ≤ high.toNat ∧
        0x80 ≤ b₃.toNat ∧ b₃.toNat ≤ 0xBF ∧
        (value * 64 + (b₂.toNat - 0x80)) * 64 + (b₃.toNat - 0x80) = v := by
  rw [following_succ_eq_some_iff]
  constructor
  · rintro ⟨b₂, bytes', rfl, hlow, hhigh, h⟩
    obtain ⟨b₃, rfl, hlow₃, hhigh₃, hv⟩ := following_one_eq_some_iff.mp h
    exact ⟨b₂, b₃, rfl, hlow, hhigh, hlow₃, hhigh₃, hv⟩
  · rintro ⟨b₂, b₃, rfl, hlow, hhigh, hlow₃, hhigh₃, hv⟩
    exact ⟨b₂, _, rfl, hlow, hhigh,
      following_one_eq_some_iff.mpr ⟨b₃, rfl, hlow₃, hhigh₃, hv⟩⟩

/-- Three bytes follow; only the first has a range of its own. -/
theorem following_three_eq_some_iff {value v : Nat} {low high : UInt8}
    {bytes rest : Bytes} :
    following 3 low high value bytes = (some v, rest) ↔
      ∃ b₂ b₃ b₄, bytes = b₂ :: b₃ :: b₄ :: rest ∧
        low.toNat ≤ b₂.toNat ∧ b₂.toNat ≤ high.toNat ∧
        0x80 ≤ b₃.toNat ∧ b₃.toNat ≤ 0xBF ∧ 0x80 ≤ b₄.toNat ∧ b₄.toNat ≤ 0xBF ∧
        ((value * 64 + (b₂.toNat - 0x80)) * 64 + (b₃.toNat - 0x80)) * 64
          + (b₄.toNat - 0x80) = v := by
  rw [following_succ_eq_some_iff]
  constructor
  · rintro ⟨b₂, bytes', rfl, hlow, hhigh, h⟩
    obtain ⟨b₃, b₄, rfl, hlow₃, hhigh₃, hlow₄, hhigh₄, hv⟩ :=
      following_two_eq_some_iff.mp h
    exact ⟨b₂, b₃, b₄, rfl, hlow, hhigh, hlow₃, hhigh₃, hlow₄, hhigh₄, hv⟩
  · rintro ⟨b₂, b₃, b₄, rfl, hlow, hhigh, hlow₃, hhigh₃, hlow₄, hhigh₄, hv⟩
    exact ⟨b₂, _, rfl, hlow, hhigh, following_two_eq_some_iff.mpr
      ⟨b₃, b₄, rfl, hlow₃, hhigh₃, hlow₄, hhigh₄, hv⟩⟩

/-- What a first byte announces, in numbers. -/
theorem lead_of?_eq (b : UInt8) :
    Lead.of? b =
      if 0xC2 ≤ b.toNat ∧ b.toNat ≤ 0xDF then some ⟨1, 0x80, 0xBF, b.toNat - 0xC0⟩
      else if b.toNat = 0xE0 then some ⟨2, 0xA0, 0xBF, 0⟩
      else if b.toNat = 0xED then some ⟨2, 0x80, 0x9F, 0xD⟩
      else if 0xE1 ≤ b.toNat ∧ b.toNat ≤ 0xEF then some ⟨2, 0x80, 0xBF, b.toNat - 0xE0⟩
      else if b.toNat = 0xF0 then some ⟨3, 0x90, 0xBF, 0⟩
      else if 0xF1 ≤ b.toNat ∧ b.toNat ≤ 0xF3 then some ⟨3, 0x80, 0xBF, b.toNat - 0xF0⟩
      else if b.toNat = 0xF4 then some ⟨3, 0x80, 0x8F, 4⟩
      else none := by
  simp only [Lead.of?, Bool.and_eq_true, decide_eq_true_eq, beq_iff_eq,
    UInt8.le_iff_toNat_le, ← UInt8.toNat_inj, UInt8.reduceToNat]

/-! ## The bytes of a character -/

/-- A character's number is one a character can have. -/
theorem toNat_range (c : Char) :
    c.toNat < 0xD800 ∨ 0xDFFF < c.toNat ∧ c.toNat < 0x110000 := by
  have := c.valid
  simpa [UInt32.isValidChar, Nat.isValidChar] using this

/-- Outside the surrogates a number is one character. -/
theorem ofNat_eq_iff {n : Nat} {c : Char}
    (hn : n < 0xD800 ∨ 0xDFFF < n ∧ n < 0x110000) :
    Char.ofNat n = c ↔ c.toNat = n := by
  have hvalid : n.isValidChar := by simpa [Nat.isValidChar] using hn
  have hto : (Char.ofNat n).toNat = n := by
    simp [Char.ofNat, hvalid, Char.ofNatAux, Char.toNat]
  constructor
  · rintro rfl
    exact hto
  · rintro rfl
    exact Char.ofNat_toNat c

theorem val_toNat (c : Char) : c.val.toNat = c.toNat := rfl

/-- Characters below 128 are their own byte. -/
theorem encodeChar_one {c : Char} (hc : c.toNat < 0x80) :
    ∃ b, String.utf8EncodeChar c = [b] ∧ b.toNat = c.toNat := by
  refine ⟨UInt8.ofNat c.toNat, ?_, ?_⟩
  · simp only [String.utf8EncodeChar, val_toNat,
      if_pos (show c.toNat ≤ 0x7F by omega)]
  · rw [UInt8.toNat_ofNat']
    omega

/-- Two bytes hold eleven bits. -/
theorem encodeChar_two {c : Char} (hlow : 0x80 ≤ c.toNat)
    (hhigh : c.toNat < 0x800) :
    ∃ b₁ b₂, String.utf8EncodeChar c = [b₁, b₂] ∧
      b₁.toNat = 0xC0 + c.toNat / 64 ∧ b₂.toNat = 0x80 + c.toNat % 64 := by
  simp only [String.utf8EncodeChar, val_toNat,
    if_neg (show ¬ c.toNat ≤ 0x7F by omega),
    if_pos (show c.toNat ≤ 0x7FF by omega)]
  refine ⟨_, _, rfl, ?_, ?_⟩ <;> rw [UInt8.toNat_ofNat'] <;> omega

/-- Three bytes hold sixteen bits. -/
theorem encodeChar_three {c : Char} (hlow : 0x800 ≤ c.toNat)
    (hhigh : c.toNat < 0x10000) :
    ∃ b₁ b₂ b₃, String.utf8EncodeChar c = [b₁, b₂, b₃] ∧
      b₁.toNat = 0xE0 + c.toNat / 4096 ∧
      b₂.toNat = 0x80 + c.toNat / 64 % 64 ∧ b₃.toNat = 0x80 + c.toNat % 64 := by
  simp only [String.utf8EncodeChar, val_toNat,
    if_neg (show ¬ c.toNat ≤ 0x7F by omega),
    if_neg (show ¬ c.toNat ≤ 0x7FF by omega),
    if_pos (show c.toNat ≤ 0xFFFF by omega)]
  refine ⟨_, _, _, rfl, ?_, ?_, ?_⟩ <;> rw [UInt8.toNat_ofNat'] <;> omega

/-- Four bytes hold all the rest. -/
theorem encodeChar_four {c : Char} (hlow : 0x10000 ≤ c.toNat) :
    ∃ b₁ b₂ b₃ b₄, String.utf8EncodeChar c = [b₁, b₂, b₃, b₄] ∧
      b₁.toNat = 0xF0 + c.toNat / 262144 ∧
      b₂.toNat = 0x80 + c.toNat / 4096 % 64 ∧
      b₃.toNat = 0x80 + c.toNat / 64 % 64 ∧ b₄.toNat = 0x80 + c.toNat % 64 := by
  have hrange := toNat_range c
  simp only [String.utf8EncodeChar, val_toNat,
    if_neg (show ¬ c.toNat ≤ 0x7F by omega),
    if_neg (show ¬ c.toNat ≤ 0x7FF by omega),
    if_neg (show ¬ c.toNat ≤ 0xFFFF by omega)]
  refine ⟨_, _, _, _, rfl, ?_, ?_, ?_, ?_⟩ <;> rw [UInt8.toNat_ofNat'] <;> omega

/-! ## One character at the front -/

/-- A character comes from a byte of its own, or from a first byte and the
    bytes that follow it. -/
theorem next_eq_some_cases {b : UInt8} {bytes rest : Bytes} {c : Char} :
    next b bytes = (some c, rest) ↔
      (b.toNat < 0x80 ∧ c.toNat = b.toNat ∧ bytes = rest) ∨
      (0x80 ≤ b.toNat ∧ ∃ lead v, Lead.of? b = some lead ∧
        following lead.following lead.low lead.high lead.bits bytes = (some v, rest) ∧
        Char.ofNat v = c) := by
  have hlt : b < 0x80 ↔ b.toNat < 0x80 := by
    rw [UInt8.lt_iff_toNat_lt]
    rfl
  unfold next
  by_cases hb : b.toNat < 0x80
  · rw [if_pos (hlt.mpr hb)]
    simp only [Prod.mk.injEq, Option.some.injEq,
      ofNat_eq_iff (.inl (by omega : b.toNat < 0xD800)),
      hb, true_and, Nat.not_le.mpr hb, false_and, or_false]
  · rw [if_neg (fun h => hb (hlt.mp h))]
    simp only [hb, false_and, false_or, Nat.le_of_not_lt hb, true_and]
    cases hlead : Lead.of? b with
    | none => simp
    | some lead =>
        simp only
        constructor
        · intro h
          cases hfollow : following lead.following lead.low lead.high lead.bits bytes with
          | mk value rest' =>
              rw [hfollow] at h
              cases value with
              | none => exact nomatch h
              | some v =>
                  obtain ⟨hv, rfl⟩ := Prod.mk.inj h
                  exact ⟨lead, v, rfl, hfollow, Option.some.inj hv⟩
        · rintro ⟨lead', v, hlead', hfollow, rfl⟩
          obtain rfl := Option.some.inj hlead'
          rw [hfollow]
          rfl

/-- A lead with what has to follow is one character. -/
theorem next_of_lead {b : UInt8} {bytes rest : Bytes} {c : Char} {lead : Lead}
    (hb : 0x80 ≤ b.toNat) (hlead : Lead.of? b = some lead)
    (hfollow : following lead.following lead.low lead.high lead.bits bytes
      = (some c.toNat, rest)) : next b bytes = (some c, rest) :=
  next_eq_some_cases.mpr
    (.inr ⟨hb, lead, c.toNat, hlead, hfollow, Char.ofNat_toNat c⟩)

/-- Three bytes: the range of the second follows from that of the number. -/
theorem next_of_three {c : Char} {b₁ b₂ b₃ : UInt8} {rest : Bytes}
    (hlow : 0x800 ≤ c.toNat) (hb₁ : b₁.toNat = 0xE0 + c.toNat / 4096)
    (hb₂ : b₂.toNat = 0x80 + c.toNat / 64 % 64)
    (hb₃ : b₃.toNat = 0x80 + c.toNat % 64) (hhigh : c.toNat < 0x10000) :
    next b₁ (b₂ :: b₃ :: rest) = (some c, rest) := by
  have hrange := toNat_range c
  have hfollow : ∀ low high : UInt8, low.toNat ≤ b₂.toNat → b₂.toNat ≤ high.toNat →
      following 2 low high (b₁.toNat - 0xE0) (b₂ :: b₃ :: rest)
        = (some c.toNat, rest) := by
    intro low high hl hh
    exact following_two_eq_some_iff.mpr
      ⟨b₂, b₃, rfl, hl, hh, by omega, by omega, by omega⟩
  by_cases hE0 : b₁.toNat = 0xE0
  · have := hfollow 0xA0 0xBF (by show 0xA0 ≤ _; omega) (by show _ ≤ 0xBF; omega)
    rw [hE0] at this
    have hlead : Lead.of? b₁ = some ⟨2, 0xA0, 0xBF, 0⟩ := by
      rw [lead_of?_eq, if_neg (by omega), if_pos hE0]
    exact next_of_lead (by omega) hlead this
  by_cases hED : b₁.toNat = 0xED
  · have := hfollow 0x80 0x9F (by show 0x80 ≤ _; omega) (by show _ ≤ 0x9F; omega)
    rw [hED] at this
    have hlead : Lead.of? b₁ = some ⟨2, 0x80, 0x9F, 0xD⟩ := by
      rw [lead_of?_eq, if_neg (by omega), if_neg hE0, if_pos hED]
    exact next_of_lead (by omega) hlead this
  · have := hfollow 0x80 0xBF (by show 0x80 ≤ _; omega) (by show _ ≤ 0xBF; omega)
    have hlead : Lead.of? b₁ = some ⟨2, 0x80, 0xBF, b₁.toNat - 0xE0⟩ := by
      rw [lead_of?_eq, if_neg (by omega), if_neg hE0, if_neg hED, if_pos (by omega)]
    exact next_of_lead (by omega) hlead this

/-- Four bytes, in the same way. -/
theorem next_of_four {c : Char} {b₁ b₂ b₃ b₄ : UInt8} {rest : Bytes}
    (hlow : 0x10000 ≤ c.toNat) (hb₁ : b₁.toNat = 0xF0 + c.toNat / 262144)
    (hb₂ : b₂.toNat = 0x80 + c.toNat / 4096 % 64)
    (hb₃ : b₃.toNat = 0x80 + c.toNat / 64 % 64)
    (hb₄ : b₄.toNat = 0x80 + c.toNat % 64) :
    next b₁ (b₂ :: b₃ :: b₄ :: rest) = (some c, rest) := by
  have hrange := toNat_range c
  have hfollow : ∀ low high : UInt8, low.toNat ≤ b₂.toNat → b₂.toNat ≤ high.toNat →
      following 3 low high (b₁.toNat - 0xF0) (b₂ :: b₃ :: b₄ :: rest)
        = (some c.toNat, rest) := by
    intro low high hl hh
    exact following_three_eq_some_iff.mpr
      ⟨b₂, b₃, b₄, rfl, hl, hh, by omega, by omega, by omega, by omega, by omega⟩
  by_cases hF0 : b₁.toNat = 0xF0
  · have := hfollow 0x90 0xBF (by show 0x90 ≤ _; omega) (by show _ ≤ 0xBF; omega)
    rw [hF0] at this
    have hlead : Lead.of? b₁ = some ⟨3, 0x90, 0xBF, 0⟩ := by
      rw [lead_of?_eq, if_neg (by omega), if_neg (by omega), if_neg (by omega),
        if_neg (by omega), if_pos hF0]
    exact next_of_lead (by omega) hlead this
  by_cases hF4 : b₁.toNat = 0xF4
  · have := hfollow 0x80 0x8F (by show 0x80 ≤ _; omega) (by show _ ≤ 0x8F; omega)
    rw [hF4] at this
    have hlead : Lead.of? b₁ = some ⟨3, 0x80, 0x8F, 4⟩ := by
      rw [lead_of?_eq, if_neg (by omega), if_neg (by omega), if_neg (by omega),
        if_neg (by omega), if_neg hF0, if_neg (by omega), if_pos hF4]
    exact next_of_lead (by omega) hlead this
  · have := hfollow 0x80 0xBF (by show 0x80 ≤ _; omega) (by show _ ≤ 0xBF; omega)
    have hlead : Lead.of? b₁ = some ⟨3, 0x80, 0xBF, b₁.toNat - 0xF0⟩ := by
      rw [lead_of?_eq, if_neg (by omega), if_neg (by omega), if_neg (by omega),
        if_neg (by omega), if_neg hF0, if_pos (by omega)]
    exact next_of_lead (by omega) hlead this

/-- The bytes of a character are read as that character. -/
theorem next_of_encodeChar {b : UInt8} {bytes rest : Bytes} {c : Char}
    (h : b :: bytes = String.utf8EncodeChar c ++ rest) :
    next b bytes = (some c, rest) := by
  by_cases h₁ : c.toNat < 0x80
  · obtain ⟨b₁, he, hb₁⟩ := encodeChar_one h₁
    rw [he] at h
    obtain ⟨rfl, rfl⟩ := List.cons.inj h
    exact next_eq_some_cases.mpr (.inl ⟨by omega, hb₁.symm, rfl⟩)
  by_cases h₂ : c.toNat < 0x800
  · obtain ⟨b₁, b₂, he, hb₁, hb₂⟩ := encodeChar_two (Nat.le_of_not_lt h₁) h₂
    rw [he] at h
    obtain ⟨rfl, rfl⟩ := List.cons.inj h
    have hfollow : following 1 0x80 0xBF (b.toNat - 0xC0) (b₂ :: rest)
        = (some c.toNat, rest) :=
      following_one_eq_some_iff.mpr ⟨b₂, rfl, by show 0x80 ≤ _; omega,
        by show _ ≤ 0xBF; omega, by omega⟩
    have hlead : Lead.of? b = some ⟨1, 0x80, 0xBF, b.toNat - 0xC0⟩ := by
      rw [lead_of?_eq, if_pos (by omega)]
    exact next_of_lead (by omega) hlead hfollow
  by_cases h₃ : c.toNat < 0x10000
  · obtain ⟨b₁, b₂, b₃, he, hb₁, hb₂, hb₃⟩ :=
      encodeChar_three (Nat.le_of_not_lt h₂) h₃
    rw [he] at h
    obtain ⟨rfl, rfl⟩ := List.cons.inj h
    exact next_of_three (Nat.le_of_not_lt h₂) hb₁ hb₂ hb₃ h₃
  · obtain ⟨b₁, b₂, b₃, b₄, he, hb₁, hb₂, hb₃, hb₄⟩ :=
      encodeChar_four (Nat.le_of_not_lt h₃)
    rw [he] at h
    obtain ⟨rfl, rfl⟩ := List.cons.inj h
    exact next_of_four (Nat.le_of_not_lt h₃) hb₁ hb₂ hb₃ hb₄

/-- Two bytes that number a character are its bytes. -/
theorem encodeChar_of_following_one {value v : Nat} {b : UInt8} {bytes rest : Bytes}
    {c : Char} (hb : b.toNat = 0xC0 + value) (hlow : 2 ≤ value) (hhigh : value < 32)
    (hfollow : following 1 0x80 0xBF value bytes = (some v, rest))
    (hv : Char.ofNat v = c) : b :: bytes = String.utf8EncodeChar c ++ rest := by
  obtain ⟨b₂, rfl, hl, hh, heq⟩ := following_one_eq_some_iff.mp hfollow
  change 0x80 ≤ _ at hl
  change _ ≤ 0xBF at hh
  rw [ofNat_eq_iff (by omega)] at hv
  obtain ⟨a₁, a₂, he, ha₁, ha₂⟩ := encodeChar_two (c := c) (by omega) (by omega)
  obtain rfl : a₁ = b := UInt8.toNat_inj.mp (by omega)
  obtain rfl : a₂ = b₂ := UInt8.toNat_inj.mp (by omega)
  rw [he]
  rfl

/-- Three bytes that number a character are its bytes; the second has to keep
    the number from being short or a surrogate. -/
theorem encodeChar_of_following_two {value v : Nat} {b low high : UInt8}
    {bytes rest : Bytes} {c : Char} (hb : b.toNat = 0xE0 + value)
    (hvalue : value < 16)
    (hsecond : ∀ n, low.toNat ≤ n → n ≤ high.toNat → 0x80 ≤ n ∧ n ≤ 0xBF ∧
      0x20 ≤ value * 64 + (n - 0x80) ∧
      (value * 64 + (n - 0x80) < 0x360 ∨ 0x380 ≤ value * 64 + (n - 0x80)))
    (hfollow : following 2 low high value bytes = (some v, rest))
    (hv : Char.ofNat v = c) : b :: bytes = String.utf8EncodeChar c ++ rest := by
  obtain ⟨b₂, b₃, rfl, hl, hh, hl₃, hh₃, heq⟩ :=
    following_two_eq_some_iff.mp hfollow
  have hb₂ := hsecond b₂.toNat hl hh
  rw [ofNat_eq_iff (by omega)] at hv
  obtain ⟨a₁, a₂, a₃, he, ha₁, ha₂, ha₃⟩ :=
    encodeChar_three (c := c) (by omega) (by omega)
  obtain rfl : a₁ = b := UInt8.toNat_inj.mp (by omega)
  obtain rfl : a₂ = b₂ := UInt8.toNat_inj.mp (by omega)
  obtain rfl : a₃ = b₃ := UInt8.toNat_inj.mp (by omega)
  rw [he]
  rfl

/-- Four bytes that number a character are its bytes; the second has to keep
    the number from being short or too large. -/
theorem encodeChar_of_following_three {value v : Nat} {b low high : UInt8}
    {bytes rest : Bytes} {c : Char} (hb : b.toNat = 0xF0 + value)
    (hsecond : ∀ n, low.toNat ≤ n → n ≤ high.toNat → 0x80 ≤ n ∧ n ≤ 0xBF ∧
      0x10 ≤ value * 64 + (n - 0x80) ∧ value * 64 + (n - 0x80) < 0x110)
    (hfollow : following 3 low high value bytes = (some v, rest))
    (hv : Char.ofNat v = c) : b :: bytes = String.utf8EncodeChar c ++ rest := by
  obtain ⟨b₂, b₃, b₄, rfl, hl, hh, hl₃, hh₃, hl₄, hh₄, heq⟩ :=
    following_three_eq_some_iff.mp hfollow
  have hb₂ := hsecond b₂.toNat hl hh
  rw [ofNat_eq_iff (by omega)] at hv
  obtain ⟨a₁, a₂, a₃, a₄, he, ha₁, ha₂, ha₃, ha₄⟩ :=
    encodeChar_four (c := c) (by omega)
  obtain rfl : a₁ = b := UInt8.toNat_inj.mp (by omega)
  obtain rfl : a₂ = b₂ := UInt8.toNat_inj.mp (by omega)
  obtain rfl : a₃ = b₃ := UInt8.toNat_inj.mp (by omega)
  obtain rfl : a₄ = b₄ := UInt8.toNat_inj.mp (by omega)
  rw [he]
  rfl

/-- A character that is read stands there with its own bytes. -/
theorem encodeChar_of_next {b : UInt8} {bytes rest : Bytes} {c : Char}
    (h : next b bytes = (some c, rest)) :
    b :: bytes = String.utf8EncodeChar c ++ rest := by
  rcases next_eq_some_cases.mp h with ⟨hb, hc, rfl⟩ | ⟨-, lead, v, hlead, hfollow, hv⟩
  · obtain ⟨a, he, ha⟩ := encodeChar_one (c := c) (by omega)
    obtain rfl : a = b := UInt8.toNat_inj.mp (by omega)
    rw [he]
    rfl
  -- one case for each range of first bytes
  · rw [lead_of?_eq] at hlead
    split_ifs at hlead <;> obtain rfl := Option.some.inj hlead <;>
      simp only at hfollow
    · exact encodeChar_of_following_one (by omega) (by omega) (by omega) hfollow hv
    · refine encodeChar_of_following_two (by omega) (by omega) ?_ hfollow hv
      intro n (hl : 0xA0 ≤ n) (hh : n ≤ 0xBF)
      omega
    · refine encodeChar_of_following_two (by omega) (by omega) ?_ hfollow hv
      intro n (hl : 0x80 ≤ n) (hh : n ≤ 0x9F)
      omega
    · refine encodeChar_of_following_two (by omega) (by omega) ?_ hfollow hv
      intro n (hl : 0x80 ≤ n) (hh : n ≤ 0xBF)
      omega
    · refine encodeChar_of_following_three (by omega) ?_ hfollow hv
      intro n (hl : 0x90 ≤ n) (hh : n ≤ 0xBF)
      omega
    · refine encodeChar_of_following_three (by omega) ?_ hfollow hv
      intro n (hl : 0x80 ≤ n) (hh : n ≤ 0xBF)
      omega
    · refine encodeChar_of_following_three (by omega) ?_ hfollow hv
      intro n (hl : 0x80 ≤ n) (hh : n ≤ 0x8F)
      omega

/-- **ONE CHARACTER**: it is read at the front exactly where its bytes stand. -/
theorem next_eq_some_iff {b : UInt8} {bytes rest : Bytes} {c : Char} :
    next b bytes = (some c, rest) ↔
      b :: bytes = String.utf8EncodeChar c ++ rest :=
  ⟨encodeChar_of_next, next_of_encodeChar⟩

/-! ## A whole text -/

/-- Bytes are cut into characters without a fault exactly when they are those
    characters' bytes. -/
theorem scalars_eq_iff {bytes : Bytes} {text : List Char} :
    scalars bytes = text.map some ↔
      bytes = text.flatMap String.utf8EncodeChar := by
  induction text generalizing bytes with
  | nil =>
      cases bytes with
      | nil => simp [scalars]
      | cons b bytes => simp [scalars]
  | cons c text ih =>
      rw [List.flatMap_cons]
      cases bytes with
      | nil =>
          obtain ⟨a, tail, he⟩ :=
            List.exists_cons_of_ne_nil (String.utf8EncodeChar_ne_nil (c := c))
          simp [scalars, he]
      | cons b bytes =>
          rw [← next_eq_some_iff, scalars, List.map_cons]
          constructor
          · intro h
            obtain ⟨hc, hrest⟩ := List.cons.inj h
            exact Prod.ext hc (ih.mp hrest)
          · intro h
            rw [h]
            exact congrArg (some c :: ·) (ih.mpr rfl)

theorem mapM_id_eq_some_iff {α : Type} {l : List (Option α)} {xs : List α} :
    l.mapM id = some xs ↔ l = xs.map some := by
  induction l generalizing xs with
  | nil => cases xs <;> simp
  | cons x l ih =>
      cases x with
      | none => cases xs <;> simp [List.mapM_cons]
      | some a =>
          cases xs with
          | nil => simp [List.mapM_cons, Option.bind_eq_some_iff]
          | cons y xs =>
              simp only [List.mapM_cons, id, Option.bind_eq_bind, Option.bind_some,
                Option.pure_def, Option.bind_eq_some_iff, Option.some.injEq,
                List.cons.injEq, List.map_cons, ih]
              constructor
              · rintro ⟨ys, hys, rfl, rfl⟩
                exact ⟨rfl, hys⟩
              · rintro ⟨rfl, hxs⟩
                exact ⟨xs, hxs, rfl, rfl⟩

/-- **TEXT**: bytes decode to a text exactly when they are its encoding. -/
theorem decode?_eq_some_iff {bytes : Bytes} {text : String} :
    decode? bytes = some text ↔ bytes = encode text := by
  unfold decode? encode
  rw [Option.map_eq_some_iff]
  constructor
  · rintro ⟨cs, hcs, rfl⟩
    rw [String.toList_ofList]
    exact scalars_eq_iff.mp (mapM_id_eq_some_iff.mp hcs)
  · intro h
    exact ⟨text.toList, mapM_id_eq_some_iff.mpr (scalars_eq_iff.mpr h),
      String.ofList_toList⟩

/-- Nothing is lost where there is nothing to lose. -/
theorem decodeLossy_encode (text : String) : decodeLossy (encode text) = text := by
  have hscalars : scalars (encode text) = text.toList.map some := scalars_eq_iff.mpr rfl
  rw [decodeLossy, hscalars, List.map_map]
  simp

end SourceBundle.Utf8
