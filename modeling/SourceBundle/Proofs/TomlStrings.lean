import Mathlib
import SourceBundle.Toml.Text

/-! # TOML strings — what is written is read back

    `writeText` has four forms to choose from, and `readText` tells them apart by
    the quotes at the front.  Three things could go wrong on the way back: an
    escape could name another character, quotes of the text could run into the
    closing ones, and a line end after three opening quotes could be lost.  None
    does (`readText_writeText`):

    * each character is written as itself or as an escape that reads back
      (`Writes`, `writes_writeEscaped`);
    * inside three quotes there are never more than two in a row (`FewQuotes`),
      and the closing quotes are found behind them (`readClosing_of_fewQuotes`);
    * a text with a line end gets one more in front, and a text without one
      starts with none (`dropLineEnd_of_not_mem`). -/

namespace SourceBundle.Toml

/-! ## Characters and escapes -/

/-- The escape of a character below `0x80` by its number is read back. -/
theorem codePoint?_hexDigit : ∀ n < 0x80,
    codePoint? ['0', '0', hexDigit (n / 16), hexDigit (n % 16)] =
      some (Char.ofNat n) := by
  decide +kernel

/-- Only ASCII needs an escape. -/
theorem lt_of_needsEscape {c : Char} (h : needsEscape c = true) : c.toNat < 0x80 := by
  simp [needsEscape] at h
  omega

/-- What no escape is needed for is a line feed or stands for itself. -/
theorem isPlain_of_not_needsEscape {c : Char} (h : needsEscape c = false) :
    c = '\n' ∨ isPlain c = true := by
  simp [needsEscape] at h
  simp [isPlain]
  by_cases htab : c = '\t'
  · exact .inr (.inl htab)
  · by_cases hline : c = '\n'
    · exact .inl hline
    · have hlow : 0x20 ≤ c.toNat := by
        by_contra hlow
        exact hline (h.1 (by omega) htab)
      exact .inr (.inr ⟨hlow, h.2⟩)

theorem ne_return_of_plain {c : Char} (h : c = '\n' ∨ isPlain c = true) :
    c ≠ '\r' := by
  rintro rfl
  revert h
  decide

/-- `Writes c written`: between double quotes, `written` stands for `c`. -/
inductive Writes (c : Char) : List Char → Prop
  /-- A character that stands for itself. -/
  | itself (hquote : c ≠ doubleQuote) (hslash : c ≠ '\\')
      (hplain : c = '\n' ∨ isPlain c = true) : Writes c [c]
  /-- An escape, which is not a backslash at the end of a line. -/
  | escape (letter : Char) (tail : List Char) (hgap : isGap letter = false)
      (hfeed : letter ≠ '\n') (hreturn : letter ≠ '\r')
      (hread : ∀ more, readEscape (letter :: (tail ++ more)) = some (c, more)) :
      Writes c ('\\' :: letter :: tail)

/-- An escape of one letter. -/
theorem Writes.short {c letter : Char} (hu : letter ≠ 'u') (hU : letter ≠ 'U')
    (hgap : isGap letter = false) (hfeed : letter ≠ '\n') (hreturn : letter ≠ '\r')
    (h : shortEscape? letter = some c) : Writes c ['\\', letter] := by
  refine .escape letter [] hgap hfeed hreturn ?_
  intro more
  simp [readEscape, hu, hU, h]

theorem writes_doubleQuote : Writes doubleQuote ['\\', doubleQuote] := by
  apply Writes.short <;> decide

theorem writes_lineFeed : Writes '\n' ['\\', 'n'] := by
  apply Writes.short <;> decide

/-- An escape by number. -/
theorem writes_codePoint {c : Char} (h : needsEscape c = true) :
    Writes c ['\\', 'u', '0', '0', hexDigit (c.toNat / 16), hexDigit (c.toNat % 16)] := by
  refine .escape 'u' _ (by decide) (by decide) (by decide) ?_
  intro more
  have hcode := codePoint?_hexDigit c.toNat (lt_of_needsEscape h)
  rw [Char.ofNat_toNat] at hcode
  simp [readEscape, hcode]

/-- Every character other than the quote is written so that it reads back. -/
theorem writes_writeEscaped {c : Char} (hquote : c ≠ doubleQuote) :
    Writes c (writeEscaped c) := by
  unfold writeEscaped
  split_ifs with hb ht hf hr hslash hcontrol
  · subst hb
    apply Writes.short <;> decide
  · subst ht
    apply Writes.short <;> decide
  · subst hf
    apply Writes.short <;> decide
  · subst hr
    apply Writes.short <;> decide
  · subst hslash
    apply Writes.short <;> decide
  · exact writes_codePoint hcontrol
  · exact .itself hquote hslash
      (isPlain_of_not_needsEscape (eq_false_of_ne_true hcontrol))

/-- What is written for a character starts neither with a quote nor, but for a
    line feed, with a line end. -/
theorem Writes.exists_cons {c : Char} {written : List Char} (h : Writes c written) :
    ∃ d tail, written = d :: tail ∧
      d ≠ doubleQuote ∧ d ≠ '\r' ∧ (d = '\n' → c = '\n') := by
  cases h with
  | itself hquote hslash hplain =>
      exact ⟨c, [], rfl, hquote, ne_return_of_plain hplain, id⟩
  | escape letter tail hgap hfeed hreturn hread =>
      exact ⟨'\\', letter :: tail, rfl, by decide, by decide,
        fun hslash => absurd hslash (by decide)⟩

/-! ## Between double quotes -/

/-- One written character on one line. -/
theorem readBasic_of_writes {c : Char} {written : List Char} (h : Writes c written)
    (hline : written ≠ ['\n']) (more : List Char) :
    readBasic (written ++ more) = push c (readBasic more) := by
  cases h with
  | itself hquote hslash hplain =>
      have hself : isPlain c = true := by
        rcases hplain with rfl | hplain
        · exact absurd rfl hline
        · exact hplain
      rw [List.singleton_append, readBasic, if_neg hquote, if_neg hslash, if_pos hself]
  | escape letter tail hgap hfeed hreturn hread =>
      rw [List.cons_append, List.cons_append, readBasic, if_neg (by decide), if_pos rfl,
        hread]

/-- The one-line escaped form is read back, for every text. -/
theorem readBasic_writeBasic (text rest : List Char) :
    readBasic (writeBasic text ++ doubleQuote :: rest) = some (text, rest) := by
  induction text with
  | nil => rw [writeBasic, List.nil_append, readBasic, if_pos rfl]
  | cons c text ih =>
      rw [writeBasic, List.append_assoc]
      split_ifs with hquote hfeed
      · rw [hquote, readBasic_of_writes writes_doubleQuote (by decide), ih]
        rfl
      · rw [hfeed, readBasic_of_writes writes_lineFeed (by decide), ih]
        rfl
      · have hwrites := writes_writeEscaped hquote
        have hline : writeEscaped c ≠ ['\n'] := by
          obtain ⟨d, tail, hwritten, -, -, honly⟩ := hwrites.exists_cons
          rw [hwritten]
          intro heq
          exact hfeed (honly (List.cons.inj heq).1)
        rw [readBasic_of_writes hwrites hline, ih]
        rfl

/-- One written character on any line. -/
theorem readMultiline_of_writes {c : Char} {written : List Char}
    (h : Writes c written) (more : List Char) :
    readMultiline false (written ++ more) = push c (readMultiline false more) := by
  cases h with
  | itself hquote hslash hplain =>
      have hreturn := ne_return_of_plain hplain
      have hself : (decide (c = '\n') || isPlain c) = true := by simpa using hplain
      rw [List.singleton_append, readMultiline.eq_def]
      simp only [Bool.false_and, Bool.false_eq_true, if_false, if_neg hreturn,
        if_neg hquote, if_neg hslash, if_pos hself]
  | escape letter tail hgap hfeed hreturn hread =>
      have hline : atLineEnd ((letter :: (tail ++ more)).dropWhile isGap) = false := by
        rw [List.dropWhile_cons_of_neg (by simp [hgap])]
        unfold atLineEnd
        split
        · next heq => exact absurd (List.cons.inj heq).1 hfeed
        · next heq => exact absurd (List.cons.inj heq).1 hreturn
        · rfl
      rw [List.cons_append, List.cons_append, readMultiline.eq_def]
      simp only [Bool.false_and, Bool.false_eq_true, if_false, hline,
        show '\\' ≠ '\r' by decide, show '\\' ≠ doubleQuote by decide, if_true]
      split
      · next hnone => cases (hread more).symm.trans hnone
      · next e rest hsome =>
          obtain ⟨rfl, rfl⟩ := Prod.mk.inj (Option.some.inj ((hread more).symm.trans hsome))
          rfl

/-! ## Quotes in a row -/

/-- `FewQuotes quote n text`: `text` starts with at most `n` quotes. -/
inductive FewQuotes (quote : Char) : Nat → List Char → Prop
  | nil {n : Nat} : FewQuotes quote n []
  | other {n : Nat} {c : Char} {text : List Char} (h : c ≠ quote) :
      FewQuotes quote n (c :: text)
  | quote {n : Nat} {text : List Char} (h : FewQuotes quote n text) :
      FewQuotes quote (n + 1) (quote :: text)

/-- A text with few quotes in a row has few for every larger number. -/
theorem FewQuotes.mono {quote : Char} {n m : Nat} {text : List Char}
    (h : FewQuotes quote n text) (hle : n ≤ m) : FewQuotes quote m text := by
  induction h generalizing m with
  | nil => exact .nil
  | other h => exact .other h
  | quote h ih =>
      obtain ⟨m, rfl⟩ : ∃ k, m = k + 1 := ⟨m - 1, by omega⟩
      exact .quote (ih (by omega))

/-- Fewer than three quotes close nothing. -/
theorem readClosing_eq_none {quote : Char} {text : List Char}
    (h : ∀ rest, text ≠ tripled quote ++ rest) : readClosing quote text = none := by
  unfold readClosing
  split
  · next a b c rest =>
      rw [if_neg]
      rintro ⟨rfl, rfl, rfl⟩
      exact h rest rfl
  · rfl

/-- Behind at most two quotes of the text the closing quotes are found exactly
    if nothing else of the text is left. -/
theorem readClosing_of_fewQuotes {quote : Char} {text rest : List Char}
    (h : FewQuotes quote 2 text) (hrest : rest.head? ≠ some quote) :
    readClosing quote (text ++ (tripled quote ++ rest)) =
      if text.all (· == quote) then some (text, rest) else none := by
  have hnext : ∀ d tail, rest = d :: tail → d ≠ quote := by
    rintro d tail rfl rfl
    exact hrest rfl
  -- no quote, one or two, and behind them the end of the text or something else
  cases h with
  | nil =>
      cases rest with
      | nil => simp [readClosing, tripled]
      | cons d tail =>
          have hd := hnext d tail rfl
          cases tail with
          | nil => simp [readClosing, tripled, hd]
          | cons e tail => simp [readClosing, tripled, hd]
  | other hc =>
      rw [readClosing_eq_none (by simp [tripled, hc])]
      simp [hc]
  | quote h =>
      cases h with
      | nil =>
          cases rest with
          | nil => simp [readClosing, tripled]
          | cons d tail => simp [readClosing, tripled, hnext d tail rfl]
      | other hc =>
          rw [readClosing_eq_none (by simp [tripled, hc])]
          simp [hc]
      | quote h =>
          cases h with
          | nil => simp [readClosing, tripled]
          | other hc =>
              rw [readClosing_eq_none (by simp [tripled, hc])]
              simp [hc]

/-! ## Between three double quotes -/

/-- With `run` quotes in front, at most two, no third one is written. -/
theorem fewQuotes_writeMultiline {run : Nat} (hrun : run ≤ 2) (text : List Char) :
    FewQuotes doubleQuote (2 - run) (writeMultiline run text) := by
  induction text generalizing run with
  | nil => exact .nil
  | cons c text ih =>
      rw [writeMultiline]
      split_ifs with hquote hthird
      · exact .other (by decide)
      · obtain ⟨n, hn⟩ : ∃ n, 2 - run = n + 1 := ⟨1 - run, by omega⟩
        rw [hn]
        refine .quote ?_
        have hfew := ih (show run + 1 ≤ 2 by omega)
        rwa [show 2 - (run + 1) = n by omega] at hfew
      · obtain ⟨d, tail, hwritten, hd, -, -⟩ := (writes_writeEscaped hquote).exists_cons
        rw [hwritten]
        exact .other hd

/-- Only a text of quotes is written as quotes alone, and then as itself. -/
theorem writeMultiline_eq_self (run : Nat) (text : List Char)
    (h : ∀ d ∈ writeMultiline run text, d = doubleQuote) :
    writeMultiline run text = text := by
  induction text generalizing run with
  | nil => rfl
  | cons c text ih =>
      rw [writeMultiline] at h ⊢
      split_ifs at h ⊢ with hquote hthird
      · exact absurd (h '\\' List.mem_cons_self) (by decide)
      · rw [hquote, ih (run + 1) fun d hd => h d (List.mem_cons_of_mem _ hd)]
      · obtain ⟨d, tail, hwritten, hd, -, -⟩ := (writes_writeEscaped hquote).exists_cons
        rw [hwritten] at h
        exact absurd (h d List.mem_cons_self) hd

/-- At a quote the closing quotes are looked for first. -/
theorem readMultiline_quote (text : List Char) :
    readMultiline false (doubleQuote :: text) =
      (readClosing doubleQuote (doubleQuote :: text)).or
        (push doubleQuote (readMultiline false text)) := by
  rw [readMultiline.eq_def]
  simp only [Bool.false_and, Bool.false_eq_true, if_false,
    show doubleQuote ≠ '\r' by decide, if_true]
  cases readClosing doubleQuote (doubleQuote :: text) <;> rfl

/-- The escaped form with three quotes is read back, for every text. -/
theorem readMultiline_writeMultiline {run : Nat} (hrun : run ≤ 2) (text : List Char)
    {rest : List Char} (hrest : rest.head? ≠ some doubleQuote) :
    readMultiline false (writeMultiline run text ++ (tripled doubleQuote ++ rest)) =
      some (text, rest) := by
  -- `run` quotes in front are part of the induction, for they decide what is escaped
  induction text generalizing run with
  | nil =>
      have hnone : FewQuotes doubleQuote 2 [] := .nil
      have hclose := readClosing_of_fewQuotes hnone hrest
      rw [if_pos (by simp), List.nil_append, tripled, List.cons_append] at hclose
      rw [writeMultiline, List.nil_append, tripled, List.cons_append,
        readMultiline_quote, hclose]
      rfl
  | cons c text ih =>
      by_cases hquote : c = doubleQuote
      · subst hquote
        by_cases hthird : run = 2
        · rw [writeMultiline, if_pos rfl, if_pos hthird]
          have hread := readMultiline_of_writes writes_doubleQuote
            (writeMultiline 0 text ++ (tripled doubleQuote ++ rest))
          rw [ih (by omega)] at hread
          exact hread
        · have hfew := fewQuotes_writeMultiline hrun (doubleQuote :: text)
          have hself := writeMultiline_eq_self run (doubleQuote :: text)
          rw [writeMultiline, if_pos rfl, if_neg hthird] at hfew hself ⊢
          have hclose := readClosing_of_fewQuotes (hfew.mono (by omega)) hrest
          rw [List.cons_append] at hclose ⊢
          rw [readMultiline_quote, hclose]
          split_ifs with hall
          · rw [hself (by simpa using hall)]
            rfl
          · rw [ih (by omega)]
            rfl
      · rw [writeMultiline, if_neg hquote, List.append_assoc,
          readMultiline_of_writes (writes_writeEscaped hquote), ih (by omega)]
        rfl

/-! ## Between single quotes -/

/-- The one-line literal form is read back. -/
theorem readLiteral_self {text : List Char}
    (htext : ∀ c ∈ text, c ≠ singleQuote ∧ isPlain c = true) (rest : List Char) :
    readLiteral (text ++ singleQuote :: rest) = some (text, rest) := by
  induction text with
  | nil => rfl
  | cons c text ih =>
      obtain ⟨hquote, hplain⟩ := htext c List.mem_cons_self
      rw [List.cons_append, readLiteral, if_neg hquote, if_pos hplain,
        ih fun d hd => htext d (List.mem_cons_of_mem _ hd)]
      rfl

/-- The longest run is no shorter than the one at hand. -/
theorem le_longestRun (quote : Char) (run : Nat) (text : List Char) :
    run ≤ longestRun quote run text := by
  induction text generalizing run with
  | nil => exact Nat.le_refl run
  | cons c text ih =>
      rw [longestRun]
      split_ifs
      · exact Nat.le_of_succ_le (ih (run + 1))
      · exact Nat.le_max_left _ _

/-- A text starts with no more quotes than its longest run leaves for it. -/
theorem fewQuotes_of_longestRun {quote : Char} {run n : Nat} {text : List Char}
    (h : longestRun quote run text ≤ n) : FewQuotes quote (n - run) text := by
  induction text generalizing run with
  | nil => exact .nil
  | cons c text ih =>
      rw [longestRun] at h
      split_ifs at h with hquote
      · have hlt : run + 1 ≤ n := Nat.le_trans (le_longestRun quote (run + 1) text) h
        rw [show n - run = n - (run + 1) + 1 by omega, hquote]
        exact .quote (ih h)
      · exact .other hquote

/-- No part of a text starts with more quotes than its longest run has. -/
theorem fewQuotes_suffix {quote : Char} {run n : Nat} {text tail : List Char}
    (h : longestRun quote run text ≤ n) (hsuffix : tail <:+ text) :
    FewQuotes quote n tail := by
  induction text generalizing run with
  | nil =>
      rw [List.suffix_nil.mp hsuffix]
      exact .nil
  | cons c text ih =>
      rcases List.suffix_cons_iff.mp hsuffix with rfl | hsuffix
      · exact (fewQuotes_of_longestRun h).mono (Nat.sub_le n run)
      · rw [longestRun] at h
        split_ifs at h with hquote
        · exact ih h hsuffix
        · exact ih (Nat.le_trans (Nat.le_max_right _ _) h) hsuffix

/-- The literal form with three quotes is read back. -/
theorem readMultilineLiteral_self {text rest : List Char}
    (htext : ∀ c ∈ text, c = '\n' ∨ isPlain c = true)
    (hfew : ∀ tail, tail <:+ text → FewQuotes singleQuote 2 tail)
    (hrest : rest.head? ≠ some singleQuote) :
    readMultilineLiteral (text ++ (tripled singleQuote ++ rest)) = some (text, rest) := by
  induction text with
  | nil =>
      have hclose := readClosing_of_fewQuotes (hfew [] List.suffix_rfl) hrest
      rw [if_pos (by simp)] at hclose
      rw [List.nil_append, tripled, List.cons_append] at hclose ⊢
      rw [readMultilineLiteral, if_pos rfl, hclose]
      · exact fun more hreturn => absurd hreturn (by decide)
  | cons c text ih =>
      have hnext := ih (fun d hd => htext d (List.mem_cons_of_mem _ hd))
        (fun tail htail => hfew tail (htail.trans (List.suffix_cons c text)))
      have hclose := readClosing_of_fewQuotes (hfew _ List.suffix_rfl) hrest
      have hplain := htext c List.mem_cons_self
      rw [List.cons_append] at hclose ⊢
      rw [readMultilineLiteral]
      · split_ifs with hquote hself
        · rw [hclose]
          split_ifs with hall
          · rfl
          · rw [hnext]
            rfl
        · rw [hnext]
          rfl
        · exact absurd (by simpa using hplain) hself
      · intro more hreturn
        exact absurd hreturn (ne_return_of_plain hplain)

/-! ## The form that is chosen -/

/-- Without a control character all is plain but line feeds. -/
theorem plain_of_no_control {text : List Char} (h : text.any needsEscape = false) :
    ∀ c ∈ text, c = '\n' ∨ isPlain c = true := by
  intro c hc
  refine isPlain_of_not_needsEscape (eq_false_of_ne_true ?_)
  exact List.any_eq_false.mp h c hc

/-- No run of quotes, no quote. -/
theorem ne_quote_of_longestRun {quote : Char} {run : Nat} {text : List Char}
    (h : longestRun quote run text = 0) : ∀ c ∈ text, c ≠ quote := by
  rintro c hc rfl
  -- a quote in the text would be a run of one
  obtain ⟨front, tail, rfl⟩ := List.append_of_mem hc
  cases fewQuotes_suffix (Nat.le_of_eq h) (List.suffix_append front (c :: tail)) with
  | other hc => exact hc rfl

/-- A literal form is taken only for text that it can hold. -/
theorem no_escape_of_literal {text : List Char} (h : TextForm.of text = .literal) :
    text.any needsEscape = false ∧ longestRun singleQuote 0 text = 0 ∧ '\n' ∉ text := by
  unfold TextForm.of at h
  dsimp only at h
  split_ifs at h with h₁ h₂ h₃ h₄ h₅
  simpa [and_assoc] using h₂

/-- The same with line feeds, and with quotes that do not end it. -/
theorem no_escape_of_multilineLiteral {text : List Char}
    (h : TextForm.of text = .multilineLiteral) :
    text.any needsEscape = false ∧ longestRun singleQuote 0 text ≤ 2 := by
  unfold TextForm.of at h
  dsimp only at h
  split_ifs at h with h₁ h₂ h₃ h₄ h₅
  simpa using h₄

/-- On one line the literal form is chosen only for plain texts without its
    quote. -/
theorem plain_of_literal {text : List Char} (h : TextForm.of text = .literal) :
    ∀ c ∈ text, c ≠ singleQuote ∧ isPlain c = true := by
  obtain ⟨hcontrol, hquote, hfeed⟩ := no_escape_of_literal h
  intro c hc
  refine ⟨ne_quote_of_longestRun hquote c hc, ?_⟩
  rcases plain_of_no_control hcontrol c hc with rfl | hplain
  · exact absurd hc hfeed
  · exact hplain

/-! ## Behind the opening quotes -/

/-- A line end is dropped only where one stands. -/
theorem dropLineEnd_eq_self {text : List Char}
    (h : ∀ c ∈ text.head?, c ≠ '\n' ∧ c ≠ '\r') : dropLineEnd text = text := by
  unfold dropLineEnd
  split
  · exact absurd rfl (h '\n' rfl).1
  · exact absurd rfl (h '\r' rfl).2
  · rfl

/-- The line feed written behind three quotes is the one that is dropped. -/
theorem dropLineEnd_opening {text body : List Char}
    (h : '\n' ∉ text → ∀ c ∈ body.head?, c ≠ '\n' ∧ c ≠ '\r') :
    dropLineEnd ((if text.contains '\n' then ['\n'] else []) ++ body) = body := by
  split_ifs with hfeed
  · rfl
  · exact dropLineEnd_eq_self (h (by simpa using hfeed))

/-- Three double quotes open the escaped form. -/
theorem readText_tripled_double (body : List Char) :
    readText (tripled doubleQuote ++ body) = readMultiline false (dropLineEnd body) := by
  show readText (doubleQuote :: doubleQuote :: doubleQuote :: body) = _
  rw [readText, if_pos ⟨rfl, rfl, rfl⟩]

/-- Three single quotes open the literal form. -/
theorem readText_tripled_single (body : List Char) :
    readText (tripled singleQuote ++ body) = readMultilineLiteral (dropLineEnd body) := by
  show readText (singleQuote :: singleQuote :: singleQuote :: body) = _
  rw [readText, if_neg (by decide), if_pos ⟨rfl, rfl, rfl⟩]

/-- Fewer than three quotes open a form on one line. -/
theorem readText_of_one_line {c : Char} {body : List Char}
    (h : ∀ more, body ≠ c :: c :: more) : readText (c :: body) = readLineText (c :: body) := by
  unfold readText
  split
  · next a b d rest heq =>
      obtain ⟨rfl, rfl⟩ := List.cons.inj heq
      rw [if_neg, if_neg]
      · rintro ⟨rfl, rfl, rfl⟩
        exact h rest rfl
      · rintro ⟨rfl, rfl, rfl⟩
        exact h rest rfl
  · rfl

/-- What a form on one line is read as it comes to, if no quote follows. -/
theorem readText_of_readLineText {c : Char} {body text rest : List Char}
    (hquote : c = doubleQuote ∨ c = singleQuote)
    (h : readLineText (c :: body) = some (text, rest)) (hrest : rest.head? ≠ some c) :
    readText (c :: body) = some (text, rest) := by
  rw [← h]
  refine readText_of_one_line ?_
  -- behind two more quotes the form would be empty and the third of them follow it
  rintro more rfl
  rcases hquote with rfl | rfl
  · rw [readLineText, if_pos rfl, readBasic, if_pos rfl] at h
    obtain ⟨-, rfl⟩ := Prod.mk.inj (Option.some.inj h)
    exact hrest rfl
  · rw [readLineText, if_neg (by decide), if_pos rfl, readLiteral, if_pos rfl] at h
    obtain ⟨-, rfl⟩ := Prod.mk.inj (Option.some.inj h)
    exact hrest rfl

/-- What the escaped form with three quotes starts with is no line end, but for a
    line feed of the text. -/
theorem head_writeMultiline {text rest : List Char} (h : '\n' ∉ text) :
    ∀ c ∈ (writeMultiline 0 text ++ (tripled doubleQuote ++ rest)).head?,
      c ≠ '\n' ∧ c ≠ '\r' := by
  intro d hd
  cases text with
  | nil =>
      obtain rfl : doubleQuote = d := Option.some.inj hd
      decide
  | cons c text =>
      by_cases hquote : c = doubleQuote
      · rw [writeMultiline, if_pos hquote, if_neg (by decide)] at hd
        obtain rfl : doubleQuote = d := Option.some.inj hd
        decide
      · rw [writeMultiline, if_neg hquote] at hd
        obtain ⟨e, tail, hwritten, -, hreturn, honly⟩ :=
          (writes_writeEscaped hquote).exists_cons
        rw [hwritten] at hd
        obtain rfl : e = d := Option.some.inj hd
        refine ⟨?_, hreturn⟩
        intro hfeed
        exact h (honly hfeed ▸ List.mem_cons_self)

/-- The literal form starts with no line end either. -/
theorem head_literal {text rest : List Char} (hplain : ∀ c ∈ text, c = '\n' ∨ isPlain c = true)
    (h : '\n' ∉ text) :
    ∀ c ∈ (text ++ (tripled singleQuote ++ rest)).head?, c ≠ '\n' ∧ c ≠ '\r' := by
  intro d hd
  cases text with
  | nil =>
      obtain rfl : singleQuote = d := Option.some.inj hd
      decide
  | cons c text =>
      obtain rfl : c = d := Option.some.inj hd
      refine ⟨?_, ne_return_of_plain (hplain c List.mem_cons_self)⟩
      rintro rfl
      exact h List.mem_cons_self

/-- **STRINGS**: whatever the text, what is written for it is read back as it,
    and nothing that follows is touched unless it is a quote. -/
theorem readText_writeText (text : List Char) {rest : List Char}
    (hdouble : rest.head? ≠ some doubleQuote) (hsingle : rest.head? ≠ some singleQuote) :
    readText (writeText text ++ rest) = some (text, rest) := by
  unfold writeText
  cases hform : TextForm.of text with
  | basic =>
      show readText (doubleQuote :: writeBasic text ++ [doubleQuote] ++ rest) = _
      rw [List.append_assoc, List.cons_append, List.singleton_append]
      refine readText_of_readLineText (.inl rfl) ?_ hdouble
      rw [readLineText, if_pos rfl, readBasic_writeBasic]
  | literal =>
      show readText (singleQuote :: text ++ [singleQuote] ++ rest) = _
      rw [List.append_assoc, List.cons_append, List.singleton_append]
      refine readText_of_readLineText (.inr rfl) ?_ hsingle
      rw [readLineText, if_neg (by decide), if_pos rfl,
        readLiteral_self (plain_of_literal hform)]
  | multilineBasic =>
      show readText (tripled doubleQuote ++ _ ++ writeMultiline 0 text ++
        tripled doubleQuote ++ rest) = _
      simp only [List.append_assoc]
      rw [readText_tripled_double, dropLineEnd_opening head_writeMultiline,
        readMultiline_writeMultiline (by omega) text hdouble]
  | multilineLiteral =>
      show readText (tripled singleQuote ++ _ ++ text ++ tripled singleQuote ++ rest) = _
      obtain ⟨hcontrol, hrun⟩ := no_escape_of_multilineLiteral hform
      have hplain := plain_of_no_control hcontrol
      simp only [List.append_assoc]
      rw [readText_tripled_single, dropLineEnd_opening (head_literal hplain),
        readMultilineLiteral_self hplain (fun tail => fewQuotes_suffix hrun) hsingle]

end SourceBundle.Toml
