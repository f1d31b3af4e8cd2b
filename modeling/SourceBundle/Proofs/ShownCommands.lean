import Mathlib
import SourceBundle.Command

/-! # Shown commands — the words can be read back

    A shown command is read from left to right: a word that begins with a quote
    goes up to the next quote, any other up to the next space (`readWords`).  As
    long as no word has a quote in it, that gives back the words of the command,
    whatever blanks they hold, so two such commands are never shown alike
    (`readBack_display`). -/

namespace SourceBundle

namespace Command

/-! ## Reading -/

/-- What stands before the first `mark` in a text, and what stands behind it. -/
def cutAt (mark : Char) (text : List Char) : List Char × List Char :=
  (text.takeWhile (· ≠ mark), (text.dropWhile (· ≠ mark)).tail)

/-- The word in front of a shown command, and what stands behind the space that
    follows it. -/
def readWord : List Char → List Char × List Char
  | '\x22' :: text => ((cutAt '\x22' text).1, (cutAt '\x22' text).2.tail)
  | text => cutAt ' ' text

theorem length_cutAt_le (mark : Char) (text : List Char) :
    (cutAt mark text).2.length ≤ text.length - 1 := by
  rw [cutAt, List.length_tail]
  exact Nat.sub_le_sub_right (List.dropWhile_suffix _).length_le 1

/-- Reading a word leaves less to read. -/
theorem length_readWord_le (text : List Char) :
    (readWord text).2.length ≤ text.length - 1 := by
  unfold readWord
  split
  · next text =>
      have hcut := length_cutAt_le '\x22' text
      rw [List.length_tail, List.length_cons]
      omega
  · exact length_cutAt_le ' ' _

/-- The words of a shown command. -/
def readWords : List Char → List (List Char)
  | [] => []
  | c :: text => (readWord (c :: text)).1 :: readWords (readWord (c :: text)).2
termination_by text => text.length
decreasing_by exact Nat.lt_succ_of_le (length_readWord_le (c :: text))

/-- The command that a text shows. -/
def readBack (text : String) : Command :=
  ⟨(readWords text.toList).map String.ofList⟩

/-- The words of a text are the first one and those behind it. -/
theorem readWords_of_ne_nil {text : List Char} (h : text ≠ []) :
    readWords text = (readWord text).1 :: readWords (readWord text).2 := by
  obtain ⟨c, rest, rfl⟩ := List.exists_cons_of_ne_nil h
  rw [readWords]

/-! ## Reading what is shown -/

/-- A word without the mark ends where the mark stands, or where the text does. -/
theorem cutAt_append {mark : Char} {word behind : List Char} (hword : mark ∉ word)
    (hbehind : ∀ c ∈ behind.head?, c = mark) :
    cutAt mark (word ++ behind) = (word, behind.tail) := by
  have hall : ∀ c ∈ word, (decide (c ≠ mark)) = true := by
    intro c hc
    exact decide_eq_true (ne_of_mem_of_not_mem hc hword)
  rw [cutAt, List.takeWhile_append_of_pos hall, List.dropWhile_append_of_pos hall]
  cases behind with
  | nil => rw [List.takeWhile_nil, List.append_nil, List.dropWhile_nil]
  | cons c rest =>
      obtain rfl : c = mark := hbehind c rfl
      rw [List.takeWhile_cons_of_neg (by simp), List.dropWhile_cons_of_neg (by simp),
        List.append_nil]

/-- A word is shown between quotes or as it is, and then it has no blank in it. -/
theorem showToken_cases (token : String) :
    (showToken token).toList = '\x22' :: token.toList ++ ['\x22'] ∨
    (showToken token = token ∧ token.toList ≠ [] ∧ ∀ c ∈ token.toList, isBlank c = false) := by
  unfold showToken
  split
  · exact .inl (by simp)
  · next h =>
      obtain ⟨hne, hblank⟩ := not_or.mp h
      refine .inr ⟨rfl, ?_, ?_⟩
      · simpa using hne
      · simpa using hblank

/-- Even an empty token shows. -/
theorem toList_showToken_ne_nil (token : String) : (showToken token).toList ≠ [] := by
  rcases showToken_cases token with hquoted | ⟨hplain, hne, -⟩
  · rw [hquoted]
    exact List.cons_ne_nil _ _
  · rw [hplain]
    exact hne

/-- **ONE WORD**: a shown word without a quote in it is read back, and the reading goes
    on behind the space. -/
theorem readWord_showToken {token : String} {behind : List Char}
    (hquote : '\x22' ∉ token.toList) (hbehind : ∀ c ∈ behind.head?, c = ' ') :
    readWord ((showToken token).toList ++ behind) = (token.toList, behind.tail) := by
  rcases showToken_cases token with hquoted | ⟨hplain, hne, hblank⟩
  · have hcut : cutAt '\x22' (token.toList ++ '\x22' :: behind) = (token.toList, behind) :=
      cutAt_append hquote fun c hc => (Option.some.inj hc).symm
    rw [hquoted, List.append_assoc, List.singleton_append, List.cons_append, readWord, hcut]
  · have hspace : ' ' ∉ token.toList := fun hmem => Bool.noConfusion (hblank _ hmem)
    rw [hplain]
    obtain ⟨c, rest, hcons⟩ := List.exists_cons_of_ne_nil hne
    -- what is shown without quotes does not begin with one, so it is read up to a space
    have hfirst : c ≠ '\x22' := by
      rintro rfl
      exact hquote (hcons ▸ List.mem_cons_self)
    have hread : readWord (token.toList ++ behind) = cutAt ' ' (token.toList ++ behind) := by
      rw [hcons, List.cons_append, readWord]
      exact fun text h => hfirst (List.cons.inj h).1
    rw [hread, cutAt_append hspace hbehind]

/-- Shown words with a space between them are read back one by one. -/
theorem readWords_intercalate {tokens : List String}
    (hquote : ∀ token ∈ tokens, '\x22' ∉ token.toList) :
    readWords ([' '].intercalate ((tokens.map showToken).map String.toList))
      = tokens.map String.toList := by
  induction tokens with
  | nil => rw [List.map_nil, List.map_nil, List.intercalate_nil, readWords]
  | cons token tokens ih =>
      -- the last word is followed by nothing, any other by its space
      have hfirst := hquote token List.mem_cons_self
      have hrest := ih fun other hother => hquote other (List.mem_cons_of_mem _ hother)
      have hne := toList_showToken_ne_nil token
      cases tokens with
      | nil =>
          have hread : readWord (showToken token).toList = (token.toList, []) := by
            have hnothing : ∀ c ∈ ([] : List Char).head?, c = ' ' := by simp
            have hlast := readWord_showToken hfirst hnothing
            rwa [List.append_nil] at hlast
          rw [List.map_singleton, List.map_singleton, List.intercalate_singleton,
            readWords_of_ne_nil hne, hread, readWords, List.map_singleton]
      | cons next tokens =>
          simp only [List.map_cons] at hrest ⊢
          rw [List.intercalate_cons_cons, List.append_assoc, List.singleton_append,
            readWords_of_ne_nil (List.append_ne_nil_of_left_ne_nil hne _),
            readWord_showToken hfirst, List.tail_cons, hrest]
          exact fun c hc => (Option.some.inj hc).symm

/-- No word of the command has a quote in it. -/
def HasNoQuotes (c : Command) : Prop := ∀ token ∈ c.tokens, '\x22' ∉ token.toList

instance (c : Command) : Decidable c.HasNoQuotes :=
  inferInstanceAs (Decidable (∀ token ∈ c.tokens, '\x22' ∉ token.toList))

/-- **READING BACK**: what is shown of a command without quotes is that command. -/
theorem readBack_of_hasNoQuotes {c : Command} (h : c.HasNoQuotes) :
    readBack c.display = c := by
  have hsame : (c.tokens.map String.toList).map String.ofList = c.tokens := by simp
  have hspace : (" " : String).toList = [' '] := rfl
  rw [readBack, display, String.toList_intercalate, hspace, readWords_intercalate h, hsame]

/-- **SHOWN COMMANDS ARE READ BACK**: reading a shown command from left to right gives
    its words, as long as none of them has a quote in it, and so no other such command
    is shown alike. -/
theorem readBack_display (c : Command) (h : c.HasNoQuotes) :
    readBack c.display = c ∧
    ∀ d : Command, d.HasNoQuotes → d.display = c.display → d = c := by
  refine ⟨readBack_of_hasNoQuotes h, ?_⟩
  intro d hd hsame
  rw [← readBack_of_hasNoQuotes hd, hsame, readBack_of_hasNoQuotes h]

/-- A quote in a word can end it, or make one word of two. -/
example : display ⟨["\x22a", "b\x22"]⟩ = display ⟨["a b"]⟩ := by decide +kernel

/-- A command with an empty word, with blanks at the ends of a word and twice inside, and
    with a blank that is no space. -/
def blankWords : Command := ⟨["cc", "", " a  b\t", "c\u00A0d", "-o", "x"]⟩

theorem readBack_display_blankWords : blankWords.HasNoQuotes ∧
    blankWords.display = "cc \x22\x22 \x22 a  b\t\x22 \x22c\u00A0d\x22 -o x" ∧
    readBack "cc \x22\x22 \x22 a  b\t\x22 \x22c\u00A0d\x22 -o x" = blankWords := by
  have hquote : blankWords.HasNoQuotes := by decide +kernel
  have hshown : blankWords.display
      = "cc \x22\x22 \x22 a  b\t\x22 \x22c\u00A0d\x22 -o x" := by
    decide +kernel
  refine ⟨hquote, hshown, ?_⟩
  rw [← hshown]
  exact (readBack_display blankWords hquote).1

end Command

end SourceBundle
