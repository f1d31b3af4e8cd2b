import SourceBundle.Proofs.TomlStrings
import SourceBundle.Toml.Document

/-! # TOML documents — sections of plain settings

    The documents meant here are those a program writes for itself: headers of one
    name, and under them a setting a line, `key = value`, with a key that needs no
    quotes.  Their text is described line by line (`IsLines`), which is what
    `readLines` reads (`readLines_of_isLines`); and headers of different names,
    with settings of different keys under each, make one table of the root each,
    in which the settings stand as they were written (`add_sections`). -/

namespace SourceBundle.Toml

/-! ## Keys -/

/-- Characters of keys are apart from all others. -/
theorem isKeyChar_ne {c d : Char} (hc : isKeyChar c = true) (hd : isKeyChar d = false) :
    c ≠ d := by
  rintro rfl
  exact Bool.false_ne_true (hd.symm.trans hc)

theorem isGap_of_isKeyChar {c : Char} (h : isKeyChar c = true) : isGap c = false := by
  simp [isGap, isKeyChar_ne h (show isKeyChar ' ' = false by decide),
    isKeyChar_ne h (show isKeyChar '\t' = false by decide)]

/-- `IsKey key`: a key without quotes. -/
def IsKey (key : List Char) : Prop :=
  key ≠ [] ∧ ∀ c ∈ key, isKeyChar c = true

instance (key : List Char) : Decidable (IsKey key) :=
  decidable_of_bool (!key.isEmpty && key.all isKeyChar) (by simp [IsKey])

/-- The characters of a key are taken up to the first that no key holds. -/
theorem readKeyPart_of_isKey {key more : List Char} (hkey : IsKey key)
    (hmore : ∀ c ∈ more.head?, isKeyChar c = false) :
    readKeyPart (key ++ more) = some (String.ofList key, more) := by
  obtain ⟨hne, hchars⟩ := hkey
  obtain ⟨c, tail, rfl⟩ := List.exists_cons_of_ne_nil hne
  have hc := hchars c List.mem_cons_self
  have htail : ∀ d ∈ tail, isKeyChar d = true :=
    fun d hd => hchars d (List.mem_cons_of_mem c hd)
  have hquote : ¬ (c = doubleQuote ∨ c = singleQuote) := by
    rintro (rfl | rfl)
    · exact absurd hc (by decide)
    · exact absurd hc (by decide)
  have hstop : more.takeWhile isKeyChar = [] ∧ more.dropWhile isKeyChar = more := by
    cases more with
    | nil => exact ⟨rfl, rfl⟩
    | cons d more => simp [hmore d rfl]
  rw [List.cons_append, readKeyPart, if_neg hquote, if_pos hc,
    List.takeWhile_append_of_pos htail, List.dropWhile_append_of_pos htail,
    hstop.1, hstop.2, List.append_nil]

/-- A key without quotes is read as its one part, with the gap behind it. -/
theorem readKey_of_isKey {key more : List Char} (hkey : IsKey key)
    (hmore : ∀ c ∈ more.head?, isKeyChar c = false)
    (hdot : (more.dropWhile isGap).head? ≠ some '.') :
    readKey (key ++ more) = some ([String.ofList key], more.dropWhile isGap) := by
  have hgap : (key ++ more).dropWhile isGap = key ++ more := by
    obtain ⟨c, tail, rfl⟩ := List.exists_cons_of_ne_nil hkey.1
    exact List.dropWhile_cons_of_neg
      (by simp [isGap_of_isKeyChar (hkey.2 c List.mem_cons_self)])
  show readKeyParts (77 + 1 + 1) (key ++ more) = _
  rw [readKeyParts, hgap, readKeyPart_of_isKey hkey hmore]
  dsimp only
  split
  · next heq => exact absurd (congrArg List.head? heq) hdot
  · rfl

/-! ## Lines -/

/-- A character that starts no gap, comment or line end starts a content. -/
theorem readLineEnd_eq_none {c : Char} {text : List Char} (hgap : isGap c = false)
    (hcomment : c ≠ '#') (hfeed : c ≠ '\n') (hreturn : c ≠ '\r') :
    readLineEnd (c :: text) = none := by
  have hdrop : dropComment (c :: text) = c :: text := by
    unfold dropComment
    split
    · next heq => exact absurd (List.cons.inj heq).1 hcomment
    · rfl
  rw [readLineEnd, List.dropWhile_cons_of_neg (by simp [hgap]), hdrop]
  split
  · next heq => exact nomatch heq
  · next heq => exact absurd (List.cons.inj heq).1 hfeed
  · next heq => exact absurd (List.cons.inj heq).1 hreturn
  · rfl

/-- A line that is a content and a line feed. -/
theorem readLine_of_content {c : Char} {text rest : List Char} {line : Line}
    (hgap : isGap c = false) (hcomment : c ≠ '#') (hfeed : c ≠ '\n')
    (hreturn : c ≠ '\r') (hcontent : readContent (c :: text) = some (line, '\n' :: rest)) :
    readLine (c :: text) = some (some line, rest) := by
  rw [readLine, readLineEnd_eq_none hgap hcomment hfeed hreturn]
  dsimp only
  rw [List.dropWhile_cons_of_neg (by simp [hgap]), hcontent]
  rfl

/-- An empty line says nothing. -/
theorem readLine_blank (rest : List Char) : readLine ('\n' :: rest) = some (none, rest) :=
  rfl

/-- A header of one name. -/
theorem readLine_header {name : List Char} (hname : IsKey name) (rest : List Char) :
    readLine ('[' :: (name ++ ']' :: '\n' :: rest)) =
      some (some (.header [String.ofList name]), rest) := by
  have hkey : readKey (name ++ ']' :: '\n' :: rest) =
      some ([String.ofList name], ']' :: '\n' :: rest) :=
    readKey_of_isKey hname (by rintro c ⟨⟩; decide) (show some ']' ≠ some '.' by decide)
  refine readLine_of_content (by decide) (by decide) (by decide) (by decide) ?_
  rw [readContent, hkey]
  · rfl
  -- the name is no second bracket
  · intro text htext
    obtain ⟨c, tail, rfl⟩ := List.exists_cons_of_ne_nil hname.1
    obtain ⟨rfl, -⟩ := List.cons.inj htext
    exact absurd (hname.2 '[' List.mem_cons_self) (by decide)

/-- `WrittenAs written value`: behind a space and in front of a line end, `written`
    is read as `value`. -/
def WrittenAs (written : List Char) (value : Value) : Prop :=
  ∀ rest, readValue (maxDepth - 1) ((' ' :: (written ++ '\n' :: rest)).dropWhile isGap) =
    some (value, '\n' :: rest)

/-- A setting. -/
theorem readLine_setting {key written : List Char} {value : Value} (hkey : IsKey key)
    (hvalue : WrittenAs written value) (rest : List Char) :
    readLine (key ++ ' ' :: '=' :: ' ' :: (written ++ '\n' :: rest)) =
      some (some (.pair [String.ofList key] value), rest) := by
  have hread : readKey (key ++ ' ' :: '=' :: ' ' :: (written ++ '\n' :: rest)) =
      some ([String.ofList key], '=' :: ' ' :: (written ++ '\n' :: rest)) :=
    readKey_of_isKey hkey (by rintro c ⟨⟩; decide) (show some '=' ≠ some '.' by decide)
  obtain ⟨c, tail, rfl⟩ := List.exists_cons_of_ne_nil hkey.1
  have hc := hkey.2 c List.mem_cons_self
  have hne : ∀ d, isKeyChar d = false → c ≠ d := fun d hd => isKeyChar_ne hc hd
  refine readLine_of_content (isGap_of_isKeyChar hc) (hne '#' (by decide))
    (hne '\n' (by decide)) (hne '\r' (by decide)) ?_
  rw [List.cons_append] at hread
  show readContent (c :: (tail ++ ' ' :: '=' :: ' ' :: (written ++ '\n' :: rest))) = _
  rw [readContent, hread]
  · show (readValue (maxDepth - 1) _).map _ = _
    rw [hvalue]
    rfl
  · intro text htext
    exact absurd (List.cons.inj htext).1 (hne '[' (by decide))
  · intro text htext
    exact absurd (List.cons.inj htext).1 (hne '[' (by decide))

/-! ## Values -/

/-- A string starts with one of the quotes. -/
theorem head_writeText (text : List Char) :
    ∃ c body, writeText text = c :: body ∧ (c = doubleQuote ∨ c = singleQuote) := by
  unfold writeText
  cases TextForm.of text with
  | basic => exact ⟨doubleQuote, _, rfl, .inl rfl⟩
  | literal => exact ⟨singleQuote, _, rfl, .inr rfl⟩
  | multilineBasic => exact ⟨doubleQuote, _, rfl, .inl rfl⟩
  | multilineLiteral => exact ⟨singleQuote, _, rfl, .inr rfl⟩

/-- A quote starts a string, at any depth. -/
theorem readValue_of_quote {c : Char} (hquote : c = doubleQuote ∨ c = singleQuote)
    (depth : Nat) (body : List Char) :
    readValue depth (c :: body) = (readText (c :: body)).map fun (text, rest) =>
      (.string (String.ofList text), rest) := by
  cases depth <;> rw [readValue, if_pos hquote]

/-- A text is read from whatever form it was written in. -/
theorem writtenAs_writeText (text : List Char) :
    WrittenAs (writeText text) (.string (String.ofList text)) := by
  intro rest
  have hread : readText (writeText text ++ '\n' :: rest) = some (text, '\n' :: rest) :=
    readText_writeText text (show some '\n' ≠ some doubleQuote by decide)
      (show some '\n' ≠ some singleQuote by decide)
  obtain ⟨c, body, hhead, hquote⟩ := head_writeText text
  have hgap : isGap c = false := by
    rcases hquote with rfl | rfl <;> decide
  rw [hhead] at hread ⊢
  rw [List.dropWhile_cons_of_pos (by decide), List.cons_append,
    List.dropWhile_cons_of_neg (by simp [hgap]), readValue_of_quote hquote]
  rw [List.cons_append] at hread
  rw [hread]
  rfl

theorem writtenAs_true : WrittenAs ['t', 'r', 'u', 'e'] (.boolean true) :=
  fun _ => rfl

theorem writtenAs_false : WrittenAs ['f', 'a', 'l', 's', 'e'] (.boolean false) :=
  fun _ => rfl

/-! ## The lines of a text -/

/-- `IsLines text lines`: `text` is cut into lines that say `lines`. -/
inductive IsLines : List Char → List Line → Prop
  | nil : IsLines [] []
  | cons {written text : List Char} {line : Option Line} {lines : List Line}
      (hne : written ≠ []) (hread : ∀ rest, readLine (written ++ rest) = some (line, rest))
      (htail : IsLines text lines) : IsLines (written ++ text) (line.toList ++ lines)

theorem isLines_blank : IsLines ['\n'] [] :=
  .cons (List.cons_ne_nil '\n' []) readLine_blank .nil

/-- One line that says something. -/
theorem IsLines.single {written : List Char} {line : Line} (hne : written ≠ [])
    (hread : ∀ rest, readLine (written ++ rest) = some (some line, rest)) :
    IsLines written [line] := by
  have hone := IsLines.cons hne hread .nil
  rwa [List.append_nil, List.append_nil] at hone

/-- Lines behind lines are lines. -/
theorem IsLines.append {text₁ text₂ : List Char} {lines₁ lines₂ : List Line}
    (h₁ : IsLines text₁ lines₁) (h₂ : IsLines text₂ lines₂) :
    IsLines (text₁ ++ text₂) (lines₁ ++ lines₂) := by
  induction h₁ with
  | nil => exact h₂
  | cons hne hread htail ih =>
      rw [List.append_assoc, List.append_assoc]
      exact .cons hne hread ih

/-- A header is one line. -/
theorem isLines_header {name : List Char} (hname : IsKey name) :
    IsLines ('[' :: (name ++ [']', '\n'])) [.header [String.ofList name]] := by
  refine .single (List.cons_ne_nil _ _) ?_
  intro rest
  rw [List.cons_append, List.append_assoc]
  exact readLine_header hname rest

/-- A key with a value that is read again is one line. -/
theorem isLines_setting {key written : List Char} {value : Value} (hkey : IsKey key)
    (hvalue : WrittenAs written value) :
    IsLines (key ++ [' ', '=', ' '] ++ written ++ ['\n'])
      [.pair [String.ofList key] value] := by
  refine .single ?_ ?_
  · simp
  · intro rest
    simp only [List.append_assoc, List.cons_append, List.nil_append]
    exact readLine_setting hkey hvalue rest

/-- As many steps as there are characters read all lines. -/
theorem readLines_of_isLines {text : List Char} {lines : List Line}
    (h : IsLines text lines) {fuel : Nat} (hfuel : text.length ≤ fuel) :
    readLines fuel text = some lines := by
  induction h generalizing fuel with
  | nil => cases fuel <;> rfl
  | @cons written text line lines hne hread htail ih =>
      have hlength := List.length_pos_iff.mpr hne
      rw [List.length_append] at hfuel
      obtain ⟨fuel, rfl⟩ : ∃ k, fuel = k + 1 := ⟨fuel - 1, by omega⟩
      rw [readLines, hread]
      · show (readLines fuel text).map _ = _
        rw [ih (by omega)]
        rfl
      · simp [hne]

/-- A text without a byte order mark is its lines. -/
theorem linesOfText_of_isLines {text : List Char} {lines : List Line}
    (h : IsLines text lines) (hmark : text.head? ≠ some '\uFEFF') :
    linesOfText text = some lines := by
  unfold linesOfText
  split
  · exact absurd rfl hmark
  · exact readLines_of_isLines h (Nat.le_refl _)

/-! ## The table of a section -/

/-- Where keys are different, the first of them are not the next. -/
theorem lookup_eq_none_of_nodup {entries : Entries} {key : String} {keys : List String}
    (h : (entries.map Prod.fst ++ key :: keys).Nodup) : entries.lookup key = none := by
  rw [List.lookup_eq_none_iff]
  intro entry hentry
  have hne : entry.1 ≠ key := (List.nodup_append.mp h).2.2 entry.1
    (List.mem_map_of_mem hentry) key List.mem_cons_self
  simpa using hne.symm

/-- Where the last entry is the only one of its key, it alone is replaced. -/
theorem replaceEntry_last {key : String} {old new : Value} {entries : Entries}
    (h : entries.lookup key = none) :
    replaceEntry key new (entries ++ [(key, old)]) = entries ++ [(key, new)] := by
  rw [List.lookup_eq_none_iff] at h
  have hothers : replaceEntry key new entries = entries := by
    unfold replaceEntry
    refine (List.map_congr_left ?_).trans (List.map_id entries)
    intro entry hentry
    have hne : entry.1 ≠ key := by
      rintro rfl
      simpa using h entry hentry
    rw [if_neg hne, id]
  unfold replaceEntry at hothers ⊢
  rw [List.map_append, hothers, List.map_singleton, if_pos rfl]

/-- A key that is not yet in a table of its own header is entered at its end. -/
theorem enterPair_single {key : String} {value : Value} {entries : Entries}
    (h : entries.lookup key = none) :
    enterPair .header entries [key] value = some (entries ++ [(key, value)]) := by
  show enter key value false .header entries = _
  unfold enter
  simp [h]

/-- A header opens a new table behind all others. -/
theorem add_header {root : Entries} {current : List String} {name : String}
    (h : root.lookup name = none) :
    Draft.add ⟨root, current⟩ (.header [name]) =
      some ⟨root ++ [(name, .table .header [])], [name]⟩ := by
  show (openTable name .header root).map _ = _
  rw [openTable, h]
  rfl

/-- A setting is entered at the end of the table that is open. -/
theorem add_setting {root entries : Entries} {name key : String} {value : Value}
    (hname : root.lookup name = none) (hkey : entries.lookup key = none) :
    Draft.add ⟨root ++ [(name, .table .header entries)], [name]⟩ (.pair [key] value) =
      some ⟨root ++ [(name, .table .header (entries ++ [(key, value)]))], [name]⟩ := by
  have hlookup : (root ++ [(name, Value.table .header entries)]).lookup name =
      some (.table .header entries) := by
    simp [List.lookup_append, hname]
  have henter : changeAt .passed (fun origin entries => enterPair origin entries [key] value)
      [name] .header (root ++ [(name, .table .header entries)]) =
      some (root ++ [(name, .table .header (entries ++ [(key, value)]))]) := by
    rw [changeAt, hlookup]
    simp only [changeAt, enterPair_single hkey]
    rw [if_neg (by decide), Option.map_some, replaceEntry_last hname]
  rw [Draft.add, henter]
  rfl

/-- The line of an entry. -/
def settingOf (entry : String × Value) : Line := .pair [entry.1] entry.2

/-- Settings of new and different keys are entered in their order. -/
theorem add_settings {root : Entries} {name : String} (hname : root.lookup name = none)
    (entries : Entries) {done : Entries} (hkeys : ((done ++ entries).map Prod.fst).Nodup) :
    (entries.map settingOf).foldlM Draft.add ⟨root ++ [(name, .table .header done)], [name]⟩ =
      some ⟨root ++ [(name, .table .header (done ++ entries))], [name]⟩ := by
  induction entries generalizing done with
  | nil => rw [List.append_nil, List.map_nil, List.foldlM_nil, Option.pure_def]
  | cons entry entries ih =>
      have hkey : done.lookup entry.1 = none := by
        rw [List.map_append] at hkeys
        exact lookup_eq_none_of_nodup hkeys
      rw [List.map_cons, List.foldlM_cons, settingOf, add_setting hname hkey]
      show (entries.map settingOf).foldlM Draft.add _ = _
      rw [ih (by rwa [List.append_assoc]), List.append_assoc]
      rfl

/-- The lines of a section. -/
def linesOfSection (name : String) (entries : Entries) : List Line :=
  .header [name] :: entries.map settingOf

/-- **SECTION**: a header of a new name, with settings of different keys under it,
    makes one table behind all others, with the settings as its entries. -/
theorem add_section {root : Entries} {current : List String} {name : String}
    (hname : root.lookup name = none) {entries : Entries}
    (hkeys : (entries.map Prod.fst).Nodup) :
    (linesOfSection name entries).foldlM Draft.add ⟨root, current⟩ =
      some ⟨root ++ [(name, .table .header entries)], [name]⟩ := by
  rw [linesOfSection, List.foldlM_cons, add_header hname]
  exact add_settings hname entries hkeys

/-- Sections of different names, each with different keys, make a table each. -/
theorem add_sections (sections : List (String × Entries)) (root : Entries)
    (current : List String)
    (hnames : (root.map Prod.fst ++ sections.map Prod.fst).Nodup)
    (hkeys : ∀ s ∈ sections, (s.2.map Prod.fst).Nodup) :
    ∃ last, (sections.flatMap fun (name, entries) => linesOfSection name entries).foldlM
        Draft.add ⟨root, current⟩ =
      some ⟨root ++ sections.map fun (name, entries) => (name, .table .header entries),
        last⟩ := by
  -- the names of the tables already made stay part of the induction
  induction sections generalizing root current with
  | nil =>
      refine ⟨current, ?_⟩
      rw [List.map_nil, List.append_nil]
      rfl
  | cons s sections ih =>
      obtain ⟨name, entries⟩ := s
      have hname := lookup_eq_none_of_nodup hnames
      have hentries := hkeys (name, entries) List.mem_cons_self
      rw [List.flatMap_cons, List.foldlM_append]
      show ∃ last, ((linesOfSection name entries).foldlM Draft.add ⟨root, current⟩ >>= _) = _
      rw [add_section hname hentries]
      have hnext := ih (root ++ [(name, .table .header entries)]) [name]
        (by simpa using hnames) (fun s hs => hkeys s (List.mem_cons_of_mem _ hs))
      simpa using hnext

end SourceBundle.Toml
