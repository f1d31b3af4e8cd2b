import SourceBundle.Config.Toml
import SourceBundle.Proofs.Encoding
import SourceBundle.Proofs.TomlDocuments

/-! # Configurations — what is written is read back

    A configuration is written as three sections with a line for each setting that
    is set (`isLines_written`).  Read again, the lines make three tables
    (`parse_written`), and these make the configuration that was written, with
    nothing set that was not (`Config.read_entries`).  Only a path can fail to be
    written, and it does so exactly when its bytes are not UTF-8
    (`toToml_eq_ok_iff`). -/

namespace SourceBundle

open Toml (Value Entries Draft WrittenAs IsLines IsKey settingOf linesOfSection)

/-! ## Paths that have a text -/

/-- The bytes of the path are those of a text. -/
def Path.IsUtf8 (p : Path) : Prop := ∃ text, p.bytes = Utf8.encode text

/-- The paths that are set. -/
def PathSettings.chosen (s : PathSettings) : List Path :=
  [s.entry, s.bundle, s.binDir, s.baseDir].filterMap id

/-- A path is text exactly when it is the path of that text. -/
theorem Path.text?_eq_some_iff {p : Path} {text : String} :
    p.text? = some text ↔ p = Path.ofText text := by
  cases p with
  | mk bytes =>
      rw [Path.text?, Utf8.decode?_eq_some_iff, Path.ofText, Path.mk.injEq]

/-- A path in UTF-8 is one that has a text. -/
theorem Path.isUtf8_iff {p : Path} : p.IsUtf8 ↔ ∃ text, p.text? = some text := by
  simp only [Path.IsUtf8, Path.text?, Utf8.decode?_eq_some_iff]

/-- A path with a text, as TOML. -/
def Path.written (p : Path) : List Char := writeString (p.text?.getD "")

/-- A path is written unless it is set to bytes that are no text. -/
theorem writePath_eq_ok_iff {path : Option Path} {written : Option (List Char)} :
    writePath path = .ok written ↔
      (∀ p ∈ path, p.IsUtf8) ∧ written = path.map Path.written := by
  cases path with
  | none => simp [writePath, eq_comm]
  | some p =>
      simp only [Option.mem_def, Option.some.injEq, forall_eq', Path.isUtf8_iff, writePath,
        Option.map_some, Path.written]
      cases p.text? with
      | none => simp
      | some text => simp [eq_comm]

/-- What holds of all paths that are set holds of each of them. -/
theorem PathSettings.forall_chosen_iff {s : PathSettings} {P : Path → Prop} :
    (∀ p ∈ s.chosen, P p) ↔ (∀ p ∈ s.entry, P p) ∧ (∀ p ∈ s.bundle, P p) ∧
      (∀ p ∈ s.binDir, P p) ∧ ∀ p ∈ s.baseDir, P p := by
  simp [PathSettings.chosen, or_imp, forall_and, eq_comm]

/-- Two steps succeed when the first does and the second does with its value. -/
theorem bind_eq_ok_iff {ε α β : Type} {x : Except ε α} {f : α → Except ε β} {b : β} :
    (x >>= f) = .ok b ↔ ∃ a, x = .ok a ∧ f a = .ok b := by
  cases x with
  | error cause =>
      constructor
      · intro h
        exact nomatch h
      · rintro ⟨a, h, -⟩
        exact nomatch h
  | ok a =>
      constructor
      · intro h
        exact ⟨a, rfl, h⟩
      · rintro ⟨a', ha, h⟩
        rwa [Except.ok.inj ha]

/-- What is written of a configuration. -/
def Config.written (c : Config) : List Char :=
  "[paths]\n".toList
    ++ settingLine "entry" (c.paths.entry.map Path.written)
    ++ settingLine "bundle" (c.paths.bundle.map Path.written)
    ++ settingLine "bin_dir" (c.paths.binDir.map Path.written)
    ++ settingLine "base_dir" (c.paths.baseDir.map Path.written)
    ++ "\n[compiler]\n".toList
    ++ settingLine "backend" (c.compiler.backend.map fun b => writeString b.name)
    ++ settingLine "program" (c.compiler.program.map writeString)
    ++ settingLine "binary" (c.compiler.binary.map writeString)
    ++ "\n[bundle]\n".toList
    ++ settingLine "recursive" (c.bundle.recursive.map writeBool)

/-- A configuration is written exactly when each of its paths has a text. -/
theorem toToml_eq_ok_iff {c : Config} {text : String} : c.toToml = .ok text ↔
    (∀ p ∈ c.paths.chosen, p.IsUtf8) ∧ text = String.ofList c.written := by
  simp only [PathSettings.forall_chosen_iff, Config.toToml, bind_eq_ok_iff,
    writePath_eq_ok_iff]
  constructor
  · rintro ⟨_, ⟨hentry, rfl⟩, _, ⟨hbundle, rfl⟩, _, ⟨hbinDir, rfl⟩, _, ⟨hbaseDir, rfl⟩, h⟩
    exact ⟨⟨hentry, hbundle, hbinDir, hbaseDir⟩, (Except.ok.inj h).symm⟩
  · rintro ⟨⟨hentry, hbundle, hbinDir, hbaseDir⟩, rfl⟩
    exact ⟨_, ⟨hentry, rfl⟩, _, ⟨hbundle, rfl⟩, _, ⟨hbinDir, rfl⟩, _, ⟨hbaseDir, rfl⟩, rfl⟩

/-! ## The entries of a section -/

/-- The value of a path that has a text. -/
def Path.value (p : Path) : Value := .string (p.text?.getD "")

/-- The value of a backend. -/
def Backend.value (b : Backend) : Value := .string b.name

/-- The entries of the settings that are set. -/
def entriesOf (settings : List (String × Option Value)) : Entries :=
  settings.flatMap fun (key, value) => (value.map (key, ·)).toList

/-- The settings of the section `paths` under their keys. -/
def PathSettings.settings (s : PathSettings) : List (String × Option Value) :=
  [("entry", s.entry.map Path.value), ("bundle", s.bundle.map Path.value),
    ("bin_dir", s.binDir.map Path.value), ("base_dir", s.baseDir.map Path.value)]

/-- The settings of the section `compiler` under their keys. -/
def CompilerSettings.settings (s : CompilerSettings) : List (String × Option Value) :=
  [("backend", s.backend.map Backend.value), ("program", s.program.map Value.string),
    ("binary", s.binary.map Value.string)]

/-- The settings of the section `bundle` under their keys. -/
def BundleSettings.settings (s : BundleSettings) : List (String × Option Value) :=
  [("recursive", s.recursive.map Value.boolean)]

/-- The three sections under their names. -/
def Config.sections (c : Config) : List (String × Entries) :=
  [("paths", entriesOf c.paths.settings), ("compiler", entriesOf c.compiler.settings),
    ("bundle", entriesOf c.bundle.settings)]

/-! ## The lines that are written -/

/-- A string is written so that it is read again. -/
theorem writtenAs_string (text : String) : WrittenAs (writeString text) (.string text) := by
  have h := Toml.writtenAs_writeText text.toList
  rwa [String.ofList_toList] at h

theorem writtenAs_bool (b : Bool) : WrittenAs (writeBool b) (.boolean b) := by
  cases b with
  | false => exact Toml.writtenAs_false
  | true => exact Toml.writtenAs_true

/-- The line of a setting, if it is set. -/
theorem isLines_settingLine {α : Type} (key : String) (hkey : IsKey key.toList)
    {write : α → List Char} {value : α → Value} (h : ∀ x, WrittenAs (write x) (value x))
    (a : Option α) :
    IsLines (settingLine key (a.map write))
      (((a.map value).map (key, ·)).toList.map settingOf) := by
  cases a with
  | none => exact .nil
  | some x =>
      have hline := Toml.isLines_setting hkey (h x)
      rw [String.ofList_toList] at hline
      exact hline

/-- The header of the first section is one line. -/
theorem isLines_sectionHeader {name : String} {written : List Char}
    (hname : IsKey name.toList) (hwritten : written = '[' :: (name.toList ++ [']', '\n'])) :
    IsLines written [.header [name]] := by
  have hline := Toml.isLines_header hname
  rwa [String.ofList_toList, ← hwritten] at hline

/-- Further headers stand behind an empty line. -/
theorem isLines_nextHeader {name : String} {written : List Char}
    (hname : IsKey name.toList)
    (hwritten : written = '\n' :: '[' :: (name.toList ++ [']', '\n'])) :
    IsLines written [.header [name]] := by
  rw [hwritten]
  exact Toml.isLines_blank.append (isLines_sectionHeader hname rfl)

/-- A written configuration is the lines of its three sections. -/
theorem isLines_written (c : Config) :
    IsLines c.written
      (c.sections.flatMap fun (name, entries) => linesOfSection name entries) := by
  have hpath (p : Path) : WrittenAs p.written p.value := writtenAs_string _
  have hbackend (b : Backend) : WrittenAs (writeString b.name) b.value :=
    writtenAs_string _
  have hpaths : IsLines "[paths]\n".toList [.header ["paths"]] :=
    isLines_sectionHeader (by decide +kernel) (by decide +kernel)
  have hcompiler : IsLines "\n[compiler]\n".toList [.header ["compiler"]] :=
    isLines_nextHeader (by decide +kernel) (by decide +kernel)
  have hbundle : IsLines "\n[bundle]\n".toList [.header ["bundle"]] :=
    isLines_nextHeader (by decide +kernel) (by decide +kernel)
  have hpathLine (key : String) (hkey : IsKey key.toList) (p : Option Path) :=
    isLines_settingLine key hkey hpath p
  have htextLine (key : String) (hkey : IsKey key.toList) (text : Option String) :=
    isLines_settingLine key hkey writtenAs_string text
  -- one line behind the other, as they are written
  have hlines := hpaths.append (hpathLine "entry" (by decide +kernel) c.paths.entry)
  replace hlines := hlines.append (hpathLine "bundle" (by decide +kernel) c.paths.bundle)
  replace hlines := hlines.append (hpathLine "bin_dir" (by decide +kernel) c.paths.binDir)
  replace hlines := hlines.append (hpathLine "base_dir" (by decide +kernel) c.paths.baseDir)
  replace hlines := (hlines.append hcompiler).append
    (isLines_settingLine "backend" (by decide +kernel) hbackend c.compiler.backend)
  replace hlines := hlines.append (htextLine "program" (by decide +kernel) c.compiler.program)
  replace hlines := hlines.append (htextLine "binary" (by decide +kernel) c.compiler.binary)
  replace hlines := (hlines.append hbundle).append
    (isLines_settingLine "recursive" (by decide +kernel) writtenAs_bool c.bundle.recursive)
  unfold Config.written
  simp only [List.append_assoc] at hlines ⊢
  simp only [Config.sections, linesOfSection, entriesOf,
    PathSettings.settings, CompilerSettings.settings, BundleSettings.settings,
    List.flatMap_cons, List.flatMap_nil, List.append_nil, List.map_append, List.append_assoc,
    List.cons_append]
  exact hlines

/-! ## The tables that the lines make -/

/-- The entries of a section stand under keys of its settings. -/
theorem keys_entriesOf_sublist (settings : List (String × Option Value)) :
    ((entriesOf settings).map Prod.fst).Sublist (settings.map Prod.fst) := by
  induction settings with
  | nil => exact .slnil
  | cons setting settings ih =>
      obtain ⟨key, value⟩ := setting
      cases value with
      | none => exact ih.cons key
      | some value => exact ih.cons_cons key

/-- The root table of a written configuration. -/
def Config.entries (c : Config) : Entries :=
  c.sections.map fun (name, entries) => (name, .table .header entries)

/-- No key is written twice in a section. -/
theorem keys_of_section {c : Config} {s : String × Entries} (hs : s ∈ c.sections) :
    (s.2.map Prod.fst).Nodup := by
  simp only [Config.sections, List.mem_cons, List.not_mem_nil, or_false] at hs
  rcases hs with rfl | rfl | rfl
  · refine (keys_entriesOf_sublist _).nodup ?_
    show ["entry", "bundle", "bin_dir", "base_dir"].Nodup
    decide
  · refine (keys_entriesOf_sublist _).nodup ?_
    show ["backend", "program", "binary"].Nodup
    decide
  · refine (keys_entriesOf_sublist _).nodup ?_
    show ["recursive"].Nodup
    decide

theorem head_written (c : Config) : c.written.head? = some '[' := by
  unfold Config.written
  simp only [List.append_assoc]
  rw [show "[paths]\n".toList = '[' :: "paths]\n".toList by decide]
  rfl

/-- A written configuration is TOML for its sections. -/
theorem parse_written (c : Config) :
    Toml.parse (String.ofList c.written) = some c.entries := by
  have hlines := Toml.linesOfText_of_isLines (isLines_written c)
    (by rw [head_written]; decide)
  have hnames : ["paths", "compiler", "bundle"].Nodup := by decide
  obtain ⟨last, hadd⟩ :=
    Toml.add_sections c.sections [] [] hnames fun s hs => keys_of_section hs
  rw [Toml.parse, String.toList_ofList, hlines]
  show (List.foldlM Draft.add ⟨[], []⟩ _ >>= _) = _
  rw [hadd]
  rfl

/-! ## The configuration that the tables make -/

/-- A path is read from the text it was written as. -/
theorem readPath_value {p : Path} (h : p.IsUtf8) : readPath p.value = .ok p := by
  obtain ⟨text, htext⟩ := Path.isUtf8_iff.mp h
  rw [Path.value, htext, Option.getD_some, readPath, Path.text?_eq_some_iff.mp htext]

theorem readBackend_value (b : Backend) : readBackend b.value = .ok b := by
  cases b <;> rfl

/-- One setting: set or not, reading its entry makes it what it was. -/
theorem foldlM_setting {σ α : Type} {read : σ → String × Value → Except TomlError σ}
    {key : String} {value : α → Value} (put : Option α → σ) {a : Option α}
    (h : ∀ x ∈ a, read (put none) (key, value x) = .ok (put (some x)))
    (settings : List (String × Option Value)) :
    (entriesOf ((key, a.map value) :: settings)).foldlM read (put none) =
      (entriesOf settings).foldlM read (put a) := by
  cases a with
  | none => rfl
  | some x =>
      show (read (put none) (key, value x) >>= _) = _
      rw [h x rfl]
      rfl

/-- The entries of the paths are read as these paths. -/
theorem PathSettings.read_entries {s : PathSettings} (h : ∀ p ∈ s.chosen, p.IsUtf8) :
    (entriesOf s.settings).foldlM PathSettings.read ∅ = .ok s := by
  obtain ⟨hentry, hbundle, hbinDir, hbaseDir⟩ := PathSettings.forall_chosen_iff.mp h
  refine (foldlM_setting (fun entry => PathSettings.mk entry none none none) ?_ _).trans ?_
  · intro p hp
    rw [PathSettings.read, readPath_value (hentry p hp)]
    rfl
  refine (foldlM_setting (fun bundle => PathSettings.mk s.entry bundle none none) ?_ _).trans ?_
  · intro p hp
    rw [PathSettings.read, readPath_value (hbundle p hp)]
    rfl
  refine (foldlM_setting (fun binDir => PathSettings.mk s.entry s.bundle binDir none)
    ?_ _).trans ?_
  · intro p hp
    rw [PathSettings.read, readPath_value (hbinDir p hp)]
    rfl
  refine (foldlM_setting (fun baseDir => PathSettings.mk s.entry s.bundle s.binDir baseDir)
    ?_ []).trans rfl
  intro p hp
  rw [PathSettings.read, readPath_value (hbaseDir p hp)]
  rfl

/-- The entries of the compiler are read as these settings. -/
theorem CompilerSettings.read_entries (s : CompilerSettings) :
    (entriesOf s.settings).foldlM CompilerSettings.read ∅ = .ok s := by
  refine (foldlM_setting (fun backend => CompilerSettings.mk backend none none) ?_ _).trans ?_
  · intro b _
    rw [CompilerSettings.read, readBackend_value]
    rfl
  refine (foldlM_setting (fun program => CompilerSettings.mk s.backend program none)
    ?_ _).trans ?_
  · intro text _
    rfl
  refine (foldlM_setting (fun binary => CompilerSettings.mk s.backend s.program binary)
    ?_ []).trans rfl
  intro text _
  rfl

theorem BundleSettings.read_entries (s : BundleSettings) :
    (entriesOf s.settings).foldlM BundleSettings.read ∅ = .ok s := by
  refine (foldlM_setting (fun recursive => BundleSettings.mk recursive) ?_ []).trans rfl
  intro b _
  rfl

/-- The tables of a configuration make that configuration. -/
theorem Config.read_entries {c : Config} (h : ∀ p ∈ c.paths.chosen, p.IsUtf8) :
    c.entries.foldlM Config.read {} = .ok c := by
  have hpaths : ∀ d : Config, Config.read d ("paths", .table .header (entriesOf c.paths.settings)) =
      .ok { d with paths := c.paths } := by
    intro d
    rw [Config.read, readSection, PathSettings.read_entries h]
    rfl
  have hcompiler : ∀ d : Config,
      Config.read d ("compiler", .table .header (entriesOf c.compiler.settings)) =
      .ok { d with compiler := c.compiler } := by
    intro d
    rw [Config.read, readSection, CompilerSettings.read_entries]
    rfl
  have hbundle : ∀ d : Config,
      Config.read d ("bundle", .table .header (entriesOf c.bundle.settings)) =
      .ok { d with bundle := c.bundle } := by
    intro d
    rw [Config.read, readSection, BundleSettings.read_entries]
    rfl
  simp only [Config.entries, Config.sections, List.map_cons, List.foldlM_cons, hpaths,
    hcompiler, hbundle]
  rfl

/-- **ROUND TRIP**: a configuration is written exactly when the paths it sets are
    UTF-8, and what is written is read back as the same configuration. -/
theorem parse_toToml (c : Config) :
    ((∃ text, c.toToml = .ok text) ↔ ∀ p ∈ c.paths.chosen, p.IsUtf8) ∧
      ∀ text, c.toToml = .ok text → Config.parse text = .ok c := by
  simp only [toToml_eq_ok_iff]
  constructor
  · constructor
    · rintro ⟨text, hpaths, -⟩
      exact hpaths
    · intro hpaths
      exact ⟨_, hpaths, rfl⟩
  · rintro text ⟨hpaths, rfl⟩
    rw [Config.parse, parse_written]
    exact Config.read_entries hpaths

/-- A configuration of awkward texts: empty, with quotes of both kinds in a row, over
    several lines, with control characters and a backslash. -/
def awkward : Config :=
  { paths :=
      { entry := some (Path.ofText ""),
        baseDir := some (Path.ofText "a\"\"\"\"b\x27\x27\x27c") },
    compiler := { program := some "\r\n\x7f\t\\", binary := some "\n\x27\"\"\"\x27" } }

/-- Quotes, backslashes and line feeds are all read again. -/
theorem parse_toToml_awkward :
    ∃ text, awkward.toToml = .ok text ∧ Config.parse text = .ok awkward := by
  obtain ⟨hwritten, hread⟩ := parse_toToml awkward
  have hpaths : ∀ p ∈ awkward.paths.chosen, p.IsUtf8 := by
    intro p hp
    simp [awkward, PathSettings.chosen] at hp
    rcases hp with rfl | rfl
    · exact ⟨_, rfl⟩
    · exact ⟨_, rfl⟩
  obtain ⟨text, htext⟩ := hwritten.mpr hpaths
  exact ⟨text, htext, hread text htext⟩

end SourceBundle
