import SourceBundle.CommandLine
import SourceBundle.Config.Layers
import SourceBundle.Proofs.ConfigRoundTrip

/-! # Layers — which setting is in effect

    The configuration in effect is made of five layers: the built-in defaults,
    the user's file, the workspace's file or the one named, the environment and
    the command line.  Whatever code puts a layer on top, it merges
    (`merge_environmentLayer`, `apply_eq_merge`), so all is said of a list of
    layers of any length.

    A setting comes from the highest layer that sets it (`setting_stack`).  The
    program alone has a history: it is dropped where a layer above the one that
    chose it `Switches` the backend, and it does not come back when a still
    higher layer switches the backend back (`layered_stack`). -/

namespace SourceBundle

/-! ## Layers of any number -/

/-- The configuration of layers, the lowest first. -/
def Config.stack (layers : List Config) : Config := layers.foldl Config.merge {}

/-- The value of the highest layer that sets one; the lowest layer comes first. -/
def highest {α : Type} (setting : Config → Option α) (layers : List Config) :
    Option α :=
  layers.reverse.findSome? setting

/-- Layer `k` sets a backend that is not the one in effect just below it. -/
def Switches (layers : List Config) (k : Nat) : Prop :=
  ∃ layer b, layers[k]? = some layer ∧ layer.compiler.backend = some b ∧
    highest (·.compiler.backend) (layers.take k) ≠ some b

/-- Layer `j` is the highest that sets a program, and this is the program. -/
def Chooses (layers : List Config) (j : Nat) (program : String) : Prop :=
  (∃ layer, layers[j]? = some layer ∧ layer.compiler.program = some program) ∧
    ∀ k layer, j < k → layers[k]? = some layer → layer.compiler.program = none

/-- The configuration `c` is what the layers come to. -/
structure Layered (layers : List Config) (c : Config) : Prop where
  entry : c.paths.entry = highest (·.paths.entry) layers
  bundle : c.paths.bundle = highest (·.paths.bundle) layers
  binDir : c.paths.binDir = highest (·.paths.binDir) layers
  baseDir : c.paths.baseDir = highest (·.paths.baseDir) layers
  backend : c.compiler.backend = highest (·.compiler.backend) layers
  binary : c.compiler.binary = highest (·.compiler.binary) layers
  recursive : c.bundle.recursive = highest (·.bundle.recursive) layers
  /-- A program stays while no layer above switches the backend. -/
  kept : ∀ j program, Chooses layers j program →
    (¬ ∃ k, j < k ∧ Switches layers k) → c.compiler.program = some program
  /-- Behind a switch the backend in effect decides on the program. -/
  dropped : ∀ j program, Chooses layers j program →
    (∃ k, j < k ∧ Switches layers k) → c.compiler.program = none ∧
      ∃ b, c.compiler.backend = some b ∧ c.program = b.defaultProgram
  unset : (∀ layer ∈ layers, layer.compiler.program = none) →
    c.compiler.program = none

/-- A further layer is merged on top. -/
theorem stack_append_singleton (layers : List Config) (top : Config) :
    Config.stack (layers ++ [top]) = (Config.stack layers).merge top := by
  rw [Config.stack, List.foldl_append]
  rfl

/-- The topmost layer is asked first. -/
theorem highest_append_singleton {α : Type} (setting : Config → Option α)
    (layers : List Config) (top : Config) :
    highest setting (layers ++ [top])
      = (setting top <|> highest setting layers) := by
  rw [highest, List.reverse_append, List.reverse_singleton, List.singleton_append,
    List.findSome?_cons, highest]
  cases setting top <;> rfl

/-- **HIGHEST LAYER**: what two layers decide by the higher one, all layers
    decide by the highest one that sets it. -/
theorem setting_stack {α : Type} (setting : Config → Option α)
    (hempty : setting {} = none)
    (hmerge : ∀ base top, setting (base.merge top) = (setting top <|> setting base))
    (layers : List Config) : setting (Config.stack layers) = highest setting layers := by
  induction layers using List.reverseRecOn with
  | nil => exact hempty
  | append_singleton layers top ih =>
      rw [stack_append_singleton, hmerge, highest_append_singleton, ih]

/-! ## The program -/

/-- Merging chooses the backend anew and then the program: a program that the
    change of backend drops, though a new one comes, is replaced anyway. -/
theorem CompilerSettings.merge_eq (base higher : CompilerSettings) :
    base.merge higher
      = { (base.withBackend higher.backend).withProgram higher.program with
          binary := higher.binary <|> base.binary } := by
  obtain ⟨backend, program, binary⟩ := higher
  cases backend with
  | none => rfl
  | some b =>
      simp only [CompilerSettings.merge, CompilerSettings.withProgram,
        CompilerSettings.withBackend]
      by_cases hsame : base.backend = some b
      · rw [if_neg fun h => h.1 hsame, if_pos hsame]
      · cases program with
        | none => rw [if_pos ⟨hsame, rfl⟩, if_neg hsame]
        | some chosen => rfl

/-- A backend set on top is in effect. -/
theorem backend_merge (base top : Config) :
    (base.merge top).compiler.backend
      = (top.compiler.backend <|> base.compiler.backend) := by
  simp only [Config.merge, CompilerSettings.merge_eq, CompilerSettings.withProgram,
    CompilerSettings.withBackend]
  cases top.compiler.backend <;> rfl

/-- The backend in effect is the highest one set. -/
theorem backend_stack (layers : List Config) :
    (Config.stack layers).compiler.backend
      = highest (·.compiler.backend) layers :=
  setting_stack (·.compiler.backend) rfl backend_merge layers

/-- The program of two layers is the higher one's, else the lower one's if the
    backend stays. -/
theorem program_merge (base top : Config) :
    (base.merge top).compiler.program = (top.compiler.program <|>
      if ∃ b, top.compiler.backend = some b ∧ base.compiler.backend ≠ some b then none
      else base.compiler.program) := by
  simp only [Config.merge, CompilerSettings.merge_eq, CompilerSettings.withProgram,
    CompilerSettings.withBackend]
  cases top.compiler.backend with
  | none => simp
  | some b => by_cases h : base.compiler.backend = some b <;> simp [h]

/-- The highest layer switches where its backend is not that of all layers below. -/
theorem switches_last_iff {layers : List Config} {top : Config} :
    Switches (layers ++ [top]) layers.length ↔
      ∃ b, top.compiler.backend = some b ∧
        (Config.stack layers).compiler.backend ≠ some b := by
  simp [Switches, backend_stack]

/-- What a layer does to those below does not depend on those above. -/
theorem switches_append_iff {layers : List Config} {top : Config} {k : Nat}
    (hk : k < layers.length) :
    Switches (layers ++ [top]) k ↔ Switches layers k := by
  rw [Switches, Switches, List.getElem?_append_left hk,
    List.take_append_of_le_length hk.le]

theorem Switches.lt_length {layers : List Config} {k : Nat}
    (h : Switches layers k) : k < layers.length := by
  obtain ⟨layer, b, hlayer, -⟩ := h
  exact (List.getElem?_eq_some_iff.mp hlayer).1

theorem Chooses.lt_length {layers : List Config} {j : Nat} {program : String}
    (h : Chooses layers j program) : j < layers.length := by
  obtain ⟨⟨layer, hlayer, -⟩, -⟩ := h
  exact (List.getElem?_eq_some_iff.mp hlayer).1

/-- A layer on top chooses the program itself or leaves the choice below. -/
theorem chooses_append_singleton {layers : List Config} {top : Config} {j : Nat}
    {program : String} (h : Chooses (layers ++ [top]) j program) :
    (j = layers.length ∧ top.compiler.program = some program) ∨
      (top.compiler.program = none ∧ Chooses layers j program) := by
  have hj := h.lt_length
  obtain ⟨⟨layer, hlayer, hprogram⟩, habove⟩ := h
  rw [List.length_append, List.length_singleton] at hj
  rcases Nat.lt_succ_iff_lt_or_eq.mp hj with hj | rfl
  · have htop : top.compiler.program = none := habove _ _ hj (by simp)
    rw [List.getElem?_append_left hj] at hlayer
    refine .inr ⟨htop, ⟨layer, hlayer, hprogram⟩, ?_⟩
    intro k above hjk hk
    have hlt := (List.getElem?_eq_some_iff.mp hk).1
    exact habove k above hjk (by rw [List.getElem?_append_left hlt, hk])
  · obtain rfl : top = layer := by simpa using hlayer
    exact .inl ⟨rfl, hprogram⟩

/-- A layer without a program leaves the one below, or drops it where it
    switches the backend. -/
theorem program_under {layers : List Config} {top : Config}
    (htop : top.compiler.program = none) :
    (Switches (layers ++ [top]) layers.length →
        (Config.stack (layers ++ [top])).compiler.program = none) ∧
      (¬ Switches (layers ++ [top]) layers.length →
        (Config.stack (layers ++ [top])).compiler.program
          = (Config.stack layers).compiler.program) := by
  rw [stack_append_singleton, program_merge, htop, switches_last_iff]
  constructor
  · intro hswitch
    rw [if_pos hswitch]
    rfl
  · intro hstay
    rw [if_neg hstay]
    rfl

/-- A program stays while no layer above it switches the backend. -/
theorem program_kept {layers : List Config} {j : Nat} {program : String}
    (h : Chooses layers j program) (hstay : ¬ ∃ k, j < k ∧ Switches layers k) :
    (Config.stack layers).compiler.program = some program := by
  induction layers using List.reverseRecOn generalizing j with
  | nil => exact absurd h.lt_length (Nat.not_lt_zero j)
  | append_singleton layers top ih =>
      rcases chooses_append_singleton h with ⟨-, htop⟩ | ⟨htop, h⟩
      · rw [stack_append_singleton, program_merge, htop]
        rfl
      · have hlast : ¬ Switches (layers ++ [top]) layers.length :=
          fun hswitch => hstay ⟨_, h.lt_length, hswitch⟩
        rw [(program_under htop).2 hlast]
        refine ih h ?_
        rintro ⟨k, hk, hswitch⟩
        exact hstay ⟨k, hk, (switches_append_iff hswitch.lt_length).mpr hswitch⟩

/-- A switch of the backend drops the program chosen below it. -/
theorem program_dropped {layers : List Config} {j : Nat} {program : String}
    (h : Chooses layers j program) (hswitch : ∃ k, j < k ∧ Switches layers k) :
    (Config.stack layers).compiler.program = none := by
  induction layers using List.reverseRecOn generalizing j with
  | nil => exact absurd h.lt_length (Nat.not_lt_zero j)
  | append_singleton layers top ih =>
      obtain ⟨k, hk, hswitch⟩ := hswitch
      have hlt := hswitch.lt_length
      rw [List.length_append, List.length_singleton] at hlt
      rcases chooses_append_singleton h with ⟨rfl, -⟩ | ⟨htop, h⟩
      · omega
      · by_cases hlast : Switches (layers ++ [top]) layers.length
        · exact (program_under htop).1 hlast
        · -- the switch is further down, and no layer above it brings the program back
          have hne : k ≠ layers.length := fun heq => hlast (heq ▸ hswitch)
          rw [(program_under htop).2 hlast]
          exact ih h ⟨k, hk, (switches_append_iff (by omega)).mp hswitch⟩

/-- Where no layer sets a program, none is set. -/
theorem program_unset {layers : List Config}
    (h : ∀ layer ∈ layers, layer.compiler.program = none) :
    (Config.stack layers).compiler.program = none := by
  induction layers using List.reverseRecOn with
  | nil => rfl
  | append_singleton layers top ih =>
      have htop := h top (by simp)
      have hbelow := ih fun layer hlayer => h layer (by simp [hlayer])
      by_cases hlast : Switches (layers ++ [top]) layers.length
      · exact (program_under htop).1 hlast
      · rw [(program_under htop).2 hlast, hbelow]

/-- Some backend is in effect above a switch. -/
theorem Switches.backend_stack {layers : List Config} {k : Nat}
    (h : Switches layers k) :
    ∃ b, (Config.stack layers).compiler.backend = some b := by
  obtain ⟨layer, b, hlayer, hb, -⟩ := h
  rw [SourceBundle.backend_stack, highest, ← Option.isSome_iff_exists,
    List.findSome?_isSome_iff]
  exact ⟨layer, List.mem_reverse.mpr (List.mem_of_getElem? hlayer), by simp [hb]⟩

/-- **LAYERS**: of any number of layers, each setting is that of the highest one
    that sets it, and the program is too unless the backend is switched above. -/
theorem layered_stack (layers : List Config) :
    Layered layers (Config.stack layers) where
  entry := setting_stack (·.paths.entry) rfl (fun _ _ => rfl) layers
  bundle := setting_stack (·.paths.bundle) rfl (fun _ _ => rfl) layers
  binDir := setting_stack (·.paths.binDir) rfl (fun _ _ => rfl) layers
  baseDir := setting_stack (·.paths.baseDir) rfl (fun _ _ => rfl) layers
  backend := backend_stack layers
  binary := setting_stack (·.compiler.binary) rfl (fun _ _ => rfl) layers
  recursive := setting_stack (·.bundle.recursive) rfl (fun _ _ => rfl) layers
  kept := fun _ _ h hstay => program_kept h hstay
  dropped := by
    rintro j program h ⟨k, hk, hswitch⟩
    obtain ⟨b, hb⟩ := hswitch.backend_stack
    have hnone := program_dropped h ⟨k, hk, hswitch⟩
    refine ⟨hnone, b, hb, ?_⟩
    rw [Config.program, hnone, Config.backend, hb]
    rfl
  unset := program_unset

/-! ## The five layers -/

/-- What a file sets, if there is a path for it and something stands there. -/
inductive FileLayer (fs : FileSystem) : Option Path → Config → Prop where
  | nowhere : FileLayer fs none {}
  | missing {path : Path} : fs.pathExists path = false → FileLayer fs (some path) {}
  | file {path : Path} {bytes : Bytes} {text : String} {layer : Config} :
      fs.pathExists path = true → fs.contents path = .ok bytes →
      Utf8.decode? bytes = some text → Config.parse text = .ok layer →
      FileLayer fs (some path) layer

/-- What the environment sets. -/
def EnvironmentLayer (env : Environment) (layer : Config) : Prop :=
  ∃ backend, (env.text? "MLBUNDLE_BACKEND").mapM Backend.ofText = .ok backend ∧
    layer = { compiler :=
      { backend := backend, program := env.text? "MLBUNDLE_COMPILER" } }

/-- What a command line sets. -/
def CommandLine.layer (c : CommandLine) : Config :=
  { paths :=
      { entry := c.entry, bundle := c.bundle, binDir := c.binDir, baseDir := c.baseDir },
    compiler := { backend := c.backend, program := c.compiler, binary := c.binary },
    bundle := { recursive := if c.recursive then some true else none } }

/-- The path of the workspace's layer. -/
def Config.workspacePath (named : Option Path) : Path := named.getD workspaceFile

/-- The command line is put on top like any other layer. -/
theorem apply_eq_merge (c : CommandLine) (config : Config) :
    c.apply config = config.merge c.layer := by
  simp only [CommandLine.apply, Config.merge, CommandLine.layer, PathSettings.merge,
    CompilerSettings.merge_eq, BundleSettings.merge]
  cases c.recursive <;> rfl

/-- What is put on an empty configuration stays as it is. -/
theorem empty_merge (c : Config) : Config.merge {} c = c := by
  obtain ⟨⟨entry, bundle, binDir, baseDir⟩, ⟨backend, program, binary⟩, ⟨recursive⟩⟩ := c
  simp only [Config.merge, PathSettings.merge, CompilerSettings.merge_eq,
    CompilerSettings.withProgram, CompilerSettings.withBackend, BundleSettings.merge]
  cases backend <;> simp

theorem merge_environment (c : Config) (backend : Option Backend) (program : Option String) :
    c.merge { compiler := { backend := backend, program := program } }
      = { c with
          compiler := (c.compiler.merge { backend := backend }).withProgram program } := by
  simp [Config.merge, PathSettings.merge, CompilerSettings.merge_eq,
    CompilerSettings.withProgram, CompilerSettings.withBackend, BundleSettings.merge]

/-- The settings of the environment are put on top like any other layer, if they
    name a backend that exists or none. -/
theorem override_eq_ok_iff {c overridden : Config} {backend program : Option String} :
    c.overrideFromEnvironment backend program = .ok overridden ↔
      ∃ b, backend.mapM Backend.ofText = .ok b ∧
        c.merge { compiler := { backend := b, program := program } } = overridden := by
  unfold Config.overrideFromEnvironment
  cases backend with
  | none =>
      have hbase : c.compiler.merge { backend := none } = c.compiler := by
        simp [CompilerSettings.merge_eq, CompilerSettings.withProgram,
          CompilerSettings.withBackend]
      simp [merge_environment, hbase, pure, Except.pure]
  | some text =>
      cases htext : Backend.ofText text with
      | error cause => simp [htext, Functor.map, Except.map]
      | ok b => simp [htext, merge_environment, Functor.map, Except.map]

/-- Overriding by variables is merging the layer that they make. -/
theorem overrideFromEnvironment_eq_ok_iff {c loaded : Config} {env : Environment} :
    c.overrideFromEnvironment (env.text? "MLBUNDLE_BACKEND") (env.text? "MLBUNDLE_COMPILER")
      = .ok loaded ↔ ∃ layer, EnvironmentLayer env layer ∧ c.merge layer = loaded := by
  rw [override_eq_ok_iff]
  constructor
  · rintro ⟨b, hb, rfl⟩
    exact ⟨_, ⟨b, hb, rfl⟩, rfl⟩
  · rintro ⟨layer, ⟨b, hb, rfl⟩, rfl⟩
    exact ⟨b, hb, rfl⟩

/-- A file is read as a configuration if its bytes are text and the text is one. -/
theorem ofFile_eq_ok_iff {fs : FileSystem} {path : Path} {layer : Config} :
    Config.ofFile fs path = .ok layer ↔ ∃ bytes text,
      fs.contents path = .ok bytes ∧ Utf8.decode? bytes = some text ∧
        Config.parse text = .ok layer := by
  unfold Config.ofFile
  constructor
  · intro h
    split at h
    · cases h
    · next bytes hread =>
        split at h
        · cases h
        · next text htext =>
            split at h
            · cases h
            · next config hparse =>
                obtain rfl := Except.ok.inj h
                exact ⟨bytes, text, hread, htext, hparse⟩
  · rintro ⟨bytes, text, hread, htext, hparse⟩
    simp only [hread, htext, hparse]

/-- Reading a file that may be missing gives its layer. -/
theorem ofFileIfThere_eq_ok_iff {fs : FileSystem} {path : Path} {layer : Config} :
    Config.ofFileIfThere fs path = .ok layer ↔ FileLayer fs (some path) layer := by
  unfold Config.ofFileIfThere
  cases hthere : fs.pathExists path with
  | false =>
      constructor
      · intro h
        rw [← Except.ok.inj h]
        exact .missing hthere
      · intro h
        cases h with
        | missing => rfl
        | file hthere' => cases hthere.symm.trans hthere'
  | true =>
      rw [if_pos rfl, ofFile_eq_ok_iff]
      constructor
      · rintro ⟨bytes, text, hread, htext, hparse⟩
        exact .file hthere hread htext hparse
      · intro h
        cases h with
        | missing hmissing => cases hthere.symm.trans hmissing
        | file _ hread htext hparse => exact ⟨_, _, hread, htext, hparse⟩

/-- A path has one layer. -/
theorem FileLayer.unique {fs : FileSystem} {path : Option Path} {layer layer' : Config}
    (h : FileLayer fs path layer) (h' : FileLayer fs path layer') : layer = layer' := by
  cases path with
  | none =>
      cases h
      cases h'
      rfl
  | some path =>
      rw [← ofFileIfThere_eq_ok_iff] at h h'
      exact Except.ok.inj (h.symm.trans h')

/-- The file of a layer sets the same on both file systems: nothing on either,
    be it missing or a file without settings, or what the same content sets. -/
def SameLayer (fs fs' : FileSystem) (path : Option Path) : Prop :=
  (FileLayer fs path {} ∧ FileLayer fs' path {}) ∨
    ∀ p ∈ path, fs'.pathExists p = fs.pathExists p ∧ fs'.contents p = fs.contents p

/-- The same layer stands for the same configuration. -/
theorem ofFileIfThere_congr {fs fs' : FileSystem} {path : Path}
    (h : SameLayer fs fs' (some path)) :
    Config.ofFileIfThere fs' path = Config.ofFileIfThere fs path := by
  rcases h with ⟨hnothing, hnothing'⟩ | hsame
  · rw [ofFileIfThere_eq_ok_iff.mpr hnothing, ofFileIfThere_eq_ok_iff.mpr hnothing']
  · obtain ⟨hthere, hread⟩ := hsame path rfl
    simp only [Config.ofFileIfThere, Config.ofFile, hthere, hread]

/-- The layer of the user's file, if there is a path for it. -/
def Config.ofUser (session : Session) : Except ConfigError Config :=
  match userFile? session with
  | none => .ok {}
  | some path => ofFileIfThere session.files path

/-- The user's layer is that of the user's file. -/
theorem ofUser_eq_ok_iff {session : Session} {layer : Config} :
    Config.ofUser session = .ok layer ↔
      FileLayer session.files (Config.userFile? session) layer := by
  unfold Config.ofUser
  cases Config.userFile? session with
  | none =>
      constructor
      · intro h
        rw [← Except.ok.inj h]
        exact .nowhere
      · intro h
        cases h
        rfl
  | some path => exact ofFileIfThere_eq_ok_iff

/-- A file that is named has to be one. -/
def Config.checkNamed (fs : FileSystem) : Option Path → Except ConfigError Unit
  | none => .ok ()
  | some path => if fs.isFile path then .ok () else .error (.noSuchFile path)

/-- Loading checks the file named and then puts layer on layer. -/
theorem load_eq (session : Session) (named : Option Path) :
    Config.load session named = (do
      Config.checkNamed session.files named
      let base ← Config.defaults
      let user ← Config.ofUser session
      let higher ← Config.ofFileIfThere session.files (Config.workspacePath named)
      ((base.merge user).merge higher).overrideFromEnvironment
        (session.environment.text? "MLBUNDLE_BACKEND")
        (session.environment.text? "MLBUNDLE_COMPILER")) := by
  unfold Config.load Config.ofUser
  cases named with
  | none => cases Config.userFile? session <;> rfl
  | some path =>
      dsimp only [Config.checkNamed]
      cases session.files.isFile path <;> cases Config.userFile? session <;> rfl

/-- The built-in defaults as a configuration. -/
def Config.builtIn : Config :=
  { paths :=
      { entry := some (Path.ofText "./main.ml"),
        bundle := some (Path.ofText "../bin/bcotp.ml"),
        binDir := some (Path.ofText "../bin"), baseDir := some (Path.ofText ".") },
    compiler :=
      { backend := some .native, binary := some "BigCitiesOnTinyPlanets.exe" },
    bundle := { recursive := some false } }

/-- Reading a configuration looks at the characters of its text. -/
theorem parse_of_toList {text : String} {cs : List Char} (h : text.toList = cs) :
    Config.parse text = (match (do
        let lines ← Toml.linesOfText cs
        let draft ← lines.foldlM Toml.Draft.add ⟨[], []⟩
        return draft.root) with
      | none => .error .notToml
      | some entries => entries.foldlM Config.read {}) := by
  subst h
  rfl

/-- The text of the defaults is read as the defaults. -/
theorem parse_defaultsText :
    Config.parse Config.defaultsText = .ok Config.builtIn := by
  rw [parse_of_toList]
  rotate_left
  · -- line by line, since a long text is slow to take apart
    unfold Config.defaultsText
    rw [String.toList_append, String.toList_append, String.toList_append,
      String.toList_append, String.toList_append, String.toList_append,
      String.toList_append, String.toList_append, String.toList_append,
      String.toList_append, String.toList_append, String.toList_append,
      String.toList_append, String.toList_append]
  · decide +kernel

/-- The text of the built-in defaults is a configuration. -/
theorem defaults_eq : Config.defaults = .ok Config.builtIn := by
  unfold Config.defaults
  rw [parse_defaultsText]
  rfl

theorem checkNamed_eq_ok_iff {fs : FileSystem} {named : Option Path} :
    Config.checkNamed fs named = .ok () ↔
      ∀ path, named = some path → fs.isFile path = true := by
  cases named with
  | none => simp [Config.checkNamed]
  | some path => simp [Config.checkNamed]

/-- What is loaded is the lower four layers. -/
theorem load_eq_ok_iff {session : Session} {named : Option Path} {loaded : Config} :
    Config.load session named = .ok loaded ↔
      (∀ path, named = some path → session.files.isFile path = true) ∧
      ∃ user workspace environment,
        FileLayer session.files (Config.userFile? session) user ∧
        FileLayer session.files (some (Config.workspacePath named)) workspace ∧
        EnvironmentLayer session.environment environment ∧
        Config.stack [Config.builtIn, user, workspace, environment] = loaded := by
  have hstack : ∀ user workspace environment,
      Config.stack [Config.builtIn, user, workspace, environment]
        = ((Config.builtIn.merge user).merge workspace).merge environment := by
    intro user workspace environment
    simp only [Config.stack, List.foldl_cons, List.foldl_nil, empty_merge]
  rw [load_eq, defaults_eq]
  simp only [bind_eq_ok_iff, ofUser_eq_ok_iff, ofFileIfThere_eq_ok_iff,
    overrideFromEnvironment_eq_ok_iff, hstack, ← checkNamed_eq_ok_iff]
  constructor
  · rintro ⟨_, hnamed, base, hbase, user, huser, workspace, hworkspace, environment, henv, rfl⟩
    obtain rfl := Except.ok.inj hbase
    exact ⟨hnamed, user, workspace, environment, huser, hworkspace, henv, rfl⟩
  · rintro ⟨hnamed, user, workspace, environment, huser, hworkspace, henv, rfl⟩
    exact ⟨(), hnamed, _, rfl, user, huser, workspace, hworkspace, environment, henv, rfl⟩

/-- Loading depends on the files of the two layers and on nothing else on the
    disk. -/
theorem load_congr {session : Session} {fs' : FileSystem} {named : Option Path}
    (hnamed : ∀ path, named = some path → fs'.isFile path = session.files.isFile path)
    (huser : SameLayer session.files fs' (Config.userFile? session))
    (hworkspace : SameLayer session.files fs' (some (Config.workspacePath named))) :
    Config.load { session with files := fs' } named = Config.load session named := by
  have hcheck : Config.checkNamed fs' named = Config.checkNamed session.files named := by
    cases named with
    | none => rfl
    | some path => rw [Config.checkNamed, Config.checkNamed, hnamed path rfl]
  have hofUser : Config.ofUser { session with files := fs' } = Config.ofUser session := by
    have hwhere : Config.userFile? { session with files := fs' } = Config.userFile? session := rfl
    unfold Config.ofUser
    rw [hwhere]
    cases hpath : Config.userFile? session with
    | none => rfl
    | some path =>
        rw [hpath] at huser
        exact ofFileIfThere_congr huser
  rw [load_eq, load_eq, hcheck, hofUser, ofFileIfThere_congr hworkspace]

/-- **FIVE LAYERS**: the configuration in effect is that of the defaults, the
    user's file, the workspace's file or the one named, the environment and the
    command line, the higher ones first.  There is one exactly where the layers
    can be read.  A missing file and one that sets nothing are alike, and nothing
    else on the disk has an influence. -/
theorem load_layered (session : Session) (c : CommandLine) :
    (∀ loaded, Config.load session c.config = .ok loaded →
      ∃ user workspace environment,
        Config.parse Config.defaultsText = .ok Config.builtIn ∧
        FileLayer session.files (Config.userFile? session) user ∧
        FileLayer session.files (some (Config.workspacePath c.config)) workspace ∧
        EnvironmentLayer session.environment environment ∧
        Layered [Config.builtIn, user, workspace, environment, c.layer]
          (c.apply loaded)) ∧
    ((∃ loaded, Config.load session c.config = .ok loaded) ↔
      (∀ path, c.config = some path → session.files.isFile path = true) ∧
        (∃ user, FileLayer session.files (Config.userFile? session) user) ∧
        (∃ workspace,
          FileLayer session.files (some (Config.workspacePath c.config)) workspace) ∧
        ∃ environment, EnvironmentLayer session.environment environment) ∧
    ∀ fs' : FileSystem,
      (∀ path, c.config = some path → fs'.isFile path = session.files.isFile path) →
      SameLayer session.files fs' (Config.userFile? session) →
      SameLayer session.files fs' (some (Config.workspacePath c.config)) →
      Config.load { session with files := fs' } c.config = Config.load session c.config := by
  refine ⟨?_, ?_, ?_⟩
  · intro loaded h
    obtain ⟨-, user, workspace, environment, huser, hworkspace, henv, rfl⟩ :=
      load_eq_ok_iff.mp h
    refine ⟨user, workspace, environment, parse_defaultsText, huser, hworkspace, henv, ?_⟩
    rw [apply_eq_merge, ← stack_append_singleton]
    exact layered_stack _
  · simp only [load_eq_ok_iff]
    constructor
    · rintro ⟨-, hnamed, user, workspace, environment, huser, hworkspace, henv, -⟩
      exact ⟨hnamed, ⟨user, huser⟩, ⟨workspace, hworkspace⟩, environment, henv⟩
    · rintro ⟨hnamed, ⟨user, huser⟩, ⟨workspace, hworkspace⟩, environment, henv⟩
      exact ⟨_, hnamed, user, workspace, environment, huser, hworkspace, henv, rfl⟩
  · intro fs' hnamed huser hworkspace
    exact load_congr hnamed huser hworkspace

/-- A user's file that chooses a program, a workspace's file for bytecode, and
    an environment that goes back to a native build. -/
def switchedBack : Session :=
  { files := ⟨[([Utf8.encode "c", Utf8.encode "mlbundle", Utf8.encode "config.toml"],
        .file (Utf8.encode "[compiler]\nprogram = \"foo\"\n") false),
      ([Utf8.encode "c", Utf8.encode "mlbundle"], .directory),
      ([Utf8.encode "c"], .directory),
      ([Utf8.encode "mlbundle.toml"],
        .file (Utf8.encode "[compiler]\nbackend = \"bytecode\"\n") false)], [], none⟩,
    environment := ⟨[("MLBUNDLE_BACKEND", Utf8.encode "native")]⟩,
    configDir := some (Path.ofText "/c") }

/-- Its layers below an empty command line. -/
def switchedBackLayers : List Config :=
  [Config.builtIn, { compiler := { program := some "foo" } },
    { compiler := { backend := some .bytecode } }, { compiler := { backend := some .native } }]

theorem userLayer_switchedBack : FileLayer switchedBack.files
    (Config.userFile? switchedBack) { compiler := { program := some "foo" } } := by
  have hpath : Config.userFile? switchedBack
      = some (Path.ofText "/c/mlbundle/config.toml") := by
    decide +kernel
  have hread : switchedBack.files.contents (Path.ofText "/c/mlbundle/config.toml")
      = .ok (Utf8.encode "[compiler]\nprogram = \"foo\"\n") := by
    cbv
  rw [hpath]
  exact .file (by cbv) hread (Utf8.decode?_eq_some_iff.mpr rfl) (by decide +kernel)

theorem workspaceLayer_switchedBack : FileLayer switchedBack.files
    (some Config.workspaceFile) { compiler := { backend := some .bytecode } } := by
  have hread : switchedBack.files.contents Config.workspaceFile
      = .ok (Utf8.encode "[compiler]\nbackend = \"bytecode\"\n") := by
    cbv
  exact .file (by cbv) hread (Utf8.decode?_eq_some_iff.mpr rfl) (by decide +kernel)

theorem backend_switchedBack :
    switchedBack.environment.text? "MLBUNDLE_BACKEND" = some "native" :=
  Utf8.decode?_eq_some_iff.mpr rfl

/-- The four layers of `switchedBack` load. -/
theorem load_switchedBack :
    Config.load switchedBack none = .ok (Config.stack switchedBackLayers) := by
  have henv : EnvironmentLayer switchedBack.environment
      { compiler := { backend := some .native } } :=
    ⟨some .native, by rw [backend_switchedBack]; decide +kernel, rfl⟩
  refine load_eq_ok_iff.mpr ⟨?_, _, _, _, userLayer_switchedBack,
    workspaceLayer_switchedBack, henv, rfl⟩
  intro path h
  cases h

/-- The program of the user's file is gone, though the backend it was chosen for
    is the one in effect. -/
theorem load_layered_switchedBack :
    Config.load switchedBack none = .ok (Config.stack switchedBackLayers) ∧
      (CommandLine.apply {} (Config.stack switchedBackLayers)).compiler.program = none ∧
      (CommandLine.apply {} (Config.stack switchedBackLayers)).program = "ocamlopt" := by
  obtain ⟨user, workspace, environment, -, huser, hworkspace, ⟨backend, hbackend, rfl⟩,
    hlayered⟩ := (load_layered switchedBack {}).1 _ load_switchedBack
  obtain rfl := huser.unique userLayer_switchedBack
  obtain rfl := hworkspace.unique workspaceLayer_switchedBack
  rw [backend_switchedBack] at hbackend
  obtain rfl : some .native = backend := Except.ok.inj hbackend
  have habove : ∀ k layer, 1 < k →
      (switchedBackLayers ++ [CommandLine.layer {}])[k]? = some layer →
      layer.compiler.program = none := by
    intro k layer hk hlayer
    have hlt : k < 5 := (List.getElem?_eq_some_iff.mp hlayer).1
    interval_cases k <;> (obtain rfl := Option.some.inj hlayer; rfl)
  obtain ⟨hnone, b, hb, hprogram⟩ := hlayered.dropped 1 "foo" ⟨⟨_, rfl, rfl⟩, habove⟩
    ⟨2, by omega, _, .bytecode, rfl, rfl, by decide +kernel⟩
  obtain rfl : .native = b := Option.some.inj (hlayered.backend.symm.trans hb)
  exact ⟨load_switchedBack, hnone, hprogram⟩

end SourceBundle
