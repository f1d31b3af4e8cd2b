import SourceBundle.Build
import SourceBundle.Proofs.Overrides

/-! # Fallbacks — the defaults that are written twice

    A setting that is left open has its value from one of two places: the built-in
    defaults, which stand below all other layers, or the fallback of the setting
    itself.  It does not matter from which (`ofConfig_over_defaults`).

    Nothing but the two extremes has to be compared for that.  A base that is idle,
    by itself the same as an empty configuration, is idle under every layer
    (`ofConfig_merge_iff`), the program included: one that is the default of its
    backend is dropped where a layer changes the backend, and else it is the
    default. -/

namespace SourceBundle

/-- By itself the base is the same as an empty configuration. -/
def Config.Idle (base : Config) : Prop :=
  BuildSettings.ofConfig base = BuildSettings.ofConfig {}

/-- Where the base has the fallback, or nothing, it makes no difference. -/
theorem getD_choose {α : Type} {base : Option α} {fallback : α}
    (h : base.getD fallback = fallback) (top : Option α) :
    (top <|> base).getD fallback = top.getD fallback := by
  cases top with
  | none => exact h
  | some a => rfl

namespace Config.Idle

variable {base : Config}

theorem backend_eq (h : base.Idle) : base.backend = .native :=
  congrArg BuildSettings.backend h

/-- An idle layer leaves the program to the backend. -/
theorem program_eq (h : base.Idle) : base.program = base.backend.defaultProgram := by
  rw [h.backend_eq]
  exact congrArg BuildSettings.program h

theorem recursive_eq (h : base.Idle) : base.bundle.recursive.getD false = false := by
  have hmode : base.inlineMode = .single := congrArg (fun s : BuildSettings => s.options.mode) h
  rw [Config.inlineMode] at hmode
  cases hrecursive : base.bundle.recursive.getD false with
  | false => rfl
  | true =>
      rw [hrecursive] at hmode
      exact nomatch hmode

/-- The backend of what is put on an idle layer shows. -/
theorem backend_merge (h : base.Idle) (c : Config) : (base.merge c).backend = c.backend := by
  rw [Config.backend, SourceBundle.backend_merge]
  exact getD_choose h.backend_eq _

/-- A layer that does not change the backend of the base has it. -/
theorem backend_of_kept (h : base.Idle) {c : Config}
    (hkept : ¬ ∃ b, c.compiler.backend = some b ∧ base.compiler.backend ≠ some b) :
    c.backend = base.backend := by
  cases hbackend : c.compiler.backend with
  | none =>
      rw [Config.backend, hbackend, h.backend_eq]
      rfl
  | some b =>
      have hbase : base.compiler.backend = some b := by
        by_contra hne
        exact hkept ⟨b, hbackend, hne⟩
      rw [Config.backend, Config.backend, hbackend, hbase]

/-- The program of the base goes with a change of the backend, and without one it is
    the backend's own. -/
theorem program_merge (h : base.Idle) (c : Config) : (base.merge c).program = c.program := by
  rw [Config.program, h.backend_merge, SourceBundle.program_merge, Config.program]
  cases c.compiler.program with
  | some program => rfl
  | none =>
      by_cases hswitch : ∃ b, c.compiler.backend = some b ∧ base.compiler.backend ≠ some b
      · rw [if_pos hswitch]
        rfl
      · rw [if_neg hswitch, h.backend_of_kept hswitch]
        exact h.program_eq

/-- So does its mode of inlining. -/
theorem inlineMode_merge (h : base.Idle) (c : Config) :
    (base.merge c).inlineMode = c.inlineMode := by
  have hrecursive : (base.merge c).bundle.recursive.getD false
      = c.bundle.recursive.getD false :=
    getD_choose h.recursive_eq _
  rw [Config.inlineMode, hrecursive, Config.inlineMode]

end Config.Idle

/-- **THE TWO EXTREMES DECIDE**: every layer builds with its own settings on a base
    exactly if the empty layer does. -/
theorem ofConfig_merge_iff {base : Config} :
    (∀ c, BuildSettings.ofConfig (base.merge c) = BuildSettings.ofConfig c) ↔ base.Idle := by
  constructor
  · intro h
    have hempty := h {}
    rwa [merge_empty] at hempty
  · intro h c
    have hentry : (base.merge c).entry = c.entry :=
      getD_choose (congrArg BuildSettings.entry h) _
    have hbundle : (base.merge c).bundlePath = c.bundlePath :=
      getD_choose (congrArg BuildSettings.bundle h) _
    have hbinDir : (base.merge c).binDir = c.binDir :=
      getD_choose (congrArg BuildSettings.binDir h) _
    have hbinary : (base.merge c).binary = c.binary :=
      getD_choose (congrArg BuildSettings.binary h) _
    have hbaseDir : (base.merge c).baseDir = c.baseDir :=
      getD_choose (congrArg (fun s : BuildSettings => s.options.baseDir) h) _
    rw [BuildSettings.ofConfig, BuildSettings.ofConfig, hentry, hbundle, hbinDir, hbinary,
      hbaseDir, h.program_merge, h.backend_merge, h.inlineMode_merge]

/-- The built-in defaults set what all settings fall back to. -/
theorem idle_builtIn : Config.builtIn.Idle := rfl

/-- **DEFAULTS OR FALLBACKS**: the text of the built-in defaults is a configuration,
    and any other on top of it builds with the settings that it builds with by
    itself. -/
theorem ofConfig_over_defaults (c : Config) :
    ∃ base, Config.parse Config.defaultsText = .ok base ∧
      BuildSettings.ofConfig (base.merge c) = BuildSettings.ofConfig c :=
  ⟨Config.builtIn, parse_defaultsText, ofConfig_merge_iff.mpr idle_builtIn c⟩

/-- Two layers are another matter.  Over the defaults, naming the native backend is no
    change; where nothing below names a backend it is one, and the program is dropped. -/
example : (BuildSettings.ofConfig ((Config.builtIn.merge
      { compiler := { program := some "foo" } }).merge
      { compiler := { backend := some .native } })).program = "foo" ∧
    (BuildSettings.ofConfig (Config.merge
      { compiler := { program := some "foo" } }
      { compiler := { backend := some .native } })).program = "ocamlopt" := by
  decide

end SourceBundle
