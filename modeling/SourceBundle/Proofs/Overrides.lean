import SourceBundle.Proofs.ConfigLayers

/-! # Overrides — one rule in three places

    Settings come on top of others in three ways: a file's layer is merged, the
    environment overrides, and the command line is applied.  Each has code of its
    own, and each drops the program where the backend changes, though under
    conditions that are written differently: merging drops it only where no new
    program comes, the other two in any case and before they choose the new one.

    They agree (`overrides_agree`): overriding and applying are merging the layer
    of what they set.  Merging a layer that sets nothing, below or above, changes
    nothing, and merging one twice is merging it once. -/

namespace SourceBundle

/-! ## Nothing on top -/

theorem CompilerSettings.merge_empty (s : CompilerSettings) :
    s.merge (CompilerSettings.mk none none none) = s := by
  rw [CompilerSettings.merge_eq]
  rfl

/-- An empty layer on top changes nothing. -/
theorem merge_empty (c : Config) : c.merge {} = c := by
  show Config.mk c.paths (c.compiler.merge _) c.bundle = c
  rw [CompilerSettings.merge_empty]

/-! ## The same on top again -/

/-- A setting chosen twice is chosen once. -/
theorem choose_twice {α : Type} (top base : Option α) :
    (top <|> (top <|> base)) = (top <|> base) := by
  cases top with
  | none => rfl
  | some a => rfl

theorem PathSettings.merge_twice (base higher : PathSettings) :
    (base.merge higher).merge higher = base.merge higher := by
  simp only [PathSettings.merge, choose_twice]

/-- The backend is switched once, so the program is chosen once. -/
theorem CompilerSettings.merge_twice (base higher : CompilerSettings) :
    (base.merge higher).merge higher = base.merge higher := by
  obtain ⟨backend, program, binary⟩ := higher
  cases backend with
  | none => simp only [CompilerSettings.merge, choose_twice]
  | some b =>
      -- the backend has been chosen, so the second time it is no change
      simp only [CompilerSettings.merge, ne_eq, not_true_eq_false, false_and, if_false,
        choose_twice]

theorem BundleSettings.merge_twice (base higher : BundleSettings) :
    (base.merge higher).merge higher = base.merge higher := by
  simp only [BundleSettings.merge, choose_twice]

/-- Putting a layer on top twice is putting it on top once. -/
theorem merge_twice (base higher : Config) :
    (base.merge higher).merge higher = base.merge higher := by
  simp only [Config.merge, PathSettings.merge_twice, CompilerSettings.merge_twice,
    BundleSettings.merge_twice]

/-! ## The three ways -/

/-- **ONE RULE**: a command line is applied, and the environment overrides, as a
    layer of what it sets is merged; the environment only where it names a
    backend that exists or none.  A layer without settings is neutral on either
    side, and a layer or a command line put on top of its own result changes
    nothing more. -/
theorem overrides_agree :
    (∀ (c : Config) (flags : CommandLine), flags.apply c = c.merge flags.layer) ∧
    (∀ (c overridden : Config) (backend program : Option String),
      c.overrideFromEnvironment backend program = .ok overridden ↔
        ∃ b, backend.mapM Backend.ofText = .ok b ∧
          c.merge { compiler := { backend := b, program := program } } = overridden) ∧
    (∀ c : Config, Config.merge {} c = c ∧ c.merge {} = c) ∧
    (∀ c layer : Config, (c.merge layer).merge layer = c.merge layer) ∧
    ∀ (c : Config) (flags : CommandLine), flags.apply (flags.apply c) = flags.apply c := by
  refine ⟨?_, ?_, ?_, merge_twice, ?_⟩
  · intro c flags
    exact apply_eq_merge flags c
  · intro c overridden backend program
    exact override_eq_ok_iff
  · intro c
    exact ⟨empty_merge c, merge_empty c⟩
  · intro c flags
    rw [apply_eq_merge, apply_eq_merge, merge_twice]

end SourceBundle
