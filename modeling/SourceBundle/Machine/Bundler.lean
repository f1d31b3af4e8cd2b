import SourceBundle.Program

/-! # The bundler — the program as one of the machine's own

    A script can run the program that started it once more, with other words.  It is
    then a program like any other: it works for a user whose configuration files
    are where their variables say, and a signal ends it that it does not ignore when
    it writes a larger file than its process may. -/

namespace SourceBundle

namespace Machine

/-- The directory of a user's configuration files: `XDG_CONFIG_HOME` if it is absolute, else
    `.config` in the home directory. -/
def configDir? (env : Environment) : Option Path :=
  match (env.get? "XDG_CONFIG_HOME").filter fun value => Path.isAbsolute ⟨value⟩ with
  | some value => some ⟨value⟩
  | none =>
      ((env.get? "HOME").filter fun home => home ≠ []).map fun home =>
        Path.join ⟨home⟩ (Path.ofText ".config")

/-- A host of the machine as its user works on it. -/
def session (host : Host) : Session :=
  { toHost := host, configDir := configDir? host.environment }

instance : Coe Host Session := ⟨session⟩

/-- Does the program come to the end of what its process may write into a file? -/
def oversteps (launch : Launcher) (host : Host) (words : List Bytes) : Bool :=
  match CommandLine.parse words with
  | .error _ => false
  | .ok c =>
      match (SourceBundle.Program.run launch host c).result with
      | .error (.build (.store (.file _ .fileTooLarge))) => true
      | _ => false

end Machine

end SourceBundle
