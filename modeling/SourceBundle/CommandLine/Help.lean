import SourceBundle.CommandLine

/-! # Help — texts about the command line

    The help, the version and the scripts that complete options in a shell.  Help and
    scripts are made from the options' own names and stand in for what a parser of
    command lines would write: nothing else depends on their wording. -/

namespace SourceBundle

/-- The name and number of the program. -/
def versionText : String := "mlbundle 0.1.0\n"

/-- What a value stands for in the help. -/
def ValueOption.valueName : ValueOption → String
  | .entry | .bundle | .config => "FILE"
  | .binDir | .baseDir => "DIR"
  | .binary => "NAME"
  | .compiler => "PROGRAM"
  | .backend => "BACKEND"
  | .completions => "SHELL"

/-- What an option is for. -/
def ValueOption.about : ValueOption → String
  | .entry => "Entry source file"
  | .bundle => "Where the bundled source is written"
  | .binDir => "Directory receiving the compiled binary"
  | .binary => "File name of the compiled binary"
  | .compiler => "Compiler executable, overriding the backend default"
  | .backend => "Compiler backend: native or bytecode"
  | .baseDir => "Directory #use paths are relative to"
  | .config => "Config file used instead of ./mlbundle.toml"
  | .completions => "Print shell completions and exit"

/-- What a flag is for. -/
def Flag.about : Flag → String
  | .recursive => "Resolve #use directives inside inlined files too"
  | .verbose => "Increase log verbosity (-v info, -vv debug, -vvv trace)"
  | .printConfig => "Print the effective configuration and exit"
  | .help => "Print help"
  | .version => "Print version"

/-- The help. -/
def helpText : String :=
  "Bundle an OCaml program's #use files into one source and compile it\n\n"
    ++ "Usage: mlbundle [OPTIONS]\n\nOptions:\n"
    ++ String.join (ValueOption.all.map fun option =>
        "      --" ++ option.name ++ " <" ++ option.valueName ++ ">  " ++ option.about ++ "\n")
    ++ String.join (Flag.all.map fun flag =>
        "      --" ++ flag.name ++ "  " ++ flag.about ++ "\n")

/-- All options with their dashes. -/
def optionWords : List String :=
  (ValueOption.all.map ValueOption.name ++ Flag.all.map Flag.name).map ("--" ++ ·)

/-- A script that completes the options in a shell. -/
def completionScript (shell : CompletionShell) : String :=
  let words := " ".intercalate optionWords
  match shell with
  | .bash => "complete -W \x22" ++ words ++ "\x22 mlbundle\n"
  | .zsh => "#compdef mlbundle\ncompadd -- " ++ words ++ "\n"
  | .fish =>
      String.join (optionWords.map fun word =>
        "complete -c mlbundle -l " ++ String.ofList (word.toList.drop 2) ++ "\n")
  | .elvish =>
      "set edit:completion:arg-completer[mlbundle] = \x7b|@words| put " ++ words ++ " \x7d\n"
  | .powershell =>
      "Register-ArgumentCompleter -Native -CommandName mlbundle -ScriptBlock \x7b -split \x22"
        ++ words ++ "\x22 \x7d\n"

end SourceBundle
