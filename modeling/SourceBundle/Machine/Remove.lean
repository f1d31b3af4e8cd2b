import SourceBundle.FileSystem.Change
import SourceBundle.Shell.Text

/-! # The program `rm`

    `remove` takes files away by their names, and directories with all they hold if
    that is asked for.  What goes wrong with one name is complained about and does
    not stop the others. -/

namespace SourceBundle

namespace Machine

open Shell (Text text ofBytes toBytes)

/-- What `rm` is asked for. -/
structure RemoveOptions where
  /-- Are missing files no matter? -/
  force : Bool
  /-- Directories with all they hold? -/
  recursive : Bool
  /-- Empty directories? -/
  directories : Bool
  /-- Is each name said that is taken away? -/
  verbose : Bool

/-- What `rm` comes to. -/
structure Removal where
  files : FileSystem
  output : Text
  complaints : Text
  status : Nat

namespace Remove

/-- A name in quotes, so that a shell would read it back. -/
def quote (name : Text) : Text :=
  let plain (c : Char) : Bool := c.isAlphanum || (text "%+,-./:]_ '").contains c
  if name.contains '\'' ∧ name.all plain then '\x22' :: name ++ ['\x22']
  else '\'' :: go false name ++ ['\'']
where
  /-- The characters between the quotes; `inEscape` after one that cannot be shown. -/
  go (inEscape : Bool) : Text → Text
    | [] => []
    | c :: rest =>
        if ' ' ≤ c ∧ c ≤ '~' then
          (if inEscape then text "''" else [])
            ++ (if c = '\'' then text "'\\''" else [c]) ++ go false rest
        else (if inEscape then [] else text "'$'") ++ escape c ++ go true rest
  /-- A character as an escape. -/
  escape (c : Char) : Text :=
    match [(7, 'a'), (8, 'b'), (9, 't'), (10, 'n'), (11, 'v'), (12, 'f'), (13, 'r')].lookup
      c.toNat with
    | some letter => ['\\', letter]
    | none =>
        let digit (n : Nat) : Char := Char.ofNat (0x30 + n % 8)
        ['\\', digit (c.toNat / 64), digit (c.toNat / 8), digit c.toNat]

/-- Turn on what an option's letter asks for. -/
def withLetter? (o : RemoveOptions) (letter : Char) : Option RemoveOptions :=
  match letter with
  | 'f' => some { o with force := true }
  | 'i' => some { o with force := false }
  | 'I' => some o
  | 'r' | 'R' => some { o with recursive := true }
  | 'd' => some { o with directories := true }
  | 'v' => some { o with verbose := true }
  | _ => none

/-- The letter that a long option stands for. -/
def letterOf? (option : Text) : Option Char :=
  match String.ofList option with
  | "--force" => some 'f'
  | "--recursive" => some 'r'
  | "--dir" => some 'd'
  | "--verbose" => some 'v'
  | _ => none

/-- The options among the arguments, which may stand anywhere before `--`, and the names. -/
def options (o : RemoveOptions) : List Text → Except Text (RemoveOptions × List Text)
  | [] => .ok (o, [])
  | ['-', '-'] :: names => .ok (o, names)
  | ('-' :: '-' :: long) :: rest =>
      match (letterOf? ('-' :: '-' :: long)).bind (withLetter? o) with
      | some o => options o rest
      | none => .error (text "unrecognized option '--" ++ long ++ ['\''])
  | ('-' :: c :: letters) :: rest =>
      let step (o : RemoveOptions) (c : Char) : Except Text RemoveOptions :=
        match withLetter? o c with
        | some o => .ok o
        | none => .error (text "invalid option -- '" ++ [c, '\''])
      match (c :: letters).foldlM step o with
      | .error why => .error why
      | .ok o => options o rest
  | name :: rest =>
      match options o rest with
      | .error why => .error why
      | .ok (o, names) => .ok (o, name :: names)

/-- Does a path end in a single or a double dot? -/
def endsInDots (name : Text) : Bool :=
  let pieces := (Path.split (toBytes name)).reverse.dropWhile (· = [])
  match pieces with
  | last :: _ => last = Path.dot || last = Path.dotDot
  | [] => false

/-- Take away what one name names. -/
def one (program : Text) (o : RemoveOptions) (r : Removal) (name : Text) : Removal :=
  let path : Path := ⟨toBytes name⟩
  let complain (why : Text) : Removal :=
    { r with complaints := r.complaints ++ program ++ text ": " ++ why ++ ['\n'], status := 1 }
  let refuse (why : String) : Removal :=
    complain (text "cannot remove " ++ quote name ++ text ": " ++ text why)
  let isIdle (e : OsError) : Bool := o.force && (e = .noSuchFile || e = .notADirectory)
  let done (files : FileSystem) (kind : String) : Removal :=
    { r with files := files,
             output := if o.verbose then r.output ++ text kind ++ quote name ++ ['\n']
               else r.output }
  if o.recursive ∧ endsInDots name then
    complain (text "refusing to remove '.' or '..' directory: skipping " ++ quote name)
  else match r.files.lastName path with
    | .error e => if isIdle e then r else refuse e.reason
    | .ok none => refuse OsError.isADirectory.reason
    | .ok (some (dir, last)) =>
        let place := dir ++ [last]
        let entry := r.files.entryOf? place
        let isSlashed : Bool := path.bytes.getLast? = some Path.slash
        match entry with
        | none => if isIdle .noSuchFile then r else refuse OsError.noSuchFile.reason
        | some .directory =>
            let isEmpty := (r.files.entries.filter fun e => place.isPrefixOf e.1).length ≤ 1
            if o.recursive ∨ (o.directories ∧ isEmpty) then
              done (r.files.eraseTree place) "removed directory "
            else if o.directories then refuse "Directory not empty"
            else refuse OsError.isADirectory.reason
        | some _ =>
            if isSlashed then
              if isIdle .notADirectory then r else refuse OsError.notADirectory.reason
            else done (r.files.eraseTree place) "removed "

end Remove

/-- Run `rm` with its words in a file system. -/
def remove (files : FileSystem) (words : List Text) : Removal :=
  let program := words.headD []
  let usage (why : Text) : Removal :=
    { files := files, output := [], status := 1,
      complaints := program ++ text ": " ++ why ++ text "\nTry '" ++ program
        ++ text " --help' for more information.\n" }
  match Remove.options ⟨false, false, false, false⟩ words.tail with
  | .error why => usage why
  | .ok (o, names) =>
      if names = [] ∧ ¬ o.force then usage (text "missing operand")
      else names.foldl (Remove.one program o) ⟨files, [], [], 0⟩

end Machine

end SourceBundle
