import SessionNet.Error
import SessionNet.Settings.Document

/-!
# Settings and files

What can be said about paths, given which directories there are: the directory that a path lies in,
and why a file cannot be read or written.
-/

namespace SessionNet

/-! ## Paths -/

namespace Path

/-- The root or the leading point of a path, and the rest of it. -/
def front (cs : List Char) : List Char × List Char :=
  match cs with
  | '/' :: rest => (['/'], rest)
  | ['.'] => (['.'], [])
  | '.' :: '/' :: rest => (['.'], '/' :: rest)
  | _ => ([], cs)

/-- What precedes the last part of a path, and that part, both reversed as the path is. -/
def lastPart (reversed : List Char) : List Char × List Char :=
  let part := reversed.takeWhile (· != '/')
  ((reversed.drop part.length).drop 1, part)

/-- A reversed path without empty parts and points at its end. -/
def trimEnd : (fuel : Nat) → (reversed : List Char) → List Char
  | 0, reversed => reversed
  | fuel + 1, reversed =>
    let (before, part) := lastPart reversed
    if !reversed.isEmpty && (part.isEmpty || part == ['.']) then trimEnd fuel before else reversed

/-- The path of the directory that a path lies in; the root and the empty path lie in none. -/
def parent? (path : String) : Option String :=
  let (front, rest) := front path.toList
  let reversed := trimEnd path.length rest.reverse
  if reversed.isEmpty then if front = ['.'] then some "" else none
  else
    let before := trimEnd path.length (lastPart reversed).1
    some (String.ofList (front ++ before.reverse))

example : parent? "a//b/x" = some "a//b" := by decide +kernel
example : parent? "./x" = some "." := by decide +kernel
example : parent? "/x" = some "/" := by decide +kernel
example : parent? "/" = none := by decide +kernel

end Path

/-! ## Files -/

/-- Why a file cannot be read or written. -/
inductive FileFault where
  | missing
  | isDirectory
  deriving DecidableEq, Repr

def FileFault.message : FileFault → String
  | .missing => "No such file or directory (os error 2)"
  | .isDirectory => "Is a directory (os error 21)"

/-- The directories that there are, and the texts of files. -/
structure FileView where
  isDirectory : String → Bool
  content? : String → Option String := fun _ => none

namespace FileView

def read (v : FileView) (path : String) : Except FileFault String :=
  if v.isDirectory path then .error .isDirectory
  else
    match v.content? path with
    | some text => .ok text
    | none => .error .missing

/-- Whether a file can be written, made anew if need be. -/
def checkWrite (v : FileView) (path : String) : Except FileFault Unit :=
  if path.isEmpty then .error .missing
  else if v.isDirectory path then .error .isDirectory
  else
    match Path.parent? path with
    | none => .error .missing
    | some parent =>
      if !parent.isEmpty && !v.isDirectory parent then .error .missing
      else if path.endsWith "/" then .error .isDirectory
      else .ok ()

end FileView

/-! ## Settings -/

def Settings.load (view : FileView) (path : String) : Except NetError Settings :=
  match view.read path with
  | .error fault => .error (.configuration ("Failed to read config file: " ++ fault.message))
  | .ok text => Settings.ofText text

/-- The text to write to a settings file at a path, on a machine with so many processors. -/
def Settings.save (s : Settings) (view : FileView) (processors : Nat) (path : String) :
    Except NetError String :=
  match view.checkWrite path with
  | .error fault => .error (.configuration ("Failed to write config file: " ++ fault.message))
  | .ok () => .ok (s.text (Number.natText (workersFor processors)))

/-- The filter that the level of logging stands for. -/
def LogSettings.filter (s : LogSettings) : String := s.level.key

/-- Begin logging; a log file must be named and writable. -/
def LogSettings.start (s : LogSettings) (view : FileView) : Except NetError Unit :=
  if !s.toFile then .ok ()
  else
    match s.filePath? with
    | none => .error (.configuration "log_file_path must be set when log_to_file is true")
    | some path =>
      match view.checkWrite path with
      | .error fault =>
        .error (.configuration ("Failed to open log file " ++ path ++ ": " ++ fault.message))
      | .ok () => .ok ()

end SessionNet
