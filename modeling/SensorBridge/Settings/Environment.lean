import SensorBridge.Settings.EnvFile
import SensorBridge.Text.Pieces
import SensorBridge.Text.Utf8

/-!
The environment of the service: its variables and the files of its directory. Loading an
environment file gives values to variables that have none.
-/
namespace SensorBridge

/-- Variables with their values. A variable whose value is no text counts as unset. -/
abbrev Variables : Type := List (String × String)

def Variables.ofBytes (vs : List (String × List UInt8)) : Variables :=
  vs.filterMap fun (name, bs) => (Text.ofBytes? bs).map fun v => (name, v)

/-- Gives a variable a value unless it has one. A value is taken to have no NUL character, which the
system does not accept. -/
def Variables.setDefault (vs : Variables) (name value : String) : Variables :=
  match vs.lookup name with
  | some _ => vs
  | none => (name, value) :: vs

inductive FileError where
  | notFound
  | isDirectory
  | notDirectory
  | nameTooLong
  deriving DecidableEq, Repr

def FileError.message : FileError → String
  | .notFound => "No such file or directory (os error 2)"
  | .isDirectory => "Is a directory (os error 21)"
  | .notDirectory => "Not a directory (os error 20)"
  | .nameTooLong => "File name too long (os error 36)"

/-- The files below one directory, by their paths. The directories above it are taken to have no
environment file. -/
abbrev Files : Type := List (String × List UInt8)

namespace Files

/-- The names on a path; nothing between two slashes is a dot. -/
def segments (path : String) : List String :=
  (Text.pieces '/' path.toList).map fun cs => if cs.isEmpty then "." else String.ofList cs

/-- The names on the path of a file, without dots. -/
def names (path : String) : List String :=
  (segments path).filter (· != ".")

def content? (files : Files) (place : List String) : Option (List UInt8) :=
  (files.find? fun f => names f.1 == place).map (·.2)

/-- Whether a file lies below a place, which then is a directory. -/
def hasBelow (files : Files) (place : List String) : Bool :=
  files.any fun f => place.isPrefixOf (names f.1) && place.length < (names f.1).length

/-- The longest name and the longest path, in bytes. -/
def maxName : Nat := 255
def maxPath : Nat := 4095

/-- Follows names from the directory at `place`. Nothing is known of what lies outside the first
directory but that it has directories above it. -/
def walk (files : Files) : List String → List String → Except FileError (List UInt8)
  | _, [] => .error .isDirectory
  | place, "." :: rest => walk files place rest
  | [], ".." :: rest =>
    .error (if rest.all fun s => s == "." || s == ".." then .isDirectory else .notFound)
  | place, ".." :: rest => walk files place.dropLast rest
  | place, name :: rest =>
    if maxName < name.utf8ByteSize then .error .nameTooLong
    else
      let next := place ++ [name]
      match files.content? next with
      | some content => if rest.isEmpty then .ok content else .error .notDirectory
      | none => if files.hasBelow next then walk files next rest else .error .notFound

/-- The content of a file. An absolute path leads out of the directory, where there are no files. -/
def read (files : Files) (path : String) : Except FileError (List UInt8) :=
  if path.isEmpty then .error .notFound
  else if maxPath < path.utf8ByteSize then .error .nameTooLong
  else if path.toList.head? == some '/' then walk [] [] (segments path)
  else walk files [] (segments path)

end Files

/-- The variables after the lines of an environment file, up to the first line that is malformed or
no text. `known` holds what earlier lines assigned; a variable that is set comes before it. -/
def Variables.loadLines (vs : Variables) (known : Variables) : List (List UInt8) → Variables
  | [] => vs
  | l :: ls =>
    match Text.ofBytes? l with
    | none => vs
    | some line =>
      let get name := ((vs.lookup name).orElse fun _ => known.lookup name).getD ""
      match EnvFile.readLine get line with
      | none => vs
      | some .blank => loadLines vs known ls
      | some (.assign name value) =>
        loadLines (vs.setDefault name value) ((name, value) :: known) ls

/-- The variables after an environment file, if it is there. -/
def Variables.loadFile (vs : Variables) (files : Files) (path : String) : Variables :=
  match files.read path with
  | .ok content => vs.loadLines [] (EnvFile.splitLines content)
  | .error _ => vs

end SensorBridge
