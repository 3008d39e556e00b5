/-!
# Files

The little of a file system that the program sees: one folder with files in it, the directories
above it, of which it is only known that they are there, and the directories that every system has
at its root. A path is followed name by name; `.` stays where it is, `..` goes up, and what comes
before another name has to be a directory.
-/

set_option autoImplicit false

namespace Chip8

/-- Why a file could not be used. -/
inductive FileError where
  | notFound
  | isDirectory
  | notADirectory
  | nameTooLong
  deriving DecidableEq, Repr

namespace FileError

/-- The number the operating system has for it. -/
def code : FileError → Nat
  | notFound => 2
  | isDirectory => 21
  | notADirectory => 20
  | nameTooLong => 36

def kind : FileError → String
  | notFound => "NotFound"
  | isDirectory => "IsADirectory"
  | notADirectory => "NotADirectory"
  | nameTooLong => "InvalidFilename"

def text : FileError → String
  | notFound => "No such file or directory"
  | isDirectory => "Is a directory"
  | notADirectory => "Not a directory"
  | nameTooLong => "File name too long"

/-- The error as a failing program reports it. -/
def report (e : FileError) : String :=
  s!"Os \x7b code: {e.code}, kind: {e.kind}, message: \"{e.text}\" \x7d"

end FileError

/-- The files of a folder, by name. -/
structure Folder where
  files : List (String × List UInt8)
  deriving DecidableEq, Repr

/-- A directory that a path can lead to. -/
inductive Directory where
  /-- the folder itself -/
  | folder
  /-- a directory above the folder -/
  | above
  | root
  /-- a directory at the root, by its name -/
  | system (name : String)
  deriving DecidableEq, Repr

/-- Where a path leads. -/
inductive Place where
  | directory (directory : Directory)
  | file (name : String) (content : List UInt8)
  /-- the device that takes everything and holds nothing -/
  | sink
  /-- no such file, but there could be one -/
  | vacant (directory : Directory) (name : String)
  deriving DecidableEq, Repr

namespace Directory

/-- The names of the directories at the root. -/
def systemNames : List String :=
  ["bin", "boot", "dev", "etc", "home", "lib", "media", "mnt", "opt", "proc", "root", "run",
    "sbin", "srv", "sys", "tmp", "usr", "var"]

/-- The directory above. -/
def parent : Directory → Directory
  | folder | above => above
  | root | system _ => root

end Directory

namespace Folder

/-- How many bytes a name may have. -/
def nameLimit : Nat := 255

/-- How many bytes a path may have. -/
def pathLimit : Nat := 4095

def find? (f : Folder) (name : String) : Option (List UInt8) :=
  (f.files.find? fun entry => entry.1 == name).map Prod.snd

/-- Writes a file, anew or in place of one of that name. -/
def write (f : Folder) (name : String) (content : List UInt8) : Folder :=
  if (f.find? name).isSome then
    ⟨f.files.map fun entry => if entry.1 == name then (name, content) else entry⟩
  else ⟨f.files ++ [(name, content)]⟩

/-- What has a name in a directory. -/
def entry (f : Folder) (d : Directory) (name : String) : Except FileError Place :=
  if nameLimit < name.utf8ByteSize then .error .nameTooLong
  else match d with
    | .folder =>
      match f.find? name with
      | some content => .ok (.file name content)
      | none => .ok (.vacant d name)
    | .root =>
      if Directory.systemNames.contains name then .ok (.directory (.system name))
      else .ok (.vacant d name)
    | .system "dev" => if name = "null" then .ok .sink else .ok (.vacant d name)
    | _ => .ok (.vacant d name)

/-- The directory that a path goes on from. -/
def enter : Place → Except FileError Directory
  | .directory d => .ok d
  | .file .. | .sink => .error .notADirectory
  | .vacant .. => .error .notFound

/-- Follows one name of a path. An empty one is what stands between two slashes. -/
def follow (f : Folder) (place : Place) (name : String) : Except FileError Place :=
  match enter place with
  | .error e => .error e
  | .ok d =>
    if name = "" ∨ name = "." then .ok (.directory d)
    else if name = ".." then .ok (.directory d.parent)
    else f.entry d name

/-- Where a path begins. -/
def startOf (path : String) : Place :=
  .directory (if path.startsWith "/" then .root else .folder)

/-- Follows the names of a path. -/
def walk (f : Folder) (path : String) (names : List String) : Except FileError Place :=
  names.foldlM f.follow (startOf path)

/-- Why a path leads nowhere, whatever the names in it. -/
def refusal? (path : String) : Option FileError :=
  if path = "" then some .notFound
  else if pathLimit < path.utf8ByteSize then some .nameTooLong
  else none

/-- Follows a path. -/
def place (f : Folder) (path : String) : Except FileError Place :=
  match refusal? path with
  | some e => .error e
  | none => f.walk path (path.splitOn "/")

/-- The file that is created at a place, if it is one of the folder, after it has been created or
emptied there. -/
def createAt (f : Folder) : Place → Except FileError (Option String × Folder)
  | .directory _ => .error .isDirectory
  | .file name _ | .vacant .folder name => .ok (some name, f.write name [])
  | .sink | .vacant _ _ => .ok (none, f)

/-- Creates a file, or empties the one that is there. Returns its name, if it is one of the
folder. A name with a slash after it can only be that of a directory, which is not looked at. -/
def create (f : Folder) (path : String) : Except FileError (Option String × Folder) :=
  match refusal? path with
  | some e => .error e
  | none =>
    match (path.splitOn "/").reverse.dropWhile (· = "") with
    | [] => .error .isDirectory
    | last :: before =>
      match f.walk path before.reverse >>= fun place => (enter place).map Place.directory with
      | .error e => .error e
      | .ok place =>
        if path.endsWith "/" then .error .isDirectory
        else f.follow place last >>= f.createAt

/-- The names along a path. Empty ones and `.` lead nowhere else and are left out. -/
def names (path : String) : List String :=
  (path.splitOn "/").filter fun name => name ≠ "" ∧ name ≠ "."

/-- The last name of a path that names a file. -/
def fileName (path : String) : String :=
  match (names path).getLast? with
  | some name => if name = ".." then "" else name
  | none => ""

end Folder

end Chip8
