/-
A file system as a value: the files and directories below the root, each at its path of
names, and a working directory. An operation on a path walks it name by name, through
directories only, and fails as an operating system does.
-/
import ApkReport.Bytes
import ApkReport.FileSystem.Path
import ApkReport.Text.Quoted

namespace ApkReport

/-- Why an operation on a file fails. -/
inductive OsReason where
  | noEntry
  | fileExists
  | notDirectory
  | isDirectory
  | invalidArgument
  | nameTooLong
  deriving DecidableEq, Repr

def OsReason.number : OsReason → Nat
  | .noEntry => 2
  | .fileExists => 17
  | .notDirectory => 20
  | .isDirectory => 21
  | .invalidArgument => 22
  | .nameTooLong => 36

def OsReason.description : OsReason → String
  | .noEntry => "No such file or directory"
  | .fileExists => "File exists"
  | .notDirectory => "Not a directory"
  | .isDirectory => "Is a directory"
  | .invalidArgument => "Invalid argument"
  | .nameTooLong => "File name too long"

/-- A failed operation, and the path it was asked for if it was asked for one. -/
structure OsError where
  reason : OsReason
  path : Option String
  deriving DecidableEq, Repr

def OsError.message (e : OsError) : String :=
  "[Errno " ++ toString e.reason.number ++ "] " ++ e.reason.description ++
    (match e.path with | none => "" | some p => ": " ++ Text.quoted p)

/-- A place in the file system: the names on the way from the root. -/
abbrev Place := List String

inductive FileEntry where
  | file (content : Bytes)
  | directory
  deriving DecidableEq, Repr

structure FileSystem where
  /-- The working directory. -/
  here : String
  /-- Every file and every directory but the root. -/
  entries : List (Place × FileEntry)
  deriving DecidableEq, Repr

namespace FileSystem

/-- What stands at a place. -/
def at? (fs : FileSystem) (p : Place) : Option FileEntry :=
  if p.isEmpty then some .directory else fs.entries.lookup p

def isDirectoryAt (fs : FileSystem) (p : Place) : Bool := fs.at? p = some .directory

/-- The longest name in bytes. -/
def maxName : Nat := 255

/-- The place that names lead to from a place. Only the last name may be missing. -/
def walk (fs : FileSystem) (start : Place) : List String → Except OsReason Place
  | [] => .ok start
  | name :: rest =>
    match fs.at? start with
    | none => .error .noEntry
    | some (.file _) => .error .notDirectory
    | some .directory =>
      if name = "." then fs.walk start rest
      else if name = ".." then fs.walk start.dropLast rest
      else if name.utf8ByteSize > maxName then .error .nameTooLong
      else fs.walk (start ++ [name]) rest

/-- The names to walk for a path. A slash at the end asks for a directory. -/
def steps (path : String) : List String :=
  components path ++ if path.toList.getLast? = some '/' then ["."] else []

/-- The place that a path leads to; its last name may be missing. -/
def place (fs : FileSystem) (path : String) : Except OsReason Place :=
  if path.isEmpty then .error .noEntry
  else fs.walk (if isAbsolute path then [] else components fs.here) (steps path)

def failure (path : String) (reason : OsReason) : OsError := ⟨reason, some path⟩

/-- What a path leads to. -/
def find (fs : FileSystem) (path : String) : Except OsError FileEntry :=
  match fs.place path with
  | .error r => .error (failure path r)
  | .ok p =>
    match fs.at? p with
    | none => .error (failure path .noEntry)
    | some e => .ok e

/-- A path with a character of code zero leads nowhere. -/
def hasNull (path : String) : Bool := path.toList.contains '\x00'

def pathExists (fs : FileSystem) (path : String) : Bool := !hasNull path && (fs.find path).isOk

def isFile (fs : FileSystem) (path : String) : Bool :=
  !hasNull path && match fs.find path with | .ok (.file _) => true | _ => false

def isDirectory (fs : FileSystem) (path : String) : Bool :=
  !hasNull path && match fs.find path with | .ok .directory => true | _ => false

/-- The content of a file. -/
def read (fs : FileSystem) (path : String) : Except OsError Bytes :=
  match fs.find path with
  | .error e => .error e
  | .ok .directory => .error (failure path .isDirectory)
  | .ok (.file content) => .ok content

/-- Puts an entry at a place: in the place of the one that stands there, else after all others. -/
def put (fs : FileSystem) (p : Place) (e : FileEntry) : FileSystem :=
  if (fs.entries.lookup p).isSome then
    { fs with entries := fs.entries.map fun (q, old) => if q = p then (q, e) else (q, old) }
  else { fs with entries := fs.entries ++ [(p, e)] }

/-- Writes a file, in a directory that exists, and replaces one that stands there. -/
def write (fs : FileSystem) (path : String) (content : Bytes) : Except OsError FileSystem :=
  match fs.place path with
  | .error r => .error (failure path r)
  | .ok p => if fs.isDirectoryAt p then .error (failure path .isDirectory) else .ok (fs.put p (.file content))

/-- Makes a directory in one that exists. -/
def makeDirectory (fs : FileSystem) (path : String) : Except OsError FileSystem :=
  match fs.place path with
  | .error r => .error (failure path r)
  | .ok p => if (fs.at? p).isSome then .error (failure path .fileExists) else .ok (fs.put p .directory)

/-- Makes a directory, unless it is there already. -/
def ensureDirectory (fs : FileSystem) (path : String) : Option OsError × FileSystem :=
  match fs.makeDirectory path with
  | .ok fs => (none, fs)
  | .error e => (if fs.isDirectory path then none else some e, fs)

/-- Makes a directory, unless it is there already, and before it the directories above it that are
missing, at most `depth` of them. Those that were made stay if one of them fails. -/
def makeDirectories (fs : FileSystem) (path : String) : Nat → Option OsError × FileSystem
  | 0 => fs.ensureDirectory path
  | depth + 1 =>
    match fs.ensureDirectory path with
    | (none, fs) => (none, fs)
    | (some e, fs) =>
      if e.reason = .noEntry ∧ parentPath path ≠ path then
        match fs.makeDirectories (parentPath path) depth with
        | (some e, fs) => (some e, fs)
        | (none, fs) => fs.ensureDirectory path
      else (some e, fs)

/-- Without the place and everything below it. -/
def without (fs : FileSystem) (p : Place) : FileSystem :=
  { fs with entries := fs.entries.filter fun (q, _) => !p.isPrefixOf q }

/-- Removes a directory with all that it holds. A path that ends in a dot empties the directory, but
cannot remove it. -/
def removeTree (fs : FileSystem) (path : String) : Option OsError × FileSystem :=
  match fs.place path with
  | .error r => (some (failure path r), fs)
  | .ok p =>
    match fs.at? p with
    | none => (some (failure path .noEntry), fs)
    | some (.file _) => (some (failure path .notDirectory), fs)
    | some .directory =>
      if (components path).getLast? = some "." then
        (some (failure path .invalidArgument), { fs with entries := fs.entries.filter fun (q, _) => q = p || !p.isPrefixOf q })
      else (none, fs.without p)

end FileSystem

end ApkReport
