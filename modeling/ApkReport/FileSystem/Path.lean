/-
Paths as text. `pathText` is a path without empty components and dots, which changes
nothing about where it leads; `absolutePath` also resolves the double dots by the text
alone.
-/

namespace ApkReport

/-- The parts between slashes. -/
def splitSlashes (s : List Char) : List (List Char) :=
  match s with
  | [] => [[]]
  | '/' :: rest => [] :: splitSlashes rest
  | c :: rest =>
    match splitSlashes rest with
    | [] => [[c]]
    | part :: parts => (c :: part) :: parts

/-- The components of a path that are not empty. -/
def components (path : String) : List String :=
  ((splitSlashes path.toList).filter (!·.isEmpty)).map String.ofList

def isAbsolute (path : String) : Bool := path.toList.head? = some '/'

/-- One slash for a path from the root; two if the path starts with exactly two. -/
def rootMark (path : String) : String :=
  match path.toList with
  | '/' :: '/' :: '/' :: _ => "/"
  | '/' :: '/' :: _ => "//"
  | '/' :: _ => "/"
  | _ => ""

/-- The path without empty components and single dots; a dot if nothing is left. -/
def pathText (path : String) : String :=
  let text := rootMark path ++ "/".intercalate ((components path).filter (· ≠ "."))
  if text.isEmpty then "." else text

/-- Removes each component that a double dot follows; double dots at the root lead nowhere. -/
def resolveDots (fromRoot : Bool) : List String → List String → List String
  | done, [] => done.reverse
  | done, c :: rest =>
    if c = "." then resolveDots fromRoot done rest
    else if c = ".." then
      match done with
      | [] => resolveDots fromRoot (if fromRoot then [] else [".."]) rest
      | d :: ds => if d = ".." then resolveDots fromRoot (".." :: d :: ds) rest else resolveDots fromRoot ds rest
    else resolveDots fromRoot (c :: done) rest

/-- A path relative to a directory, unless it starts at the root. -/
def joinPath (directory path : String) : String :=
  if isAbsolute path then path
  else if directory.isEmpty || directory.toList.getLast? = some '/' then directory ++ path
  else directory ++ "/" ++ path

/-- The path from the root that a path in a directory names. -/
def absolutePath (directory path : String) : String :=
  let full := joinPath directory path
  rootMark full ++ "/".intercalate (resolveDots true [] (components full))

/-- The path of the directory that a path without superfluous parts stands in. -/
def parentPath (path : String) : String :=
  match (components path).reverse with
  | [] => pathText path
  | _ :: parents => pathText (rootMark path ++ "/".intercalate parents.reverse)

end ApkReport
