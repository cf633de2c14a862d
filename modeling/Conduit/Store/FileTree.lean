import Conduit.Fault

/-!
# File trees

Files and directories below a root. A path is the list of the names on the way. A name may be of any
length, there is room for every file, and every file may be read and written: what a disk refuses
for reasons of its own is left out.

* `FileTree` — the files with their texts, and the directories;
* `FileTree.read?`, `FileTree.write`, `FileTree.remove` — the files;
* `FileTree.makeDirectory`, `FileTree.names` — the directories.
-/

namespace Conduit

/-- Files and directories below a root. -/
structure FileTree where
  /-- Where the root is. -/
  root : String
  /-- The files with their texts. -/
  files : List (List String × String) := []
  /-- The directories. -/
  directories : List (List String) := []
deriving DecidableEq, Inhabited

namespace FileTree

/-- The text of a path. -/
def pathText (t : FileTree) (path : List String) : String := "/".intercalate (t.root :: path)

/-- Whether there is a file at a path. -/
def isFile (t : FileTree) (path : List String) : Bool := (t.files.lookup path).isSome

/-- Whether there is a directory at a path. -/
def isDirectory (t : FileTree) (path : List String) : Bool :=
  path.isEmpty || t.directories.contains path

/-- Whether there is anything at a path. -/
def exists? (t : FileTree) (path : List String) : Bool := t.isFile path || t.isDirectory path

/-- The text of a file. -/
def read? (t : FileTree) (path : List String) : Except Fault String :=
  match t.files.lookup path with
  | some text => .ok text
  | none =>
    .error (if t.isDirectory path then .directoryFound (t.pathText path)
      else .fileMissing (t.pathText path))

/-- Makes a directory in a directory. -/
def addDirectory (t : FileTree) (path : List String) : FileTree :=
  if t.isDirectory path then t else { t with directories := t.directories ++ [path] }

/-- Makes the directories of `rest` one in the other, the first of them at `path`. -/
def makeFrom (t : FileTree) (path : List String) : List String → Except Fault FileTree
  | [] => .ok t
  | name :: rest =>
    let inner := path ++ [name]
    if t.isFile inner then
      .error (if rest.isEmpty then .fileExists (t.pathText inner)
        else .directoryExpected (t.pathText (inner ++ rest)))
    else makeFrom (t.addDirectory inner) inner rest

/-- Makes a directory and all on the way to it. -/
def makeDirectory (t : FileTree) (path : List String) : Except Fault FileTree := t.makeFrom [] path

/-- Writes the text of a file, in place when there is one. -/
def putFile (path : List String) (text : String) :
    List (List String × String) → List (List String × String)
  | [] => [(path, text)]
  | (other, old) :: rest =>
    if other = path then (path, text) :: rest else (other, old) :: putFile path text rest

/-- Writes a file into a directory that is there. -/
def write (t : FileTree) (path : List String) (text : String) : Except Fault FileTree :=
  if t.isDirectory path then .error (.directoryFound (t.pathText path))
  else .ok { t with files := putFile path text t.files }

/-- Removes a file if it is there. -/
def remove (t : FileTree) (path : List String) : Except Fault FileTree :=
  if t.isDirectory path then .error (.directoryFound (t.pathText path))
  else .ok { t with files := t.files.filter fun entry => entry.1 != path }

/-- The name of what lies directly in a directory. -/
def nameIn (directory path : List String) : Option String :=
  match path.getLast? with
  | some name => if directory ++ [name] = path then some name else none
  | none => none

/-- Puts a name into an ascending list. -/
def insertName (name : String) : List String → List String
  | [] => [name]
  | other :: rest => if other < name then other :: insertName name rest else name :: other :: rest

/-- The names in a directory, ascending. -/
def names (t : FileTree) (directory : List String) : List String :=
  ((t.files.map (·.1) ++ t.directories).filterMap (nameIn directory)).foldr insertName []

/-- Removes a directory if nothing is in it. -/
def removeIfEmpty (t : FileTree) (directory : List String) : FileTree :=
  if (t.names directory).isEmpty then
    { t with directories := t.directories.filter fun path => path != directory }
  else t

/-- Writes a file and makes the directories on the way to it. -/
def put (t : FileTree) (path : List String) (text : String) : Except Fault FileTree := do
  (← t.makeDirectory path.dropLast).write path text

/-- Every path below the root, with what there is. -/
def listing (t : FileTree) : Members :=
  t.files.map (fun entry => ("/".intercalate entry.1, .str "file"))
    ++ t.directories.map fun path => ("/".intercalate path, .str "dir")

end FileTree

end Conduit
