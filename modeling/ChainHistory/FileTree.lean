import ChainHistory.Text.Blank
import ChainHistory.Text.Quoted
import ChainHistory.Text.Split

namespace ChainHistory

open Text

/-- The names on the way from the root to a file or directory. -/
abbrev Path := List String

namespace Path

/-- One step of a path as it is written. -/
def step (at_ : Path) (name : String) : Path :=
  if name = "" || name = "." then at_
  else if name = ".." then at_.dropLast
  else at_ ++ [name]

/-- The names of a written path; doubled slashes leave empty ones. -/
def names (text : String) : List String :=
  (splitOn '/' text.toList).map fun cs => String.ofList cs

/-- Where a written path sets out: at the root if it begins with a slash, else at `cwd`. -/
def start (cwd : Path) (text : String) : Path :=
  if text.toList.head? = some '/' then [] else cwd

/-- The place that a written path names, whatever is there. -/
def resolve (cwd : Path) (text : String) : Path :=
  (names text).foldl step (start cwd text)

/-- A written path without the slashes at its end. -/
def dropSlashes (text : String) : String :=
  String.ofList (trimEnd (· = '/') text.toList)

def render (p : Path) : String :=
  if p.isEmpty then "." else "/".intercalate p

/-- Puts a name behind the text of a directory. -/
def join (directory name : String) : String :=
  match directory.toList.getLast? with
  | none => name
  | some '/' => directory ++ name
  | some _ => s!"{directory}/{name}"

end Path

/-- Files with their bytes, and directories that need not hold a file. -/
structure FileTree where
  files : List (Path × List UInt8) := []
  directories : List Path := []

namespace FileTree

def read? (t : FileTree) (p : Path) : Option (List UInt8) :=
  t.files.lookup p

def isFile (t : FileTree) (p : Path) : Bool :=
  (t.read? p).isSome

/-- The root, every directory that is listed, and every place above a file or directory. -/
def isDirectory (t : FileTree) (p : Path) : Bool :=
  p.isEmpty || t.directories.any p.isPrefixOf || t.files.any fun f => p ≠ f.1 && p.isPrefixOf f.1

/-- Whether anything is there. -/
def holds (t : FileTree) (p : Path) : Bool :=
  t.isFile p || t.isDirectory p

/-- The most bytes of a name, and of a path as it is written. -/
def maxName : Nat := 255

def maxPath : Nat := 4095

/-- Why a way leads nowhere. -/
inductive WayError
  | notDirectory
  | nameTooLong
  deriving DecidableEq

/-- Goes by names from one place to another; only a directory leads on. -/
def walk (t : FileTree) (start : Path) (names : List String) : Except WayError Path :=
  names.foldlM (fun at_ name =>
    if !t.isDirectory at_ then .error .notDirectory
    else if maxName < name.utf8ByteSize then .error .nameTooLong
    else .ok (Path.step at_ name)) start

/-- The place that a written path leads to; slashes at its end do not ask for a directory there. -/
def follow (t : FileTree) (cwd : Path) (text : String) : Except WayError Path :=
  if maxPath < text.utf8ByteSize then .error .nameTooLong
  else t.walk (Path.start cwd text) (Path.names (Path.dropSlashes text))

/-- The place of a written path, if anything is there. -/
def find? (t : FileTree) (cwd : Path) (text : String) : Option Path :=
  if maxPath < text.utf8ByteSize then none
  else (t.walk (Path.start cwd text) (Path.names text)).toOption.filter t.holds

/-- Why a directory cannot be made; the path as it was written. -/
inductive DirectoryError
  | fileExists (path : String)
  | notDirectory (path : String)
  | nameTooLong (path : String)
  deriving DecidableEq

def DirectoryError.message : DirectoryError → String
  | fileExists path => s!"[Errno 17] File exists: {quoted path}"
  | notDirectory path => s!"[Errno 20] Not a directory: {quoted path}"
  | nameTooLong path => s!"[Errno 36] File name too long: {quoted path}"

/-- Makes one directory, which may be there already. -/
def makeDirectory (t : FileTree) (cwd : Path) (text : String) : Except DirectoryError FileTree :=
  match t.follow cwd text with
  | .error .notDirectory => .error (.notDirectory text)
  | .error .nameTooLong => .error (.nameTooLong text)
  | .ok p =>
    if t.isDirectory p then .ok t
    else if t.isFile p then .error (.fileExists text)
    else .ok { t with directories := t.directories ++ [p] }

/-- The written paths of the directories above one, shortest first. `done` is read backwards. -/
def above (done : List Char) : List Char → List String
  | [] => []
  | c :: cs =>
    if c = '/' && done.head?.isSome && done.head? ≠ some '/' then
      String.ofList done.reverse :: above (c :: done) cs
    else above (c :: done) cs

/-- Makes a directory and those above it that are not there. -/
def makeDirectories (t : FileTree) (cwd : Path) (text : String) :
    Except DirectoryError FileTree := do
  let parents := above [] (Path.dropSlashes text).toList
  let t ← parents.foldlM (fun t parent =>
    if (t.find? cwd parent).isSome then .ok t else t.makeDirectory cwd parent) t
  t.makeDirectory cwd text

end FileTree

end ChainHistory
