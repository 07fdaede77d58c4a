/-
  The tree of files a command works in.  Paths are given as text and walked component by component;
  writing a file needs its directory and leaves every other file as it is.

  A file is the text that its bytes decode to.  So there is no file whose bytes are no UTF-8, no link,
  and nothing that may not be read or written; and two names are one place only if they are equal.
-/
import HeaderBindings.Path
import HeaderBindings.Table
import HeaderBindings.Text.Quoted

namespace HeaderBindings

/-- Why a file cannot be written. -/
inductive FileFault where
  | missing (path : String)
  | notDirectory (path : String)
  | isDirectory (path : String)
  | nameTooLong (path : String)
  | embeddedNull
  deriving DecidableEq, Repr

def FileFault.message : FileFault → String
  | missing path => "[Errno 2] No such file or directory: " ++ Text.quoted path
  | notDirectory path => "[Errno 20] Not a directory: " ++ Text.quoted path
  | isDirectory path => "[Errno 21] Is a directory: " ++ Text.quoted path
  | nameTooLong path => "[Errno 36] File name too long: " ++ Text.quoted path
  | embeddedNull => "embedded null byte"

/-- Directories and files by their components from the working directory, which is always present; a
slash as the first component stands for the root, and names of higher directories may come first. -/
structure FileTree where
  directories : List (List String) := []
  files : Table (List String) String := []
  deriving DecidableEq, Repr

namespace FileTree

/-- What a path leads to. -/
inductive Place where
  | directory (components : List String)
  | file (components : List String)
  /-- Nothing is there, but a file of this name can be made. -/
  | vacant (components : List String)
  | missing
  | notDirectory
  | nameTooLong
  deriving DecidableEq, Repr

/-- The components of a path; empty ones stand for the directory itself. -/
def componentsFrom (component : List Char) : List Char → List String
  | [] => [String.ofList component.reverse]
  | c :: cs =>
    if c = '/' then String.ofList component.reverse :: componentsFrom [] cs
    else componentsFrom (c :: component) cs

/-- The directory above `here`; above the working directory it is known only by its two dots. -/
def parent? (here : List String) : Option (List String) :=
  match here.getLast? with
  | none | some ".." => none
  | some "/" => some here
  | some _ => some here.dropLast

/-- Where a path starts, and the names along it. -/
def route (path : String) : List String × List String :=
  (if path.toList.head? = some '/' then ["/"] else [], componentsFrom [] path.toList)

/-- One name further from `here`. -/
def step (here : List String) (name : String) : List String :=
  if name = "" ∨ name = "." then here
  else ((if name = ".." then parent? here else none)).getD (here ++ [name])

/-- The components that a path leads to if all along it are directories. -/
def resolve (path : String) : List String := (route path).2.foldl step (route path).1

def isDirectory (t : FileTree) (components : List String) : Bool :=
  components.isEmpty || components = ["/"] || t.directories.contains components

/-- The text of a file. -/
def text? (t : FileTree) (components : List String) : Option String := t.files.lookup components

/-- A walk from the directory `here`. -/
def walk (t : FileTree) (here : List String) : List String → Place
  | [] => .directory here
  | name :: rest =>
    let there := step here name
    if there.length ≤ here.length then t.walk there rest
    else if 255 < name.utf8ByteSize then .nameTooLong
    else if t.isDirectory there then t.walk there rest
    else if (t.text? there).isSome then if rest.isEmpty then .file there else .notDirectory
    else if rest.isEmpty then .vacant there else .missing

/-- Where a path leads. -/
def find (t : FileTree) (path : String) : Place :=
  if path.isEmpty then .missing else t.walk (route path).1 (route path).2

/-- The text of the file at `path`. -/
def read (t : FileTree) (path : String) : Except FileFault String :=
  match t.find path with
  | .file components =>
    match t.text? components with
    | some text => .ok text
    | none => .error (.missing path)
  | .directory _ => .error (.isDirectory path)
  | .vacant _ | .missing => .error (.missing path)
  | .notDirectory => .error (.notDirectory path)
  | .nameTooLong => .error (.nameTooLong path)

def store (t : FileTree) (components : List String) (text : String) : FileTree :=
  { t with files := Table.put components text t.files }

/-- The tree after the file at `path` is written. -/
def write (t : FileTree) (path text : String) : Except FileFault FileTree :=
  if '\x00' ∈ path.toList then .error .embeddedNull
  else match t.find path with
    | .file components | .vacant components => .ok (t.store components text)
    | .directory _ => .error (.isDirectory path)
    | .missing => .error (.missing path)
    | .notDirectory => .error (.notDirectory path)
    | .nameTooLong => .error (.nameTooLong path)

/-- Writes named texts into a directory until one fails: the tree then, and the names or the fault. -/
def writeAll (t : FileTree) (directory : String) :
    List (String × String) → FileTree × Except FileFault (List String)
  | [] => (t, .ok [])
  | (name, text) :: rest =>
    match t.write (Path.join directory name) text with
    | .error fault => (t, .error fault)
    | .ok next =>
      let (last, names) := next.writeAll directory rest
      (last, names.map (name :: ·))

/-- The directories along a path, from the start on. -/
def along (components : List String) : List (List String) :=
  (List.range components.length).map fun n => components.take (n + 1)

/-- A tree that holds a directory and those above it. -/
def addDirectory (t : FileTree) (path : String) : FileTree :=
  { t with directories := t.directories ++ along (resolve path) }

/-- A tree that holds a file, with the directories above it. -/
def addFile (t : FileTree) (path text : String) : FileTree :=
  let components := resolve path
  { t with
    directories := t.directories ++ along components.dropLast
    files := Table.put components text t.files }

/-- Components as a path. -/
def pathOf : List String → String
  | "/" :: rest => "/" ++ "/".intercalate rest
  | components => "/".intercalate components

/-- The files of `after` that `before` lacks or holds with another text. -/
def changes (before after : FileTree) : List (String × String) :=
  (after.files.filter fun f => before.text? f.1 ≠ some f.2).map fun f => (pathOf f.1, f.2)

end FileTree

end HeaderBindings
