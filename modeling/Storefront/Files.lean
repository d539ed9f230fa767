import Storefront.Text.Utf8

/-!
# Files

The files of a directory and of those below it, and what a path leads to.
-/

namespace Storefront

inductive FileNode where
  | file (bytes : List UInt8)
  | directory
  /-- A file that may not be read. -/
  | lockedFile
  /-- A directory that may be neither read nor entered. -/
  | lockedDirectory
  deriving DecidableEq, Repr

/-- Why a file cannot be read as text. -/
inductive FileError where
  | notFound
  | denied
  | notDirectory
  | isDirectory
  | notText
  deriving DecidableEq, Repr

def FileError.message : FileError → String
  | notFound => "No such file or directory (os error 2)"
  | denied => "Permission denied (os error 13)"
  | notDirectory => "Not a directory (os error 20)"
  | isDirectory => "Is a directory (os error 21)"
  | notText => "stream did not contain valid UTF-8"

/-- What is where, by the names on the way there from the root, and the directory where a path starts that does
not start at the root. What lies on the way to something is a directory. -/
structure Files where
  nodes : List (List String × FileNode) := []
  workingDirectory : List String := []
  deriving Repr

namespace Files

def node? (fs : Files) (names : List String) : Option FileNode :=
  match List.lookup names fs.nodes with
  | some n => some n
  | none =>
    if names.isEmpty || fs.nodes.any fun n => names.isPrefixOf n.1 then some .directory else none

/-- Where a name leads from a directory. No name and a dot stay there, two dots go back, at the root as well. -/
def enter (here : List String) (name : String) : List String :=
  if name == "" || name == "." then here
  else if name == ".." then here.dropLast
  else here ++ [name]

/-- Follows names from where others have led. -/
def walk (fs : Files) : List String → List String → Except FileError FileNode
  | here, [] => (fs.node? here).elim (.error .notFound) .ok
  | here, name :: rest =>
    match fs.node? here with
    | none => .error .notFound
    | some (.file _) | some .lockedFile => .error .notDirectory
    | some .lockedDirectory =>
      -- a slash behind its name does not lead into it
      if name.isEmpty && rest.all String.isEmpty then .ok .lockedDirectory else .error .denied
    | some .directory => fs.walk (enter here name) rest

/-- Where a path starts. -/
def origin (fs : Files) (path : String) : List String :=
  if path.startsWith "/" then [] else fs.workingDirectory

/-- The names in a path. -/
def namesOf (path : String) : List String :=
  path.splitOn "/"

/-- What is to be found on the way to a node, and the node. -/
def onTheWay (node : FileNode) : List String → List String → List (List String × FileNode)
  | here, [] => [(here, node)]
  | here, name :: rest => (here, .directory) :: onTheWay node (enter here name) rest

/-- Puts a node where a path leads, ahead of what is on the way. -/
def put (fs : Files) (path : String) (node : FileNode) : Files :=
  { fs with nodes := fs.nodes ++ (onTheWay node (fs.origin path) (namesOf path)).reverse }

def find (fs : Files) (path : String) : Except FileError FileNode :=
  if path.isEmpty then .error .notFound else fs.walk (fs.origin path) (namesOf path)

def contains (fs : Files) (path : String) : Bool :=
  match fs.find path with
  | .ok _ => true
  | .error _ => false

/-- The text of a file. -/
def read (fs : Files) (path : String) : Except FileError String :=
  match fs.find path with
  | .error e => .error e
  | .ok .lockedFile | .ok .lockedDirectory => .error .denied
  | .ok .directory => .error .isDirectory
  | .ok (.file bytes) =>
    match Text.decodeStrict? bytes with
    | some text => .ok (String.ofList text)
    | none => .error .notText

end Files

end Storefront
