import MeshControl.FileTree

/-!
What lies at a path.

A path is walked name by name from the root or from the working directory. Every name but the last
has to lead to a directory. A link on the way is left at the place that it leads to, so two dots
after it mean the parent of that place. The limits of the operating system on names and paths are
checked on the way.
-/

namespace MeshControl

namespace FileTree

/-! ## Walking -/

/-- The longest name that a file system takes, in bytes. -/
def maxNameLength : Nat := 255

/-- The longest path that the operating system takes, in bytes. -/
def maxPathLength : Nat := 4095

/-- What lies below a node at a list of names, without following links. -/
def below : FileNode → List FileName → Option FileNode
  | node, [] => some node
  | .directory entries, name :: rest =>
    (DirectoryEntries.find? entries name).bind fun child => below child rest
  | _, _ :: _ => none

def nodeAt (tree : FileTree) (place : List FileName) : Except SystemError FileNode :=
  match below tree.root place with
  | some node => .ok node
  | none => .error .notFound

/-- Where a walk goes on that has come to a place: elsewhere, if a link is there. -/
def destination (tree : FileTree) (place : List FileName) : List FileName :=
  match below tree.root place with
  | some (.link target) => target
  | _ => place

/-- Take one name of a path, from the place at which the walk stands. -/
def enter (tree : FileTree) (place : List FileName) (name : FileName) :
    Except SystemError (List FileName) := do
  let .directory _ ← tree.nodeAt place | throw .notADirectory
  if !name.moves then
    return place
  if name = FileName.ofText ['.', '.'] then
    return place.dropLast
  if maxNameLength < name.length then
    throw .nameTooLong
  let next := tree.destination (place ++ [name])
  discard (tree.nodeAt next)
  return next

/-- Where the walk of a path begins, and the names that it takes. -/
def route (tree : FileTree) (path : String) :
    Except SystemError (List FileName × List FileName) := do
  let text := path.toList
  if text.contains '\x00' then
    throw .nullInPath
  if text.isEmpty then
    throw .notFound
  if maxPathLength < (FileName.ofText text).length then
    throw .nameTooLong
  let start := if text.head? = some '/' then [] else tree.workingDirectory
  return (start, (text.splitOn '/').map FileName.ofText)

/-- Whether a walk ends at a directory. -/
def leadsToDirectory (tree : FileTree) (start names : List FileName) : Bool :=
  match names.foldlM tree.enter start >>= tree.nodeAt with
  | .ok (.directory _) => true
  | _ => false

/-- What lies at a path, with links followed. -/
def find (tree : FileTree) (path : String) : Except SystemError FileNode := do
  let (start, names) ← tree.route path
  tree.nodeAt (← names.foldlM tree.enter start)

/-! ## Looking -/

def isDirectory (tree : FileTree) (path : String) : Bool :=
  match tree.find path with
  | .ok (.directory _) => true
  | _ => false

def readFile (tree : FileTree) (path : String) : Except SystemError FileContent := do
  match ← tree.find path with
  | .file content => return content
  | .directory _ => throw .isADirectory
  | _ => throw .noDevice

/-- The entries of the directory at a path. -/
def list (tree : FileTree) (path : String) : Except SystemError DirectoryEntries := do
  match ← tree.find path with
  | .directory entries => return entries
  | _ => throw .notADirectory

/-- The path of a name in a directory. -/
def join (directory name : String) : String :=
  if directory = "" ∨ directory.toList.getLast? = some '/' then directory ++ name
  else directory ++ "/" ++ name

end FileTree

end MeshControl
