import MeshControl.FileTree.Walk

/-!
Changes to files: what others do to them, and what a program makes at a path.

A change that the file system would refuse has no effect if others make it, and is an error if the
program does. The last name of a path is the entry that changes, so a link there is itself moved
or removed; only writing a file goes on to the place that a link leads to.
-/

namespace MeshControl.FileTree

/-! ## Places -/

def alter (tree : FileTree) (place : List FileName)
    (change : Option FileNode → Option FileNode) : FileTree :=
  { tree with root := (FileNode.alter change place (some tree.root)).getD tree.root }

/-- The place of the entry at the end of a walk, whose directory has to be there. -/
def entryPlace (tree : FileTree) (start names : List FileName) :
    Except SystemError (List FileName) := do
  let parent ← names.dropLast.foldlM tree.enter start
  let .directory _ ← tree.nodeAt parent | throw .notADirectory
  let name := names.getLastD []
  if ["", ".", ".."].any fun special => FileName.ofText special.toList = name then
    throw .alreadyExists
  if maxNameLength < name.length then
    throw .nameTooLong
  return parent ++ [name]

/-- Make the directories that are missing on a walk, as far as it gets. -/
def makeWay (tree : FileTree) (place : List FileName) : List FileName → FileTree
  | [] => tree
  | name :: rest =>
    match tree.enter place name with
    | .ok next => makeWay tree next rest
    | .error error =>
      let new := place ++ [name]
      if error = .notFound ∧ (below tree.root new).isNone then
        makeWay (tree.alter new fun _ => some (.directory [])) new rest
      else tree

/-! ## Changes -/

/-- A change to the files. Paths are lists of names from the root. -/
inductive Change where
  /-- Put something at a path, with the directories on the way. Of what is there, only a file can
  be put anew. -/
  | put (path : List FileName) (node : FileNode)
  /-- Remove what is at a path, with everything below it. -/
  | remove (path : List FileName)
  /-- Move what is at one path to another, and replace what is there if it is of the same sort. A
  directory does not move into itself. -/
  | move (origin target : List FileName)
  /-- Make a directory, unless something is there. -/
  | makeDirectory (path : List FileName)

def put (tree : FileTree) (place : List FileName) (node : FileNode) : FileTree :=
  match below tree.root place, node with
  | none, _ => tree.alter place fun _ => some node
  | some _, .file _ =>
    let place := tree.destination place
    match below tree.root place with
    | none | some (.file _) => tree.alter place fun _ => some node
    | some _ => tree
  | some _, _ => tree

def move (tree : FileTree) (origin target : List FileName) : FileTree :=
  match below tree.root origin with
  | some node =>
    if node.mayReplace (below tree.root target) && !origin.isPrefixOf target then
      (tree.alter origin fun _ => none).alter target fun _ => some node
    else tree
  | none => tree

def apply (tree : FileTree) : Change → FileTree
  | .put path node =>
    let tree := tree.makeWay [] path.dropLast
    match tree.entryPlace [] path with
    | .ok place => tree.put place node
    | .error _ => tree
  | .remove path =>
    match tree.entryPlace [] path with
    | .ok place => tree.alter place fun _ => none
    | .error _ => tree
  | .move origin target =>
    match tree.entryPlace [] origin, tree.entryPlace [] target with
    | .ok origin, .ok target => tree.move origin target
    | _, _ => tree
  | .makeDirectory path => tree.makeWay [] path

/-! ## Making files at paths -/

/-- The place for a new entry at a path. -/
def newPlace (tree : FileTree) (path : String) : Except SystemError (List FileName) := do
  let (start, names) ← tree.route path
  tree.entryPlace start names

/-- Make a directory at the end of a walk, where nothing may be yet. -/
def makeDirectory (tree : FileTree) (start names : List FileName) :
    Except SystemError FileTree := do
  let place ← tree.entryPlace start names
  if (below tree.root place).isSome then
    throw .alreadyExists
  return tree.alter place fun _ => some (.directory [])

/-- Make a directory at the end of a walk; there may be one already. -/
def ensureDirectory (tree : FileTree) (start names : List FileName) :
    Except SystemError FileTree :=
  match tree.makeDirectory start names with
  | .ok made => .ok made
  | .error error => if tree.leadsToDirectory start names then .ok tree else .error error

/-- Make a directory at the end of a walk, and those on the way that are missing. The names of the
walk are given from the last to the first. -/
def ensureDirectories (tree : FileTree) (start : List FileName) :
    List FileName → Except SystemError FileTree
  | [] => tree.ensureDirectory start []
  | last :: parents => do
    let names := (last :: parents).reverse
    match tree.makeDirectory start names with
    | .error .notFound => (← tree.ensureDirectories start parents).ensureDirectory start names
    | _ => tree.ensureDirectory start names

/-- Make a directory at a path, with the directories on the way; they may be there already. -/
def createDirectory (tree : FileTree) (path : String) : Except SystemError FileTree := do
  let (start, names) ← tree.route path
  tree.ensureDirectories start (names.filter FileName.moves).reverse

/-- Write a regular file at a path; there may be one already. -/
def writeFile (tree : FileTree) (path : String) (content : FileContent) :
    Except SystemError FileTree := do
  let place := tree.destination (← tree.newPlace path)
  match below tree.root place with
  | none | some (.file _) => return tree.alter place fun _ => some (.file content)
  | some (.directory _) => throw .isADirectory
  | some _ => throw .noDevice

end MeshControl.FileTree
