import MeshControl.FileTree.Walk

/-!
Counting the configuration files of a directory.

A configuration file is a regular file with one of three extensions, directly in the directory.
The extension is what follows the last dot of the name; a dot in front of the whole name hides a
file and begins no extension. Names are compared byte by byte, so case matters and the rest of the
name need not be text.
-/

namespace MeshControl

def dotByte : UInt8 := 46

/-- What follows the last dot of a name, if there is a dot that is not its first byte. -/
def FileName.extension? (name : FileName) : Option FileName :=
  match name.reverse.span (· ≠ dotByte) with
  | (reversed, _ :: _ :: _) => some reversed.reverse
  | _ => none

def configExtensions : List FileName :=
  ["yaml", "yml", "json"].map fun extension => FileName.ofText extension.toList

def isConfigFile (entry : FileName × FileNode) : Bool :=
  entry.2.isRegularFile &&
    match FileName.extension? entry.1 with
    | some extension => configExtensions.contains extension
    | none => false

/-- The number of configuration files among the entries of a directory. -/
def countConfigFiles (entries : DirectoryEntries) : Nat :=
  entries.countP isConfigFile

/-- The number of configuration files in the directory at a path. -/
def FileTree.scan (tree : FileTree) (path : String) : Except SystemError Nat := do
  return countConfigFiles (← tree.list path)

end MeshControl
