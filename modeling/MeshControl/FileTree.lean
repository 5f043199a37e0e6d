import MeshControl.SystemError

/-!
Files and directories as a control plane sees them.

Names are byte strings, because a file system does not ask for text. A link leads to a place, which
is a list of names from the root and not itself a link, so that links need not be followed twice.
Whether a file holds a certificate or a key matters, its bytes do not.
-/

namespace MeshControl

/-- A file name: bytes other than the slash. -/
abbrev FileName := List UInt8

/-- The name that a text gives, in UTF-8. -/
def FileName.ofText (text : List Char) : FileName :=
  text.flatMap String.utf8EncodeChar

/-- Whether a walk that takes a name may leave the place where it stands. An empty name and a single
dot stay there. -/
def FileName.moves (name : FileName) : Bool :=
  !(name = ofText [] ∨ name = ofText ['.'])

/-- What a regular file holds, as far as it matters here. Certificates and keys that belong
together have the same number. -/
inductive FileContent where
  | certificate (pair : Nat)
  | key (pair : Nat)
  | other
deriving DecidableEq

/-- What lies at a path. -/
inductive FileNode where
  | file (content : FileContent)
  | socket
  /-- A symbolic link to a place, at which there may be nothing. -/
  | link (target : List FileName)
  | directory (entries : List (FileName × FileNode))

/-- The entries of a directory, each under its name. -/
abbrev DirectoryEntries := List (FileName × FileNode)

namespace DirectoryEntries

def find? (entries : DirectoryEntries) (name : FileName) : Option FileNode :=
  entries.lookup name

def erase (entries : DirectoryEntries) (name : FileName) : DirectoryEntries :=
  entries.filter fun entry => entry.1 != name

/-- The entries with another entry, or none, of a name. -/
def set (entries : DirectoryEntries) (name : FileName) : Option FileNode → DirectoryEntries
  | none => erase entries name
  | some node => erase entries name ++ [(name, node)]

end DirectoryEntries

namespace FileNode

def isRegularFile : FileNode → Bool
  | file _ => true
  | _ => false

/-- Whether a node that is moved may take the place of what is there: a directory that of an empty
directory, and anything else that of anything but a directory. -/
def mayReplace : FileNode → Option FileNode → Bool
  | _, none => true
  | directory _, some (directory entries) => entries.isEmpty
  | directory _, some _ => false
  | _, some (directory _) => false
  | _, some _ => true

/-- Change what lies at a place below a node. Without directories that lead to the place, the change
has no effect. -/
def alter (change : Option FileNode → Option FileNode) :
    List FileName → Option FileNode → Option FileNode
  | [], node => change node
  | name :: rest, some (directory entries) =>
    some (directory (DirectoryEntries.set entries name
      (alter change rest (DirectoryEntries.find? entries name))))
  | _ :: _, node => node

end FileNode

/-- All files, and the directory in which relative paths begin. -/
structure FileTree where
  root : FileNode
  workingDirectory : List FileName

end MeshControl
