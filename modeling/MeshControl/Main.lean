import MeshControl.FileTree.Change
import MeshControl.Startup

/-!
The command line: a start-up with the variables of the process.

The start-up is tried out and not carried through. It sees the files that the configuration names
and takes every port to be free; it logs what it would log, and ends as it would end, without
opening a listener.
-/

namespace MeshControl

/-- What a file in PEM format holds. Identities are not compared, so all have the same number. -/
def FileContent.ofPem (content : String) : FileContent :=
  let holds (mark : String) : Bool := (content.splitOn mark).length > 1
  if holds "-----BEGIN CERTIFICATE-----" then .certificate 0
  else if holds "PRIVATE KEY-----" then .key 0
  else .other

/-- The error number of reading a directory as a file. -/
def directoryReadCode : UInt32 := 21

/-- What lies at a path. -/
def observeNode (path : String) : IO (Option FileNode) := do
  try
    let bytes ← IO.FS.readBinFile path
    return some (.file (.ofPem ((String.fromUTF8? bytes).getD "")))
  catch
    | .inappropriateType _ code _ =>
      return if code = directoryReadCode then some (.directory []) else none
    | _ => return none

/-- The files with what lies at the first names of a path, and on the way to them. -/
def observe (files : FileTree) (path : String) : IO FileTree := do
  let names := path.splitOn "/"
  let mut files := files
  let mut place := if path.startsWith "/" then [] else files.workingDirectory
  for count in List.range names.length do
    let name := names.getD count ""
    if name = ".." then
      place := place.dropLast
    else if name ≠ "" ∧ name ≠ "." then
      place := place ++ [FileName.ofText name.toList]
      match ← observeNode ("/".intercalate (names.take (count + 1))) with
      | some (.directory _) => files := files.apply (.makeDirectory place)
      | some node => files := files.apply (.put place node)
      | none => pure ()
  return files

/-- The paths that a start-up looks at. -/
def observedPaths (config : Config) : List String :=
  config.configDir.toList ++ [FileTree.join config.certDir Server.certChainFile,
    FileTree.join config.certDir Server.keyFile]

/-- The part of the machine that a start-up with these variables looks at. -/
def observeMachine (environment : Variables) : IO Surroundings := do
  let here := (toString (← IO.currentDir)).splitOn "/"
  let workingDirectory := (here.filter (· ≠ "")).map fun name => FileName.ofText name.toList
  let start : FileTree := FileTree.apply ⟨.directory [], workingDirectory⟩
    (.makeDirectory workingDirectory)
  let files ← match Config.ofVariables environment with
    | .ok config => (observedPaths config).foldlM observe start
    | .error _ => pure start
  return ⟨files, ⟨true, []⟩, ⟨1, 2, 3⟩, .ofFn fun _ => none⟩

/-- The variables of the process that a start-up looks at. -/
def processVariables : IO Variables := do
  let values ← (Startup.filterKey :: Config.keys).mapM fun key => do
    return (key, ← IO.getEnv key)
  return fun key => (values.lookup key).bind id

end MeshControl

open MeshControl in
/-- Try out a start-up, log it, and end with its exit status. -/
def main : IO UInt32 := do
  let environment ← processVariables
  let startup := Startup.run environment (← observeMachine environment)
  for line in startup.logLines (Startup.filterOf environment) do
    IO.println line
  IO.eprint startup.errorOutput
  return UInt32.ofNat startup.exitCode
