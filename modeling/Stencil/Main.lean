import Std.Time.DateTime.Timestamp
import Stencil.Program.Run

/-!
# The command line

Reads the files that a run may need, runs the program on them (`Stencil.run`), and writes what it gives.
-/

namespace Stencil

/-- The present moment. -/
def presentMoment : IO Moment := do
  let stamp ← Std.Time.Timestamp.now
  return .ofMicroseconds (stamp.toNanosecondsSinceUnixEpoch.toInt.toNat / 1000)

/-- The place of a path on the disk. -/
def diskPath (parts : List Text) : String := (FileTree.pathOf ⟨[], true⟩ parts).text.string

/-- The entry of a path on the disk. A file that cannot be read counts as none. -/
def entryOnDisk (parts : List Text) : IO (Option Entry) := do
  let path := (← IO.currentDir) / diskPath parts
  if ← path.isDir then return some .directory
  if ← path.pathExists then
    match ← (IO.FS.readBinFile path).toBaseIO with
    | .ok bytes => return some (.file bytes.toList)
    | .error _ => return none
  return none

/-- The entries of the places that a path passes on its way from a directory. -/
def entriesAlong (base : List Text) : List Text → IO (List (List Text × Entry))
  | [] => return []
  | part :: parts => do
    let place := if part = [Point.char '.', '.'] then base.dropLast else base ++ [part]
    match ← entryOnDisk place with
    | some entry => return (place, entry) :: (← entriesAlong place parts)
    | none => return []

/-- The entries of a path from a directory or from the root. -/
def entriesOf (base : List Text) (p : Path) : IO (List (List Text × Entry)) :=
  entriesAlong (if p.isAbsolute then [] else base) p.parts

/-- The entries of a directory and of the customization files in it. -/
def customEntries (base : List Text) (p : Path) : IO (List (List Text × Entry)) := do
  let along ← entriesOf base p
  match along.getLast? with
  | some (place, .directory) =>
    let children ← ((← IO.currentDir) / diskPath place).readDir
    let names := customizationFiles (children.toList.map fun child => child.fileName.text)
    let files ← names.mapM fun name => entriesAlong place [name]
    return along ++ files.flatten
  | _ => return along

/-- The paths that an argument may name. -/
def argumentPaths (argument : Text) : List Path :=
  match Text.cutAt? ['='] argument with
  | some (_, value) => [Path.ofText argument, Path.ofText value]
  | none => [Path.ofText argument]

/-- The files on the disk that a run may need. -/
def filesOnDisk (directory : List Text) (arguments : List Text) : IO FileTree := do
  let here := (directory, Entry.directory)
  let marks ← (enclosing ⟨[], true⟩ directory).mapM fun parts =>
    projectMarks.mapM fun mark => entriesOf parts ⟨[], [mark]⟩
  let project : FileTree := ⟨here :: marks.flatten.flatten, true⟩
  let root := projectRoot project directory
  let configured : FileTree := { project with entries := project.entries ++ (← entriesOf root configPath) }
  let custom ← match loadConfig configured root with
    | .ok ⟨settings, none⟩ => customEntries root (settings.customDir.getD standardCustomDir)
    | _ => pure []
  let named ← (arguments.flatMap argumentPaths).mapM (entriesOf directory)
  return { configured with entries := configured.entries ++ custom ++ named.flatten }

/-- The cells of a line of output, which the environment may set. -/
def lineWidth : IO Nat := do
  let columns := (← IO.getEnv "COLUMNS").bind String.toNat?
  return match columns with
    | some (n + 1) => n + 1
    | _ => 80

/-- What a run on the disk depends on. -/
def surroundingsOnDisk (arguments : List Text) : IO Surroundings := do
  let directory := (Path.ofText (← IO.currentDir).toString.text).parts
  return {
    files := ← filesOnDisk directory arguments
    directory
    mode := (← IO.getEnv modeVariable.string).map String.text
    terminal := ← (← IO.getStdout).isTty
    width := ← lineWidth
    now := ← presentMoment }

end Stencil

open Stencil in
/-- Runs the program. -/
def main (arguments : List String) : IO UInt32 := do
  let arguments := arguments.map String.text
  let write (stream : IO.FS.Stream) (t : Text) : IO Unit := stream.putStr t.string
  match run (← surroundingsOnDisk arguments) arguments with
  | .ok outcome =>
    write (← IO.getStderr) outcome.errors
    write (← IO.getStdout) outcome.output
    return UInt32.ofNat outcome.exit
  | .error crash =>
    write (← IO.getStderr) (crash.message ++ "\n".text)
    return 1
