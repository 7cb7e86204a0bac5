import RefNav.CommandLine.Run
import RefNav.Report.Timestamp
import Std.Time.DateTime.Timestamp

/-! # The program

Reads the files that a command may look at, runs the command line on them,
writes back the files that changed, and prints.  No network is reached from
here: every request fails, and lookups fall back to the local search.
-/

namespace RefNav.Shell

/-- Add a place and everything below it to a tree.  Of a checkout only its presence
counts. -/
partial def readBelow (tree : FileTree) (place : Place) : IO FileTree := do
  let path := (← IO.currentDir) / place.toString
  if ← path.isDir then
    let mut t := tree.makeDirectories place
    if place.getLast? ≠ some ".git" then
      for entry in ← path.readDir do
        t ← readBelow t (place ++ [entry.fileName])
    return t
  else if ← path.pathExists then
    return tree.putFile place (← IO.FS.readBinFile path).toList
  else return tree

/-- Add what decides about the project around a place: the checkouts and
configuration files of the directories that lead to it. -/
def readAround (tree : FileTree) (place : Place) : IO FileTree := do
  let mut t := tree
  for directory in Place.ancestors place do
    if ← ((← IO.currentDir) / directory.toString).isDir then
      t := t.makeDirectories directory
      t ← readBelow t (directory ++ [".git"])
      t ← readBelow t (directory ++ [Config.directory, Config.fileName])
  return t

/-- The files that a command with these words may look at. -/
def readTree (words : List String) : IO FileTree := do
  let here := (PathName.ofString (← IO.currentDir).toString).resolve []
  let mut t ← readAround { current := here } here
  t ← readBelow t ((t.projectRoot (.ofString ".")).toOption.getD here)
  for word in words do
    let place := (PathName.ofString word).resolve here
    t ← readAround t place
    t ← readBelow t place
  return t

/-- Write the entries of a tree that differ from an earlier one. -/
def writeChanges (before after : FileTree) : IO Unit := do
  for (place, entry) in after.entries do
    if before.get? place ≠ some entry then
      match entry with
      | .directory => IO.FS.createDirAll place.toString
      | .file bytes => IO.FS.writeBinFile place.toString ⟨bytes.toArray⟩

/-- The variables of the environment that the program knows. -/
def readEnvironment : IO Environment := do
  let mut env : Environment := []
  for name in Settings.variableNames do
    match ← IO.getEnv name with
    | some value => env := env ++ [(name, value)]
    | none => pure ()
  return env

/-- A server that cannot be reached. -/
def unreachable : Server :=
  { inTurn := fun _ => .network "no network access" }

end RefNav.Shell

open RefNav in
/-- Run the command line. -/
def main (words : List String) : IO UInt32 := do
  let tree ← Shell.readTree words
  let now ← Std.Time.Timestamp.now
  let program : CommandLine.Program :=
    { tree
      environment := ← Shell.readEnvironment
      timestamp := Timestamp.ofSeconds now.toSecondsSinceUnixEpoch.val
      server := Shell.unreachable }
  let output := program.run words
  Shell.writeChanges tree output.tree
  IO.print output.stdout
  IO.eprint output.stderr
  match output.escaped with
  | some fault => IO.eprintln fault.message
  | none => pure ()
  return output.exitCode.toNat.toUInt32
