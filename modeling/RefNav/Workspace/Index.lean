import RefNav.FileTree.Basic
import RefNav.Location
import RefNav.Log
import RefNav.Workspace.Labels

/-! # Workspace index

The routines, classes and include files below a directory, found by their file
names.  A routine is named by its file; a class by the directories and the file
that lead to it.  Where files compete for a name the first in path order wins.
-/

namespace RefNav

open RefNav.Text

/-- The sources below a directory. -/
structure Index where
  root : PathName
  routines : List (String × PathName) := []
  classes : List (String × PathName) := []
  includes : List PathName := []
deriving Repr, DecidableEq

namespace Index

/-- Suffixes of files that hold routines. -/
def routineSuffixes : List String :=
  [".mac", ".int", ".inc", ".m"]

/-- The suffix of include files. -/
def includeSuffix : String := ".inc"

/-- The suffix of files that hold classes. -/
def classSuffix : String := ".cls"

/-- The suffix of a file name, case ignored. -/
def suffixOf (name : String) : String :=
  lowered (PathName.splitSuffix name).2

/-- The dotted name of the class in a file, from its path below the root. -/
def className (relative : List String) : String :=
  let file := (PathName.splitSuffix (relative.getLast?.getD "")).1
  ".".intercalate (relative.dropLast ++ [file])

/-- Enter a file, given by its path below the root, into the index. -/
def addFile (i : Index) (relative : List String) : Index :=
  let name := relative.getLast?.getD ""
  let suffix := suffixOf name
  let path := i.root.join relative
  if routineSuffixes.contains suffix then
    { i with
      routines := addFirst i.routines (PathName.splitSuffix name).1 path
      includes := if suffix = includeSuffix then i.includes ++ [path] else i.includes }
  else if suffix = classSuffix then
    { i with classes := addFirst i.classes (className relative) path }
  else i

/-- The refusal of a path below the root that is too long to be followed. -/
def tooLong? (i : Index) (relative : List String) : Option Fault :=
  let name := (i.root.join relative).toString
  if FileTree.pathLimit ≤ name.utf8ByteSize then some (.atPath .nameTooLong name) else none

/-- Enter files one after another, up to the first whose path is refused. -/
def addFiles (i : Index) : List (List String) → Index × Option Fault
  | [] => (i, none)
  | relative :: rest =>
      match i.tooLong? relative with
      | some f => (i, some f)
      | none => (i.addFile relative).addFiles rest

/-- The record of a scan. -/
def scanRecord (i : Index) : LogRecord :=
  ⟨.debug, .workspace, "Indexed " ++ showInt i.routines.length ++ " routines, "
    ++ showInt i.classes.length ++ " classes under " ++ i.root.toString⟩

/-- Scan the root of an index again.  What the index held is dropped first; the
index is that after the scan, whether it succeeded or not.  All directories are
listed before the first file is entered.  A root that is not a directory leaves
no record; one with a name too long is a fault. -/
def rescan (i : Index) (t : FileTree) : Index × Except Fault (List LogRecord) :=
  let empty : Index := { root := i.root }
  match t.find i.root.toString with
  | .ok (place, .directory) =>
      match (t.directoriesBelow place).findSome? empty.tooLong? with
      | some f => (empty, .error f)
      | none =>
          match empty.addFiles (t.filesBelow place) with
          | (filled, some f) => (filled, .error f)
          | (filled, none) => (filled, .ok [filled.scanRecord])
  | .error (.file .nameTooLong message) => (empty, .error (.file .nameTooLong message))
  | _ => (empty, .ok [])

/-- The index of a directory and the record of the scan. -/
def scan (t : FileTree) (root : PathName) : Except Fault (Index × List LogRecord) :=
  match rescan { root } t with
  | (i, .ok records) => .ok (i, records)
  | (_, .error f) => .error f

/-- The lines of an indexed file; a file that cannot be read any more has none. -/
def readLines (t : FileTree) (path : PathName) : List String × List LogRecord :=
  match t.readText path.toString with
  | .ok text => (splitLines (String.ofList (unifyBreaks text)), [])
  | .error f =>
      ([], [⟨.debug, .workspace, "Cannot read " ++ path.toString ++ ": " ++ f.message⟩])

/-- The file of a routine. -/
def findRoutine (i : Index) (name : String) : Option PathName :=
  i.routines.lookup name

/-- Is the class name the last part, or the last parts, of an indexed class? -/
def isTrailing (name : String) (entry : String × PathName) : Bool :=
  ("." ++ name).toList.isSuffixOf entry.1.toList || entry.2.stem = name

/-- The file of a class: by its full name, else by the last parts of one. -/
def findClass (i : Index) (name : String) : Option PathName :=
  match i.classes.lookup name with
  | some path => some path
  | none => (i.classes.find? (isTrailing name)).map (·.2)

/-- The location of a line in an indexed file. -/
def locate (t : FileTree) (path : PathName) (line : Nat) : Location :=
  { uri := t.absolute path, line := line }

/-- The place of a label in a routine. -/
def findLabel (i : Index) (t : FileTree) (label routine : String) :
    Option Location × List LogRecord :=
  match i.findRoutine routine with
  | none => (none, [])
  | some path =>
      let (lines, log) := readLines t path
      (((labels lines).lookup label).map (locate t path), log)

/-- The first line that defines or declares a name. -/
def firstLine (declared : List Char → Option (List Char)) (name : String) (lines : List String) :
    Option Nat :=
  lines.findIdx? fun line => declared line.toList = some name.toList

/-- The place of a macro's definition in the given include files. -/
def findMacroIn (t : FileTree) (name : String) :
    List PathName → Option Location × List LogRecord
  | [] => (none, [])
  | path :: rest =>
      let (lines, log) := readLines t path
      match firstLine definedMacro? name lines with
      | some line => (some (locate t path line), log)
      | none =>
          let (found, more) := findMacroIn t name rest
          (found, log ++ more)

/-- The place of a macro's definition. -/
def findMacro (i : Index) (t : FileTree) (name : String) : Option Location × List LogRecord :=
  findMacroIn t name i.includes

/-- The place of a member of a class; the start of the class without a member, or
where the member is not found. -/
def findMember (i : Index) (t : FileTree) (className : String) (member : Option String) :
    Option Location × List LogRecord :=
  match i.findClass className with
  | none => (none, [])
  | some path =>
      match member with
      | none | some "" => (some (locate t path 0), [])
      | some name =>
          let (lines, log) := readLines t path
          (some (locate t path ((firstLine declaredMember? name lines).getD 0)), log)

end Index

end RefNav
