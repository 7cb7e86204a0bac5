import RefNav.Document
import RefNav.FileTree.PathName
import RefNav.Text.Utf8

/-! # File trees

A file tree gives for every place a file with its bytes, a directory, or
nothing, and has a current directory from which relative names are followed.
Operations that the file system refuses name the reason.
-/

namespace RefNav

open RefNav.Text

/-- What is found at a place. -/
inductive Entry where
  | file (bytes : List UInt8)
  | directory
deriving Repr, DecidableEq

/-- Files and directories, with a current directory. -/
structure FileTree where
  entries : List (Place × Entry) := []
  current : Place := []
deriving Repr

namespace FileTree

/-- The entry at a place.  The top of the tree is always a directory. -/
def get? (t : FileTree) (place : Place) : Option Entry :=
  if place = [] then some .directory else t.entries.lookup place

/-- Is there a directory at this place? -/
def isDirectory (t : FileTree) (place : Place) : Bool :=
  t.get? place = some .directory

/-- Put an entry at a place. -/
def put (t : FileTree) (place : Place) (entry : Entry) : FileTree :=
  { t with entries := t.entries.filter (fun e => e.1 ≠ place) ++ [(place, entry)] }

/-- An entry is found where it was put. -/
theorem get?_put_self {place : Place} (h : place ≠ []) (t : FileTree) (entry : Entry) :
    (t.put place entry).get? place = some entry := by
  have absent : (t.entries.filter fun e => !decide (e.1 = place)).lookup place = none := by
    rw [List.lookup_eq_none_iff]
    intro e he
    have ne : e.1 ≠ place := by simpa using (List.mem_filter.mp he).2
    simpa using Ne.symm ne
  simp [get?, put, h, List.lookup_append, absent]

/-- Make the directories that lead to a place and the place itself. -/
def makeDirectories (t : FileTree) (place : Place) : FileTree :=
  (List.range place.length).foldl
    (fun t n =>
      let step := place.take (n + 1)
      if (t.get? step).isSome then t else t.put step .directory) t

/-- Put a file at a place, making the directories that lead to it. -/
def putFile (t : FileTree) (place : Place) (bytes : List UInt8) : FileTree :=
  (t.makeDirectories place.dropLast).put place (.file bytes)

/-- The longest name that an entry can have, in bytes. -/
def nameLimit : Nat := 255

/-- The number of bytes from which on a path is too long to be followed. -/
def pathLimit : Nat := 4096

/-- Follow the parts of a path through existing directories. -/
def walk (t : FileTree) : Place → List String → Except FileFault Place
  | here, [] => .ok here
  | here, part :: rest =>
      if !t.isDirectory here then .error .notDirectory
      else if part = "" || part = "." then walk t here rest
      else if part = ".." then walk t here.dropLast rest
      else if nameLimit < part.utf8ByteSize then .error .nameTooLong
      else if (t.get? (here ++ [part])).isSome then walk t (here ++ [part]) rest
      else .error .noEntry

/-- The place and entry at the end of a path, or why the system finds none. -/
def search (t : FileTree) (path : String) : Except FileFault (Place × Entry) :=
  if path = "" then .error .noEntry
  else if pathLimit ≤ path.utf8ByteSize then .error .nameTooLong
  else
    let start := if path.toList.head? = some '/' then [] else t.current
    match t.walk start (PathName.pieces path) with
    | .error f => .error f
    | .ok place =>
        match t.get? place with
        | some entry => .ok (place, entry)
        | none => .error .noEntry

/-- Can a text be a path at all?  The null character ends a path for the system and
cannot stand in one. -/
def isPathText (s : String) : Bool :=
  !s.toList.contains '\x00'

/-- The place and entry that a path written by a user leads to. -/
def find (t : FileTree) (path : String) : Except Fault (Place × Entry) :=
  if isPathText path then
    match t.search path with
    | .ok found => .ok found
    | .error cause => .error (.atPath cause path)
  else .error .brokenPath

/-- What a path leads to, for a caller who only asks.  Where the path ends nowhere,
or is no path at all, it leads to nothing; a name too long is a fault all the
same. -/
def probe (t : FileTree) (path : String) : Except Fault (Option Entry) :=
  match t.find path with
  | .ok (_, entry) => .ok (some entry)
  | .error (.file .nameTooLong message) => .error (.file .nameTooLong message)
  | .error _ => .ok none

/-- Does the path lead anywhere? -/
def leadsSomewhere (t : FileTree) (path : String) : Except Fault Bool := do
  return (← t.probe path).isSome

/-- Does the path lead to a file? -/
def leadsToFile (t : FileTree) (path : String) : Except Fault Bool := do
  match ← t.probe path with
  | some (.file _) => return true
  | _ => return false

/-- The bytes of the file that a path leads to. -/
def read (t : FileTree) (path : String) : Except Fault (List UInt8) :=
  match t.find path with
  | .ok (_, .file bytes) => .ok bytes
  | .ok (_, .directory) => .error (.atPath .isDirectory path)
  | .error f => .error f

/-- The characters of the file that a path leads to, undecodable bytes replaced. -/
def readText (t : FileTree) (path : String) : Except Fault (List Char) :=
  (t.read path).map Utf8.decodeLenient

/-- The files below a place, by their paths from there, in code point order part
by part. -/
def filesBelow (t : FileTree) (place : Place) : List (List String) :=
  (t.entries.filterMap fun e =>
    match e.2 with
    | .file _ => if place.isPrefixOf e.1 then some (e.1.drop place.length) else none
    | .directory => none).mergeSort fun a b => !(b < a)

/-- The directories below a place, by their paths from there. -/
def directoriesBelow (t : FileTree) (place : Place) : List (List String) :=
  t.entries.filterMap fun e =>
    match e.2 with
    | .directory => if place.isPrefixOf e.1 then some (e.1.drop place.length) else none
    | .file _ => none

/-- The place that a name means, whether there is something or not. -/
def resolve (t : FileTree) (p : PathName) : Except Fault Place :=
  if p.parts.all isPathText then .ok (p.resolve t.current) else .error .brokenPath

/-- The absolute path of the place that a name means. -/
def absolute (t : FileTree) (p : PathName) : String :=
  (p.resolve t.current).toString

/-- The document in a file. -/
def document (t : FileTree) (p : PathName) : Except Fault Document :=
  match t.readText p.toString with
  | .ok text => .ok (Document.ofText (t.absolute p) (String.ofList text))
  | .error f => .error f

end FileTree

end RefNav
