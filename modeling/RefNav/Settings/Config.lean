import RefNav.FileTree.Basic
import RefNav.Json.Reader
import RefNav.Settings.Block
import RefNav.Settings.Logged

/-! # Configuration files

Each project keeps its configuration in a JSON file below its root, the nearest
enclosing directory with a checkout.  A file that cannot be read counts as
empty and leaves a warning; writing merges new settings into the old ones.
-/

namespace RefNav

open RefNav.Text

/-- A place and the directories around it, innermost first, without the top of the
tree. -/
def Place.ancestors (place : Place) : List Place :=
  (List.range place.length).map fun k => place.take (place.length - k)

namespace FileTree

/-- Does a directory hold a checkout? -/
def isCheckout (t : FileTree) (place : Place) : Except Fault Bool :=
  t.leadsSomewhere (Place.toString (place ++ [".git"]))

/-- The first of some directories that holds a checkout. -/
def firstCheckout? (t : FileTree) : List Place → Except Fault (Option Place)
  | [] => .ok none
  | place :: rest => do
      if ← t.isCheckout place then return some place
      firstCheckout? t rest

/-- The root of the project around a path: the nearest directory with a checkout,
or the starting directory if there is none. -/
def projectRoot (t : FileTree) (start : PathName) : Except Fault Place := do
  let place ← t.resolve start
  let origin := if ← t.leadsToFile place.toString then place.dropLast else place
  return (← t.firstCheckout? (Place.ancestors origin)).getD origin

end FileTree

namespace Config

/-- The directory of the configuration below a project root. -/
def directory : String := ".ccsnav"

/-- The file of the configuration in its directory. -/
def fileName : String := "config.json"

/-- The path of the configuration of a project. -/
def path (root : PathName) : PathName :=
  root.join [directory, fileName]

/-- The value in a configuration file, or what is wrong with the file. -/
def readValue (t : FileTree) (file : PathName) : Except Fault (Except String Json) :=
  match t.read file.toString with
  | .error f => .ok (.error f.message)
  | .ok bytes =>
      match Utf8.decodeStrict bytes with
      | .error f => .ok (.error f.message)
      | .ok raw =>
          let text := unifyBreaks raw
          match Json.readText text with
          | .ok v => .ok (.ok v)
          | .error (.tooDeep kind) =>
              .error (.failure .tooDeep (Json.ReadFault.message text (.tooDeep kind)))
          | .error f => .ok (.error (f.message text))

/-- The configuration of a project; empty where there is none. -/
def load (t : FileTree) (root : PathName) : Logged Members := do
  let file := path root
  if !(← Logged.ofExcept (t.leadsSomewhere file.toString)) then return []
  match ← Logged.ofExcept (readValue t file) with
  | .ok (.obj members) => return members
  | .ok _ => return []
  | .error reason =>
      Logged.warn ("Ignoring malformed " ++ file.toString ++ ": " ++ reason)
      return []

/-- Merge an update into a configuration.  Connection settings given as an object
are merged key by key. -/
def update (existing : Members) : Members → Except Fault Members
  | [] => .ok existing
  | (key, value) :: rest =>
      match decide (key = "connection"), value with
      | true, .obj members =>
          match Block.ofJson ((Members.get? key existing).getD .null) with
          | .ok block => update (Members.set key (block.merge members).toJson existing) rest
          | .error f => .error f
      | _, value => update (Members.set key value existing) rest

/-- Make the directory of the configuration unless it is there. -/
def makeDirectory (t : FileTree) (root : PathName) : Except Fault FileTree :=
  let name := (root.join [directory]).toString
  match t.find name with
  | .ok (_, .directory) => .ok t
  | .ok (_, .file _) => .error (.atPath .alreadyExists name)
  | .error (.file .noEntry message) =>
      match t.find root.toString with
      | .ok (place, .directory) => .ok (t.put (place ++ [directory]) .directory)
      | _ => .error (.file .noEntry message)
  | .error f => .error f

/-- The text of a configuration file. -/
def textOf (data : Members) : Except Fault String :=
  match (Json.obj data).serialise with
  | .ok text => .ok text
  | .error .tooManyDigits => .error (.failure .badValue Json.WriteFault.tooManyDigits.message)
  | .error .tooDeep => .error (.failure .tooDeep Json.WriteFault.tooDeep.message)

/-- Open the configuration file of a project for writing: its place, and the files
afterwards.  Whatever the file held is gone once it is open. -/
def openFile (t : FileTree) (root : PathName) : Except Fault (Place × FileTree) :=
  let name := (path root).toString
  match t.find name with
  | .ok (_, .directory) => .error (.atPath .isDirectory name)
  | .ok (place, .file _) => .ok (place, t.put place (.file []))
  | .error (.file .noEntry message) =>
      match t.find (root.join [directory]).toString with
      | .ok (place, .directory) =>
          .ok (place ++ [fileName], t.put (place ++ [fileName]) (.file []))
      | _ => .error (.file .noEntry message)
  | .error f => .error f

/-- Merge an update into the configuration file of a project.  The file is opened
once the whole text is there.  The tree is that after the operation, whether it
succeeded or not. -/
def write (t : FileTree) (root : PathName) (updates : Members) : Logged Unit × FileTree :=
  match makeDirectory t root with
  | .error f => (throw f, t)
  | .ok made =>
      match Logged.outcome (load made root) with
      | (.error f, log) => (do Logged.writeAll log; throw f, made)
      | (.ok existing, log) =>
          match update existing updates with
          | .error f => (do Logged.writeAll log; throw f, made)
          | .ok merged =>
              match textOf merged with
              | .error f => (do Logged.writeAll log; throw f, made)
              | .ok text =>
                  match openFile made root with
                  | .error f => (do Logged.writeAll log; throw f, made)
                  | .ok (place, opened) =>
                      (Logged.writeAll log, opened.put place (.file (Utf8.encode text.toList)))

end Config

end RefNav
