import RefNav.Settings.Config

/-! # Opening documents

A location on the server's side is a path of the workspace.  A relative path
that leads nowhere from the current directory is tried from the root of the
project.
-/

namespace RefNav.FileTree

/-- The document that a location names. -/
def openDocument (t : FileTree) (uri : String) : Except Fault Document := do
  let path := PathName.ofString uri
  if path.isAbsolute then return ← t.document path
  if ← t.leadsSomewhere path.toString then return ← t.document path
  let candidate := (PathName.ofPlace (← t.projectRoot (.ofString "."))).append path
  if ← t.leadsSomewhere candidate.toString then t.document candidate else t.document path

/-- The document that a user names.  A file system fault is reported with the path
as it was given. -/
def loadDocument (t : FileTree) (path : String) : Except Fault Document :=
  match t.document (.ofString path) with
  | .error (.file _ hint) => .error (.unreadable path hint)
  | outcome => outcome

end RefNav.FileTree
