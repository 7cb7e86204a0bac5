import RefNav.CommandLine.Misuse
import RefNav.Provider
import RefNav.Report.Envelope
import RefNav.Report.Refusal
import RefNav.Settings.Basic
import RefNav.Workspace.Lookup
import RefNav.Workspace.Open

/-! # Invocations

What every command has at hand: the files, the environment, and the form in
which it answers.  A command writes lines to the output and comes to an end of
its own, or fails.
-/

namespace RefNav

/-- The surroundings of a command. -/
structure Invocation where
  tree : FileTree
  environment : Environment := []
  /-- The time that answers carry. -/
  timestamp : String
  /-- Are answers given as JSON? -/
  json : Bool := false

/-- How a command came to its end. -/
inductive Ending where
  | done
  | refused (r : Refusal)
  /-- The values on the command line do not fit what was found. -/
  | misused (m : CommandLine.Misuse)
deriving Repr, DecidableEq

namespace Invocation

/-- Answer with an envelope. -/
def answer (i : Invocation) (command : String) (summary payload : Members) : Act Ending := do
  Act.print (← Act.ofExcept (Envelope.text i.timestamp command summary payload))
  return .done

/-- The document that a user names. -/
def load (i : Invocation) (path : String) : Act Document :=
  Act.ofExcept (i.tree.loadDocument path)

/-- The document that a location names. -/
def openDocument (i : Invocation) (uri : String) : Act Document :=
  Act.ofExcept (i.tree.openDocument uri)

/-- The text of a line of a document. -/
def lineAt (d : Document) (line : Int) : Act String :=
  Act.ofExcept (d.lineAt line)

/-- The settings of the project around a file. -/
def settingsFor (i : Invocation) (path : String) : Act Settings := do
  let place ← Act.ofExcept (i.tree.resolve (.ofString path))
  let root ← Act.ofExcept (i.tree.projectRoot (.ofPlace place.dropLast))
  Act.ofLogged (Settings.load i.tree (.ofPlace root) i.environment)

/-- The connection for a document. -/
def connectionFor (i : Invocation) (d : Document) : Act Connection :=
  Act.ofLogged (Settings.connectionFor i.tree i.environment d.uri)

/-- The project around the current directory. -/
def projectRoot (i : Invocation) : Except Fault PathName :=
  (i.tree.projectRoot (.ofString ".")).map PathName.ofPlace

/-- The directory of the local search: the given one or, without one, the project. -/
def searchRoot (i : Invocation) (workspace : Option String) : Except Fault PathName :=
  match workspace with
  | some path => .ok (.ofString path)
  | none => i.projectRoot

/-- The fallback of a search for definitions, if one is wanted. -/
def fallback (i : Invocation) (workspace : Option String) (wanted : Bool) :
    Except Fault (Option (Document → Position → Bool → Act Answer)) :=
  if wanted then (i.searchRoot workspace).map fun root => some (localFallback i.tree root)
  else .ok none

/-- The provider of definitions. -/
def provider (i : Invocation) (settings : Settings) (workspace : Option String)
    (useFallback : Bool) : Act Provider := do
  let fallback ← Act.ofExcept (i.fallback workspace useFallback)
  return {
    resolver := settings.resolver
    connectionFor := i.connectionFor
    fallback
    traced := settings.debugResolver }

/-- A line number, counted from one, behind the end of a document. -/
def lineTooLarge (path : String) (d : Document) : Ending :=
  .misused (.badValue "LINE" (path ++ " has only " ++ Text.showInt d.lineCount ++ " lines"))

end Invocation

/-- A place as a user gives it. -/
def placeText (path : String) (line column : Int) : String :=
  path ++ ":" ++ Text.showInt line ++ ":" ++ Text.showInt column

/-- Locations as JSON. -/
def locationsJson (locations : List Location) : Json :=
  .arr (locations.map Location.toJson)

end RefNav
