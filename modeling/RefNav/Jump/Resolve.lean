import RefNav.Document
import RefNav.Jump.Address
import RefNav.Remote.Lookup

/-! # Jumping to an address

The label in its routine is looked up first.  If it is not found, a second
lookup of the routine alone tells whether the label or the whole routine is
missing; it is not bound to the caller's token.  If it is found, its document is
opened and the target line is kept within the document.
-/

namespace RefNav

/-- How a jump ended. -/
inductive JumpOutcome where
  | resolved (location : Location)
  | labelNotFound (routine label : String)
  | routineNotFound (routine : String)
deriving Repr, DecidableEq

/-- What the user is told about an outcome. -/
def JumpOutcome.message : JumpOutcome → String
  | .resolved l => l.display
  | .labelNotFound routine label => "Label " ++ label ++ " not found in " ++ routine
  | .routineNotFound routine =>
      "Routine " ++ routine ++ " not found in the current workspace"

/-- Keep a line within a document whose last line is given. -/
def clampLine (line last : Int) : Int :=
  min (max 0 last) (max 0 line)

/-- How jumps are carried out. -/
structure Jumper where
  resolver : Resolver
  connectionFor : Document → Act Connection
  openDocument : String → Act Document
  /-- Moves the cursor to the target. -/
  reveal : Option (Location → Act Unit) := none
  /-- Shows a warning to the user. -/
  notify : Option (String → Act Unit) := none

namespace Jumper

/-- Log a warning and show it. -/
def warn (j : Jumper) (message : String) : Act Unit := do
  Act.debug .jump ("Jump warning: " ++ message)
  match j.notify with
  | some told => told message
  | none => pure ()

/-- Find out why a label was not found. -/
def explainMiss (j : Jumper) (a : Address) (connection : Connection) : Act JumpOutcome := do
  match ← j.resolver.lookup ("^" ++ a.routine) connection false none with
  | none => return .routineNotFound a.routine
  | some _ => return .labelNotFound a.routine a.label

/-- Open the document of a found label and go to the target line. -/
def land (j : Jumper) (a : Address) (found : Location) : Act (Option JumpOutcome) := do
  match ← Act.outcome (j.openDocument found.uri) with
  | .error f =>
      if f.isSystem then
        Act.debug .jump ("Cannot open " ++ found.uri ++ ": " ++ f.message)
        j.warn ("Could not open routine '" ++ a.routine ++ "'.")
        return none
      else throw f
  | .ok target =>
      let location : Location :=
        { uri := found.uri, line := clampLine (found.line + a.offset) target.lastLine }
      match j.reveal with
      | some shown => shown location
      | none => pure ()
      return some (.resolved location)

/-- Jump to an address from a document; without a document nothing happens. -/
def jump (j : Jumper) (a : Address) (source : Option Document) (bound : Bool) :
    Act (Option JumpOutcome) := do
  match source with
  | none => return none
  | some d =>
      let connection ← j.connectionFor d
      match ← j.resolver.lookup a.query connection bound none with
      | some found => j.land a found
      | none =>
          let outcome ← j.explainMiss a connection
          j.warn outcome.message
          return some outcome

/-- Read an address and jump to it; an address of the wrong form is only reported. -/
def jumpTo (j : Jumper) (raw : String) (source : Option Document) (bound : Bool) :
    Act (Option JumpOutcome) := do
  match Address.parse raw with
  | .ok a => j.jump a source bound
  | .error .invalidAddress =>
      j.warn Fault.addressFormat
      return none
  | .error f => throw f

end Jumper

end RefNav
