import RefNav.Command.Invocation
import RefNav.Jump.Resolve

/-! # Jumping from the command line

The target of a jump is printed, on demand with the line found there.
-/

namespace RefNav

/-- The outcome of a jump as JSON members. -/
def JumpOutcome.members : Option JumpOutcome → Members
  | some (.resolved l) => [("outcome", .str "resolved"), ("location", l.toJson)]
  | some (.labelNotFound routine label) =>
      [("outcome", .str "label_not_found"), ("routine", .str routine), ("label", .str label)]
  | some (.routineNotFound routine) =>
      [("outcome", .str "routine_not_found"), ("routine", .str routine)]
  | none => [("outcome", .null)]

namespace Invocation

/-- The warnings among notices. -/
def warnings (notices : List Notice) : List String :=
  notices.filterMap fun n =>
    match n with
    | .warned message => some message
    | _ => none

/-- How jumps are carried out for a user. -/
def jumper (i : Invocation) (settings : Settings) : Jumper :=
  { resolver := settings.resolver
    connectionFor := i.connectionFor
    openDocument := i.openDocument
    reveal := some fun l => Act.tell (.revealed l)
    notify := some fun message => Act.tell (.warned message) }

/-- Print the target of a jump. -/
def printTarget (i : Invocation) (location : Location) (withLine : Bool) : Act Ending := do
  Act.print location.display
  if withLine then
    let target ← i.openDocument location.uri
    Act.print ("  " ++ (← lineAt target location.line))
  return .done

/-- Jump to an address from a document. -/
def jump (i : Invocation) (raw source : String) (withLine : Bool) : Act Ending := do
  match Address.parse raw with
  | .error .invalidAddress =>
      return .refused (.invalidFormat (Fault.addressFormat ++ ": " ++ Text.quoted raw))
  | .error f => throw f
  | .ok address =>
      let d ← i.load source
      let settings ← i.settingsFor source
      let outcome ← (i.jumper settings).jump address (some d) false
      let warned := warnings (← get).notices
      if i.json then
        let told := JumpOutcome.members outcome
        i.answer "jump"
          [("verdict", (Members.get? "outcome" told).getD .null),
           ("warnings", .arr (warned.map Json.str))]
          ([("query", .str address.query), ("offset", .int address.offset)] ++ told)
      else
        match outcome with
        | some (.resolved location) => i.printTarget location withLine
        | _ => return .refused (.notFound (warned.getLast?.getD ("Cannot jump to " ++ raw)))

end Invocation

end RefNav
