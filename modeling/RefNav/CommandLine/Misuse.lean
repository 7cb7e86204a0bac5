import RefNav.Text.Quoted

/-! # Misuse of the command line

What can be wrong with the words of a command line, and how it is reported.
-/

namespace RefNav.CommandLine

open RefNav.Text

/-- What is wrong with a command line. -/
inductive Misuse where
  /-- An option that there is not, with the options that it may have been meant for. -/
  | unknownOption (name : String) (meant : List String)
  | needsValue (name : String)
  | takesNoValue (name : String)
  | missingArgument (name : String)
  | missingOption (name : String)
  /-- A value that does not fit its parameter, which is named as in the message. -/
  | badValue (parameter complaint : String)
  | extraArguments (arguments : List String)
  | missingCommand
  | unknownCommand (name : String)
deriving Repr, DecidableEq

namespace Misuse

/-- The question whether one of some options was meant. -/
def suggestion : List String → String
  | [] => ""
  | [name] => " Did you mean " ++ quoted name ++ "?"
  | names => " (Did you mean one of: " ++ ", ".intercalate (names.map quoted) ++ "?)"

/-- The wording of a misuse. -/
def message : Misuse → String
  | .unknownOption name meant => "No such option " ++ quoted name ++ "." ++ suggestion meant
  | .needsValue name => "Option " ++ quoted name ++ " requires an argument."
  | .takesNoValue name => "Option " ++ quoted name ++ " does not take a value."
  | .missingArgument name => "Missing argument " ++ quoted name ++ "."
  | .missingOption name => "Missing option " ++ quoted name ++ "."
  | .badValue parameter complaint => "Invalid value for " ++ parameter ++ ": " ++ complaint
  | .extraArguments [argument] => "Got unexpected extra argument (" ++ argument ++ ")"
  | .extraArguments arguments =>
      "Got unexpected extra arguments (" ++ " ".intercalate arguments ++ ")"
  | .missingCommand => "Missing command."
  | .unknownCommand name => "No such command " ++ quoted name ++ "."

/-- Is the usage of the command shown with the message?  It is not where an option
was used with or without a value against its nature. -/
def showsUsage : Misuse → Bool
  | .needsValue _ => false
  | .takesNoValue _ => false
  | _ => true

end Misuse

end RefNav.CommandLine
