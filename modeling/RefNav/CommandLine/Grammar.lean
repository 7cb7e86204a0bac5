import RefNav.CommandLine.Misuse
import RefNav.Text.Similarity

/-! # Command line grammars

A command takes arguments in order and options anywhere between them; two dashes
on their own end the options.  A long option may have its value behind an equals
sign or as the next word; short options may be joined behind one dash.
-/

namespace RefNav.CommandLine

/-- What the value of a parameter has to be. -/
inductive ValueKind where
  | text
  | integer
  | integerFrom (least : Int)
  | existingFile
  | existingDirectory
deriving Repr, DecidableEq

/-- What an option does. -/
inductive OptionKind where
  /-- It takes a value. -/
  | valued (kind : ValueKind) (required : Bool)
  /-- It switches something on or off. -/
  | switch (on : Bool)
  /-- It asks for the help text. -/
  | help
  /-- It asks for the version. -/
  | version
deriving Repr, DecidableEq

/-- An option of a command. -/
structure OptionRule where
  /-- The spellings of the option, the one for messages first. -/
  names : List String
  /-- What the option sets; several options may set the same. -/
  key : String
  kind : OptionKind
deriving Repr, DecidableEq

/-- An argument of a command. -/
structure ArgumentRule where
  name : String
  kind : ValueKind
deriving Repr, DecidableEq

/-- How a command is called. -/
structure Grammar where
  /-- The words that call the command. -/
  call : String
  arguments : List ArgumentRule
  options : List OptionRule
  /-- May options stand behind arguments? -/
  interspersed : Bool := true
  /-- What the usage says about the words behind the options. -/
  operands : String
deriving Repr

/-- The value given with an option. -/
inductive Setting where
  | word (text : String)
  | on
  | off
deriving Repr, DecidableEq

/-- The options given, in order, and the other words. -/
structure Scan where
  given : List (OptionRule × Setting) := []
  operands : List String := []
deriving Repr

namespace Scan

/-- Add an option in front. -/
def consOption (o : OptionRule) (s : Setting) (scan : Scan) : Scan :=
  { scan with given := (o, s) :: scan.given }

/-- Add a word in front. -/
def consOperand (word : String) (scan : Scan) : Scan :=
  { scan with operands := word :: scan.operands }

end Scan

namespace Grammar

/-- The option with a spelling. -/
def option? (g : Grammar) (name : String) : Option OptionRule :=
  g.options.find? fun o => o.names.contains name

/-- Is a spelling a long one, with two dashes in front? -/
def isLong (name : String) : Bool :=
  match name.toList with
  | '-' :: '-' :: _ => true
  | _ => false

/-- The long spellings close to one that there is not, at most three of them, in the
order of their names. -/
def closeOptions (g : Grammar) (name : String) : List String :=
  let spellings := (g.options.flatMap OptionRule.names).filter isLong
  (Text.closest 3 name spellings).mergeSort fun a b => !(b < a)

/-- The setting that an option without a value makes. -/
def bareSetting (o : OptionRule) : Setting :=
  match o.kind with
  | .switch false => .off
  | _ => .on

/-- Does a word start like an option? -/
def isOptionWord (word : String) : Bool :=
  match word.toList with
  | '-' :: _ :: _ => true
  | _ => false

/-- The spelling of an option in a word, and the value behind an equals sign. -/
def splitWord (word : String) : String × Option String :=
  let cs := word.toList
  let name := String.ofList (cs.takeWhile (· ≠ '='))
  match cs.dropWhile (· ≠ '=') with
  | [] => (name, none)
  | _ :: value => (name, some (String.ofList value))

/-- The short options joined behind a dash. -/
def cluster (g : Grammar) : List Char → Except Misuse (List (OptionRule × Setting))
  | [] => .ok []
  | c :: rest =>
      let name := String.ofList ['-', c]
      match g.option? name with
      | none => .error (.unknownOption name [])
      | some o =>
          match cluster g rest with
          | .ok given => .ok ((o, bareSetting o) :: given)
          | .error m => .error m

/-- What a word that starts like an option says. -/
inductive OptionWord where
  /-- Options that are complete. -/
  | complete (given : List (OptionRule × Setting))
  /-- An option whose value is the next word. -/
  | awaiting (name : String) (o : OptionRule)

/-- Read a word with a long spelling. -/
def readLong (g : Grammar) (word : String) : Except Misuse OptionWord :=
  let (name, value) := splitWord word
  match g.option? name with
  | none => .error (.unknownOption name (g.closeOptions name))
  | some o =>
      match o.kind, value with
      | .valued _ _, some v => .ok (.complete [(o, .word v)])
      | .valued _ _, none => .ok (.awaiting name o)
      | _, some _ => .error (.takesNoValue name)
      | _, none => .ok (.complete [(o, bareSetting o)])

/-- Read a word that starts like an option. -/
def readWord (g : Grammar) (word : String) : Except Misuse OptionWord :=
  if isLong word then g.readLong word
  else (g.cluster (word.toList.drop 1)).map OptionWord.complete

/-- Tell options and other words apart. -/
def scan (g : Grammar) : List String → Except Misuse Scan
  | [] => .ok {}
  | word :: rest =>
      if word = "--" then .ok { operands := rest }
      else if isOptionWord word then
        match g.readWord word, rest with
        | .error m, _ => .error m
        | .ok (.complete given), rest => do
            let s ← scan g rest
            return { s with given := given ++ s.given }
        | .ok (.awaiting name _), [] => .error (.needsValue name)
        | .ok (.awaiting _ o), value :: rest => do
            return (← scan g rest).consOption o (.word value)
      else if g.interspersed then do
        return (← scan g rest).consOperand word
      else .ok { operands := word :: rest }

/-- The usage line of a command. -/
def usage (g : Grammar) : String :=
  "Usage: " ++ g.call ++ " [OPTIONS]" ++ (if g.operands = "" then "" else " " ++ g.operands)

/-- The report of a misuse. -/
def report (g : Grammar) (m : Misuse) : String :=
  let head :=
    if m.showsUsage then
      g.usage ++ "\nTry '" ++ g.call ++ " --help' for help.\n\n"
    else ""
  head ++ "Error: " ++ m.message ++ "\n"

end Grammar

end RefNav.CommandLine
