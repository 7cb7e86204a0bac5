import RefNav.CommandLine.Grammar
import RefNav.FileTree.Basic

/-! # Binding parameters

The words of a command line are converted to the values of its parameters.
Options come first, in the order in which they were first given, then the
arguments; the last value of a repeated option counts.  What is missing is found
after what is wrong, and superfluous arguments last.  A text that cannot be a
path is not a misuse: it is a fault that nobody handles.
-/

namespace RefNav.CommandLine

open RefNav.Text

/-- The value of a parameter. -/
inductive Value where
  | text (s : String)
  | number (n : Int)
  | switch (on : Bool)
deriving Repr, DecidableEq

/-- The values of the parameters that were given. -/
abbrev Bindings := List (String × Value)

namespace Bindings

/-- The text of a parameter. -/
def text? (b : Bindings) (key : String) : Option String :=
  match List.lookup key b with
  | some (.text s) => some s
  | _ => none

/-- The number of a parameter. -/
def number? (b : Bindings) (key : String) : Option Int :=
  match List.lookup key b with
  | some (.number n) => some n
  | _ => none

/-- The switch of a parameter. -/
def switch? (b : Bindings) (key : String) : Option Bool :=
  match List.lookup key b with
  | some (.switch on) => some on
  | _ => none

end Bindings

/-- Why the words of a command line give no values. -/
inductive Rejection where
  | misuse (m : Misuse)
  | fault (f : Fault)
deriving Repr, DecidableEq

namespace ValueKind

/-- An integer, with the name of what is expected for the complaint. -/
def readNumber (expected word : String) : Except String Int :=
  match readInteger word with
  | .ok n => .ok n
  | .error _ => .error (quoted word ++ " is not a valid " ++ expected ++ ".")

/-- An integer that is not below the least one allowed. -/
def readNumberFrom (least : Int) (word : String) : Except String Int := do
  let n ← readNumber "integer range" word
  if n < least then throw (showInt n ++ " is not in the range x>=" ++ showInt least ++ ".")
  return n

/-- The complaint about a word that does not lead to what it should, if any. -/
def complaint? (directoryWanted : Bool) (word : String) (found : Option Entry) :
    Option String :=
  let what := (if directoryWanted then "Directory " else "File ") ++ quoted word
  match found with
  | none => some (what ++ " does not exist.")
  | some .directory => if directoryWanted then none else some (what ++ " is a directory.")
  | some (.file _) => if directoryWanted then some (what ++ " is a file.") else none

/-- What a word leads to; every way in which the system finds nothing counts as
nothing. -/
def target (t : FileTree) (word : String) : Except Fault (Option Entry) :=
  match t.find word with
  | .ok (_, entry) => .ok (some entry)
  | .error (.file _ _) => .ok none
  | .error f => .error f

/-- A word that leads to a file or, if one is wanted, a directory. -/
def readPath (t : FileTree) (directoryWanted : Bool) (word : String) :
    Except Fault (Except String String) := do
  match complaint? directoryWanted word (← target t word) with
  | some complaint => return .error complaint
  | none => return .ok word

/-- The value that a word gives, or the complaint about it. -/
def convert (t : FileTree) : ValueKind → String → Except Fault (Except String Value)
  | .text, word => .ok (.ok (.text word))
  | .integer, word => .ok ((readNumber "integer" word).map .number)
  | .integerFrom least, word => .ok ((readNumberFrom least word).map .number)
  | .existingFile, word => do return (← readPath t false word).map .text
  | .existingDirectory, word => do return (← readPath t true word).map .text

/-- The value that a word gives to a parameter, which is named as in messages. -/
def bind (t : FileTree) (kind : ValueKind) (parameter word : String) : Except Rejection Value :=
  match kind.convert t word with
  | .ok (.ok v) => .ok v
  | .ok (.error complaint) => .error (.misuse (.badValue (quoted parameter) complaint))
  | .error f => .error (.fault f)

end ValueKind

/-- The value of an option. -/
def OptionRule.bind (t : FileTree) (o : OptionRule) : Setting → Except Rejection Value
  | .on => .ok (.switch true)
  | .off => .ok (.switch false)
  | .word text =>
      match o.kind with
      | .valued kind _ => kind.bind t (o.names.headD "") text
      | _ => .ok (.text text)

/-- The options given, each once: at its first place, with its last setting. -/
def lastSettings : List (OptionRule × Setting) → List (OptionRule × Setting)
  | [] => []
  | (o, s) :: rest =>
      let settled := (rest.filter fun p => p.1.key = o.key).getLast?.getD (o, s)
      settled :: (lastSettings rest).filter fun p => p.1.key ≠ o.key

/-- The values of the options given. -/
def bindOptions (t : FileTree) : List (OptionRule × Setting) → Except Rejection Bindings
  | [] => .ok []
  | (o, s) :: rest => do
      let v ← o.bind t s
      return (o.key, v) :: (← bindOptions t rest)

/-- The values of the arguments, and the words left over. -/
def bindArguments (t : FileTree) :
    List ArgumentRule → List String → Except Rejection (Bindings × List String)
  | [], words => .ok ([], words)
  | a :: _, [] => .error (.misuse (.missingArgument a.name))
  | a :: rules, word :: words => do
      let v ← a.kind.bind t a.name word
      let (values, extra) ← bindArguments t rules words
      return ((a.name, v) :: values, extra)

/-- The first option that is required but not given. -/
def missingOption? (g : Grammar) (given : List (OptionRule × Setting)) : Option OptionRule :=
  g.options.find? fun o =>
    match o.kind with
    | .valued _ true => !(given.any fun p => p.1.key = o.key)
    | _ => false

/-- The values of all parameters that were given. -/
def Grammar.bind (g : Grammar) (t : FileTree) (s : Scan) : Except Rejection Bindings := do
  let options ← bindOptions t (lastSettings s.given)
  let (arguments, extra) ← bindArguments t g.arguments s.operands
  match missingOption? g s.given with
  | some o => throw (.misuse (.missingOption (o.names.headD "")))
  | none => pure ()
  if !extra.isEmpty then throw (.misuse (.extraArguments extra))
  return options ++ arguments

end RefNav.CommandLine
