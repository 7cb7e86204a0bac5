import RefNav.Command.Configure
import RefNav.Command.ContextExpression
import RefNav.Command.Define
import RefNav.Command.Extract
import RefNav.Command.Jump
import RefNav.Command.Links
import RefNav.CommandLine.Binding
import RefNav.CommandLine.Commands
import RefNav.Text.Control

/-! # Running the program

The words of a command line are taken apart, the command is run, and what it
wrote is collected: its lines on the standard output; log records, the report of
a misuse or the message of a refusal on the standard error.  None of it goes to a
terminal, so control sequences are left out of everything but the log records.
-/

namespace RefNav.CommandLine

/-- What a run of the program left behind. -/
structure Output where
  exitCode : Int
  stdout : String := ""
  stderr : String := ""
  /-- A fault that no part of the program handles. -/
  escaped : Option Fault := none
  /-- The requests and pauses made. -/
  requests : List Request := []
  pauses : List Number.Binary64 := []
  /-- The files afterwards. -/
  tree : FileTree

/-- A command line with a program around it. -/
structure Program where
  tree : FileTree
  environment : Environment := []
  timestamp : String
  server : Server

namespace Program

/-- An end without a command having run. -/
def answer (p : Program) (exitCode : Int) (stdout stderr : String) : Output :=
  { exitCode, stdout, stderr, tree := p.tree }

/-- A text on the standard output and success. -/
def inform (p : Program) (text : String) : Output :=
  p.answer ExitReason.success.code (text ++ "\n") ""

/-- A misuse of a command. -/
def misuse (p : Program) (g : Grammar) (m : Misuse) : Output :=
  p.answer ExitReason.usage.code "" (Text.withoutControls (g.report m))

/-- What the version option prints. -/
def versionText : String :=
  programName ++ ", version " ++ Envelope.programVersion

/-- What the first of the options that ask for information prints. -/
def information? (help : String) (given : List (OptionRule × Setting)) : Option String :=
  given.findSome? fun p =>
    match p.1.kind with
    | .help => some help
    | .version => some versionText
    | _ => none

/-- The settings given to the configuration command. -/
def changeOf (b : Bindings) : ConfigChange :=
  { host := b.text? "host"
    port := b.number? "port"
    namespaceName := b.text? "namespace"
    username := b.text? "username"
    password := b.text? "password"
    https := b.switch? "https"
    pathPrefix := b.text? "path_prefix"
    timeoutMs := b.number? "timeout_ms"
    strictSsl := b.switch? "strict_ssl"
    debugResolver := b.switch? "debug_resolver" }

/-- What a command does with the values of its parameters, and the files
afterwards. -/
def command (i : Invocation) (c : CommandName) (b : Bindings) : Act Ending × FileTree :=
  let text (key : String) : String := (b.text? key).getD ""
  let number (key : String) : Int := (b.number? key).getD 0
  let isOn (key : String) : Bool := (b.switch? key).getD false
  match c with
  | .extract => (i.extract (text "PATH") (number "LINE") (number "COLUMN"), i.tree)
  | .links => (i.links (text "PATH"), i.tree)
  | .define =>
      (i.define (text "PATH") (number "LINE") (number "COLUMN") (b.text? "workspace")
        (!isOn "no_fallback"), i.tree)
  | .follow =>
      (i.follow (text "PATH") (number "LINE") (number "CHARACTER") (b.text? "workspace"), i.tree)
  | .jump => (i.jump (text "ADDRESS") (text "source") (isOn "show"), i.tree)
  | .contextExpr =>
      (i.expandContext (text "PATH") (number "LINE") (b.text? "expression"), i.tree)
  | .config => i.configure (changeOf b) (isOn "show")

/-- A log record on the standard error.  All records are shown in full to a user
who wants details, others see the bare warnings. -/
def recordLine? (verbose : Bool) (r : LogRecord) : Option String :=
  if verbose then some r.display
  else
    match r.level with
    | .warning => some r.message
    | .debug => none

/-- Lines of text. -/
def lines (texts : List String) : String :=
  String.join (texts.map fun text => text ++ "\n")

/-- The lines printed. -/
def printed (notices : List Notice) : List String :=
  notices.filterMap fun n =>
    match n with
    | .printed line => some line
    | _ => none

/-- The exit code of a command's end, what the standard error says about it, and
the fault that escaped. -/
def conclude (g : Grammar) : Except Fault Ending → Int × String × Option Fault
  | .ok .done => (ExitReason.success.code, "", none)
  | .ok (.refused r) => (r.exitCode, "Error: " ++ r.message ++ "\n", none)
  | .ok (.misused m) => (ExitReason.usage.code, g.report m, none)
  | .error (.unreadable path hint) =>
      (ExitReason.error.code, "Error: " ++ (Fault.unreadable path hint).message ++ "\n", none)
  | .error f => (ExitReason.error.code, "", some f)

/-- Carry out a command and collect what it did. -/
def perform (p : Program) (c : CommandName) (json verbose : Bool) (b : Bindings) : Output :=
  let i : Invocation :=
    { tree := p.tree, environment := p.environment, timestamp := p.timestamp, json }
  let (act, tree) := command i c b
  let (outcome, x) := act.runOn { server := p.server }
  let (exitCode, complaint, escaped) := conclude c.grammar outcome
  { exitCode, escaped, tree
    stdout := Text.withoutControls (lines (printed x.notices))
    stderr := lines (x.log.filterMap (recordLine? verbose)) ++ Text.withoutControls complaint
    requests := x.requests
    pauses := x.pauses }

/-- Run a command with the words behind its name. -/
def runCommand (p : Program) (c : CommandName) (json verbose : Bool) (words : List String) :
    Output :=
  match c.grammar.scan words with
  | .error m => p.misuse c.grammar m
  | .ok s =>
      match information? c.help s.given with
      | some text => p.inform text
      | none =>
          match c.grammar.bind p.tree s with
          | .error (.misuse m) => p.misuse c.grammar m
          | .error (.fault f) =>
              { p.answer ExitReason.error.code "" "" with escaped := some f }
          | .ok b => p.perform c json verbose b

/-- A word in the place of a command that is none.  If it looks like an option it is
read as one first. -/
def unknownCommand (p : Program) (name : String) (words : List String) : Output :=
  let refusal := p.misuse programGrammar (.unknownCommand name)
  match programGrammar.scan (name :: words) with
  | .error m => p.misuse programGrammar m
  | .ok s =>
      match information? programHelp s.given with
      | some text => p.inform text
      | none => refusal

/-- Is an option with this key given? -/
def isGiven (given : List (OptionRule × Setting)) (key : String) : Bool :=
  given.any fun p => p.1.key = key

/-- Run the program with the words of a command line. -/
def run (p : Program) (words : List String) : Output :=
  if words.isEmpty then p.answer ExitReason.usage.code "" (programHelp ++ "\n")
  else
    match programGrammar.scan words with
    | .error m => p.misuse programGrammar m
    | .ok s =>
        match information? programHelp s.given, s.operands with
        | some text, _ => p.inform text
        | none, [] => p.misuse programGrammar .missingCommand
        | none, name :: rest =>
            match CommandName.ofName? name with
            | none => p.unknownCommand name rest
            | some c => p.runCommand c (isGiven s.given "json") (isGiven s.given "verbose") rest

end Program

end RefNav.CommandLine
