import RefNav.CommandLine.Grammar

/-! # Commands and their help

The commands of the program, how each is called, and the text that explains it.
-/

namespace RefNav.CommandLine

/-- A command of the program. -/
inductive CommandName where
  | extract
  | links
  | define
  | follow
  | jump
  | contextExpr
  | config
deriving Repr, DecidableEq

namespace CommandName

/-- All commands, in the order of their names. -/
def all : List CommandName :=
  [.config, .contextExpr, .define, .extract, .follow, .jump, .links]

/-- The name of a command. -/
def name : CommandName → String
  | .extract => "extract"
  | .links => "links"
  | .define => "define"
  | .follow => "follow"
  | .jump => "jump"
  | .contextExpr => "context-expr"
  | .config => "config"

/-- The command with a name. -/
def ofName? (name : String) : Option CommandName :=
  all.find? fun c => c.name = name

end CommandName

/-- The name of the program. -/
def programName : String := "ccsnav"

/-- The option that asks for help. -/
def helpOption : OptionRule :=
  { names := ["--help"], key := "help", kind := .help }

/-- An option with a value that may be left out. -/
def valued (name key : String) (kind : ValueKind) : OptionRule :=
  { names := [name], key, kind := .valued kind false }

/-- An option that switches something on or off. -/
def switch (name key : String) (on : Bool) : OptionRule :=
  { names := [name], key, kind := .switch on }

/-- The options of a command that change settings. -/
def configOptions : List OptionRule :=
  [valued "--host" "host" .text, valued "--port" "port" .integer,
   valued "--namespace" "namespace" .text, valued "--username" "username" .text,
   valued "--password" "password" .text,
   switch "--https" "https" true, switch "--no-https" "https" false,
   valued "--path-prefix" "path_prefix" .text,
   valued "--timeout-ms" "timeout_ms" (.integerFrom 1),
   switch "--strict-ssl" "strict_ssl" true, switch "--no-strict-ssl" "strict_ssl" false,
   switch "--debug-resolver" "debug_resolver" true,
   switch "--no-debug-resolver" "debug_resolver" false,
   switch "--show" "show" true]

/-- The document argument of most commands. -/
def pathArgument : ArgumentRule :=
  { name := "PATH", kind := .existingFile }

/-- The option for the directory of the local search. -/
def workspaceOption : OptionRule :=
  valued "--workspace" "workspace" .existingDirectory

namespace CommandName

/-- The arguments of a command. -/
def arguments : CommandName → List ArgumentRule
  | .extract | .define => [pathArgument, ⟨"LINE", .integerFrom 1⟩, ⟨"COLUMN", .integerFrom 1⟩]
  | .links => [pathArgument]
  | .follow => [pathArgument, ⟨"LINE", .integerFrom 0⟩, ⟨"CHARACTER", .integerFrom 0⟩]
  | .jump => [⟨"ADDRESS", .text⟩]
  | .contextExpr => [pathArgument, ⟨"LINE", .integerFrom 1⟩]
  | .config => []

/-- The options of a command besides the one for help. -/
def options : CommandName → List OptionRule
  | .extract | .links => []
  | .define => [workspaceOption, switch "--no-fallback" "no_fallback" true]
  | .follow => [workspaceOption]
  | .jump =>
      [{ names := ["--from"], key := "source", kind := .valued .existingFile true },
       switch "--show" "show" true]
  | .contextExpr => [valued "--expression" "expression" .text]
  | .config => configOptions

/-- How a command is called. -/
def grammar (c : CommandName) : Grammar :=
  { call := programName ++ " " ++ c.name
    arguments := c.arguments
    options := c.options ++ [helpOption]
    operands := " ".intercalate (c.arguments.map ArgumentRule.name) }

/-- The lines of a command's help below its usage. -/
def helpLines : CommandName → List String
  | .links =>
      ["",
       "  List every clickable reference in a file (nothing is resolved).",
       "",
       "Options:",
       "  --help  Show this message and exit."]
  | .extract =>
      ["",
       "  Show the reference under LINE:COLUMN (both 1-based) without resolving it.",
       "",
       "Options:",
       "  --help  Show this message and exit."]
  | .define =>
      ["",
       "  Find where the reference at LINE:COLUMN (1-based) is defined.",
       "",
       "  The server is asked first; when it has no answer (or is not configured, slow,",
       "  or unreachable) the workspace is scanned locally instead.",
       "",
       "Options:",
       "  --workspace DIRECTORY  Root scanned by the local fallback (default: project",
       "                         root)",
       "  --no-fallback          Only ask the server; skip the local scan",
       "  --help                 Show this message and exit."]
  | .follow =>
      ["",
       "  Activate a link: resolve the reference at LINE/CHARACTER (0-based, as in",
       "  `links --json`).",
       "",
       "Options:",
       "  --workspace DIRECTORY  Root scanned by the local fallback (default: project",
       "                         root)",
       "  --help                 Show this message and exit."]
  | .jump =>
      ["",
       "  Jump to ADDRESS given as Label[+Offset]^Routine.",
       "",
       "    ccsnav jump 'Start+3^MYROUTINE' --from src/Caller.mac",
       "",
       "Options:",
       "  --from FILE  Document the jump is made from (selects the server connection)",
       "               [required]",
       "  --show       Print the target line",
       "  --help       Show this message and exit."]
  | .contextExpr =>
      ["",
       "  Expand a context expression on LINE (1-based) via the server.",
       "",
       "  Prints the replacement text, tab-indented, with the document's line endings.",
       "",
       "Options:",
       "  --expression TEXT  Expression to expand (default: the trimmed LINE text)",
       "  --help             Show this message and exit."]
  | .config =>
      ["",
       "  Manage per-project ccsnav configuration (.ccsnav/config.json).",
       "",
       "    ccsnav config --host iris.local --port 52773 --namespace USER --username dev",
       "    CCSNAV_PASSWORD=... ccsnav define src/Foo.mac 12 9",
       "",
       "  Environment variables (``CCSNAV_HOST``, ``CCSNAV_PORT``, ``CCSNAV_NAMESPACE``,",
       "  ``CCSNAV_USERNAME``, ``CCSNAV_PASSWORD``, ``CCSNAV_TIMEOUT_MS`` ...) take",
       "  precedence over the file.",
       "",
       "Options:",
       "  --host TEXT                     Server host name.",
       "  --port INTEGER                  Server web port.",
       "  --namespace TEXT                Namespace definitions are resolved in.",
       "  --username TEXT                 Basic-auth user.",
       "  --password TEXT                 Basic-auth password (prefer CCSNAV_PASSWORD).",
       "  --https / --no-https            Use https for the server URL.",
       "  --path-prefix TEXT              Web application path prefix.",
       "  --timeout-ms INTEGER RANGE      Per-attempt request timeout in milliseconds",
       "                                  (default 500).  [x>=1]",
       "  --strict-ssl / --no-strict-ssl  Verify TLS certificates.",
       "  --debug-resolver / --no-debug-resolver",
       "                                  Log which resolver answered each lookup (with",
       "                                  --verbose).",
       "  --show                          Print current configuration.",
       "  --help                          Show this message and exit."]

end CommandName

/-- How the program itself is called: options, then a command with its words. -/
def programGrammar : Grammar :=
  { call := programName
    arguments := []
    options :=
      [{ names := ["--version"], key := "version", kind := .version },
       switch "--json" "json" true,
       { names := ["--verbose", "-v"], key := "verbose", kind := .switch true },
       helpOption]
    interspersed := false
    operands := "COMMAND [ARGS]..." }

/-- The lines of the program's help below its usage. -/
def programHelpLines : List String :=
  ["",
   "ccsnav: find where ObjectScript symbols are defined.",
   "",
   "  Navigation:",
   "    define               Find where the reference at LINE:COLUMN (1-based) is...",
   "    jump                 Jump to ADDRESS given as Label[+Offset]^Routine.",
   "    follow               Activate a link: resolve the reference at LINE/CHARACTER...",
   "",
   "  Reference Recognition:",
   "    extract              Show the reference under LINE:COLUMN (both 1-based)...",
   "    links                List every clickable reference in a file (nothing is...",
   "",
   "  Server:",
   "    context-expr         Expand a context expression on LINE (1-based) via the...",
   "    config               Manage per-project ccsnav configuration...",
   "",
   "  Run `ccsnav <command> --help` for details on any command."]

/-- A help text. -/
def helpText (g : Grammar) (lines : List String) : String :=
  "\n".intercalate (g.usage :: lines)

/-- The help text of a command. -/
def CommandName.help (c : CommandName) : String :=
  helpText c.grammar c.helpLines

/-- The help text of the program. -/
def programHelp : String :=
  helpText programGrammar programHelpLines

end RefNav.CommandLine
