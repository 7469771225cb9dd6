import Mise.Command

/-!
# Command Line

The arguments of the program. They come on two levels: those before the name of a command, and
those after it. Each level has options of its own, and the settings and the amount of detail can be
given on both. An option may be given once per level; its value may be attached to it or follow it,
and one that follows must not look like an option. After `--` nothing is an option any more.

Arguments are read from left to right, and the first that settles the matter does so: a question
for help or for the version, or a misuse.

## Main definitions

* `Flag`, `Level`: The options, and those that are known on a level.
* `Taken`: What has been read on a level.
* `Request`: What the arguments ask for.
* `Request.ofArguments`: What arguments ask for.
* `Request.answer`: What a request prints, and how it ends.
-/

namespace Mise

/-- The options of the program. -/
inductive Flag where
  | settings
  | verbose
  | help
  | version
  | output
  | compact
  | strict
  deriving DecidableEq

/-- Whether an option has a value. -/
def Flag.takesValue : Flag → Bool
  | .settings => true
  | .output => true
  | _ => false

/-- The options that are known on a level, by their long and their short names. -/
structure Level where
  long : List (String × Flag)
  short : List (Char × Flag)

namespace Level

/-- The options that are known on every level. -/
def common : Level where
  long := [("config", .settings), ("verbose", .verbose), ("help", .help)]
  short := [('c', .settings), ('v', .verbose), ('h', .help)]

/-- The options before the name of a command. -/
def program : Level where
  long := ("version", .version) :: common.long
  short := ('V', .version) :: common.short

/-- The options of a command that writes its results. -/
def writing : Level where
  long := ("output", .output) :: common.long
  short := ('o', .output) :: common.short

/-- The options of a command that compiles one document. -/
def compiling : Level where
  long := ("compact", .compact) :: writing.long
  short := writing.short

/-- The options of a command that checks a document. -/
def checking : Level where
  long := ("strict", .strict) :: common.long
  short := common.short

end Level

/-- Why the arguments are not read to their end. -/
inductive Halt where
  | help
  | version
  | misuse
  deriving DecidableEq

/-- What has been read on a level: options, the values of those that have one, and the other
    arguments. -/
structure Taken where
  flags : List (Flag × String)
  operands : List String

namespace Taken

/-- Nothing yet. -/
def nothing : Taken := ⟨[], []⟩

/-- The value of an option, which is empty for one that has none. -/
def value? (t : Taken) (f : Flag) : Option String :=
  t.flags.lookup f

/-- Whether an option is given. -/
def has (t : Taken) (f : Flag) : Bool :=
  (t.value? f).isSome

/-- Take an option. It may be taken once, and a value must not be empty. -/
def take (t : Taken) (f : Flag) (value : String) : Except Halt Taken :=
  if t.has f || (f.takesValue && value.isEmpty) then .error .misuse
  else .ok { t with flags := (f, value) :: t.flags }

/-- Take an option without a value, or answer its question. -/
def raise (t : Taken) (f : Flag) : Except Halt Taken :=
  match f with
  | .help => .error .help
  | .version => .error .version
  | f => t.take f ""

/-- Take an argument that is no option. There is room for one. -/
def operand (t : Taken) (s : String) : Except Halt Taken :=
  if s.isEmpty || !t.operands.isEmpty then .error .misuse
  else .ok { t with operands := [s] }

/-- Take the arguments that follow `--`. -/
def operandsOnly (t : Taken) : List String → Except Halt Taken
  | [] => .ok t
  | s :: rest => do operandsOnly (← t.operand s) rest

end Taken

/-- An argument. -/
inductive Argument where
  /-- The end of the options. -/
  | separator
  /-- An option by its long name, and the value attached to it. -/
  | long (name : String) (value : Option String)
  /-- Options by their short names, which a value may follow. -/
  | short (letters : List Char)
  /-- Anything else. -/
  | plain (s : String)

/-- An argument by how it starts. A single dash is no option. -/
def Argument.ofString (s : String) : Argument :=
  match s.toList with
  | ['-', '-'] => .separator
  | '-' :: '-' :: cs =>
    let name := String.ofList (cs.takeWhile (· != '='))
    match cs.dropWhile (· != '=') with
    | [] => .long name none
    | _ :: value => .long name (some (String.ofList value))
  | '-' :: c :: cs => .short (c :: cs)
  | _ => .plain s

/-- Options by their short names. The second result is an option that still needs a value. -/
def Taken.letters (level : Level) (t : Taken) : List Char → Except Halt (Taken × Option Flag)
  | [] => .ok (t, none)
  | c :: cs =>
    match level.short.lookup c with
    | none => .error .misuse
    | some f =>
      if f.takesValue then
        match cs with
        | [] => .ok (t, some f)
        | '=' :: value => do return (← t.take f (String.ofList value), none)
        | value => do return (← t.take f (String.ofList value), none)
      else do letters level (← t.raise f) cs

/-- An option by its long name. The second result is an option that still needs a value. -/
def Taken.word (level : Level) (t : Taken) (name : String) (value : Option String) :
    Except Halt (Taken × Option Flag) :=
  match level.long.lookup name with
  | none => .error .misuse
  | some f =>
    match f.takesValue, value with
    | true, some v => do return (← t.take f v, none)
    | true, none => .ok (t, some f)
    | false, some _ => .error .misuse
    | false, none => do return (← t.raise f, none)

/-- Read arguments that belong to a level. `pending` is an option whose value comes next. Without
    `operands`, the first argument that is no option ends the level, and it is the first of the
    rest. -/
def Taken.readAll (level : Level) (operands : Bool) :
    Taken → (pending : Option Flag) → List String → Except Halt (Taken × List String)
  | t, none, [] => .ok (t, [])
  | _, some _, [] => .error .misuse
  | t, none, s :: rest =>
    match Argument.ofString s with
    | .separator =>
      if operands then (t.operandsOnly rest).map fun t => (t, []) else .error .misuse
    | .long name value => do
      let (t, pending) ← t.word level name value
      readAll level operands t pending rest
    | .short cs => do
      let (t, pending) ← t.letters level cs
      readAll level operands t pending rest
    | .plain s =>
      if operands then do readAll level operands (← t.operand s) none rest
      else .ok (t, s :: rest)
  | t, some f, s :: rest =>
    match Argument.ofString s with
    | .plain s => do readAll level operands (← t.take f s) none rest
    | _ => .error .misuse

/-- What the arguments ask for. -/
inductive Request where
  | run (settings : Option Path) (command : Command)
  | help
  | version
  | misuse
  deriving DecidableEq

/-- The names of the commands. -/
def commandNames : List String := ["compile", "check", "shopping", "batch", "help"]

/-- The options that are known after the name of a command. -/
def commandLevel (name : String) : Level :=
  if name = "compile" then .compiling
  else if name = "check" then .checking
  else if name = "batch" then .writing
  else .common

/-- The command of a name with what it was given. -/
def Command.ofTaken? (name : String) (t : Taken) : Option Command :=
  match t.operands with
  | [s] =>
    let output := (t.value? .output).map Path.mk
    if name = "compile" then some (.compile ⟨s⟩ output (t.has .compact))
    else if name = "check" then some (.check ⟨s⟩ (t.has .strict))
    else if name = "shopping" then some (.shopping ⟨s⟩)
    else if name = "batch" then some (.batch ⟨s⟩ output)
    else none
  | _ => none

/-- The settings that are named: on the level of the command, else on that of the program, else in
    the environment. What the environment says must not be empty where it is consulted. -/
def namedSettings (environment : Option String) (program command : Taken) :
    Except Halt (Option Path) :=
  let consulted := !(program.has .settings && command.has .settings)
  if consulted && environment == some "" then .error .misuse
  else .ok (((command.value? .settings).or ((program.value? .settings).or environment)).map Path.mk)

/-- Help with the commands of the given names, of which there may be one. -/
def helpWith : List String → Halt
  | [] => .help
  | [name] => if commandNames.contains name then .help else .misuse
  | _ => .misuse

/-- Read the arguments up to the name of a command and those of the command. -/
def readArguments (environment : Option String) (arguments : List String) :
    Except Halt (Option Path × Command) := do
  match ← Taken.readAll .program false .nothing none arguments with
  | (_, []) => .error .misuse
  | (program, name :: rest) =>
    if name = "help" then .error (helpWith rest)
    else if !commandNames.contains name then .error .misuse
    else
      let (command, _) ← Taken.readAll (commandLevel name) true .nothing none rest
      match Command.ofTaken? name command with
      | none => .error .misuse
      | some c => return (← namedSettings environment program command, c)

/-- What the arguments ask for, where `environment` may name the settings. -/
def Request.ofArguments (environment : Option String) (arguments : List String) : Request :=
  match readArguments environment arguments with
  | .ok (settings, command) => .run settings command
  | .error .help => .help
  | .error .version => .version
  | .error .misuse => .misuse

/-- What the program prints, what it prints about errors, and how it ends. -/
structure Answer where
  output : String
  errors : String
  exitCode : Nat
  deriving DecidableEq

/-- A report as an answer. -/
def Report.answer (r : Report) : Answer :=
  match r.failure with
  | none => ⟨r.output, "", 0⟩
  | some cause => ⟨r.output, "Error: " ++ cause.message ++ "\n", 1⟩

/-- The name of the program and its version. -/
def versionLine : String := "gram 0.1.0"

/-- What the program prints when it is asked for help. -/
def helpText : String :=
  "Usage: gram [OPTIONS] <COMMAND>\n\n"
    ++ "Commands:\n"
    ++ "  compile <FILE>   Compile a recipe document to JSON\n"
    ++ "  check <FILE>     Compile and report warnings\n"
    ++ "  shopping <FILE>  Print the consolidated shopping list\n"
    ++ "  batch <DIR>      Compile every document under a directory\n\n"
    ++ "Options:\n"
    ++ "  -c, --config <CONFIG>  Configuration file or project directory\n"
    ++ "  -v, --verbose          Enable verbose logging\n"
    ++ "  -o, --output <OUTPUT>  Where compile and batch write\n"
    ++ "      --compact          Single-line JSON from compile\n"
    ++ "      --strict           Let check fail when any warning is raised\n"
    ++ "  -h, --help             Print help\n"
    ++ "  -V, --version          Print version\n"

/-- Answer a request. A misuse is told apart from a failure by its exit code. -/
def Request.answer {m : Type → Type} [Monad m] (fs : FileSystem m) : Request → m Answer
  | .run settings command => return (← command.run fs settings).answer
  | .help => return ⟨helpText, "", 0⟩
  | .version => return ⟨versionLine ++ "\n", "", 0⟩
  | .misuse => return ⟨"", helpText, 2⟩

end Mise
