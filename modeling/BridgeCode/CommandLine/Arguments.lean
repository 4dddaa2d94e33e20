import BridgeCode.CommandLine.Suggest

/-!
The arguments of the command line.

There is one command, `generate`. The version flag is looked for first, anywhere in front of a
double dash. Up to the first option the arguments are a command and its operands; the command reads
the options that follow.

The tool leaves this to a package, which is followed here for the one command there is: options with
and without a value in long and short forms, operands that are passed over, the order in which flaws
are reported, suggestions for misspelled options and commands, and the requests for help and for the
version. The text of the help is not part of it.
-/

namespace BridgeCode.CommandLine

/-- The version of the tool. -/
def version : String := "0.1.0"

/-- The options of the `generate` command. -/
inductive GenerateFlag where
  | idl
  | config
  | skipGeneration
  | listOutFiles
  | verbose
deriving Repr, DecidableEq

namespace GenerateFlag

/-- All options, in the order of their description. -/
def all : List GenerateFlag := [.idl, .config, .skipGeneration, .listOutFiles, .verbose]

/-- The long form. -/
def long : GenerateFlag → String
  | .idl => "--idl"
  | .config => "--config"
  | .skipGeneration => "--skip-generation"
  | .listOutFiles => "--list-out-files"
  | .verbose => "--verbose"

/-- The short form. -/
def short? : GenerateFlag → Option String
  | .config => some "-c"
  | _ => none

/-- Whether the option has a value. -/
def takesValue : GenerateFlag → Bool
  | .idl | .config | .listOutFiles => true
  | .skipGeneration | .verbose => false

/-- The option as messages show it. -/
def shown (flag : GenerateFlag) : String :=
  let forms := ", ".intercalate (flag.short?.toList ++ [flag.long])
  if flag.takesValue then forms ++ " <file>" else forms

/-- The option with a given form. -/
def ofForm? (form : String) : Option GenerateFlag :=
  all.find? fun flag => flag.long == form || flag.short? == some form

end GenerateFlag

/-- Why arguments do not lead to a run. -/
inductive Usage where
  /-- The version was asked for. -/
  | version
  /-- There is nothing to do, or help was asked for by command. -/
  | help
  /-- Help was asked for by option. -/
  | helpFlag
  | missingValue (flag : GenerateFlag)
  | missingOption (flag : GenerateFlag)
  | unknownOption (option suggestion : String)
  | unknownCommand (name suggestion : String)
deriving Repr, DecidableEq

/-- What is said about arguments that do not lead to a run. -/
def Usage.message : Usage → String
  | .version => CommandLine.version
  | .help | .helpFlag => "(outputHelp)"
  | .missingValue flag => "error: option '" ++ flag.shown ++ "' argument missing"
  | .missingOption flag => "error: required option '" ++ flag.shown ++ "' not specified"
  | .unknownOption option suggestion => "error: unknown option '" ++ option ++ "'" ++ suggestion
  | .unknownCommand name suggestion => "error: unknown command '" ++ name ++ "'" ++ suggestion

/-- The options of a run. -/
structure GenerateOptions where
  idl : String
  config : Option String := none
  skipGeneration : Bool := false
  listOutFiles : Option String := none
  verbose : Bool := false
deriving Repr, DecidableEq

/-! ## Reading options -/

/-- Whether an argument looks like an option. -/
def looksLikeOption (arg : String) : Bool :=
  match arg.toList with
  | '-' :: _ :: _ => true
  | _ => false

/-- The arguments up to the first option, and those from it on. Behind a double dash there are no
options. -/
def splitAtOptions : List String → List String × List String
  | [] => ([], [])
  | arg :: rest =>
    if arg = "--" then (rest, [])
    else if looksLikeOption arg then ([], arg :: rest)
    else
      let (operands, options) := splitAtOptions rest
      (arg :: operands, options)

/-- Whether an argument asks for the version. -/
def asksVersion (arg : String) : Bool :=
  arg == "--version" || "-V".toList.isPrefixOf arg.toList

/-- Whether an argument asks for help. -/
def asksHelp (arg : String) : Bool := arg == "-h" || arg == "--help"

/-- The option an argument names, and the value that stands in the same argument: behind a short
form, or behind a long form and an equals sign. -/
def recognise (arg : String) : Option (GenerateFlag × Option String) :=
  match GenerateFlag.ofForm? arg with
  | some flag => some (flag, none)
  | none =>
    match arg.toList with
    | '-' :: '-' :: rest =>
      let name := rest.takeWhile (· != '=')
      match rest.dropWhile (· != '=') with
      | '=' :: value =>
        ((GenerateFlag.ofForm? (String.ofList ('-' :: '-' :: name))).filter (·.takesValue)).map
          fun flag => (flag, some (String.ofList value))
      | _ => none
    | '-' :: c :: value =>
      ((GenerateFlag.ofForm? (String.ofList ['-', c])).filter (·.takesValue)).map
        fun flag => (flag, some (String.ofList value))
    | _ => none

/-- What is known about the options so far. -/
structure ReadOptions where
  /-- Options with their values, in order. -/
  settings : List (GenerateFlag × String) := []
  /-- The first unknown option and the unknown arguments behind it. -/
  unknown : List String := []

/-- Adds an option. -/
def ReadOptions.set (read : ReadOptions) (flag : GenerateFlag) (value : String) : ReadOptions :=
  { read with settings := read.settings ++ [(flag, value)] }

/-- Adds an argument that is no known option. In front of the first unknown option it is an operand,
which nobody reads. -/
def ReadOptions.pass (read : ReadOptions) (arg : String) : ReadOptions :=
  if looksLikeOption arg || !read.unknown.isEmpty then
    { read with unknown := read.unknown ++ [arg] }
  else read

/-- The end of the options at a double dash. -/
def ReadOptions.close (read : ReadOptions) (rest : List String) : ReadOptions :=
  if read.unknown.isEmpty then read else { read with unknown := read.unknown ++ "--" :: rest }

/-- Reads the options of the `generate` command. -/
def readOptions (read : ReadOptions) : List String → Except Usage ReadOptions
  | [] => .ok read
  | arg :: rest =>
    if arg = "--" then .ok (read.close rest)
    else
      match recognise arg with
      | some (flag, some value) => readOptions (read.set flag value) rest
      | some (flag, none) =>
        if flag.takesValue then
          match rest with
          | value :: rest => readOptions (read.set flag value) rest
          | [] => .error (.missingValue flag)
        else readOptions (read.set flag "") rest
      | none => readOptions (read.pass arg) rest

/-- The last value of an option. -/
def ReadOptions.value? (read : ReadOptions) (flag : GenerateFlag) : Option String :=
  read.settings.reverse.lookup flag

/-- The options of a run. Help is answered first, then a missing option is reported, then an unknown
one. -/
def ReadOptions.finish (read : ReadOptions) : Except Usage GenerateOptions :=
  if read.unknown.any asksHelp then .error .helpFlag
  else
    match read.value? .idl, read.unknown with
    | none, _ => .error (.missingOption .idl)
    | some _, option :: _ =>
      let candidates := GenerateFlag.all.map (·.long) ++ ["--help", "--version"]
      let hint := if "--".toList.isPrefixOf option.toList then suggestion option candidates else ""
      .error (.unknownOption option hint)
    | some idl, [] => .ok {
        idl
        config := read.value? .config
        skipGeneration := (read.value? .skipGeneration).isSome
        listOutFiles := read.value? .listOutFiles
        verbose := (read.value? .verbose).isSome }

/-- The options of the run that the arguments ask for. -/
def parse (args : List String) : Except Usage GenerateOptions :=
  if (args.takeWhile (· != "--")).any asksVersion then .error .version
  else
    match splitAtOptions args with
    | ([], []) => .error .help
    | ([], option :: rest) =>
      if (option :: rest).any asksHelp then .error .helpFlag
      else
        let hint :=
          if "--".toList.isPrefixOf option.toList then suggestion option ["--version", "--help"]
          else ""
        .error (.unknownOption option hint)
    | (command :: _, options) =>
      if command = "generate" then do (← readOptions {} options).finish
      else if command = "help" then .error .help
      else if options.any asksHelp then .error .helpFlag
      else .error (.unknownCommand command (suggestion command ["generate", "help"]))

end BridgeCode.CommandLine
