import Acceptance.Command.LogSetting

/-!
# Command lines

How the arguments of the program are read, from left to right. Options with a value take it from behind an
equals sign or from the next argument, which may not look like an option then. Two hyphens end the options.
Asking for help or for the version counts as soon as it is read; a fault counts if it comes before that.
-/

set_option autoImplicit false

namespace Acceptance

/-- What the program is asked to do. -/
inductive Command where
  /-- List the test cases at the paths that the tag expressions select. -/
  | check (tags paths : List String)
  /-- Show the grammar, or the pairs of states that it leaves unconnected. -/
  | grammar (unreachable json : Bool)
  deriving DecidableEq, Repr

/-- What help is asked about. -/
inductive HelpTopic where
  | program
  | check
  | grammar
  | help
  deriving DecidableEq, Repr

/-- What a command line asks for. -/
inductive Request where
  | run (level : Option LogLevel) (command : Command)
  | help (topic : HelpTopic)
  | version
  deriving DecidableEq, Repr

/-- A command line that cannot be read, and why. -/
structure UsageFault where
  reason : String
  deriving DecidableEq, Repr

/-- An argument, taken apart. -/
inductive Argument where
  /-- Two hyphens alone. -/
  | endOfOptions
  /-- An option by its name, with the value behind an equals sign. -/
  | long (name : String) (value : Option String)
  /-- Options of one letter. -/
  | short (letters : List Char)
  | plain (text : String)
  deriving DecidableEq, Repr

namespace Argument

/-- Take an argument apart. A hyphen alone is no option. -/
def ofText (text : String) : Argument :=
  match text.toList with
  | ['-', '-'] => endOfOptions
  | '-' :: '-' :: option =>
    let name := option.takeWhile (· != '=')
    match option.drop name.length with
    | _ :: value => long (String.ofList name) (some (String.ofList value))
    | [] => long (String.ofList name) none
  | '-' :: c :: letters => short (c :: letters)
  | _ => plain text

end Argument

/-- A fault with a reason. -/
def usage {α : Type} (reason : String) : Except UsageFault α :=
  .error ⟨reason⟩

/-- The value of an option: the one behind its equals sign, or else the next argument. -/
def optionValue (name : String) (value : Option String) (rest : List String) :
    Except UsageFault (String × List String) :=
  match value, rest with
  | some value, _ => .ok (value, rest)
  | none, next :: rest =>
    match Argument.ofText next with
    | .plain text => .ok (text, rest)
    | _ => usage ("a value is required for '--" ++ name ++ "'")
  | none, [] => usage ("a value is required for '--" ++ name ++ "'")

/-- The level that the option for it sets. It may be given once. -/
def readLevelOption (level : Option LogLevel) (text : String) : Except UsageFault (Option LogLevel) :=
  match level with
  | some _ => usage "the argument '--log-level' cannot be used multiple times"
  | none =>
    match LogLevel.read text with
    | .ok level => .ok (some level)
    | .error fault => usage fault.message

/-- What has been read of the arguments of a command. -/
structure CommandOptions where
  level : Option LogLevel := none
  tags : List String := []
  paths : List String := []
  unreachable : Bool := false
  json : Bool := false

/-- What is read at an argument: an option, a path, or a request for help. -/
inductive CommandStep where
  | next (options : CommandOptions) (rest : List String)
  | help

/-- Read a flag that may be given once. -/
def readFlag (name : String) (value : Option String) (given : Bool) (options : CommandOptions)
    (rest : List String) : Except UsageFault CommandStep :=
  if value.isSome then usage ("unexpected value for '--" ++ name ++ "'")
  else if given then usage ("the argument '--" ++ name ++ "' cannot be used multiple times")
  else .ok (.next options rest)

/-- Add a path. No path is empty. -/
def addPath (takesPaths : Bool) (options : CommandOptions) (path : String) :
    Except UsageFault CommandOptions :=
  if !takesPaths then usage ("unexpected argument '" ++ path ++ "' found")
  else if path.isEmpty then usage "a value is required for '<PATH>...'"
  else .ok { options with paths := options.paths ++ [path] }

/-- Add paths in order, up to the first that cannot be one. -/
def addPaths (takesPaths : Bool) : CommandOptions → List String → Except UsageFault CommandOptions
  | options, [] => .ok options
  | options, path :: rest =>
    match addPath takesPaths options path with
    | .error fault => .error fault
    | .ok options => addPaths takesPaths options rest

/-- Read an argument of a command that takes paths and tag expressions, or of the other one. -/
def readCommandArgument (takesPaths : Bool) (options : CommandOptions) (argument : Argument)
    (rest : List String) : Except UsageFault CommandStep :=
  match argument with
  | .long "log-level" value =>
    match optionValue "log-level" value rest with
    | .error fault => .error fault
    | .ok (text, rest) =>
      match readLevelOption options.level text with
      | .error fault => .error fault
      | .ok level => .ok (.next { options with level := level } rest)
  | .long "help" none => .ok .help
  | .long "tags" value =>
    if !takesPaths then usage "unexpected argument '--tags' found"
    else
      match optionValue "tags" value rest with
      | .error fault => .error fault
      | .ok (text, rest) => .ok (.next { options with tags := options.tags ++ [text] } rest)
  | .long "unreachable" value =>
    if takesPaths then usage "unexpected argument '--unreachable' found"
    else
      readFlag "unreachable" value options.unreachable { options with unreachable := true } rest
  | .long "json" value =>
    if takesPaths then usage "unexpected argument '--json' found"
    else readFlag "json" value options.json { options with json := true } rest
  | .long name _ => usage ("unexpected argument '--" ++ name ++ "' found")
  | .short ('h' :: _) => .ok .help
  | .short letters => usage ("unexpected argument '-" ++ String.ofList (letters.take 1) ++ "' found")
  | .endOfOptions =>
    -- the rest are paths, whatever they look like
    match addPaths takesPaths options rest with
    | .ok options => .ok (.next options [])
    | .error fault => .error fault
  | .plain path =>
    match addPath takesPaths options path with
    | .ok options => .ok (.next options rest)
    | .error fault => .error fault

/-- Read the arguments of a command. Each turn reads an argument at least, so their number is fuel
enough. Nothing is the answer to a request for help. -/
def readCommandArguments (takesPaths : Bool) :
    Nat → CommandOptions → List String → Except UsageFault (Option CommandOptions)
  | _, options, [] => .ok (some options)
  | 0, options, _ => .ok (some options)
  | fuel + 1, options, text :: rest =>
    match readCommandArgument takesPaths options (Argument.ofText text) rest with
    | .error fault => .error fault
    | .ok .help => .ok none
    | .ok (.next options rest) => readCommandArguments takesPaths fuel options rest

/-- Read a command by its name. A level that is set behind the name counts before one in front. -/
def readCommand (level : Option LogLevel) (name : String) (rest : List String) :
    Except UsageFault Request :=
  if name = "check" then
    match readCommandArguments true rest.length {} rest with
    | .error fault => .error fault
    | .ok none => .ok (.help .check)
    | .ok (some options) =>
      if options.paths.isEmpty then usage "the required argument '<PATH>...' was not provided"
      else .ok (.run (options.level.or level) (.check options.tags options.paths))
  else if name = "grammar" then
    match readCommandArguments false rest.length {} rest with
    | .error fault => .error fault
    | .ok none => .ok (.help .grammar)
    | .ok (some options) =>
      .ok (.run (options.level.or level) (.grammar options.unreachable options.json))
  else if name = "help" then
    match rest with
    | [] => .ok (.help .program)
    | ["check"] => .ok (.help .check)
    | ["grammar"] => .ok (.help .grammar)
    | ["help"] => .ok (.help .help)
    | topic :: _ => usage ("unrecognized subcommand '" ++ topic ++ "'")
  else usage ("unrecognized subcommand '" ++ name ++ "'")

/-- Read the arguments in front of the command. -/
def readArgumentsFrom : Nat → Option LogLevel → List String → Except UsageFault Request
  | _, _, [] => usage "a subcommand is required"
  | 0, _, _ => usage "a subcommand is required"
  | fuel + 1, level, text :: rest =>
    match Argument.ofText text with
    | .long "log-level" value =>
      match optionValue "log-level" value rest with
      | .error fault => .error fault
      | .ok (text, rest) =>
        match readLevelOption level text with
        | .error fault => .error fault
        | .ok level => readArgumentsFrom fuel level rest
    | .long "help" none => .ok (.help .program)
    | .long "version" none => .ok .version
    | .short ('h' :: _) => .ok (.help .program)
    | .short ('V' :: _) => .ok .version
    | .plain name => readCommand level name rest
    | .endOfOptions => usage "a subcommand is required"
    | .long name _ => usage ("unexpected argument '--" ++ name ++ "' found")
    | .short letters => usage ("unexpected argument '-" ++ String.ofList (letters.take 1) ++ "' found")

/-- What the arguments of the program ask for. -/
def readArguments (arguments : List String) : Except UsageFault Request :=
  readArgumentsFrom arguments.length none arguments

end Acceptance
