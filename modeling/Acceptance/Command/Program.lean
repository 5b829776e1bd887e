import Acceptance.Command.Arguments
import Acceptance.Command.Check
import Acceptance.Grammar.Dump
import Acceptance.Grammar.Standard

/-!
# The program

What the program writes and how it ends, given its arguments, its environment and the files.
-/

set_option autoImplicit false

namespace Acceptance

/-- How the program ended. -/
inductive ProgramEnd where
  | success
  /-- A command failed. -/
  | failed (report : Report)
  /-- The command line could not be read. -/
  | usage (fault : UsageFault)
  deriving DecidableEq, Repr

/-- The exit code of an end. -/
def ProgramEnd.code : ProgramEnd → Nat
  | success => 0
  | failed _ => 1
  | usage _ => 2

/-- A report as it is written: what failed, and then the causes, with numbers if there are several. -/
def Report.display : Report → String
  | [] => ""
  | [message] => message
  | [message, cause] => message ++ "\n\nCaused by:\n    " ++ cause
  | message :: causes =>
    message ++ "\n\nCaused by:" ++ String.join (causes.zipIdx.map fun (cause, index) =>
      "\n    " ++ toString index ++ ": " ++ cause)

/-- What is written about an end that is not a success. -/
def ProgramEnd.message? : ProgramEnd → Option String
  | success => none
  | failed report => some ("Error: " ++ report.display)
  | usage fault => some ("error: " ++ fault.reason ++ "\n\nFor more information, try '--help'.")

/-- What the program leaves: what it wrote, what it logged at the level in force, and how it ended. -/
structure ProgramResult where
  stdout : String
  log : Log
  ending : ProgramEnd

namespace Program

/-- The name and the version of the program. -/
def version : String := "wishes 0.3.0"

/-- The help on a topic. -/
def help : HelpTopic → String
  | .program => "Inspect feature files and the feature grammar

Usage: wishes [OPTIONS] <COMMAND>

Commands:
  check    Load feature files and list the test cases they generate
  grammar  Print the parser's transition rows
  help     Print this message or the help of the given subcommand(s)

Options:
      --log-level <LEVEL>  Diagnostic log level, overriding `WISHES_LOG_LEVEL`
  -h, --help               Print help
  -V, --version            Print version
"
  | .check => "Load feature files and list the test cases they generate

Usage: wishes check [OPTIONS] <PATHS>...

Arguments:
  <PATHS>...  Feature files, or directories of `.feature` files

Options:
      --tags <EXPR>        Keep cases matching this tag expression; repeat to require all
      --log-level <LEVEL>  Diagnostic log level, overriding `WISHES_LOG_LEVEL`
  -h, --help               Print help
"
  | .grammar => "Print the parser's transition rows

Usage: wishes grammar [OPTIONS]

Options:
      --unreachable        Print the state pairs no row connects instead
      --json               Emit JSON
      --log-level <LEVEL>  Diagnostic log level, overriding `WISHES_LOG_LEVEL`
  -h, --help               Print help
"
  | .help => "Print this message or the help of the given subcommand(s)

Usage: wishes help [COMMAND]...

Arguments:
  [COMMAND]...  Print help for the subcommand(s)
"

/-- The lines that show the grammar. -/
def grammarLines (unreachable json : Bool) : List String :=
  let table := Grammar.standard
  match unreachable, json with
  | false, false => table.rowLines
  | false, true => [table.dump]
  | true, false => table.unreachableLines
  | true, true => [Grammar.pairsToJson table.unreachableTransitions]

/-- What a command writes. -/
def runCommand (fs : FileSystem) : Command → Logged Report String
  | .check tags paths => Check.run fs paths tags
  | .grammar unreachable json =>
    .pure (String.join ((grammarLines unreachable json).map (· ++ "\n")))

/-- Run the program. -/
def run (arguments : List String) (environmentLevel : Option String) (fs : FileSystem) :
    ProgramResult :=
  match readArguments arguments with
  | .error fault => ⟨"", [], .usage fault⟩
  | .ok .version => ⟨version ++ "\n", [], .success⟩
  | .ok (.help topic) => ⟨help topic, [], .success⟩
  | .ok (.run option command) =>
    match LogLevel.effective environmentLevel option with
    | .error fault => ⟨"", [], .failed [fault.message]⟩
    | .ok level =>
      let ran := runCommand fs command
      let log := ran.log.upTo level
      match ran.result with
      | .ok text => ⟨text, log, .success⟩
      | .error report => ⟨"", log, .failed report⟩

end Program

end Acceptance
