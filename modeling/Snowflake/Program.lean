import Snowflake.Command.Line
import Snowflake.Command.Run
import Snowflake.Environment.File
import Snowflake.LogFilter

/-!
# The whole program

From the words of the command line, the environment and the file of assignments to what is
written and the exit code.

**Exit codes.** 0 for a command that was carried out, for help and for the version; 1 for
arguments or a run that failed; 2 for a command line that was refused.

**Plans.** Everything up to the command itself needs no clock, so `plan` is apart from `finish`,
and the command can be carried out in between on any clock.
-/

namespace Snowflake

/-- An entry of the log. -/
structure LogEntry where
  level : Level
  /-- What is reported, perhaps over several lines. -/
  text : String
deriving DecidableEq, Repr

namespace LogEntry

/-- The entry without its time. Everything is reported by the main thread. -/
def body (e : LogEntry) : String := e.level.name ++ " ThreadId(01) " ++ e.text

/-- The entry with its time. Levels stand flush right in five columns. -/
def stamped (e : LogEntry) (time : String) : String :=
  time ++ " " ++ String.ofList (List.replicate (5 - e.level.name.length) ' ') ++ e.body

/-- The entry of an event: its message and its fields. -/
def ofEvent (e : Event) : LogEntry where
  level := e.level
  text := e.message ++
    String.join (e.fields.map fun (name, value) => " " ++ name ++ "=" ++ Text.integer value)

end LogEntry

/-- What the program leaves behind. -/
structure Exit where
  code : Nat
  /-- The lines of the output proper. -/
  out : List String := []
  log : List LogEntry := []
  /-- The lines of diagnostics that follow the log. -/
  err : List String := []
deriving DecidableEq, Repr

/-- All diagnostics, line by line and without times. -/
def Exit.diagnostics (e : Exit) : List String :=
  e.log.flatMap (fun entry => entry.body.splitOn "\n") ++ e.err

namespace Program

/-- The lines that report an error with its cause. -/
def errorLines (message : String) (cause : Option Error) : List String :=
  ("Error: " ++ message) :: match cause with
    | none => []
    | some e => ["", "Caused by:", "    " ++ e.message]

/-- The entries of the events that a filter lets through. -/
def eventEntries (f : LogFilter) (events : List Event) : List LogEntry :=
  (events.filter fun e => f.allows e.level e.source e.fieldNames).map LogEntry.ofEvent

/-- The configuration in effect, if the filter lets it through. -/
def configEntries (f : LogFilter) (c : Config) : List LogEntry :=
  if f.allows .debug "spinflake" [Event.messageField] then
    [⟨.debug, "running with config: " ++ c.inspect.lines⟩]
  else []

/-- The version of the program. -/
def versionLine : String := "spinflake 0.1.0"

/-- How the program is used. -/
def helpLines : List String :=
  ["Mint and decode lock-free Snowflake IDs", "",
    "Usage: spinflake [OPTIONS] <COMMAND>", "",
    "Commands:",
    "  generate  Generate ids, one per line",
    "  decode    Print `timestamp_ms node_id sequence` for each id",
    "  layout    Print the bit layout in effect",
    "  help      Print this message", "",
    "Options:",
    "      --node-id-bits <NODE_ID_BITS>    Bits of each id reserved for the node id",
    "      --sequence-bits <SEQUENCE_BITS>  Bits of each id reserved for the sequence",
    "      --node-id <NODE_ID>              Node id encoded into every generated id",
    "      --offset-ms <OFFSET_MS>          Milliseconds subtracted from every clock reading",
    "  -h, --help                           Print help",
    "  -V, --version                        Print version"]

/-- What is said about a refused command line. -/
def refusalMessage : Refusal → String
  | .help | .version | .helpInstead => ""
  | .missingCommand => "a command is required"
  | .unknownCommand => "unrecognized command"
  | .missingIds => "at least one id is required"
  | .unknownArgument => "unexpected argument"
  | .repeatedFlag => "an argument cannot be used multiple times"
  | .missingValue => "a value is required"
  | .unneededValue => "a value is not taken"
  | .badValue => "invalid value"
  | .notText => "invalid text"

/-- The exit on a refused command line. -/
def refuse : Refusal → Exit
  | .help => { code := 0, out := helpLines }
  | .version => { code := 0, out := [versionLine] }
  | .helpInstead => { code := 2, err := helpLines }
  | r => { code := 2, err := ["error: " ++ refusalMessage r] }

/-- What the program is going to do. -/
inductive Plan where
  | exit (e : Exit)
  /-- Carry out the command and log by the filter. -/
  | run (config : Config) (filter : LogFilter)

/-- The environment once the file of assignments is loaded. -/
def effective (environment : Environment) (file : Option String) : Environment :=
  match file with
  | none => environment
  | some text => Environment.File.load environment text

/-- The plan for a command line. -/
def plan (words : List String) (environment : Environment) (file : Option String) : Plan :=
  let environment := effective environment file
  match Arguments.ofWords words environment with
  | .error r => .exit (refuse r)
  | .ok arguments =>
    match Config.ofArguments arguments with
    | .error e => .exit { code := 1, err := errorLines e.message e.cause? }
    | .ok config => .run config (LogFilter.ofEnvironment environment)

/-- The exit once the command is carried out. -/
def finish (config : Config) (filter : LogFilter) (output : Output) : Exit :=
  let log := configEntries filter config ++ eventEntries filter output.events
  match output.failure with
  | none => { code := 0, out := output.lines, log }
  | some e => { code := 1, out := output.lines, log, err := errorLines e.message e.cause? }

/-- The whole program on a clock. -/
def run (words : List String) (environment : Environment) (file : Option String)
    (clock : Clock) : Exit :=
  match plan words environment file with
  | .exit e => e
  | .run config filter => finish config filter (config.run clock)

end Program

end Snowflake
