import Snowflake.Program
import Std.Time.Format

/-!
# The executable

The outer layer of the program: it takes the words of the command line, the variables it needs and
the file `.env` of the working directory, and prints what comes of them. Ids are drawn on the wall
clock, one attempt after the other, as a `Snowflake.Generator.Pool` asks for them.
-/

namespace Snowflake.Program

open Generator

/-- The instant in milliseconds since the beginning of 1970, or that beginning itself if the host's
clock lies before it. -/
def wallClock : IO Int64 := do
  let now ← Std.Time.Timestamp.now
  return Int64.ofIntClamp (max 0 now.toMillisecondsSinceUnixEpoch.toInt)

/-- The instant as it stands before a log entry. -/
def timeText : IO String := do
  let now ← Std.Time.Timestamp.now
  return (Std.Time.DateTime.ofTimestampWithZone now .UTC).format "uuuu-MM-dd'T'HH:mm:ss.SSSSSS'Z'"

/-- The workers of a pool finish on the wall clock. Nobody calls them off. -/
partial def finishPool (g : Generator) (p : Pool) : IO Pool := do
  match p.current? with
  | none => return p
  | some i =>
    if p.isAsking i then finishPool g (p.hear i false)
    else finishPool g (p.attempt g i (.plain (← wallClock)))

/-- Carries out a command on the wall clock. -/
def runConfig (c : Config) : IO Output := do
  let now ← wallClock
  match c.command with
  | .generate count threads =>
    match Generator.create c.layout c.nodeId c.offset now with
    | .error cause => return { failure := some (.construction cause) }
    | .ok (g, events) =>
      let p ← finishPool g (Pool.ofCount 0 count threads)
      return Output.ofDrawn events (p.events ++ p.closing threads) p.result
  | _ => return c.run (.fixed now)

/-- The variables that the program depends on, with those that a file of assignments names. -/
def readEnvironment (file : Option String) : IO Environment := do
  let names := [Layout.nodeBitsVariable, Layout.sequenceBitsVariable, nodeIdVariable,
    offsetVariable, LogFilter.variableName] ++ (file.map Environment.File.names).getD []
  let mut environment : Environment := {}
  for name in names do
    if let some value ← IO.getEnv name then
      environment := environment.set name (.text value)
  return environment

/-- Prints what the program leaves behind and returns its exit code. -/
def report (e : Exit) : IO UInt32 := do
  for entry in e.log do
    IO.eprintln (entry.stamped (← timeText))
  for line in e.out do
    IO.println line
  for line in e.err do
    IO.eprintln line
  return UInt32.ofNat e.code

/-- The file of assignments in the working directory, if there is one that can be read. -/
def readAssignments : IO (Option String) := do
  try
    return some (← IO.FS.readFile ".env")
  catch _ =>
    return none

end Snowflake.Program

open Snowflake Program in
def main (words : List String) : IO UInt32 := do
  let file ← readAssignments
  match plan words (← readEnvironment file) file with
  | .exit e => report e
  | .run config filter => report (finish config filter (← runConfig config))
