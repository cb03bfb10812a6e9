import Snowflake.Environment
import Snowflake.Epoch
import Snowflake.Generator

/-!
# Commands and their configuration

What the user asks for, and the checks it has to pass before anything is done: first the widths,
then the node id, then the offset, then the number of threads.
-/

namespace Snowflake

/-- The offset of a generator that is not given one. -/
def defaultOffset : Int64 := Epoch.custom

/-- The variable that holds the node id. -/
def nodeIdVariable : String := "SPINFLAKE_NODE_ID"

/-- The variable that holds the offset. -/
def offsetVariable : String := "SPINFLAKE_OFFSET_MS"

inductive Command where
  /-- Mint ids, with several threads on one generator. -/
  | generate (count threads : UInt64)
  /-- Take ids apart. -/
  | decode (ids : List Int64)
  /-- Show the layout in effect. -/
  | layout
deriving DecidableEq, Repr

namespace Command

open Text

/-- The diagnostic form. -/
def inspect : Command → Inspect
  | generate count threads =>
    .record "Generate" [("count", .atom (natural count.toNat)),
      ("threads", .atom (natural threads.toNat))] true
  | decode ids => .record "Decode" [("ids", .list (ids.map fun id => .atom (word id)))] true
  | layout => .atom "Layout"

end Command

/-- The values of all arguments, as they were given. -/
structure Arguments where
  nodeBits : UInt32 := 10
  sequenceBits : UInt32 := 12
  nodeId : Int64 := 0
  offset : Int64 := defaultOffset
  command : Command
deriving DecidableEq, Repr

/-- Arguments that passed the checks. -/
structure Config where
  layout : Layout
  nodeId : Int64
  offset : Int64
  command : Command
deriving DecidableEq

/-- Why arguments are refused. -/
inductive ConfigError where
  | layout (cause : Error)
  | nodeId (given max : Int64)
  | negativeOffset
  | noThreads
  /-- More threads than ids. -/
  | tooManyThreads (threads count : UInt64)
deriving DecidableEq, Repr

namespace ConfigError

open Text

def message : ConfigError → String
  | layout _ =>
    "invalid " ++ Layout.nodeBitsVariable ++ " / " ++ Layout.sequenceBitsVariable
  | nodeId given max =>
    nodeIdVariable ++ " (" ++ word given ++ ") exceeds available node id space (max = " ++
      word max ++ ")"
  | negativeOffset => offsetVariable ++ " must not be negative"
  | noThreads => "--threads must be greater than 0"
  | tooManyThreads threads count =>
    "--threads (" ++ natural threads.toNat ++ ") exceeds --count (" ++ natural count.toNat ++ ")"

/-- The error behind this one. -/
def cause? : ConfigError → Option Error
  | layout cause => some cause
  | _ => none

end ConfigError

namespace Config

open Text

/-- The number of threads must be positive and not above the count, though one is always fine. -/
def checkThreads : Command → Except ConfigError Unit
  | .generate count threads =>
    if threads = 0 then .error .noThreads
    else if max count 1 < threads then .error (.tooManyThreads threads count)
    else .ok ()
  | _ => .ok ()

/-- The configuration that arguments describe. -/
def ofArguments (a : Arguments) : Except ConfigError Config :=
  match Layout.ofWidths a.nodeBits a.sequenceBits with
  | .error cause => .error (.layout cause)
  | .ok layout =>
    if ¬(0 ≤ a.nodeId ∧ a.nodeId ≤ layout.maxNode) then .error (.nodeId a.nodeId layout.maxNode)
    else if a.offset < 0 then .error .negativeOffset
    else match checkThreads a.command with
      | .error e => .error e
      | .ok () => .ok ⟨layout, a.nodeId, a.offset, a.command⟩

/-- The diagnostic form. -/
def inspect (c : Config) : Inspect :=
  .record "CliConfig" [("layout", c.layout.inspect), ("node_id", .atom (word c.nodeId)),
    ("offset_ms", .atom (word c.offset)), ("command", c.command.inspect)] true

end Config

end Snowflake
