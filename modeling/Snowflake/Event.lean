import Snowflake.Layout

/-!
# Log events

What a program reports about itself while it runs, and how each report is worded. Every event
has a level, a message, named fields, and the part of the program that it comes from, by which
a log filter can choose it.
-/

namespace Snowflake

/-- How pressing an event is, from the most pressing on. -/
inductive Level where
  | error
  | warn
  | info
  | debug
  | trace
deriving DecidableEq, Repr

namespace Level

/-- Levels in the order in which a filter lets them through. -/
def rank : Level → Nat
  | error => 1
  | warn => 2
  | info => 3
  | debug => 4
  | trace => 5

/-- The name of a level. -/
def name : Level → String
  | error => "ERROR"
  | warn => "WARN"
  | info => "INFO"
  | debug => "DEBUG"
  | trace => "TRACE"

end Level

inductive Event where
  /-- A generator was built. -/
  | created (layout : Layout) (nodeId offset : Int64)
  /-- The process-wide layout was taken from the environment. -/
  | resolved (layout : Layout)
  /-- An attempt read a time, relative to the offset, before the last id's timestamp. -/
  | clockRegressed (now last : Int64)
  /-- A wait for the next id was called off. -/
  | cancelled
  /-- So many ids were drawn by so many threads. -/
  | generated (count : Nat) (threads : UInt64)
  /-- An id with its sign bit set was given to be decoded. -/
  | negativeId (id : Int64)
deriving DecidableEq

namespace Event

def level : Event → Level
  | clockRegressed .. | negativeId .. => .warn
  | created .. | resolved .. | cancelled | generated .. => .debug

def message : Event → String
  | created .. => "created snowflake generator"
  | resolved .. => "resolved process-wide snowflake layout"
  | clockRegressed .. => "clock has gone backwards"
  | cancelled => "id generation cancelled while spin-waiting"
  | generated .. => "generated ids"
  | negativeId .. => "negative id was not minted by a snowflake generator"

/-- The fields by name, in the order in which they are written. -/
def fields : Event → List (String × Int)
  | created layout nodeId offset =>
    [("node_id", nodeId.toInt), ("timestamp_offset_ms", offset.toInt),
      ("node_id_bits", layout.nodeBits), ("sequence_bits", layout.sequenceBits)]
  | resolved layout =>
    [("node_id_bits", layout.nodeBits), ("sequence_bits", layout.sequenceBits)]
  | clockRegressed now last => [("now_ms", now.toInt), ("last_ms", last.toInt)]
  | cancelled => []
  | generated count threads => [("count", count), ("threads", threads.toNat)]
  | negativeId id => [("id", id.toInt)]

/-- The name under which every event has its message among its fields. -/
def messageField : String := "message"

/-- The names of all fields, the message first. -/
def fieldNames (e : Event) : List String := messageField :: e.fields.map Prod.fst

/-- The part of the program that reports the event, outermost first. -/
def source : Event → String
  | created .. | clockRegressed .. | cancelled => "spinflake::snowflake::generator"
  | resolved .. => "spinflake::snowflake::layout"
  | generated .. | negativeId .. => "spinflake::commands"

end Event

end Snowflake
