import Snowflake.Event
import Snowflake.Register

/-!
# Generators

A generator mints the ids of one node. Its settings never change: the layout, the node id, and
the offset that is subtracted from every reading of its clock. What changes is one shared
register, which holds the last timestamp and sequence, packed as in an id but without the node.

**Construction** checks the node id, then the offset, and only then reads the clock, which must
have reached the offset. The register starts at zero.
-/

namespace Snowflake

/-- The settings of a generator. -/
structure Generator where
  layout : Layout
  nodeId : Int64
  /-- Milliseconds subtracted from every reading of the clock. -/
  offset : Int64
  nodeId_nonneg : 0 ≤ nodeId
  nodeId_le : nodeId ≤ layout.maxNode
  offset_nonneg : 0 ≤ offset
deriving DecidableEq

namespace Generator

open Text

/-- The settings, if node id and offset suit the layout. -/
def ofSettings (layout : Layout) (nodeId offset : Int64) : Except Error Generator :=
  if hn : 0 ≤ nodeId ∧ nodeId ≤ layout.maxNode then
    if ho : 0 ≤ offset then .ok ⟨layout, nodeId, offset, hn.1, hn.2, ho⟩
    else .error (.negativeOffset offset)
  else .error (.nodeIdOutOfRange nodeId layout.maxNode)

variable (g : Generator)

/-- The generator with what it reports, if the clock has reached the offset. -/
def start (now : Int64) : Except Error (Generator × List Event) :=
  if now < g.offset then .error (.offsetInFuture g.offset now)
  else .ok (g, [.created g.layout g.nodeId g.offset])

/-- A new generator on a clock that reads `now`. -/
def create (layout : Layout) (nodeId offset now : Int64) : Except Error (Generator × List Event) :=
  (ofSettings layout nodeId offset).bind fun g => g.start now

/-- The node id at its place in an id. -/
def stamp : Int64 := g.layout.placeNode g.nodeId

/-- A reading of the clock relative to the offset, or the smallest word if it lies below. -/
def relative (reading : Int64) : Int64 := Word.subSaturating reading g.offset

/-- The parts of an id, with the offset added back to the timestamp. -/
def decode (id : Int64) : Except Halt Parts :=
  let parts := g.layout.decode id
  match Word.addChecked? parts.timestamp g.offset with
  | some timestamp => .ok { parts with timestamp }
  | none => .error .additionOverflow

/-- The diagnostic form of a generator with its register. -/
def inspect (register : Int64) : Inspect :=
  .record "SnowflakeIdGenerator" [("node_id", .atom (word g.nodeId)),
    ("timestamp_offset_ms", .atom (word g.offset)), ("layout", g.layout.inspect),
    ("state", Register.inspect register)] false

end Generator

end Snowflake
