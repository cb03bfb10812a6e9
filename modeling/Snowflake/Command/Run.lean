import Snowflake.Command.Config
import Snowflake.Session

/-!
# Carrying out a command

**Generating** builds a generator, lets the workers draw their ids, and prints the ids in
ascending order. **Decoding** prints timestamp, node id and sequence of each id, in the order in
which the ids were given; the offset is added to a timestamp as far as the range allows, so that
decoding never fails. **Layout** prints the widths and limits in effect.
-/

namespace Snowflake

open Text

/-- Why a command fails. -/
inductive RunError where
  /-- The generator could not be built. -/
  | construction (cause : Error)
  /-- A worker failed. -/
  | generation (cause : Error)
  /-- A worker waits without end. -/
  | endless
deriving DecidableEq, Repr

namespace RunError

def message : RunError → String
  | construction cause => cause.message
  | generation _ => "failed to generate id"
  | endless => "generation does not end"

/-- The error behind this one. -/
def cause? : RunError → Option Error
  | generation cause => some cause
  | construction _ | endless => none

end RunError

/-- What a command printed and reported, and how it failed if it did. -/
structure Output where
  lines : List String := []
  events : List Event := []
  failure : Option RunError := none
deriving DecidableEq

/-- The output of drawing ids, after the construction of the generator reported `before`. -/
def Output.ofDrawn (before after : List Event) (result : Except Error (List Int64)) : Output :=
  match result with
  | .ok ids => { lines := ids.map word, events := before ++ after }
  | .error cause => { events := before ++ after, failure := some (.generation cause) }

namespace Config

variable (c : Config)

/-- The parts of an id, with the offset added to the timestamp as far as the range allows. -/
def decode (id : Int64) : Parts :=
  let parts := c.layout.decode id
  { parts with timestamp := Word.addSaturating parts.timestamp c.offset }

/-- Parts on one line. -/
def partsLine (p : Parts) : String :=
  word p.timestamp ++ " " ++ word p.node ++ " " ++ word p.sequence

/-- What is reported of an id before it is decoded. -/
def decodeEvents (id : Int64) : List Event := if id < 0 then [.negativeId id] else []

/-- The widths and limits in effect. -/
def layoutLines : List String :=
  let l := c.layout
  ["unused_bits " ++ natural Layout.unusedBits, "timestamp_bits " ++ natural l.timestampBits,
    "node_id_bits " ++ natural l.nodeBits, "sequence_bits " ++ natural l.sequenceBits,
    "max_node_id " ++ word l.maxNode, "max_sequence " ++ word l.maxSequence,
    "offset_ms " ++ word c.offset]

/-- Carries out the command on a clock. -/
def run (clock : Clock) : Output :=
  match c.command with
  | .generate count threads =>
    match Session.create c.layout c.nodeId c.offset clock with
    | .error refusal => { failure := some (.construction refusal.cause) }
    | .ok a =>
      match a.session.generate? count threads with
      | none => { events := a.events, failure := some .endless }
      | some drawn => Output.ofDrawn a.events drawn.events drawn.value
  | .decode ids =>
    { lines := ids.map fun id => partsLine (c.decode id), events := ids.flatMap decodeEvents }
  | .layout => { lines := c.layoutLines }

end Config

end Snowflake
