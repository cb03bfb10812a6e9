import Snowflake.Json.Record
import Snowflake.Layout

/-!
# Layouts and parts in JSON

A layout is a record of its two widths, which must be unsigned 32-bit numbers; parts are a record
of three signed 64-bit numbers. A layout that is read is checked like any other, once the record
is complete and before anything that follows it.
-/

namespace Snowflake

open Text Json

/-- Why a text is not read as a layout. -/
inductive LayoutFault where
  | text (fault : Fault)
  | layout (cause : Error)
deriving DecidableEq, Repr

namespace Layout

/-- The names of the fields, in order. -/
def fieldNames : List String := ["node_id_bits", "sequence_bits"]

/-- The number is an unsigned 32-bit one. -/
def acceptsWidth (n : Int) : Bool := 0 ≤ n && n < UInt32.size

/-- The layout that a text holds. -/
def ofJson (text : String) : Except LayoutFault Layout :=
  match readRecord acceptsWidth fieldNames text.toList with
  | .error fault => .error (.text fault)
  | .ok ([nodeBits, sequenceBits], cs) =>
    match ofWidths (UInt32.ofNat nodeBits.toNat) (UInt32.ofNat sequenceBits.toNat) with
    | .error cause => .error (.layout cause)
    | .ok l =>
      match endText cs with
      | .error fault => .error (.text fault)
      | .ok () => .ok l
  | .ok _ => .error (.text .mismatched)

/-- The layout as a text. -/
def toJson (l : Layout) : String :=
  writeRecord [("node_id_bits", l.nodeBits), ("sequence_bits", l.sequenceBits)]

end Layout

namespace Parts

/-- The names of the fields, in order. -/
def fieldNames : List String := ["timestamp_ms", "node_id", "sequence"]

/-- The number is a signed 64-bit one. -/
def acceptsField (n : Int) : Bool := decide (Word.InRange n)

/-- The parts that a text holds. -/
def ofJson (text : String) : Except Fault Parts :=
  (readRecord acceptsField fieldNames text.toList).bind fun
    | ([timestamp, node, sequence], cs) =>
      (endText cs).map fun () =>
        ⟨Int64.ofInt timestamp, Int64.ofInt node, Int64.ofInt sequence⟩
    | _ => .error .mismatched

/-- Parts as a text. -/
def toJson (p : Parts) : String :=
  writeRecord [("timestamp_ms", p.timestamp.toInt), ("node_id", p.node.toInt),
    ("sequence", p.sequence.toInt)]

end Parts

end Snowflake
