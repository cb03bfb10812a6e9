import Snowflake.Error
import Snowflake.Word

/-!
# The layout of an id

An id is a 64-bit word. Read from its most significant bit, it holds a zero, the timestamp in
milliseconds, the id of the node, and a sequence number within the millisecond.

**Widths.** Node id and sequence share 22 bits. Where they use fewer, the timestamp sits lower
and gains the spare ones; either width may be zero.

**Packing.** `encode` reduces each field to its width and puts the three together; `decode`
takes them apart. The sign bit of an id is not part of any field when an id is packed, but
`decode` reads it as the highest bit of the timestamp, and with a shift of zero as its sign.
-/

namespace Snowflake

/-- The decoded fields of an id, ordered by timestamp, then node, then sequence. -/
structure Parts where
  /-- Milliseconds since the offset, or since the clock's own epoch once the offset is added. -/
  timestamp : Int64 := 0
  node : Int64 := 0
  /-- The position within the millisecond. -/
  sequence : Int64 := 0
deriving DecidableEq, Repr

namespace Parts

open Text

instance : LT Parts where
  lt a b := a.timestamp < b.timestamp ∨ a.timestamp = b.timestamp ∧
    (a.node < b.node ∨ a.node = b.node ∧ a.sequence < b.sequence)

instance (a b : Parts) : Decidable (a < b) :=
  inferInstanceAs (Decidable (_ ∨ _ ∧ (_ ∨ _ ∧ _)))

/-- The parts in ascending order; equal ones keep their order. -/
def sort (ps : List Parts) : List Parts := ps.mergeSort fun a b => !decide (b < a)

/-- The diagnostic form. -/
def inspect (p : Parts) : Inspect :=
  .record "SnowflakeParts" [("timestamp_ms", .atom (word p.timestamp)),
    ("node_id", .atom (word p.node)), ("sequence", .atom (word p.sequence))] true

end Parts

/-- The widths of node id and sequence. -/
structure Layout where
  nodeBits : Nat
  sequenceBits : Nat
  fits : nodeBits + sequenceBits ≤ sharedBits := by decide
deriving DecidableEq

namespace Layout

open Text

/-- Bits at the top of an id that hold no field. -/
def unusedBits : Nat := 1

/-- 1024 nodes, and 4096 ids per millisecond and node. -/
def standard : Layout := ⟨10, 12, by decide⟩

instance : Inhabited Layout := ⟨standard⟩

/-- Widths that pass the three comparisons fit, since their sum cannot have wrapped around. -/
theorem fits_of_le {nodeBits sequenceBits : UInt32}
    (h : ¬(22 < nodeBits ∨ 22 < sequenceBits ∨ 22 < nodeBits + sequenceBits)) :
    nodeBits.toNat + sequenceBits.toNat ≤ sharedBits := by
  simp only [UInt32.lt_iff_toNat_lt, UInt32.toNat_add, UInt32.toNat_ofNat, sharedBits] at h ⊢
  omega

/-- The layout with the given widths. Each is compared on its own first, so that their sum
cannot wrap around. -/
def ofWidths (nodeBits sequenceBits : UInt32) : Except Error Layout :=
  if h : 22 < nodeBits ∨ 22 < sequenceBits ∨ 22 < nodeBits + sequenceBits then
    .error (.tooManyBits nodeBits sequenceBits)
  else .ok ⟨nodeBits.toNat, sequenceBits.toNat, fits_of_le h⟩

variable (l : Layout)

/-- How far a timestamp is shifted to stand above node id and sequence. -/
def shift : Nat := l.nodeBits + l.sequenceBits

/-- The bits above the shift, the unused one apart. -/
def timestampBits : Nat := 64 - unusedBits - l.shift

/-- A word whose `width < 63` lowest bits are set. -/
def mask (width : Nat) : Int64 := (1 <<< Int64.ofNat width) - 1

/-- The largest node id, which is also the mask of its field. -/
def maxNode : Int64 := mask l.nodeBits

/-- The largest sequence number, which is also the mask of its field. -/
def maxSequence : Int64 := mask l.sequenceBits

/-- The largest timestamp that leaves the sign bit alone. -/
def maxTimestamp : Int64 := Int64.maxValue >>> Int64.ofNat l.shift

/-- A timestamp moved to its place. Bits that leave the word are lost. -/
def placeTimestamp (timestamp : Int64) : Int64 := timestamp <<< Int64.ofNat l.shift

/-- A node id moved to its place. -/
def placeNode (node : Int64) : Int64 := node <<< Int64.ofNat l.sequenceBits

/-- The timestamp of a word: everything above the shift, the sign bit included. -/
def timestampOf (w : Int64) : Int64 := Word.shiftRightLogical w l.shift

/-- The node id of a word. -/
def nodeOf (w : Int64) : Int64 := (w >>> Int64.ofNat l.sequenceBits) &&& l.maxNode

/-- The sequence number of a word. -/
def sequenceOf (w : Int64) : Int64 := w &&& l.maxSequence

/-- The parts packed into an id, each reduced to its width. -/
def encode (p : Parts) : Int64 :=
  l.placeTimestamp (p.timestamp &&& l.maxTimestamp) ||| l.placeNode (p.node &&& l.maxNode) |||
    (p.sequence &&& l.maxSequence)

/-- The fields of an id. -/
def decode (id : Int64) : Parts := ⟨l.timestampOf id, l.nodeOf id, l.sequenceOf id⟩

/-- The diagnostic form. -/
def inspect : Inspect :=
  .record "SnowflakeLayout" [("node_id_bits", .atom (natural l.nodeBits)),
    ("sequence_bits", .atom (natural l.sequenceBits))] true

end Layout

end Snowflake
