import Snowflake.Text.Numeral
import Snowflake.Text.Inspect
import Snowflake.Text.Quoted

/-!
# What can go wrong

The causes for which a layout, a generator or an id is refused. **Configuration faults** are
found once, while a layout is read or a generator is built. The other two, a clock that went
backwards and a cancelled wait, are the only ones that a generation call can end with, and
they leave the generator as it was.
-/

namespace Snowflake

/-- Results are equal if they are on the same side and hold the same. -/
instance (priority := 1100) decidableEqResult {ε α : Type} [DecidableEq ε] [DecidableEq α] :
    DecidableEq (Except ε α)
  | .ok a, .ok b =>
    if h : a = b then isTrue (congrArg _ h) else isFalse fun e => h (Except.ok.inj e)
  | .error a, .error b =>
    if h : a = b then isTrue (congrArg _ h) else isFalse fun e => h (Except.error.inj e)
  | .ok _, .error _ => isFalse nofun
  | .error _, .ok _ => isFalse nofun

section Results

variable {ε α β : Type} {x : Except ε α} {b : β}

theorem bind_eq_ok_iff {f : α → Except ε β} : x.bind f = .ok b ↔ ∃ a, x = .ok a ∧ f a = .ok b := by
  cases x <;> simp [Except.bind]

theorem map_eq_ok_iff {f : α → β} : x.map f = .ok b ↔ ∃ a, x = .ok a ∧ f a = b := by
  cases x <;> simp [Except.map]

end Results

/-- The number of bits that node id and sequence share. -/
def sharedBits : Nat := 22

inductive Error where
  /-- The widths of node id and sequence add up to more than the bits they share. -/
  | tooManyBits (nodeBits sequenceBits : UInt32)
  /-- A variable that holds a width is not an unsigned number. -/
  | invalidVariable (name value : String)
  /-- The node id is negative or above the largest one of the layout. -/
  | nodeIdOutOfRange (nodeId max : Int64)
  | negativeOffset (offset : Int64)
  /-- The offset is later than the clock's reading. -/
  | offsetInFuture (offset now : Int64)
  /-- The clock reads earlier than the last id's timestamp; both relative to the offset. -/
  | clockRegressed (now last : Int64)
  /-- Cancellation was asked for while the caller waited. -/
  | cancelled
deriving DecidableEq, Repr

namespace Error

open Text

/-- The fault lies in the configuration and not in a generation call. -/
def isConfiguration : Error → Bool
  | tooManyBits .. | invalidVariable .. | nodeIdOutOfRange .. | negativeOffset ..
  | offsetInFuture .. => true
  | clockRegressed .. | cancelled => false

/-- What the user is told. -/
def message : Error → String
  | tooManyBits nodeBits sequenceBits =>
    "too many bits used, must not exceed " ++ natural sharedBits ++ ": node_id_bits=" ++
      natural nodeBits.toNat ++ ", sequence_bits=" ++ natural sequenceBits.toNat
  | invalidVariable name value => "must be an integer >= 0: " ++ name ++ "=" ++ value
  | nodeIdOutOfRange nodeId max =>
    "must be >= 0 && <= " ++ word max ++ ": node_id=" ++ word nodeId
  | negativeOffset offset => "must be >= 0: timestamp_offset_ms=" ++ word offset
  | offsetInFuture offset now =>
    "timestamp_offset_ms=" ++ word offset ++ " > now_ms=" ++ word now
  | clockRegressed now last =>
    "clock has gone backwards: timestamp_ms=" ++ word now ++ " < last_timestamp_ms=" ++ word last
  | cancelled => "id generation cancelled while spin-waiting"

/-- The diagnostic form. -/
def inspect : Error → Inspect
  | tooManyBits nodeBits sequenceBits =>
    .record "TooManyBits" [("node_id_bits", .atom (natural nodeBits.toNat)),
      ("sequence_bits", .atom (natural sequenceBits.toNat))] true
  | invalidVariable name value =>
    .record "InvalidEnv" [("name", .atom (quoted name)), ("value", .atom (quoted value))] true
  | nodeIdOutOfRange nodeId max =>
    .record "NodeIdOutOfRange" [("node_id", .atom (word nodeId)), ("max", .atom (word max))] true
  | negativeOffset offset => .record "NegativeOffset" [("offset_ms", .atom (word offset))] true
  | offsetInFuture offset now =>
    .record "OffsetInFuture" [("offset_ms", .atom (word offset)), ("now_ms", .atom (word now))] true
  | clockRegressed now last =>
    .record "ClockRegressed" [("now_ms", .atom (word now)), ("last_ms", .atom (word last))] true
  | cancelled => .atom "Cancelled"

end Error

/-- What stops a program at once, rather than being handed back to the caller. -/
inductive Halt where
  /-- A sum of two words left the range. -/
  | additionOverflow
  /-- The process-wide layout was asked for while the environment holds an invalid one. -/
  | invalidLayout (cause : Error)
deriving DecidableEq, Repr

/-- What is said when the program stops. -/
def Halt.message : Halt → String
  | additionOverflow => "attempt to add with overflow"
  | invalidLayout cause => "invalid snowflake layout: " ++ cause.message

end Snowflake
