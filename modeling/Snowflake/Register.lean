import Snowflake.Text.Padded
import Snowflake.Text.Inspect

/-!
# The shared register

One signed 64-bit word that any number of callers read and update, with enough inert bytes on
either side that nothing else shares its cache lines.

**Calls.** Loads, stores, swaps, additions, and exchanges that take effect only if the register
still holds an expected word. Additions wrap around. Each call exists in several tiers, which
order the accesses around it more or less strongly; what a call returns and leaves behind
does not depend on its tier, except that a plain addition is a load followed by a store
(`Snowflake.Register.Interleaving`).

**Meaning.** `Call.run` is what a call does when nobody interferes.
-/

namespace Snowflake.Register

/-- How strongly a call orders the accesses around it, from the weakest on. -/
inductive Tier where
  /-- No promise; an addition is not atomic. -/
  | plain
  /-- Atomic and coherent, ordering nothing else. -/
  | coherent
  | acquire
  | release
  /-- Part of a single total order of all such accesses. -/
  | sequential
deriving DecidableEq, Repr

inductive Call where
  | get (tier : Tier)
  | set (tier : Tier) (value : Int64)
  | getAndSet (value : Int64)
  | getAndAdd (tier : Tier) (delta : Int64)
  | addAndGet (tier : Tier) (delta : Int64)
  /-- Stores `new` if the register holds `expected`, and returns what it held. -/
  | compareAndExchange (tier : Tier) (expected new : Int64)
  /-- Stores `new` if the register holds `expected`, and tells whether it did. -/
  | compareAndSet (tier : Tier) (expected new : Int64)
  /-- Adds by exchanges alone: reads once, then retries with what each failed exchange saw. -/
  | addByExchange (delta : Int64)
deriving DecidableEq, Repr

namespace Call

def getAndIncrement (tier : Tier) : Call := getAndAdd tier 1
def incrementAndGet (tier : Tier) : Call := addAndGet tier 1
def getAndDecrement (tier : Tier) : Call := getAndAdd tier (-1)
def decrementAndGet (tier : Tier) : Call := addAndGet tier (-1)

end Call

/-- What a call returns. -/
inductive Reply where
  | nothing
  | word (value : Int64)
  | flag (value : Bool)
deriving DecidableEq, Repr

/-- What the register holds after an exchange. -/
def exchange (value expected new : Int64) : Int64 := if value = expected then new else value

namespace Call

/-- What a call leaves in the register and returns, when nobody interferes. -/
def run (value : Int64) : Call → Int64 × Reply
  | get _ => (value, .word value)
  | set _ new => (new, .nothing)
  | getAndSet new => (new, .word value)
  | getAndAdd _ delta => (value + delta, .word value)
  | addAndGet _ delta => (value + delta, .word (value + delta))
  | compareAndExchange _ expected new => (exchange value expected new, .word value)
  | compareAndSet _ expected new =>
    (exchange value expected new, .flag (decide (value = expected)))
  | addByExchange delta => (value + delta, .nothing)

/-- What `n` callers leave in the register that make a call one after the other. -/
def repeated (call : Call) : Nat → Int64 → Int64
  | 0, value => value
  | n + 1, value => call.repeated n (call.run value).1

end Call

/-- What a register holds that was not given a word. -/
def initial : Int64 := 0

/-! ## Place in memory -/

/-- Inert bytes on each side of the word. -/
def paddingBytes : Nat := 128

/-- Bytes of the word itself. -/
def wordBytes : Nat := 8

/-- The register starts on a multiple of this many bytes. -/
def alignment : Nat := 128

/-- Where the word starts within the register. -/
def valueOffset : Nat := paddingBytes

/-- Bytes of the whole register, up to the next multiple of its alignment. -/
def size : Nat := (valueOffset + wordBytes + paddingBytes + alignment - 1) / alignment * alignment

/-! ## Text forms -/

open Text

/-- How a register is written. -/
inductive Form where
  /-- The word in decimal, set in a field. -/
  | number (field : Field)
  /-- The register's name around the word in decimal, set in a field. -/
  | named (field : Field)
  /-- The register's name around the word in hexadecimal. -/
  | namedHexadecimal (upper : Bool)
  /-- The register's name around the word, spread over several lines. -/
  | spread
deriving Repr

/-- The diagnostic form of a register whose word is already written. -/
def inspectText (text : String) : Inspect := .tuple "PaddedAtomicI64" [.atom text]

/-- The diagnostic form. -/
def inspect (value : Int64) : Inspect := inspectText (Field.decimal {} value.toInt)

def format (value : Int64) : Form → String
  | .number field => field.decimal value.toInt
  | .named field => (inspectText (field.decimal value.toInt)).line
  | .namedHexadecimal upper => (inspectText (Field.hexadecimal {} upper value)).line
  | .spread => (inspect value).lines

end Snowflake.Register
