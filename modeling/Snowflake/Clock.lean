import Snowflake.Generator.Attempt

/-!
# Clocks and flags

A clock is either a stream of readings or a script.

**Scripts** list one entry per reading. An entry may raise flags before its reading is returned,
and may make attempts on the generator that is reading, each of which takes further readings.
After the last entry a script repeats its last reading, and each such reading raises the interrupt
flag of the reader, so that a wait on a finished script ends.

**Ticks.** `Clock.tick` is one reading with everything that happens while it is taken.
-/

namespace Snowflake

open Generator

/-- The flags that a reading can raise. -/
structure Signals where
  /-- The interrupt flag of the thread that reads. -/
  interrupted : Bool := false
  /-- The flag of whoever may call off a wait. -/
  raised : Bool := false
deriving DecidableEq, Repr

namespace Signals

/-- The flags raised on either side. -/
def or (a b : Signals) : Signals := ⟨a.interrupted || b.interrupted, a.raised || b.raised⟩

end Signals

/-- One reading of a script. -/
structure Entry where
  reading : Int64
  /-- The flags it raises. -/
  signals : Signals := {}
  /-- How many attempts it makes. -/
  nested : Nat := 0
deriving DecidableEq, Repr

/-- Some ticks of a script of `bound` entries. -/
structure Drawn (bound : Nat) where
  ticks : List Tick
  signals : Signals
  /-- How many readings were taken. -/
  taken : Nat
  rest : List Entry
  /-- The last reading so far. -/
  last : Int64
  rest_le : rest.length ≤ bound

/-- The next `count` ticks of a script, after the reading `last`. -/
def drawTicks (count : Nat) (script : List Entry) (last : Int64) : Drawn script.length :=
  match count, script with
  | 0, script => ⟨[], {}, 0, script, last, Nat.le_refl _⟩
  | count + 1, [] =>
    let others := drawTicks count [] last
    ⟨.plain last :: others.ticks, others.signals.or { interrupted := true }, others.taken + 1,
      others.rest, others.last, others.rest_le⟩
  | count + 1, entry :: script =>
    let inner := drawTicks entry.nested script entry.reading
    let others := drawTicks count inner.rest inner.last
    ⟨.mk inner.ticks entry.reading :: others.ticks,
      (entry.signals.or inner.signals).or others.signals, inner.taken + others.taken + 1,
      others.rest, others.last,
      Nat.le_succ_of_le (Nat.le_trans others.rest_le inner.rest_le)⟩
termination_by (script.length, count)
decreasing_by
  · exact Prod.Lex.right _ (Nat.lt_succ_self _)
  · exact Prod.Lex.left _ _ (Nat.lt_succ_self _)
  · exact Prod.Lex.left _ _ (Nat.lt_succ_of_le (Drawn.rest_le _))

inductive Clock where
  /-- The reading at each position, and the position. -/
  | stream (readingAt : Nat → Int64) (taken : Nat)
  /-- The entries left, the last reading taken, and how many were taken. -/
  | script (entries : List Entry) (last : Int64) (taken : Nat)

namespace Clock

/-- A clock that stands still. -/
def fixed (reading : Int64) : Clock := stream (fun _ => reading) 0

/-- A clock that moves on by a millisecond every so many readings. -/
def every (start : Int64) (readings : Nat) : Clock :=
  stream (fun k => start + Int64.ofNat (k / readings)) 0

def ofEntries (entries : List Entry) : Clock := script entries 0 0

/-- How many readings were taken. -/
def taken : Clock → Nat
  | stream _ taken => taken
  | script _ _ taken => taken

/-- One reading, the flags raised meanwhile, and the clock after it. -/
def tick : Clock → Tick × Signals × Clock
  | stream readingAt taken => (.plain (readingAt taken), {}, stream readingAt (taken + 1))
  | script entries last taken =>
    let drawn := drawTicks 1 entries last
    (drawn.ticks.headD (.plain last), drawn.signals,
      script drawn.rest drawn.last (taken + drawn.taken))

/-- One reading during which nobody makes attempts. -/
def read : Clock → Int64 × Signals × Clock
  | stream readingAt taken => (readingAt taken, {}, stream readingAt (taken + 1))
  | script [] last taken => (last, { interrupted := true }, script [] last (taken + 1))
  | script (entry :: entries) _ taken =>
    (entry.reading, entry.signals, script entries entry.reading (taken + 1))

end Clock

end Snowflake
