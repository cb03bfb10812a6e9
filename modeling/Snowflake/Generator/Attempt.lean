import Snowflake.Generator

/-!
# Attempts to mint an id

One attempt reads the register, then the clock, and then may try to exchange the word it saw for
the next one. Other attempts may come in between, so the exchange can fail.

**Proposal.** What an attempt does depends on the word it saw and the reading it took alone: a
later time starts a new millisecond, the same time takes the next sequence number if there is
one, and an earlier time is an error.

**Ticks.** Taking a reading may itself make attempts on the same generator. A `Tick` is a reading
together with the ticks that these attempts consume, so a whole attempt is a recursion on its
tick. The register is read before the tick and exchanged after it.
-/

namespace Snowflake

/-- How an attempt ends if it is not an error. -/
inductive Status where
  /-- An id was committed. -/
  | ready (id : Int64)
  /-- None was: wait so many milliseconds, or retry at once. -/
  | pending (yieldFor : Int64)
deriving DecidableEq, Repr

namespace Status

open Text

/-- The id, if one was committed. -/
def id? : Status → Option Int64
  | ready id => some id
  | pending _ => none

/-- The diagnostic form. -/
def inspect : Status → Inspect
  | ready id => .record "Ready" [("id", .atom (word id))] true
  | pending yieldFor => .record "Pending" [("yield_for", .atom (word yieldFor))] true

end Status

/-- How an attempt ends. -/
abbrev Outcome := Except Error Status

namespace Generator

/-! ## One attempt, access by access -/

/-- What an attempt means to do once it has its reading. -/
inductive Proposal where
  /-- Exchange the word it saw for this one. -/
  | commit (next : Int64)
  /-- Nothing: the millisecond has no sequence numbers left. -/
  | exhausted
  /-- Fail: the clock reads `now`, before the timestamp `last`; both relative to the offset. -/
  | regressed (now last : Int64)
deriving DecidableEq, Repr

variable (g : Generator)

/-- What an attempt means to do that saw the word `seen` and took `reading`. -/
def propose (seen reading : Int64) : Proposal :=
  let now := g.relative reading
  let last := g.layout.timestampOf seen
  if last < now then .commit (g.layout.placeTimestamp now)
  else if now = last then
    if g.layout.sequenceOf seen < g.layout.maxSequence then .commit (seen + 1) else .exhausted
  else .regressed now last

/-- What an attempt leaves behind. -/
structure Attempt where
  register : Int64
  outcome : Outcome
  /-- The outcomes of the attempts made while it took its reading, in order of completion. -/
  nested : List Outcome := []
  events : List Event := []
deriving DecidableEq

/-- An exchange of `seen` for `next`: the register after it, and the id if the register still
held what was seen. -/
def commit (register seen next : Int64) : Int64 × Status :=
  (Register.exchange register seen next,
    if register = seen then .ready (next ||| g.stamp) else .pending 0)

/-- The end of an attempt that saw `seen` and took `reading`, on a register that by now may hold
another word. -/
def settle (seen register reading : Int64) : Attempt :=
  match g.propose seen reading with
  | .commit next =>
    let (register, status) := g.commit register seen next
    { register, outcome := .ok status }
  | .exhausted => { register, outcome := .ok (.pending 1) }
  | .regressed now last =>
    { register, outcome := .error (.clockRegressed now last), events := [.clockRegressed now last] }

end Generator

/-! ## Whole attempts -/

/-- A reading of the clock, with the ticks of the attempts made while it was taken. -/
inductive Tick where
  | mk (during : List Tick) (reading : Int64)

namespace Tick

/-- A reading during which nothing happens. -/
def plain (reading : Int64) : Tick := mk [] reading

def reading : Tick → Int64
  | mk _ reading => reading

def during : Tick → List Tick
  | mk during _ => during

end Tick

namespace Generator

/-- What a sequence of attempts leaves behind. -/
structure Attempts where
  register : Int64
  /-- The outcomes in order of completion, nested ones included. -/
  outcomes : List Outcome := []
  events : List Event := []
deriving DecidableEq

mutual

/-- A whole attempt, with those that are made while it takes its reading. -/
def poll (g : Generator) (register : Int64) : Tick → Attempt
  | .mk during reading =>
    let inner := g.pollAll register during
    let own := g.settle register inner.register reading
    { own with nested := inner.outcomes, events := inner.events ++ own.events }

/-- Whole attempts one after the other. -/
def pollAll (g : Generator) (register : Int64) : List Tick → Attempts
  | [] => { register }
  | tick :: ticks =>
    let first := g.poll register tick
    let others := g.pollAll first.register ticks
    { register := others.register
      outcomes := first.nested ++ [first.outcome] ++ others.outcomes
      events := first.events ++ others.events }

end

end Generator

end Snowflake
