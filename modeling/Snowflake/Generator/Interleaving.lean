import Snowflake.Generator.Attempt

/-!
# Interleaved attempts

Any number of callers share one generator. Each makes attempts, and the single accesses of their
attempts may be interleaved in any way: reading the register, reading the clock, exchanging.

**Phases.** A caller is idle, or has read the register, or has also read the clock and is about
to exchange. An attempt whose proposal is not an exchange ends with its reading.

**Runs.** A schedule lists whose access comes next, with the reading that the clock gives where
the access is to the clock. `Shared.run` follows a schedule and has no result if an access does
not fit the phase of its caller. The `history` of a run holds the ended attempts in the order in
which they ended.
-/

namespace Snowflake.Generator

/-- How far a caller is with an attempt. -/
inductive Phase where
  | idle
  /-- The register was read. -/
  | loaded (seen : Int64)
  /-- The clock was read too, and an exchange of `seen` for `next` is due. -/
  | proposing (seen next : Int64)
deriving DecidableEq, Repr

/-- One access of an attempt. -/
inductive Access where
  | load
  /-- The clock gives this reading. -/
  | read (reading : Int64)
  | exchange
deriving DecidableEq, Repr

/-- What one access of an attempt leads to. -/
structure Advance where
  register : Int64
  phase : Phase
  /-- How the attempt ended, if this access was its last. -/
  ended : Option Outcome := none
  events : List Event := []
deriving DecidableEq

variable (g : Generator)

/-- One access of an attempt in a phase, or nothing if it does not fit there. -/
def advance? (register : Int64) : Phase → Access → Option Advance
  | .idle, .load => some { register, phase := .loaded register }
  | .loaded seen, .read reading =>
    match g.propose seen reading with
    | .commit next => some { register, phase := .proposing seen next }
    | .exhausted => some { register, phase := .idle, ended := some (.ok (.pending 1)) }
    | .regressed now last => some
        { register, phase := .idle, ended := some (.error (.clockRegressed now last))
          events := [.clockRegressed now last] }
  | .proposing seen next, .exchange =>
    let (register, status) := g.commit register seen next
    some { register, phase := .idle, ended := some (.ok status) }
  | _, _ => none

/-- An attempt that has ended. -/
structure Ended where
  caller : Nat
  outcome : Outcome
deriving DecidableEq

/-- The register with the callers that share it. -/
structure Shared where
  register : Int64 := 0
  phases : List Phase
  history : List Ended := []
  events : List Event := []
deriving DecidableEq

namespace Shared

/-- A fresh generator with so many idle callers. -/
def fresh (callers : Nat) : Shared := { phases := List.replicate callers .idle }

/-- One access of one caller. -/
def step? (s : Shared) (move : Nat × Access) : Option Shared :=
  (s.phases[move.1]?).bind fun phase =>
    (g.advance? s.register phase move.2).map fun a =>
      { register := a.register
        phases := s.phases.set move.1 a.phase
        history := s.history ++ (a.ended.map fun outcome => ⟨move.1, outcome⟩).toList
        events := s.events ++ a.events }

/-- The accesses of a schedule, one after the other. -/
def run (s : Shared) : List (Nat × Access) → Option Shared
  | [] => some s
  | move :: moves => (s.step? g move).bind fun s => s.run moves

/-- How many attempts are under way. -/
def inFlight (s : Shared) : Nat := s.phases.countP (· ≠ .idle)

/-- The ids that were committed, in the order of their exchanges. -/
def ids (s : Shared) : List Int64 :=
  s.history.filterMap fun e => e.outcome.toOption.bind Status.id?

end Shared

end Snowflake.Generator
