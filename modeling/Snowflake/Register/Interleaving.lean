import Snowflake.Register

/-!
# Interleaved calls on the register

Any number of callers, each with a list of calls to make, take turns at single accesses to the
register.

**Accesses.** An atomic call is one access. A plain addition is a load and then a store. An
addition by exchanges is a load and then one exchange after another, each expecting what the one
before saw. `Call.access` is one access of a call.

**Runs.** A schedule lists whose turn it is. The `history` of a run holds the completed calls in
the order in which they completed, with what the register held before and after their last access.

**Refusals.** An exchange of which only the success is told may be a weak one, which can fail
although the register holds the expected word. `Shared.turns` is a run in which that happens too.
-/

namespace Snowflake.Register

/-- Where a caller stands within a call. -/
inductive Stage where
  | fresh
  /-- The call has seen this word and has not completed. -/
  | holding (seen : Int64)
deriving DecidableEq, Repr

/-- What one access of a call leads to. -/
inductive Progress where
  | holds (seen : Int64)
  | completes (reply : Reply)
deriving DecidableEq, Repr

namespace Call

/-- One access of a call that stands at `stage`: what the register holds after it, and how the
call goes on. -/
def access (stage : Stage) (value : Int64) : Call → Int64 × Progress
  | getAndAdd .plain delta =>
    match stage with
    | .fresh => (value, .holds value)
    | .holding seen => (seen + delta, .completes (.word seen))
  | addAndGet .plain delta =>
    match stage with
    | .fresh => (value, .holds value)
    | .holding seen => (seen + delta, .completes (.word (seen + delta)))
  | addByExchange delta =>
    match stage with
    | .fresh => (value, .holds value)
    | .holding seen =>
      if value = seen then (seen + delta, .completes .nothing) else (value, .holds value)
  | call => ((call.run value).1, .completes (call.run value).2)

end Call

/-- A caller with the calls it has still to make, the first of them perhaps begun. -/
structure Caller where
  calls : List Call
  stage : Stage := .fresh
deriving DecidableEq, Repr

/-- A completed call. -/
structure Completed where
  caller : Nat
  call : Call
  /-- What the register held before the call's last access. -/
  before : Int64
  after : Int64
  reply : Reply
deriving DecidableEq, Repr

/-- The register with those who use it. -/
structure Shared where
  value : Int64
  callers : List Caller
  history : List Completed := []
deriving DecidableEq, Repr

namespace Shared

/-- Caller `i` makes one access; a caller without calls, or none, does nothing. -/
def step (s : Shared) (i : Nat) : Shared :=
  match s.callers[i]? with
  | some ⟨call :: rest, stage⟩ =>
    match call.access stage s.value with
    | (value, .holds seen) =>
      { s with value, callers := s.callers.set i ⟨call :: rest, .holding seen⟩ }
    | (value, .completes reply) =>
      { value
        callers := s.callers.set i ⟨rest, .fresh⟩
        history := s.history ++ [⟨i, call, s.value, value, reply⟩] }
  | _ => s

/-- The callers take their turns in the order of the schedule. -/
def run (s : Shared) (schedule : List Nat) : Shared := schedule.foldl step s

/-- What happens next. -/
inductive Turn where
  /-- A caller makes one access. -/
  | access (caller : Nat)
  /-- The exchange that a caller is about to make fails, whatever the register holds. -/
  | refusal (caller : Nat)
deriving DecidableEq, Repr

/-- The exchange that caller `i` is about to make fails; a caller without one does nothing. -/
def refuse (s : Shared) (i : Nat) : Shared :=
  match s.callers[i]? with
  | some ⟨.compareAndSet tier expected new :: rest, _⟩ =>
    { s with
      callers := s.callers.set i ⟨rest, .fresh⟩
      history := s.history ++
        [⟨i, .compareAndSet tier expected new, s.value, s.value, .flag false⟩] }
  | _ => s

def turn (s : Shared) : Turn → Shared
  | .access i => s.step i
  | .refusal i => s.refuse i

/-- The turns one after the other. -/
def turns (s : Shared) (ts : List Turn) : Shared := ts.foldl turn s

/-- Every caller has made its calls. -/
def Finished (s : Shared) : Prop := ∀ c ∈ s.callers, c.calls = []

end Shared

end Snowflake.Register
