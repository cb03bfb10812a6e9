import Snowflake.Generator.Interleaving
import Snowflake.Generator.Retry

/-!
# Drawing many ids with several workers

A count of ids is split among workers that share one generator. Each draws its quota, waiting
for every id as a single caller does, and stops at its first error.

**Quotas** are as equal as they can be; the first workers take what is left over.

**Runs.** `Pool.step?` is a single access or a single answer of one worker, in any order among
the workers. `Pool.turn` is a whole attempt, or the question after it, of one worker; `Pool.run`
lets the workers finish one after the other.

**Result.** If a worker failed, the error of the first that did; otherwise all ids in ascending
order.
-/

namespace Snowflake.Generator

/-- How many of `count` ids worker `i` of `threads` draws. -/
def quota (count threads i : UInt64) : UInt64 :=
  count / threads + if i < count % threads then 1 else 0

/-- Where a worker stands. -/
inductive Stage where
  | attempting (phase : Phase)
  /-- Its last attempt gave no id; it is about to ask whether to go on. -/
  | asking
  | failed (cause : Error)
deriving DecidableEq

structure Worker where
  /-- How many ids it has still to draw. -/
  remaining : Nat
  /-- The ids it has drawn, the latest first. -/
  drawn : List Int64 := []
  stage : Stage := .attempting .idle
deriving DecidableEq

namespace Worker

/-- The worker has its ids, or has failed. -/
def isFinished (w : Worker) : Bool :=
  match w.stage with
  | .failed _ => true
  | .attempting .idle => w.remaining == 0
  | _ => false

def failure? (w : Worker) : Option Error :=
  match w.stage with
  | .failed cause => some cause
  | _ => none

/-- The worker after an attempt ended. -/
def conclude (w : Worker) : Outcome → Worker
  | .ok (.ready id) => ⟨w.remaining - 1, id :: w.drawn, .attempting .idle⟩
  | .ok (.pending _) => { w with stage := .asking }
  | .error cause => { w with stage := .failed cause }

/-- The worker after it asked whether to stop, with what it reports. -/
def answer (w : Worker) (stop : Bool) : Worker × List Event :=
  if stop then ({ w with stage := .failed .cancelled }, [.cancelled])
  else ({ w with stage := .attempting .idle }, [])

end Worker

/-- The register with the workers that share it. -/
structure Pool where
  register : Int64
  workers : List Worker
  /-- The outcomes of the attempts made while workers took their readings. -/
  nested : List Outcome := []
  events : List Event := []
deriving DecidableEq

/-- One step of a worker. -/
inductive Move where
  | access (access : Access)
  /-- The worker asks whether to stop and gets this answer. -/
  | answer (stop : Bool)
deriving DecidableEq

namespace Pool

/-- A pool that is to draw `count` ids with `threads` workers. -/
def ofCount (register : Int64) (count threads : UInt64) : Pool where
  register
  workers := (List.range threads.toNat).map fun i =>
    { remaining := (quota count threads (UInt64.ofNat i)).toNat }

/-- One step of one worker, or nothing if it does not fit. -/
def step? (g : Generator) (p : Pool) (i : Nat) (move : Move) : Option Pool :=
  (p.workers[i]?).bind fun w =>
    if w.isFinished then none
    else match w.stage, move with
      | .attempting phase, .access access =>
        (g.advance? p.register phase access).map fun a =>
          { p with
            register := a.register
            workers := p.workers.set i <| match a.ended with
              | none => { w with stage := .attempting a.phase }
              | some outcome => w.conclude outcome
            events := p.events ++ a.events }
      | .asking, .answer stop =>
        let (w, events) := w.answer stop
        some { p with workers := p.workers.set i w, events := p.events ++ events }
      | _, _ => none

/-- The steps of a schedule, one after the other. -/
def steps? (g : Generator) (p : Pool) : List (Nat × Move) → Option Pool
  | [] => some p
  | (i, move) :: moves => (p.step? g i move).bind fun p => p.steps? g moves

/-- A whole attempt of worker `i`. -/
def attempt (g : Generator) (p : Pool) (i : Nat) (tick : Tick) : Pool :=
  let a := g.poll p.register tick
  { register := a.register
    workers := p.workers.modify i (·.conclude a.outcome)
    nested := p.nested ++ a.nested
    events := p.events ++ a.events }

/-- Worker `i` asks whether to stop and gets an answer. -/
def hear (p : Pool) (i : Nat) (stop : Bool) : Pool :=
  match p.workers[i]? with
  | none => p
  | some w =>
    let (w, events) := w.answer stop
    { p with workers := p.workers.set i w, events := p.events ++ events }

/-- The first worker that has not finished. -/
def current? (p : Pool) : Option Nat := p.workers.findIdx? fun w => !w.isFinished

/-- Worker `i` is about to ask whether to go on. -/
def isAsking (p : Pool) (i : Nat) : Bool := p.workers[i]?.any (·.stage == .asking)

/-- A whole attempt of worker `i`, or its question. -/
def turn {σ : Type} (g : Generator) (around : Surroundings σ) (p : Pool) (i : Nat) (scene : σ) :
    Pool × σ :=
  if p.isAsking i then
    let (stop, scene) := around.cancelled scene
    (p.hear i stop, scene)
  else
    let (tick, scene) := around.tick scene
    (p.attempt g i tick, scene)

/-- The workers finish one after the other, within so many turns. Worker `i` has the surroundings
`around i`. -/
def run {σ : Type} (g : Generator) (around : Nat → Surroundings σ) :
    Nat → Pool → σ → Option (Pool × σ)
  | fuel, p, scene =>
    match p.current?, fuel with
    | none, _ => some (p, scene)
    | some _, 0 => none
    | some i, fuel + 1 =>
      let (p, scene) := p.turn g (around i) i scene
      p.run g around fuel scene

/-- The first error of a worker, or all ids in ascending order. -/
def result (p : Pool) : Except Error (List Int64) :=
  match p.workers.findSome? Worker.failure? with
  | some cause => .error cause
  | none => .ok ((p.workers.flatMap Worker.drawn).mergeSort fun a b => decide (a ≤ b))

/-- What a finished pool reports at the end. -/
def closing (p : Pool) (threads : UInt64) : List Event :=
  match p.result with
  | .ok ids => [.generated ids.length threads]
  | .error _ => []

end Pool

/-- What drawing many ids leaves behind. -/
structure Generated (σ : Type) where
  register : Int64
  outcome : Except Error (List Int64)
  scene : σ
  nested : List Outcome
  events : List Event

/-- `count` ids drawn by `threads` workers, at least one, within so many turns. -/
def generate {σ : Type} (g : Generator) (around : Nat → Surroundings σ) (fuel : Nat)
    (register : Int64) (scene : σ) (count threads : UInt64) : Option (Generated σ) :=
  let threads := max threads 1
  ((Pool.ofCount register count threads).run g around fuel scene).map fun (p, scene) =>
    { register := p.register
      outcome := p.result
      scene
      nested := p.nested
      events := p.events ++ p.closing threads }

end Snowflake.Generator
