import Snowflake.Clock
import Snowflake.Generator.Pool

/-!
# Sessions

A generator together with its register, the clock it reads, and the flags that may call off a
wait, used by one caller.

**Cancellation.** A wait may be called off by nobody, by a shared flag, by the interrupt flag of
the calling thread, or after a number of questions. Raising a flag never prevents an id that is
available at once, because nobody asks before an attempt has failed.

**Workers** that draw many ids have interrupt flags of their own, lowered at first.
-/

namespace Snowflake

open Generator

/-- Who may call off a wait. -/
inductive Cancellation where
  | never
  /-- A flag that others raise. -/
  | flag
  /-- The interrupt flag of the calling thread. -/
  | thread
  /-- Someone who lets this many questions pass before saying yes. -/
  | after (questions : Nat)
deriving DecidableEq, Repr

/-- What changes around a waiting caller. -/
structure Scene where
  clock : Clock
  signals : Signals := {}
  /-- How many questions were asked. -/
  asked : Nat := 0

namespace Scene

/-- One reading of the clock; the flags it raises stay raised. -/
def tick (s : Scene) : Tick × Scene :=
  let (tick, signals, clock) := s.clock.tick
  (tick, { s with clock, signals := s.signals.or signals })

/-- The answer to one question. -/
def ask (c : Cancellation) (s : Scene) : Bool × Scene :=
  let answer := match c with
    | .never => false
    | .flag => s.signals.raised
    | .thread => s.signals.interrupted
    | .after questions => questions ≤ s.asked
  (answer, { s with asked := s.asked + 1 })

/-- The surroundings of a caller on a clock. -/
def surroundings (c : Cancellation) : Surroundings Scene where
  tick := tick
  cancelled := ask c

end Scene

/-- What changes around several workers: the clock, the flag that others raise, and the worker
that read last with its interrupt flag. -/
structure Workshop where
  clock : Clock
  raised : Bool
  worker : Nat := 0
  interrupted : Bool := false

namespace Workshop

/-- The interrupt flag of a worker. -/
def isInterrupted (w : Workshop) (i : Nat) : Bool := w.worker == i && w.interrupted

/-- One reading by a worker. -/
def tick (i : Nat) (w : Workshop) : Tick × Workshop :=
  let (tick, signals, clock) := w.clock.tick
  (tick, ⟨clock, w.raised || signals.raised, i, w.isInterrupted i || signals.interrupted⟩)

/-- The surroundings of each worker, which finish one after the other. -/
def surroundings (i : Nat) : Surroundings Workshop where
  tick := tick i
  cancelled w := (w.isInterrupted i, w)

end Workshop

/-- A generator in use. -/
structure Session where
  generator : Generator
  register : Int64 := 0
  clock : Clock
  signals : Signals := {}

namespace Session

/-- How many attempts a call makes at most before it counts as endless. -/
def patience : Nat := 1000000

/-- A result of a call on a session, with what happened meanwhile. -/
structure Answer (α : Type) where
  session : Session
  value : α
  nested : List Outcome := []
  events : List Event := []

/-- Why a session could not be opened, and the clock by then. -/
structure Refusal where
  cause : Error
  clock : Clock

/-- A session with a new generator. The clock is read only if node id and offset are valid. -/
def create (layout : Layout) (nodeId offset : Int64) (clock : Clock) (signals : Signals := {}) :
    Except Refusal (Answer Unit) :=
  match Generator.ofSettings layout nodeId offset with
  | .error cause => .error ⟨cause, clock⟩
  | .ok generator =>
    let (reading, raised, clock) := clock.read
    match generator.start reading with
    | .error cause => .error ⟨cause, clock⟩
    | .ok (generator, events) =>
      .ok { session := { generator, clock, signals := signals.or raised }, value := (), events }

variable (s : Session)

/-- One attempt. -/
def poll : Answer Outcome :=
  let (tick, raised, clock) := s.clock.tick
  let a := s.generator.poll s.register tick
  { session := { s with register := a.register, clock, signals := s.signals.or raised }
    value := a.outcome, nested := a.nested, events := a.events }

/-- The next id, or nothing if the wait is endless, and how many questions were asked. -/
def next? (c : Cancellation) : Option (Answer (Except Error Int64 × Nat)) :=
  (s.generator.next (Scene.surroundings c) patience s.register ⟨s.clock, s.signals, 0⟩).map
    fun d =>
      { session := { s with
          register := d.register, clock := d.scene.clock, signals := d.scene.signals }
        value := (d.outcome, d.questions), nested := d.nested, events := d.events }

/-- Many ids, drawn by workers, or nothing if a wait is endless. -/
def generate? (count threads : UInt64) : Option (Answer (Except Error (List Int64))) :=
  let fuel := patience + 2 * count.toNat
  (s.generator.generate Workshop.surroundings fuel s.register
      { clock := s.clock, raised := s.signals.raised } count threads).map fun d =>
    { session := { s with
        register := d.register, clock := d.scene.clock
        signals := ⟨s.signals.interrupted, d.scene.raised⟩ }
      value := d.outcome, nested := d.nested, events := d.events }

/-- What a burst of attempts came to. -/
structure Burst where
  /-- The ids in the order in which they were minted. -/
  ids : List Int64 := []
  pending : Nat := 0
  /-- The error that ended the burst early. -/
  stopped : Option Error := none
deriving DecidableEq

/-- Attempts one after the other, at most `count`, up to the first error. `soFar` is what the
burst came to before, its ids the latest first. -/
def burstFrom : Nat → Answer Burst → Answer Burst
  | 0, soFar => soFar
  | count + 1, soFar =>
    let a := soFar.session.poll
    let nested := soFar.nested ++ a.nested
    let events := soFar.events ++ a.events
    let continued (value : Burst) : Answer Burst := { session := a.session, value, nested, events }
    match a.value with
    | .ok (.ready id) =>
      burstFrom count (continued { soFar.value with ids := id :: soFar.value.ids })
    | .ok (.pending _) =>
      burstFrom count (continued { soFar.value with pending := soFar.value.pending + 1 })
    | .error e => continued { soFar.value with stopped := some e }

/-- At most `count` attempts, up to the first error. -/
def burst (count : Nat) : Answer Burst :=
  let a := burstFrom count { session := s, value := {} }
  { a with value := { a.value with ids := a.value.ids.reverse } }

end Session

end Snowflake
