import Snowflake.Generator.Attempt

/-!
# Waiting for the next id

A caller that wants an id makes attempt after attempt. It returns the first id, or the first
error; after an attempt that gave neither it asks once whether to go on.

**Surroundings.** The ticks and the answers come from surroundings with a state of their own: a
clock, flags that others raise, a count of questions. Two streams are the plainest such.

**Fuel.** Nothing bounds the number of attempts, so `next` makes at most as many as it is told
and has no result if they do not suffice. With more attempts it returns the same.
-/

namespace Snowflake.Generator

/-- What a waiting caller depends on, with state `σ`. -/
structure Surroundings (σ : Type) where
  /-- The next tick of the clock. -/
  tick : σ → Tick × σ
  /-- Whether the wait is to be called off. -/
  cancelled : σ → Bool × σ

/-- Two streams: the ticks and the answers, each with its position. -/
def Surroundings.streams (ticks : Nat → Tick) (answers : Nat → Bool) :
    Surroundings (Nat × Nat) where
  tick s := (ticks s.1, (s.1 + 1, s.2))
  cancelled s := (answers s.2, (s.1, s.2 + 1))

/-- What a call for the next id leaves behind. -/
structure Draw (σ : Type) where
  register : Int64
  outcome : Except Error Int64
  scene : σ
  /-- How many attempts the call made itself. -/
  attempts : Nat := 1
  /-- How often it asked whether to go on. -/
  questions : Nat := 0
  /-- The outcomes of the attempts made while it took its readings, in order of completion. -/
  nested : List Outcome := []
  events : List Event := []

/-- The draw of a call whose first attempt did not suffice: `rest` is what followed. -/
def Draw.after {σ : Type} (first : Attempt) (rest : Draw σ) : Draw σ :=
  { rest with
    attempts := rest.attempts + 1
    questions := rest.questions + 1
    nested := first.nested ++ rest.nested
    events := first.events ++ rest.events }

/-- The next id, within so many attempts. -/
def next {σ : Type} (g : Generator) (around : Surroundings σ) :
    Nat → Int64 → σ → Option (Draw σ)
  | 0, _, _ => none
  | fuel + 1, register, scene =>
    let (tick, scene) := around.tick scene
    let a := g.poll register tick
    let stop (outcome : Except Error Int64) : Draw σ :=
      { register := a.register, outcome, scene, nested := a.nested, events := a.events }
    match a.outcome with
    | .error e => some (stop (.error e))
    | .ok (.ready id) => some (stop (.ok id))
    | .ok (.pending _) =>
      match around.cancelled scene with
      | (true, scene) => some
          { register := a.register, outcome := .error .cancelled, scene, questions := 1
            nested := a.nested, events := a.events ++ [.cancelled] }
      | (false, scene) => (g.next around fuel a.register scene).map (Draw.after a)

end Snowflake.Generator
