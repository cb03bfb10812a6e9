import Snowflake.Session
import Snowflake.Proofs.Attempt

/-!
# The attempts of a waiting caller

A call for the next id is a number of attempts with a question after each but perhaps the last. The
surroundings alone determine which ticks the attempts get (`Surroundings.ticks`), and nothing but
ticks and questions changes the surroundings (`Draws.scene_induction`). `Draws` says how a call goes
on: it ends with the first attempt that has an id or an error, or with the first question that is
answered by yes. It is what a call returns that may make enough attempts (`next_eq_some_iff`).

**Flags.** A call leaves raised what was raised, and raises only what its readings do
(`signals_next`).
-/

namespace Snowflake

namespace Generator

variable {σ : Type} {around : Surroundings σ} {g : Generator} {register : Int64} {scene : σ}
  {d : Draw σ}

/-- The next so many ticks, with a question after each but the last. -/
def Surroundings.ticks (around : Surroundings σ) : Nat → σ → List Tick
  | 0, _ => []
  | n + 1, scene =>
    (around.tick scene).1 :: around.ticks n (around.cancelled (around.tick scene).2).2

/-- How a call for the next id goes. -/
inductive Draws (g : Generator) (around : Surroundings σ) : Int64 → σ → Draw σ → Prop where
  | minted {register : Int64} {scene : σ} {a : Attempt} {id : Int64}
      (ha : g.poll register (around.tick scene).1 = a) (h : a.outcome = .ok (.ready id)) :
      Draws g around register scene
        { register := a.register, outcome := .ok id, scene := (around.tick scene).2
          nested := a.nested, events := a.events }
  | failed {register : Int64} {scene : σ} {a : Attempt} {e : Error}
      (ha : g.poll register (around.tick scene).1 = a) (h : a.outcome = .error e) :
      Draws g around register scene
        { register := a.register, outcome := .error e, scene := (around.tick scene).2
          nested := a.nested, events := a.events }
  | stopped {register : Int64} {scene : σ} {a : Attempt} {n : Int64}
      (ha : g.poll register (around.tick scene).1 = a) (h : a.outcome = .ok (.pending n))
      (hstop : (around.cancelled (around.tick scene).2).1 = true) :
      Draws g around register scene
        { register := a.register, outcome := .error .cancelled
          scene := (around.cancelled (around.tick scene).2).2, questions := 1
          nested := a.nested, events := a.events ++ [.cancelled] }
  | retried {register : Int64} {scene : σ} {a : Attempt} {n : Int64} {d : Draw σ}
      (ha : g.poll register (around.tick scene).1 = a) (h : a.outcome = .ok (.pending n))
      (hgo : (around.cancelled (around.tick scene).2).1 = false)
      (hrest : Draws g around a.register (around.cancelled (around.tick scene).2).2 d) :
      Draws g around register scene (d.after a)

theorem Draws.next (h : Draws g around register scene d) {fuel : Nat} (hfuel : d.attempts ≤ fuel) :
    g.next around fuel register scene = some d := by
  induction h generalizing fuel with
  | minted ha h | failed ha h =>
    obtain ⟨fuel, rfl⟩ := Nat.exists_eq_add_of_le' hfuel
    simp only [Generator.next, ha, h]
  | @stopped register scene a n ha h hstop =>
    obtain ⟨fuel, rfl⟩ := Nat.exists_eq_add_of_le' hfuel
    have hasked : around.cancelled (around.tick scene).2 =
        (true, (around.cancelled (around.tick scene).2).2) := Prod.ext hstop rfl
    simp only [Generator.next, ha, h]
    rw [hasked]
  | @retried register scene a n d ha h hgo hrest ih =>
    obtain ⟨more, rfl⟩ := Nat.exists_eq_add_of_le' hfuel
    have hasked : around.cancelled (around.tick scene).2 =
        (false, (around.cancelled (around.tick scene).2).2) := Prod.ext hgo rfl
    show g.next around (more + d.attempts + 1) register scene = _
    simp only [Generator.next, ha, h]
    rw [hasked]
    simp only [ih (Nat.le_add_left d.attempts more), Option.map_some]

/-- **Calls.** A call that may make so many attempts returns what it comes to, if that takes no more
of them. -/
theorem next_eq_some_iff {fuel : Nat} :
    g.next around fuel register scene = some d ↔
      Draws g around register scene d ∧ d.attempts ≤ fuel := by
  refine ⟨fun h => ?_, fun ⟨h, hfuel⟩ => h.next hfuel⟩
  induction fuel generalizing register scene d with
  | zero => cases h
  | succ fuel ih =>
    have hone := Nat.le_add_left 1 fuel
    simp only [next] at h
    split at h
    · rename_i e he
      exact Option.some.inj h ▸ ⟨.failed rfl he, hone⟩
    · rename_i id hid
      exact Option.some.inj h ▸ ⟨.minted rfl hid, hone⟩
    · rename_i n hpending
      split at h
      · rename_i scene' hcancelled
        obtain rfl : (around.cancelled (around.tick scene).2).2 = scene' := by rw [hcancelled]
        exact Option.some.inj h ▸ ⟨.stopped rfl hpending (by rw [hcancelled]), hone⟩
      · rename_i scene' hcancelled
        obtain rfl : (around.cancelled (around.tick scene).2).2 = scene' := by rw [hcancelled]
        obtain ⟨rest, hrest, rfl⟩ := Option.map_eq_some_iff.1 h
        obtain ⟨hdraws, hle⟩ := ih hrest
        exact ⟨.retried rfl hpending (by rw [hcancelled]) hdraws, Nat.succ_le_succ hle⟩

theorem draws_of_next {fuel : Nat} (h : g.next around fuel register scene = some d) :
    Draws g around register scene d :=
  (next_eq_some_iff.1 h).1

/-- What holds of a scene and is kept by ticks and questions holds when the call returns. -/
theorem Draws.scene_induction {P : σ → Prop} (h : Draws g around register scene d)
    (htick : ∀ scene, P scene → P (around.tick scene).2)
    (hask : ∀ scene, P scene → P (around.cancelled scene).2) (hscene : P scene) : P d.scene := by
  induction h with
  | minted | failed => exact htick _ hscene
  | stopped => exact hask _ (htick _ hscene)
  | retried ha hpending hgo hrest ih => exact ih (hask _ (htick _ hscene))

end Generator

/-! ## Flags -/

/-- The flags that the next so many readings raise, and the clock after them. -/
def Clock.ticks : Nat → Clock → Signals × Clock
  | 0, c => ({}, c)
  | n + 1, c => (c.tick.2.1.or (c.tick.2.2.ticks n).1, (c.tick.2.2.ticks n).2)

namespace Signals

@[simp] theorem or_none (a : Signals) : a.or {} = a := by simp [or]

theorem or_assoc (a b c : Signals) : (a.or b).or c = a.or (b.or c) := by simp [or, Bool.or_assoc]

end Signals

namespace Session

open Generator

variable {s : Session} {c : Cancellation}

/-- The flags after an attempt are those before it and those that its reading raised. -/
theorem signals_poll (s : Session) :
    (s.clock.ticks 1).2 = s.poll.session.clock ∧
      s.poll.session.signals = s.signals.or (s.clock.ticks 1).1 := by
  simp [Clock.ticks, poll]

theorem signals_of_draws {g : Generator} {register : Int64} {scene : Scene} {d : Draw Scene}
    (h : Draws g (Scene.surroundings c) register scene d) :
    (scene.clock.ticks d.attempts).2 = d.scene.clock ∧
      d.scene.signals = scene.signals.or (scene.clock.ticks d.attempts).1 := by
  induction h with
  | minted | failed | stopped =>
    simp [Clock.ticks, Scene.surroundings, Scene.tick, Scene.ask]
  | @retried register scene a n d ha hpending hgo hrest ih =>
    obtain ⟨hclock, hsignals⟩ := ih
    refine ⟨hclock, hsignals.trans ?_⟩
    exact Signals.or_assoc ..

theorem signals_next {a : Answer (Except Error Int64 × Nat)} (h : s.next? c = some a) :
    ∃ n, (s.clock.ticks n).2 = a.session.clock ∧
      a.session.signals = s.signals.or (s.clock.ticks n).1 := by
  obtain ⟨d, hd, rfl⟩ := Option.map_eq_some_iff.1 h
  exact ⟨d.attempts, signals_of_draws (draws_of_next hd)⟩

end Session

end Snowflake
