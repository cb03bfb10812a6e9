import Snowflake.Proofs.Nesting
import Snowflake.Proofs.Retries

/-!
# The first attempt or answer that ends a wait

A waiting caller makes attempts one after the other on the ticks that its surroundings have for it,
with a question after each but perhaps the last. As long as every attempt is told to wait and every
answer is to go on, the attempts are those that anyone would have made in a row (`attempt`), and the
surroundings change by ticks and questions in turn (`Surroundings.later`). The call waits up to the
first attempt for which this fails (`Waits`) and ends with it (`EndsWith`): with its id, with its
error, or with the answer to the question that follows it.

**Theorem (`next_ends_first`).** A call returns exactly if one of the attempts that it may make ends
it, and then what the first of these brings. An id that is there at once is returned without a
question. The clock is read once for each attempt, those included that are made during a reading.
-/

namespace Snowflake.Generator

variable {σ : Type} {around : Surroundings σ} {g : Generator} {register : Int64} {scene : σ}
  {n : Nat} {d : Draw σ}

/-! ## Attempts in a row -/

/-- The scene after so many ticks, with a question after each. -/
def Surroundings.later (around : Surroundings σ) : Nat → σ → σ
  | 0, scene => scene
  | n + 1, scene => around.later n (around.cancelled (around.tick scene).2).2

/-- The scene when the reading of attempt `n` has been taken, counted from zero. -/
def Surroundings.read (around : Surroundings σ) (n : Nat) (scene : σ) : σ :=
  (around.tick (around.later n scene)).2

/-- The answer to the question after attempt `n`. -/
def Surroundings.answer (around : Surroundings σ) (n : Nat) (scene : σ) : Bool :=
  (around.cancelled (around.read n scene)).1

/-- Attempt `n` of attempts in a row. -/
def attempt (g : Generator) (around : Surroundings σ) (register : Int64) (scene : σ) (n : Nat) :
    Attempt :=
  g.poll (g.pollAll register (around.ticks n scene)).register
    (around.tick (around.later n scene)).1

theorem attempt_succ (n : Nat) :
    g.attempt around register scene (n + 1) =
      g.attempt around (g.poll register (around.tick scene).1).register
        (around.cancelled (around.tick scene).2).2 n := by
  simp only [attempt, Surroundings.ticks, Surroundings.later, pollAll]

/-- An attempt fails for one reason only. -/
theorem poll_error {tick : Tick} {e : Error} (h : (g.poll register tick).outcome = .error e) :
    ∃ now last, e = .clockRegressed now last := by
  obtain ⟨during, reading⟩ := tick
  exact ⟨_, _, (settle_error h).2⟩

/-! ## The end of a wait -/

/-- What the attempts up to this one have of something, in order. -/
def along {α : Type} (g : Generator) (around : Surroundings σ) (register : Int64) (scene : σ)
    (n : Nat) (items : Attempt → List α) : List α :=
  (List.range (n + 1)).flatMap fun k => items (g.attempt around register scene k)

/-- The attempts before this one were told to wait, and the questions after them to go on. -/
def Waits (g : Generator) (around : Surroundings σ) (register : Int64) (scene : σ) (n : Nat) :
    Prop :=
  ∀ k < n, (∃ pause, (g.attempt around register scene k).outcome = .ok (.pending pause)) ∧
    around.answer k scene = false

/-- What a call comes to that is still waiting when it makes attempt `n`, if this is its last. -/
inductive EndsWith (g : Generator) (around : Surroundings σ) (register : Int64) (scene : σ)
    (n : Nat) : Draw σ → Prop where
  /-- An id ends the call without a further question. -/
  | minted {id : Int64} (h : (g.attempt around register scene n).outcome = .ok (.ready id)) :
      EndsWith g around register scene n
        { register := (g.attempt around register scene n).register, outcome := .ok id
          scene := around.read n scene, attempts := n + 1, questions := n
          nested := g.along around register scene n Attempt.nested
          events := g.along around register scene n Attempt.events }
  /-- So does an earlier time. -/
  | regressed {now last : Int64}
      (h : (g.attempt around register scene n).outcome = .error (.clockRegressed now last)) :
      EndsWith g around register scene n
        { register := (g.attempt around register scene n).register
          outcome := .error (.clockRegressed now last)
          scene := around.read n scene, attempts := n + 1, questions := n
          nested := g.along around register scene n Attempt.nested
          events := g.along around register scene n Attempt.events }
  /-- An attempt without either is followed by a question, and a yes ends the call. -/
  | cancelled {pause : Int64}
      (h : (g.attempt around register scene n).outcome = .ok (.pending pause))
      (hyes : around.answer n scene = true) :
      EndsWith g around register scene n
        { register := (g.attempt around register scene n).register, outcome := .error .cancelled
          scene := (around.cancelled (around.read n scene)).2
          attempts := n + 1, questions := n + 1
          nested := g.along around register scene n Attempt.nested
          events := g.along around register scene n Attempt.events ++ [.cancelled] }

theorem along_zero {α : Type} (items : Attempt → List α) :
    g.along around register scene 0 items = items (g.poll register (around.tick scene).1) := by
  rw [along, List.range_one, List.flatMap_singleton]
  rfl

theorem along_succ {α : Type} (items : Attempt → List α) :
    g.along around register scene (n + 1) items =
      items (g.poll register (around.tick scene).1) ++
        g.along around (g.poll register (around.tick scene).1).register
          (around.cancelled (around.tick scene).2).2 n items := by
  simp only [along, List.range_succ_eq_map (n := n + 1), List.flatMap_cons, List.flatMap_map,
    attempt_succ]
  rfl

theorem waits_succ_iff :
    g.Waits around register scene (n + 1) ↔
      ((∃ pause, (g.poll register (around.tick scene).1).outcome = .ok (.pending pause)) ∧
        around.answer 0 scene = false) ∧
      g.Waits around (g.poll register (around.tick scene).1).register
        (around.cancelled (around.tick scene).2).2 n := by
  constructor
  · intro h
    refine ⟨h 0 (Nat.succ_pos n), fun k hk => ?_⟩
    have hlater := h (k + 1) (Nat.succ_lt_succ hk)
    rwa [attempt_succ] at hlater
  · rintro ⟨hfirst, hrest⟩ k hk
    cases k with
    | zero => exact hfirst
    | succ k =>
      rw [attempt_succ]
      exact hrest k (Nat.lt_of_succ_lt_succ hk)

/-- A later attempt ends the call as it ends the call of a caller that comes after the first. -/
theorem endsWith_succ_iff :
    g.EndsWith around register scene (n + 1) d ↔
      ∃ rest, g.EndsWith around (g.poll register (around.tick scene).1).register
          (around.cancelled (around.tick scene).2).2 n rest ∧
        d = rest.after (g.poll register (around.tick scene).1) := by
  constructor
  · intro h
    cases h with
    | minted h =>
      rw [attempt_succ] at h
      exact ⟨_, .minted h, by simp only [Draw.after, along_succ, attempt_succ]; rfl⟩
    | regressed h =>
      rw [attempt_succ] at h
      exact ⟨_, .regressed h, by simp only [Draw.after, along_succ, attempt_succ]; rfl⟩
    | cancelled h hyes =>
      rw [attempt_succ] at h
      refine ⟨_, .cancelled h hyes, ?_⟩
      simp only [Draw.after, along_succ, attempt_succ, List.append_assoc]
      rfl
  · rintro ⟨rest, h, rfl⟩
    cases h with
    | minted h =>
      rw [← attempt_succ] at h
      have hend := EndsWith.minted h
      simp only [along_succ, attempt_succ] at hend
      exact hend
    | regressed h =>
      rw [← attempt_succ] at h
      have hend := EndsWith.regressed h
      simp only [along_succ, attempt_succ] at hend
      exact hend
    | cancelled h hyes =>
      rw [← attempt_succ] at h
      have hend := EndsWith.cancelled h hyes
      simp only [along_succ, attempt_succ, List.append_assoc] at hend
      exact hend

/-- **The last attempt.** A call comes to what the first attempt brings that ends it. -/
theorem draws_iff_endsWith :
    Draws g around register scene d ↔
      ∃ n, g.Waits around register scene n ∧ g.EndsWith around register scene n d := by
  constructor
  · intro h
    induction h with
    | minted ha h =>
      subst ha
      have hend := EndsWith.minted (n := 0) h
      simp only [along_zero] at hend
      exact ⟨0, nofun, hend⟩
    | failed ha h =>
      subst ha
      obtain ⟨now, last, rfl⟩ := poll_error h
      have hend := EndsWith.regressed (n := 0) h
      simp only [along_zero] at hend
      exact ⟨0, nofun, hend⟩
    | stopped ha h hstop =>
      subst ha
      have hend := EndsWith.cancelled (n := 0) h hstop
      simp only [along_zero] at hend
      exact ⟨0, nofun, hend⟩
    | retried ha h hgo hrest ih =>
      subst ha
      obtain ⟨n, hwaits, hend⟩ := ih
      exact ⟨n + 1, waits_succ_iff.2 ⟨⟨⟨_, h⟩, hgo⟩, hwaits⟩, endsWith_succ_iff.2 ⟨_, hend, rfl⟩⟩
  · rintro ⟨n, hwaits, hend⟩
    induction n generalizing register scene d with
    | zero =>
      cases hend with
      | minted h =>
        simp only [along_zero]
        exact .minted rfl h
      | regressed h =>
        simp only [along_zero]
        exact .failed rfl h
      | cancelled h hyes =>
        simp only [along_zero]
        exact .stopped rfl h hyes
    | succ n ih =>
      obtain ⟨⟨⟨pause, hpending⟩, hgo⟩, hwaits⟩ := waits_succ_iff.1 hwaits
      obtain ⟨rest, hrest, rfl⟩ := endsWith_succ_iff.1 hend
      exact .retried rfl hpending hgo (ih hwaits hrest)

theorem EndsWith.attempts_eq (h : g.EndsWith around register scene n d) : d.attempts = n + 1 := by
  cases h <;> rfl

theorem next_eq_some_iff_endsWith {fuel : Nat} :
    g.next around fuel register scene = some d ↔
      ∃ n < fuel, g.Waits around register scene n ∧ g.EndsWith around register scene n d := by
  rw [next_eq_some_iff, draws_iff_endsWith]
  constructor
  · rintro ⟨⟨n, hwaits, hend⟩, hfuel⟩
    rw [hend.attempts_eq] at hfuel
    exact ⟨n, hfuel, hwaits, hend⟩
  · rintro ⟨n, hfuel, hwaits, hend⟩
    exact ⟨⟨n, hwaits, hend⟩, hend.attempts_eq ▸ hfuel⟩

/-- A call ends in one place only. -/
theorem EndsWith.le_of_waits (h : g.EndsWith around register scene n d) {m : Nat}
    (hwaits : g.Waits around register scene m) : m ≤ n := by
  by_contra hlt
  obtain ⟨⟨pause, hpending⟩, hgo⟩ := hwaits n (Nat.not_le.1 hlt)
  cases h with
  | minted h | regressed h => rw [hpending] at h; cases h
  | cancelled h hyes => rw [hgo] at hyes; cases hyes

/-- Where a call ends, it returns as soon as it may make that many attempts. -/
theorem next_of_endsWith (hwaits : g.Waits around register scene n)
    (hend : g.EndsWith around register scene n d) (fuel : Nat) :
    g.next around fuel register scene = if n < fuel then some d else none := by
  split_ifs with hfuel
  · exact next_eq_some_iff_endsWith.2 ⟨n, hfuel, hwaits, hend⟩
  · refine Option.eq_none_iff_forall_ne_some.2 fun d' h => ?_
    obtain ⟨m, hm, -, hend'⟩ := next_eq_some_iff_endsWith.1 h
    exact hfuel (Nat.lt_of_le_of_lt (hend'.le_of_waits hwaits) hm)

/-- An attempt with an id or an error ends the call, and so does one that is followed by a yes. -/
theorem exists_endsWith
    (h : (∀ pause, (g.attempt around register scene n).outcome ≠ .ok (.pending pause)) ∨
      around.answer n scene = true) : ∃ d, g.EndsWith around register scene n d := by
  cases hout : (g.attempt around register scene n).outcome with
  | error e =>
    obtain ⟨now, last, rfl⟩ := poll_error hout
    exact ⟨_, .regressed hout⟩
  | ok status =>
    cases status with
    | ready id => exact ⟨_, .minted hout⟩
    | pending pause =>
      rcases h with hnot | hyes
      · exact absurd hout (hnot pause)
      · exact ⟨_, .cancelled hout hyes⟩

theorem exists_endsWith_le (g : Generator) (register : Int64) {k : Nat}
    (h : (∀ pause, (g.attempt around register scene k).outcome ≠ .ok (.pending pause)) ∨
      around.answer k scene = true) :
    ∃ n ≤ k, g.Waits around register scene n ∧ ∃ d, g.EndsWith around register scene n d := by
  induction k using Nat.strongRecOn with
  | ind k ih =>
    by_cases hwaits : g.Waits around register scene k
    · exact ⟨k, Nat.le_refl k, hwaits, exists_endsWith h⟩
    · simp only [Waits, not_forall] at hwaits
      obtain ⟨m, hm, hstop⟩ := hwaits
      obtain ⟨n, hn, hends⟩ := ih m hm (by
        by_contra hnot
        push Not at hnot
        exact hstop ⟨hnot.1, by simpa using hnot.2⟩)
      exact ⟨n, Nat.le_trans hn (Nat.le_of_lt hm), hends⟩

/-! ## Readings -/

mutual

/-- An attempt takes a reading, and each attempt nested in it takes one. -/
theorem length_readings (register : Int64) : ∀ tick : Tick,
    tick.readings.length = (g.poll register tick).nested.length + 1
  | .mk during reading => by
    rw [Tick.readings, poll, List.length_append, length_readingsAll register during]
    rfl

theorem length_readingsAll (register : Int64) : ∀ ticks : List Tick,
    (Tick.readingsAll ticks).length = (g.pollAll register ticks).outcomes.length
  | [] => rfl
  | tick :: ticks => by
    rw [Tick.readingsAll, pollAll, List.length_append, length_readings register tick,
      length_readingsAll _ ticks, List.length_append, List.length_append]
    rfl

end

theorem length_readings_ticks (n : Nat) (register : Int64) (scene : σ) :
    (Tick.readingsAll (around.ticks (n + 1) scene)).length =
      n + 1 + (g.along around register scene n Attempt.nested).length := by
  induction n generalizing register scene with
  | zero =>
    rw [along_zero, Surroundings.ticks, Surroundings.ticks, Tick.readingsAll, Tick.readingsAll,
      List.append_nil, length_readings (g := g) register]
    omega
  | succ n ih =>
    rw [along_succ, Surroundings.ticks, Tick.readingsAll, List.length_append, List.length_append,
      length_readings (g := g) register, ih (g.poll register (around.tick scene).1).register]
    omega

theorem length_readingsAll_of_plain {ticks : List Tick} (h : ∀ tick ∈ ticks, tick.during = []) :
    (Tick.readingsAll ticks).length = ticks.length := by
  induction ticks with
  | nil => rfl
  | cons tick ticks ih =>
    obtain ⟨htick, hticks⟩ := List.forall_mem_cons.1 h
    obtain ⟨during, reading⟩ := tick
    obtain rfl : during = [] := htick
    rw [Tick.readingsAll, Tick.readings, List.length_append, ih hticks]
    exact Nat.add_comm 1 ticks.length

theorem length_ticks (n : Nat) (scene : σ) : (around.ticks n scene).length = n := by
  induction n generalizing scene with
  | zero => rfl
  | succ n ih => rw [Surroundings.ticks, List.length_cons, ih]

/-! ## Calls -/

/-- **Waiting.** A call returns exactly if one of the attempts that it may make has an id or an
error, or is followed by a yes; it returns what the first such attempt brings, after a question for
each attempt that had neither. An id that is there at once needs no question, whatever the answer
would be. The clock is read once for each attempt of the call, and once for each that is made
meanwhile. -/
theorem next_ends_first (g : Generator) (around : Surroundings σ) (register : Int64) (scene : σ)
    (fuel : Nat) :
    (∀ d, g.next around fuel register scene = some d ↔
      ∃ n < fuel, g.Waits around register scene n ∧ g.EndsWith around register scene n d) ∧
    (∀ id, (g.poll register (around.tick scene).1).outcome = .ok (.ready id) →
      ∃ d, g.next around (fuel + 1) register scene = some d ∧ d.outcome = .ok id ∧
        d.attempts = 1 ∧ d.questions = 0 ∧ d.scene = (around.tick scene).2) ∧
    ∀ d, g.next around fuel register scene = some d →
      (Tick.readingsAll (around.ticks d.attempts scene)).length = d.attempts + d.nested.length ∧
      ((∀ tick ∈ around.ticks d.attempts scene, tick.during = []) →
        (Tick.readingsAll (around.ticks d.attempts scene)).length = d.attempts) := by
  refine ⟨fun d => next_eq_some_iff_endsWith, fun id hid => ?_, fun d hd => ⟨?_, fun hplain => ?_⟩⟩
  · exact ⟨_, next_eq_some_iff_endsWith.2 ⟨0, Nat.succ_pos fuel, nofun, .minted hid⟩, rfl, rfl, rfl,
      rfl⟩
  · obtain ⟨n, -, -, hend⟩ := next_eq_some_iff_endsWith.1 hd
    cases hend with
    | minted | regressed | cancelled => exact length_readings_ticks n register scene
  · rw [length_readingsAll_of_plain hplain, length_ticks]

/-- A clock that stands still for a reading and then has another attempt win. -/
def contended : Nat → Tick
  | 0 => .plain 1003
  | 1 => .mk [.plain 1004] 1004
  | _ => .plain 1004

/-- With the millisecond used up, the third attempt has an id, and the yes that would follow it is
never asked for. An id that is there at once is returned although every answer is yes. -/
theorem contended_ends_third :
    (∃ d, paired.next (.streams contended (· == 2)) 3 13 (0, 0) = some d ∧ d.outcome = .ok 19 ∧
      d.attempts = 3 ∧ d.questions = 2 ∧ d.nested = [.ok (.ready 18)] ∧
      (Tick.readingsAll ((Surroundings.streams contended (· == 2)).ticks 3 (0, 0))).length = 4) ∧
    ∃ d, paired.next (.streams (fun _ => .plain 1005) fun _ => true) 1 13 (0, 0) = some d ∧
      d.outcome = .ok 22 ∧ d.attempts = 1 ∧ d.questions = 0 ∧ d.scene = (1, 0) := by
  obtain ⟨hends, -, hreadings⟩ := next_ends_first paired (.streams contended (· == 2)) 13 (0, 0) 3
  have hwaits : paired.Waits (.streams contended (· == 2)) 13 (0, 0) 2 := by
    intro k hk
    match k with
    | 0 => exact ⟨⟨1, by decide⟩, by decide⟩
    | 1 => exact ⟨⟨0, by decide⟩, by decide⟩
  have hid : (paired.attempt (.streams contended (· == 2)) 13 (0, 0) 2).outcome =
      .ok (.ready 19) := by decide
  have hdraw := (hends _).2 ⟨2, by decide, hwaits, .minted hid⟩
  refine ⟨⟨_, hdraw, rfl, rfl, rfl, by decide, (hreadings _ hdraw).1⟩, ?_⟩
  exact (next_ends_first paired (.streams (fun _ => .plain 1005) fun _ => true) 13 (0, 0) 0).2.1 22
    (by decide)

end Snowflake.Generator
