import Snowflake.Proofs.Recording

/-!
# Nested attempts are interleaved ones

Taking a reading may make attempts on the very generator that reads. Such an attempt begins when
the outer one has loaded and ends before the outer one has its reading, so it is no different from
an attempt of another caller that happens to fall there. Callers stand for attempts, not for
threads: attempts nested `n` deep are the interleaved attempts of `n` callers.

**Theorem (`run_accessesAll`).** Whole attempts with all that is nested in them are a run of as many
callers as they are deep, from any state in which so many callers are idle. The run takes the same
readings in the same order, ends with the same register, and gives every attempt its outcome.

So all that is proved of runs holds of nested attempts, and whatever runs do to one another's
attempts, nested ones may do as well.
-/

namespace Snowflake

namespace Tick

mutual

/-- How many attempts are under way at the most while this one is made. -/
def depth : Tick → Nat
  | .mk during _ => depthAll during + 1

/-- How many are at the most while these are made one after the other. -/
def depthAll : List Tick → Nat
  | [] => 0
  | tick :: ticks => max tick.depth (depthAll ticks)

end

mutual

/-- The readings of an attempt and of those nested in it, in the order in which they are taken. -/
def readings : Tick → List Int64
  | .mk during reading => readingsAll during ++ [reading]

/-- The readings of attempts one after the other. -/
def readingsAll : List Tick → List Int64
  | [] => []
  | tick :: ticks => tick.readings ++ readingsAll ticks

end

end Tick

namespace Generator

variable {g : Generator} {s s' : Shared} {i : Nat}

/-! ## Schedules of nested attempts -/

/-- What follows the load of an attempt and the attempts nested in it: the reading, and the
exchange if one is proposed. -/
def closingAccesses (g : Generator) (seen : Int64) (i : Nat) (reading : Int64) :
    List (Nat × Access) :=
  (i, .read reading) :: match g.propose seen reading with
    | .commit _ => [(i, .exchange)]
    | _ => []

mutual

/-- The accesses of an attempt by caller `i`, and of those nested in it by the callers after `i`. -/
def accesses (g : Generator) (register : Int64) (i : Nat) : Tick → List (Nat × Access)
  | .mk during reading =>
    (i, .load) :: (g.accessesAll register (i + 1) during ++ g.closingAccesses register i reading)

/-- The accesses of attempts by caller `i` one after the other. -/
def accessesAll (g : Generator) (register : Int64) (i : Nat) : List Tick → List (Nat × Access)
  | [] => []
  | tick :: ticks =>
    g.accesses register i tick ++ g.accessesAll (g.poll register tick).register i ticks

end

theorem readings_append (moves moves' : List (Nat × Access)) :
    readings (moves ++ moves') = readings moves ++ readings moves' :=
  List.filterMap_append

theorem readings_closingAccesses (seen : Int64) (i : Nat) (reading : Int64) :
    readings (g.closingAccesses seen i reading) = [reading] := by
  unfold closingAccesses
  cases g.propose seen reading <;> rfl

mutual

theorem readings_accesses (register : Int64) (i : Nat) :
    ∀ tick, readings (g.accesses register i tick) = tick.readings
  | .mk during reading => by
    have hload (moves : List (Nat × Access)) :
        readings ((i, .load) :: moves) = readings moves := rfl
    rw [accesses, Tick.readings, hload, readings_append, readings_closingAccesses,
      readings_accessesAll register (i + 1) during]

theorem readings_accessesAll (register : Int64) (i : Nat) :
    ∀ ticks, readings (g.accessesAll register i ticks) = Tick.readingsAll ticks
  | [] => rfl
  | tick :: ticks => by
    rw [accessesAll, Tick.readingsAll, readings_append, readings_accesses register i tick,
      readings_accessesAll _ i ticks]

end

/-! ## Running them -/

/-- An attempt with those nested in it, as a sequence of attempts. -/
def Attempt.all (a : Attempt) : Attempts := ⟨a.register, a.nested ++ [a.outcome], a.events⟩

/-- The attempts lead from one state to another, in which every caller is where it was. -/
structure Attempts.Leads (a : Attempts) (s s' : Shared) : Prop where
  register : s'.register = a.register
  phases : s'.phases = s.phases
  outcomes : s'.history.map Ended.outcome = s.history.map Ended.outcome ++ a.outcomes
  events : s'.events = s.events ++ a.events

theorem run_append (s : Shared) (moves moves' : List (Nat × Access)) :
    s.run g (moves ++ moves') = (s.run g moves).bind fun s => s.run g moves' := by
  induction moves generalizing s with
  | nil => rfl
  | cons move moves ih =>
    rw [List.cons_append, Shared.run, Shared.run]
    cases s.step? g move with
    | none => rfl
    | some s' => exact ih s'

theorem run_cons_of_advance {phase : Phase} {access : Access} {a : Advance}
    (h : s.phases[i]? = some phase) (ha : g.advance? s.register phase access = some a)
    (moves : List (Nat × Access)) :
    s.run g ((i, access) :: moves) = (s.after i a).run g moves := by
  rw [Shared.run, Shared.step?, h, Option.bind_some, ha, Option.map_some, Option.bind_some]
  rfl

/-- The state after caller `i`, which had seen this word, ended its attempt on this reading. -/
def Shared.settled (s : Shared) (g : Generator) (i : Nat) (seen reading : Int64) : Shared where
  register := (g.settle seen s.register reading).register
  phases := s.phases.set i .idle
  history := s.history ++ [⟨i, (g.settle seen s.register reading).outcome⟩]
  events := s.events ++ (g.settle seen s.register reading).events

theorem run_closingAccesses {seen : Int64} (h : s.phases[i]? = some (.loaded seen))
    (reading : Int64) :
    s.run g (g.closingAccesses seen i reading) = some (s.settled g i seen reading) := by
  obtain ⟨hi, -⟩ := List.getElem?_eq_some_iff.1 h
  have hread : ∀ {a}, g.advance? s.register (.loaded seen) (.read reading) = some a → ∀ moves,
      s.run g ((i, .read reading) :: moves) = (s.after i a).run g moves :=
    fun ha => run_cons_of_advance h ha
  unfold closingAccesses
  cases hp : g.propose seen reading with
  | commit next =>
    -- The exchange follows at once, so the register is still what it was at the reading.
    have hproposing :
        (s.after i { register := s.register, phase := .proposing seen next }).phases[i]? =
          some (.proposing seen next) := by
      rw [Shared.after, List.getElem?_set_self hi]
    rw [hread (by simp only [advance?, hp]; rfl), run_cons_of_advance hproposing rfl]
    simp [Shared.run, Shared.after, Shared.settled, settle, hp, commit]
  | exhausted =>
    rw [hread (by simp only [advance?, hp]; rfl)]
    simp [Shared.run, Shared.after, Shared.settled, settle, hp]
  | regressed now last =>
    rw [hread (by simp only [advance?, hp]; rfl)]
    simp [Shared.run, Shared.after, Shared.settled, settle, hp]

mutual

/-- An attempt on its own, with all that is nested in it, is a run of callers that were idle. -/
theorem run_accesses : ∀ (tick : Tick) (s : Shared) (i : Nat),
    (∀ j, i ≤ j → j < i + tick.depth → s.phases[j]? = some .idle) →
      ∃ s', s.run g (g.accesses s.register i tick) = some s' ∧
        (g.poll s.register tick).all.Leads s s'
  | .mk during reading, s, i, h => by
    have hi : s.phases[i]? = some .idle := h i (Nat.le_refl i) (by rw [Tick.depth]; omega)
    obtain ⟨hlen, hidle⟩ := List.getElem?_eq_some_iff.1 hi
    let s₀ := s.after i { register := s.register, phase := .loaded s.register }
    have hinner : ∀ j, i + 1 ≤ j → j < i + 1 + Tick.depthAll during →
        s₀.phases[j]? = some .idle := by
      intro j hij hj
      show (s.phases.set i _)[j]? = some .idle
      rw [List.getElem?_set_ne (by omega)]
      exact h j (by omega) (by rw [Tick.depth]; omega)
    obtain ⟨s₁, hrun, hleads⟩ := run_accessesAll during s₀ (i + 1) hinner
    have hseen : s₁.phases[i]? = some (.loaded s.register) := by
      rw [hleads.phases]
      exact List.getElem?_set_self hlen
    refine ⟨s₁.settled g i s.register reading, ?_, ?_, ?_, ?_, ?_⟩
    · rw [accesses, run_cons_of_advance hi rfl, run_append]
      exact (congrArg (Option.bind · _) hrun).trans (run_closingAccesses hseen reading)
    · rw [poll, Shared.settled, hleads.register]
      rfl
    · show s₁.phases.set i .idle = s.phases
      rw [hleads.phases]
      show (s.phases.set i _).set i .idle = s.phases
      rw [List.set_set, ← hidle, List.set_getElem_self]
    · rw [poll, Shared.settled, List.map_append, hleads.outcomes, hleads.register]
      simp [Attempt.all, s₀, Shared.after]
    · rw [poll, Shared.settled, hleads.events, hleads.register]
      simp [Attempt.all, s₀, Shared.after]

/-- **Nesting.** So are attempts one after the other. -/
theorem run_accessesAll : ∀ (ticks : List Tick) (s : Shared) (i : Nat),
    (∀ j, i ≤ j → j < i + Tick.depthAll ticks → s.phases[j]? = some .idle) →
      ∃ s', s.run g (g.accessesAll s.register i ticks) = some s' ∧
        (g.pollAll s.register ticks).Leads s s'
  | [], s, i, _ => ⟨s, rfl, rfl, rfl, by simp [pollAll], by simp [pollAll]⟩
  | tick :: ticks, s, i, h => by
    obtain ⟨s₁, hrun₁, h₁⟩ := run_accesses tick s i fun j hij hj =>
      h j hij (by rw [Tick.depthAll]; omega)
    obtain ⟨s₂, hrun₂, h₂⟩ := run_accessesAll ticks s₁ i fun j hij hj => by
      rw [h₁.phases]
      exact h j hij (by rw [Tick.depthAll]; omega)
    have hreg : s₁.register = (g.poll s.register tick).register := h₁.register
    rw [hreg] at hrun₂ h₂
    refine ⟨s₂, ?_, ?_, ?_, ?_, ?_⟩
    · rw [accessesAll, run_append, hrun₁, Option.bind_some, hrun₂]
    · rw [h₂.register, pollAll]
    · rw [h₂.phases, h₁.phases]
    · rw [h₂.outcomes, h₁.outcomes, pollAll, List.append_assoc]
      rfl
    · rw [h₂.events, h₁.events, pollAll, List.append_assoc]
      rfl

end

end Generator

end Snowflake
