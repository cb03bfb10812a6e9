import Mathlib.Tactic.SplitIfs
import Snowflake.Generator.Interleaving

/-!
# One attempt

What an attempt means to do is decided by comparing its reading with the timestamp of the word it
saw (`propose_of_lt`, `propose_of_eq`, `propose_of_gt`). On its own it either commits the word it
proposes (`settle_commit`) or leaves the register as it is (`settle_refuse`). Of attempts one after
the other, the first does what it would do on its own and hands its register to the others
(`pollAll_plain_cons`).

**Steps.** Where attempts are interleaved, `Advances` lists what one access can lead to; every
invariant of runs is proved by these five cases.
-/

namespace Snowflake.Generator

variable {g : Generator} {register : Int64} {phase : Phase} {access : Access} {a : Advance}

/-! ## Proposals -/

section Propose

variable {w reading : Int64}

theorem propose_of_lt (h : g.layout.timestampOf w < g.relative reading) :
    g.propose w reading = .commit (g.layout.placeTimestamp (g.relative reading)) := by
  simp only [propose, if_pos h]

theorem propose_of_eq (h : g.relative reading = g.layout.timestampOf w) :
    g.propose w reading =
      if g.layout.sequenceOf w < g.layout.maxSequence then .commit (w + 1) else .exhausted := by
  have hnot : ¬g.layout.timestampOf w < g.relative reading := h ▸ Int64.lt_irrefl
  simp only [propose, if_neg hnot, if_pos h]

theorem propose_of_gt (h : g.relative reading < g.layout.timestampOf w) :
    g.propose w reading = .regressed (g.relative reading) (g.layout.timestampOf w) := by
  have hnot : ¬g.layout.timestampOf w < g.relative reading := Int64.lt_asymm h
  simp only [propose, if_neg hnot, if_neg (Int64.ne_of_lt h)]

theorem propose_eq_exhausted_iff :
    g.propose w reading = .exhausted ↔ g.relative reading = g.layout.timestampOf w ∧
      ¬g.layout.sequenceOf w < g.layout.maxSequence := by
  rcases Std.lt_trichotomy (g.layout.timestampOf w) (g.relative reading) with h | h | h
  · simp [propose_of_lt h, (Int64.ne_of_lt h).symm]
  · rw [propose_of_eq h.symm]
    split_ifs with hleft
    · simp [hleft]
    · simp [hleft, h]
  · simp [propose_of_gt h, Int64.ne_of_lt h]

theorem propose_eq_regressed_iff {now last : Int64} :
    g.propose w reading = .regressed now last ↔ g.relative reading < g.layout.timestampOf w ∧
      g.relative reading = now ∧ g.layout.timestampOf w = last := by
  rcases Std.lt_trichotomy (g.layout.timestampOf w) (g.relative reading) with h | h | h
  · simp [propose_of_lt h, Int64.lt_asymm h]
  · rw [propose_of_eq h.symm, h]
    split_ifs <;> simp [Int64.lt_irrefl]
  · simp [propose_of_gt h, h]

/-- An attempt fails on a reading before the timestamp of the word it saw, and for that alone. -/
theorem settle_error {held : Int64} {e : Error} (h : (g.settle w held reading).outcome = .error e) :
    g.relative reading < g.layout.timestampOf w ∧
      e = .clockRegressed (g.relative reading) (g.layout.timestampOf w) := by
  unfold settle at h
  split at h
  · cases h
  · cases h
  · rename_i now last hp
    obtain ⟨hlt, rfl, rfl⟩ := propose_eq_regressed_iff.1 hp
    exact ⟨hlt, (Except.error.inj h).symm⟩

end Propose

/-! ## Attempts on their own -/

theorem settle_commit {w reading next : Int64} (h : g.propose w reading = .commit next) :
    g.settle w w reading = { register := next, outcome := .ok (.ready (next ||| g.stamp)) } := by
  simp [settle, h, commit, Register.exchange]

theorem settle_exhausted {w reading : Int64} (h : g.propose w reading = .exhausted) :
    g.settle w w reading = { register := w, outcome := .ok (.pending 1) } := by
  simp only [settle, h]

theorem settle_regressed {w reading now last : Int64}
    (h : g.propose w reading = .regressed now last) :
    g.settle w w reading =
      { register := w, outcome := .error (.clockRegressed now last)
        events := [.clockRegressed now last] } := by
  simp only [settle, h]

theorem settle_refuse {w reading : Int64} (h : ∀ next, g.propose w reading ≠ .commit next) :
    (g.settle w w reading).register = w ∧
      ((g.settle w w reading).outcome = .ok (.pending 1) ∨
        ∃ now last, (g.settle w w reading).outcome = .error (.clockRegressed now last)) := by
  cases hp : g.propose w reading with
  | commit next => exact absurd hp (h next)
  | exhausted =>
    rw [settle_exhausted hp]
    exact ⟨rfl, Or.inl rfl⟩
  | regressed now last =>
    rw [settle_regressed hp]
    exact ⟨rfl, Or.inr ⟨now, last, rfl⟩⟩

theorem settle_refuse_id? {w reading : Int64} (h : ∀ next, g.propose w reading ≠ .commit next) :
    (g.settle w w reading).outcome.toOption.bind Status.id? = none := by
  rcases (settle_refuse h).2 with hout | ⟨now, last, hout⟩ <;> rw [hout] <;> rfl

theorem poll_plain (w reading : Int64) : g.poll w (.plain reading) = g.settle w w reading := by
  simp only [Tick.plain, poll, pollAll, List.nil_append, settle]
  split <;> rfl

/-! ## Attempts one after the other -/

/-- The first of several attempts during whose readings nothing happens. -/
theorem pollAll_plain_cons (w reading : Int64) (ticks : List Tick) :
    (g.pollAll w (.plain reading :: ticks)).register =
        (g.pollAll (g.settle w w reading).register ticks).register ∧
      (g.pollAll w (.plain reading :: ticks)).outcomes = (g.settle w w reading).outcome ::
        (g.pollAll (g.settle w w reading).register ticks).outcomes := by
  have hnested : (g.settle w w reading).nested = [] := by unfold settle; split <;> rfl
  simp [pollAll, poll_plain, hnested]

/-! ## One access among others -/

/-- What one access of an attempt can lead to. -/
inductive Advances (g : Generator) (register : Int64) : Phase → Access → Advance → Prop where
  | load : Advances g register .idle .load { register, phase := .loaded register }
  | propose {seen reading next : Int64} (h : g.propose seen reading = .commit next) :
      Advances g register (.loaded seen) (.read reading)
        { register, phase := .proposing seen next }
  /-- The reading ends the attempt, as it would have ended at once on the word it saw. -/
  | refuse {seen reading : Int64} (h : ∀ next, g.propose seen reading ≠ .commit next) :
      Advances g register (.loaded seen) (.read reading)
        { register, phase := .idle, ended := some (g.settle seen seen reading).outcome
          events := (g.settle seen seen reading).events }
  | win {next : Int64} :
      Advances g register (.proposing register next) .exchange
        { register := next, phase := .idle, ended := some (.ok (.ready (next ||| g.stamp))) }
  | lose {seen next : Int64} (h : register ≠ seen) :
      Advances g register (.proposing seen next) .exchange
        { register, phase := .idle, ended := some (.ok (.pending 0)) }

theorem advances_of_advance? (h : g.advance? register phase access = some a) :
    Advances g register phase access a := by
  cases phase with
  | idle => cases access with
    | load => exact Option.some.inj h ▸ .load
    | _ => cases h
  | loaded seen => cases access with
    | read reading =>
      simp only [advance?] at h
      split at h
      next next hp => exact Option.some.inj h ▸ .propose hp
      next hp =>
        have hend : Advances g register (.loaded seen) (.read reading) _ := .refuse (by simp [hp])
        simp only [settle, hp] at hend
        exact Option.some.inj h ▸ hend
      next now last hp =>
        have hend : Advances g register (.loaded seen) (.read reading) _ := .refuse (by simp [hp])
        simp only [settle, hp] at hend
        exact Option.some.inj h ▸ hend
    | _ => cases h
  | proposing seen next => cases access with
    | exchange =>
      simp only [advance?, commit, Register.exchange] at h
      by_cases hs : register = seen
      · subst hs
        simp only [if_true] at h
        exact Option.some.inj h ▸ .win
      · simp only [if_neg hs] at h
        exact Option.some.inj h ▸ .lose hs
    | _ => cases h

/-- The state after an access of caller `i` that led to `a`. -/
def Shared.after (s : Shared) (i : Nat) (a : Advance) : Shared where
  register := a.register
  phases := s.phases.set i a.phase
  history := s.history ++ (a.ended.map fun outcome => ⟨i, outcome⟩).toList
  events := s.events ++ a.events

/-- A step is one of the five kinds of access. -/
theorem Shared.step?_cases {s s' : Shared} {i : Nat} (h : s.step? g (i, access) = some s') :
    ∃ phase a, s.phases[i]? = some phase ∧ Advances g s.register phase access a ∧
      s' = s.after i a := by
  obtain ⟨phase, hphase, h⟩ := Option.bind_eq_some_iff.1 h
  obtain ⟨a, ha, rfl⟩ := Option.map_eq_some_iff.1 h
  exact ⟨phase, a, hphase, advances_of_advance? ha, rfl⟩

/-- A generator for two nodes that each have two ids a millisecond, with an offset of a second. -/
def paired : Generator := ⟨⟨1, 1, by decide⟩, 1, 1000, by decide, by decide, by decide⟩

end Snowflake.Generator
