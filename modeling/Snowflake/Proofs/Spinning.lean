import Mathlib.Data.Nat.Find
import Snowflake.Proofs.Waiting

/-!
# When a spinning caller returns

On its own, with the sequence numbers of a millisecond used up and a clock that stands still, a
caller makes the same attempt again and again: none of them changes the register
(`attempt_of_exhausted`). The first reading that is not the timestamp of the register ends this, and
so does any reading if there are sequence numbers left (`FirstMove`).

**Theorem (`spin_ends`).** Without a yes to its questions the caller returns exactly if there is
such a reading, with the attempt that takes it: with the id of the word that follows (`successor`),
or with an error if the reading is before the timestamp of the register. With a yes it returns by
the attempt before that question, on any clock.
-/

namespace Snowflake.Generator

variable {g : Generator} {w reading : Int64} {readings : Nat → Int64} {ticks : Nat → Tick}
  {answers : Nat → Bool} {j n t q : Nat}

/-! ## Streams -/

theorem later_streams (n t q : Nat) :
    (Surroundings.streams ticks answers).later n (t, q) = (t + n, q + n) := by
  induction n generalizing t q with
  | zero => rfl
  | succ n ih =>
    have hrest := ih (t + 1) (q + 1)
    rw [Nat.add_right_comm t 1 n, Nat.add_right_comm q 1 n] at hrest
    exact hrest

theorem answer_streams (n t q : Nat) :
    (Surroundings.streams ticks answers).answer n (t, q) = answers (q + n) := by
  rw [Surroundings.answer, Surroundings.read, later_streams]
  rfl

/-- The surroundings of a caller on its own: a reading for each attempt, an answer for each
question. -/
def Surroundings.alone (readings : Nat → Int64) (answers : Nat → Bool) : Surroundings (Nat × Nat) :=
  .streams (fun k => .plain (readings k)) answers

/-! ## Attempts that change nothing -/

theorem attempt_of_exhausted (h : ∀ i < n, g.propose w (readings (t + i)) = .exhausted) :
    g.attempt (.alone readings answers) w (t, q) n = g.settle w w (readings (t + n)) := by
  induction n generalizing t q with
  | zero => exact poll_plain w (readings t)
  | succ n ih =>
    have hexhausted : g.propose w (readings t) = .exhausted := h 0 (Nat.succ_pos n)
    have hfirst : (g.poll w (.plain (readings t))).register = w := by
      rw [poll_plain, settle_exhausted hexhausted]
    have hrest := ih (t := t + 1) (q := q + 1) fun i hi => by
      rw [Nat.add_right_comm t 1 i]
      exact h (i + 1) (Nat.succ_lt_succ hi)
    rw [Nat.add_right_comm t 1 n] at hrest
    rw [attempt_succ]
    show g.attempt _ (g.poll w (.plain (readings t))).register (t + 1, q + 1) n = _
    rw [hfirst]
    exact hrest

theorem attempt_alone (h : ∀ i < n, g.propose w (readings i) = .exhausted) :
    g.attempt (.alone readings answers) w (0, 0) n = g.settle w w (readings n) := by
  rw [attempt_of_exhausted fun i hi => by rw [Nat.zero_add]; exact h i hi, Nat.zero_add]

theorem waits_of_exhausted (h : ∀ i < n, g.propose w (readings i) = .exhausted)
    (hanswers : ∀ i < n, answers i = false) :
    g.Waits (.alone readings answers) w (0, 0) n := by
  intro k hk
  rw [attempt_alone fun i hi => h i (Nat.lt_trans hi hk), settle_exhausted (h k hk),
    Surroundings.alone, answer_streams, Nat.zero_add]
  exact ⟨⟨1, rfl⟩, hanswers k hk⟩

/-- A caller for whom there is nothing to do and who is not called off does not return. -/
theorem next_of_exhausted (h : ∀ i, g.propose w (readings i) = .exhausted) (fuel : Nat) :
    g.next (.alone readings fun _ => false) fuel w (0, 0) = none := by
  refine Option.eq_none_iff_forall_ne_some.2 fun d hd => ?_
  obtain ⟨n, hn, -, hend⟩ := next_eq_some_iff_endsWith.1 hd
  have hwaits : g.Waits (.alone readings fun _ => false) w (0, 0) (n + 1) :=
    waits_of_exhausted (fun i _ => h i) fun _ _ => rfl
  exact Nat.not_succ_le_self n (hend.le_of_waits hwaits)

/-! ## The first attempt that does something -/

/-- The first attempt that has an id to offer or an error: the first of all if there are sequence
numbers left, and else the first whose reading is not the timestamp of the register. -/
def FirstMove (g : Generator) (w : Int64) (readings : Nat → Int64) (j : Nat) : Prop :=
  if g.layout.sequenceOf w < g.layout.maxSequence then j = 0
  else g.relative (readings j) ≠ g.layout.timestampOf w ∧
    ∀ i < j, g.relative (readings i) = g.layout.timestampOf w

theorem FirstMove.exhausted (h : g.FirstMove w readings j) {i : Nat} (hi : i < j) :
    g.propose w (readings i) = .exhausted := by
  unfold FirstMove at h
  split_ifs at h with hleft
  · omega
  · exact propose_eq_exhausted_iff.2 ⟨h.2 i hi, hleft⟩

theorem FirstMove.not_exhausted (h : g.FirstMove w readings j) :
    g.propose w (readings j) ≠ .exhausted := by
  unfold FirstMove at h
  rw [Ne, propose_eq_exhausted_iff]
  split_ifs at h with hleft
  · exact fun hexhausted => hexhausted.2 hleft
  · exact fun hexhausted => h.1 hexhausted.1

theorem exists_firstMove_iff :
    (∃ j, g.FirstMove w readings j) ↔
      (∃ j, g.relative (readings j) ≠ g.layout.timestampOf w) ∨
        g.layout.sequenceOf w < g.layout.maxSequence := by
  unfold FirstMove
  split_ifs with hleft
  · simp [hleft]
  · simp only [hleft, or_false]
    constructor
    · rintro ⟨j, hj, -⟩
      exact ⟨j, hj⟩
    · intro h
      refine ⟨Nat.find h, Nat.find_spec h, fun i hi => ?_⟩
      by_contra hne
      exact Nat.find_min h hi hne

/-- The word that follows `w` on a reading that is not before its timestamp: the first of a later
millisecond, or the next one of the same. -/
def successor (g : Generator) (w reading : Int64) : Int64 :=
  if g.layout.timestampOf w < g.relative reading then
    g.layout.placeTimestamp (g.relative reading)
  else w + 1

/-- What an attempt leaves that has something to do. -/
theorem settle_of_not_exhausted (h : g.propose w reading ≠ .exhausted) :
    (g.layout.timestampOf w ≤ g.relative reading ∧ g.settle w w reading =
        { register := g.successor w reading
          outcome := .ok (.ready (g.successor w reading ||| g.stamp)) }) ∨
      g.relative reading < g.layout.timestampOf w ∧ g.settle w w reading =
        { register := w
          outcome := .error (.clockRegressed (g.relative reading) (g.layout.timestampOf w))
          events := [.clockRegressed (g.relative reading) (g.layout.timestampOf w)] } := by
  rcases Std.lt_trichotomy (g.layout.timestampOf w) (g.relative reading) with hlt | heq | hgt
  · refine Or.inl ⟨Int64.le_of_lt hlt, ?_⟩
    rw [settle_commit (propose_of_lt hlt), successor, if_pos hlt]
  · have hnot : ¬g.layout.timestampOf w < g.relative reading := heq ▸ Int64.lt_irrefl
    have hp := propose_of_eq heq.symm
    split_ifs at hp with hleft
    · refine Or.inl ⟨heq ▸ Int64.le_refl _, ?_⟩
      rw [settle_commit hp, successor, if_neg hnot]
    · exact absurd hp h
  · exact Or.inr ⟨hgt, settle_regressed (propose_of_gt hgt)⟩

/-- A caller that is not called off before returns with the first attempt that does something. -/
theorem FirstMove.next (h : g.FirstMove w readings j) (hanswers : ∀ i < j, answers i = false) :
    ∃ d, (∀ fuel, g.next (.alone readings answers) fuel w (0, 0) =
        if j < fuel then some d else none) ∧
      d.attempts = j + 1 ∧
      (g.layout.timestampOf w ≤ g.relative (readings j) →
        d.register = g.successor w (readings j) ∧
        d.outcome = .ok (g.successor w (readings j) ||| g.stamp)) ∧
      (g.relative (readings j) < g.layout.timestampOf w → d.register = w ∧ d.outcome =
        .error (.clockRegressed (g.relative (readings j)) (g.layout.timestampOf w))) := by
  have hwaits := waits_of_exhausted (fun i hi => h.exhausted hi) hanswers
  have hattempt : g.attempt (.alone readings answers) w (0, 0) j = g.settle w w (readings j) :=
    attempt_alone fun i hi => h.exhausted hi
  rcases settle_of_not_exhausted h.not_exhausted with ⟨hle, hleaves⟩ | ⟨hlt, hleaves⟩
  · rw [← hattempt] at hleaves
    exact ⟨_, next_of_endsWith hwaits (.minted (congrArg Attempt.outcome hleaves)), rfl,
      fun _ => ⟨congrArg Attempt.register hleaves, rfl⟩,
      fun hlt => absurd hle (Int64.not_le.2 hlt)⟩
  · rw [← hattempt] at hleaves
    exact ⟨_, next_of_endsWith hwaits (.regressed (congrArg Attempt.outcome hleaves)), rfl,
      fun hle => absurd hle (Int64.not_le.2 hlt),
      fun _ => ⟨congrArg Attempt.register hleaves, rfl⟩⟩

/-- **Spinning.** A caller on its own that is not called off returns exactly if the clock ever reads
another time than that of the register, or there are sequence numbers left. It makes as many
attempts as it takes to come to the first such reading, and ends with the word that follows the
register and its id, unless that reading is earlier, which leaves the register as it was. A caller
that is called off returns by the question that says so, on any clock. -/
theorem spin_ends (g : Generator) (w : Int64) (readings : Nat → Int64) :
    ((∃ fuel d, g.next (.alone readings fun _ => false) fuel w (0, 0) = some d) ↔
      (∃ j, g.relative (readings j) ≠ g.layout.timestampOf w) ∨
        g.layout.sequenceOf w < g.layout.maxSequence) ∧
    (∀ j, g.FirstMove w readings j → ∃ d,
      (∀ fuel, g.next (.alone readings fun _ => false) fuel w (0, 0) =
        if j < fuel then some d else none) ∧
      d.attempts = j + 1 ∧
      (g.layout.timestampOf w ≤ g.relative (readings j) →
        d.register = g.successor w (readings j) ∧
        d.outcome = .ok (g.successor w (readings j) ||| g.stamp)) ∧
      (g.relative (readings j) < g.layout.timestampOf w → d.register = w ∧ d.outcome =
        .error (.clockRegressed (g.relative (readings j)) (g.layout.timestampOf w)))) ∧
    ∀ (ticks : Nat → Tick) (answers : Nat → Bool) (k : Nat), answers k = true →
      ∃ d, d.attempts ≤ k + 1 ∧
        ∀ fuel, k < fuel → g.next (.streams ticks answers) fuel w (0, 0) = some d := by
  refine ⟨?_, fun j hj => hj.next fun _ _ => rfl, fun ticks answers k hyes => ?_⟩
  · rw [← exists_firstMove_iff]
    constructor
    · rintro ⟨fuel, d, hd⟩
      by_contra hnone
      rw [exists_firstMove_iff] at hnone
      obtain ⟨hstill, hfull⟩ := not_or.1 hnone
      have hexhausted : ∀ i, g.propose w (readings i) = .exhausted := fun i =>
        propose_eq_exhausted_iff.2 ⟨not_not.1 (not_exists.1 hstill i), hfull⟩
      rw [next_of_exhausted hexhausted] at hd
      cases hd
    · rintro ⟨j, hj⟩
      have hnever : ∀ i < j, (fun _ : Nat => false) i = false := fun _ _ => rfl
      obtain ⟨d, hd, -⟩ := hj.next hnever
      exact ⟨j + 1, d, by rw [hd, if_pos (Nat.lt_succ_self j)]⟩
  · have hstop : (Surroundings.streams ticks answers).answer k (0, 0) = true := by
      rw [answer_streams, Nat.zero_add, hyes]
    obtain ⟨n, hn, hwaits, d, hend⟩ := exists_endsWith_le g w (Or.inr hstop)
    refine ⟨d, ?_, fun fuel hfuel => ?_⟩
    · rw [hend.attempts_eq]
      exact Nat.succ_le_succ hn
    · rw [next_of_endsWith hwaits hend, if_pos (Nat.lt_of_le_of_lt hn hfuel)]

/-- A generator that has a single id a millisecond, and none for that of its offset. -/
def unnumbered : Generator := { paired with layout := ⟨1, 0, by decide⟩, nodeId_le := by decide }

/-- A clock that stands still for two readings. -/
def stalled (reading : Int64) : Nat → Int64 := fun k => if k < 2 then 1000 else reading

/-- From the start it waits for the clock to move, for an id or for an error. It waits for ever if
the clock never does, but not beyond the second question if this is answered by yes. -/
theorem unnumbered_spins :
    (∃ d, unnumbered.next (.alone (stalled 1001) fun _ => false) 2 0 (0, 0) = none ∧
      unnumbered.next (.alone (stalled 1001) fun _ => false) 3 0 (0, 0) = some d ∧
      d.attempts = 3 ∧ d.register = 2 ∧ d.outcome = .ok 3) ∧
    (∃ d, unnumbered.next (.alone (stalled 999) fun _ => false) 3 0 (0, 0) = some d ∧
      d.attempts = 3 ∧ d.register = 0 ∧ d.outcome = .error (.clockRegressed (-1) 0)) ∧
    (¬∃ fuel d, unnumbered.next (.alone (fun _ => 1000) fun _ => false) fuel 0 (0, 0) = some d) ∧
    ∃ d, d.attempts ≤ 2 ∧ ∀ fuel, 1 < fuel →
      unnumbered.next (.streams (fun _ => .plain 1000) (· == 1)) fuel 0 (0, 0) = some d := by
  have hfull : ¬unnumbered.layout.sequenceOf 0 < unnumbered.layout.maxSequence := by decide
  have hfirst : ∀ reading, unnumbered.relative reading ≠ 0 →
      unnumbered.FirstMove 0 (stalled reading) 2 := by
    intro reading hne
    rw [FirstMove, if_neg hfull]
    refine ⟨hne, fun i hi => ?_⟩
    rw [stalled, if_pos hi]
    decide
  obtain ⟨-, hmoves, -⟩ := spin_ends unnumbered 0 (stalled 1001)
  obtain ⟨d, hd, hattempts, hid, -⟩ := hmoves 2 (hfirst 1001 (by decide))
  obtain ⟨hregister, hid⟩ := hid (by decide)
  obtain ⟨-, hmoves, -⟩ := spin_ends unnumbered 0 (stalled 999)
  obtain ⟨d', hd', hattempts', -, herror⟩ := hmoves 2 (hfirst 999 (by decide))
  obtain ⟨hends, -, hasked⟩ := spin_ends unnumbered 0 fun _ => 1000
  refine ⟨⟨d, hd 2, hd 3, hattempts, hregister.trans (by decide), hid.trans rfl⟩,
    ⟨d', hd' 3, hattempts', herror (by decide)⟩, fun h => ?_, hasked _ _ 1 rfl⟩
  rcases hends.1 h with ⟨j, hj⟩ | hleft
  · exact hj (by decide)
  · exact hfull hleft

end Snowflake.Generator
