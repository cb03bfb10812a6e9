import Snowflake.Proofs.Standstill

/-!
# How many ids a clock yields

A single caller polls once for each reading of a clock that does not go back. Each millisecond is
then polled in one stretch, and what comes of it does not depend on the others: the first polls mint
the ids that follow the register, as many as there are left for this millisecond, and the rest are
told to wait (`answers`).

**Theorem (`polls_yield`).** On a fresh generator, a millisecond that is read `count` times yields
`count` ids, or all that there is room for if these are fewer: one for each sequence number, except
in the millisecond of the offset itself, where the register holds number zero already. No other poll
fails or loses a race.

The two laws of `answers` carry the induction on the readings: a poll takes the first of the answers
of its own millisecond (`Reached.answers_succ`), and leaves those of later ones alone
(`Reached.answers_later`).
-/

namespace Snowflake.Generator

open Word Layout

variable {g : Generator} {w reading later : Int64} {readings : List Int64} {count : Nat}

/-- What `count` polls at one reading are answered: the ids that follow the register, as long as
there are any, and then to wait. -/
def answers (g : Generator) (w reading : Int64) (count : Nat) : List Outcome :=
  (g.following w reading (min count (g.capacity w reading))).map (fun id => .ok (.ready id)) ++
    List.replicate (count - g.capacity w reading) (.ok (.pending 1))

/-- The outcomes of the polls at this reading, in order. -/
def outcomesAt (g : Generator) (w : Int64) (readings : List Int64) (reading : Int64) :
    List Outcome :=
  ((readings.zip ((g.polls w readings).map Attempt.outcome)).filter (·.1 = reading)).map Prod.snd

theorem answers_zero (w reading : Int64) : g.answers w reading 0 = [] := by
  simp [answers, following]

/-! ## Times that were reached -/

theorem reached_zero (h : 0 ≤ g.relative reading) : g.Reached reading 0 :=
  ⟨0, 0, holds_zero, Int64.le_iff_toInt_le.1 h⟩

theorem relative_lt_relative (h : 0 ≤ (g.relative reading).toInt) (hlt : reading < later) :
    (g.relative reading).toInt < (g.relative later).toInt := by
  rw [Int64.lt_iff_toInt_lt] at hlt
  rw [toInt_relative] at h ⊢
  rw [toInt_relative]
  omega

theorem Reached.of_lt (h : g.Reached reading w) (hlt : reading < later) : g.Reached later w := by
  have hrelative := relative_lt_relative h.nonneg hlt
  obtain ⟨t, q, hholds, hle⟩ := h
  exact ⟨t, q, hholds, by omega⟩

/-- The ids of a later millisecond do not depend on the register. -/
theorem answers_of_lt {t q : Nat} (h : g.layout.Holds w t q)
    (hlt : (t : Int) < (g.relative later).toInt) (count : Nat) :
    g.answers w later count = g.answers 0 later count := by
  have hword : g.layout.timestampOf w < g.relative later := by
    rw [Int64.lt_iff_toInt_lt, h.toInt_timestampOf]
    exact hlt
  have hzero : g.layout.timestampOf 0 < g.relative later := by
    rw [Int64.lt_iff_toInt_lt, (holds_zero (l := g.layout)).toInt_timestampOf]
    omega
  simp only [answers, following, capacity, nextSequence, if_pos hword, if_pos hzero]

/-! ## One poll -/

/-- Where no id is left, the clock has not moved on from the register's own timestamp. -/
theorem Reached.exhausted (h : g.Reached reading w) (hcap : g.capacity w reading = 0) :
    g.propose w reading = .exhausted ∧ ∃ q, g.layout.Holds w (g.timeOf reading) q := by
  obtain ⟨t, q, hholds, hle⟩ := h
  have hroom := nextSequence_add_capacity reading hholds
  rw [nextSequence_eq hholds, hcap] at hroom
  have hpos : 0 < 2 ^ g.layout.sequenceBits := by positivity
  rcases hle.lt_or_eq with hlt | heq
  · rw [if_pos hlt] at hroom
    omega
  · rw [if_neg (by omega)] at hroom
    have htime : g.timeOf reading = t := by rw [timeOf, ← heq, Int.toNat_natCast]
    exact ⟨by rw [propose_same hholds heq.symm, if_neg (by omega)], q, htime ▸ hholds⟩

theorem Reached.holds_settle (h : g.Reached reading w)
    (hmax : g.relative reading ≤ g.layout.maxTimestamp) :
    ∃ q, g.layout.Holds (g.settle w w reading).register (g.timeOf reading) q := by
  rcases Nat.eq_zero_or_pos (g.capacity w reading) with hcap | hcap
  · obtain ⟨hp, hholds⟩ := h.exhausted hcap
    rw [settle_exhausted hp]
    exact hholds
  · obtain ⟨next, hp⟩ := h.propose_eq_commit hcap
    rw [settle_commit hp]
    exact ⟨_, h.holds hmax hp⟩

/-- **Its own millisecond.** A poll takes the first of the answers. -/
theorem Reached.answers_succ (h : g.Reached reading w)
    (hmax : g.relative reading ≤ g.layout.maxTimestamp) (count : Nat) :
    g.answers w reading (count + 1) =
      (g.settle w w reading).outcome ::
        g.answers (g.settle w w reading).register reading count := by
  rcases Nat.eq_zero_or_pos (g.capacity w reading) with hcap | hcap
  · rw [settle_exhausted (h.exhausted hcap).1]
    simp only [answers, hcap, Nat.min_zero, Nat.sub_zero, List.replicate_succ]
    rfl
  · obtain ⟨next, hp⟩ := h.propose_eq_commit hcap
    have hnext := h.holds hmax hp
    have hcapacity := h.capacity_commit hmax hp
    have hfollowing : ∀ n, g.following w reading (n + 1) =
        (next ||| g.stamp) :: g.following next reading n := by
      intro n
      rw [following, List.range'_succ, List.map_cons, stamped_eq_encode hnext hmax h.nonneg,
        following, nextSequence_of_holds hnext h.nonneg]
    rw [settle_commit hp]
    simp only [answers, ← hcapacity, Nat.add_min_add_right, Nat.add_sub_add_right, hfollowing,
      List.map_cons, List.cons_append]

/-- **Later milliseconds.** A poll leaves their answers alone. -/
theorem Reached.answers_later (h : g.Reached reading w)
    (hmax : g.relative reading ≤ g.layout.maxTimestamp) (hlt : reading < later) (count : Nat) :
    g.answers (g.settle w w reading).register later count = g.answers w later count := by
  have htime : (g.timeOf reading : Int) = (g.relative reading).toInt :=
    Int.toNat_of_nonneg h.nonneg
  have hrelative := relative_lt_relative h.nonneg hlt
  obtain ⟨q, hafter⟩ := h.holds_settle hmax
  obtain ⟨t, q', hbefore, hle⟩ := h
  rw [answers_of_lt hafter (by omega), answers_of_lt hbefore (by omega)]

/-! ## All polls -/

theorem outcomesAt_cons (first : Int64) (rest : List Int64) :
    g.outcomesAt w (first :: rest) reading =
      if first = reading then
        (g.settle w w first).outcome :: g.outcomesAt (g.settle w w first).register rest reading
      else g.outcomesAt (g.settle w w first).register rest reading := by
  rw [outcomesAt, polls, poll_plain, List.map_cons, List.zip_cons_cons, List.filter_cons]
  split_ifs <;> simp_all [outcomesAt]

/-- **Each millisecond.** The polls at a reading are answered as if there were no others. -/
theorem outcomesAt_eq (hsorted : readings.Pairwise (· ≤ ·))
    (hreached : ∀ reading ∈ readings, g.Reached reading w)
    (hmax : ∀ reading ∈ readings, g.relative reading ≤ g.layout.maxTimestamp) (reading : Int64) :
    g.outcomesAt w readings reading = g.answers w reading (readings.count reading) := by
  induction readings generalizing w with
  | nil => exact (answers_zero w reading).symm
  | cons first rest ih =>
    obtain ⟨hfirst, hrest⟩ := List.pairwise_cons.1 hsorted
    obtain ⟨hreach, -⟩ := List.forall_mem_cons.1 hreached
    obtain ⟨hmax, hmaxRest⟩ := List.forall_mem_cons.1 hmax
    obtain ⟨q, hholds⟩ := hreach.holds_settle hmax
    have hsame := reached_of_holds hholds hreach.nonneg
    have hafter := ih (w := (g.settle w w first).register) hrest
      (fun later hlater => by
        rcases Int64.lt_or_eq_of_le (hfirst later hlater) with hlt | rfl
        · exact hsame.of_lt hlt
        · exact hsame)
      hmaxRest
    rw [outcomesAt_cons, hafter]
    rcases Std.lt_trichotomy first reading with hlt | rfl | hlt
    · rw [if_neg (Int64.ne_of_lt hlt), List.count_cons_of_ne (Int64.ne_of_lt hlt),
        hreach.answers_later hmax hlt]
    · rw [if_pos rfl, List.count_cons_self, hreach.answers_succ hmax]
    · have hnone : reading ∉ rest := fun hmem =>
        Int64.lt_irrefl (Int64.lt_of_lt_of_le hlt (hfirst reading hmem))
      rw [if_neg (Int64.ne_of_lt hlt).symm, List.count_cons_of_ne (Int64.ne_of_lt hlt).symm,
        List.count_eq_zero_of_not_mem hnone, answers_zero, answers_zero]

theorem length_polls (g : Generator) (w : Int64) (readings : List Int64) :
    (g.polls w readings).length = readings.length := by
  induction readings generalizing w with
  | nil => rfl
  | cons first rest ih => rw [polls, List.length_cons, List.length_cons, ih]

theorem exists_mem_outcomesAt {a : Attempt} (h : a ∈ g.polls w readings) :
    ∃ reading, a.outcome ∈ g.outcomesAt w readings reading := by
  have hlength : ((g.polls w readings).map Attempt.outcome).length ≤ readings.length := by
    rw [List.length_map, length_polls]
  have hmem := List.mem_map_of_mem (f := Attempt.outcome) h
  rw [← List.map_snd_zip hlength] at hmem
  obtain ⟨⟨reading, outcome⟩, hzip, hout⟩ := List.mem_map.1 hmem
  exact ⟨reading, List.mem_map.2 ⟨_, List.mem_filter.2 ⟨hzip, by simp⟩, hout⟩⟩

theorem mem_answers {outcome : Outcome} (h : outcome ∈ g.answers w reading count) :
    (∃ id, outcome = .ok (.ready id)) ∨ outcome = .ok (.pending 1) := by
  rcases List.mem_append.1 h with hready | hwait
  · obtain ⟨id, -, rfl⟩ := List.mem_map.1 hready
    exact Or.inl ⟨id, rfl⟩
  · exact Or.inr (List.eq_of_mem_replicate hwait)

/-- A fresh generator has an id for each sequence number, but for the one that its register holds
at the time of the offset. -/
theorem capacity_zero (h : 0 ≤ g.relative reading) :
    g.capacity 0 reading =
      if g.relative reading = 0 then 2 ^ g.layout.sequenceBits - 1
      else 2 ^ g.layout.sequenceBits := by
  have hroom := nextSequence_add_capacity reading (holds_zero (l := g.layout))
  rw [nextSequence_eq holds_zero] at hroom
  rw [Int64.le_iff_toInt_le, Int64.toInt_zero] at h
  have hzero : g.relative reading = 0 ↔ (g.relative reading).toInt = 0 := by
    rw [← Int64.toInt_inj, Int64.toInt_zero]
  simp only [hzero]
  split_ifs at hroom ⊢ <;> omega

/-- **Throughput.** Of the polls at one reading, on a clock that never goes back, the first ones get
the ids of its millisecond and the others are told to wait. The ids are as many as the polls, or as
the sequence numbers, without number zero at the time of the offset. -/
theorem polls_yield (g : Generator) {readings : List Int64} (hsorted : readings.Pairwise (· ≤ ·))
    (hr : ∀ reading ∈ readings,
      0 ≤ g.relative reading ∧ g.relative reading ≤ g.layout.maxTimestamp) :
    (∀ reading, ∃ ids : List Int64,
      ids.length = min (readings.count reading)
        (if g.relative reading = 0 then 2 ^ g.layout.sequenceBits - 1
          else 2 ^ g.layout.sequenceBits) ∧
      ids = g.following 0 reading ids.length ∧
      g.outcomesAt 0 readings reading = ids.map (fun id => .ok (.ready id)) ++
        List.replicate (readings.count reading - ids.length) (.ok (.pending 1))) ∧
    ∀ a ∈ g.polls 0 readings,
      (∃ id, a.outcome = .ok (.ready id)) ∨ a.outcome = .ok (.pending 1) := by
  have heach := outcomesAt_eq hsorted (fun reading hmem => reached_zero (hr reading hmem).1)
    fun reading hmem => (hr reading hmem).2
  refine ⟨fun reading => ?_, fun a ha => ?_⟩
  · have hlength : ∀ n, (g.following 0 reading n).length = n := by simp [following]
    refine ⟨g.following 0 reading (min (readings.count reading) (g.capacity 0 reading)), ?_, ?_, ?_⟩
    · rw [hlength]
      by_cases hmem : reading ∈ readings
      · rw [capacity_zero (hr reading hmem).1]
      · rw [List.count_eq_zero_of_not_mem hmem, Nat.zero_min, Nat.zero_min]
    · rw [hlength]
    · have hwaits : ∀ n m : Nat, n - min n m = n - m := by omega
      rw [heach, hlength, hwaits]
      rfl
  · obtain ⟨reading, hmem⟩ := exists_mem_outcomesAt ha
    rw [heach] at hmem
    exact mem_answers hmem

/-- A clock that lingers: two readings at the offset, three in a millisecond that has room for two
ids, and one in a later millisecond. -/
def lingering : List Int64 := [1000, 1000, 1003, 1003, 1003, 1005]

theorem lingering_yields :
    lingering.Pairwise (· ≤ ·) ∧
    (∀ reading ∈ lingering,
      0 ≤ paired.relative reading ∧ paired.relative reading ≤ paired.layout.maxTimestamp) ∧
    paired.outcomesAt 0 lingering 1000 = [.ok (.ready 3), .ok (.pending 1)] ∧
    paired.outcomesAt 0 lingering 1003 = [.ok (.ready 14), .ok (.ready 15), .ok (.pending 1)] ∧
    paired.outcomesAt 0 lingering 1005 = [.ok (.ready 22)] ∧
    ∀ a ∈ paired.polls 0 lingering,
      (∃ id, a.outcome = .ok (.ready id)) ∨ a.outcome = .ok (.pending 1) := by
  have hsorted : lingering.Pairwise (· ≤ ·) := by decide
  have hr : ∀ reading ∈ lingering,
      0 ≤ paired.relative reading ∧ paired.relative reading ≤ paired.layout.maxTimestamp :=
    List.all_iff_forall_prop.1 (by decide +kernel)
  obtain ⟨heach, hall⟩ := polls_yield paired hsorted hr
  have hyields : ∀ reading ids, paired.following 0 reading (List.length ids) = ids →
      List.length ids = min (lingering.count reading)
        (if paired.relative reading = 0 then 2 ^ paired.layout.sequenceBits - 1
          else 2 ^ paired.layout.sequenceBits) →
      paired.outcomesAt 0 lingering reading = ids.map (fun id => .ok (.ready id)) ++
        List.replicate (lingering.count reading - ids.length) (.ok (.pending 1)) := by
    intro reading ids hids hlength
    obtain ⟨ids', hlength', hids', houtcomes⟩ := heach reading
    rw [hlength', ← hlength, hids] at hids'
    rw [houtcomes, hids']
  exact ⟨hsorted, hr, hyields 1000 [3] (by decide +kernel) (by decide +kernel),
    hyields 1003 [14, 15] (by decide +kernel) (by decide +kernel),
    hyields 1005 [22] (by decide +kernel) (by decide +kernel), hall⟩

end Snowflake.Generator
