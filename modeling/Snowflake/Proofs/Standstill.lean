import Snowflake.Proofs.Moments
import Snowflake.Proofs.Order
import Snowflake.Proofs.Regression

/-!
# A clock that stands still

On a clock that stands still, at or after the timestamp of the register, every commit takes the next
sequence number of one millisecond: the clock's own. The first of these numbers is zero if the clock
is later than the register, and otherwise the one after the register's (`nextSequence`); how many
there are is the `capacity` of the register.

So a chain of commits is determined by its length. After `n` of them the ids are those that follow
the register (`following`), and the register holds the last of them (`settledAt`), whoever committed
them and in whatever order they tried (`Mints.following`).
-/

namespace Snowflake.Generator

open Word Layout

variable {g : Generator} {rs ids ids' : List Int64} {w w' next reading : Int64} {t q : Nat}

/-- The sequence number of the next id on a clock that stands at `reading`. -/
def nextSequence (g : Generator) (register reading : Int64) : Nat :=
  if g.layout.timestampOf register < g.relative reading then 0
  else (g.layout.sequenceOf register).toInt.toNat + 1

/-- How many ids are left for a clock that stands at `reading`. -/
def capacity (g : Generator) (register reading : Int64) : Nat :=
  if g.layout.timestampOf register < g.relative reading then 2 ^ g.layout.sequenceBits
  else (g.layout.maxSequence.toInt - (g.layout.sequenceOf register).toInt).toNat

/-- The ids that follow the register on a clock that stands at `reading`: consecutive sequence
numbers of the clock's millisecond. -/
def following (g : Generator) (register reading : Int64) (count : Nat) : List Int64 :=
  (List.range' (g.nextSequence register reading) count).map fun sequence =>
    g.layout.encode ⟨g.relative reading, g.nodeId, Int64.ofNat sequence⟩

/-- The register after so many ids, with the timestamp and the sequence number of the last one. -/
def settledAt (g : Generator) (register reading : Int64) (count : Nat) : Int64 :=
  if count = 0 then register
  else g.layout.encode
    ⟨g.relative reading, 0, Int64.ofNat (g.nextSequence register reading + count - 1)⟩

/-- The clock's reading is not before the timestamp of the word. -/
def Reached (g : Generator) (reading w : Int64) : Prop :=
  ∃ t q, g.layout.Holds w t q ∧ (t : Int) ≤ (g.relative reading).toInt

/-- The timestamp that the clock's reading gives. -/
def timeOf (g : Generator) (reading : Int64) : Nat := (g.relative reading).toInt.toNat

/-! ## One commit -/

theorem nextSequence_eq (h : g.layout.Holds w t q) :
    g.nextSequence w reading = if (t : Int) < (g.relative reading).toInt then 0 else q + 1 := by
  rw [nextSequence, h.toInt_sequenceOf, Int.toNat_natCast]
  simp only [Int64.lt_iff_toInt_lt, h.toInt_timestampOf]

theorem nextSequence_of_holds (h : g.layout.Holds w (g.timeOf reading) q)
    (hpos : 0 ≤ (g.relative reading).toInt) : g.nextSequence w reading = q + 1 := by
  have htime : (g.timeOf reading : Int) = (g.relative reading).toInt := Int.toNat_of_nonneg hpos
  rw [nextSequence_eq h, if_neg (by omega)]

/-- The sequence numbers of a millisecond are those taken and those left. -/
theorem nextSequence_add_capacity (reading : Int64) (h : g.layout.Holds w t q) :
    g.nextSequence w reading + g.capacity w reading = 2 ^ g.layout.sequenceBits := by
  have hq := h.sequence_lt
  have hmax : g.layout.maxSequence.toInt = ((2 ^ g.layout.sequenceBits : Nat) : Int) - 1 := by
    rw [toInt_maxSequence]
    norm_cast
  rw [nextSequence_eq h, capacity, h.toInt_sequenceOf, hmax]
  simp only [Int64.lt_iff_toInt_lt, h.toInt_timestampOf]
  split_ifs <;> omega

theorem Reached.nonneg (h : g.Reached reading w) : 0 ≤ (g.relative reading).toInt := by
  obtain ⟨t, q, -, hle⟩ := h
  omega

theorem Reached.not_regressed (h : g.Reached reading w) :
    ¬g.relative reading < g.layout.timestampOf w := by
  obtain ⟨t, q, hholds, hle⟩ := h
  rw [Int64.lt_iff_toInt_lt, hholds.toInt_timestampOf]
  omega

/-- A commit on the clock takes the next sequence number of its millisecond. -/
theorem Reached.holds (h : g.Reached reading w) (hmax : g.relative reading ≤ g.layout.maxTimestamp)
    (hp : g.propose w reading = .commit next) :
    g.layout.Holds next (g.timeOf reading) (g.nextSequence w reading) := by
  obtain ⟨t, q, hholds, hle⟩ := h
  obtain ⟨t', q', hnext, hkept, hcase⟩ := propose_commit hholds hp
  rw [kept_of_le (by omega) hmax] at hkept
  obtain rfl : t' = g.timeOf reading := by rw [timeOf, hkept, Int.toNat_natCast]
  have hsequence : g.nextSequence w reading = q' := by
    rw [nextSequence_eq hholds]
    split_ifs <;> omega
  rwa [hsequence]

theorem reached_of_timestampOf_le (h : Mints g rs w ids)
    (hle : g.layout.timestampOf w ≤ g.relative reading) : g.Reached reading w := by
  obtain ⟨t, q, hholds, -⟩ := h.last
  refine ⟨t, q, hholds, ?_⟩
  rw [← hholds.toInt_timestampOf]
  exact Int64.le_iff_toInt_le.1 hle

theorem reached_of_holds (h : g.layout.Holds w (g.timeOf reading) q)
    (hpos : 0 ≤ (g.relative reading).toInt) : g.Reached reading w :=
  ⟨_, q, h, (Int.toNat_of_nonneg hpos).le⟩

theorem Reached.commit (h : g.Reached reading w) (hmax : g.relative reading ≤ g.layout.maxTimestamp)
    (hp : g.propose w reading = .commit next) : g.Reached reading next :=
  reached_of_holds (h.holds hmax hp) h.nonneg

/-- As long as there are ids left, an attempt proposes one. -/
theorem Reached.propose_eq_commit (h : g.Reached reading w) (hcap : 0 < g.capacity w reading) :
    ∃ next, g.propose w reading = .commit next := by
  obtain ⟨t, q, hholds, hle⟩ := h
  have hroom := nextSequence_add_capacity reading hholds
  rw [nextSequence_eq hholds] at hroom
  rcases hle.lt_or_eq with hlt | heq
  · exact ⟨_, propose_later hholds hlt⟩
  · rw [if_neg (by omega)] at hroom
    exact ⟨w + 1, by rw [propose_same hholds heq.symm, if_pos (by omega)]⟩

theorem Reached.capacity_commit (h : g.Reached reading w)
    (hmax : g.relative reading ≤ g.layout.maxTimestamp) (hp : g.propose w reading = .commit next) :
    g.capacity next reading + 1 = g.capacity w reading := by
  have hnext := h.holds hmax hp
  have hpos := h.nonneg
  obtain ⟨t, q, hholds, -⟩ := h
  have hroom := nextSequence_add_capacity reading hholds
  have hroom' := nextSequence_add_capacity reading hnext
  rw [nextSequence_of_holds hnext hpos] at hroom'
  omega

/-! ## Chains of commits -/

theorem following_succ (g : Generator) (w reading : Int64) (n : Nat) :
    g.following w reading (n + 1) = g.following w reading n ++
      [g.layout.encode
        ⟨g.relative reading, g.nodeId, Int64.ofNat (g.nextSequence w reading + n)⟩] := by
  rw [following, List.range'_1_concat, List.map_append]
  rfl

theorem timeOf_lt (hmax : g.relative reading ≤ g.layout.maxTimestamp)
    (hpos : 0 ≤ (g.relative reading).toInt) : g.timeOf reading < 2 ^ (63 - g.layout.shift) :=
  (le_maxTimestamp_iff (Int.toNat_of_nonneg hpos).symm).1 hmax

theorem ofNat_timeOf (hmax : g.relative reading ≤ g.layout.maxTimestamp)
    (hpos : 0 ≤ (g.relative reading).toInt) :
    Int64.ofNat (g.timeOf reading) = g.relative reading := by
  have hlt : g.timeOf reading < 2 ^ 63 :=
    (timeOf_lt hmax hpos).trans_le (Nat.pow_le_pow_right (by decide) (by omega))
  apply Int64.toInt.inj
  rw [Int64.toInt_ofNat_of_lt hlt, timeOf, Int.toNat_of_nonneg hpos]

theorem stamped_eq_encode (h : g.layout.Holds w (g.timeOf reading) q)
    (hmax : g.relative reading ≤ g.layout.maxTimestamp) (hpos : 0 ≤ (g.relative reading).toInt) :
    w ||| g.stamp = g.layout.encode ⟨g.relative reading, g.nodeId, Int64.ofNat q⟩ := by
  rw [stamped_eq_idOf (m := ⟨g.timeOf reading, q⟩) h (timeOf_lt hmax hpos), idOf,
    ofNat_timeOf hmax hpos]

/-- **Chains on a clock that stands still.** After one commit more than `n`, the register holds the
sequence number `n` places after the next one, and the ids are those that follow it. -/
theorem Mints.following (h : Mints g rs w ids) (hreached : g.Reached reading w)
    (hmax : g.relative reading ≤ g.layout.maxTimestamp) {n : Nat}
    (h' : Mints g (rs ++ List.replicate (n + 1) reading) w' ids') :
    g.layout.Holds w' (g.timeOf reading) (g.nextSequence w reading + n) ∧
      ids' = ids ++ g.following w reading (n + 1) := by
  have hpos := hreached.nonneg
  induction n generalizing w' ids' with
  | zero =>
    obtain ⟨w₀, ids₀, h₀, hp, rfl⟩ := h'.of_append
    obtain ⟨rfl, rfl⟩ := h.unique h₀
    have hnext := hreached.holds hmax hp
    refine ⟨hnext, ?_⟩
    rw [stamped_eq_encode hnext hmax hpos]
    rfl
  | succ n ih =>
    rw [List.replicate_succ', ← List.append_assoc] at h'
    obtain ⟨w₀, ids₀, h₀, hp, rfl⟩ := h'.of_append
    obtain ⟨hholds, rfl⟩ := ih h₀
    have hnext := (reached_of_holds hholds hpos).holds hmax hp
    rw [nextSequence_of_holds hholds hpos] at hnext
    refine ⟨hnext, ?_⟩
    rw [stamped_eq_encode hnext hmax hpos, List.append_assoc, following_succ _ _ _ (n + 1)]
    rfl

theorem settledAt_succ {n : Nat} (hmax : g.relative reading ≤ g.layout.maxTimestamp)
    (hpos : 0 ≤ (g.relative reading).toInt)
    (h : g.layout.Holds w' (g.timeOf reading) (g.nextSequence w reading + n)) :
    g.settledAt w reading (n + 1) = w' := by
  have hlt := timeOf_lt hmax hpos
  apply unsigned_injective
  rw [settledAt, if_neg (Nat.succ_ne_zero n), ← ofNat_timeOf hmax hpos, h.unsigned_eq]
  exact unsigned_encode_of_lt hlt (by positivity) h.sequence_lt

/-- A chain that goes on by so many commits has the ids that follow, and settles there. -/
theorem Mints.eq_following (h : Mints g rs w ids) (hreached : g.Reached reading w)
    (hmax : g.relative reading ≤ g.layout.maxTimestamp) {n : Nat} {new : List Int64}
    (h' : Mints g (rs ++ List.replicate n reading) w' (ids ++ new)) :
    new = g.following w reading n ∧ w' = g.settledAt w reading n := by
  cases n with
  | zero =>
    rw [List.replicate_zero, List.append_nil] at h'
    obtain ⟨rfl, hids⟩ := h.unique h'
    exact ⟨List.self_eq_append_right.1 hids, rfl⟩
  | succ n =>
    obtain ⟨hholds, hids⟩ := h.following hreached hmax h'
    exact ⟨List.append_cancel_left hids, (settledAt_succ hmax hreached.nonneg hholds).symm⟩

/-! ## The ids that follow -/

theorem lt_two_pow_sequenceBits (hreached : g.Reached reading w) {n : Nat}
    (hn : n ≤ g.capacity w reading)
    (hq : q ∈ List.range' (g.nextSequence w reading) n) : q < 2 ^ g.layout.sequenceBits := by
  obtain ⟨t, s, hholds, -⟩ := hreached
  have hroom := nextSequence_add_capacity reading hholds
  obtain ⟨-, hlt⟩ := List.mem_range'_1.1 hq
  omega

theorem inRange_of_lt (hmax : g.relative reading ≤ g.layout.maxTimestamp)
    (hpos : 0 ≤ (g.relative reading).toInt) (hq : q < 2 ^ g.layout.sequenceBits) :
    g.layout.InRange ⟨g.relative reading, g.nodeId, Int64.ofNat q⟩ := by
  have hle := g.layout.two_pow_sequenceBits_le
  have htoInt : (Int64.ofNat q).toInt = q := Int64.toInt_ofNat_of_lt (by omega)
  refine ⟨⟨Int64.le_iff_toInt_le.2 hpos, hmax⟩, ⟨g.nodeId_nonneg, g.nodeId_le⟩, ?_, ?_⟩
  · rw [Int64.le_iff_toInt_le, htoInt]
    exact Int.natCast_nonneg q
  · rw [Int64.le_iff_toInt_le, htoInt, toInt_maxSequence]
    zify at hq
    omega

/-- The ids that follow are of one millisecond and one node, and have consecutive sequence
numbers. -/
theorem map_decode_following (hreached : g.Reached reading w)
    (hmax : g.relative reading ≤ g.layout.maxTimestamp) {n : Nat} (hn : n ≤ g.capacity w reading) :
    (g.following w reading n).map g.layout.decode =
      (List.range' (g.nextSequence w reading) n).map fun q =>
        ⟨g.relative reading, g.nodeId, Int64.ofNat q⟩ := by
  rw [following, List.map_map]
  refine List.map_congr_left fun q hq => ?_
  have hlt := lt_two_pow_sequenceBits hreached hn hq
  exact decode_encode_of_inRange (inRange_of_lt hmax hreached.nonneg hlt)

theorem pairwise_following (hreached : g.Reached reading w)
    (hmax : g.relative reading ≤ g.layout.maxTimestamp) {n : Nat} (hn : n ≤ g.capacity w reading) :
    (g.following w reading n).Pairwise (· < ·) := by
  have hle := g.layout.two_pow_sequenceBits_le
  rw [following, List.pairwise_map]
  refine List.Pairwise.imp_of_mem (fun {a b} ha hb hab => ?_) List.pairwise_lt_range'
  have ha := lt_two_pow_sequenceBits hreached hn ha
  have hb := lt_two_pow_sequenceBits hreached hn hb
  rw [encode_lt_encode_iff (inRange_of_lt hmax hreached.nonneg ha)
    (inRange_of_lt hmax hreached.nonneg hb)]
  have hsequence : Int64.ofNat a < Int64.ofNat b := by
    rw [Int64.lt_iff_toInt_lt, Int64.toInt_ofNat_of_lt (by omega),
      Int64.toInt_ofNat_of_lt (by omega)]
    exact_mod_cast hab
  exact Or.inr ⟨rfl, Or.inr ⟨rfl, hsequence⟩⟩

end Snowflake.Generator
