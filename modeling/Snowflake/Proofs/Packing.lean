import Snowflake.Proofs.Attempt
import Snowflake.Proofs.Fields

/-!
# What the register holds

The register is a packed word without a node id: `Holds w t s` says that `w` is made of the
timestamp `t` and the sequence number `s` and of nothing else. Both words that an attempt can
propose are again of this form, whatever its reading (`propose_commit`): a sequence number that
is not the last one can be raised without a carry, and a placed timestamp leaves the bits below
it clear, even if it lost bits at the top.

An id is such a word with the node's stamp or-ed onto it, which fills the empty field. Ids are
therefore ordered as timestamps and sequence numbers are (`stamped_lt_stamped`), as long as the
timestamp has not reached the sign bit (`zero_le_stamped`).
-/

namespace Snowflake

open Word

namespace Layout

variable (l : Layout) {w : Int64} {t s : Nat}

/-- The word holds the timestamp `t` and the sequence number `s`, and no node id. -/
structure Holds (w : Int64) (t s : Nat) : Prop where
  unsigned_eq : unsigned w = l.pack t 0 s
  sequence_lt : s < 2 ^ l.sequenceBits
  timestamp_lt : t < 2 ^ 63

variable {l}

theorem holds_zero : l.Holds 0 0 0 where
  unsigned_eq := by simp [pack]
  sequence_lt := by positivity
  timestamp_lt := by decide

theorem Holds.timestamp_lt_wrap (h : l.Holds w t s) : t < 2 ^ (64 - l.shift) := by
  have hlt := unsigned_lt w
  rw [h.unsigned_eq, pack, l.two_pow_word] at hlt
  exact Nat.lt_of_mul_lt_mul_right (a := 2 ^ l.shift) (by omega)

theorem Holds.timestampOf_eq (h : l.Holds w t s) : l.timestampOf w = Int64.ofNat t := by
  have ht := h.timestamp_lt
  apply unsigned_injective
  rw [unsigned_timestampOf, h.unsigned_eq, pack_div_shift (by positivity) h.sequence_lt,
    unsigned_ofNat (by omega)]

theorem Holds.toInt_timestampOf (h : l.Holds w t s) : (l.timestampOf w).toInt = t := by
  rw [h.timestampOf_eq, Int64.toInt_ofNat_of_lt h.timestamp_lt]

theorem Holds.toInt_sequenceOf (h : l.Holds w t s) : (l.sequenceOf w).toInt = s := by
  have hs := h.sequence_lt
  have hs' := l.two_pow_sequenceBits_le
  have hu : unsigned (l.sequenceOf w) = s := by
    rw [unsigned_sequenceOf, h.unsigned_eq, pack_sequence hs]
  rw [toInt_of_lt (by omega), hu]

/-- The timestamp is all that decides whether the word is negative. -/
theorem pack_lt_sign {n : Nat} (hn : n < 2 ^ l.nodeBits) (hs : s < 2 ^ l.sequenceBits) :
    l.pack t n s < 2 ^ 63 ↔ t < 2 ^ (63 - l.shift) := by
  have hpow : 2 ^ 63 = 2 ^ (63 - l.shift) * 2 ^ l.shift :=
    (pow_sub_mul_pow 2 (l.shift_le.trans (by decide))).symm
  rw [hpow, ← Nat.div_lt_iff_lt_mul (by positivity), pack_div_shift hn hs]

/-- In range, the word is its timestamp at its place plus its sequence number. -/
theorem Holds.toInt_eq (h : l.Holds w t s) (ht : t < 2 ^ (63 - l.shift)) :
    w.toInt = t * 2 ^ l.shift + s := by
  have hlt := (pack_lt_sign (by positivity) h.sequence_lt).2 ht
  rw [toInt_of_lt (by rw [h.unsigned_eq]; exact hlt), h.unsigned_eq, pack]
  push_cast
  ring

/-- A timestamp fits the layout exactly if it stays out of the sign bit at its place. -/
theorem le_maxTimestamp_iff {time : Int64} (h : time.toInt = t) :
    time ≤ l.maxTimestamp ↔ t < 2 ^ (63 - l.shift) := by
  rw [Int64.le_iff_toInt_le, h, toInt_maxTimestamp]
  zify
  omega

theorem mod_wrap (ht : t < 2 ^ (63 - l.shift)) : t % 2 ^ (64 - l.shift) = t :=
  Nat.mod_eq_of_lt (ht.trans_le (Nat.pow_le_pow_right (by decide) (by omega)))

/-! ## The words that follow -/

/-- A placed timestamp keeps what fits of it, with sequence number zero. -/
theorem holds_placeTimestamp {now : Int64} (h : 0 ≤ now.toInt) :
    l.Holds (l.placeTimestamp now) (now.toInt.toNat % 2 ^ (64 - l.shift)) 0 := by
  have hu : unsigned now = now.toInt.toNat := by have := unsigned_of_nonneg h; omega
  refine ⟨?_, by positivity, ?_⟩
  · rw [unsigned_placeTimestamp_eq_pack, hu]
  · have := now.toInt_lt
    exact (Nat.mod_le _ _).trans_lt (by omega)

theorem holds_placeTimestamp_of_le {now : Int64} (h : 0 ≤ now.toInt)
    (hmax : now ≤ l.maxTimestamp) : l.Holds (l.placeTimestamp now) now.toInt.toNat 0 := by
  have hfit := (le_maxTimestamp_iff (Int.toNat_of_nonneg h).symm).1 hmax
  have hholds := holds_placeTimestamp (l := l) h
  rwa [mod_wrap hfit] at hholds

/-- What is left of a timestamp once it is placed in a word. -/
def kept (l : Layout) (time : Int64) : Int64 := l.timestampOf (l.placeTimestamp time)

theorem toInt_kept {time : Int64} (h : 0 ≤ time.toInt) :
    (l.kept time).toInt = (time.toInt.toNat % 2 ^ (64 - l.shift) : Nat) :=
  (holds_placeTimestamp h).toInt_timestampOf

/-- Placing a timestamp may cut it, but never makes it larger. -/
theorem toInt_kept_le {time : Int64} (h : 0 ≤ time.toInt) : (l.kept time).toInt ≤ time.toInt := by
  have hcut := Nat.mod_le time.toInt.toNat (2 ^ (64 - l.shift))
  rw [toInt_kept h]
  omega

/-- A timestamp is kept whole exactly if it fits above the shift. -/
theorem toInt_kept_eq_iff {time : Int64} (h : 0 ≤ time.toInt) :
    (l.kept time).toInt = time.toInt ↔ time.toInt < 2 ^ (64 - l.shift) := by
  obtain ⟨n, hn⟩ := Int.eq_ofNat_of_zero_le h
  rw [toInt_kept h, hn, Int.toNat_natCast, Int.natCast_inj, Nat.mod_eq_iff_lt (by positivity)]
  norm_cast

theorem kept_of_le {time : Int64} (h : 0 ≤ time.toInt) (hmax : time ≤ l.maxTimestamp) :
    l.kept time = time := by
  apply Int64.toInt.inj
  rw [kept, (holds_placeTimestamp_of_le h hmax).toInt_timestampOf, Int.toNat_of_nonneg h]

/-- Raising a sequence number that is not the last one does not carry. -/
theorem Holds.succ (h : l.Holds w t s) (hs : s + 1 < 2 ^ l.sequenceBits) :
    l.Holds (w + 1) t (s + 1) := by
  have hlt : l.pack t 0 (s + 1) < 2 ^ 64 := by
    rw [l.two_pow_word]
    exact (pack_lt (by positivity) hs).trans_le (Nat.mul_le_mul_right _ h.timestamp_lt_wrap)
  have hsucc : l.pack t 0 (s + 1) = unsigned w + unsigned 1 := by
    rw [h.unsigned_eq, unsigned_one, pack, pack]; omega
  exact ⟨by rw [unsigned_add_of_lt (by omega), hsucc], hs, h.timestamp_lt⟩

end Layout

namespace Generator

open Layout

variable {g : Generator} {w w' next reading : Int64} {t t' s s' : Nat}

/-! ## Readings -/

/-- A reading relative to the offset stops only at the lower end of the range. -/
theorem toInt_relative (g : Generator) (reading : Int64) :
    (g.relative reading).toInt = max (-2 ^ 63) (reading.toInt - g.offset.toInt) := by
  have ho : 0 ≤ g.offset.toInt := Int64.le_iff_toInt_le.1 g.offset_nonneg
  have := reading.toInt_lt
  rw [relative, toInt_subSaturating]
  omega

theorem toInt_relative_of_nonneg (h : 0 ≤ (g.relative reading).toInt) :
    (g.relative reading).toInt = reading.toInt - g.offset.toInt := by
  rw [toInt_relative] at h ⊢
  omega

/-! ## Proposals -/

theorem propose_later (h : g.layout.Holds w t s) (ht : t < (g.relative reading).toInt) :
    g.propose w reading = .commit (g.layout.placeTimestamp (g.relative reading)) := by
  refine propose_of_lt ?_
  rw [Int64.lt_iff_toInt_lt, h.toInt_timestampOf]
  exact ht

/-- At the register's own time an attempt looks at the sequence number alone. -/
theorem propose_same (h : g.layout.Holds w t s) (ht : (g.relative reading).toInt = t) :
    g.propose w reading =
      if s + 1 < 2 ^ g.layout.sequenceBits then .commit (w + 1) else .exhausted := by
  have hfree : g.layout.sequenceOf w < g.layout.maxSequence ↔
      s + 1 < 2 ^ g.layout.sequenceBits := by
    rw [Int64.lt_iff_toInt_lt, h.toInt_sequenceOf, lt_maxSequence_iff]
  rw [propose_of_eq (Int64.toInt.inj (ht.trans h.toInt_timestampOf.symm))]
  simp only [hfree]

theorem propose_earlier (h : g.layout.Holds w t s) (ht : (g.relative reading).toInt < t) :
    g.propose w reading = .regressed (g.relative reading) (Int64.ofNat t) := by
  have hgt : g.relative reading < g.layout.timestampOf w := by
    rw [Int64.lt_iff_toInt_lt, h.toInt_timestampOf]
    exact ht
  rw [propose_of_gt hgt, h.timestampOf_eq]

/-- A proposed word starts the reading's millisecond, as far as it is kept, or takes the next
sequence number of the register's own. -/
theorem propose_commit (h : g.layout.Holds w t s) (hp : g.propose w reading = .commit next) :
    ∃ t' s', g.layout.Holds next t' s' ∧ (g.layout.kept (g.relative reading)).toInt = t' ∧
      (t < (g.relative reading).toInt ∧ s' = 0 ∨
        (g.relative reading).toInt = t ∧ t' = t ∧ s' = s + 1) := by
  rcases lt_trichotomy (t : Int) (g.relative reading).toInt with ht | ht | ht
  · rw [propose_later h ht, Proposal.commit.injEq] at hp
    have hnext : g.layout.Holds (g.layout.placeTimestamp (g.relative reading)) _ 0 :=
      holds_placeTimestamp (by omega)
    exact ⟨_, 0, hp ▸ hnext, toInt_kept (by omega), Or.inl ⟨ht, rfl⟩⟩
  · rw [propose_same h ht.symm] at hp
    split_ifs at hp with hs
    rw [Proposal.commit.injEq] at hp
    refine ⟨t, s + 1, hp ▸ h.succ hs, ?_, Or.inr ⟨ht.symm, rfl, rfl⟩⟩
    rw [toInt_kept (by omega), ← ht, Int.toNat_natCast, Nat.mod_eq_of_lt h.timestamp_lt_wrap]
  · rw [propose_earlier h ht] at hp
    cases hp

/-- On a reading within the layout, a proposed word is larger than the one it is to replace. -/
theorem unsigned_lt_of_commit (h : g.layout.Holds w t s) (hp : g.propose w reading = .commit next)
    (hr : g.relative reading ≤ g.layout.maxTimestamp) : unsigned w < unsigned next := by
  obtain ⟨t', s', hnext, hkept, hcase⟩ := propose_commit h hp
  rw [kept_of_le (by omega) hr] at hkept
  rw [h.unsigned_eq, hnext.unsigned_eq,
    pack_lt_pack (by positivity) (by positivity) h.sequence_lt hnext.sequence_lt]
  omega

/-- An attempt finds its millisecond exhausted at the register's own time and last sequence number
only. -/
theorem propose_exhausted (h : g.layout.Holds w t s) (hp : g.propose w reading = .exhausted) :
    (g.relative reading).toInt = t ∧ s + 1 = 2 ^ g.layout.sequenceBits := by
  have hs := h.sequence_lt
  rcases lt_trichotomy (t : Int) (g.relative reading).toInt with ht | ht | ht
  · rw [propose_later h ht] at hp
    cases hp
  · rw [propose_same h ht.symm] at hp
    split_ifs at hp with hfree
    exact ⟨ht.symm, by omega⟩
  · rw [propose_earlier h ht] at hp
    cases hp

/-! ## Ids -/

theorem unsigned_nodeId_lt (g : Generator) : unsigned g.nodeId < 2 ^ g.layout.nodeBits := by
  have hn0 : 0 ≤ g.nodeId.toInt := Int64.le_iff_toInt_le.1 g.nodeId_nonneg
  have hle := Int64.le_iff_toInt_le.1 g.nodeId_le
  have hn := unsigned_of_nonneg hn0
  have hmax := unsigned_of_nonneg (hn0.trans hle)
  have hpos : 0 < 2 ^ g.layout.nodeBits := by positivity
  rw [unsigned_maxNode] at hmax
  omega

theorem ofNat_unsigned_nodeId (g : Generator) : Int64.ofNat (unsigned g.nodeId) = g.nodeId :=
  unsigned_injective (unsigned_ofNat (unsigned_lt _))

theorem unsigned_stamped (h : g.layout.Holds w t s) :
    unsigned (w ||| g.stamp) = g.layout.pack t (unsigned g.nodeId) s := by
  rw [unsigned_or, stamp, unsigned_placeNode_of_lt _ g.unsigned_nodeId_lt, h.unsigned_eq,
    or_node t g.unsigned_nodeId_lt h.sequence_lt]

/-- The node's stamp does not touch the other fields, whatever the timestamp. -/
theorem decode_stamped (h : g.layout.Holds w t s) :
    g.layout.decode (w ||| g.stamp) = ⟨Int64.ofNat t, g.nodeId, Int64.ofNat s⟩ := by
  have ht := h.timestamp_lt
  rw [decode_of_pack (unsigned_stamped h) (by omega) g.unsigned_nodeId_lt h.sequence_lt,
    g.ofNat_unsigned_nodeId]

theorem zero_le_stamped (h : g.layout.Holds w t s) :
    0 ≤ w ||| g.stamp ↔ t < 2 ^ (63 - g.layout.shift) := by
  rw [zero_le_iff, unsigned_stamped h]
  exact pack_lt_sign g.unsigned_nodeId_lt h.sequence_lt

theorem stamped_lt_stamped (h : g.layout.Holds w t s) (h' : g.layout.Holds w' t' s')
    (ht : t < 2 ^ (63 - g.layout.shift)) (ht' : t' < 2 ^ (63 - g.layout.shift)) :
    w ||| g.stamp < w' ||| g.stamp ↔ t < t' ∨ t = t' ∧ s < s' := by
  have hn := g.unsigned_nodeId_lt
  rw [lt_iff_unsigned_lt ((zero_le_stamped h).2 ht) ((zero_le_stamped h').2 ht'),
    unsigned_stamped h, unsigned_stamped h', pack_lt_pack hn hn h.sequence_lt h'.sequence_lt]
  simp

end Generator

end Snowflake
