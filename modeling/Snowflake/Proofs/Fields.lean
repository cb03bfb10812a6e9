import Snowflake.Layout
import Snowflake.Proofs.Word
import Mathlib.Data.Nat.Bitwise
import Mathlib.Tactic.Ring
import Mathlib.Tactic.Zify

/-!
# The fields of a word, in numbers

`pack t n s` is the number whose fields are the timestamp `t`, the node id `n` and the sequence
number `s`. Fields within their widths can be read back from it, and or-ing fields that stand at
different places is the same as adding them.

Each function of a layout is then one operation on unsigned numbers: taking a field is a
quotient or a remainder, placing one is a product, and `encode` is `pack` of the reduced fields
(`unsigned_encode`).
-/

namespace Snowflake.Layout

open Word

variable (l : Layout)

theorem shift_eq : l.shift = l.nodeBits + l.sequenceBits := rfl

theorem shift_le : l.shift ≤ 22 := l.fits

theorem sequenceBits_le : l.sequenceBits ≤ 22 := Nat.le_trans (Nat.le_add_left _ _) l.fits

theorem nodeBits_le : l.nodeBits ≤ 22 := Nat.le_trans (Nat.le_add_right _ _) l.fits

theorem two_pow_shift_le : 2 ^ l.shift ≤ 2 ^ 22 := Nat.pow_le_pow_right (by decide) l.shift_le

theorem two_pow_sequenceBits_le : 2 ^ l.sequenceBits ≤ 2 ^ 22 :=
  Nat.pow_le_pow_right (by decide) l.sequenceBits_le

theorem two_pow_nodeBits_le : 2 ^ l.nodeBits ≤ 2 ^ 22 :=
  Nat.pow_le_pow_right (by decide) l.nodeBits_le

theorem two_pow_word : 2 ^ 64 = 2 ^ (64 - l.shift) * 2 ^ l.shift :=
  (pow_sub_mul_pow 2 (l.shift_le.trans (by decide))).symm

/-! ## Packed numbers -/

/-- The number that holds these fields. -/
def pack (t n s : Nat) : Nat := t * 2 ^ l.shift + n * 2 ^ l.sequenceBits + s

variable {l}

theorem pow_shift : 2 ^ l.shift = 2 ^ l.nodeBits * 2 ^ l.sequenceBits := pow_add ..

theorem low_lt {n s : Nat} (hn : n < 2 ^ l.nodeBits) (hs : s < 2 ^ l.sequenceBits) :
    n * 2 ^ l.sequenceBits + s < 2 ^ l.shift := by
  calc n * 2 ^ l.sequenceBits + s
      < n * 2 ^ l.sequenceBits + 2 ^ l.sequenceBits := Nat.add_lt_add_left hs _
    _ = (n + 1) * 2 ^ l.sequenceBits := by ring
    _ ≤ 2 ^ l.nodeBits * 2 ^ l.sequenceBits := Nat.mul_le_mul_right _ hn
    _ = 2 ^ l.shift := pow_shift.symm

theorem pack_div_shift {t n s : Nat} (hn : n < 2 ^ l.nodeBits) (hs : s < 2 ^ l.sequenceBits) :
    l.pack t n s / 2 ^ l.shift = t := by
  rw [pack, Nat.add_assoc, Nat.mul_comm, Nat.mul_add_div (by positivity),
    Nat.div_eq_of_lt (low_lt hn hs), Nat.add_zero]

theorem pack_eq (t n s : Nat) :
    l.pack t n s = 2 ^ l.sequenceBits * (t * 2 ^ l.nodeBits + n) + s := by
  rw [pack, pow_shift]
  ring

theorem pack_div_sequence {t n s : Nat} (hs : s < 2 ^ l.sequenceBits) :
    l.pack t n s / 2 ^ l.sequenceBits = t * 2 ^ l.nodeBits + n := by
  rw [pack_eq, Nat.mul_add_div (by positivity), Nat.div_eq_of_lt hs, Nat.add_zero]

theorem pack_node {t n s : Nat} (hn : n < 2 ^ l.nodeBits) (hs : s < 2 ^ l.sequenceBits) :
    l.pack t n s / 2 ^ l.sequenceBits % 2 ^ l.nodeBits = n := by
  rw [pack_div_sequence hs, Nat.mul_comm, Nat.mul_add_mod, Nat.mod_eq_of_lt hn]

theorem pack_sequence {t n s : Nat} (hs : s < 2 ^ l.sequenceBits) :
    l.pack t n s % 2 ^ l.sequenceBits = s := by
  rw [pack_eq, Nat.mul_add_mod, Nat.mod_eq_of_lt hs]

theorem pack_lt {t n s : Nat} (hn : n < 2 ^ l.nodeBits) (hs : s < 2 ^ l.sequenceBits) :
    l.pack t n s < (t + 1) * 2 ^ l.shift := by
  rw [pack, Nat.add_assoc, Nat.add_mul, Nat.one_mul]
  exact Nat.add_lt_add_left (low_lt hn hs) _

/-- Numbers of two digits are ordered by the first digit, then by the second. -/
theorem digits_lt_iff {B a a' b b' : Nat} (hb : b < B) (hb' : b' < B) :
    a * B + b < a' * B + b' ↔ a < a' ∨ a = a' ∧ b < b' := by
  rcases Nat.lt_trichotomy a a' with h | rfl | h
  · have : (a + 1) * B ≤ a' * B := Nat.mul_le_mul_right B h
    rw [Nat.add_mul] at this
    omega
  · omega
  · have : (a' + 1) * B ≤ a * B := Nat.mul_le_mul_right B h
    rw [Nat.add_mul] at this
    omega

/-- Packed numbers are ordered by timestamp, then by node id, then by sequence number. -/
theorem pack_lt_pack {t t' n n' s s' : Nat} (hn : n < 2 ^ l.nodeBits) (hn' : n' < 2 ^ l.nodeBits)
    (hs : s < 2 ^ l.sequenceBits) (hs' : s' < 2 ^ l.sequenceBits) :
    l.pack t n s < l.pack t' n' s' ↔ t < t' ∨ t = t' ∧ (n < n' ∨ n = n' ∧ s < s') := by
  rw [pack, pack, Nat.add_assoc, Nat.add_assoc, digits_lt_iff (low_lt hn hs) (low_lt hn' hs'),
    digits_lt_iff hs hs']

/-- Or-ing a node id and a sequence number onto a timestamp adds them. -/
theorem or_fields {n s : Nat} (t : Nat) (hn : n < 2 ^ l.nodeBits) (hs : s < 2 ^ l.sequenceBits) :
    t * 2 ^ l.shift ||| n * 2 ^ l.sequenceBits ||| s = l.pack t n s := by
  have hlow : 2 ^ l.sequenceBits * n + s < 2 ^ l.shift := by
    rw [Nat.mul_comm]; exact low_lt hn hs
  rw [Nat.lor_assoc, Nat.mul_comm n, ← Nat.two_pow_add_eq_or_of_lt hs, Nat.mul_comm t,
    ← Nat.two_pow_add_eq_or_of_lt hlow, pack]
  ring

theorem or_node {n s : Nat} (t : Nat) (hn : n < 2 ^ l.nodeBits) (hs : s < 2 ^ l.sequenceBits) :
    l.pack t 0 s ||| n * 2 ^ l.sequenceBits = l.pack t n s := by
  rw [← or_fields t hn hs, ← or_fields t (by positivity) hs, Nat.zero_mul, Nat.or_zero,
    Nat.lor_assoc, Nat.lor_comm s, ← Nat.lor_assoc]

/-! ## Masks and limits -/

variable (l)

theorem unsigned_mask {k : Nat} (hk : k < 63) : unsigned (mask k) = 2 ^ k - 1 := by
  have hpow : 2 ^ k < 2 ^ 64 := Nat.pow_lt_pow_right (by decide) (by omega)
  have hpos : 0 < 2 ^ k := by positivity
  have h : unsigned ((1 : Int64) <<< Int64.ofNat k) = 2 ^ k := by
    rw [unsigned_shiftLeft _ (by omega), unsigned_one, Nat.one_mul, Nat.mod_eq_of_lt hpow]
  have hsub : unsigned (mask k) =
      (2 ^ 64 - 1 + unsigned ((1 : Int64) <<< Int64.ofNat k)) % 2 ^ 64 := by
    simp [mask, unsigned, BitVec.toNat_sub]
  rw [hsub, h]
  omega

theorem unsigned_maxSequence : unsigned l.maxSequence = 2 ^ l.sequenceBits - 1 :=
  unsigned_mask (by have := l.sequenceBits_le; omega)

theorem unsigned_maxNode : unsigned l.maxNode = 2 ^ l.nodeBits - 1 :=
  unsigned_mask (by have := l.nodeBits_le; omega)

theorem toInt_mask {k : Nat} (hk : k < 63) : (mask k).toInt = 2 ^ k - 1 := by
  have hpow : 2 ^ k < 2 ^ 63 := Nat.pow_lt_pow_right (by decide) hk
  have hu := unsigned_mask hk
  rw [toInt_of_lt (by omega), hu, Nat.cast_sub Nat.one_le_two_pow]
  norm_cast

theorem toInt_maxSequence : l.maxSequence.toInt = 2 ^ l.sequenceBits - 1 :=
  toInt_mask (by have := l.sequenceBits_le; omega)

theorem toInt_maxNode : l.maxNode.toInt = 2 ^ l.nodeBits - 1 :=
  toInt_mask (by have := l.nodeBits_le; omega)

theorem lt_maxSequence_iff (s : Nat) :
    (s : Int) < l.maxSequence.toInt ↔ s + 1 < 2 ^ l.sequenceBits := by
  rw [toInt_maxSequence]
  zify
  omega

theorem toInt_maxTimestamp : l.maxTimestamp.toInt = 2 ^ (63 - l.shift) - 1 := by
  have hs := l.shift_le
  have hpow : (2 : Int) ^ 63 = 2 ^ (63 - l.shift) * 2 ^ l.shift :=
    (pow_sub_mul_pow 2 (by omega)).symm
  have hpos : (0 : Int) < 2 ^ l.shift := by positivity
  rw [maxTimestamp, toInt_shiftRight _ (by omega), Int64.toInt_maxValue, hpow]
  refine le_antisymm (Int.le_sub_one_of_lt (Int.ediv_lt_of_lt_mul hpos (by omega)))
    (Int.le_ediv_of_mul_le hpos ?_)
  rw [sub_mul]
  omega

theorem zero_le_maxTimestamp : 0 ≤ l.maxTimestamp.toInt := by
  have hpos : (0 : Int) < 2 ^ (63 - l.shift) := by positivity
  rw [toInt_maxTimestamp]
  omega

theorem unsigned_maxTimestamp : unsigned l.maxTimestamp = 2 ^ (63 - l.shift) - 1 := by
  have h := l.toInt_maxTimestamp
  have := unsigned_of_nonneg l.zero_le_maxTimestamp
  zify [Nat.one_le_two_pow (n := 63 - l.shift)]
  omega

/-! ## Taking fields and placing them -/

theorem unsigned_timestampOf (w : Int64) :
    unsigned (l.timestampOf w) = unsigned w / 2 ^ l.shift :=
  unsigned_shiftRightLogical w (by have := l.shift_le; omega)

theorem unsigned_sequenceOf (w : Int64) :
    unsigned (l.sequenceOf w) = unsigned w % 2 ^ l.sequenceBits := by
  rw [sequenceOf, unsigned_and, unsigned_maxSequence, Nat.and_two_pow_sub_one_eq_mod]

theorem unsigned_nodeOf (w : Int64) :
    unsigned (l.nodeOf w) = unsigned w / 2 ^ l.sequenceBits % 2 ^ l.nodeBits := by
  have h := l.shift_le
  rw [shift_eq] at h
  rw [nodeOf, unsigned_and, unsigned_maxNode, Nat.and_two_pow_sub_one_eq_mod,
    unsigned_shiftRight_mod _ (by omega) (by omega)]

theorem unsigned_placeTimestamp (t : Int64) :
    unsigned (l.placeTimestamp t) = unsigned t * 2 ^ l.shift % 2 ^ 64 :=
  unsigned_shiftLeft t (by have := l.shift_le; omega)

theorem unsigned_placeNode (n : Int64) :
    unsigned (l.placeNode n) = unsigned n * 2 ^ l.sequenceBits % 2 ^ 64 :=
  unsigned_shiftLeft n (by have := l.sequenceBits_le; omega)

theorem unsigned_placeNode_of_lt {n : Int64} (hn : unsigned n < 2 ^ l.nodeBits) :
    unsigned (l.placeNode n) = unsigned n * 2 ^ l.sequenceBits := by
  have hlow := low_lt hn (s := 0) (by positivity)
  have hs := l.two_pow_shift_le
  rw [unsigned_placeNode, Nat.mod_eq_of_lt (by omega)]

/-- Placing a timestamp is packing what fits of it. -/
theorem unsigned_placeTimestamp_eq_pack (t : Int64) :
    unsigned (l.placeTimestamp t) = l.pack (unsigned t % 2 ^ (64 - l.shift)) 0 0 := by
  rw [unsigned_placeTimestamp, pack, Nat.zero_mul, Nat.add_zero, l.two_pow_word,
    Nat.mul_mod_mul_right]

/-! ## Packing and unpacking ids -/

/-- An id holds its fields, each reduced to its width. -/
theorem unsigned_encode (p : Parts) :
    unsigned (l.encode p) = l.pack (unsigned p.timestamp % 2 ^ (63 - l.shift))
      (unsigned p.node % 2 ^ l.nodeBits) (unsigned p.sequence % 2 ^ l.sequenceBits) := by
  have ht : unsigned (p.timestamp &&& l.maxTimestamp) =
      unsigned p.timestamp % 2 ^ (63 - l.shift) := by
    rw [unsigned_and, unsigned_maxTimestamp, Nat.and_two_pow_sub_one_eq_mod]
  have hn : unsigned (p.node &&& l.maxNode) = unsigned p.node % 2 ^ l.nodeBits := by
    rw [unsigned_and, unsigned_maxNode, Nat.and_two_pow_sub_one_eq_mod]
  have hlt : unsigned p.timestamp % 2 ^ (63 - l.shift) < 2 ^ (64 - l.shift) :=
    (Nat.mod_lt _ (by positivity)).trans_le (Nat.pow_le_pow_right (by decide) (by omega))
  rw [encode, unsigned_or, unsigned_or, unsigned_placeTimestamp_eq_pack, ht, Nat.mod_eq_of_lt hlt,
    unsigned_placeNode_of_lt l (by rw [hn]; exact Nat.mod_lt _ (by positivity)), hn, unsigned_and,
    unsigned_maxSequence, Nat.and_two_pow_sub_one_eq_mod,
    ← or_fields _ (Nat.mod_lt _ (by positivity)) (Nat.mod_lt _ (by positivity)),
    pack, Nat.zero_mul, Nat.add_zero]

variable {l}

theorem decode_of_pack {id : Int64} {t n s : Nat} (hid : unsigned id = l.pack t n s)
    (ht : t < 2 ^ 64) (hn : n < 2 ^ l.nodeBits) (hs : s < 2 ^ l.sequenceBits) :
    l.decode id = ⟨Int64.ofNat t, Int64.ofNat n, Int64.ofNat s⟩ := by
  have hn' := l.two_pow_nodeBits_le
  have hs' := l.two_pow_sequenceBits_le
  rw [decode]
  congr 1 <;> apply unsigned_injective
  · rw [unsigned_timestampOf, hid, pack_div_shift hn hs, unsigned_ofNat ht]
  · rw [unsigned_nodeOf, hid, pack_node hn hs, unsigned_ofNat (by omega)]
  · rw [unsigned_sequenceOf, hid, pack_sequence hs, unsigned_ofNat (by omega)]

theorem unsigned_encode_of_lt {t n s : Nat} (ht : t < 2 ^ (63 - l.shift))
    (hn : n < 2 ^ l.nodeBits) (hs : s < 2 ^ l.sequenceBits) :
    unsigned (l.encode ⟨Int64.ofNat t, Int64.ofNat n, Int64.ofNat s⟩) = l.pack t n s := by
  have ht63 : 2 ^ (63 - l.shift) ≤ 2 ^ 63 := Nat.pow_le_pow_right (by decide) (by omega)
  have hn' := l.two_pow_nodeBits_le
  have hs' := l.two_pow_sequenceBits_le
  simp only [unsigned_encode]
  rw [unsigned_ofNat (by omega), unsigned_ofNat (by omega), unsigned_ofNat (by omega),
    Nat.mod_eq_of_lt ht, Nat.mod_eq_of_lt hn, Nat.mod_eq_of_lt hs]

end Snowflake.Layout
