import Snowflake.Proofs.Packing
import Mathlib.Logic.Function.Basic

/-!
# Packing and unpacking are inverse

Unpacking loses nothing: the number of a word is packed from its three fields (`unsigned_eq_pack`),
so different words have different parts. Packing reduces each part to its width and leaves the sign
bit clear. One after the other they change only what one of them cannot see:

* `encode_decode`: a word comes back with its sign bit cleared.
* `decode_encode`: parts come back reduced to their widths, which are the remainders of the signed
  numbers, and never negative.

**Theorem (`encode_decode_inverse`)** puts these together for every layout. Where the shift is zero
the timestamp is the word itself, sign included, and where a field has no width it is always zero;
neither is a case of its own, since all is said of numbers.
-/

namespace Snowflake.Layout

open Word

variable {l : Layout} {p : Parts} {t n s : Nat}

/-! ## The whole word -/

theorem unsigned_eq_pack (l : Layout) (w : Int64) :
    unsigned w =
      l.pack (unsigned (l.timestampOf w)) (unsigned (l.nodeOf w)) (unsigned (l.sequenceOf w)) := by
  have hhigh : unsigned w / 2 ^ l.shift = unsigned w / 2 ^ l.sequenceBits / 2 ^ l.nodeBits := by
    rw [Nat.div_div_eq_div_mul, Nat.mul_comm, ← pow_shift]
  rw [unsigned_timestampOf, unsigned_nodeOf, unsigned_sequenceOf, pack_eq, hhigh,
    Nat.div_add_mod', Nat.div_add_mod]

theorem unsigned_nodeOf_lt (l : Layout) (w : Int64) : unsigned (l.nodeOf w) < 2 ^ l.nodeBits := by
  rw [unsigned_nodeOf]
  exact Nat.mod_lt _ (by positivity)

theorem unsigned_sequenceOf_lt (l : Layout) (w : Int64) :
    unsigned (l.sequenceOf w) < 2 ^ l.sequenceBits := by
  rw [unsigned_sequenceOf]
  exact Nat.mod_lt _ (by positivity)

theorem decode_injective (l : Layout) : Function.Injective l.decode := by
  intro a b h
  obtain ⟨ht, hn, hs⟩ := Parts.mk.injEq .. ▸ h
  apply unsigned_injective
  rw [unsigned_eq_pack l a, unsigned_eq_pack l b, ht, hn, hs]

theorem pack_mod_sign (hn : n < 2 ^ l.nodeBits) (hs : s < 2 ^ l.sequenceBits) :
    l.pack t n s % 2 ^ 63 = l.pack (t % 2 ^ (63 - l.shift)) n s := by
  have hword : 2 ^ 63 = 2 ^ l.shift * 2 ^ (63 - l.shift) :=
    (pow_mul_pow_sub 2 (l.shift_le.trans (by decide))).symm
  have hlow : l.pack t n s % 2 ^ l.shift = n * 2 ^ l.sequenceBits + s := by
    rw [pack, Nat.add_assoc, Nat.mul_comm t, Nat.mul_add_mod, Nat.mod_eq_of_lt (low_lt hn hs)]
  rw [hword, Nat.mod_mul, pack_div_shift hn hs, hlow, pack, Nat.mul_comm (2 ^ l.shift)]
  omega

theorem unsigned_clearSign (w : Int64) :
    unsigned (w &&& Int64.maxValue) = unsigned w % 2 ^ 63 := by
  rw [unsigned_and]
  exact Nat.and_two_pow_sub_one_eq_mod _ 63

/-- A word that is unpacked and packed again loses its sign bit. -/
theorem encode_decode (l : Layout) (id : Int64) :
    l.encode (l.decode id) = id &&& Int64.maxValue := by
  have hn := unsigned_nodeOf_lt l id
  have hs := unsigned_sequenceOf_lt l id
  apply unsigned_injective
  rw [unsigned_clearSign, unsigned_eq_pack l id, pack_mod_sign hn hs, unsigned_encode]
  show l.pack _ (unsigned (l.nodeOf id) % _) (unsigned (l.sequenceOf id) % _) = _
  rw [Nat.mod_eq_of_lt hn, Nat.mod_eq_of_lt hs]
  rfl

theorem encode_decode_of_nonneg {id : Int64} (h : 0 ≤ id) : l.encode (l.decode id) = id := by
  apply unsigned_injective
  rw [encode_decode, unsigned_clearSign, Nat.mod_eq_of_lt (zero_le_iff.1 h)]

/-! ## Parts -/

theorem zero_le_encode (l : Layout) (p : Parts) : 0 ≤ l.encode p := by
  rw [zero_le_iff, unsigned_encode, pack_lt_sign (Nat.mod_lt _ (by positivity))
    (Nat.mod_lt _ (by positivity))]
  exact Nat.mod_lt _ (by positivity)

/-- Parts that are packed and unpacked again are cut to their widths. -/
theorem decode_encode (l : Layout) (p : Parts) :
    l.decode (l.encode p) = ⟨Int64.ofNat (unsigned p.timestamp % 2 ^ (63 - l.shift)),
      Int64.ofNat (unsigned p.node % 2 ^ l.nodeBits),
      Int64.ofNat (unsigned p.sequence % 2 ^ l.sequenceBits)⟩ := by
  have ht : unsigned p.timestamp % 2 ^ (63 - l.shift) < 2 ^ 64 :=
    (Nat.mod_le _ _).trans_lt (unsigned_lt _)
  exact decode_of_pack (l.unsigned_encode p) ht (Nat.mod_lt _ (by positivity))
    (Nat.mod_lt _ (by positivity))

/-- Cut to its width, a part is the remainder of its number by the size of its field. -/
theorem toInt_decode_encode (l : Layout) (p : Parts) :
    (l.decode (l.encode p)).timestamp.toInt = p.timestamp.toInt % (l.maxTimestamp.toInt + 1) ∧
      (l.decode (l.encode p)).node.toInt = p.node.toInt % (l.maxNode.toInt + 1) ∧
      (l.decode (l.encode p)).sequence.toInt = p.sequence.toInt % (l.maxSequence.toInt + 1) := by
  have hn := l.nodeBits_le
  have hs := l.sequenceBits_le
  rw [decode_encode, toInt_maxTimestamp, toInt_maxNode, toInt_maxSequence]
  simp only [sub_add_cancel]
  exact ⟨toInt_ofNat_mod _ (by omega), toInt_ofNat_mod _ (by omega), toInt_ofNat_mod _ (by omega)⟩

/-- Each of the parts lies within its field. -/
structure InRange (l : Layout) (p : Parts) : Prop where
  timestamp : 0 ≤ p.timestamp ∧ p.timestamp ≤ l.maxTimestamp
  node : 0 ≤ p.node ∧ p.node ≤ l.maxNode
  sequence : 0 ≤ p.sequence ∧ p.sequence ≤ l.maxSequence

theorem toInt_emod_of_le {part max : Int64} (h : 0 ≤ part ∧ part ≤ max) :
    part.toInt % (max.toInt + 1) = part.toInt :=
  Int.emod_eq_of_lt (Int64.le_iff_toInt_le.1 h.1)
    (Int.lt_add_one_of_le (Int64.le_iff_toInt_le.1 h.2))

theorem decode_encode_of_inRange (h : l.InRange p) : l.decode (l.encode p) = p := by
  obtain ⟨ht, hn, hs⟩ := l.toInt_decode_encode p
  rw [toInt_emod_of_le h.timestamp, Int64.toInt_inj] at ht
  rw [toInt_emod_of_le h.node, Int64.toInt_inj] at hn
  rw [toInt_emod_of_le h.sequence, Int64.toInt_inj] at hs
  exact Parts.mk.injEq .. ▸ ⟨ht, hn, hs⟩

/-- **Packing and unpacking.** A word comes back with its sign bit cleared, different words have
different parts, and parts come back as the remainders by the sizes of their fields. -/
theorem encode_decode_inverse (l : Layout) :
    (∀ id, l.encode (l.decode id) = id &&& Int64.maxValue) ∧
    (∀ id, 0 ≤ id → l.encode (l.decode id) = id) ∧
    Function.Injective l.decode ∧
    (∀ p, 0 ≤ l.encode p) ∧
    (∀ p, (l.decode (l.encode p)).timestamp.toInt = p.timestamp.toInt % (l.maxTimestamp.toInt + 1) ∧
      (l.decode (l.encode p)).node.toInt = p.node.toInt % (l.maxNode.toInt + 1) ∧
      (l.decode (l.encode p)).sequence.toInt = p.sequence.toInt % (l.maxSequence.toInt + 1)) ∧
    ∀ p, l.InRange p → l.decode (l.encode p) = p :=
  ⟨l.encode_decode, fun _ => encode_decode_of_nonneg, l.decode_injective, l.zero_le_encode,
    l.toInt_decode_encode, fun _ => decode_encode_of_inRange⟩

/-- The largest parts of the standard layout, and an id of its seventh node. -/
theorem standard_encode_decode :
    0 ≤ (28673 : Int64) ∧ standard.encode (standard.decode 28673) = 28673 ∧
    standard.InRange ⟨2199023255551, 1023, 4095⟩ ∧
    standard.decode (standard.encode ⟨2199023255551, 1023, 4095⟩) =
      ⟨2199023255551, 1023, 4095⟩ := by
  have hid : 0 ≤ (28673 : Int64) := by decide
  have hparts : standard.InRange ⟨2199023255551, 1023, 4095⟩ :=
    ⟨by decide, by decide, by decide⟩
  obtain ⟨-, hwords, -, -, -, hback⟩ := encode_decode_inverse standard
  exact ⟨hid, hwords _ hid, hparts, hback _ hparts⟩

/-- With no bits for node and sequence, a negative word is a negative timestamp. -/
example : decode ⟨0, 0, by decide⟩ (-1) = ⟨-1, 0, 0⟩ ∧
    encode ⟨0, 0, by decide⟩ ⟨-1, -1, -1⟩ = Int64.maxValue := by decide

end Snowflake.Layout
