import Snowflake.Word
import Mathlib.Tactic.IntervalCases
import Mathlib.Tactic.NormNum
import Mathlib.Tactic.SplitIfs

/-!
# Words as numbers

A word is read in two ways: as a signed number, which is how words are compared, and as an
unsigned one, which is how their fields are packed. Shifts, masks and sums are arithmetic on the
unsigned number, modulo `2 ^ 64`.

The two readings agree up to the sign bit (`toInt_eq`), so a statement about the order of words
is one about their unsigned numbers as soon as these are known to lie below `2 ^ 63`.
-/

namespace Snowflake.Word

/-- The word read as an unsigned number. -/
def unsigned (w : Int64) : Nat := w.toBitVec.toNat

theorem unsigned_lt (w : Int64) : unsigned w < 2 ^ 64 := w.toBitVec.isLt

theorem unsigned_injective {a b : Int64} (h : unsigned a = unsigned b) : a = b :=
  Int64.toBitVec.inj (BitVec.eq_of_toNat_eq h)

theorem unsigned_inj {a b : Int64} : unsigned a = unsigned b ↔ a = b :=
  ⟨unsigned_injective, fun h => h ▸ rfl⟩

@[simp] theorem unsigned_zero : unsigned 0 = 0 := rfl

@[simp] theorem unsigned_one : unsigned 1 = 1 := rfl

/-! ## The sign -/

theorem toInt_eq (w : Int64) :
    w.toInt = if unsigned w < 2 ^ 63 then (unsigned w : Int) else unsigned w - 2 ^ 64 := by
  have h : w.toInt = _ := BitVec.toInt_eq_toNat_cond w.toBitVec
  rw [h, unsigned]
  split_ifs <;> omega

theorem toInt_of_lt {w : Int64} (h : unsigned w < 2 ^ 63) : w.toInt = unsigned w := by
  rw [toInt_eq, if_pos h]

theorem unsigned_of_nonneg {w : Int64} (h : 0 ≤ w.toInt) : (unsigned w : Int) = w.toInt := by
  have := unsigned_lt w
  rw [toInt_eq] at h ⊢
  split_ifs at h ⊢ <;> omega

theorem unsigned_eq_emod (w : Int64) : (unsigned w : Int) = w.toInt % 2 ^ 64 := by
  have := unsigned_lt w
  rw [toInt_eq]
  split_ifs <;> omega

theorem zero_le_iff {w : Int64} : 0 ≤ w ↔ unsigned w < 2 ^ 63 := by
  have := unsigned_lt w
  rw [Int64.le_iff_toInt_le, Int64.toInt_zero, toInt_eq]
  split_ifs <;> omega

theorem lt_iff_unsigned_lt {a b : Int64} (ha : 0 ≤ a) (hb : 0 ≤ b) :
    a < b ↔ unsigned a < unsigned b := by
  rw [Int64.lt_iff_toInt_lt, toInt_of_lt (zero_le_iff.1 ha), toInt_of_lt (zero_le_iff.1 hb),
    Int.ofNat_lt]

theorem unsigned_ofNat {n : Nat} (h : n < 2 ^ 64) : unsigned (Int64.ofNat n) = n :=
  Nat.mod_eq_of_lt h

/-- Cut to its lowest bits, a word is its signed number reduced to them. -/
theorem toInt_ofNat_mod (w : Int64) {k : Nat} (hk : k ≤ 63) :
    (Int64.ofNat (unsigned w % 2 ^ k)).toInt = w.toInt % 2 ^ k := by
  have hlt : unsigned w % 2 ^ k < 2 ^ 63 :=
    (Nat.mod_lt _ (by positivity)).trans_le (Nat.pow_le_pow_right (by decide) hk)
  have hdvd : (2 : Int) ^ k ∣ 2 ^ 64 := pow_dvd_pow 2 (by omega)
  rw [Int64.toInt_ofNat_of_lt hlt]
  push_cast
  rw [unsigned_eq_emod, Int.emod_emod_of_dvd _ hdvd]

/-! ## Bits and sums -/

@[simp] theorem unsigned_or (a b : Int64) : unsigned (a ||| b) = unsigned a ||| unsigned b := by
  simp [unsigned]

@[simp] theorem unsigned_and (a b : Int64) : unsigned (a &&& b) = unsigned a &&& unsigned b := by
  simp [unsigned]

theorem unsigned_add (a b : Int64) : unsigned (a + b) = (unsigned a + unsigned b) % 2 ^ 64 := by
  simp [unsigned]

theorem unsigned_add_of_lt {a b : Int64} (h : unsigned a + unsigned b < 2 ^ 64) :
    unsigned (a + b) = unsigned a + unsigned b := by
  rw [unsigned_add, Nat.mod_eq_of_lt h]

/-! ## Shifts -/

theorem smod_ofNat {k : Nat} (hk : k < 64) :
    (Int64.ofNat k).toBitVec.smod 64 = BitVec.ofNat 64 k := by
  interval_cases k <;> rfl

theorem unsigned_shiftLeft (w : Int64) {k : Nat} (hk : k < 64) :
    unsigned (w <<< Int64.ofNat k) = unsigned w * 2 ^ k % 2 ^ 64 := by
  have hm : k % 2 ^ 64 = k := Nat.mod_eq_of_lt (by omega)
  simp only [unsigned, Int64.toBitVec_shiftLeft, smod_ofNat hk, BitVec.shiftLeft_eq',
    BitVec.toNat_shiftLeft, BitVec.toNat_ofNat, hm, Nat.shiftLeft_eq]

theorem unsigned_shiftRightLogical (w : Int64) {k : Nat} (hk : k < 64) :
    unsigned (shiftRightLogical w k) = unsigned w / 2 ^ k := by
  show (w.toUInt64 >>> UInt64.ofNat k).toNat = _
  rw [UInt64.toNat_shiftRight, UInt64.toNat_ofNat', Nat.shiftRight_eq_div_pow,
    Nat.mod_eq_of_lt (by omega : k < 2 ^ 64), Nat.mod_eq_of_lt hk]
  rfl

/-- The shift that keeps the sign rounds the signed number down. -/
theorem toInt_shiftRight (w : Int64) {k : Nat} (hk : k < 64) :
    (w >>> Int64.ofNat k).toInt = w.toInt / 2 ^ k := by
  have hm : k % 2 ^ 64 = k := Nat.mod_eq_of_lt (by omega)
  have h : (w >>> Int64.ofNat k).toBitVec = w.toBitVec.sshiftRight k := by
    rw [Int64.toBitVec_shiftRight, smod_ofNat hk, BitVec.sshiftRight', BitVec.toNat_ofNat, hm]
  show (w >>> Int64.ofNat k).toBitVec.toInt = w.toBitVec.toInt / 2 ^ k
  rw [h, BitVec.toInt_sshiftRight, Int.shiftRight_eq_div_pow]
  norm_cast

/-- Shifted with its sign or without, a word has the same bits below the ones that came in. -/
theorem unsigned_shiftRight_mod (w : Int64) {k n : Nat} (hkn : k + n ≤ 64) (hk : k < 64) :
    unsigned (w >>> Int64.ofNat k) % 2 ^ n = unsigned w / 2 ^ k % 2 ^ n := by
  have hpow : (2 : Int) ^ 64 = 2 ^ (64 - k) * 2 ^ k := (pow_sub_mul_pow 2 hk.le).symm
  have hdvd : (2 : Int) ^ n ∣ 2 ^ (64 - k) := pow_dvd_pow 2 (by omega)
  obtain ⟨c, hc⟩ : ∃ c : Int, w.toInt = unsigned w + 2 ^ (64 - k) * 2 ^ k * c := by
    rw [← hpow, unsigned_eq_emod]
    exact ⟨w.toInt / 2 ^ 64, (Int.emod_add_mul_ediv _ _).symm⟩
  have h64 : (2 : Int) ^ n ∣ 2 ^ 64 := pow_dvd_pow 2 (by omega)
  have : ((unsigned (w >>> Int64.ofNat k) % 2 ^ n : Nat) : Int) =
      (unsigned w / 2 ^ k % 2 ^ n : Nat) := by
    push_cast
    rw [unsigned_eq_emod, Int.emod_emod_of_dvd _ h64, toInt_shiftRight w hk, hc,
      mul_right_comm, Int.add_mul_ediv_right _ _ (by positivity)]
    obtain ⟨d, hd⟩ := hdvd
    rw [hd, mul_assoc, Int.add_mul_emod_self_left]
  exact_mod_cast this

/-! ## Saturation -/

theorem toInt_ofIntClamp (n : Int) :
    (Int64.ofIntClamp n).toInt = max (-2 ^ 63) (min (2 ^ 63 - 1) n) := by
  have hmin := Int64.toInt_minValue
  have hmax := Int64.toInt_maxValue
  unfold Int64.ofIntClamp
  split_ifs with hl hr
  · rw [Int64.toInt_ofIntLE]; omega
  · rw [hmax]; omega
  · rw [hmin]; omega

theorem toInt_subSaturating (a b : Int64) :
    (subSaturating a b).toInt = max (-2 ^ 63) (min (2 ^ 63 - 1) (a.toInt - b.toInt)) :=
  toInt_ofIntClamp _

theorem toInt_addSaturating (a b : Int64) :
    (addSaturating a b).toInt = max (-2 ^ 63) (min (2 ^ 63 - 1) (a.toInt + b.toInt)) :=
  toInt_ofIntClamp _

theorem addSaturating_of_gt {a b : Int64} (h : Int64.maxValue.toInt < a.toInt + b.toInt) :
    addSaturating a b = Int64.maxValue := by
  rw [Int64.toInt_maxValue] at h
  apply Int64.toInt.inj
  rw [toInt_addSaturating, Int64.toInt_maxValue]
  omega

/-! ## Checked sums -/

theorem inRange_iff {n : Int} : InRange n ↔ -2 ^ 63 ≤ n ∧ n < 2 ^ 63 := by
  have hmin := Int64.toInt_minValue
  have hmax := Int64.toInt_maxValue
  unfold InRange
  omega

theorem inRange_toInt (w : Int64) : InRange w.toInt := inRange_iff.2 ⟨w.le_toInt, w.toInt_lt⟩

theorem toInt_add_of_inRange {a b : Int64} (h : InRange (a.toInt + b.toInt)) :
    (a + b).toInt = a.toInt + b.toInt := by
  obtain ⟨hlow, hhigh⟩ := inRange_iff.1 h
  rw [Int64.toInt_add, Int.bmod_eq_of_le (by omega) (by omega)]

/-- A checked sum is the word of the sum, as long as there is one. -/
theorem addChecked?_eq_some_iff {a b c : Int64} :
    addChecked? a b = some c ↔ c.toInt = a.toInt + b.toInt := by
  unfold addChecked?
  split_ifs with h
  · rw [Option.some.injEq, ← toInt_add_of_inRange h, Int64.toInt_inj, eq_comm]
  · refine iff_of_false nofun fun hc => h ?_
    rw [← hc]
    exact inRange_toInt c

theorem addChecked?_eq_none_iff {a b : Int64} :
    addChecked? a b = none ↔ ¬InRange (a.toInt + b.toInt) := by
  simp [addChecked?]

/-- Where there is a checked sum, the saturating one is the same. -/
theorem addChecked?_eq_addSaturating {a b : Int64} (h : InRange (a.toInt + b.toInt)) :
    addChecked? a b = some (addSaturating a b) := by
  rw [inRange_iff] at h
  rw [addChecked?_eq_some_iff, toInt_addSaturating]
  omega

end Snowflake.Word
