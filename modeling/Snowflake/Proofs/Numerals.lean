import Snowflake.Text.Blank
import Snowflake.Text.Numeral
import Snowflake.Proofs.Word

/-!
# Numerals that are read back

What is written in decimal is read back as the number that was written: the digits of a natural
number (`digits?_toDigits`), and a signed word with its sign (`word?_word`).

An unsigned numeral is a numeral without a minus sign (`unsigned?_eq_some_iff`). No numeral contains
a blank, so trimming leaves it as it is (`trim_of_integer?`).
-/

namespace Snowflake.Text

variable {cs : List Char}

theorem ne_of_isDigit {c d : Char} (hc : c.isDigit) (hd : d.isDigit = false) : c ≠ d :=
  fun hcd => Bool.false_ne_true (hd.symm.trans (hcd ▸ hc))

theorem exists_digit_toDigits (n : Nat) :
    ∃ c ds, Nat.toDigits 10 n = c :: ds ∧ c.isDigit ∧ ∀ d ∈ ds, d.isDigit := by
  obtain ⟨c, ds, hcs⟩ := List.exists_cons_of_ne_nil (Nat.toDigits_ne_nil (n := n) (b := 10))
  have hdigit : ∀ d ∈ c :: ds, d.isDigit := fun d hd =>
    Nat.isDigit_of_mem_toDigits (by decide) (by decide) (hcs.symm ▸ hd)
  exact ⟨c, ds, hcs, List.forall_mem_cons.1 hdigit⟩

theorem toList_integer_of_nonneg {n : Int} (h : 0 ≤ n) :
    (integer n).toList = Nat.toDigits 10 n.natAbs := by
  rw [integer, if_neg (Int.not_lt.2 h), Nat.toList_repr]

theorem toList_integer_of_neg {n : Int} (h : n < 0) :
    (integer n).toList = '-' :: Nat.toDigits 10 n.natAbs := by
  rw [integer, if_pos h, String.toList_append, Nat.toList_repr]
  rfl

theorem digits?_toDigits (n : Nat) : digits? (Nat.toDigits 10 n) = some n := by
  have hdigits : (Nat.toDigits 10 n).all Char.isDigit := by
    rw [List.all_eq_true]
    intro c hc
    exact Nat.isDigit_of_mem_toDigits (by decide) (by decide) hc
  rw [digits?, if_pos ⟨Nat.toDigits_ne_nil, hdigits⟩, Nat.ofDigitChars_ten_toDigits]

theorem integer?_toDigits (n : Nat) : integer? (Nat.toDigits 10 n) = some (n : Int) := by
  have hread := congrArg (Option.map Int.ofNat) (digits?_toDigits n)
  have hdigit : ∀ c ∈ Nat.toDigits 10 n, c.isDigit := fun c =>
    Nat.isDigit_of_mem_toDigits (by decide) (by decide)
  generalize Nat.toDigits 10 n = cs at hread hdigit
  unfold integer?
  split
  · exact absurd (hdigit '+' List.mem_cons_self) (by decide)
  · exact absurd (hdigit '-' List.mem_cons_self) (by decide)
  · exact hread

theorem integer?_integer (n : Int) : integer? (integer n).toList = some n := by
  unfold integer
  split_ifs with hneg
  · have hread : integer? ('-' :: Nat.toDigits 10 n.natAbs) = some (-(n.natAbs : Int)) := by
      simp [integer?, digits?_toDigits]
    rw [String.toList_append, Nat.toList_repr]
    exact hread.trans (congrArg some (by omega))
  · rw [Nat.toList_repr, integer?_toDigits]
    exact congrArg some (by omega)

/-- **Words.** A word that is written in decimal is read back. -/
theorem word?_word (w : Int64) : word? (word w).toList = some w := by
  simp [word?, word, integer?_integer, Word.inRange_toInt]

theorem word_injective : Function.Injective word := by
  intro a b h
  exact Option.some.inj ((word?_word a).symm.trans (h ▸ word?_word b))

/-! ## Signs and blanks -/

/-- The numerals without a minus sign, below a bound, are the unsigned ones. -/
theorem unsigned?_eq_some_iff {bound n : Nat} :
    unsigned? bound cs = some n ↔
      cs.head? ≠ some '-' ∧ integer? cs = some (n : Int) ∧ n < bound := by
  unfold unsigned?
  split
  next r => simp [integer?, Option.filter_eq_some_iff]
  next hplus =>
    by_cases hminus : cs.head? = some '-'
    · obtain ⟨r, rfl⟩ := List.head?_eq_some_iff.1 hminus
      have hnone : digits? ('-' :: r) = none := by simp [digits?, Char.isDigit]
      simp [hnone]
    · have hread : integer? cs = (digits? cs).map Int.ofNat := by
        unfold integer?
        split
        next r => exact absurd rfl (hplus r)
        next r => exact absurd rfl hminus
        next => rfl
      simp [hread, hminus, Option.filter_eq_some_iff]

theorem trimStart_of_not_blank (h : ∀ c ∈ cs, isBlank c = false) : trimStart cs = cs := by
  cases cs with
  | nil => rfl
  | cons c cs => rw [trimStart, List.dropWhile_cons_of_neg (by simp [h c])]

theorem trimEnd_of_not_blank (h : ∀ c ∈ cs, isBlank c = false) : trimEnd cs = cs := by
  have hrev : trimStart cs.reverse = cs.reverse :=
    trimStart_of_not_blank fun c hc => h c (List.mem_reverse.1 hc)
  exact (congrArg List.reverse hrev).trans cs.reverse_reverse

theorem trim_of_not_blank (h : ∀ c ∈ cs, isBlank c = false) : trim cs = cs := by
  rw [trim, trimStart_of_not_blank h, trimEnd_of_not_blank h]

theorem not_blank_of_isDigit {c : Char} (h : c.isDigit) : isBlank c = false := by
  have hrange : 48 ≤ c.toNat ∧ c.toNat ≤ 57 := by
    simpa [Char.isDigit, UInt32.le_iff_toNat_le] using h
  simp [isBlank, inRanges, blankRanges]
  omega

theorem not_blank_of_digits? {n : Nat} (h : digits? cs = some n) :
    ∀ c ∈ cs, isBlank c = false := by
  unfold digits? at h
  split_ifs at h with hdigits
  exact fun c hc => not_blank_of_isDigit (List.all_eq_true.1 hdigits.2 c hc)

theorem not_blank_of_integer? {n : Int} (h : integer? cs = some n) :
    ∀ c ∈ cs, isBlank c = false := by
  have hsigned : ∀ {c : Char} {ds : List Char} {m : Nat}, isBlank c = false →
      digits? ds = some m → ∀ d ∈ c :: ds, isBlank d = false := fun hc hds =>
    List.forall_mem_cons.2 ⟨hc, not_blank_of_digits? hds⟩
  unfold integer? at h
  split at h
  next r =>
    obtain ⟨m, hm, -⟩ := Option.map_eq_some_iff.1 h
    exact hsigned (by decide) hm
  next r =>
    cases hm : digits? r with
    | none => simp [hm] at h
    | some m => exact hsigned (by decide) hm
  next =>
    obtain ⟨m, hm, -⟩ := Option.map_eq_some_iff.1 h
    exact not_blank_of_digits? hm

/-- **Blanks.** A text with blanks around it is no numeral. -/
theorem trim_of_integer? {n : Int} (h : integer? cs = some n) : trim cs = cs :=
  trim_of_not_blank (not_blank_of_integer? h)

theorem not_blank_of_mem_word {w : Int64} {c : Char} (h : c ∈ (word w).toList) :
    isBlank c = false :=
  not_blank_of_integer? (integer?_integer w.toInt) c h

end Snowflake.Text
