import Snowflake.Generator.Pool
import Mathlib.Algebra.BigOperators.Group.List.Basic
import Mathlib.Tactic.Ring
import Mathlib.Tactic.SplitIfs

/-!
# Quotas add up

The quotas of a pool are a division with remainder: every worker draws the quotient, and as many of
them as the remainder says draw one more. No sum of words wraps around, since a worker that draws
one more has at least that one in the count (`share_lt`). So the quotas of all workers add up to the
count (`sum_quotas`).

**Theorem (`quotas_balanced`).** The quotas of a pool are these shares. They are exact, no two of
them differ by more than one, and the larger ones come first.
-/

namespace Snowflake.Generator

variable {count threads i : UInt64}

/-! ## One quota -/

/-- A quotient with one more is no more than the count, if anything is left over. -/
theorem share_lt (ht : 0 < threads.toNat) (i : Nat) :
    count.toNat / threads.toNat + (if i < count.toNat % threads.toNat then 1 else 0) <
      UInt64.size := by
  have hcount : count.toNat < UInt64.size := count.toNat_lt
  have hdivision := Nat.div_add_mod count.toNat threads.toNat
  have hquotient : count.toNat / threads.toNat ≤ threads.toNat * (count.toNat / threads.toNat) :=
    Nat.le_mul_of_pos_left _ ht
  split_ifs <;> omega

theorem toNat_extra (count threads i : UInt64) :
    (if i < count % threads then 1 else 0 : UInt64).toNat =
      if i.toNat < count.toNat % threads.toNat then 1 else 0 := by
  simp only [UInt64.lt_iff_toNat_lt, UInt64.toNat_mod]
  split_ifs <;> rfl

theorem toNat_quota (ht : 0 < threads.toNat) :
    (quota count threads i).toNat = count.toNat / threads.toNat +
      if i.toNat < count.toNat % threads.toNat then 1 else 0 := by
  rw [quota, UInt64.toNat_add, UInt64.toNat_div, toNat_extra]
  exact Nat.mod_eq_of_lt (share_lt ht i.toNat)

/-! ## All quotas -/

/-- Shares of `q` each, and one more for the first `r`. -/
theorem sum_shares (n q r : Nat) :
    ((List.range n).map fun i => q + if i < r then 1 else 0).sum = n * q + min n r := by
  induction n with
  | zero => simp
  | succ n ih =>
    rw [List.range_succ, List.map_append, List.sum_append, ih, List.map_singleton,
      List.sum_singleton, Nat.add_mul]
    split_ifs <;> omega

theorem pairwise_shares (n q r : Nat) :
    ((List.range n).map fun i => q + if i < r then 1 else 0).Pairwise fun earlier later =>
      later ≤ earlier ∧ earlier ≤ later + 1 := by
  rw [List.pairwise_map]
  refine List.pairwise_lt_range.imp ?_
  intro i j hij
  split_ifs <;> omega

theorem map_quota (ht : 0 < threads.toNat) :
    ((List.range threads.toNat).map fun i => (quota count threads (UInt64.ofNat i)).toNat) =
      (List.range threads.toNat).map fun i =>
        count.toNat / threads.toNat + if i < count.toNat % threads.toNat then 1 else 0 := by
  refine List.map_congr_left fun i hi => ?_
  have hlt := (List.mem_range.1 hi).trans threads.toNat_lt
  rw [toNat_quota ht, UInt64.toNat_ofNat_of_lt' hlt]

/-- **Quotas.** Together they are the whole count. -/
theorem sum_quotas (ht : 0 < threads.toNat) :
    ((List.range threads.toNat).map fun i => (quota count threads (UInt64.ofNat i)).toNat).sum =
      count.toNat := by
  have hrest := Nat.mod_lt count.toNat ht
  rw [map_quota ht, sum_shares, Nat.min_eq_right hrest.le, Nat.div_add_mod]

theorem toNat_max_one (threads : UInt64) : 0 < (max threads 1).toNat := by
  rw [UInt64.toNat_max, UInt64.toNat_one]
  omega

/-- How many ids each worker has still to draw. -/
def Pool.quotas (p : Pool) : List Nat := p.workers.map Worker.remaining

theorem quotas_ofCount (register : Int64) (count threads : UInt64) :
    (Pool.ofCount register count threads).quotas =
      (List.range threads.toNat).map fun i => (quota count threads (UInt64.ofNat i)).toNat := by
  simp [Pool.quotas, Pool.ofCount, Function.comp_def]

/-- **The split.** However many ids are asked for and however many threads, at least one worker
draws. The workers have the quotient each, and the first ones, as many as the remainder says, have
one more. These quotas add up to the count; none is larger than one before it, or smaller by more
than one; and the only sum of words that they take never wraps around. -/
theorem quotas_balanced (register : Int64) (count threads : UInt64) :
    (Pool.ofCount register count (max threads 1)).quotas =
        (List.range (max threads 1).toNat).map (fun i => count.toNat / (max threads 1).toNat +
          if i < count.toNat % (max threads 1).toNat then 1 else 0) ∧
      (Pool.ofCount register count (max threads 1)).quotas.sum = count.toNat ∧
      (Pool.ofCount register count (max threads 1)).quotas.Pairwise (fun earlier later =>
        later ≤ earlier ∧ earlier ≤ later + 1) ∧
      ∀ i : UInt64, (count / max threads 1).toNat +
        (if i < count % max threads 1 then 1 else 0 : UInt64).toNat < UInt64.size := by
  have hpos := toNat_max_one threads
  have hquotas := quotas_ofCount register count (max threads 1)
  have hshares := hquotas.trans (map_quota hpos)
  refine ⟨hshares, ?_, ?_, ?_⟩
  · rw [hquotas, sum_quotas hpos]
  · rw [hshares]
    exact pairwise_shares _ _ _
  · intro i
    rw [UInt64.toNat_div, toNat_extra]
    exact share_lt hpos i.toNat

example : (Pool.ofCount 0 10 3).quotas = [4, 3, 3] := by decide

end Snowflake.Generator
