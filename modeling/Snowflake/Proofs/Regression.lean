import Snowflake.Proofs.Construction
import Snowflake.Proofs.Sightings

/-!
# A clock that does not regress is never taken for one that does

An attempt reads the register before the clock. Whatever timestamp it saw there had been committed
before, on a reading that some caller took earlier still; and what is kept of a reading is never
more than the reading, even if bits are lost at the top. So if the attempt's own reading lies
before that timestamp, it lies before a reading that was taken earlier.

**Theorem (`clock_not_regressed`).** If the readings never decrease in the order in which they are
taken, by whichever caller, from the one of the construction on, no attempt ends with an error. The
readings may be as large as they like.
-/

namespace Snowflake.Generator

open Layout

variable {g : Generator} {seen held reading : Int64}

/-! ## Timestamps and readings -/

theorem lt_of_relative_lt {a b : Int64} (h : (g.relative a).toInt < (g.relative b).toInt) :
    a < b := by
  rw [toInt_relative, toInt_relative] at h
  rw [Int64.lt_iff_toInt_lt]
  omega

theorem relative_nonneg (h : g.offset ≤ reading) : 0 ≤ (g.relative reading).toInt := by
  have := Int64.le_iff_toInt_le.1 h
  rw [toInt_relative]
  omega

/-- The register is fresh, or its timestamp is not after one of the readings that led to it. -/
theorem Mints.timestamp_le {readings ids : List Int64} {w : Int64} (h : Mints g readings w ids) :
    ∃ t s, g.layout.Holds w t s ∧
      (t = 0 ∨ ∃ reading ∈ readings, (t : Int) ≤ (g.relative reading).toInt) := by
  cases h with
  | fresh => exact ⟨0, 0, holds_zero, Or.inl rfl⟩
  | @commit readings ids w reading next h hp =>
    obtain ⟨t, s, hholds, -⟩ := h.last
    obtain ⟨t', s', hnext, hkept, hcase⟩ := propose_commit hholds hp
    refine ⟨t', s', hnext, Or.inr ⟨reading, by simp, ?_⟩⟩
    have hnonneg : 0 ≤ (g.relative reading).toInt := by omega
    have hle := toInt_kept_le (l := g.layout) hnonneg
    omega

/-! ## Attempts that end with an error -/

/-- An attempt that ended with an error took a reading before the offset, or one before a reading
that had been committed by its load. -/
theorem earlier_reading_of_error {w : Recording} (h : w.Sighted g) {r : Record}
    (hr : r ∈ w.records) {e : Error} (he : r.outcome = .error e) :
    r.reading < g.offset ∨ ∃ r' ∈ w.records, r'.endedAt < r.loadedAt ∧ r.reading < r'.reading := by
  obtain ⟨seen, held, hsettles⟩ := h.settled r hr
  obtain ⟨t, s, hholds, hfrom⟩ := hsettles.saw.timestamp_le
  have hbefore := (settle_error (hsettles.outcome.symm.trans he)).1
  rw [Int64.lt_iff_toInt_lt, hholds.toInt_timestampOf] at hbefore
  rcases hfrom with rfl | ⟨reading, hmem, hle⟩
  · refine Or.inl (Int64.not_le.1 fun hoffset => ?_)
    have := relative_nonneg hoffset
    omega
  · obtain ⟨r', hr', rfl⟩ := List.mem_map.1 hmem
    have hended := List.mem_of_mem_filter hr'
    exact Or.inr ⟨r', mem_of_mem_endedBefore hended, endedAt_lt_of_mem_endedBefore hended,
      lt_of_relative_lt (hbefore.trans_le hle)⟩

/-! ## Readings in order -/

/-- Readings are related as their accesses are ordered in the schedule. -/
theorem readings_rel {R : Int64 → Int64 → Prop} {moves : List (Nat × Access)}
    (h : (readings moves).Pairwise R) {k k' i i' : Nat} {a b : Int64}
    (hk : moves[k]? = some (i, .read a)) (hk' : moves[k']? = some (i', .read b)) (hlt : k < k') :
    R a b := by
  rw [readings, List.pairwise_filterMap, List.pairwise_iff_getElem] at h
  obtain ⟨hlen, hget⟩ := List.getElem?_eq_some_iff.1 hk
  obtain ⟨hlen', hget'⟩ := List.getElem?_eq_some_iff.1 hk'
  exact h k k' hlen hlen' hlt a (by rw [hget]; rfl) b (by rw [hget']; rfl)

/-- **No false regression.** On a clock whose readings never decrease, from the one of the
construction on and over all callers, every attempt ends without an error. -/
theorem clock_not_regressed {layout : Layout} {nodeId offset start : Int64} {g : Generator}
    {events : List Event} (hg : create layout nodeId offset start = .ok (g, events))
    {callers : Nat} {moves : List (Nat × Access)} {s : Shared}
    (h : (Shared.fresh callers).run g moves = some s)
    (hr : (start :: readings moves).Pairwise (· ≤ ·)) :
    ∀ e ∈ s.history, ∃ status, e.outcome = .ok status := by
  obtain ⟨⟨-, -, rfl⟩, hstart, -⟩ := create_eq_ok_iff.1 hg
  obtain ⟨hfirst, hsorted⟩ := List.pairwise_cons.1 hr
  obtain ⟨w, hw, rfl, -⟩ := Recording.exists_of_run h
  have hfaithful := Recording.faithful_run hw
  intro e he
  rw [(Recording.timed_run hw).history] at he
  obtain ⟨r, hmem, rfl⟩ := List.mem_map.1 he
  show ∃ status, r.outcome = .ok status
  cases hout : r.outcome with
  | ok status => exact ⟨status, rfl⟩
  | error cause =>
    exfalso
    have hread := (hfaithful r hmem).read
    rcases earlier_reading_of_error (Recording.sighted_run hw) hmem hout with
      hlt | ⟨r', hmem', hended, hlt⟩
    · have hle := hfirst r.reading (List.mem_filterMap.2 ⟨_, List.mem_of_getElem? hread, rfl⟩)
      exact Int64.lt_irrefl (Int64.lt_of_lt_of_le hlt (Int64.le_trans hstart hle))
    · -- The other reading was taken before that attempt ended, so before this one began.
      have hf' := hfaithful r' hmem'
      have horder : r'.readAt < r.readAt :=
        (hf'.read_le.trans_lt hended).trans (hfaithful r hmem).loaded_lt
      exact Int64.lt_irrefl (Int64.lt_of_lt_of_le hlt (readings_rel hsorted hf'.read hread horder))

/-- No attempt of the surge ends with an error, although its last readings are cut in the
register. -/
theorem surge_not_regressed :
    create ⟨1, 1, by decide⟩ 1 1000 1002 = .ok (paired, [.created ⟨1, 1, by decide⟩ 1 1000]) ∧
      (1002 :: readings surge).Pairwise (· ≤ ·) ∧
      ∃ s, (Shared.fresh 2).run paired surge = some s ∧
        ∀ e ∈ s.history, ∃ status, e.outcome = .ok status := by
  have hg : create ⟨1, 1, by decide⟩ 1 1000 1002 =
      .ok (paired, [.created ⟨1, 1, by decide⟩ 1 1000]) := rfl
  have hsorted : (1002 :: readings surge).Pairwise (· ≤ ·) := by decide +kernel
  have hsome : ((Shared.fresh 2).run paired surge).isSome := by decide +kernel
  obtain ⟨s, hs⟩ := Option.isSome_iff_exists.1 hsome
  exact ⟨hg, hsorted, s, hs, clock_not_regressed hg hs hsorted⟩

end Snowflake.Generator
