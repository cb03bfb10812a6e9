import Snowflake.Proofs.Uniqueness
import Mathlib.Data.Set.Defs

/-!
# The end of the timestamps

No reading is checked against the layout's largest timestamp. The first one past it reaches the
sign bit, and the id is negative. Readings that no longer fit above the shift lose bits, so the
register holds less than was committed; the same reading then seems later than the register, and
mints the same id again.

**Theorem (`ids_ascend_iff`).** The ids of a run are non-negative and strictly ascending exactly
if the readings that it committed last. Of a clock, every run has such ids exactly if none of its
readings lies past the largest timestamp: one reading too far is enough, for a single caller that
makes two attempts on it (`relative_le_of_ascending`).
-/

namespace Snowflake.Generator

open Layout

variable {g : Generator} {reading next : Int64}

/-! ## One caller alone -/

/-- A register that a single caller has to itself, with the ids minted so far. -/
def alone (register : Int64) (ids : List Int64) : Shared :=
  { register, phases := [.idle], history := ids.map fun id => ⟨0, .ok (.ready id)⟩ }

theorem ids_alone (register : Int64) (ids : List Int64) : (alone register ids).ids = ids := by
  simp only [alone, Shared.ids, List.filterMap_map]
  exact List.filterMap_some

/-- The accesses of an attempt by the only caller that ends with an exchange. -/
def solo (reading : Int64) : List (Nat × Access) := [(0, .load), (0, .read reading), (0, .exchange)]

theorem readings_solo (reading : Int64) (moves : List (Nat × Access)) :
    readings (solo reading ++ moves) = reading :: readings moves := rfl

theorem run_solo {w : Int64} {ids : List Int64} (hp : g.propose w reading = .commit next)
    (moves : List (Nat × Access)) :
    (alone w ids).run g (solo reading ++ moves) =
      (alone next (ids ++ [next ||| g.stamp])).run g moves := by
  simp [alone, solo, Shared.run, Shared.step?, advance?, hp, commit, Register.exchange]

/-! ## One reading too far -/

/-- A reading that is not kept whole seems later than itself, and is committed as the same word
again. -/
theorem propose_again (hpos : 0 < (g.relative reading).toInt)
    (hcut : g.layout.kept (g.relative reading) < g.relative reading) :
    g.propose (g.layout.placeTimestamp (g.relative reading)) reading =
      .commit (g.layout.placeTimestamp (g.relative reading)) := by
  have hholds := holds_placeTimestamp (l := g.layout) hpos.le
  refine propose_later hholds ?_
  rw [← toInt_kept hpos.le]
  exact Int64.lt_iff_toInt_lt.1 hcut

/-- If all runs on a reading have ascending ids, it fits the layout. -/
theorem relative_le_of_ascending
    (h : ∀ callers moves s, (Shared.fresh callers).run g moves = some s →
      (∀ r ∈ readings moves, r = reading) → Ascending s.ids) :
    g.relative reading ≤ g.layout.maxTimestamp := by
  by_contra hpast
  rw [Int64.not_le] at hpast
  have hpos : 0 < (g.relative reading).toInt :=
    g.layout.zero_le_maxTimestamp.trans_lt (Int64.lt_iff_toInt_lt.1 hpast)
  set next := g.layout.placeTimestamp (g.relative reading)
  -- The first attempt commits the reading, and its id shows that not all of it is kept.
  have hp : g.propose 0 reading = .commit next := propose_later holds_zero hpos
  have hrun : (alone 0 []).run g (solo reading ++ []) = some (alone next [next ||| g.stamp]) :=
    run_solo hp []
  have honce : ∀ r ∈ readings (solo reading ++ []), r = reading := fun r => List.mem_singleton.1
  have hfirst := h 1 _ _ hrun honce
  rw [ids_alone] at hfirst
  have hkept := (zero_le_committed holds_zero hp).1 (hfirst.1 _ List.mem_cons_self)
  -- So the second one commits the same word again.
  have hagain : g.propose next reading = .commit next :=
    propose_again hpos (Int64.lt_of_le_of_lt hkept hpast)
  have hrun₂ : (alone 0 []).run g (solo reading ++ (solo reading ++ [])) =
      some (alone next [next ||| g.stamp, next ||| g.stamp]) :=
    (run_solo hp _).trans (run_solo hagain [])
  have htwice : ∀ r ∈ readings (solo reading ++ (solo reading ++ [])), r = reading := by
    rw [readings_solo]
    exact List.forall_mem_cons.2 ⟨rfl, honce⟩
  have hboth := h 1 _ _ hrun₂ htwice
  rw [ids_alone] at hboth
  exact Int64.lt_irrefl (List.rel_of_pairwise_cons hboth.2 List.mem_cons_self)

/-! ## Runs and clocks -/

/-- **Exhaustion.** The ids of a run ascend exactly if its committed readings last; those of all
runs on a clock do exactly if no reading of the clock lies past the largest timestamp. -/
theorem ids_ascend_iff (g : Generator) :
    (∀ callers moves s, (Shared.fresh callers).run g moves = some s →
      (Ascending s.ids ↔
        g.layout.Lasting ((committed (g.records callers moves)).map g.relative))) ∧
    ∀ clock : Set Int64,
      (∀ callers moves s, (Shared.fresh callers).run g moves = some s →
        (∀ reading ∈ readings moves, reading ∈ clock) → Ascending s.ids) ↔
      ∀ reading ∈ clock, g.relative reading ≤ g.layout.maxTimestamp := by
  refine ⟨fun callers moves s h => ?_, fun clock => ⟨fun h reading hmem => ?_, ?_⟩⟩
  · obtain ⟨w, hw, rfl, hrecords⟩ := Recording.exists_of_run h
    rw [hrecords]
    exact (mints_run hw).ascending_iff
  · refine relative_le_of_ascending fun callers moves s hs hr => h callers moves s hs ?_
    intro r hmem'
    rw [hr r hmem']
    exact hmem
  · intro hfits callers moves s hs hr
    obtain ⟨w, hw, rfl, -⟩ := Recording.exists_of_run hs
    exact ascending_run hw fun reading hmem => hfits reading (hr reading hmem)

/-- Node 7 of the standard layout, with no offset. -/
def seventh : Generator := ⟨.standard, 7, 0, by decide, by decide, by decide⟩

/-- One millisecond past its largest timestamp, the first id is negative. -/
theorem seventh_not_ascending :
    ∃ s, (Shared.fresh 1).run seventh (solo 2199023255552) = some s ∧ ¬ Ascending s.ids := by
  have hrun : (Shared.fresh 1).run seventh (solo 2199023255552) =
      some (alone Int64.minValue [-9223372036854747136]) := by decide +kernel
  refine ⟨_, hrun, ?_⟩
  rw [ids_alone]
  exact fun h => absurd (h.1 _ List.mem_cons_self) (by decide)

end Snowflake.Generator
