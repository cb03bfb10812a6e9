import Snowflake.Proofs.Minting
import Mathlib.Data.Bool.AllAny

/-!
# Ids are unique and ordered

**Theorem (`ids_strictly_increase`).** As long as no reading lies past the layout's largest
timestamp, the ids of a run are strictly ascending in the order of their exchanges, for any
number of callers, any order of their accesses, and any clock, also one that jumps backwards. So
no id is handed out twice, and an attempt that begins after another has ended gets a larger id
than that one.

Nothing is assumed of the callers. They may hold words that have long been replaced, with readings
older than the register: an exchange can only succeed on the word that the register holds, so
the commits form a chain, and readings within the layout last.
-/

namespace Snowflake.Generator

variable {g : Generator} {w : Recording} {moves : List (Nat × Access)}

/-- On readings within the layout, the ids of a run ascend. -/
theorem ascending_run {callers : Nat} (h : (Recording.fresh callers).run g moves = some w)
    (hr : ∀ reading ∈ readings moves, g.relative reading ≤ g.layout.maxTimestamp) :
    Ascending w.shared.ids :=
  (mints_run h).ascending fun r hmem => hr r (committed_subset h hmem)

/-- One attempt ended before another, and if both have ids, its id is the smaller one. -/
def Record.Precedes (r r' : Record) : Prop :=
  r.endedAt < r'.endedAt ∧ ∀ id, r.id? = some id → ∀ id', r'.id? = some id' → id < id'

/-- Of two different records, one precedes the other. -/
theorem records_ordered (h : w.Timed) (hids : w.shared.ids.Pairwise (· < ·)) {r r' : Record}
    (hr : r ∈ w.records) (hr' : r' ∈ w.records) (hne : r ≠ r') : r.Precedes r' ∨ r'.Precedes r := by
  rw [ids_eq_records h, List.pairwise_filterMap] at hids
  have hall : w.records.Pairwise Record.Precedes := h.sorted.and hids
  have : Std.Symm fun a b : Record => a.Precedes b ∨ b.Precedes a := ⟨fun _ _ => Or.symm⟩
  exact (hall.imp Or.inl).forall (R := fun a b => a.Precedes b ∨ b.Precedes a) hr hr' hne

/-- **Uniqueness and order.** On readings within the layout, the ids are strictly ascending in
the order of their exchanges; no two attempts have the same id, and one that begins after
another has ended has the larger id. -/
theorem ids_strictly_increase (g : Generator) {callers : Nat} {moves : List (Nat × Access)}
    {s : Shared} (h : (Shared.fresh callers).run g moves = some s)
    (hr : ∀ reading ∈ readings moves, g.relative reading ≤ g.layout.maxTimestamp) :
    s.ids.Pairwise (· < ·) ∧ s.history = (g.records callers moves).map Record.ended ∧
      (∀ r ∈ g.records callers moves, r.Faithful moves) ∧
      ∀ r ∈ g.records callers moves, ∀ r' ∈ g.records callers moves, ∀ id id',
        r.id? = some id → r'.id? = some id' →
          (id = id' → r = r') ∧ (r.endedAt < r'.loadedAt → id < id') := by
  obtain ⟨w, hw, rfl, hrecords⟩ := Recording.exists_of_run h
  have htimed := Recording.timed_run hw
  have hids := (ascending_run hw hr).2
  have hschedule : w.schedule = moves := Recording.schedule_run hw
  rw [hrecords]
  refine ⟨hids, htimed.history, hschedule ▸ htimed.records, ?_⟩
  intro r hmem r' hmem' id id' hid hid'
  refine ⟨?_, ?_⟩
  · rintro rfl
    by_contra hne
    rcases records_ordered htimed hids hmem hmem' hne with ⟨-, hlt⟩ | ⟨-, hlt⟩
    · exact Int64.lt_irrefl (hlt id hid id hid')
    · exact Int64.lt_irrefl (hlt id hid' id hid)
  · intro hbefore
    have hfaithful := htimed.records r' hmem'
    have hend := hfaithful.loaded_lt.trans_le hfaithful.read_le
    have hne : r ≠ r' := by rintro rfl; omega
    rcases records_ordered htimed hids hmem hmem' hne with ⟨-, hlt⟩ | ⟨hlt, -⟩
    · exact hlt id hid id' hid'
    · omega

/-- The ids of the race. -/
theorem race_strictly_increase : ∃ s, (Shared.fresh 2).run paired race = some s ∧
    s.ids = [22, 23, 38] ∧ s.ids.Pairwise (· < ·) := by
  have hsome : ((Shared.fresh 2).run paired race).isSome := by decide +kernel
  obtain ⟨s, hs⟩ := Option.isSome_iff_exists.1 hsome
  have hids : ((Shared.fresh 2).run paired race).map Shared.ids = some [22, 23, 38] := by
    decide +kernel
  rw [hs] at hids
  have hfits : ∀ reading ∈ readings race, paired.relative reading ≤ paired.layout.maxTimestamp :=
    List.all_iff_forall_prop.1 (by decide +kernel)
  exact ⟨s, hs, Option.some.inj hids, (ids_strictly_increase paired hs hfits).1⟩

end Snowflake.Generator
