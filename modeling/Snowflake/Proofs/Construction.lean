import Snowflake.Generator
import Mathlib.Tactic.SplitIfs

/-!
# Accepted generators

A generator is built from valid settings on a clock that has reached the offset, and from
nothing else (`create_eq_ok_iff`). So the settings of an accepted generator are those that were
asked for, and the reading of the construction is not before the offset. Otherwise the generator is
refused for the first fault: of the node id, then of the offset, then of the clock
(`create_eq_error_iff`).
-/

namespace Snowflake.Generator

variable {layout : Layout} {nodeId offset now : Int64} {g : Generator} {events : List Event}

theorem ofSettings_eq_ok_iff :
    ofSettings layout nodeId offset = .ok g ↔
      g.layout = layout ∧ g.nodeId = nodeId ∧ g.offset = offset := by
  constructor
  · intro h
    unfold ofSettings at h
    split at h
    · split at h
      · cases h
        exact ⟨rfl, rfl, rfl⟩
      · cases h
    · cases h
  · rintro ⟨rfl, rfl, rfl⟩
    simp only [ofSettings, dif_pos (And.intro g.nodeId_nonneg g.nodeId_le), dif_pos g.offset_nonneg]

theorem start_eq_ok_iff {g' : Generator} :
    g.start now = .ok (g', events) ↔
      g' = g ∧ g.offset ≤ now ∧ events = [.created g.layout g.nodeId g.offset] := by
  unfold start
  by_cases h : now < g.offset
  · simp [if_pos h, Int64.not_le.2 h]
  · simp [if_neg h, Int64.not_lt.1 h, eq_comm]

/-- **Acceptance.** A generator is accepted exactly if it has the settings that were asked for and
the clock has reached the offset. -/
theorem create_eq_ok_iff :
    create layout nodeId offset now = .ok (g, events) ↔
      (g.layout = layout ∧ g.nodeId = nodeId ∧ g.offset = offset) ∧ offset ≤ now ∧
        events = [.created layout nodeId offset] := by
  unfold create
  constructor
  · intro h
    cases hs : ofSettings layout nodeId offset with
    | error e => rw [hs] at h; cases h
    | ok g₀ =>
      rw [hs] at h
      obtain ⟨rfl, hnow, hevents⟩ := start_eq_ok_iff.1 h
      obtain ⟨rfl, rfl, rfl⟩ := ofSettings_eq_ok_iff.1 hs
      exact ⟨⟨rfl, rfl, rfl⟩, hnow, hevents⟩
  · rintro ⟨hs, hnow, hevents⟩
    rw [ofSettings_eq_ok_iff.2 hs]
    obtain ⟨rfl, rfl, rfl⟩ := hs
    exact start_eq_ok_iff.2 ⟨rfl, hnow, hevents⟩

/-! ## Refused generators -/

/-- The first fault of settings on a clock that reads `now`. -/
inductive Fault (layout : Layout) (nodeId offset now : Int64) : Error → Prop where
  | nodeId (h : ¬(0 ≤ nodeId ∧ nodeId ≤ layout.maxNode)) :
      Fault layout nodeId offset now (.nodeIdOutOfRange nodeId layout.maxNode)
  | negativeOffset (hnode : 0 ≤ nodeId ∧ nodeId ≤ layout.maxNode) (h : offset < 0) :
      Fault layout nodeId offset now (.negativeOffset offset)
  | offsetInFuture (hnode : 0 ≤ nodeId ∧ nodeId ≤ layout.maxNode) (hoffset : 0 ≤ offset)
      (h : now < offset) : Fault layout nodeId offset now (.offsetInFuture offset now)

/-- **Refusal.** A generator is refused exactly for the first fault of its settings. -/
theorem create_eq_error_iff {e : Error} :
    create layout nodeId offset now = .error e ↔ Fault layout nodeId offset now e := by
  constructor
  · intro h
    unfold create ofSettings at h
    split_ifs at h with hnode hoffset
    · simp only [Except.bind, start] at h
      split_ifs at h with hnow
      exact Except.error.inj h ▸ .offsetInFuture hnode hoffset hnow
    · exact Except.error.inj h ▸ .negativeOffset hnode (Int64.not_le.1 hoffset)
    · exact Except.error.inj h ▸ .nodeId hnode
  · intro h
    cases h with
    | nodeId hnode => simp [create, ofSettings, hnode, Except.bind]
    | negativeOffset hnode hoffset =>
      simp [create, ofSettings, hnode, Int64.not_le.2 hoffset, Except.bind]
    | offsetInFuture hnode hoffset hnow =>
      simp [create, ofSettings, start, hnode, hoffset, hnow, Except.bind]

end Snowflake.Generator
