import Snowflake.Proofs.Construction
import Snowflake.Proofs.Minting

/-!
# Nodes never collide

The register has no node id, and every id has the one of its generator, so the ids of two nodes
differ in that field. This holds on any clock: of a reading that lies past the layout the register
loses bits at the top, but none of them reach the node id, and a sequence number is raised only
where it does not carry.

**Theorem (`nodes_never_collide`).** In every run, the node id of the register is zero and that of
each id is the one that the generator was built with. Two generators of one layout with different
node ids never mint the same id, whatever their offsets, clocks and runs.
-/

namespace Snowflake

open Word Layout

theorem Layout.Holds.nodeOf_eq {l : Layout} {w : Int64} {t s : Nat} (h : l.Holds w t s) :
    l.nodeOf w = 0 := by
  apply unsigned_injective
  rw [unsigned_nodeOf, h.unsigned_eq, pack_node (by positivity) h.sequence_lt, unsigned_zero]

namespace Generator

variable {g : Generator} {rs ids : List Int64} {w : Int64}

/-- The stamp is the node id at its place, and nothing is lost of it there. -/
theorem stamp_shiftRight (g : Generator) :
    g.stamp >>> Int64.ofNat g.layout.sequenceBits = g.nodeId := by
  have hpos : (0 : Int) < 2 ^ g.layout.sequenceBits := by positivity
  have hlow := low_lt g.unsigned_nodeId_lt (s := 0) (by positivity)
  have hshift := g.layout.two_pow_shift_le
  have hseq := g.layout.sequenceBits_le
  have hstamp : unsigned g.stamp = unsigned g.nodeId * 2 ^ g.layout.sequenceBits :=
    g.layout.unsigned_placeNode_of_lt g.unsigned_nodeId_lt
  have hnode : g.nodeId.toInt = unsigned g.nodeId :=
    (unsigned_of_nonneg (Int64.le_iff_toInt_le.1 g.nodeId_nonneg)).symm
  apply Int64.toInt.inj
  rw [toInt_shiftRight _ (by omega), toInt_of_lt (by omega), hstamp, hnode]
  push_cast
  exact Int.mul_ediv_cancel _ hpos.ne'

/-! ## Chains of commits -/

theorem Mints.nodeOf_eq (h : Mints g rs w ids) : g.layout.nodeOf w = 0 := by
  obtain ⟨t, s, hholds, -⟩ := h.last
  exact hholds.nodeOf_eq

theorem Mints.node_eq (h : Mints g rs w ids) :
    ∀ id ∈ ids, (g.layout.decode id).node = g.nodeId := by
  induction h with
  | fresh => nofun
  | @commit rs ids w reading next h hp ih =>
    intro id hid
    rcases List.mem_append.1 hid with hid | hid
    · exact ih id hid
    · obtain ⟨t, s, hholds, -⟩ := h.last
      obtain ⟨t', s', hnext, -⟩ := propose_commit hholds hp
      rw [List.mem_singleton.1 hid, decode_stamped hnext]

/-! ## Runs -/

/-- On any clock, the ids of a run have the node id of their generator, and the register has
none. -/
theorem node_run {callers : Nat} {moves : List (Nat × Access)} {s : Shared}
    (h : (Shared.fresh callers).run g moves = some s) :
    g.layout.nodeOf s.register = 0 ∧ ∀ id ∈ s.ids, (g.layout.decode id).node = g.nodeId := by
  obtain ⟨w, hw, rfl, -⟩ := Recording.exists_of_run h
  have hmints := mints_run hw
  exact ⟨hmints.nodeOf_eq, hmints.node_eq⟩

/-- **Nodes.** On any clock, the register has no node id and every id has the one its generator was
built with, so generators for different nodes have no id in common. -/
theorem nodes_never_collide {layout : Layout} {nodeId offset start : Int64} {g : Generator}
    {events : List Event} (hg : create layout nodeId offset start = .ok (g, events))
    {callers : Nat} {moves : List (Nat × Access)} {s : Shared}
    (h : (Shared.fresh callers).run g moves = some s) :
    layout.nodeOf s.register = 0 ∧
    g.nodeId = nodeId ∧ g.stamp >>> Int64.ofNat layout.sequenceBits = nodeId ∧
    (∀ id ∈ s.ids, (layout.decode id).node = nodeId) ∧
    ∀ nodeId' offset' start' g' events', nodeId' ≠ nodeId →
      create layout nodeId' offset' start' = .ok (g', events') →
      ∀ callers' moves' s', (Shared.fresh callers').run g' moves' = some s' →
        ∀ id ∈ s.ids, id ∉ s'.ids := by
  obtain ⟨⟨rfl, rfl, -⟩, -⟩ := create_eq_ok_iff.1 hg
  obtain ⟨hregister, hnodes⟩ := node_run h
  refine ⟨hregister, rfl, g.stamp_shiftRight, hnodes, ?_⟩
  intro nodeId' offset' start' g' events' hne hg' callers' moves' s' h' id hid hid'
  obtain ⟨⟨hlayout, rfl, -⟩, -⟩ := create_eq_ok_iff.1 hg'
  have hother := (node_run h').2 id hid'
  rw [hlayout, hnodes id hid] at hother
  exact hne hother.symm

/-- The surge on generators for both nodes. Bits of its timestamps are lost, and both registers end
with the same word, but the ids differ. -/
theorem surge_nodes_differ :
    ∃ g, create ⟨1, 1, by decide⟩ 1 1000 1002 = .ok (g, [.created ⟨1, 1, by decide⟩ 1 1000]) ∧
    ∃ g', create ⟨1, 1, by decide⟩ 0 1000 1002 = .ok (g', [.created ⟨1, 1, by decide⟩ 0 1000]) ∧
    ∃ s s', (Shared.fresh 2).run g surge = some s ∧ (Shared.fresh 2).run g' surge = some s' ∧
      s.register = s'.register ∧ s.ids.length = 3 ∧ s'.ids.length = 3 ∧
      (∀ id ∈ s.ids, (Layout.decode ⟨1, 1, by decide⟩ id).node = 1) ∧
      ∀ id ∈ s.ids, id ∉ s'.ids := by
  let other : Generator := ⟨⟨1, 1, by decide⟩, 0, 1000, by decide, by decide, by decide⟩
  have hg : create ⟨1, 1, by decide⟩ 1 1000 1002 =
      .ok (paired, [.created ⟨1, 1, by decide⟩ 1 1000]) := rfl
  have hg' : create ⟨1, 1, by decide⟩ 0 1000 1002 =
      .ok (other, [.created ⟨1, 1, by decide⟩ 0 1000]) := rfl
  have hends : ((Shared.fresh 2).run paired surge).bind (fun s =>
      ((Shared.fresh 2).run other surge).map fun s' =>
        (decide (s.register = s'.register), s.ids.length, s'.ids.length)) =
      some (true, 3, 3) := by decide +kernel
  obtain ⟨s, hs, hends⟩ := Option.bind_eq_some_iff.1 hends
  obtain ⟨s', hs', hends⟩ := Option.map_eq_some_iff.1 hends
  simp only [Prod.mk.injEq, decide_eq_true_eq] at hends
  obtain ⟨hregister, hlen, hlen'⟩ := hends
  obtain ⟨-, -, -, hnodes, hdiffer⟩ := nodes_never_collide hg hs
  exact ⟨paired, hg, other, hg', s, s', hs, hs', hregister, hlen, hlen', hnodes,
    hdiffer _ _ _ _ _ (by decide) hg' _ _ _ hs'⟩

end Generator

end Snowflake
