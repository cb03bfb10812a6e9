import Snowflake.Proofs.Uniqueness
import Snowflake.Proofs.Unpacking
import Mathlib.Data.Bool.AllAny

/-!
# Ids are ordered as their parts

The fields of a word stand one above the other in the order in which parts are compared: timestamp,
node id, sequence number. So words without a sign compare as their parts do, and sorting ids is
sorting their parts, whichever bits a layout gives to which field.

**Theorem (`id_order_is_part_order`).** Packing and unpacking keep the order in both directions. On
readings within the layout no id has a sign, so the ids of all nodes that share a layout are sorted
by timestamp before anything else.
-/

namespace Snowflake.Layout

open Word

variable {l : Layout} {a b : Int64} {p q : Parts}

/-! ## Parts of words without a sign -/

theorem timestampOf_nonneg (h : 0 ≤ a) : 0 ≤ l.timestampOf a := by
  rw [zero_le_iff, unsigned_timestampOf]
  exact (Nat.div_le_self _ _).trans_lt (zero_le_iff.1 h)

theorem nodeOf_nonneg (l : Layout) (w : Int64) : 0 ≤ l.nodeOf w := by
  have hlt := unsigned_nodeOf_lt l w
  have hle := l.two_pow_nodeBits_le
  rw [zero_le_iff]
  omega

theorem sequenceOf_nonneg (l : Layout) (w : Int64) : 0 ≤ l.sequenceOf w := by
  have hlt := unsigned_sequenceOf_lt l w
  have hle := l.two_pow_sequenceBits_le
  rw [zero_le_iff]
  omega

/-- **Order.** Words without a sign are ordered as their parts. -/
theorem lt_iff_decode_lt (ha : 0 ≤ a) (hb : 0 ≤ b) : a < b ↔ l.decode a < l.decode b := by
  show a < b ↔ l.timestampOf a < l.timestampOf b ∨ l.timestampOf a = l.timestampOf b ∧
    (l.nodeOf a < l.nodeOf b ∨ l.nodeOf a = l.nodeOf b ∧ l.sequenceOf a < l.sequenceOf b)
  rw [lt_iff_unsigned_lt ha hb, unsigned_eq_pack l a, unsigned_eq_pack l b,
    pack_lt_pack (unsigned_nodeOf_lt l a) (unsigned_nodeOf_lt l b) (unsigned_sequenceOf_lt l a)
      (unsigned_sequenceOf_lt l b),
    lt_iff_unsigned_lt (timestampOf_nonneg ha) (timestampOf_nonneg hb),
    lt_iff_unsigned_lt (nodeOf_nonneg l a) (nodeOf_nonneg l b),
    lt_iff_unsigned_lt (sequenceOf_nonneg l a) (sequenceOf_nonneg l b), unsigned_inj, unsigned_inj]

theorem encode_lt_encode_iff (hp : l.InRange p) (hq : l.InRange q) :
    l.encode p < l.encode q ↔ p < q := by
  rw [lt_iff_decode_lt (l.zero_le_encode p) (l.zero_le_encode q), decode_encode_of_inRange hp,
    decode_encode_of_inRange hq]

theorem map_decode_mergeSort {ids : List Int64} (h : ∀ id ∈ ids, 0 ≤ id) :
    (ids.mergeSort fun a b => decide (a ≤ b)).map l.decode = Parts.sort (ids.map l.decode) := by
  refine List.map_mergeSort fun a ha b hb => ?_
  rw [← decide_not, decide_eq_decide, ← lt_iff_decode_lt (h b hb) (h a ha), Int64.not_lt]

/-! ## Ids of many nodes -/

/-- **Order of ids.** Words without a sign are ordered as their parts, and parts within their fields
as their words; so sorting ids sorts their parts, and ids of generators of one layout are sorted by
timestamp first, whatever their nodes. -/
theorem id_order_is_part_order (l : Layout) :
    (∀ a b, 0 ≤ a → 0 ≤ b → (a < b ↔ l.decode a < l.decode b)) ∧
    (∀ p q, l.InRange p → l.InRange q → (p < q ↔ l.encode p < l.encode q)) ∧
    (∀ ids : List Int64, (∀ id ∈ ids, 0 ≤ id) →
      (ids.mergeSort fun a b => decide (a ≤ b)).map l.decode = Parts.sort (ids.map l.decode)) ∧
    ∀ (g g' : Generator), g.layout = l → g'.layout = l → ∀ callers callers' moves moves' s s',
      (Generator.Shared.fresh callers).run g moves = some s →
      (Generator.Shared.fresh callers').run g' moves' = some s' →
      (∀ reading ∈ Generator.readings moves, g.relative reading ≤ l.maxTimestamp) →
      (∀ reading ∈ Generator.readings moves', g'.relative reading ≤ l.maxTimestamp) →
      ∀ id ∈ s.ids, ∀ id' ∈ s'.ids,
        (l.decode id).timestamp < (l.decode id').timestamp → id < id' := by
  refine ⟨fun a b => lt_iff_decode_lt, fun p q hp hq => (encode_lt_encode_iff hp hq).symm,
    fun ids => map_decode_mergeSort, ?_⟩
  rintro g g' rfl hl callers callers' moves moves' s s' h h' hr hr' id hid id' hid' hlt
  obtain ⟨w, hw, rfl, -⟩ := Generator.Recording.exists_of_run h
  obtain ⟨w', hw', rfl, -⟩ := Generator.Recording.exists_of_run h'
  have hnonneg : 0 ≤ id := (Generator.ascending_run hw hr).1 id hid
  have hnonneg' : 0 ≤ id' := (Generator.ascending_run hw' (by rwa [hl])).1 id' hid'
  exact (lt_iff_decode_lt hnonneg hnonneg').2 (Or.inl hlt)

/-- The same race on generators for both nodes of a layout. The later timestamp makes the larger id,
although its node is the smaller one. -/
theorem race_sorted_by_timestamp :
    ((22 : Int64) < 38 ↔ decode ⟨1, 1, by decide⟩ 22 < decode ⟨1, 1, by decide⟩ 38) ∧
    ((⟨5, 1, 1⟩ : Parts) < ⟨9, 0, 0⟩ ↔
      encode ⟨1, 1, by decide⟩ ⟨5, 1, 1⟩ < encode ⟨1, 1, by decide⟩ ⟨9, 0, 0⟩) ∧
    ∃ g s s', g.nodeId = 0 ∧
      (Generator.Shared.fresh 2).run Generator.paired Generator.race = some s ∧
      (Generator.Shared.fresh 2).run g Generator.race = some s' ∧ s.ids = [22, 23, 38] ∧
      s'.ids = [20, 21, 36] ∧ (23 : Int64) < 36 := by
  let other : Generator := ⟨⟨1, 1, by decide⟩, 0, 1000, by decide, by decide, by decide⟩
  obtain ⟨hwords, hparts, -, hruns⟩ := id_order_is_part_order ⟨1, 1, by decide⟩
  have hends : ((Generator.Shared.fresh 2).run Generator.paired Generator.race).bind (fun s =>
      ((Generator.Shared.fresh 2).run other Generator.race).map fun s' => (s.ids, s'.ids)) =
      some ([22, 23, 38], [20, 21, 36]) := by decide +kernel
  obtain ⟨s, hs, hends⟩ := Option.bind_eq_some_iff.1 hends
  obtain ⟨s', hs', hends⟩ := Option.map_eq_some_iff.1 hends
  obtain ⟨hids, hids'⟩ := Prod.mk.injEq .. ▸ hends
  have hfits : ∀ reading ∈ Generator.readings Generator.race,
      Generator.paired.relative reading ≤ maxTimestamp ⟨1, 1, by decide⟩ :=
    List.all_iff_forall_prop.1 (by decide +kernel)
  have hfits' : ∀ reading ∈ Generator.readings Generator.race,
      other.relative reading ≤ maxTimestamp ⟨1, 1, by decide⟩ :=
    List.all_iff_forall_prop.1 (by decide +kernel)
  refine ⟨hwords _ _ (by decide) (by decide),
    hparts _ _ ⟨by decide, by decide, by decide⟩ ⟨by decide, by decide, by decide⟩,
    other, s, s', rfl, hs, hs', hids, hids', ?_⟩
  exact hruns Generator.paired other rfl rfl _ _ _ _ _ _ hs hs' hfits hfits' 23 (by simp [hids]) 36
    (by simp [hids']) (by decide)

end Snowflake.Layout
