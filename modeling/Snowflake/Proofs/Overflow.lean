import Snowflake.Proofs.Sightings
import Snowflake.Proofs.Unpacking

/-!
# No sum leaves its range

An attempt adds one to the word it saw, where it takes the next sequence number. It does so only
below the last number, so the sum stays within the field of the sequence number and within the range
of words (`decode_succ`, `addChecked?_succ`); this holds of every word, also of one with a sign.

The difference of a reading and the offset is cut at the lower end of the range. This makes no
difference, since what is cut is before any timestamp that the register can hold.

Decoding adds the offset to the timestamp of an id. Of an id that was minted, this timestamp is what
was kept of a reading, so it is never more than the reading, and the sum is a word.

**Theorem (`nothing_overflows`).** On any clock and in every state that callers can reach, attempts
stay within the range of words and their fields, and every minted id can be decoded. What comes back
is at most the reading that minted it, and that reading itself exactly if nothing was cut off it.
-/

namespace Snowflake

open Word

namespace Layout

variable {l : Layout} {w : Int64}

/-! ## The next sequence number -/

theorem unsigned_succ (h : l.sequenceOf w < l.maxSequence) :
    unsigned (w + 1) =
      l.pack (unsigned (l.timestampOf w)) (unsigned (l.nodeOf w))
        (unsigned (l.sequenceOf w) + 1) ∧
      unsigned (l.sequenceOf w) + 1 < 2 ^ l.sequenceBits := by
  have hlast : unsigned (l.sequenceOf w) + 1 < 2 ^ l.sequenceBits := by
    have hlt := unsigned_sequenceOf_lt l w
    have hle := l.two_pow_sequenceBits_le
    rw [← lt_maxSequence_iff, ← toInt_of_lt (by omega)]
    exact Int64.lt_iff_toInt_lt.1 h
  have htime : unsigned (l.timestampOf w) < 2 ^ (64 - l.shift) := by
    have hword := unsigned_lt w
    rw [l.two_pow_word] at hword
    rw [unsigned_timestampOf]
    exact Nat.div_lt_of_lt_mul (Nat.mul_comm _ _ ▸ hword)
  have hfits : l.pack (unsigned (l.timestampOf w)) (unsigned (l.nodeOf w))
      (unsigned (l.sequenceOf w) + 1) < 2 ^ 64 := by
    rw [l.two_pow_word]
    exact (pack_lt (unsigned_nodeOf_lt l w) hlast).trans_le (Nat.mul_le_mul_right _ htime)
  have hsucc : l.pack (unsigned (l.timestampOf w)) (unsigned (l.nodeOf w))
      (unsigned (l.sequenceOf w) + 1) = unsigned w + unsigned 1 := by
    rw [unsigned_eq_pack l w, unsigned_one]
    rfl
  exact ⟨by rw [unsigned_add_of_lt (by omega), hsucc], hlast⟩

/-- **No carry.** Raising a sequence number that is not the last one changes no other field. -/
theorem decode_succ (h : l.sequenceOf w < l.maxSequence) :
    l.decode (w + 1) = { l.decode w with sequence := l.sequenceOf w + 1 } := by
  obtain ⟨hnext, hlast⟩ := unsigned_succ h
  have hle := l.two_pow_sequenceBits_le
  have hsequence : l.sequenceOf w + 1 = Int64.ofNat (unsigned (l.sequenceOf w) + 1) := by
    apply unsigned_injective
    rw [unsigned_ofNat (by omega), unsigned_add_of_lt (by rw [unsigned_one]; omega), unsigned_one]
  have hself : ∀ v : Int64, Int64.ofNat (unsigned v) = v := fun v =>
    unsigned_injective (unsigned_ofNat (unsigned_lt v))
  rw [decode_of_pack hnext (unsigned_lt _) (unsigned_nodeOf_lt l w) hlast, ← hsequence, hself,
    hself]
  rfl

/-- **No overflow.** The sum is a word, whatever the sign of the word. -/
theorem addChecked?_succ (h : l.sequenceOf w < l.maxSequence) :
    addChecked? w 1 = some (w + 1) := by
  obtain ⟨hnext, hlast⟩ := unsigned_succ h
  have hnode := unsigned_nodeOf_lt l w
  -- The timestamp alone decides the sign, and the sum has the same one.
  have hsign : unsigned (w + 1) < 2 ^ 63 ↔ unsigned w < 2 ^ 63 := by
    rw [hnext, unsigned_eq_pack l w, pack_lt_sign hnode hlast,
      pack_lt_sign hnode (unsigned_sequenceOf_lt l w)]
  have hsucc : unsigned (w + 1) = unsigned w + 1 := by
    rw [hnext, unsigned_eq_pack l w]
    rfl
  rw [addChecked?_eq_some_iff, toInt_eq w, toInt_eq (w + 1), Int64.toInt_one]
  split_ifs <;> omega

end Layout

namespace Generator

open Layout

variable {g : Generator} {seen held reading next id : Int64} {t q : Nat}

/-! ## Readings -/

/-- The difference with the offset is exact, or the reading is before all timestamps. -/
theorem propose_of_cut (h : g.layout.Holds seen t q)
    (hcut : (g.relative reading).toInt ≠ reading.toInt - g.offset.toInt) :
    g.propose seen reading = .regressed Int64.minValue (g.layout.timestampOf seen) := by
  have hmin := Int64.toInt_minValue
  have hrelative := toInt_relative g reading
  have hlow : g.relative reading = Int64.minValue := Int64.toInt.inj (by omega)
  rw [propose_earlier h (by omega), hlow, h.timestampOf_eq]

/-! ## Minted ids -/

theorem committed_of_ready (h : (g.settle seen held reading).outcome = .ok (.ready id)) :
    ∃ next, g.propose seen reading = .commit next ∧ id = next ||| g.stamp := by
  unfold settle at h
  split at h
  next next hp =>
    simp only [commit] at h
    split_ifs at h
    · exact ⟨next, hp, (Status.ready.inj (Except.ok.inj h)).symm⟩
    · cases h
  next => cases h
  next => cases h

/-- **Decoding one's own ids.** The sum with the offset is a word and at most the reading. It is the
reading itself if that fits above the shift. -/
theorem decode_committed (h : g.layout.Holds seen t q)
    (hp : g.propose seen reading = .commit next) :
    ∃ parts, g.decode (next ||| g.stamp) = .ok parts ∧ parts.timestamp ≤ reading ∧
      (parts.timestamp = reading ↔ (g.relative reading).toInt < 2 ^ (64 - g.layout.shift)) := by
  obtain ⟨t', q', hnext, hkept, hcase⟩ := propose_commit h hp
  have hpos : 0 ≤ (g.relative reading).toInt := by omega
  have hoffset : 0 ≤ g.offset.toInt := Int64.le_iff_toInt_le.1 g.offset_nonneg
  have hreading := toInt_relative_of_nonneg hpos
  have htime : (Int64.ofNat t').toInt = t' := Int64.toInt_ofNat_of_lt hnext.timestamp_lt
  have hle := toInt_kept_le (l := g.layout) hpos
  have hexact := toInt_kept_eq_iff (l := g.layout) hpos
  rw [hkept] at hle hexact
  have hsum : (Int64.ofNat t' + g.offset).toInt = (Int64.ofNat t').toInt + g.offset.toInt := by
    refine toInt_add_of_inRange (inRange_iff.2 ?_)
    have := reading.toInt_lt
    omega
  refine ⟨⟨Int64.ofNat t' + g.offset, g.nodeId, Int64.ofNat q'⟩, ?_, ?_, ?_⟩
  · simp only [decode, decode_stamped hnext, addChecked?_eq_some_iff.2 hsum]
  · show Int64.ofNat t' + g.offset ≤ reading
    rw [Int64.le_iff_toInt_le]
    omega
  · show Int64.ofNat t' + g.offset = reading ↔ _
    rw [← hexact, ← Int64.toInt_inj]
    omega

theorem Record.id?_eq_some_iff {r : Record} : r.id? = some id ↔ r.outcome = .ok (.ready id) := by
  obtain ⟨note, caller, endedAt, outcome⟩ := r
  rcases outcome with error | (id' | yieldFor) <;>
    simp [Record.id?, Except.toOption, Status.id?]

/-! ## Reachable states -/

/-- The words on which an attempt can act in this state: the register, if it begins now, and what a
caller has loaded. -/
def Shared.Sees (s : Shared) (seen : Int64) : Prop :=
  seen = s.register ∨ ∃ caller : Nat, s.phases[caller]? = some (.loaded seen)

theorem Mints.holds {readings ids : List Int64} {w : Int64} (h : Mints g readings w ids) :
    ∃ t q, g.layout.Holds w t q := by
  obtain ⟨t, q, hholds, -⟩ := h.last
  exact ⟨t, q, hholds⟩

theorem holds_of_sees {callers : Nat} {moves : List (Nat × Access)} {w : Recording}
    (h : (Recording.fresh callers).run g moves = some w) (hsees : w.shared.Sees seen) :
    ∃ t q, g.layout.Holds seen t q := by
  rcases hsees with rfl | ⟨caller, hloaded⟩
  · exact (mints_run h).holds
  · have hsaw : Leaves g _ seen := (Recording.sighted_run h).saw caller _ hloaded
    exact hsaw.holds

/-- In the register's own millisecond an exchange takes the next sequence number, which is a word
and leaves the other fields as they are. -/
theorem succ_of_commit (hp : g.propose seen reading = .commit next)
    (hsame : g.relative reading = g.layout.timestampOf seen) :
    addChecked? seen 1 = some next ∧
      g.layout.decode next =
        { g.layout.decode seen with sequence := g.layout.sequenceOf seen + 1 } := by
  rw [propose_of_eq hsame] at hp
  split_ifs at hp with hfree
  obtain rfl := Proposal.commit.inj hp
  exact ⟨addChecked?_succ hfree, decode_succ hfree⟩

/-- **No overflow.** In every state that callers can reach, on any clock:

* an attempt that takes the next sequence number stays within its field and the range of words;
* the difference of its reading and the offset is cut only if it fails for an earlier time;
* every minted id can be decoded, to a time that is at most the reading of the attempt that minted
  it, and is that reading exactly if what was placed in the id fits above the shift. -/
theorem nothing_overflows {callers : Nat} {moves : List (Nat × Access)} {s : Shared}
    (h : (Shared.fresh callers).run g moves = some s) :
    (∀ seen, s.Sees seen → ∀ reading,
      (∀ next, g.propose seen reading = .commit next →
        g.relative reading = g.layout.timestampOf seen →
          addChecked? seen 1 = some next ∧ g.layout.decode next =
            { g.layout.decode seen with sequence := g.layout.sequenceOf seen + 1 }) ∧
      ((g.relative reading).toInt ≠ reading.toInt - g.offset.toInt → ∀ held,
        (g.settle seen held reading).outcome =
          .error (.clockRegressed Int64.minValue (g.layout.timestampOf seen)))) ∧
    (∀ id ∈ s.ids, ∃ r ∈ g.records callers moves, r.outcome = .ok (.ready id)) ∧
    ∀ r ∈ g.records callers moves, ∀ id, r.outcome = .ok (.ready id) →
      ∃ parts, g.decode id = .ok parts ∧ parts.timestamp ≤ r.reading ∧
        (parts.timestamp = r.reading ↔
          (g.relative r.reading).toInt < 2 ^ (64 - g.layout.shift)) := by
  obtain ⟨w, hw, rfl, hrecords⟩ := Recording.exists_of_run h
  rw [hrecords]
  refine ⟨fun seen hsees reading => ⟨fun next hp => succ_of_commit hp, fun hcut held => ?_⟩, ?_, ?_⟩
  · obtain ⟨t, q, hholds⟩ := holds_of_sees hw hsees
    simp only [settle, propose_of_cut hholds hcut]
  · intro id hid
    rw [ids_eq_records (Recording.timed_run hw)] at hid
    obtain ⟨r, hr, hid⟩ := List.mem_filterMap.1 hid
    exact ⟨r, hr, Record.id?_eq_some_iff.1 hid⟩
  · intro r hr id hid
    obtain ⟨seen, held, hsettles⟩ := (Recording.sighted_run hw).settled r hr
    obtain ⟨t, q, hholds⟩ := hsettles.saw.holds
    obtain ⟨next, hp, rfl⟩ := committed_of_ready (hsettles.outcome.symm.trans hid)
    exact decode_committed hholds hp

/-- The surge ends with a negative register, which an attempt can still raise, and on which the
earliest reading is cut. Its first id comes back with the reading that minted it, and the others
with earlier ones. -/
theorem surge_overflows_nowhere :
    ∃ s, (Shared.fresh 2).run paired surge = some s ∧ s.register = -4004 ∧
      paired.propose s.register 4611686018427387903 = .commit (-4003) ∧
      addChecked? s.register 1 = some (-4003) ∧
      (∀ held, (paired.settle s.register held Int64.minValue).outcome =
        .error (.clockRegressed Int64.minValue 4611686018427386903)) ∧
      ∀ r ∈ paired.records 2 surge, ∀ id, r.outcome = .ok (.ready id) →
        ∃ parts, paired.decode id = .ok parts ∧ parts.timestamp ≤ r.reading ∧
          (parts.timestamp = r.reading ↔ id = 14) := by
  have hsome : ((Shared.fresh 2).run paired surge).isSome := by decide +kernel
  obtain ⟨s, hs⟩ := Option.isSome_iff_exists.1 hsome
  have hregister : s.register = -4004 := by
    have hall : ∀ s ∈ (Shared.fresh 2).run paired surge, s.register = -4004 := by decide +kernel
    exact hall s hs
  have hfits : (paired.records 2 surge).all fun r => r.id?.all fun id =>
      decide ((paired.relative r.reading).toInt < 2 ^ (64 - paired.layout.shift) ↔ id = 14) := by
    decide +kernel
  obtain ⟨hsees, -, hdecode⟩ := nothing_overflows hs
  have hraised : paired.propose s.register 4611686018427387903 = .commit (-4003) := by
    rw [hregister]
    decide +kernel
  have hnow := hsees s.register (.inl rfl)
  refine ⟨s, hs, hregister, hraised, ?_, ?_, fun r hr id hid => ?_⟩
  · refine ((hnow 4611686018427387903).1 _ hraised ?_).1
    rw [hregister]
    decide +kernel
  · rw [hregister] at hnow ⊢
    exact (hnow Int64.minValue).2 (by decide +kernel)
  · obtain ⟨parts, hparts, hle, hexact⟩ := hdecode r hr id hid
    have hfit := List.all_eq_true.1 hfits r hr
    rw [Record.id?_eq_some_iff.2 hid] at hfit
    exact ⟨parts, hparts, hle, hexact.trans (of_decide_eq_true hfit)⟩

end Generator

end Snowflake
