import Snowflake.Proofs.Sightings
import Mathlib.Data.Bool.AllAny

/-!
# Sequence numbers without gaps

Within a millisecond the sequence numbers count up, one for each id, whoever draws it. They begin at
zero, except in the millisecond of the offset itself: the fresh register holds its sequence number
zero already, so the first id there has the number one.

**Theorem (`sequences_consecutive`).** On readings within the layout, and for any clock otherwise,
the ids of each millisecond carry consecutive sequence numbers in the order of their exchanges, and
never more of them than there is room for. An attempt is told to wait for the next millisecond only
if all ids of its own have been committed, and it leaves the register alone.

The invariant (`Dense`) is one of chains of commits. Timestamps of a chain never go back, so a
millisecond that was left is not entered again, and the register's sequence number is the last one
of its millisecond. An attempt that acts on an old word has seen what a part of the chain had left
(`Sighted`); what was exhausted then is exhausted for good.
-/

namespace Snowflake.Generator

open Layout

variable {g : Generator} {ids rs : List Int64} {w next reading : Int64} {t t' s s' : Nat}

/-- The sequence numbers of the ids with this timestamp, in the order of the ids. -/
def sequencesAt (g : Generator) (ids : List Int64) (time : Int64) : List Int64 :=
  ((ids.map g.layout.decode).filter (·.timestamp = time)).map Parts.sequence

/-- The sequence number of the first id with this timestamp. -/
def firstSequence (time : Int64) : Nat := if time = 0 then 1 else 0

theorem firstSequence_le (time : Int64) : firstSequence time ≤ 2 ^ g.layout.sequenceBits := by
  have hpos : 0 < 2 ^ g.layout.sequenceBits := by positivity
  unfold firstSequence
  split_ifs <;> omega

theorem sequencesAt_append (h : g.layout.Holds w t s) (ids : List Int64) (time : Int64) :
    g.sequencesAt (ids ++ [w ||| g.stamp]) time =
      g.sequencesAt ids time ++ if Int64.ofNat t = time then [Int64.ofNat s] else [] := by
  simp only [sequencesAt, List.map_append, List.filter_append, List.map_singleton,
    decode_stamped h]
  by_cases htime : Int64.ofNat t = time <;> simp [htime]

theorem length_sequencesAt_le {some : List Int64} (h : some.Sublist ids) (time : Int64) :
    (g.sequencesAt some time).length ≤ (g.sequencesAt ids time).length :=
  (((h.map _).filter _).map _).length_le

/-! ## Chains without gaps -/

/-- The ids of every millisecond are consecutive from its first sequence number on, and those of
the register's timestamp `t` end with its sequence number `s`. -/
structure Dense (g : Generator) (ids : List Int64) (t s : Nat) : Prop where
  consecutive : ∀ time, g.sequencesAt ids time =
    (List.range' (firstSequence time) (g.sequencesAt ids time).length).map Int64.ofNat
  room : ∀ time,
    firstSequence time + (g.sequencesAt ids time).length ≤ 2 ^ g.layout.sequenceBits
  current :
    firstSequence (Int64.ofNat t) + (g.sequencesAt ids (Int64.ofNat t)).length = s + 1
  /-- Later milliseconds have not begun. -/
  later : ∀ time : Int64, (t : Int) < time.toInt → g.sequencesAt ids time = []

theorem dense_nil : g.Dense [] 0 0 where
  consecutive _ := rfl
  room time := firstSequence_le time
  current := rfl
  later _ _ := rfl

/-- One more id may be added that has the next sequence number of a millisecond that was not
left yet. -/
theorem Dense.append (h : g.Dense ids t s) (hnext : g.layout.Holds next t' s') (hle : t ≤ t')
    (hcount : firstSequence (Int64.ofNat t') + (g.sequencesAt ids (Int64.ofNat t')).length = s') :
    g.Dense (ids ++ [next ||| g.stamp]) t' s' where
  consecutive time := by
    rw [sequencesAt_append hnext]
    by_cases htime : Int64.ofNat t' = time
    · subst htime
      rw [if_pos rfl, List.length_append, List.length_singleton, List.range'_1_concat,
        List.map_append, ← h.consecutive, hcount, List.map_singleton]
    · rw [if_neg htime, List.append_nil]
      exact h.consecutive time
  room time := by
    have hs := hnext.sequence_lt
    rw [sequencesAt_append hnext]
    by_cases htime : Int64.ofNat t' = time
    · subst htime
      rw [if_pos rfl, List.length_append, List.length_singleton]
      omega
    · rw [if_neg htime, List.append_nil]
      exact h.room time
  current := by
    rw [sequencesAt_append hnext, if_pos rfl, List.length_append, List.length_singleton]
    omega
  later time htime := by
    have hne : Int64.ofNat t' ≠ time := by
      rintro rfl
      rw [Int64.toInt_ofNat_of_lt hnext.timestamp_lt] at htime
      omega
    rw [sequencesAt_append hnext, if_neg hne, List.append_nil]
    exact h.later time (by omega)

/-- A commit continues the millisecond of the register or begins a later one. -/
theorem Dense.commit (h : g.Dense ids t s) (hholds : g.layout.Holds w t s)
    (hp : g.propose w reading = .commit next) (hr : g.relative reading ≤ g.layout.maxTimestamp) :
    ∃ t' s', g.layout.Holds next t' s' ∧ g.Dense (ids ++ [next ||| g.stamp]) t' s' := by
  obtain ⟨t', s', hnext, hkept, hcase⟩ := propose_commit hholds hp
  rw [kept_of_le (by omega) hr] at hkept
  refine ⟨t', s', hnext, ?_⟩
  rcases hcase with ⟨hlt, rfl⟩ | ⟨-, rfl, rfl⟩
  · have htime : (Int64.ofNat t').toInt = t' := Int64.toInt_ofNat_of_lt hnext.timestamp_lt
    have hne : Int64.ofNat t' ≠ 0 := by
      intro hzero
      rw [hzero, Int64.toInt_zero] at htime
      omega
    refine h.append hnext (by omega) ?_
    rw [h.later _ (by omega), firstSequence, if_neg hne]
    rfl
  · exact h.append hnext le_rfl h.current

theorem Mints.dense (h : Mints g rs w ids)
    (hr : ∀ reading ∈ rs, g.relative reading ≤ g.layout.maxTimestamp) :
    ∃ t s, g.layout.Holds w t s ∧ g.Dense ids t s := by
  induction h with
  | fresh => exact ⟨0, 0, holds_zero, dense_nil⟩
  | @commit rs ids w reading next h hp ih =>
    obtain ⟨t, s, hholds, hdense⟩ := ih fun r hmem => hr r (List.mem_append_left _ hmem)
    exact hdense.commit hholds hp (hr reading (by simp))

/-! ## Attempts that are told to wait -/

theorem propose_of_settle_wait {seen held : Int64}
    (h : (g.settle seen held reading).outcome = .ok (.pending 1)) :
    g.propose seen reading = .exhausted := by
  unfold settle at h
  split at h
  · simp only [commit] at h
    split_ifs at h <;> simp at h
  · rename_i hp
    exact hp
  · cases h

/-- A millisecond that an attempt finds exhausted has all its ids: in the part of the chain that the
attempt saw, and hence in the whole chain. -/
theorem Dense.all_taken (h : g.Dense ids t s) {seen : Int64} {before : List Int64}
    (hseen : Mints g rs seen before)
    (hr : ∀ reading ∈ rs, g.relative reading ≤ g.layout.maxTimestamp)
    (hsub : before.Sublist ids) (hp : g.propose seen reading = .exhausted) :
    (g.sequencesAt ids (g.relative reading)).length =
      2 ^ g.layout.sequenceBits - firstSequence (g.relative reading) := by
  obtain ⟨t₀, s₀, hholds, hdense⟩ := hseen.dense hr
  obtain ⟨htime, hlast⟩ := propose_exhausted hholds hp
  have heq : g.relative reading = Int64.ofNat t₀ := by
    apply Int64.toInt.inj
    rw [htime, Int64.toInt_ofNat_of_lt hholds.timestamp_lt]
  have hcurrent := hdense.current
  have hroom := h.room (Int64.ofNat t₀)
  have hgrow := length_sequencesAt_le (g := g) hsub (Int64.ofNat t₀)
  rw [heq]
  omega

/-- An access that tells its caller to wait is a reading that found its millisecond exhausted. -/
theorem exhausted_of_wait {s : Shared} {phase : Phase} {access : Access} {a : Advance} {i : Nat}
    (ha : Advances g s.register phase access a)
    (hend : (s.after i a).history = s.history ++ [⟨i, .ok (.pending 1)⟩]) :
    ∃ seen reading, phase = .loaded seen ∧ access = .read reading ∧
      g.propose seen reading = .exhausted ∧ a.register = s.register := by
  have hended : a.ended = some (.ok (.pending 1)) := by
    have hlast := List.append_cancel_left hend
    cases hout : a.ended with
    | none => simp [hout] at hlast
    | some outcome => simpa [hout] using hlast
  cases ha with
  | load | propose hp => cases hended
  | @refuse seen reading hp =>
    exact ⟨seen, reading, rfl, rfl, propose_of_settle_wait (Option.some.inj hended), rfl⟩
  | win | lose hne => simp at hended

/-! ## Runs -/

/-- **Consecutive sequence numbers.** On readings within the layout, the ids of a millisecond have
consecutive sequence numbers in the order of their exchanges. An attempt that is told to wait
leaves the register alone, and its millisecond has all the ids that there is room for. -/
theorem sequences_consecutive (g : Generator) {callers : Nat} {moves : List (Nat × Access)}
    {s : Shared} (h : (Shared.fresh callers).run g moves = some s)
    (hr : ∀ reading ∈ readings moves, g.relative reading ≤ g.layout.maxTimestamp) :
    (∀ time, ∃ k,
      g.sequencesAt s.ids time = (List.range' (firstSequence time) k).map Int64.ofNat ∧
        firstSequence time + k ≤ 2 ^ g.layout.sequenceBits) ∧
    ∀ caller access s', s.step? g (caller, access) = some s' →
      s'.history = s.history ++ [⟨caller, .ok (.pending 1)⟩] →
        s'.register = s.register ∧ ∃ reading, access = .read reading ∧
          (g.sequencesAt s.ids (g.relative reading)).length =
            2 ^ g.layout.sequenceBits - firstSequence (g.relative reading) := by
  obtain ⟨w, hw, rfl, -⟩ := Recording.exists_of_run h
  have hfits : ∀ reading ∈ committed w.records, g.relative reading ≤ g.layout.maxTimestamp :=
    fun reading hmem => hr reading (committed_subset hw hmem)
  obtain ⟨t, s, -, hdense⟩ := (mints_run hw).dense hfits
  refine ⟨fun time => ⟨_, hdense.consecutive time, hdense.room time⟩, ?_⟩
  intro caller access s' hstep hend
  obtain ⟨phase, a, hphase, ha, rfl⟩ := Shared.step?_cases hstep
  obtain ⟨seen, reading, rfl, rfl, hp, hreg⟩ := exhausted_of_wait ha hend
  have hsaw := (Recording.sighted_run hw).saw caller _ hphase
  have hbefore : ((endedBefore w.records (w.notes caller).loadedAt).filterMap Record.id?).Sublist
      w.shared.ids := by
    rw [ids_eq_records (Recording.timed_run hw)]
    exact endedBefore_sublist.filterMap _
  exact ⟨hreg, reading, rfl, hdense.all_taken hsaw
    (fun r hmem => hfits r (committed_endedBefore_subset hmem)) hbefore hp⟩

/-- In the race the fifth millisecond is used up, by both callers in turn. One of them has seen so
before the other went on to the ninth, and is told to wait only after that. -/
theorem race_consecutive :
    (∀ reading ∈ readings race.dropLast, paired.relative reading ≤ paired.layout.maxTimestamp) ∧
    ∃ s s', (Shared.fresh 2).run paired race.dropLast = some s ∧
      s.step? paired (1, .read 1005) = some s' ∧
      s'.history = s.history ++ [⟨1, .ok (.pending 1)⟩] ∧
      s'.register = s.register ∧ paired.sequencesAt s.ids 5 = [0, 1] ∧
      ∃ k, paired.sequencesAt s.ids 5 = (List.range' (firstSequence 5) k).map Int64.ofNat ∧
        firstSequence 5 + k ≤ 2 ^ paired.layout.sequenceBits := by
  have hfits : ∀ reading ∈ readings race.dropLast,
      paired.relative reading ≤ paired.layout.maxTimestamp :=
    List.all_iff_forall_prop.1 (by decide +kernel)
  have hends : ((Shared.fresh 2).run paired race.dropLast).bind (fun s =>
      (s.step? paired (1, .read 1005)).map fun s' =>
        (decide (s'.history = s.history ++ [⟨1, .ok (.pending 1)⟩]),
          paired.sequencesAt s.ids 5)) = some (true, [0, 1]) := by decide +kernel
  obtain ⟨s, hs, hends⟩ := Option.bind_eq_some_iff.1 hends
  obtain ⟨s', hs', hends⟩ := Option.map_eq_some_iff.1 hends
  obtain ⟨hend, htaken⟩ := Prod.mk.injEq .. ▸ hends
  obtain ⟨hconsecutive, hwait⟩ := sequences_consecutive paired hs hfits
  have hend := of_decide_eq_true hend
  exact ⟨hfits, s, s', hs, hs', hend, (hwait 1 _ _ hs' hend).1, htaken, hconsecutive 5⟩

end Snowflake.Generator
