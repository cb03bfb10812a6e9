import Snowflake.Proofs.Packing
import Snowflake.Proofs.Recording
import Mathlib.Data.List.Chain

/-!
# The commits of a run

Whatever the callers do in between, the register changes only when an exchange succeeds, and
then it held the word that the winning attempt had seen. So the commits of a run, taken alone,
follow from one another: `Mints g readings w ids` says that attempts on these readings, each
committing what it proposes on the word that the one before it left, lead from the fresh
register to `w` and mint `ids`. Every run is such a chain (`mints_run`), on any clock.

**Order.** A placed timestamp is cut to the bits above the shift (`Layout.kept`). The ids of a
chain are non-negative and strictly ascending exactly if its readings *last*: none is cut into
the sign bit, and each is either the timestamp in the register or is kept above it
(`Mints.ascending_iff`). Readings within the layout are kept whole and always last
(`Mints.lasting`).
-/

namespace Snowflake

open Layout

/-! ## Timestamps that last -/

/-- The ids are non-negative, and each is larger than all before it. -/
def Ascending (ids : List Int64) : Prop := (∀ id ∈ ids, 0 ≤ id) ∧ ids.Pairwise (· < ·)

theorem ascending_append {ids : List Int64} {id : Int64} :
    Ascending (ids ++ [id]) ↔ Ascending ids ∧ 0 ≤ id ∧ ∀ last ∈ ids.getLast?, last < id := by
  have htrans : ∀ {a b c : Int64}, a < b → b < c → a < c := Int64.lt_trans
  have : Trans (α := Int64) (· < ·) (· < ·) (· < ·) := ⟨htrans⟩
  rw [Ascending, Ascending, ← List.isChain_iff_pairwise, ← List.isChain_iff_pairwise,
    List.isChain_append]
  simp only [List.mem_append, List.mem_singleton, or_imp, forall_and, forall_eq, List.head?_cons,
    Option.mem_some_iff, forall_eq', List.isChain_singleton, true_and]
  exact ⟨fun ⟨⟨ha, hb⟩, hc, hd⟩ => ⟨⟨ha, hc⟩, hb, hd⟩, fun ⟨⟨ha, hc⟩, hb, hd⟩ => ⟨⟨ha, hb⟩, hc, hd⟩⟩

namespace Layout

variable (l : Layout)

/-- Of the relative readings that were committed, none is cut into the sign bit, and each either
equals what was kept of the one before or is kept above it. -/
def Lasting (times : List Int64) : Prop :=
  (∀ time ∈ times, l.kept time ≤ l.maxTimestamp) ∧
    times.IsChain fun a b => b = l.kept a ∨ l.kept a < l.kept b

variable {l} in
/-- One more reading: it is kept out of the sign bit, and is what was kept of the last one or is
kept above it. -/
theorem lasting_append {times : List Int64} {time : Int64} :
    l.Lasting (times ++ [time]) ↔ l.Lasting times ∧ l.kept time ≤ l.maxTimestamp ∧
      ∀ last ∈ times.getLast?, time = l.kept last ∨ l.kept last < l.kept time := by
  rw [Lasting, Lasting, List.isChain_append]
  simp only [List.mem_append, List.mem_singleton, or_imp, forall_and, forall_eq, List.head?_cons,
    Option.mem_some_iff, forall_eq', List.isChain_singleton, true_and]
  exact ⟨fun ⟨⟨ha, hb⟩, hc, hd⟩ => ⟨⟨ha, hc⟩, hb, hd⟩, fun ⟨⟨ha, hc⟩, hb, hd⟩ => ⟨⟨ha, hb⟩, hc, hd⟩⟩

end Layout

namespace Generator

variable {g : Generator}

/-! ## Chains of commits -/

/-- Attempts on these readings, each committing on the word that the one before it left, lead
from the fresh register to `w` and mint `ids`. -/
inductive Mints (g : Generator) : List Int64 → Int64 → List Int64 → Prop where
  | fresh : Mints g [] 0 []
  | commit {readings ids : List Int64} {w reading next : Int64} (h : Mints g readings w ids)
      (hp : g.propose w reading = .commit next) :
      Mints g (readings ++ [reading]) next (ids ++ [next ||| g.stamp])

variable {readings ids : List Int64} {w reading next : Int64} {t s : Nat}

/-- A committed id is not negative exactly if what was kept of its reading fits the layout. -/
theorem zero_le_committed (h : g.layout.Holds w t s) (hp : g.propose w reading = .commit next) :
    0 ≤ next ||| g.stamp ↔ g.layout.kept (g.relative reading) ≤ g.layout.maxTimestamp := by
  obtain ⟨t', s', hnext, hkept, -⟩ := propose_commit h hp
  rw [zero_le_stamped hnext, le_maxTimestamp_iff hkept]

/-- Between ids that are not negative, the order is kept exactly if the reading is the
register's own time or is kept above it. -/
theorem lt_committed (h : g.layout.Holds w t s) (hp : g.propose w reading = .commit next)
    {last : Int64} (hlast : last.toInt = t) (hw : last ≤ g.layout.maxTimestamp)
    (hnext : g.layout.kept (g.relative reading) ≤ g.layout.maxTimestamp) :
    w ||| g.stamp < next ||| g.stamp ↔
      g.relative reading = last ∨ last < g.layout.kept (g.relative reading) := by
  obtain ⟨t', s', hholds, hkept, hcase⟩ := propose_commit h hp
  rw [stamped_lt_stamped h hholds ((le_maxTimestamp_iff hlast).1 hw)
    ((le_maxTimestamp_iff hkept).1 hnext), ← Int64.toInt_inj, Int64.lt_iff_toInt_lt, hlast, hkept]
  omega

namespace Mints

theorem length_eq (h : Mints g readings w ids) : readings.length = ids.length := by
  induction h with
  | fresh => rfl
  | commit h hp ih => rw [List.length_append, List.length_append, ih]; rfl

/-- The last commit of a chain follows on the chain before it. -/
theorem of_append (h : Mints g (readings ++ [reading]) w ids) :
    ∃ w₀ ids₀, Mints g readings w₀ ids₀ ∧ g.propose w₀ reading = .commit w ∧
      ids = ids₀ ++ [w ||| g.stamp] := by
  generalize hall : readings ++ [reading] = all at h
  cases h with
  | fresh => simp at hall
  | @commit readings' ids₀ w₀ reading' next h hp =>
    obtain ⟨rfl, hlast⟩ := List.append_inj' hall rfl
    obtain rfl : reading = reading' := by simpa using hlast
    exact ⟨w₀, ids₀, h, hp, rfl⟩

theorem unique {w' : Int64} {ids' : List Int64} (h : Mints g readings w ids)
    (h' : Mints g readings w' ids') : w = w' ∧ ids = ids' := by
  induction h generalizing w' ids' with
  | fresh =>
    generalize hnil : ([] : List Int64) = none at h'
    cases h' with
    | fresh => exact ⟨rfl, rfl⟩
    | commit => simp at hnil
  | @commit readings ids w reading next h hp ih =>
    obtain ⟨w₀, ids₀, h₀, hp₀, rfl⟩ := h'.of_append
    obtain ⟨rfl, rfl⟩ := ih h₀
    rw [hp, Proposal.commit.injEq] at hp₀
    exact ⟨hp₀, by rw [hp₀]⟩

/-- The register holds what was kept of the last reading, and its id is the last one. -/
theorem last (h : Mints g readings w ids) :
    ∃ t s, g.layout.Holds w t s ∧ (readings = [] ∧ ids = [] ∨
      ∃ reading, readings.getLast? = some reading ∧ ids.getLast? = some (w ||| g.stamp) ∧
        (g.layout.kept (g.relative reading)).toInt = t) := by
  induction h with
  | fresh => exact ⟨0, 0, holds_zero, Or.inl ⟨rfl, rfl⟩⟩
  | @commit readings ids w reading next h hp ih =>
    obtain ⟨t, s, hholds, -⟩ := ih
    obtain ⟨t', s', hnext, hkept, -⟩ := propose_commit hholds hp
    exact ⟨t', s', hnext, Or.inr ⟨reading, by simp, by simp, hkept⟩⟩

theorem map_timestampOf (h : Mints g readings w ids) :
    ids.map g.layout.timestampOf = readings.map fun r => g.layout.kept (g.relative r) := by
  induction h with
  | fresh => rfl
  | @commit readings ids w reading next h hp ih =>
    obtain ⟨t, s, hholds, -⟩ := h.last
    obtain ⟨t', s', hnext, hkept, -⟩ := propose_commit hholds hp
    have hid : g.layout.timestampOf (next ||| g.stamp) = g.layout.kept (g.relative reading) := by
      have hdecode := congrArg Parts.timestamp (decode_stamped (g := g) hnext)
      apply Int64.toInt.inj
      rw [hkept, show g.layout.timestampOf (next ||| g.stamp) = _ from hdecode,
        Int64.toInt_ofNat_of_lt hnext.timestamp_lt]
    rw [List.map_append, List.map_append, ih, List.map_singleton, List.map_singleton, hid]

/-- A reading that was committed is not before the offset. -/
theorem relative_nonneg (h : Mints g readings w ids) :
    ∀ reading ∈ readings, 0 ≤ (g.relative reading).toInt := by
  induction h with
  | fresh => nofun
  | @commit readings ids w reading next h hp ih =>
    obtain ⟨t, s, hholds, -⟩ := h.last
    obtain ⟨t', s', -, -, hcase⟩ := propose_commit hholds hp
    refine List.forall_mem_append.2 ⟨ih, List.forall_mem_singleton.2 ?_⟩
    omega

/-- **Order of a chain.** Its ids ascend exactly if its readings last. -/
theorem ascending_iff (h : Mints g readings w ids) :
    Ascending ids ↔ g.layout.Lasting (readings.map g.relative) := by
  induction h with
  | fresh => exact ⟨fun _ => ⟨nofun, .nil⟩, fun _ => ⟨nofun, .nil⟩⟩
  | @commit readings ids w reading next h hp ih =>
    obtain ⟨t, s, hholds, hlast⟩ := h.last
    rw [ascending_append, List.map_append, List.map_singleton, lasting_append, ih]
    refine and_congr_right fun hlasts => ?_
    rw [zero_le_committed hholds hp]
    refine and_congr_right fun hfits => ?_
    rcases hlast with ⟨rfl, rfl⟩ | ⟨before, hbefore, hid, hkept⟩
    · simp
    · have hmem : g.relative before ∈ readings.map g.relative :=
        List.mem_map_of_mem (List.mem_of_getLast? hbefore)
      rw [List.getLast?_map, hbefore, hid]
      simpa using lt_committed hholds hp hkept (hlasts.1 _ hmem) hfits

theorem lasting (h : Mints g readings w ids)
    (hr : ∀ reading ∈ readings, g.relative reading ≤ g.layout.maxTimestamp) :
    g.layout.Lasting (readings.map g.relative) := by
  induction h with
  | fresh => exact ⟨nofun, .nil⟩
  | @commit readings ids w reading next h hp ih =>
    obtain ⟨t, s, hholds, hlast⟩ := h.last
    obtain ⟨t', s', -, -, hcase⟩ := propose_commit hholds hp
    have hfits := hr reading (by simp)
    have hkept := kept_of_le (by omega) hfits
    rw [List.map_append, List.map_singleton, lasting_append, hkept]
    refine ⟨ih fun r hmem => hr r (List.mem_append_left _ hmem), hfits, ?_⟩
    rcases hlast with ⟨rfl, -⟩ | ⟨before, hbefore, -, hb⟩
    · simp
    · simp only [List.getLast?_map, hbefore, Option.map_some, Option.mem_some_iff, forall_eq']
      rw [← Int64.toInt_inj, Int64.lt_iff_toInt_lt, hb]
      omega

/-- On readings within the layout, the ids of a chain ascend. -/
theorem ascending (h : Mints g readings w ids)
    (hr : ∀ reading ∈ readings, g.relative reading ≤ g.layout.maxTimestamp) : Ascending ids :=
  h.ascending_iff.2 (h.lasting hr)

end Mints

/-! ## Runs -/

/-- A note of a caller that is about to exchange holds the reading that called for it. -/
def Note.Proposes (g : Generator) (n : Note) : Phase → Prop
  | .proposing seen next => g.propose seen n.reading = .commit next
  | _ => True

/-- The readings of the attempts that committed an id. -/
def committed (records : List Record) : List Int64 :=
  (records.filter (·.id?.isSome)).map (·.reading)

variable {records : List Record} {r : Record}

theorem Mints.record_none (h : Mints g (committed records) w (records.filterMap Record.id?))
    (hr : r.id? = none) :
    Mints g (committed (records ++ [r])) w ((records ++ [r]).filterMap Record.id?) := by
  have hc : committed (records ++ [r]) = committed records := by simp [committed, hr]
  have hi : (records ++ [r]).filterMap Record.id? = records.filterMap Record.id? := by simp [hr]
  rw [hc, hi]
  exact h

theorem Mints.record_commit (h : Mints g (committed records) w (records.filterMap Record.id?))
    (hp : g.propose w r.reading = .commit next) (hr : r.id? = some (next ||| g.stamp)) :
    Mints g (committed (records ++ [r])) next ((records ++ [r]).filterMap Record.id?) := by
  have hc : committed (records ++ [r]) = committed records ++ [r.reading] := by
    simp [committed, hr]
  have hi : (records ++ [r]).filterMap Record.id? =
      records.filterMap Record.id? ++ [next ||| g.stamp] := by simp [hr]
  rw [hc, hi]
  exact h.commit hp

/-- The commits so far are a chain, and whoever is about to exchange has proposed its word. -/
structure Recording.Committing (g : Generator) (w : Recording) : Prop where
  mints : Mints g (committed w.records) w.shared.register (w.records.filterMap Record.id?)
  proposes : ∀ i p, w.shared.phases[i]? = some p → (w.notes i).Proposes g p

namespace Recording

variable {w w' : Recording} {phase : Phase} {access : Access} {a : Advance}
  {moves : List (Nat × Access)}

theorem committing_fresh (callers : Nat) : (fresh callers).Committing g where
  mints := .fresh
  proposes i p hp := by
    rw [eq_idle_of_fresh hp]
    trivial

theorem Committing.after {i : Nat} (h : w.Committing g)
    (hphase : w.shared.phases[i]? = some phase)
    (ha : Advances g w.shared.register phase access a) : (w.after i access a).Committing g where
  mints := by
    have hnote := h.proposes i phase hphase
    cases ha with
    | load | propose => simpa only [Recording.after, Option.map_none, Option.toList_none,
        List.append_nil] using h.mints
    | refuse hp => exact h.mints.record_none (settle_refuse_id? hp)
    | win => exact h.mints.record_commit hnote rfl
    | lose => exact h.mints.record_none rfl
  proposes := by
    refine forall_callers_after (P := fun _ n p => n.Proposes g p)
      (fun j p _ => h.proposes j p) ?_
    cases ha with
    | propose hp => exact hp
    | _ => trivial

theorem committing_run {callers : Nat} (h : (fresh callers).run g moves = some w) :
    w.Committing g :=
  run_induction (fun _ _ _ _ _ h hphase ha => h.after hphase ha) (committing_fresh callers) h

end Recording

theorem ids_eq_records {w : Recording} (h : w.Timed) :
    w.shared.ids = w.records.filterMap Record.id? := by
  rw [Shared.ids, h.history, List.filterMap_map]
  rfl

theorem committed_subset {w : Recording} {moves : List (Nat × Access)} {callers : Nat}
    (h : (Recording.fresh callers).run g moves = some w) :
    committed w.records ⊆ Generator.readings moves := by
  intro reading hr
  obtain ⟨r, hmem, rfl⟩ := List.mem_map.1 hr
  have hread := (Recording.faithful_run h r (List.mem_of_mem_filter hmem)).read
  exact List.mem_filterMap.2 ⟨_, List.mem_of_getElem? hread, rfl⟩

/-- Every run mints a chain of ids. -/
theorem mints_run {w : Recording} {moves : List (Nat × Access)} {callers : Nat}
    (h : (Recording.fresh callers).run g moves = some w) :
    Mints g (committed w.records) w.shared.register w.shared.ids := by
  rw [ids_eq_records (Recording.timed_run h)]
  exact (Recording.committing_run h).mints

end Generator

end Snowflake
