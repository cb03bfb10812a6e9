import Snowflake.Proofs.Commands

/-!
# Two checks of the same values

Widths, node id and offset are checked twice: when arguments become a configuration, and when a
generator is built. The two checks are written apart and name their faults in their own words. Each
is described by its first fault (`Generator.Fault`, `Config.Fault`), and on that they agree. What is
left to the construction is the clock, which may not have reached the offset.

The number of threads is checked with the arguments alone, against the count. So there are as many
workers as were asked for, and none is idle from the start, but for the single one that is to draw
nothing (`remaining_of_checkThreads`).

**Theorem (`checks_agree`).** A configuration that passed its checks can be refused for a late
offset only; and arguments are refused for their widths, their node id or their offset exactly if no
clock gets a generator from these values, for the same first fault.
-/

namespace Snowflake

namespace Config

open Generator

variable {a : Arguments} {e : ConfigError} {count threads : UInt64}

/-! ## Threads -/

theorem checkThreads_generate_iff :
    checkThreads (.generate count threads) = .ok () ↔
      0 < threads.toNat ∧ threads.toNat ≤ max count.toNat 1 := by
  have hmax : (max count 1).toNat = max count.toNat 1 := UInt64.toNat_max count 1
  have hzero : threads = 0 ↔ threads.toNat = 0 := by rw [← UInt64.toNat_inj]; rfl
  simp only [checkThreads, hzero, UInt64.lt_iff_toNat_lt, hmax]
  split_ifs <;> simp <;> omega

theorem eq_one_of_checkThreads (h : checkThreads (.generate 0 threads) = .ok ()) :
    threads = 1 := by
  obtain ⟨hpos, hle⟩ := checkThreads_generate_iff.1 h
  rw [UInt64.toNat_zero] at hle
  refine UInt64.toNat_inj.1 ?_
  rw [UInt64.toNat_one]
  omega

theorem toNat_max_of_checkThreads (h : checkThreads (.generate count threads) = .ok ()) :
    (max threads 1).toNat = threads.toNat := by
  have hpos := (checkThreads_generate_iff.1 h).1
  rw [UInt64.toNat_max, UInt64.toNat_one]
  omega

theorem length_workers_of_checkThreads (h : checkThreads (.generate count threads) = .ok ())
    (register : Int64) :
    (Pool.ofCount register count (max threads 1)).workers.length = threads.toNat := by
  rw [Pool.ofCount, List.length_map, List.length_range, toNat_max_of_checkThreads h]

/-- **Shares.** Each of the workers that are accepted for a count has something to draw. -/
theorem remaining_of_checkThreads (h : checkThreads (.generate count threads) = .ok ())
    (hcount : count ≠ 0) (register : Int64) :
    ∀ w ∈ (Pool.ofCount register count (max threads 1)).workers, 1 ≤ w.remaining := by
  obtain ⟨hpos, hle⟩ := checkThreads_generate_iff.1 h
  have hne : count.toNat ≠ 0 := fun h => hcount (UInt64.toNat_inj.1 h)
  have hmax := toNat_max_of_checkThreads h
  intro w hw
  obtain ⟨i, -, rfl⟩ := List.mem_map.1 hw
  show 1 ≤ (quota count (max threads 1) (UInt64.ofNat i)).toNat
  have hshare : 0 < count.toNat / threads.toNat := Nat.div_pos (by omega) hpos
  rw [toNat_quota (by omega), hmax]
  omega

/-! ## Arguments -/

/-- The first fault of arguments. -/
inductive Fault (a : Arguments) : ConfigError → Prop where
  | layout {cause : Error} (h : Layout.ofWidths a.nodeBits a.sequenceBits = .error cause) :
      Fault a (.layout cause)
  | nodeId {l : Layout} (hl : Layout.ofWidths a.nodeBits a.sequenceBits = .ok l)
      (h : ¬(0 ≤ a.nodeId ∧ a.nodeId ≤ l.maxNode)) : Fault a (.nodeId a.nodeId l.maxNode)
  | negativeOffset {l : Layout} (hl : Layout.ofWidths a.nodeBits a.sequenceBits = .ok l)
      (hnode : 0 ≤ a.nodeId ∧ a.nodeId ≤ l.maxNode) (h : a.offset < 0) : Fault a .negativeOffset
  | noThreads {l : Layout} (hl : Layout.ofWidths a.nodeBits a.sequenceBits = .ok l)
      (hnode : 0 ≤ a.nodeId ∧ a.nodeId ≤ l.maxNode) (hoffset : 0 ≤ a.offset) {count : UInt64}
      (h : a.command = .generate count 0) : Fault a .noThreads
  | tooManyThreads {l : Layout} (hl : Layout.ofWidths a.nodeBits a.sequenceBits = .ok l)
      (hnode : 0 ≤ a.nodeId ∧ a.nodeId ≤ l.maxNode) (hoffset : 0 ≤ a.offset)
      {count threads : UInt64} (hcommand : a.command = .generate count threads)
      (h : max count 1 < threads) : Fault a (.tooManyThreads threads count)

/-- **Refusal.** Arguments are refused exactly for their first fault. -/
theorem ofArguments_eq_error_iff : ofArguments a = .error e ↔ Fault a e := by
  constructor
  · intro h
    unfold ofArguments at h
    split at h
    next cause hl => exact Except.error.inj h ▸ .layout hl
    next l hl =>
      split_ifs at h with hnode hoffset
      · exact Except.error.inj h ▸ .negativeOffset hl hnode hoffset
      · have hoffset := Int64.not_lt.1 hoffset
        cases hcommand : a.command with
        | generate count threads =>
          simp only [hcommand, checkThreads] at h
          split_ifs at h with hzero hmany
          · subst hzero
            exact Except.error.inj h ▸ .noThreads hl hnode hoffset hcommand
          · exact Except.error.inj h ▸ .tooManyThreads hl hnode hoffset hcommand hmany
        | decode | layout => simp [hcommand, checkThreads] at h
      · exact Except.error.inj h ▸ .nodeId hl hnode
  · intro h
    cases h with
    | layout hl => simp [ofArguments, hl]
    | nodeId hl hnode => simp [ofArguments, hl, hnode]
    | negativeOffset hl hnode hoffset => simp [ofArguments, hl, hnode, hoffset]
    | noThreads hl hnode hoffset hcommand =>
      simp [ofArguments, hl, hnode, Int64.not_lt.2 hoffset, hcommand, checkThreads]
    | @tooManyThreads l hl hnode hoffset count threads hcommand hmany =>
      have hzero : threads ≠ 0 := fun h => by
        rw [h, UInt64.lt_iff_toNat_lt] at hmany
        exact Nat.not_lt_zero _ hmany
      simp [ofArguments, hl, hnode, Int64.not_lt.2 hoffset, hcommand, checkThreads, hzero, hmany]

/-- **Agreement.** A configuration that passed its checks gets a generator from every clock that has
reached the offset, and is refused by the others for that alone; it gets a worker for each thread,
and unless it is to draw nothing, with a single thread, all of them have something to draw.
Arguments are refused for their widths, then their node id, then their offset exactly if the same
values are refused on every clock. -/
theorem checks_agree (a : Arguments) :
    (∀ c, ofArguments a = .ok c →
      (∀ now, c.offset ≤ now → ∃ g, create c.layout c.nodeId c.offset now =
        .ok (g, [.created c.layout c.nodeId c.offset])) ∧
      (∀ now, now < c.offset →
        create c.layout c.nodeId c.offset now = .error (.offsetInFuture c.offset now)) ∧
      ∀ count threads, c.command = .generate count threads →
        (count = 0 → threads = 1) ∧
        (∀ register,
          (Pool.ofCount register count (max threads 1)).workers.length = threads.toNat) ∧
        (count ≠ 0 → ∀ register, ∀ w ∈ (Pool.ofCount register count (max threads 1)).workers,
          1 ≤ w.remaining)) ∧
    (∀ cause, ofArguments a = .error (.layout cause) ↔
      Layout.ofWidths a.nodeBits a.sequenceBits = .error cause) ∧
    (∀ given max, ofArguments a = .error (.nodeId given max) ↔
      ∃ l, Layout.ofWidths a.nodeBits a.sequenceBits = .ok l ∧
        ∀ now, create l a.nodeId a.offset now = .error (.nodeIdOutOfRange given max)) ∧
    (ofArguments a = .error .negativeOffset ↔
      ∃ l, Layout.ofWidths a.nodeBits a.sequenceBits = .ok l ∧
        ∀ now, create l a.nodeId a.offset now = .error (.negativeOffset a.offset)) := by
  refine ⟨fun c hc => ?_, fun cause => ?_, fun given max => ?_, ?_⟩
  · obtain ⟨hnode, hoffset, hthreads⟩ := settings_of_ofArguments hc
    refine ⟨fun now hnow => ?_, fun now hnow => ?_, fun count threads hcommand => ?_⟩
    · obtain ⟨g, hg, -⟩ := exists_create hc hnow
      exact ⟨g, hg⟩
    · exact create_eq_error_iff.2 (.offsetInFuture hnode hoffset hnow)
    · rw [hcommand] at hthreads
      refine ⟨?_, length_workers_of_checkThreads hthreads, remaining_of_checkThreads hthreads⟩
      rintro rfl
      exact eq_one_of_checkThreads hthreads
  · rw [ofArguments_eq_error_iff]
    constructor
    · rintro ⟨hl⟩
      exact hl
    · exact .layout
  · rw [ofArguments_eq_error_iff]
    constructor
    · rintro (_ | ⟨hl, hnode⟩)
      exact ⟨_, hl, fun now => create_eq_error_iff.2 (.nodeId hnode)⟩
    · rintro ⟨l, hl, hcreate⟩
      cases create_eq_error_iff.1 (hcreate 0) with
      | nodeId hnode => exact .nodeId hl hnode
  · rw [ofArguments_eq_error_iff]
    constructor
    · rintro (_ | _ | ⟨hl, hnode, hoffset⟩)
      exact ⟨_, hl, fun now => create_eq_error_iff.2 (.negativeOffset hnode hoffset)⟩
    · rintro ⟨l, hl, hcreate⟩
      cases create_eq_error_iff.1 (hcreate 0) with
      | negativeOffset hnode hoffset => exact .negativeOffset hl hnode hoffset

/-- Seven ids from three workers, on the last of sixteen nodes. -/
def trio : Arguments :=
  { nodeBits := 4, sequenceBits := 18, nodeId := 15, offset := 1000, command := .generate 7 3 }

/-- The layout that they ask for. -/
def wide : Layout := ⟨4, 18, by decide⟩

/-- Accepted, they get a generator from the instant of the offset on, and three workers of which
nobody is idle. With one more node, or an offset before the beginning, no clock gets one. -/
theorem trio_checked_alike :
    ofArguments trio = .ok ⟨wide, 15, 1000, .generate 7 3⟩ ∧
    (∃ g, create wide 15 1000 1000 = .ok (g, [.created wide 15 1000])) ∧
    create wide 15 1000 999 = .error (.offsetInFuture 1000 999) ∧
    (Pool.ofCount 0 7 3).workers.length = 3 ∧
    (∀ w ∈ (Pool.ofCount 0 7 3).workers, 1 ≤ w.remaining) ∧
    (∀ now, create wide 16 1000 now = .error (.nodeIdOutOfRange 16 15)) ∧
    ∀ now, create wide 15 (-1) now = .error (.negativeOffset (-1)) := by
  have haccepted : ofArguments trio = .ok ⟨wide, 15, 1000, .generate 7 3⟩ := by decide
  obtain ⟨hbuilt, hlate, hshares⟩ := (checks_agree trio).1 _ haccepted
  obtain ⟨-, hworkers, hbusy⟩ := hshares 7 3 rfl
  obtain ⟨l, hl, hnode⟩ := ((checks_agree { trio with nodeId := 16 }).2.2.1 16 15).1 (by decide)
  obtain ⟨l', hl', hoffset⟩ := (checks_agree { trio with offset := -1 }).2.2.2.1 (by decide)
  obtain rfl : wide = l := Except.ok.inj hl
  obtain rfl : wide = l' := Except.ok.inj hl'
  exact ⟨haccepted, hbuilt 1000 (by decide), hlate 999 (by decide), hworkers 0,
    hbusy (by decide) 0, hnode, hoffset⟩

end Config

end Snowflake
