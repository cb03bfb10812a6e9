import Snowflake.Proofs.Minting

/-!
# What attempts see

An attempt acts on two words: the one it saw at its load, and the one that the register holds at
its end. Either is what the commits before that moment had left, so all that is known of chains of
commits (`Mints`) is known of the outcome of every attempt.

**Theorem (`sighted_run`).** An ended attempt ended as `settle` says, on its own reading, of the
word that the commits before its load had left and of the register that the commits before its end
had left. Nothing is assumed of the clock or of the order of the accesses.

The commits before a time are told from the others by the records alone (`endedBefore`). What
happens after that time adds only later records, so nothing that was seen is ever lost.
-/

namespace Snowflake.Generator

variable {g : Generator} {records : List Record} {r : Record} {time time' : Nat}
  {w seen held reading : Int64}

/-! ## The commits before a time -/

/-- The attempts that had ended before a time. -/
def endedBefore (records : List Record) (time : Nat) : List Record :=
  records.filter (·.endedAt < time)

/-- The commits among these attempts lead from the fresh register to `w`. -/
def Leaves (g : Generator) (records : List Record) (w : Int64) : Prop :=
  Mints g (committed records) w (records.filterMap Record.id?)

theorem endedBefore_eq_self (h : ∀ r ∈ records, r.endedAt < time) :
    endedBefore records time = records :=
  List.filter_eq_self.2 fun r hr => decide_eq_true (h r hr)

theorem endedBefore_append {later : List Record} (h : ∀ r ∈ later, time ≤ r.endedAt) :
    endedBefore (records ++ later) time = endedBefore records time := by
  have hnone : endedBefore later time = [] := by
    refine List.filter_eq_nil_iff.2 fun r hr => ?_
    simpa using h r hr
  rw [endedBefore, List.filter_append, ← endedBefore, ← endedBefore, hnone, List.append_nil]

/-- Of the attempts before a time, some had ended before an earlier one, and the others followed. -/
theorem endedBefore_split (hs : records.Pairwise (·.endedAt < ·.endedAt)) (h : time ≤ time') :
    endedBefore records time ++ (endedBefore records time').filter (time ≤ ·.endedAt) =
      endedBefore records time' := by
  have hearlier : (endedBefore records time').filter (·.endedAt < time) =
      endedBefore records time := by
    simp only [endedBefore, List.filter_filter]
    congr 1
    funext r
    by_cases hr : r.endedAt < time
    · simp [hr]
      omega
    · simp [hr]
  have hsplit : (endedBefore records time').filter (·.endedAt < time) ++
      (endedBefore records time').filter (time ≤ ·.endedAt) = endedBefore records time' :=
    filter_lt_append_filter_le (hs.filter _) time
  rw [hearlier] at hsplit
  exact hsplit

theorem endedBefore_sublist : (endedBefore records time).Sublist records := List.filter_sublist

theorem committed_endedBefore_subset : committed (endedBefore records time) ⊆ committed records :=
  ((endedBefore_sublist.filter _).map _).subset

theorem mem_of_mem_endedBefore (h : r ∈ endedBefore records time) : r ∈ records :=
  List.mem_of_mem_filter h

theorem endedAt_lt_of_mem_endedBefore (h : r ∈ endedBefore records time) : r.endedAt < time :=
  of_decide_eq_true (List.mem_filter.1 h).2

/-! ## How an attempt is settled -/

theorem settle_outcome_of_refuse (h : ∀ next, g.propose seen reading ≠ .commit next)
    (held held' : Int64) :
    (g.settle seen held reading).outcome = (g.settle seen held' reading).outcome := by
  unfold settle
  split
  · rename_i next hp
    exact absurd hp (h next)
  · rfl
  · rfl

/-- If an exchange is proposed, it is lost exactly if the register no longer holds what was seen. -/
theorem settle_outcome_lost_iff {next : Int64} (h : g.propose seen reading = .commit next) :
    (g.settle seen held reading).outcome = .ok (.pending 0) ↔ held ≠ seen := by
  simp only [settle, h, commit]
  by_cases hheld : held = seen <;> simp [hheld]

/-- The attempt ended as `settle` says of the word it saw and of the register at its end, which the
commits before its load and before its end had left. -/
structure Record.Settles (g : Generator) (records : List Record) (r : Record)
    (seen held : Int64) : Prop where
  saw : Leaves g (endedBefore records r.loadedAt) seen
  found : Leaves g (endedBefore records r.endedAt) held
  outcome : r.outcome = (g.settle seen held r.reading).outcome
  /-- It reached an exchange exactly if it proposed one. -/
  reached : r.readAt < r.endedAt ↔ ∃ next, g.propose seen r.reading = .commit next

theorem Record.Settles.append {later : List Record} (h : r.Settles g records seen held)
    (hload : r.loadedAt ≤ r.endedAt) (hlater : ∀ r' ∈ later, r.endedAt ≤ r'.endedAt) :
    r.Settles g (records ++ later) seen held where
  saw := by
    rw [endedBefore_append fun r' hr' => hload.trans (hlater r' hr')]
    exact h.saw
  found := by
    rw [endedBefore_append hlater]
    exact h.found
  outcome := h.outcome
  reached := h.reached

/-! ## The invariant -/

/-- What an open attempt saw is what the commits before its load had left. -/
def Note.Saw (g : Generator) (records : List Record) (n : Note) : Phase → Prop
  | .idle => True
  | .loaded seen => Leaves g (endedBefore records n.loadedAt) seen
  | .proposing seen _ => Leaves g (endedBefore records n.loadedAt) seen

/-- All open attempts and all ended ones are accounted for by the commits. -/
structure Recording.Sighted (g : Generator) (w : Recording) : Prop where
  saw : ∀ i p, w.shared.phases[i]? = some p → (w.notes i).Saw g w.records p
  settled : ∀ r ∈ w.records, ∃ seen held, r.Settles g w.records seen held

namespace Recording

variable {w : Recording} {phase : Phase} {access : Access} {a : Advance} {i : Nat}

theorem sighted_fresh (callers : Nat) : (fresh callers).Sighted g where
  saw i p hp := by
    rw [eq_idle_of_fresh hp]
    trivial
  settled := nofun

theorem endedBefore_after (h : time ≤ w.schedule.length) :
    endedBefore (w.after i access a).records time = endedBefore w.records time := by
  refine endedBefore_append fun r hr => ?_
  obtain ⟨outcome, -, rfl⟩ := Option.map_eq_some_iff.1 (Option.mem_toList.1 hr)
  exact h

theorem Committing.leaves (h : w.Committing g) (ht : w.Timed) :
    Leaves g (endedBefore w.records w.schedule.length) w.shared.register := by
  rw [endedBefore_eq_self fun r hr => (ht.records r hr).ended_lt]
  exact h.mints

variable (access a i) in
theorem saw_after {n : Note} {j : Nat} {p : Phase} (h : n.Saw g w.records p)
    (hf : n.Faithful w.schedule j p) : n.Saw g (w.after i access a).records p := by
  cases p with
  | idle => trivial
  | loaded seen =>
    obtain ⟨hlt, -⟩ := List.getElem?_eq_some_iff.1 hf
    show Leaves g (endedBefore (w.after i access a).records n.loadedAt) seen
    rw [endedBefore_after hlt.le]
    exact h
  | proposing seen next =>
    obtain ⟨hlt, -⟩ := List.getElem?_eq_some_iff.1 hf.1
    show Leaves g (endedBefore (w.after i access a).records n.loadedAt) seen
    rw [endedBefore_after hlt.le]
    exact h

/-- An access keeps everything accounted for if the caller that moved saw what it should have
seen, and if the attempt that it ended, if any, was settled. -/
theorem Sighted.after_of_note (h : w.Sighted g) (ht : w.Timed) (hc : w.Committing g)
    (hnew : ((w.notes i).after w.schedule.length access).Saw g (w.after i access a).records a.phase)
    (hended : ∀ outcome ∈ a.ended, ∃ seen,
      let note := (w.notes i).after w.schedule.length access
      Leaves g (endedBefore (w.after i access a).records note.loadedAt) seen ∧
        outcome = (g.settle seen w.shared.register note.reading).outcome ∧
        (note.readAt < w.schedule.length ↔ ∃ next, g.propose seen note.reading = .commit next)) :
    (w.after i access a).Sighted g where
  saw := forall_callers_after (P := fun _ n p => n.Saw g (w.after i access a).records p)
    (fun j p _ hj => saw_after access a i (h.saw j p hj) (ht.notes j p hj)) hnew
  settled r hr := by
    rcases List.mem_append.1 hr with hr | hr
    · obtain ⟨seen, held, hsettles⟩ := h.settled r hr
      have hf := ht.records r hr
      refine ⟨seen, held, hsettles.append (hf.loaded_lt.le.trans hf.read_le) fun r' hr' => ?_⟩
      obtain ⟨outcome, -, rfl⟩ := Option.map_eq_some_iff.1 (Option.mem_toList.1 hr')
      exact hf.ended_lt.le
    · obtain ⟨outcome, hout, rfl⟩ := Option.map_eq_some_iff.1 (Option.mem_toList.1 hr)
      obtain ⟨seen, hsaw, houtcome, hreached⟩ := hended outcome hout
      refine ⟨seen, w.shared.register, hsaw, ?_, houtcome, hreached⟩
      show Leaves g (endedBefore _ w.schedule.length) w.shared.register
      rw [endedBefore_after le_rfl]
      exact hc.leaves ht

/-- **One access.** What it sees, and what it ends, is accounted for. -/
theorem Sighted.after (h : w.Sighted g) (ht : w.Timed) (hc : w.Committing g)
    (hphase : w.shared.phases[i]? = some phase)
    (ha : Advances g w.shared.register phase access a) : (w.after i access a).Sighted g := by
  have hnote := ht.notes i phase hphase
  have hsaw := saw_after access a i (h.saw i phase hphase) hnote
  have hproposes := hc.proposes i phase hphase
  cases ha with
  | load =>
    refine h.after_of_note ht hc ?_ nofun
    show Leaves g (endedBefore _ w.schedule.length) w.shared.register
    rw [endedBefore_after le_rfl]
    exact hc.leaves ht
  | propose hp => exact h.after_of_note ht hc hsaw nofun
  | @refuse seen reading hp =>
    refine h.after_of_note ht hc trivial fun outcome hout => ⟨seen, hsaw, ?_, ?_⟩
    · rw [← Option.some.inj hout]
      exact settle_outcome_of_refuse hp _ _
    · exact iff_of_false (Nat.lt_irrefl _) fun ⟨next, hnext⟩ => hp next hnext
  | @win next =>
    obtain ⟨hread, -⟩ := List.getElem?_eq_some_iff.1 hnote.2.1
    refine h.after_of_note ht hc trivial fun outcome hout => ⟨_, hsaw, ?_, ?_⟩
    · rw [← Option.some.inj hout]
      exact (congrArg Attempt.outcome (settle_commit hproposes)).symm
    · exact iff_of_true hread ⟨next, hproposes⟩
  | @lose seen next hne =>
    obtain ⟨hread, -⟩ := List.getElem?_eq_some_iff.1 hnote.2.1
    refine h.after_of_note ht hc trivial fun outcome hout => ⟨seen, hsaw, ?_, ?_⟩
    · rw [← Option.some.inj hout]
      exact ((settle_outcome_lost_iff hproposes).2 hne).symm
    · exact iff_of_true hread ⟨next, hproposes⟩

theorem sighted_run {callers : Nat} {moves : List (Nat × Access)}
    (h : (fresh callers).run g moves = some w) : w.Sighted g := by
  have hall : w.Timed ∧ w.Committing g ∧ w.Sighted g := by
    refine run_induction (P := fun w => w.Timed ∧ w.Committing g ∧ w.Sighted g) ?_
      ⟨timed_fresh callers, committing_fresh callers, sighted_fresh callers⟩ h
    rintro w i phase access a ⟨ht, hc, hs⟩ hphase ha
    exact ⟨ht.after hphase ha, hc.after hphase ha, hs.after ht hc hphase ha⟩
  exact hall.2.2

end Recording

end Snowflake.Generator
