import Snowflake.Proofs.Replacing
import Snowflake.Register.Interleaving
import Mathlib.Algebra.BigOperators.Group.List.Basic
import Mathlib.Algebra.Ring.Int.Defs
import Mathlib.Data.List.Nodup
import Mathlib.Data.List.Range

/-!
# No addition is lost

Any number of callers add to one register. Some of their additions are a single access; others load
once and then exchange again and again, each time expecting what the exchange before it saw, until
one succeeds. Plain additions, which load and then store, are left out: they do lose updates.

**One order.** Every access of such an addition either leaves the register alone or adds the delta
and completes the call. So the history of a run is a total order of the updates (`Updates`): each
finds what the one before it left. It makes no difference how stale the word is that a caller holds,
nor whether the register left that word and came back to it. An exchange that succeeds finds the
word in the register, and it is this word that it adds to.

**Theorem (`additions_not_lost`).** At any time the register holds the initial word and the deltas
of the completed calls, modulo `2 ^ 64`; each of these calls was told what the register held just
before its own update or just after it; and every call is completed once, in the order of its
caller. If all calls are increments, the words before them are consecutive, and distinct as long as
they are not more than there are words.
-/

namespace Snowflake.Register

variable {initial value : Int64} {history : List Completed} {call : Call} {delta : Int64}

/-! ## Additions -/

namespace Call

/-- What a call adds to the register in one of its accesses, if that is all it ever does to it. -/
def delta? : Call → Option Int64
  | getAndAdd tier delta | addAndGet tier delta => if tier = .plain then none else some delta
  | addByExchange delta => some delta
  | _ => none

/-- What a call adds, as a number. -/
def amount (call : Call) : Int := call.delta?.elim 0 Int64.toInt

/-- What an addition replies that found the register at one word and left it at another. -/
def answer (before after : Int64) : Call → Reply
  | getAndAdd .. => .word before
  | addAndGet .. => .word after
  | _ => .nothing

/-- **One access.** It leaves the register alone, or adds the delta and completes the call. -/
theorem access_of_delta (h : call.delta? = some delta) (stage : Stage) (value : Int64) :
    (∃ seen, call.access stage value = (value, .holds seen)) ∨
      call.access stage value =
        (value + delta, .completes (call.answer value (value + delta))) := by
  cases call with
  | getAndAdd tier d | addAndGet tier d =>
    simp only [delta?] at h
    cases tier with
    | plain => simp at h
    | coherent | acquire | release | sequential =>
      obtain rfl : d = delta := by simpa using h
      exact Or.inr rfl
  | addByExchange d =>
    obtain rfl : d = delta := Option.some.inj h
    cases stage with
    | fresh => exact Or.inl ⟨value, rfl⟩
    | holding seen =>
      by_cases hseen : value = seen
      · subst hseen
        exact Or.inr (by simp [access, answer])
      · exact Or.inl ⟨value, by simp [access, hseen]⟩
  | get | set | getAndSet | compareAndExchange | compareAndSet => cases h

end Call

/-! ## Updates in a row -/

/-- These calls lead a register from one word to another, one after the other: each finds what the
one before it left, and adds its delta. -/
inductive Updates (initial : Int64) : List Completed → Int64 → Prop where
  | none : Updates initial [] initial
  | add {history : List Completed} {value : Int64} {call : Call} {delta : Int64} (i : Nat)
      (h : Updates initial history value) (hcall : call.delta? = some delta) :
      Updates initial (history ++
        [⟨i, call, value, value + delta, call.answer value (value + delta)⟩]) (value + delta)

/-- What these calls add together. -/
def total (history : List Completed) : Int := (history.map (·.call.amount)).sum

theorem total_append (history history' : List Completed) :
    total (history ++ history') = total history + total history' := by
  rw [total, List.map_append, List.sum_append, total, total]

namespace Updates

theorem value_eq (h : Updates initial history value) :
    value = Int64.ofInt (initial.toInt + total history) := by
  induction h with
  | none => simp [total]
  | @add history value call delta i h hcall ih =>
    rw [total_append, ← Int.add_assoc, Int64.ofInt_add, ← ih]
    simp [total, Call.amount, hcall]

/-- **One update.** It finds the deltas of those before it, adds its own, and answers accordingly.
-/
theorem entry (h : Updates initial history value) {k : Nat} {c : Completed}
    (hk : history[k]? = some c) :
    c.before = Int64.ofInt (initial.toInt + total (history.take k)) ∧
      (∃ delta, c.call.delta? = some delta ∧ c.after = c.before + delta) ∧
      c.reply = c.call.answer c.before c.after := by
  induction h with
  | none => simp at hk
  | @add history value call delta i h hcall ih =>
    rcases getElem?_concat_eq_some_iff.1 hk with hk | ⟨rfl, rfl⟩
    · obtain ⟨hlt, -⟩ := List.getElem?_eq_some_iff.1 hk
      rw [List.take_append_of_le_length (Nat.le_of_lt hlt)]
      exact ih hk
    · rw [List.take_left]
      exact ⟨h.value_eq, ⟨delta, hcall, rfl⟩, rfl⟩

theorem before_of_increments (h : Updates initial history value)
    (hone : ∀ c ∈ history, c.call.delta? = some 1) :
    history.map Completed.before =
      (List.range history.length).map fun k => Int64.ofInt (initial.toInt + (k : Nat)) := by
  refine List.ext_getElem (by simp) fun k hk hk' => ?_
  have hk : k < history.length := by simpa using hk
  have htotal : total (history.take k) = k := by
    have hones : ∀ amount ∈ (history.take k).map (·.call.amount), amount = 1 := by
      intro amount hmem
      obtain ⟨c, hc, rfl⟩ := List.mem_map.1 hmem
      simp [Call.amount, hone c (List.mem_of_mem_take hc)]
    rw [total, List.eq_replicate_of_mem hones]
    simp [Nat.min_eq_left (Nat.le_of_lt hk)]
  rw [List.getElem_map, List.getElem_map, List.getElem_range,
    (h.entry (List.getElem?_eq_getElem hk)).1, htotal]

end Updates

theorem nodup_consecutive (initial : Int) {n : Nat} (hn : n ≤ 2 ^ 64) :
    ((List.range n).map fun k => Int64.ofInt (initial + (k : Nat))).Nodup := by
  refine List.Nodup.map_on (fun j hj k hk hjk => ?_) List.nodup_range
  have hj := List.mem_range.1 hj
  have hk := List.mem_range.1 hk
  have hmod := congrArg (·.toInt % (Int64.size : Int)) hjk
  simp only [Int64.toInt_ofInt, Int.bmod_emod, Int64.size] at hmod
  omega

/-! ## Who made which -/

/-- The calls of caller `i` among these, in the order in which they were completed. -/
def callsOf (i : Nat) (history : List Completed) : List Call :=
  (history.filter (·.caller = i)).map Completed.call

namespace Shared

variable {plan : List (List Call)} {s s' : Shared} {i : Nat}

/-- Callers that have these calls to make, on a register that holds a word. -/
def ofCalls (initial : Int64) (plan : List (List Call)) : Shared where
  value := initial
  callers := plan.map fun calls => { calls }

/-- The calls that each caller has still to complete. -/
def pending (s : Shared) : List (List Call) := s.callers.map Caller.calls

/-- What one access of a caller leads to while all calls are additions. -/
inductive Steps (s : Shared) (i : Nat) : Shared → Prop where
  | rest : Steps s i s
  | hold {call : Call} {others : List Call} {stage : Stage} (seen : Int64)
      (h : s.callers[i]? = some ⟨call :: others, stage⟩) :
      Steps s i { s with callers := s.callers.set i ⟨call :: others, .holding seen⟩ }
  | add {call : Call} {others : List Call} {stage : Stage} {delta : Int64}
      (h : s.callers[i]? = some ⟨call :: others, stage⟩) (hcall : call.delta? = some delta) :
      Steps s i
        { value := s.value + delta
          callers := s.callers.set i ⟨others, .fresh⟩
          history := s.history ++
            [⟨i, call, s.value, s.value + delta, call.answer s.value (s.value + delta)⟩] }

theorem steps_step (h : ∀ calls ∈ s.pending, ∀ call ∈ calls, call.delta?.isSome) (i : Nat) :
    Steps s i (s.step i) := by
  cases hi : s.callers[i]? with
  | none =>
    rw [show s.step i = s by simp [step, hi]]
    exact .rest
  | some caller =>
    obtain ⟨calls, stage⟩ := caller
    cases calls with
    | nil =>
      rw [show s.step i = s by simp [step, hi]]
      exact .rest
    | cons call others =>
      have hmem : call :: others ∈ s.pending :=
        List.mem_map.2 ⟨_, List.mem_of_getElem? hi, rfl⟩
      obtain ⟨delta, hdelta⟩ := Option.isSome_iff_exists.1 (h _ hmem call List.mem_cons_self)
      rcases Call.access_of_delta hdelta stage s.value with ⟨seen, haccess⟩ | haccess
      · have hhold := Steps.hold seen hi
        simpa only [step, hi, haccess] using hhold
      · have hadd := Steps.add hi hdelta
        simpa only [step, hi, haccess] using hadd

/-! ## Whole runs -/

/-- The history is a row of updates, and each caller has completed a first part of its calls. -/
structure Exact (initial : Int64) (plan : List (List Call)) (s : Shared) : Prop where
  updates : Updates initial s.history s.value
  programs : ∀ i, (s.pending[i]?).map (callsOf i s.history ++ ·) = plan[i]?
  /-- Every call is either completed, once, or pending. -/
  calls : (s.history.map Completed.call ++ s.pending.flatten).Perm plan.flatten

theorem pending_ofCalls (initial : Int64) (plan : List (List Call)) :
    (ofCalls initial plan).pending = plan := by
  simp [pending, ofCalls, Function.comp_def]

theorem exact_ofCalls (initial : Int64) (plan : List (List Call)) :
    (ofCalls initial plan).Exact initial plan where
  updates := .none
  programs i := by
    rw [pending_ofCalls]
    exact Option.map_id'
  calls := by
    rw [pending_ofCalls]
    exact .refl _

/-- **One access.** It adds a call to the row of updates, or nothing. -/
theorem Exact.step (h : s.Exact initial plan) (hstep : Steps s i s') :
    s'.Exact initial plan := by
  cases hstep with
  | rest => exact h
  | @hold call others stage seen hi =>
    have hpending : (s.callers.set i ⟨call :: others, .holding seen⟩).map Caller.calls =
        s.pending := map_set_of_eq hi rfl
    exact ⟨h.updates, by rw [pending, hpending]; exact h.programs,
      by rw [pending, hpending]; exact h.calls⟩
  | @add call others stage delta hi hcall =>
    have hcalls : s.pending[i]? = some (call :: others) := by simp [pending, hi]
    have hpending : (s.callers.set i ⟨others, .fresh⟩).map Caller.calls =
        s.pending.set i others := List.map_set
    refine ⟨h.updates.add i hcall, fun j => ?_, ?_⟩
    · rw [pending, hpending, ← h.programs j]
      by_cases hj : i = j
      · subst hj
        obtain ⟨hlt, -⟩ := List.getElem?_eq_some_iff.1 hcalls
        rw [List.getElem?_set_self hlt, hcalls]
        simp [callsOf]
      · rw [List.getElem?_set_ne hj]
        simp [callsOf, hj]
    · have hless : (call :: (s.pending.set i others).flatten).Perm s.pending.flatten := by
        have htaken : ((s.pending.set i others).flatMap id ++ [call]).Perm
            (s.pending.flatMap id) := perm_flatMap_set hcalls rfl
        rw [List.flatMap_id, List.flatMap_id] at htaken
        exact List.perm_append_comm.trans htaken
      rw [pending, hpending, List.map_append, List.append_assoc]
      exact (hless.append_left _).trans h.calls

theorem Exact.run (h : s.Exact initial plan)
    (hadd : ∀ calls ∈ plan, ∀ call ∈ calls, call.delta?.isSome) (schedule : List Nat) :
    (s.run schedule).Exact initial plan := by
  induction schedule generalizing s with
  | nil => exact h
  | cons i schedule ih =>
    have hpending : ∀ calls ∈ s.pending, ∀ call ∈ calls, call.delta?.isSome := by
      intro calls hcalls call hcall
      have hmem := h.calls.subset
        (List.mem_append_right _ (List.mem_flatten_of_mem hcalls hcall))
      obtain ⟨calls', hcalls', hcall'⟩ := List.mem_flatten.1 hmem
      exact hadd calls' hcalls' call hcall'
    exact ih (h.step (steps_step hpending i))

/-- Once all calls are completed, every caller has completed its own. -/
theorem Exact.callsOf_eq (h : s.Exact initial plan) (hdone : s.Finished) {calls : List Call}
    (hi : plan[i]? = some calls) : callsOf i s.history = calls := by
  rw [← h.programs i, pending, List.getElem?_map] at hi
  obtain ⟨left, hleft, rfl⟩ := Option.map_eq_some_iff.1 hi
  obtain ⟨caller, hcaller, rfl⟩ := Option.map_eq_some_iff.1 hleft
  rw [hdone caller (List.mem_of_getElem? hcaller), List.append_nil]

theorem Exact.perm_of_finished (h : s.Exact initial plan) (hdone : s.Finished) :
    (s.history.map Completed.call).Perm plan.flatten := by
  have hnone : s.pending.flatten = [] := by
    simp only [pending, List.flatten_eq_nil_iff, List.mem_map]
    rintro calls ⟨caller, hcaller, rfl⟩
    exact hdone caller hcaller
  simpa [hnone] using h.calls

/-- **No lost update.** At any time of a run the register holds the initial word and the deltas of
the completed calls, each of which found what those before it left and was told so. When all calls
are completed, the register holds all deltas, and each caller has completed each of its calls once.
The words before increments are consecutive, and distinct if there are fewer than `2 ^ 64`. -/
theorem additions_not_lost (initial : Int64) (plan : List (List Call))
    (hadd : ∀ calls ∈ plan, ∀ call ∈ calls, call.delta?.isSome) (schedule : List Nat) :
    let s := (ofCalls initial plan).run schedule
    s.value = Int64.ofInt (initial.toInt + total s.history) ∧
    (∀ (k : Nat) (c : Completed), s.history[k]? = some c →
      c.before = Int64.ofInt (initial.toInt + total (s.history.take k)) ∧
      (∃ delta, c.call.delta? = some delta ∧ c.after = c.before + delta) ∧
      c.reply = c.call.answer c.before c.after) ∧
    (s.Finished →
      s.value = Int64.ofInt (initial.toInt + (plan.flatten.map Call.amount).sum) ∧
      ∀ (i : Nat) (calls : List Call), plan[i]? = some calls → callsOf i s.history = calls) ∧
    ((∀ calls ∈ plan, ∀ call ∈ calls, call.delta? = some 1) → plan.flatten.length < 2 ^ 64 →
      s.history.map Completed.before =
        (List.range s.history.length).map (fun k => Int64.ofInt (initial.toInt + (k : Nat))) ∧
      (s.history.map Completed.before).Nodup) := by
  intro s
  have h : s.Exact initial plan := (exact_ofCalls initial plan).run hadd schedule
  refine ⟨h.updates.value_eq, fun k c => h.updates.entry, fun hdone => ⟨?_, ?_⟩, ?_⟩
  · have hsum := ((h.perm_of_finished hdone).map Call.amount).sum_eq
    rw [h.updates.value_eq, ← hsum, total, List.map_map]
    rfl
  · exact fun i calls => h.callsOf_eq hdone
  · intro hone hfew
    have hlength := h.calls.length_eq
    have hones : ∀ c ∈ s.history, c.call.delta? = some 1 := by
      intro c hc
      have hmem := h.calls.subset (List.mem_append_left _ (List.mem_map_of_mem hc))
      obtain ⟨calls, hcalls, hcall⟩ := List.mem_flatten.1 hmem
      exact hone calls hcalls _ hcall
    have hbefore := h.updates.before_of_increments hones
    refine ⟨hbefore, ?_⟩
    rw [hbefore]
    refine nodup_consecutive _ ?_
    rw [List.length_append, List.length_map] at hlength
    omega

/-- Two callers that increment past the largest word, one of them by exchanges. -/
def wrapping : List (List Call) :=
  [[.getAndIncrement .acquire, .incrementAndGet .sequential], [.addByExchange 1]]

/-- One caller adds by exchanges. The other changes the register and changes it back. -/
def returning : List (List Call) :=
  [[.addByExchange 5], [.getAndAdd .coherent 3, .addAndGet .release (-3)]]

/-- Two exchanges of the second caller fail while the first wraps around. The exchange of the other
run succeeds although the register has changed since its load. -/
theorem wrapping_and_returning_not_lost :
    (∀ calls ∈ wrapping, ∀ call ∈ calls, call.delta? = some 1) ∧
    (∃ s, (ofCalls Int64.maxValue wrapping).run [1, 0, 1, 0, 1, 1] = s ∧ s.Finished ∧
      s.value = Int64.minValue + 2 ∧ callsOf 1 s.history = [.addByExchange 1] ∧
      s.history.map Completed.before = [Int64.maxValue, Int64.minValue, Int64.minValue + 1] ∧
      (s.history.map Completed.before).Nodup) ∧
    ∃ s, (ofCalls 10 returning).run [0, 1, 1, 0] = s ∧ s.Finished ∧ s.value = 15 ∧
      ∃ c, s.history[1]? = some c ∧ c.reply = .word 10 ∧
        c.reply = c.call.answer c.before c.after := by
  have hone : ∀ calls ∈ wrapping, ∀ call ∈ calls, call.delta? = some 1 := by decide
  obtain ⟨-, -, hwrapped, hincrements⟩ :=
    additions_not_lost Int64.maxValue wrapping (by decide) [1, 0, 1, 0, 1, 1]
  obtain ⟨hconsecutive, hdistinct⟩ := hincrements hone (by decide)
  have hends : ∀ caller ∈ ((ofCalls Int64.maxValue wrapping).run [1, 0, 1, 0, 1, 1]).callers,
      caller.calls = [] := by decide +kernel
  obtain ⟨hsum, hcalls⟩ := hwrapped hends
  obtain ⟨-, hentry, hreturned, -⟩ := additions_not_lost 10 returning (by decide) [0, 1, 1, 0]
  have hends' : ∀ caller ∈ ((ofCalls 10 returning).run [0, 1, 1, 0]).callers,
      caller.calls = [] := by decide +kernel
  refine ⟨hone, ⟨_, rfl, hends, hsum.trans (by decide), hcalls 1 _ rfl,
    hconsecutive.trans (by decide +kernel), hdistinct⟩, _, rfl, hends',
    (hreturned hends').1.trans (by decide), _, rfl, rfl, (hentry 1 _ rfl).2.2⟩

end Shared

end Snowflake.Register
