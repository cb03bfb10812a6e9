import Snowflake.Proofs.Minting
import Mathlib.Data.List.Perm.Basic

/-!
# Attempts are atomic

**Theorem (`run_linearizable`).** Every run is a sequence of whole attempts, one after the
other, that took the same readings. An attempt with an id stands at its exchange; one that
found its millisecond exhausted, or the clock regressed, stands at its load; one that lost its
exchange did nothing and stands nowhere. The sequence gives each of its attempts the outcome it
had, and leaves the same register. No assumption is made on the clock, and words may come back
to the register.

Where an attempt stands is not known when it loads, so the sequence cannot be built access by
access at its end. When an attempt is refused, it is put into the sequence at its load
(`place`), among attempts that are there already. That is harmless: it finds the word it saw,
because that is what the attempts before its load leave, and it leaves that word to those after
it. The invariant is `Linearized`; its field `seen` says what each open attempt will find.
-/

namespace Snowflake.Generator

variable {g : Generator} {phase : Phase} {access : Access} {a : Advance}

namespace Record

/-- The attempt took effect at some point: it did not lose its exchange. -/
def takesEffect (r : Record) : Bool := r.outcome ≠ .ok (.pending 0)

/-- Where the attempt takes effect: an id at its exchange, all else at its load. -/
def point (r : Record) : Nat :=
  match r.outcome with
  | .ok (.ready _) => r.endedAt
  | _ => r.loadedAt

/-- A reading during which nothing happens. -/
def tick (r : Record) : Tick := .plain r.reading

end Record

/-! ## Sequences of attempts -/

/-- Whole attempts on the readings of these records, one after the other, have the outcomes of
the records and lead from `w` to `w'`. -/
def Replays (g : Generator) : Int64 → List Record → Int64 → Prop
  | w, [], w' => w = w'
  | w, r :: rest, w' => (g.settle w w r.reading).outcome = r.outcome ∧
      Replays g (g.settle w w r.reading).register rest w'

variable {order before rest : List Record} {r : Record} {w w' u : Int64}

theorem replays_append :
    Replays g w (before ++ rest) w' ↔ ∃ u, Replays g w before u ∧ Replays g u rest w' := by
  induction before generalizing w with
  | nil => exact ⟨fun h => ⟨w, rfl, h⟩, fun ⟨_, hu, h⟩ => hu ▸ h⟩
  | cons r before ih =>
    simp only [List.cons_append, Replays, ih]
    exact ⟨fun ⟨hr, u, hb, h⟩ => ⟨u, ⟨hr, hb⟩, h⟩, fun ⟨u, ⟨hr, hb⟩, h⟩ => ⟨hr, u, hb, h⟩⟩

theorem Replays.unique (h : Replays g w order u) (h' : Replays g w order w') : u = w' := by
  induction order generalizing w with
  | nil => exact h.symm.trans h'
  | cons r rest ih => exact ih h.2 h'.2

/-- An attempt that finds its word and leaves it there can be put between others. -/
theorem Replays.insert (h : Replays g w (before ++ rest) w') (hb : Replays g w before u)
    (hout : (g.settle u u r.reading).outcome = r.outcome)
    (hreg : (g.settle u u r.reading).register = u) : Replays g w (before ++ r :: rest) w' := by
  obtain ⟨v, hv, hrest⟩ := replays_append.1 h
  rw [hv.unique hb] at hrest
  exact replays_append.2 ⟨u, hb, hout, by rw [hreg]; exact hrest⟩

theorem Replays.pollAll (h : Replays g w order w') :
    (g.pollAll w (order.map Record.tick)).register = w' ∧
      (g.pollAll w (order.map Record.tick)).outcomes = order.map Record.outcome := by
  induction order generalizing w with
  | nil => exact ⟨h, rfl⟩
  | cons r rest ih =>
    obtain ⟨hreg, hout⟩ := pollAll_plain_cons (g := g) w r.reading (rest.map Record.tick)
    obtain ⟨hreg', hout'⟩ := ih h.2
    exact ⟨hreg.trans hreg', by rw [List.map_cons, Record.tick, hout, h.1, hout', List.map_cons]⟩

/-! ## Placing an attempt -/

/-- The attempts that take effect before a time. -/
def earlier (order : List Record) (time : Nat) : List Record := order.filter (·.point < time)

/-- An attempt put where it takes effect. -/
def place (r : Record) (order : List Record) : List Record :=
  earlier order r.point ++ r :: order.filter (r.point ≤ ·.point)

/-- The attempts that stand in the order in which they take effect. -/
def InOrder (order : List Record) : Prop := order.Pairwise fun r r' => r.point < r'.point

theorem InOrder.split (h : InOrder order) (time : Nat) :
    earlier order time ++ order.filter (time ≤ ·.point) = order :=
  filter_lt_append_filter_le h time

theorem place_perm (h : InOrder order) : (place r order).Perm (order ++ [r]) := by
  have hsplit := h.split r.point
  calc (place r order).Perm (r :: (earlier order r.point ++ order.filter (r.point ≤ ·.point))) :=
        List.perm_middle
    _ = r :: order := by rw [hsplit]
    _ |>.Perm (order ++ [r]) := (List.perm_append_singleton r order).symm

theorem mem_place {r' : Record} (h : InOrder order) :
    r' ∈ place r order ↔ r' ∈ order ∨ r' = r := by
  rw [(place_perm h).mem_iff, List.mem_append, List.mem_singleton]

theorem inOrder_place (h : InOrder order) (hne : ∀ r' ∈ order, r'.point ≠ r.point) :
    InOrder (place r order) := by
  refine List.pairwise_append.2 ⟨h.filter _, List.pairwise_cons.2 ⟨?_, h.filter _⟩, ?_⟩
  · intro r' hr'
    obtain ⟨hmem, hle⟩ := List.mem_filter.1 hr'
    have := hne r' hmem
    have := of_decide_eq_true hle
    omega
  · intro r₁ hr₁ r₂ hr₂
    have h₁ := of_decide_eq_true (List.mem_filter.1 hr₁).2
    rcases List.mem_cons.1 hr₂ with rfl | hr₂
    · exact h₁
    · exact h₁.trans_le (of_decide_eq_true (List.mem_filter.1 hr₂).2)

/-- Before a later time, a placed attempt is placed among those that were there. -/
theorem earlier_place_of_lt {time : Nat} (h : r.point < time) :
    earlier (place r order) time = place r (earlier order time) := by
  simp only [earlier, place, List.filter_append, List.filter_cons, h, decide_true, if_true]
  rw [List.filter_comm, List.filter_comm fun r' : Record => decide (r'.point < time)]

/-- Before an earlier time, a placed attempt is not seen. -/
theorem earlier_place_of_le {time : Nat} (h : time ≤ r.point) :
    earlier (place r order) time = earlier order time := by
  have hlow : ∀ r' : Record, (decide (r'.point < time) && decide (r'.point < r.point)) =
      decide (r'.point < time) := fun r' => by by_cases hr' : r'.point < time <;> simp [hr']; omega
  have hhigh : ∀ r' : Record, (decide (r'.point < time) && decide (r.point ≤ r'.point)) = false :=
    fun r' => by by_cases hr' : r'.point < time <;> simp [hr']; omega
  simp only [earlier, place, List.filter_append, List.filter_cons, List.filter_filter, hlow, hhigh,
    Nat.not_lt.2 h, decide_false, List.filter_false, List.append_nil, Bool.false_eq_true, if_false]

theorem earlier_earlier {time time' : Nat} (h : time ≤ time') :
    earlier (earlier order time') time = earlier order time := by
  have hboth : ∀ r' : Record, (decide (r'.point < time) && decide (r'.point < time')) =
      decide (r'.point < time) := fun r' => by by_cases hr' : r'.point < time <;> simp [hr']; omega
  simp only [earlier, List.filter_filter, hboth]

/-- An attempt may be placed where it finds its word and leaves it. -/
theorem Replays.place (h : Replays g w order w') (hin : InOrder order)
    (hb : Replays g w (earlier order r.point) u)
    (hout : (g.settle u u r.reading).outcome = r.outcome)
    (hreg : (g.settle u u r.reading).register = u) : Replays g w (place r order) w' := by
  rw [← hin.split r.point] at h
  exact h.insert hb hout hreg

/-! ## The invariant -/

variable {moves : List (Nat × Access)}

/-- An attempt that has read the register would, at its load, find in the sequence the word that
it saw, and no other attempt stands there. -/
def Note.Finds (g : Generator) (order : List Record) (n : Note) : Phase → Prop
  | .loaded seen => Replays g 0 (earlier order n.loadedAt) seen ∧
      ∀ r ∈ order, r.point ≠ n.loadedAt
  | _ => True

/-- The attempts of a run that took effect, put in this order, are whole attempts that leave the
register as it is. -/
structure Recording.Linearized (g : Generator) (w : Recording) (order : List Record) : Prop where
  perm : order.Perm (w.records.filter Record.takesEffect)
  inOrder : InOrder order
  replays : Replays g 0 order w.shared.register
  past : ∀ r ∈ order, r.point < w.schedule.length
  seen : ∀ i p, w.shared.phases[i]? = some p → (w.notes i).Finds g order p

/-! ## What open attempts find -/

variable {n : Note} {schedule : List (Nat × Access)} {i j : Nat}

/-- What open attempts find is not changed by one that takes effect now. -/
theorem Note.Finds.append (h : n.Finds g order phase) (hf : n.Faithful schedule i phase)
    (hr : schedule.length ≤ r.point) : n.Finds g (order ++ [r]) phase := by
  cases phase with
  | loaded seen =>
    obtain ⟨hlt, -⟩ := List.getElem?_eq_some_iff.1 hf
    have hlate : earlier [r] n.loadedAt = [] := by simp [earlier]; omega
    refine ⟨?_, fun r' hr' => ?_⟩
    · rw [earlier, List.filter_append, ← earlier, ← earlier, hlate, List.append_nil]
      exact h.1
    · rcases List.mem_append.1 hr' with hr' | hr'
      · exact h.2 r' hr'
      · rw [List.mem_singleton.1 hr']
        omega
  | _ => trivial

/-- Nor by another caller's attempt that is put at its load and leaves the word it finds. -/
theorem Note.Finds.place (h : n.Finds g order phase) (hf : n.Faithful schedule j phase)
    (hin : InOrder order) (hload : schedule[r.point]? = some (i, .load)) (hji : j ≠ i)
    (hb : Replays g 0 (earlier order r.point) u)
    (hout : (g.settle u u r.reading).outcome = r.outcome)
    (hreg : (g.settle u u r.reading).register = u) : n.Finds g (place r order) phase := by
  cases phase with
  | loaded seen =>
    -- The two loads are by different callers, so they stand at different places.
    have hloaded : schedule[n.loadedAt]? = some (j, .load) := hf
    have hne : r.point ≠ n.loadedAt := fun he => by
      rw [← he, hload, Option.some.injEq, Prod.mk.injEq] at hloaded
      exact hji hloaded.1.symm
    refine ⟨?_, fun r' hr' => ?_⟩
    · rcases lt_or_gt_of_ne hne with hlt | hgt
      · rw [earlier_place_of_lt hlt]
        refine h.1.place (hin.filter _) ?_ hout hreg
        rw [earlier_earlier hlt.le]
        exact hb
      · rw [earlier_place_of_le hgt.le]
        exact h.1
    · rcases (mem_place hin).1 hr' with hr' | rfl
      · exact h.2 r' hr'
      · exact hne
  | _ => trivial

/-! ## One access -/

namespace Recording

variable {w w' : Recording}

theorem linearized_fresh (callers : Nat) : (fresh callers).Linearized g [] where
  perm := .nil
  inOrder := .nil
  replays := rfl
  past := nofun
  seen i p hp := by
    rw [eq_idle_of_fresh hp]
    trivial

theorem Linearized.keep (h : w.Linearized g order) (hreg : a.register = w.shared.register)
    (hended : ∀ outcome ∈ a.ended, outcome = .ok (.pending 0))
    (hnote : ((w.notes i).after w.schedule.length access).Finds g order a.phase) :
    (w.after i access a).Linearized g order where
  perm := by
    have hsame : (w.after i access a).records.filter Record.takesEffect =
        w.records.filter Record.takesEffect := by
      rw [after, List.filter_append, List.append_right_eq_self, List.filter_eq_nil_iff]
      intro r hr
      obtain ⟨outcome, hout, rfl⟩ := Option.map_eq_some_iff.1 (Option.mem_toList.1 hr)
      simp [Record.takesEffect, hended outcome hout]
    rw [hsame]
    exact h.perm
  inOrder := h.inOrder
  replays := by
    rw [after_register, hreg]
    exact h.replays
  past r hr := by
    rw [after_schedule, List.length_append]
    exact Nat.lt_add_right _ (h.past r hr)
  seen := forall_callers_after (P := fun _ n p => n.Finds g order p)
    (fun j p _ => h.seen j p) hnote

theorem filter_takesEffect (h : r.takesEffect) :
    (w.records ++ [r]).filter Record.takesEffect =
      w.records.filter Record.takesEffect ++ [r] := by
  rw [List.filter_append, List.filter_cons_of_pos h, List.filter_nil]

/-- A refused attempt is put at its load. -/
theorem Linearized.refuse {seen reading : Int64} (h : w.Linearized g order) (ht : w.Timed)
    (hphase : w.shared.phases[i]? = some (.loaded seen))
    (hp : ∀ next, g.propose seen reading ≠ .commit next) :
    ∃ order', (w.after i (.read reading)
      { register := w.shared.register, phase := .idle,
        ended := some (g.settle seen seen reading).outcome
        events := (g.settle seen seen reading).events }).Linearized g order' := by
  obtain ⟨hfinds, hfree⟩ := h.seen i _ hphase
  have hload : w.schedule[(w.notes i).loadedAt]? = some (i, .load) := ht.notes i _ hphase
  obtain ⟨hlt, -⟩ := List.getElem?_eq_some_iff.1 hload
  obtain ⟨hreg, hrefused⟩ := settle_refuse hp
  let r : Record :=
    { (w.notes i).after w.schedule.length (.read reading) with
      caller := i, endedAt := w.schedule.length, outcome := (g.settle seen seen reading).outcome }
  have hpoint : r.point = (w.notes i).loadedAt := by
    rcases hrefused with hout | ⟨now, last, hout⟩ <;> simp only [r, Record.point, hout] <;> rfl
  have htakes : r.takesEffect := by
    rcases hrefused with hout | ⟨now, last, hout⟩ <;> simp [r, Record.takesEffect, hout]
  rw [← hpoint] at hfinds hfree hload hlt
  refine ⟨place r order, ?_, inOrder_place h.inOrder hfree, ?_, fun r' hr' => ?_, ?_⟩
  · show (place r order).Perm ((w.records ++ [r]).filter Record.takesEffect)
    rw [filter_takesEffect htakes]
    exact (place_perm h.inOrder).trans (h.perm.append_right [r])
  · exact h.replays.place h.inOrder hfinds rfl hreg
  · rw [after_schedule, List.length_append]
    refine Nat.lt_add_right _ ?_
    rcases (mem_place h.inOrder).1 hr' with hr' | rfl
    · exact h.past r' hr'
    · exact hlt
  · refine forall_callers_after (P := fun _ n p => n.Finds g (place r order) p) ?_ trivial
    intro j p hji hj
    exact (h.seen j p hj).place (ht.notes j p hj) h.inOrder hload hji hfinds rfl hreg

/-- A committed id is put at its exchange, which is now. -/
theorem Linearized.win {next : Int64} (h : w.Linearized g order) (ht : w.Timed)
    (hp : g.propose w.shared.register (w.notes i).reading = .commit next) :
    ∃ order', (w.after i .exchange
      { register := next, phase := .idle,
        ended := some (.ok (.ready (next ||| g.stamp))) }).Linearized g order' := by
  let r : Record :=
    { (w.notes i).after w.schedule.length .exchange with
      caller := i, endedAt := w.schedule.length, outcome := .ok (.ready (next ||| g.stamp)) }
  have hsettle : g.settle w.shared.register w.shared.register r.reading = _ := settle_commit hp
  refine ⟨order ++ [r], ?_, ?_, ?_, fun r' hr' => ?_, ?_⟩
  · show (order ++ [r]).Perm ((w.records ++ [r]).filter Record.takesEffect)
    rw [filter_takesEffect rfl]
    exact h.perm.append_right [r]
  · refine List.pairwise_append.2 ⟨h.inOrder, List.pairwise_singleton _ _, ?_⟩
    intro r' hr' r'' hr''
    rw [List.mem_singleton.1 hr'']
    exact h.past r' hr'
  · refine replays_append.2 ⟨w.shared.register, h.replays, ?_⟩
    rw [Replays, hsettle]
    exact ⟨rfl, rfl⟩
  · rw [after_schedule, List.length_append]
    rcases List.mem_append.1 hr' with hr' | hr'
    · exact Nat.lt_add_right _ (h.past r' hr')
    · rw [List.mem_singleton.1 hr']
      exact Nat.lt_succ_self _
  · refine forall_callers_after (P := fun _ n p => n.Finds g (order ++ [r]) p) ?_ trivial
    intro j p _ hj
    exact (h.seen j p hj).append (ht.notes j p hj) (Nat.le_refl w.schedule.length)

/-- **One access.** The attempts that took effect can still be put in order. -/
theorem Linearized.after (h : w.Linearized g order) (ht : w.Timed) (hc : w.Committing g)
    (hphase : w.shared.phases[i]? = some phase)
    (ha : Advances g w.shared.register phase access a) :
    ∃ order', (w.after i access a).Linearized g order' := by
  cases ha with
  | load =>
    refine ⟨order, h.keep rfl nofun ⟨?_, fun r hr => (h.past r hr).ne⟩⟩
    -- The load is the latest access, so all attempts that took effect are earlier.
    have hall : earlier order w.schedule.length = order :=
      List.filter_eq_self.2 fun r hr => decide_eq_true (h.past r hr)
    show Replays g 0 (earlier order w.schedule.length) w.shared.register
    rw [hall]
    exact h.replays
  | propose hp => exact ⟨order, h.keep rfl nofun trivial⟩
  | refuse hp => exact h.refuse ht hphase hp
  | win => exact h.win ht (hc.proposes i _ hphase)
  | lose => exact ⟨order, h.keep rfl (fun _ ho => (Option.some.inj ho).symm) trivial⟩

/-! ## Runs -/

theorem linearized_run {callers : Nat} {moves : List (Nat × Access)}
    (h : (fresh callers).run g moves = some w) : ∃ order, w.Linearized g order := by
  have hall : w.Timed ∧ w.Committing g ∧ ∃ order, w.Linearized g order := by
    refine run_induction (P := fun w => w.Timed ∧ w.Committing g ∧ ∃ order, w.Linearized g order)
      ?_ ⟨timed_fresh callers, committing_fresh callers, [], linearized_fresh callers⟩ h
    rintro w i phase access a ⟨ht, hc, order, hl⟩ hphase ha
    exact ⟨ht.after hphase ha, hc.after hphase ha, hl.after ht hc hphase ha⟩
  exact hall.2.2

end Recording

/-- **Linearizability.** The attempts of a run that took effect, in the order of their points, are
whole attempts one after the other: on the readings that they took, a fresh generator gives each
the outcome that it had, and is left with the register of the run. -/
theorem run_linearizable (g : Generator) {callers : Nat} {moves : List (Nat × Access)} {s : Shared}
    (h : (Shared.fresh callers).run g moves = some s) :
    s.history = (g.records callers moves).map Record.ended ∧
      (∀ r ∈ g.records callers moves, r.Faithful moves) ∧
      ∃ order : List Record, order.Perm ((g.records callers moves).filter Record.takesEffect) ∧
        order.Pairwise (·.point < ·.point) ∧
        (g.pollAll 0 (order.map Record.tick)).outcomes = order.map Record.outcome ∧
        (g.pollAll 0 (order.map Record.tick)).register = s.register := by
  obtain ⟨w, hw, rfl, hrecords⟩ := Recording.exists_of_run h
  have htimed := Recording.timed_run hw
  have hschedule : w.schedule = moves := Recording.schedule_run hw
  obtain ⟨order, horder⟩ := Recording.linearized_run hw
  obtain ⟨hreg, hout⟩ := horder.replays.pollAll
  rw [hrecords, ← hschedule]
  exact ⟨htimed.history, htimed.records, order, horder.perm, horder.inOrder, hout, hreg⟩

/-- The race has two attempts that are put before a commit that they did not see. -/
theorem race_linearizable : ∃ s, (Shared.fresh 2).run paired race = some s ∧
    ∃ order : List Record, order.Perm ((paired.records 2 race).filter Record.takesEffect) ∧
      order.Pairwise (·.point < ·.point) ∧
      (paired.pollAll 0 (order.map Record.tick)).outcomes = order.map Record.outcome ∧
      (paired.pollAll 0 (order.map Record.tick)).register = s.register := by
  have hsome : ((Shared.fresh 2).run paired race).isSome := by decide +kernel
  obtain ⟨s, hs⟩ := Option.isSome_iff_exists.1 hsome
  exact ⟨s, hs, (run_linearizable paired hs).2.2⟩

end Snowflake.Generator
