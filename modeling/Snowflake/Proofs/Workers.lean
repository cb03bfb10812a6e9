import Snowflake.Proofs.Continuation
import Snowflake.Proofs.Quotas
import Mathlib.Data.List.Basic

/-!
# Workers are callers that ask

A worker makes the attempts of a caller and, in between, asks whether to go on. Leaving the
questions out of a pool's schedule makes it a schedule of callers, one for each worker, which takes
the same readings, ends with the same register and commits the ids that the workers drew
(`Mirrors.run`). So what is proved of runs holds of pools.

What a pool adds is its book-keeping. A worker has drawn what it has not still to draw of its quota
(`Worker.total`), and it has something left to draw as long as it is busy (`Owing`). If none has
failed when all have finished, the ids are as many as were asked for (`Owing.length_ids`), and their
sorted list is the list of the commits in their own order (`result_eq_ok`).
-/

namespace Snowflake.Generator

variable {g : Generator} {p p' : Pool} {s : Shared} {i : Nat} {move : Move} {w : Worker}
  {a : Advance}

/-! ## One worker -/

namespace Worker

/-- How far the worker is with an attempt. -/
def phase (w : Worker) : Phase :=
  match w.stage with
  | .attempting phase => phase
  | _ => .idle

/-- How many ids the worker draws in all. -/
def total (w : Worker) : Nat := w.drawn.length + w.remaining

/-- The worker after an access that led to `a`. -/
def take (w : Worker) (a : Advance) : Worker :=
  match a.ended with
  | none => { w with stage := .attempting a.phase }
  | some outcome => w.conclude outcome

theorem phase_conclude (w : Worker) (outcome : Outcome) : (w.conclude outcome).phase = .idle := by
  rcases outcome with cause | status
  · rfl
  · cases status <;> rfl

theorem drawn_conclude (w : Worker) (outcome : Outcome) :
    (w.conclude outcome).drawn = minted [outcome] ++ w.drawn := by
  rcases outcome with cause | status
  · rfl
  · cases status <;> rfl

theorem phase_answer (w : Worker) (stop : Bool) : (w.answer stop).1.phase = .idle := by
  cases stop <;> rfl

theorem drawn_answer (w : Worker) (stop : Bool) : (w.answer stop).1.drawn = w.drawn := by
  cases stop <;> rfl

theorem drawn_take (w : Worker) (a : Advance) :
    (w.take a).drawn = minted a.ended.toList ++ w.drawn := by
  unfold take
  cases a.ended with
  | none => rfl
  | some outcome => exact w.drawn_conclude outcome

theorem total_take (h : 0 < w.remaining) : (w.take a).total = w.total := by
  unfold take
  cases a.ended with
  | none => rfl
  | some outcome =>
    rcases outcome with cause | status
    · rfl
    · cases status with
      | ready id =>
        show w.drawn.length + 1 + (w.remaining - 1) = w.drawn.length + w.remaining
        omega
      | pending yieldFor => rfl

theorem remaining_take (h : 0 < w.remaining) (hopen : (w.take a).isFinished = false) :
    0 < (w.take a).remaining := by
  unfold take at hopen ⊢
  cases hended : a.ended with
  | none => exact h
  | some outcome =>
    rw [hended] at hopen
    rcases outcome with cause | status
    · exact h
    · cases status with
      | ready id =>
        simp only [conclude, isFinished, beq_eq_false_iff_ne] at hopen ⊢
        omega
      | pending yieldFor => exact h

theorem length_drawn (hdone : w.isFinished) (hnone : w.failure? = none) :
    w.drawn.length = w.total := by
  have hzero : w.remaining = 0 := by
    unfold isFinished at hdone
    unfold failure? at hnone
    split at hdone
    · rename_i cause hstage
      simp [hstage] at hnone
    · exact eq_of_beq hdone
    · cases hdone
  rw [total, hzero, Nat.add_zero]

end Worker

theorem Advances.phase_of_ended {register : Int64} {phase : Phase} {access : Access}
    {outcome : Outcome} (ha : Advances g register phase access a)
    (hended : a.ended = some outcome) : a.phase = .idle := by
  cases ha with
  | load | propose hp => cases hended
  | refuse hp | win | lose hne => rfl

theorem Worker.phase_take {register : Int64} {phase : Phase} {access : Access}
    (ha : Advances g register phase access a) (w : Worker) : (w.take a).phase = a.phase := by
  unfold take
  cases hended : a.ended with
  | none => rfl
  | some outcome => exact (w.phase_conclude outcome).trans (ha.phase_of_ended hended).symm

namespace Pool

/-! ## One step -/

/-- The pool after an access of worker `i` that led to `a`. -/
def after (p : Pool) (i : Nat) (w : Worker) (a : Advance) : Pool :=
  { p with
    register := a.register
    workers := p.workers.set i (w.take a)
    events := p.events ++ a.events }

/-- The pool after worker `i` asked whether to stop. -/
def answered (p : Pool) (i : Nat) (w : Worker) (stop : Bool) : Pool :=
  { p with
    workers := p.workers.set i (w.answer stop).1
    events := p.events ++ (w.answer stop).2 }

/-- What one step of a worker can be: an access, or a question. -/
inductive Steps (g : Generator) (p : Pool) (i : Nat) : Move → Pool → Prop where
  | access {w : Worker} {phase : Phase} {access : Access} {a : Advance}
      (hw : p.workers[i]? = some w) (hopen : w.isFinished = false)
      (hstage : w.stage = .attempting phase) (ha : g.advance? p.register phase access = some a) :
      Steps g p i (.access access) (p.after i w a)
  | answer {w : Worker} {stop : Bool} (hw : p.workers[i]? = some w) (hstage : w.stage = .asking) :
      Steps g p i (.answer stop) (p.answered i w stop)

theorem steps_of_step? (h : p.step? g i move = some p') : Steps g p i move p' := by
  obtain ⟨w, hw, hstep⟩ := Option.bind_eq_some_iff.1 h
  by_cases hopen : w.isFinished
  · rw [if_pos hopen] at hstep
    cases hstep
  · rw [if_neg hopen] at hstep
    cases hstage : w.stage with
    | attempting phase => cases move with
      | access access =>
        simp only [hstage] at hstep
        obtain ⟨a, ha, rfl⟩ := Option.map_eq_some_iff.1 hstep
        exact .access hw (Bool.eq_false_iff.2 hopen) hstage ha
      | answer stop => simp [hstage] at hstep
    | asking => cases move with
      | access access => simp [hstage] at hstep
      | answer stop =>
        simp only [hstage] at hstep
        obtain rfl := Option.some.inj hstep
        exact .answer hw hstage
    | failed cause => simp [hstage] at hstep

/-- What every step of a schedule keeps, the whole schedule keeps. -/
theorem steps?_induction {P : Pool → Prop} {moves : List (Nat × Move)}
    (step : ∀ p i move p', (i, move) ∈ moves → P p → Steps g p i move p' → P p') (hp : P p)
    (h : p.steps? g moves = some p') : P p' := by
  induction moves generalizing p with
  | nil => exact Option.some.inj h ▸ hp
  | cons move moves ih =>
    obtain ⟨p₁, hstep, h⟩ := Option.bind_eq_some_iff.1 h
    have h₁ := step p _ _ p₁ List.mem_cons_self hp (steps_of_step? hstep)
    exact ih (fun p i move p' hmem => step p i move p' (List.mem_cons_of_mem _ hmem)) h₁ h

/-! ## The callers behind a pool -/

/-- The ids that the workers of a pool have drawn. -/
def ids (p : Pool) : List Int64 := p.workers.flatMap Worker.drawn

/-- A schedule without its questions. -/
def accesses (moves : List (Nat × Move)) : List (Nat × Access) :=
  moves.filterMap fun
    | (i, .access access) => some (i, access)
    | (_, .answer _) => none

/-- The workers are where the callers are, and have drawn the ids that these have committed. -/
structure Mirrors (p : Pool) (s : Shared) : Prop where
  register : s.register = p.register
  phases : s.phases = p.workers.map Worker.phase
  ids : p.ids.Perm s.ids

theorem mirrors_ofCount (register : Int64) (count threads : UInt64) :
    (ofCount register count threads).Mirrors
      { register, phases := .replicate threads.toNat .idle } where
  register := rfl
  phases := by simp [ofCount, Worker.phase, Function.comp_def]
  ids := by simp [Pool.ids, ofCount, List.flatMap_map, Shared.ids]

theorem Mirrors.step (h : p.Mirrors s) (hstep : Steps g p i move p') :
    ∃ s', s.run g (accesses [(i, move)]) = some s' ∧ p'.Mirrors s' := by
  cases hstep with
  | @access w phase access a hw hopen hstage ha =>
    have hphase : s.phases[i]? = some phase := by
      rw [h.phases, List.getElem?_map, hw, Option.map_some, Worker.phase, hstage]
    rw [← h.register] at ha
    refine ⟨s.after i a, run_cons_of_advance hphase ha [], rfl, ?_, ?_⟩
    · show s.phases.set i a.phase = (p.workers.set i (w.take a)).map Worker.phase
      rw [List.map_set, Worker.phase_take (advances_of_advance? ha), h.phases]
    · rw [Shared.ids_after]
      exact (flatMap_set_perm hw (w.drawn_take a)).trans (h.ids.append_right _)
  | @answer w stop hw hstage =>
    have hphase : w.phase = .idle := by rw [Worker.phase, hstage]
    refine ⟨s, rfl, h.register, ?_, ?_⟩
    · rw [answered, map_set_of_eq hw ((w.phase_answer stop).trans hphase.symm)]
      exact h.phases
    · have hsame : (p.answered i w stop).ids.Perm (p.ids ++ []) :=
        flatMap_set_perm hw (w.drawn_answer stop)
      rw [List.append_nil] at hsame
      exact hsame.trans h.ids

/-- **Workers are callers.** The accesses of a pool are a run of callers, with the same register at
the end and the same ids. -/
theorem Mirrors.run {moves : List (Nat × Move)} (h : p.Mirrors s)
    (hrun : p.steps? g moves = some p') :
    ∃ s', s.run g (accesses moves) = some s' ∧ p'.Mirrors s' := by
  induction moves generalizing p s with
  | nil => exact ⟨s, rfl, Option.some.inj hrun ▸ h⟩
  | cons move moves ih =>
    obtain ⟨p₁, hstep, hrun⟩ := Option.bind_eq_some_iff.1 hrun
    obtain ⟨s₁, hs₁, h₁⟩ := h.step (steps_of_step? hstep)
    obtain ⟨s', hs', h'⟩ := ih h₁ hrun
    refine ⟨s', ?_, h'⟩
    have hsplit : accesses (move :: moves) = accesses [move] ++ accesses moves :=
      List.filterMap_append (l := [move])
    rw [hsplit, run_append, hs₁, Option.bind_some, hs']

/-! ## Book-keeping -/

/-- The workers draw these quotas, and those that are busy have not drawn theirs. -/
structure Owing (quotas : List Nat) (p : Pool) : Prop where
  totals : p.workers.map Worker.total = quotas
  busy : ∀ w ∈ p.workers, w.isFinished = false → 0 < w.remaining

theorem owing_ofCount (register : Int64) (count threads : UInt64) :
    (ofCount register count threads).Owing ((List.range threads.toNat).map fun i =>
      (quota count threads (UInt64.ofNat i)).toNat) where
  totals := by simp [ofCount, Worker.total, Function.comp_def]
  busy w hw hopen := by
    obtain ⟨i, -, rfl⟩ := List.mem_map.1 hw
    simpa [Worker.isFinished, Nat.pos_iff_ne_zero] using hopen

theorem Owing.of_set {quotas : List Nat} {w w' : Worker} (h : p.Owing quotas)
    (hw : p.workers[i]? = some w) (hp' : p'.workers = p.workers.set i w')
    (htotal : w'.total = w.total) (hbusy : w'.isFinished = false → 0 < w'.remaining) :
    p'.Owing quotas where
  totals := by rw [hp', map_set_of_eq hw htotal, h.totals]
  busy := by
    rw [hp']
    exact forall_mem_set h.busy hbusy i

theorem Owing.step {quotas : List Nat} (h : p.Owing quotas) (hstep : Steps g p i move p') :
    p'.Owing quotas := by
  cases hstep with
  | @access w phase access a hw hopen hstage ha =>
    have hpos := h.busy w (List.mem_of_getElem? hw) hopen
    exact h.of_set hw rfl (Worker.total_take hpos) (Worker.remaining_take hpos)
  | @answer w stop hw hstage =>
    have hpos := h.busy w (List.mem_of_getElem? hw) (by rw [Worker.isFinished, hstage])
    have hanswer : (w.answer stop).1.remaining = w.remaining := by cases stop <;> rfl
    refine h.of_set hw rfl ?_ fun _ => by rwa [hanswer]
    rw [Worker.total, w.drawn_answer, hanswer, Worker.total]

/-- When all have finished and none has failed, all quotas are drawn. -/
theorem Owing.length_ids {quotas : List Nat} (h : p.Owing quotas)
    (hdone : ∀ w ∈ p.workers, w.isFinished) (hnone : ∀ w ∈ p.workers, w.failure? = none) :
    p.ids.length = quotas.sum := by
  have hdrawn : p.workers.map (fun w => w.drawn.length) = p.workers.map Worker.total :=
    List.map_congr_left fun w hw => Worker.length_drawn (hdone w hw) (hnone w hw)
  rw [ids, List.length_flatMap, hdrawn, h.totals]

theorem length_ids_of_finished {register : Int64} {count threads : UInt64}
    {moves : List (Nat × Move)}
    (hp : (ofCount register count (max threads 1)).steps? g moves = some p)
    (hdone : ∀ w ∈ p.workers, w.isFinished) (hnone : ∀ w ∈ p.workers, w.failure? = none) :
    p.ids.length = count.toNat := by
  have howing := steps?_induction (fun _ _ _ _ _ h hstep => Owing.step h hstep)
    (owing_ofCount register count (max threads 1)) hp
  rw [howing.length_ids hdone hnone, sum_quotas (toNat_max_one threads)]

/-! ## Results -/

theorem pairwise_mergeSort_le (ids : List Int64) :
    (ids.mergeSort fun a b => decide (a ≤ b)).Pairwise (· ≤ ·) := by
  have htrans : ∀ a b c : Int64, decide (a ≤ b) → decide (b ≤ c) → decide (a ≤ c) := by
    simp only [decide_eq_true_eq]
    exact fun _ _ _ => Int64.le_trans
  have htotal : ∀ a b : Int64, decide (a ≤ b) || decide (b ≤ a) := by
    intro a b
    simpa using Int64.le_total a b
  simpa using List.pairwise_mergeSort htrans htotal ids

/-- There is only one ascending order of the same ids. -/
theorem mergeSort_eq_of_perm {ids ids' : List Int64} (h : ids.Perm ids')
    (hascends : ids'.Pairwise (· ≤ ·)) : (ids.mergeSort fun a b => decide (a ≤ b)) = ids' :=
  List.Perm.eq_of_pairwise (fun _ _ _ _ => Int64.le_antisymm) (pairwise_mergeSort_le ids) hascends
    ((List.mergeSort_perm _ _).trans h)

/-- Without a failure the result is the list of the commits in their own order. -/
theorem result_eq_ok {ids : List Int64} (hids : p.ids.Perm ids) (hsorted : ids.Pairwise (· < ·))
    (hnone : ∀ w ∈ p.workers, w.failure? = none) : p.result = .ok ids := by
  have hfails : p.workers.findSome? Worker.failure? = none := List.findSome?_eq_none_iff.2 hnone
  rw [result, hfails, ← mergeSort_eq_of_perm hids (hsorted.imp Int64.le_of_lt)]
  rfl

/-- If some worker has failed, the result is the error of the first one. -/
theorem result_eq_error (h : ∃ w ∈ p.workers, w.failure? ≠ none) :
    ∃ (i : Nat) (w : Worker) (cause : Error), p.workers[i]? = some w ∧ w.failure? = some cause ∧
      (∀ j < i, ∀ v, p.workers[j]? = some v → v.failure? = none) ∧ p.result = .error cause := by
  cases hfirst : p.workers.findSome? Worker.failure? with
  | none =>
    obtain ⟨w, hw, hfails⟩ := h
    exact absurd (List.findSome?_eq_none_iff.1 hfirst w hw) hfails
  | some cause =>
    obtain ⟨earlier, w, later, hworkers, hcause, hearlier⟩ := List.findSome?_eq_some_iff.1 hfirst
    refine ⟨earlier.length, w, cause, by simp [hworkers], hcause, fun j hj v hv => ?_, ?_⟩
    · rw [hworkers, List.getElem?_append_left hj] at hv
      exact hearlier v (List.mem_of_getElem? hv)
    · rw [result, hfirst]

end Pool

end Snowflake.Generator
