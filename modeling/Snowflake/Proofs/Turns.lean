import Snowflake.Proofs.Nesting
import Snowflake.Proofs.Workers

/-!
# Whole turns are schedules

To run a pool, its first unfinished worker takes a turn, a whole attempt or the question after one,
until all have finished. A turn is made of steps. So a pool that is run to its end went through one
of the schedules of its workers, and what holds of all of these holds of what running it leaves.

**Theorem (`exists_given_steps_of_run`).** If nothing else happens while the workers take their
readings, a pool is run by one of its schedules, on the readings and the answers that the
surroundings give in its order (`Gives`). So these are of the kinds that the surroundings give
(`exists_steps_of_run`).
-/

namespace Snowflake.Generator

/-- Nothing else happens while a reading is taken, and the readings and the answers are of these
kinds. -/
structure Surroundings.Plain {σ : Type} (around : Surroundings σ) (reads : Int64 → Prop)
    (hears : Bool → Prop) : Prop where
  tick : ∀ scene, ∃ reading, (around.tick scene).1 = .plain reading ∧ reads reading
  answer : ∀ scene, hears (around.cancelled scene).1

/-- While a scene is of this kind, nothing else happens while a reading is taken, and the scene
stays of this kind. -/
structure Surroundings.Stays {σ : Type} (around : Surroundings σ) (kind : σ → Prop) : Prop where
  tick : ∀ scene, kind scene → ∃ reading, (around.tick scene).1 = .plain reading
  after_tick : ∀ scene, kind scene → kind (around.tick scene).2
  after_answer : ∀ scene, kind scene → kind (around.cancelled scene).2

theorem Surroundings.Plain.stays {σ : Type} {around : Surroundings σ} {reads : Int64 → Prop}
    {hears : Bool → Prop} (h : around.Plain reads hears) : around.Stays fun _ => True where
  tick scene _ := by
    obtain ⟨reading, htick, -⟩ := h.tick scene
    exact ⟨reading, htick⟩
  after_tick _ _ := trivial
  after_answer _ _ := trivial

/-- The workers are given the readings and the answers of a schedule by their surroundings, in its
order. -/
inductive Gives {σ : Type} (around : Nat → Surroundings σ) : σ → List (Nat × Move) → σ → Prop where
  | done (scene : σ) : Gives around scene [] scene
  | silent {scene scene' : σ} {rest : List (Nat × Move)} (i : Nat) {access : Access}
      (haccess : ∀ reading, access ≠ .read reading) (h : Gives around scene rest scene') :
      Gives around scene ((i, .access access) :: rest) scene'
  | read {scene scene' : σ} {rest : List (Nat × Move)} {i : Nat} {reading : Int64}
      (htick : ((around i).tick scene).1 = .plain reading)
      (h : Gives around ((around i).tick scene).2 rest scene') :
      Gives around scene ((i, .access (.read reading)) :: rest) scene'
  | answer {scene scene' : σ} {rest : List (Nat × Move)} {i : Nat}
      (h : Gives around ((around i).cancelled scene).2 rest scene') :
      Gives around scene ((i, .answer ((around i).cancelled scene).1) :: rest) scene'

theorem Gives.append {σ : Type} {around : Nat → Surroundings σ} {scene scene' scene'' : σ}
    {schedule schedule' : List (Nat × Move)} (h : Gives around scene schedule scene')
    (h' : Gives around scene' schedule' scene'') :
    Gives around scene (schedule ++ schedule') scene'' := by
  induction h with
  | done => exact h'
  | silent i haccess h ih => exact .silent i haccess (ih h')
  | read htick h ih => exact .read htick (ih h')
  | answer h ih => exact .answer (ih h')

/-- What a move takes from the clock, or is told, is of these kinds. -/
def Move.Fits (reads : Int64 → Prop) (hears : Bool → Prop) : Move → Prop
  | .access (.read reading) => reads reading
  | .access _ => True
  | .answer stop => hears stop

theorem Gives.fits {σ : Type} {around : Nat → Surroundings σ} {scene scene' : σ}
    {schedule : List (Nat × Move)} {reads : Int64 → Prop} {hears : Bool → Prop}
    (haround : ∀ i, (around i).Plain reads hears) (h : Gives around scene schedule scene') :
    ∀ move ∈ schedule, move.2.Fits reads hears := by
  induction h with
  | done => nofun
  | @silent scene scene' rest i access haccess h ih =>
    refine List.forall_mem_cons.2 ⟨?_, ih⟩
    cases access with
    | load | exchange => trivial
    | read reading => exact absurd rfl (haccess reading)
  | @read scene scene' rest i reading htick h ih =>
    refine List.forall_mem_cons.2 ⟨?_, ih⟩
    obtain ⟨reading', htick', hreads⟩ := (haround i).tick scene
    obtain rfl : reading' = reading := congrArg Tick.reading (htick'.symm.trans htick)
    exact hreads
  | @answer scene scene' rest i h ih =>
    exact List.forall_mem_cons.2 ⟨(haround i).answer scene, ih⟩

namespace Pool

variable {g : Generator} {p p' : Pool} {i : Nat} {w : Worker} {reads : Int64 → Prop}
  {hears : Bool → Prop} {schedule : List (Nat × Move)}

/-! ## Attempts -/

theorem steps?_cons_access {phase : Phase} {access : Access} {a : Advance}
    (hw : p.workers[i]? = some w) (hopen : w.isFinished = false)
    (hstage : w.stage = .attempting phase) (ha : g.advance? p.register phase access = some a)
    (moves : List (Nat × Move)) :
    p.steps? g ((i, .access access) :: moves) = (p.after i w a).steps? g moves := by
  rw [steps?, step?, hw, Option.bind_some, if_neg (by simp [hopen])]
  simp only [hstage, ha, Option.map_some, Option.bind_some]
  rfl

/-- The steps of the workers that make these accesses. -/
def moves (accesses : List (Nat × Access)) : List (Nat × Move) :=
  accesses.map fun move => (move.1, .access move.2)

/-- An attempt on its own, as a single access that ends it. -/
def conclusion (g : Generator) (register reading : Int64) : Advance where
  register := (g.settle register register reading).register
  phase := .idle
  ended := some (g.settle register register reading).outcome
  events := (g.settle register register reading).events

theorem after_begun (p : Pool) (i : Nat) (w : Worker) (register : Int64) (phase : Phase)
    {outcome : Outcome} {a : Advance} (ha : a.ended = some outcome) :
    (p.after i w { register, phase }).after i { w with stage := .attempting phase } a =
      p.after i w a := by
  have htake : Worker.take { w with stage := .attempting phase } a = w.take a := by
    rw [Worker.take, Worker.take, ha]
    rcases outcome with cause | status
    · rfl
    · cases status <;> rfl
  simp [after, htake]

theorem steps?_closing {seen : Int64} (hw : p.workers[i]? = some w)
    (hstage : w.stage = .attempting (.loaded seen)) (hheld : p.register = seen) (reading : Int64) :
    p.steps? g (moves (g.closingAccesses seen i reading)) =
      some (p.after i w (conclusion g p.register reading)) := by
  subst hheld
  obtain ⟨hi, -⟩ := List.getElem?_eq_some_iff.1 hw
  have hopen : w.isFinished = false := by rw [Worker.isFinished, hstage]
  have hread : ∀ {a}, g.advance? p.register (.loaded p.register) (.read reading) = some a →
      ∀ more, p.steps? g ((i, .access (.read reading)) :: more) = (p.after i w a).steps? g more :=
    steps?_cons_access hw hopen hstage
  unfold closingAccesses
  cases hp : g.propose p.register reading with
  | commit next =>
    -- The exchange follows at once, so the register is still what it was at the reading.
    let q := p.after i w { register := p.register, phase := .proposing p.register next }
    have hbegun : q.workers[i]? =
        some { w with stage := .attempting (.proposing p.register next) } :=
      List.getElem?_set_self hi
    have hlast : q.steps? g [(i, .access .exchange)] = _ :=
      steps?_cons_access hbegun rfl rfl rfl []
    rw [after_begun p i w _ _ rfl] at hlast
    rw [moves, List.map_cons, hread (by simp only [advance?, hp]; rfl)]
    refine hlast.trans ?_
    rw [conclusion, settle, hp]
    rfl
  | exhausted =>
    rw [moves, List.map_cons, hread (by simp only [advance?, hp]; rfl), conclusion, settle, hp]
    rfl
  | regressed now last =>
    rw [moves, List.map_cons, hread (by simp only [advance?, hp]; rfl), conclusion, settle, hp]
    rfl

theorem attempt_plain (hw : p.workers[i]? = some w) (reading : Int64) :
    p.attempt g i (.plain reading) = p.after i w (conclusion g p.register reading) := by
  simp [attempt, after, conclusion, Worker.take, Tick.plain, poll, pollAll,
    List.modify_eq_set_getElem?, hw]

/-- An attempt of a worker is the schedule of its accesses. -/
theorem steps?_attempt (hw : p.workers[i]? = some w) (hopen : w.isFinished = false)
    (hstage : w.stage = .attempting .idle) (reading : Int64) :
    p.steps? g (moves (g.accesses p.register i (.plain reading))) =
      some (p.attempt g i (.plain reading)) := by
  obtain ⟨hi, -⟩ := List.getElem?_eq_some_iff.1 hw
  have hbegun : (p.after i w { register := p.register, phase := .loaded p.register }).workers[i]? =
      some { w with stage := .attempting (.loaded p.register) } :=
    List.getElem?_set_self hi
  rw [attempt_plain hw, moves, Tick.plain, Generator.accesses, accessesAll, List.nil_append,
    List.map_cons, steps?_cons_access hw hopen hstage rfl]
  exact (steps?_closing hbegun rfl rfl reading).trans (congrArg some (after_begun p i w _ _ rfl))

theorem gives_moves {σ : Type} {around : Nat → Surroundings σ} {scene : σ} {reading : Int64}
    (htick : ((around i).tick scene).1 = .plain reading) (register : Int64) :
    Gives around scene (moves (g.accesses register i (.plain reading)))
      ((around i).tick scene).2 := by
  rw [moves, Tick.plain, Generator.accesses, accessesAll, List.nil_append, closingAccesses]
  refine .silent i (by simp) (.read htick ?_)
  cases g.propose register reading with
  | commit next => exact .silent i (by simp) (.done _)
  | exhausted | regressed => exact .done _

/-! ## Turns -/

theorem hear_eq (hw : p.workers[i]? = some w) (stop : Bool) :
    p.hear i stop = p.answered i w stop := by
  simp only [hear, hw]
  rfl

theorem steps?_hear (hw : p.workers[i]? = some w) (hstage : w.stage = .asking) (stop : Bool) :
    p.steps? g [(i, .answer stop)] = some (p.hear i stop) := by
  have hopen : w.isFinished = false := by rw [Worker.isFinished, hstage]
  rw [hear_eq hw, steps?, step?, hw, Option.bind_some, if_neg (by simp [hopen])]
  simp only [hstage]
  rfl

theorem steps?_append (p : Pool) (schedule schedule' : List (Nat × Move)) :
    p.steps? g (schedule ++ schedule') = (p.steps? g schedule).bind (·.steps? g schedule') := by
  induction schedule generalizing p with
  | nil => rfl
  | cons move schedule ih =>
    rw [List.cons_append, steps?, steps?, Option.bind_assoc]
    exact congrArg _ (funext ih)

/-- No attempt of a worker is under way. -/
def Settled (p : Pool) : Prop := ∀ w ∈ p.workers, w.phase = .idle

theorem stage_ofCount (register : Int64) (count threads : UInt64) :
    ∀ w ∈ (ofCount register count threads).workers, w.stage = .attempting .idle := by
  intro w hw
  obtain ⟨i, -, rfl⟩ := List.mem_map.1 hw
  rfl

theorem settled_ofCount (register : Int64) (count threads : UInt64) :
    (ofCount register count threads).Settled := by
  intro w hw
  rw [Worker.phase, stage_ofCount register count threads w hw]

theorem Settled.after (h : p.Settled) {a : Advance} {outcome : Outcome}
    (ha : a.ended = some outcome) : (p.after i w a).Settled := by
  refine forall_mem_set h ?_ i
  rw [Worker.take, ha]
  exact w.phase_conclude outcome

theorem Settled.answered (h : p.Settled) (stop : Bool) : (p.answered i w stop).Settled :=
  forall_mem_set h (w.phase_answer stop) i

theorem exists_of_current? (h : p.current? = some i) :
    ∃ w, p.workers[i]? = some w ∧ w.isFinished = false := by
  obtain ⟨hi, hopen, -⟩ := List.findIdx?_eq_some_iff_getElem.1 h
  exact ⟨p.workers[i], List.getElem?_eq_getElem hi, by simpa using hopen⟩

theorem finished_of_current? (h : p.current? = none) : ∀ w ∈ p.workers, w.isFinished := by
  intro w hw
  simpa using List.findIdx?_eq_none_iff.1 h w hw

/-- An unfinished worker without an attempt under way begins one, or asks. -/
theorem stage_of_open (hidle : w.phase = .idle) (hopen : w.isFinished = false) :
    w.stage = .attempting .idle ∨ w.stage = .asking := by
  cases hstage : w.stage with
  | attempting phase =>
    rw [Worker.phase, hstage] at hidle
    exact Or.inl (congrArg Stage.attempting hidle)
  | asking => exact Or.inr rfl
  | failed cause => simp [Worker.isFinished, hstage] at hopen

variable {σ : Type} {around : Nat → Surroundings σ} {scene scene' : σ} {fuel : Nat}

theorem exists_given_steps_of_turn {kind : σ → Prop} (haround : (around i).Stays kind)
    (hkind : kind scene) (hsettled : p.Settled) (hw : p.workers[i]? = some w)
    (hopen : w.isFinished = false) :
    ∃ schedule, p.steps? g schedule = some (p.turn g (around i) i scene).1 ∧
      Gives around scene schedule (p.turn g (around i) i scene).2 ∧
      (p.turn g (around i) i scene).1.Settled ∧ kind (p.turn g (around i) i scene).2 := by
  rcases stage_of_open (hsettled w (List.mem_of_getElem? hw)) hopen with hstage | hstage
  · have hattempt : p.isAsking i = false := by simp [isAsking, hw, hstage]
    obtain ⟨reading, htick⟩ := haround.tick scene hkind
    have hturn : p.turn g (around i) i scene =
        (p.attempt g i (.plain reading), ((around i).tick scene).2) := by
      rw [turn, if_neg (by simp [hattempt]), ← htick]
    rw [hturn]
    refine ⟨_, steps?_attempt hw hopen hstage reading, gives_moves htick _, ?_,
      haround.after_tick scene hkind⟩
    rw [attempt_plain hw]
    exact hsettled.after rfl
  · have hasking : p.isAsking i := by simp [isAsking, hw, hstage]
    have hturn : p.turn g (around i) i scene =
        (p.hear i ((around i).cancelled scene).1, ((around i).cancelled scene).2) := by
      rw [turn, if_pos hasking]
    rw [hturn]
    refine ⟨_, steps?_hear hw hstage _, .answer (.done _), ?_, haround.after_answer scene hkind⟩
    rw [hear_eq hw]
    exact hsettled.answered _

theorem run_done (h : p.current? = none) : p.run g around fuel scene = some (p, scene) := by
  unfold run
  rw [h]

theorem run_turn (h : p.current? = some i) :
    p.run g around (fuel + 1) scene =
      (p.turn g (around i) i scene).1.run g around fuel (p.turn g (around i) i scene).2 := by
  conv_lhs => unfold run
  rw [h]

/-- **Turns are steps.** Running a pool follows one of the schedules by which its workers finish, on
what the surroundings give. -/
theorem exists_given_steps_of_run {kind : σ → Prop} (haround : ∀ i, (around i).Stays kind)
    (hkind : kind scene) (hsettled : p.Settled)
    (h : p.run g around fuel scene = some (p', scene')) :
    ∃ schedule, p.steps? g schedule = some p' ∧ Gives around scene schedule scene' ∧
      ∀ w ∈ p'.workers, w.isFinished := by
  induction fuel generalizing p scene with
  | zero =>
    cases hcurrent : p.current? with
    | none =>
      obtain ⟨rfl, rfl⟩ := Prod.mk.inj (Option.some.inj ((run_done hcurrent).symm.trans h))
      exact ⟨[], rfl, .done _, finished_of_current? hcurrent⟩
    | some i =>
      unfold run at h
      rw [hcurrent] at h
      cases h
  | succ fuel ih =>
    cases hcurrent : p.current? with
    | none =>
      obtain ⟨rfl, rfl⟩ := Prod.mk.inj (Option.some.inj ((run_done hcurrent).symm.trans h))
      exact ⟨[], rfl, .done _, finished_of_current? hcurrent⟩
    | some i =>
      rw [run_turn hcurrent] at h
      obtain ⟨w, hw, hopen⟩ := exists_of_current? hcurrent
      obtain ⟨first, hfirst, hgiven, hsettled, hkind⟩ :=
        exists_given_steps_of_turn (g := g) (haround i) hkind hsettled hw hopen
      obtain ⟨others, hothers, hgiven', hdone⟩ := ih hkind hsettled h
      refine ⟨first ++ others, ?_, hgiven.append hgiven', hdone⟩
      rw [steps?_append, hfirst, Option.bind_some, hothers]

/-- The readings and the answers of the schedule are of the kinds that the surroundings give. -/
theorem exists_steps_of_run (haround : ∀ i, (around i).Plain reads hears) (hsettled : p.Settled)
    (h : p.run g around fuel scene = some (p', scene')) :
    ∃ schedule, p.steps? g schedule = some p' ∧ (∀ move ∈ schedule, move.2.Fits reads hears) ∧
      ∀ w ∈ p'.workers, w.isFinished := by
  obtain ⟨schedule, hsteps, hgiven, hdone⟩ :=
    exists_given_steps_of_run (fun i => (haround i).stays) trivial hsettled h
  exact ⟨schedule, hsteps, hgiven.fits haround, hdone⟩

end Pool

end Snowflake.Generator
