import Snowflake.Proofs.Retries
import Snowflake.Proofs.Turns

/-!
# A worker on its own

A worker that shares the generator with nobody is a caller that calls for the next id again and
again, until it has its ids or a call fails (`Errand`). Its turns are the attempts of these calls
and the questions between them (`run_draws`, `exists_draws_of_run`).

**Theorem (`generate_eq_some_iff`).** With a single thread, generating returns exactly if these
calls take no more turns than it may, and then it leaves what they leave: the register and the
surroundings, their ids in ascending order or the error of the last call, and their reports with one
more if none has failed.
-/

namespace Snowflake.Generator

/-! ## Calls one after the other -/

/-- A call for the next id, with the register and the surroundings that it found. -/
structure Call (σ : Type) where
  register : Int64
  scene : σ
  draw : Draw σ

variable {σ : Type} {g : Generator} {around : Nat → Surroundings σ} {register register' : Int64}
  {scene scene' : σ} {w : Worker} {nested : List Outcome} {events : List Event} {n fuel : Nat}
  {d : Draw σ} {c : Call σ} {calls : List (Call σ)} {id : Int64} {cause : Error}

namespace Call

def id? (c : Call σ) : Option Int64 := c.draw.outcome.toOption

def failure? (c : Call σ) : Option Error :=
  match c.draw.outcome with
  | .ok _ => none
  | .error cause => some cause

/-- An attempt is a turn, and so is a question. -/
def turns (c : Call σ) : Nat := c.draw.attempts + c.draw.questions

end Call

/-- The calls of one who is to draw so many ids: one after the other, up to the first that fails.
They lead from a register and surroundings to others. -/
inductive Errand (g : Generator) (around : Surroundings σ) :
    Nat → Int64 → σ → List (Call σ) → Int64 → σ → Prop where
  | done (register : Int64) (scene : σ) : Errand g around 0 register scene [] register scene
  | failed {n : Nat} {register : Int64} {scene : σ} {d : Draw σ} {cause : Error}
      (h : Draws g around register scene d) (hfails : d.outcome = .error cause) :
      Errand g around (n + 1) register scene [⟨register, scene, d⟩] d.register d.scene
  | drew {n : Nat} {register register' : Int64} {scene scene' : σ} {d : Draw σ} {id : Int64}
      {calls : List (Call σ)} (h : Draws g around register scene d) (hid : d.outcome = .ok id)
      (hrest : Errand g around n d.register d.scene calls register' scene') :
      Errand g around (n + 1) register scene (⟨register, scene, d⟩ :: calls) register' scene'

theorem Draws.unique {around : Surroundings σ} {d d' : Draw σ} (h : Draws g around register scene d)
    (h' : Draws g around register scene d') : d = d' := by
  have hnext := h.next (Nat.le_max_left d.attempts d'.attempts)
  have hnext' := h'.next (Nat.le_max_right d.attempts d'.attempts)
  exact Option.some.inj (hnext.symm.trans hnext')

/-- Everything about an errand follows from what it finds. -/
theorem Errand.unique {around : Surroundings σ} {register₁ register₂ : Int64} {scene₁ scene₂ : σ}
    {calls₁ calls₂ : List (Call σ)}
    (h₁ : Errand g around n register scene calls₁ register₁ scene₁)
    (h₂ : Errand g around n register scene calls₂ register₂ scene₂) :
    calls₁ = calls₂ ∧ register₁ = register₂ ∧ scene₁ = scene₂ := by
  induction h₁ generalizing calls₂ with
  | done =>
    cases h₂
    exact ⟨rfl, rfl, rfl⟩
  | failed hd hfails =>
    cases h₂ with
    | failed hd' hfails' =>
      obtain rfl := hd.unique hd'
      exact ⟨rfl, rfl, rfl⟩
    | drew hd' hid hrest =>
      obtain rfl := hd.unique hd'
      rw [hid] at hfails
      cases hfails
  | drew hd hid hrest ih =>
    cases h₂ with
    | failed hd' hfails =>
      obtain rfl := hd.unique hd'
      rw [hid] at hfails
      cases hfails
    | drew hd' hid' hrest' =>
      obtain rfl := hd.unique hd'
      obtain ⟨rfl, rfl, rfl⟩ := ih hrest'
      exact ⟨rfl, rfl, rfl⟩

theorem Errand.draws {around : Surroundings σ}
    (h : Errand g around n register scene calls register' scene') :
    ∀ c ∈ calls, Draws g around c.register c.scene c.draw := by
  induction h with
  | done => simp
  | failed hd => simpa using hd
  | drew hd hid hrest ih => exact List.forall_mem_cons.2 ⟨hd, ih⟩

namespace Worker

/-- The worker after these calls. -/
def served (w : Worker) (calls : List (Call σ)) : Worker where
  remaining := w.remaining - (calls.filterMap Call.id?).length
  drawn := (calls.filterMap Call.id?).reverse ++ w.drawn
  stage := match calls.findSome? Call.failure? with
    | some cause => .failed cause
    | none => .attempting .idle

theorem served_nil (h : w.stage = .attempting .idle) : w.served ([] : List (Call σ)) = w := by
  obtain ⟨remaining, drawn, stage⟩ := w
  subst h
  rfl

theorem served_of_error (h : c.draw.outcome = .error cause) :
    w.served [c] = w.conclude (.error cause) := by
  have hid : c.id? = none := by rw [Call.id?, h]; rfl
  have hfails : c.failure? = some cause := by rw [Call.failure?, h]
  simp [served, hid, hfails, conclude]

theorem served_cons (h : c.draw.outcome = .ok id) (calls : List (Call σ)) :
    w.served (c :: calls) = (w.conclude (.ok (.ready id))).served calls := by
  have hid : c.id? = some id := by rw [Call.id?, h]; rfl
  have hfails : c.failure? = none := by rw [Call.failure?, h]
  have hless : w.remaining - ((calls.filterMap Call.id?).length + 1) =
      w.remaining - 1 - (calls.filterMap Call.id?).length := by omega
  simp [served, hid, hfails, conclude, hless]

end Worker

/-! ## Turns -/

namespace Pool

theorem current?_single (register : Int64) (w : Worker) (nested : List Outcome)
    (events : List Event) :
    (⟨register, [w], nested, events⟩ : Pool).current? = if w.isFinished then none else some 0 := by
  cases h : w.isFinished <;> simp [current?, h]

theorem not_isFinished (hstage : w.stage = .attempting .idle) (hleft : 0 < w.remaining) :
    w.isFinished = false := by
  simp only [Worker.isFinished, hstage, beq_eq_false_iff_ne]
  omega

theorem run_attempt (hstage : w.stage = .attempting .idle) (hleft : 0 < w.remaining)
    {a : Attempt} (ha : g.poll register ((around 0).tick scene).1 = a) :
    (⟨register, [w], nested, events⟩ : Pool).run g around (fuel + 1) scene =
      (⟨a.register, [w.conclude a.outcome], nested ++ a.nested, events ++ a.events⟩ : Pool).run g
        around fuel ((around 0).tick scene).2 := by
  subst ha
  rw [run_turn (i := 0) (by simp [current?_single, not_isFinished hstage hleft])]
  simp [turn, isAsking, attempt, hstage]

theorem run_question (hstage : w.stage = .asking) {stop : Bool}
    (hstop : ((around 0).cancelled scene).1 = stop) :
    (⟨register, [w], nested, events⟩ : Pool).run g around (fuel + 1) scene =
      (⟨register, [(w.answer stop).1], nested, events ++ (w.answer stop).2⟩ : Pool).run g around
        fuel ((around 0).cancelled scene).2 := by
  subst hstop
  have hopen : w.isFinished = false := by simp [Worker.isFinished, hstage]
  rw [run_turn (i := 0) (by simp [current?_single, hopen])]
  simp [turn, isAsking, hear, hstage]

theorem run_finished (hdone : w.isFinished) :
    (⟨register, [w], nested, events⟩ : Pool).run g around fuel scene =
      some (⟨register, [w], nested, events⟩, scene) :=
  run_done (by simp [current?_single, hdone])

/-- A worker that was told to wait, and then to go on, stands where it stood. -/
theorem conclude_answer (hstage : w.stage = .attempting .idle) (pause : Int64) :
    ((w.conclude (.ok (.pending pause))).answer false).1 = w := by
  obtain ⟨remaining, drawn, stage⟩ := w
  subst hstage
  rfl

/-- **A call in turns.** It takes the turns of its attempts and its questions. -/
theorem run_draws (h : Draws g (around 0) register scene d) (hstage : w.stage = .attempting .idle)
    (hleft : 0 < w.remaining) (nested : List Outcome) (events : List Event) (fuel : Nat) :
    (⟨register, [w], nested, events⟩ : Pool).run g around (d.attempts + d.questions + fuel) scene =
      (⟨d.register, [w.conclude (d.outcome.map .ready)], nested ++ d.nested, events ++ d.events⟩ :
        Pool).run g around fuel d.scene := by
  induction h generalizing nested events with
  | @minted register scene a id ha hready =>
    have hturns : 1 + 0 + fuel = fuel + 1 := Nat.add_comm 1 fuel
    rw [hturns, run_attempt hstage hleft ha, hready]
    rfl
  | @failed register scene a cause ha herror =>
    have hturns : 1 + 0 + fuel = fuel + 1 := Nat.add_comm 1 fuel
    rw [hturns, run_attempt hstage hleft ha, herror]
    rfl
  | @stopped register scene a pause ha hpending hstop =>
    have hturns : 1 + 1 + fuel = fuel + 1 + 1 := Nat.add_comm 2 fuel
    rw [hturns, run_attempt hstage hleft ha, hpending, run_question rfl hstop, List.append_assoc]
    rfl
  | @retried register scene a pause d ha hpending hgo hrest ih =>
    show (⟨register, [w], nested, events⟩ : Pool).run g around
      (d.attempts + 1 + (d.questions + 1) + fuel) scene = _
    have hturns : d.attempts + 1 + (d.questions + 1) + fuel =
        d.attempts + d.questions + fuel + 1 + 1 := by omega
    rw [hturns, run_attempt hstage hleft ha, hpending, run_question rfl hgo,
      conclude_answer hstage, ih]
    simp [Draw.after, Worker.answer]

/-- A worker that returns has made a call, and had turns left for the others. -/
theorem exists_draws_of_run {r : Pool × σ} (hstage : w.stage = .attempting .idle)
    (hleft : 0 < w.remaining)
    (h : (⟨register, [w], nested, events⟩ : Pool).run g around fuel scene = some r) :
    ∃ d, Draws g (around 0) register scene d ∧ d.attempts + d.questions ≤ fuel := by
  induction fuel using Nat.strongRecOn generalizing register scene nested events with
  | ind fuel ih =>
    cases fuel with
    | zero =>
      unfold run at h
      simp [current?_single, not_isFinished hstage hleft] at h
    | succ fuel =>
      cases hout : (g.poll register ((around 0).tick scene).1).outcome with
      | error cause => exact ⟨_, .failed rfl hout, Nat.succ_pos fuel⟩
      | ok status =>
        cases status with
        | ready id => exact ⟨_, .minted rfl hout, Nat.succ_pos fuel⟩
        | pending pause =>
          rw [run_attempt hstage hleft rfl, hout] at h
          cases fuel with
          | zero =>
            unfold run at h
            simp [current?_single, Worker.isFinished, Worker.conclude] at h
          | succ fuel =>
            cases hstop : ((around 0).cancelled ((around 0).tick scene).2).1 with
            | true => exact ⟨_, .stopped rfl hout hstop, Nat.le_add_left 2 fuel⟩
            | false =>
              rw [run_question rfl hstop, conclude_answer hstage] at h
              obtain ⟨d, hd, hle⟩ := ih fuel (by omega) h
              refine ⟨_, .retried rfl hout hstop hd, ?_⟩
              show d.attempts + 1 + (d.questions + 1) ≤ fuel + 1 + 1
              omega

/-- What a worker on its own leaves after these calls. -/
def servedAlone (register : Int64) (w : Worker) (nested : List Outcome) (events : List Event)
    (calls : List (Call σ)) : Pool where
  register
  workers := [w.served calls]
  nested := nested ++ calls.flatMap (·.draw.nested)
  events := events ++ calls.flatMap (·.draw.events)

/-- A worker on its own that draws as many ids as this errand makes its calls. -/
theorem run_errand (h : Errand g (around 0) n register scene calls register' scene')
    (hstage : w.stage = .attempting .idle) (hleft : w.remaining = n) (nested : List Outcome)
    (events : List Event) (fuel : Nat) :
    (⟨register, [w], nested, events⟩ : Pool).run g around ((calls.map Call.turns).sum + fuel)
      scene = some (servedAlone register' w nested events calls, scene') := by
  induction h generalizing w nested events with
  | done register scene =>
    rw [run_finished (by simp [Worker.isFinished, hstage, hleft])]
    simp [servedAlone, Worker.served_nil hstage]
  | @failed n register scene d cause hd hfails =>
    rw [List.map_singleton, List.sum_singleton, Call.turns,
      run_draws hd hstage (by omega), hfails, run_finished rfl]
    simp [servedAlone, Worker.served_of_error (c := ⟨register, scene, d⟩) hfails, Except.map]
  | @drew n register register' scene scene' d id calls hd hid hrest ih =>
    have hleft' : (w.conclude (.ok (.ready id))).remaining = n := by simp [Worker.conclude, hleft]
    rw [List.map_cons, List.sum_cons, Call.turns, Nat.add_assoc,
      run_draws hd hstage (by omega), hid]
    refine (ih rfl hleft' _ _).trans ?_
    simp [servedAlone, Worker.served_cons (c := ⟨register, scene, d⟩) hid]

theorem exists_errand_of_run {r : Pool × σ} (hstage : w.stage = .attempting .idle)
    (hleft : w.remaining = n)
    (h : (⟨register, [w], nested, events⟩ : Pool).run g around fuel scene = some r) :
    ∃ calls register' scene', Errand g (around 0) n register scene calls register' scene' ∧
      (calls.map Call.turns).sum ≤ fuel := by
  induction n generalizing w register scene nested events fuel with
  | zero => exact ⟨[], register, scene, .done register scene, Nat.zero_le fuel⟩
  | succ n ih =>
    obtain ⟨d, hd, hle⟩ := exists_draws_of_run hstage (by omega) h
    cases hout : d.outcome with
    | error cause => exact ⟨_, _, _, .failed hd hout, by simpa [Call.turns] using hle⟩
    | ok id =>
      obtain ⟨rest, rfl⟩ := Nat.exists_eq_add_of_le hle
      rw [run_draws hd hstage (by omega), hout] at h
      have hleft' : (w.conclude (.ok (.ready id))).remaining = n := by simp [Worker.conclude, hleft]
      obtain ⟨calls, register', scene', herrand, hturns⟩ := ih rfl hleft' h
      refine ⟨_, register', scene', .drew hd hout herrand, ?_⟩
      rw [List.map_cons, List.sum_cons]
      exact Nat.add_le_add_left hturns _

end Pool

/-! ## Generating with a single thread -/

/-- The ids of these calls in ascending order, or the error of the one that failed. -/
def collected (calls : List (Call σ)) : Except Error (List Int64) :=
  match calls.findSome? Call.failure? with
  | some cause => .error cause
  | none => .ok ((calls.filterMap Call.id?).mergeSort fun a b => decide (a ≤ b))

/-- What a single worker that has finished is said to have drawn. -/
def closing : Except Error (List Int64) → List Event
  | .ok ids => [.generated ids.length 1]
  | .error _ => []

/-- What generating leaves that makes these calls. -/
def Generated.ofCalls (calls : List (Call σ)) (register : Int64) (scene : σ) : Generated σ where
  register
  outcome := collected calls
  scene
  nested := calls.flatMap (·.draw.nested)
  events := calls.flatMap (·.draw.events) ++ closing (collected calls)

theorem result_servedAlone (register : Int64) (w : Worker) (hdrawn : w.drawn = [])
    (nested : List Outcome) (events : List Event) (calls : List (Call σ)) :
    (Pool.servedAlone register w nested events calls).result = collected calls := by
  have hsame : ((calls.filterMap Call.id?).reverse.mergeSort fun a b => decide (a ≤ b)) =
      (calls.filterMap Call.id?).mergeSort fun a b => decide (a ≤ b) :=
    Pool.mergeSort_eq_of_perm ((List.reverse_perm _).trans (List.mergeSort_perm _ _).symm)
      (Pool.pairwise_mergeSort_le _)
  cases hfails : calls.findSome? Call.failure? with
  | none => simp [Pool.result, Pool.servedAlone, Worker.served, Worker.failure?, collected, hfails,
      hdrawn, hsame]
  | some cause => simp [Pool.result, Pool.servedAlone, Worker.served, Worker.failure?, collected,
      hfails]

theorem max_one_of_le {threads : UInt64} (hsingle : threads ≤ 1) : max threads 1 = 1 := by
  have hle : threads.toNat ≤ 1 := hsingle
  refine UInt64.toNat_inj.1 ?_
  rw [UInt64.toNat_max, UInt64.toNat_one]
  omega

theorem ofCount_one (register : Int64) (count : UInt64) :
    Pool.ofCount register count 1 = ⟨register, [{ remaining := count.toNat }], [], []⟩ := by
  have hquota : (quota count 1 0).toNat = count.toNat := by
    rw [toNat_quota (by decide), UInt64.toNat_one, Nat.div_one, Nat.mod_one]
    simp
  show (⟨register, [{ remaining := (quota count 1 0).toNat }], [], []⟩ : Pool) = _
  rw [hquota]

/-- **Generating on one's own.** With a single thread, generating returns what the calls of an
errand leave, if it may take as many turns. -/
theorem generate_eq_some_iff {count threads : UInt64} (hsingle : threads ≤ 1) {r : Generated σ} :
    g.generate around fuel register scene count threads = some r ↔
      ∃ calls register' scene',
        Errand g (around 0) count.toNat register scene calls register' scene' ∧
        (calls.map Call.turns).sum ≤ fuel ∧ r = .ofCalls calls register' scene' := by
  have hleaves : ∀ (register' : Int64) (scene' : σ) (calls : List (Call σ)),
      let p := Pool.servedAlone register' { remaining := count.toNat } [] [] calls
      ({ register := p.register, outcome := p.result, scene := scene', nested := p.nested
         events := p.events ++ p.closing 1 } : Generated σ) = .ofCalls calls register' scene' := by
    intro register' scene' calls p
    rw [Generated.ofCalls, ← result_servedAlone register' { remaining := count.toNat } rfl [] []]
    rfl
  rw [generate, max_one_of_le hsingle, ofCount_one]
  constructor
  · intro h
    obtain ⟨⟨p, scene₁⟩, hrun, rfl⟩ := Option.map_eq_some_iff.1 h
    obtain ⟨calls, register', scene', herrand, hturns⟩ := Pool.exists_errand_of_run rfl rfl hrun
    obtain ⟨rest, rfl⟩ := Nat.exists_eq_add_of_le hturns
    rw [Pool.run_errand herrand rfl rfl] at hrun
    obtain ⟨rfl, rfl⟩ := Prod.mk.inj (Option.some.inj hrun)
    exact ⟨calls, register', scene', herrand, hturns, hleaves _ _ _⟩
  · rintro ⟨calls, register', scene', herrand, hturns, rfl⟩
    obtain ⟨rest, rfl⟩ := Nat.exists_eq_add_of_le hturns
    rw [Pool.run_errand herrand rfl rfl, Option.map_some]
    exact congrArg some (hleaves _ _ _)

end Snowflake.Generator
