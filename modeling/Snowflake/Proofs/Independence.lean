import Snowflake.Proofs.Drawing
import Snowflake.Proofs.Standstill
import Snowflake.Proofs.Turns
import Mathlib.Algebra.BigOperators.Group.List.Basic

/-!
# What is drawn does not depend on the schedule

Which worker gets which id, and how often each of them loses a race, depends on how their accesses
fall. On a clock that stands still the ids themselves do not, nor does what the register holds in
the end: the workers' commits are a chain whose readings are all the same, and such a chain is
determined by its length. Its length is the count.

No worker fails, because the clock is never before a word that some worker has loaded (`OnTime`).
And as long as there are ids left an attempt on its own commits one, so workers that take turns
finish after as many turns as there are ids to draw (`Ready.exists_run`).

**Theorem (`draws_independent_of_schedule`).** If a register has as many ids left as are asked for,
then these ids are drawn, and the register is left at the last of them, by any two numbers of
workers in any two schedules by which they finish. Running them is one of these schedules.
-/

namespace Snowflake.Generator

variable {g : Generator} {p p' : Pool} {i : Nat} {reading register : Int64} {count : UInt64}

/-! ## Nobody fails -/

/-- The words that an attempt has in hand are not after the clock. -/
def Phase.Reached (g : Generator) (reading : Int64) : Phase → Prop
  | .idle => True
  | .loaded seen => g.Reached reading seen
  | .proposing _ next => g.Reached reading next

theorem Reached.advance {phase : Phase} {access : Access} {a : Advance}
    (h : g.Reached reading register) (hphase : phase.Reached g reading)
    (hmax : g.relative reading ≤ g.layout.maxTimestamp)
    (hread : ∀ r, access = .read r → r = reading) (ha : Advances g register phase access a) :
    g.Reached reading a.register ∧ a.phase.Reached g reading ∧
      ∀ cause, a.ended ≠ some (.error cause) := by
  cases ha with
  | load => exact ⟨h, h, nofun⟩
  | @propose seen r next hp =>
    obtain rfl := hread r rfl
    exact ⟨h, Reached.commit hphase hmax hp, nofun⟩
  | @refuse seen r hp =>
    obtain rfl := hread r rfl
    refine ⟨h, trivial, fun cause hended => ?_⟩
    exact Reached.not_regressed hphase (settle_error (Option.some.inj hended)).1
  | win => exact ⟨hphase, trivial, nofun⟩
  | lose hne => exact ⟨h, trivial, nofun⟩

theorem Worker.failure?_take {w : Worker} {a : Advance}
    (h : ∀ cause, a.ended ≠ some (.error cause)) : (w.take a).failure? = none := by
  unfold take
  cases hended : a.ended with
  | none => rfl
  | some outcome =>
    rcases outcome with cause | status
    · exact absurd hended (h cause)
    · cases status <;> rfl

namespace Pool

/-- Nobody has failed, and no word that is held or in hand is after the clock. -/
structure OnTime (g : Generator) (reading : Int64) (p : Pool) : Prop where
  register : g.Reached reading p.register
  workers : ∀ w ∈ p.workers, w.phase.Reached g reading ∧ w.failure? = none

theorem onTime_ofCount (h : g.Reached reading register) (count threads : UInt64) :
    (ofCount register count threads).OnTime g reading where
  register := h
  workers w hw := by
    obtain ⟨i, -, rfl⟩ := List.mem_map.1 hw
    exact ⟨trivial, rfl⟩

theorem OnTime.step {move : Move} (h : p.OnTime g reading)
    (hmax : g.relative reading ≤ g.layout.maxTimestamp)
    (hmove : move.Fits (· = reading) (· = false)) (hstep : Steps g p i move p') :
    p'.OnTime g reading := by
  cases hstep with
  | @access w phase access a hw hopen hstage ha =>
    have hphase := (h.workers w (List.mem_of_getElem? hw)).1
    rw [Worker.phase, hstage] at hphase
    have hadvances := advances_of_advance? ha
    have hread : ∀ r, access = .read r → r = reading := by
      rintro r rfl
      exact hmove
    obtain ⟨hregister, hafter, hended⟩ := h.register.advance hphase hmax hread hadvances
    refine ⟨hregister, forall_mem_set h.workers ⟨?_, Worker.failure?_take hended⟩ i⟩
    rwa [Worker.phase_take hadvances]
  | @answer w stop hw hstage =>
    obtain rfl : stop = false := hmove
    have hgoesOn : (w.answer false).1.phase.Reached g reading ∧
        (w.answer false).1.failure? = none := ⟨trivial, rfl⟩
    exact ⟨h.register, forall_mem_set h.workers hgoesOn i⟩

/-! ## Everybody finishes -/

/-- How many ids the workers have still to draw. -/
def owed (p : Pool) : Nat := (p.workers.map Worker.remaining).sum

theorem owed_ofCount (register : Int64) (count threads : UInt64) :
    (ofCount register count (max threads 1)).owed = count.toNat := by
  rw [owed, ofCount, List.map_map]
  exact sum_quotas (toNat_max_one threads)

theorem sum_map_set {α : Type} {f : α → Nat} {l : List α} {x y : α} (h : l[i]? = some x) :
    ((l.set i y).map f).sum + f x = (l.map f).sum + f y := by
  induction l generalizing i with
  | nil => simp at h
  | cons z l ih =>
    cases i with
    | zero =>
      obtain rfl : z = x := by simpa using h
      simp only [List.set_cons_zero, List.map_cons, List.sum_cons]
      omega
    | succ i =>
      have := ih (by simpa using h)
      simp only [List.set_cons_succ, List.map_cons, List.sum_cons]
      omega

theorem owed_conclusion {w : Worker} {next : Int64} (hw : p.workers[i]? = some w)
    (hpos : 0 < w.remaining) (hp : g.propose p.register reading = .commit next) :
    (p.after i w (conclusion g p.register reading)).owed + 1 = p.owed := by
  have hsum := sum_map_set (f := Worker.remaining)
    (y := w.take (conclusion g p.register reading)) hw
  have hremaining : (w.take (conclusion g p.register reading)).remaining = w.remaining - 1 := by
    rw [Worker.take, conclusion, settle_commit hp]
    rfl
  rw [hremaining] at hsum
  show (List.map Worker.remaining (p.workers.set i _)).sum + 1 =
    (p.workers.map Worker.remaining).sum
  omega

theorem remaining_pos {w : Worker} (hready : w.stage = .attempting .idle)
    (hopen : w.isFinished = false) : 0 < w.remaining := by
  rw [Worker.isFinished, hready] at hopen
  simp only [beq_eq_false_iff_ne] at hopen
  omega

theorem owed_pos {w : Worker} (hw : w ∈ p.workers) (hpos : 0 < w.remaining) : 0 < p.owed :=
  List.sum_pos_iff_exists_pos_nat.2 ⟨_, List.mem_map_of_mem hw, hpos⟩

/-- Nobody has begun an attempt, and on the clock there are ids left for all. -/
structure Ready (g : Generator) (reading : Int64) (p : Pool) : Prop where
  register : g.Reached reading p.register
  stages : ∀ w ∈ p.workers, w.stage = .attempting .idle
  enough : p.owed ≤ g.capacity p.register reading

theorem ready_ofCount (h : g.Reached reading register)
    (hcount : count.toNat ≤ g.capacity register reading) (threads : UInt64) :
    (ofCount register count (max threads 1)).Ready g reading where
  register := h
  stages := stage_ofCount register count (max threads 1)
  enough := by rwa [owed_ofCount]

variable {σ : Type} {around : Nat → Surroundings σ} {hears : Bool → Prop}

/-- **One turn.** It draws an id, and leaves enough for the others. -/
theorem Ready.turn (h : p.Ready g reading) (haround : (around i).Plain (· = reading) hears)
    (hmax : g.relative reading ≤ g.layout.maxTimestamp) (hcurrent : p.current? = some i)
    (scene : σ) :
    (p.turn g (around i) i scene).1.Ready g reading ∧
      (p.turn g (around i) i scene).1.owed + 1 = p.owed := by
  obtain ⟨w, hw, hopen⟩ := exists_of_current? hcurrent
  have hmem := List.mem_of_getElem? hw
  have hstage := h.stages w hmem
  have hpos := remaining_pos hstage hopen
  have hdue := owed_pos hmem hpos
  have henough := h.enough
  obtain ⟨next, hp⟩ := h.register.propose_eq_commit (by omega)
  obtain ⟨r, htick, rfl⟩ := haround.tick scene
  have hattempt : p.isAsking i = false := by simp [isAsking, hw, hstage]
  have hturn : (p.turn g (around i) i scene).1 = p.after i w (conclusion g p.register r) := by
    rw [Pool.turn, if_neg (by simp [hattempt]), ← attempt_plain hw, ← htick]
  have hregister : (p.after i w (conclusion g p.register r)).register = next := by
    rw [after, conclusion, settle_commit hp]
  have howed := owed_conclusion hw hpos hp
  have hcapacity := h.register.capacity_commit hmax hp
  rw [hturn]
  refine ⟨⟨?_, ?_, ?_⟩, howed⟩
  · rw [hregister]
    exact h.register.commit hmax hp
  · refine forall_mem_set h.stages ?_ i
    rw [Worker.take, conclusion, settle_commit hp]
    rfl
  · rw [hregister]
    omega

/-- Workers that take turns finish, and need no more turns than there are ids to draw. -/
theorem Ready.exists_run (h : p.Ready g reading)
    (haround : ∀ i, (around i).Plain (· = reading) hears)
    (hmax : g.relative reading ≤ g.layout.maxTimestamp) {fuel : Nat} (hfuel : p.owed ≤ fuel)
    (scene : σ) : ∃ p' scene', p.run g around fuel scene = some (p', scene') := by
  induction fuel generalizing p scene with
  | zero =>
    cases hcurrent : p.current? with
    | none => exact ⟨p, scene, run_done hcurrent⟩
    | some i =>
      obtain ⟨-, howed⟩ := h.turn (haround i) hmax hcurrent scene
      omega
  | succ fuel ih =>
    cases hcurrent : p.current? with
    | none => exact ⟨p, scene, run_done hcurrent⟩
    | some i =>
      obtain ⟨hready, howed⟩ := h.turn (haround i) hmax hcurrent scene
      rw [run_turn hcurrent]
      exact ih hready (by omega) _

/-! ## Schedules by which the workers finish -/

/-- On a clock that stands at `reading`, the schedule leads to a pool of which all workers have
finished, and none was told to stop. -/
structure Completes (g : Generator) (reading : Int64) (p : Pool) (schedule : List (Nat × Move))
    (p' : Pool) : Prop where
  steps : p.steps? g schedule = some p'
  calm : ∀ move ∈ schedule, move.2.Fits (· = reading) (· = false)
  finished : ∀ w ∈ p'.workers, w.isFinished

theorem readings_accesses_of_fits {reads : Int64 → Prop} {schedule : List (Nat × Move)}
    (h : ∀ move ∈ schedule, move.2.Fits reads hears) :
    ∀ r ∈ readings (accesses schedule), reads r := by
  intro r hr
  obtain ⟨⟨i, access⟩, haccess, hread⟩ := List.mem_filterMap.1 hr
  obtain ⟨⟨j, move⟩, hmove, hkept⟩ := List.mem_filterMap.1 haccess
  cases move with
  | answer stop => cases hkept
  | access access' =>
    obtain ⟨rfl, rfl⟩ := Prod.mk.inj (Option.some.inj hkept)
    cases access' with
    | load | exchange => cases hread
    | read r' =>
      obtain rfl : r' = r := Option.some.inj hread
      exact h _ hmove

/-- **Complete schedules.** Whatever they are, they draw the ids that follow the register. -/
theorem Completes.result_eq {rs ids : List Int64} {threads : UInt64}
    {schedule : List (Nat × Move)}
    (h : Completes g reading (ofCount register count (max threads 1)) schedule p)
    (hmints : Mints g rs register ids) (hreached : g.Reached reading register)
    (hmax : g.relative reading ≤ g.layout.maxTimestamp)
    (hcount : count.toNat ≤ g.capacity register reading) :
    p.result = .ok (g.following register reading count.toNat) ∧
      p.register = g.settledAt register reading count.toNat := by
  obtain ⟨s', hs', hmirrors⟩ := (mirrors_ofCount register count (max threads 1)).run h.steps
  obtain ⟨more, new, hmore, hnew, hgoes⟩ :=
    (Shared.continues_idle hmints (max threads 1).toNat).run (readings_accesses_of_fits h.calm) hs'
  obtain rfl : s'.ids = new := hnew
  have hchain := hgoes.mints
  rw [hmirrors.register] at hchain
  have honTime := steps?_induction
    (fun _ _ move _ hmem h' hstep => OnTime.step h' hmax (h.calm (_, move) hmem) hstep)
    (onTime_ofCount hreached count (max threads 1)) h.steps
  have hnone : ∀ w ∈ p.workers, w.failure? = none := fun w hw => (honTime.workers w hw).2
  -- The chain has as many readings as ids were asked for, and they are all the same.
  have hlength : more.length = count.toNat := by
    have hids := hmirrors.ids.length_eq
    rw [length_ids_of_finished h.steps h.finished hnone] at hids
    have hall := hchain.length_eq
    have hbefore := hmints.length_eq
    rw [List.length_append, List.length_append] at hall
    omega
  rw [List.eq_replicate_of_mem hmore, hlength] at hchain
  obtain ⟨hids, hsettled⟩ := hmints.eq_following hreached hmax hchain
  refine ⟨?_, hsettled⟩
  rw [← hids]
  refine result_eq_ok hmirrors.ids ?_ hnone
  rw [hids]
  exact pairwise_following hreached hmax hcount

end Pool

/-! ## Any two schedules -/

/-- **Independence.** On a clock that stands still, any numbers of workers draw the same ids in any
schedules by which they finish, namely those that follow the register, and leave the same register.
Workers that take turns do finish. -/
theorem draws_independent_of_schedule (g : Generator) {callers : Nat} {before : List (Nat × Access)}
    {s : Shared} (hs : (Shared.fresh callers).run g before = some s) {reading : Int64}
    (hle : g.layout.timestampOf s.register ≤ g.relative reading)
    (hmax : g.relative reading ≤ g.layout.maxTimestamp) (count : UInt64)
    (hcount : count.toNat ≤ g.capacity s.register reading) (threads threads' : UInt64) :
    (∀ schedule schedule' p p',
      (Pool.ofCount s.register count (max threads 1)).Completes g reading schedule p →
      (Pool.ofCount s.register count (max threads' 1)).Completes g reading schedule' p' →
        p.result = .ok (g.following s.register reading count.toNat) ∧ p'.result = p.result ∧
        p.register = g.settledAt s.register reading count.toNat ∧ p'.register = p.register) ∧
    ((g.following s.register reading count.toNat).map g.layout.decode =
      (List.range' (g.nextSequence s.register reading) count.toNat).map fun q =>
        ⟨g.relative reading, g.nodeId, Int64.ofNat q⟩) ∧
    ∀ {σ : Type} (around : Nat → Surroundings σ),
      (∀ i, (around i).Plain (· = reading) (· = false)) →
      ∀ scene fuel, count.toNat ≤ fuel →
        ∃ d, g.generate around fuel s.register scene count threads = some d ∧
          d.outcome = .ok (g.following s.register reading count.toNat) ∧
          d.register = g.settledAt s.register reading count.toNat := by
  obtain ⟨rs, -, hchain⟩ : ∃ rs, (∀ r ∈ rs, True) ∧ s.Continues g (fun _ => True) rs s.ids :=
    continues_run hs fun _ _ => trivial
  have hmints := hchain.mints
  have hreached := reached_of_timestampOf_le hmints hle
  refine ⟨fun schedule schedule' p p' h h' => ?_, map_decode_following hreached hmax hcount, ?_⟩
  · obtain ⟨hresult, hregister⟩ := h.result_eq hmints hreached hmax hcount
    obtain ⟨hresult', hregister'⟩ := h'.result_eq hmints hreached hmax hcount
    exact ⟨hresult, hresult'.trans hresult.symm, hregister, hregister'.trans hregister.symm⟩
  · intro σ around haround scene fuel hfuel
    have hready := Pool.ready_ofCount hreached hcount threads
    rw [← Pool.owed_ofCount s.register count threads] at hfuel
    obtain ⟨p, scene', hrun⟩ := hready.exists_run haround hmax hfuel scene
    obtain ⟨schedule, hsteps, hcalm, hdone⟩ := Pool.exists_steps_of_run haround
      (Pool.settled_ofCount s.register count (max threads 1)) hrun
    obtain ⟨hresult, hregister⟩ :=
      Pool.Completes.result_eq ⟨hsteps, hcalm, hdone⟩ hmints hreached hmax hcount
    rw [generate, hrun]
    exact ⟨_, rfl, hresult, hregister⟩

/-- Two workers that draw an id each. The first loses an exchange to the second. -/
def contest : List (Nat × Move) :=
  [(0, .access .load), (1, .access .load), (0, .access (.read 1005)), (1, .access (.read 1005)),
    (1, .access .exchange), (0, .access .exchange), (0, .answer false), (0, .access .load),
    (0, .access (.read 1005)), (0, .access .exchange)]

/-- One worker that draws both. -/
def errand : List (Nat × Move) :=
  [(0, .access .load), (0, .access (.read 1005)), (0, .access .exchange), (0, .access .load),
    (0, .access (.read 1005)), (0, .access .exchange)]

/-- A clock that stands still, and nobody who calls off a wait. -/
def Surroundings.still (reading : Int64) : Surroundings Unit where
  tick scene := (.plain reading, scene)
  cancelled scene := (false, scene)

theorem Surroundings.plain_still (reading : Int64) :
    (still reading).Plain (· = reading) (· = false) where
  tick _ := ⟨reading, rfl, rfl⟩
  answer _ := rfl

/-- The contest and the errand draw the two ids of a later millisecond, and so do two workers that
take turns. -/
theorem contest_and_errand_draw_alike :
    ∃ s, (Shared.fresh 1).run paired prelude = some s ∧
      paired.layout.timestampOf s.register ≤ paired.relative 1005 ∧
      paired.relative 1005 ≤ paired.layout.maxTimestamp ∧
      paired.capacity s.register 1005 = 2 ∧
      ∃ p p', (Pool.ofCount s.register 2 (max 2 1)).Completes paired 1005 contest p ∧
        (Pool.ofCount s.register 2 (max 0 1)).Completes paired 1005 errand p' ∧
        p.workers.map Worker.drawn = [[23], [22]] ∧ p'.workers.map Worker.drawn = [[23, 22]] ∧
        p.result = .ok [22, 23] ∧ p'.result = p.result ∧ p'.register = p.register ∧
        ∃ d, paired.generate (fun _ => .still 1005) 2 s.register () 2 2 = some d ∧
          d.outcome = p.result := by
  have hends : ((Shared.fresh 1).run paired prelude).bind (fun s =>
      ((Pool.ofCount s.register 2 (max 2 1)).steps? paired contest).bind fun p =>
        ((Pool.ofCount s.register 2 (max 0 1)).steps? paired errand).map fun p' =>
          (decide (paired.layout.timestampOf s.register ≤ paired.relative 1005) &&
              decide (paired.capacity s.register 1005 = 2) &&
              (p.workers.all Worker.isFinished && p'.workers.all Worker.isFinished),
            paired.following s.register 1005 2, p.workers.map Worker.drawn,
            p'.workers.map Worker.drawn)) =
      some (true, [22, 23], [[23], [22]], [[23, 22]]) := by decide +kernel
  obtain ⟨s, hs, hends⟩ := Option.bind_eq_some_iff.1 hends
  obtain ⟨p, hp, hends⟩ := Option.bind_eq_some_iff.1 hends
  obtain ⟨p', hp', hends⟩ := Option.map_eq_some_iff.1 hends
  simp only [Prod.mk.injEq, Bool.and_eq_true, decide_eq_true_eq, List.all_eq_true] at hends
  obtain ⟨⟨⟨hle, hcap⟩, hdone, hdone'⟩, hids, hdrawn, hdrawn'⟩ := hends
  have hmax : paired.relative 1005 ≤ paired.layout.maxTimestamp := by decide +kernel
  have hcontest : (Pool.ofCount s.register 2 (max 2 1)).Completes paired 1005 contest p :=
    ⟨hp, by simp [contest, Move.Fits], hdone⟩
  have herrand : (Pool.ofCount s.register 2 (max 0 1)).Completes paired 1005 errand p' :=
    ⟨hp', by simp [errand, Move.Fits], hdone'⟩
  obtain ⟨hsame, -, hturns⟩ := draws_independent_of_schedule paired hs hle hmax 2 hcap.ge 2 0
  obtain ⟨hresult, hresult', -, hregister⟩ := hsame _ _ p p' hcontest herrand
  obtain ⟨d, hd, houtcome, -⟩ :=
    hturns (fun _ => .still 1005) (fun _ => Surroundings.plain_still 1005) () 2 (Nat.le_refl 2)
  exact ⟨s, hs, hle, hmax, hcap, p, p', hcontest, herrand, hdrawn, hdrawn',
    hresult.trans (congrArg Except.ok hids), hresult', hregister, d, hd,
    houtcome.trans hresult.symm⟩

end Snowflake.Generator
