import Snowflake.Command.Run
import Snowflake.Proofs.Construction
import Snowflake.Proofs.Turns

/-!
# What generating prints

A command that generates reads the clock once to build its generator, and then lets the workers take
their steps in some order. `Config.Generates` says what it prints and reports for any such order.
The command itself takes one of them: on a clock that gives readings and does nothing else, its
workers follow a schedule on the readings that come after that of the construction
(`exists_generates`).

A configuration that passed the checks is refused by the generator for one reason only, a clock that
has not reached the offset (`exists_create`).
-/

namespace Snowflake

open Generator

/-! ## Streams of readings -/

/-- The clock of the scene is at this position of a stream of readings. -/
def Workshop.Streams (readingAt : Nat → Int64) (w : Workshop) : Prop :=
  ∃ k, w.clock = .stream readingAt k

theorem Workshop.stays_surroundings (readingAt : Nat → Int64) (i : Nat) :
    (surroundings i).Stays (Streams readingAt) where
  tick scene h := by
    obtain ⟨k, hk⟩ := h
    exact ⟨readingAt k, by simp [surroundings, Workshop.tick, hk, Clock.tick]⟩
  after_tick scene h := by
    obtain ⟨k, hk⟩ := h
    exact ⟨k + 1, by simp [surroundings, Workshop.tick, hk, Clock.tick]⟩
  after_answer scene h := h

theorem readings_of_gives {readingAt : Nat → Int64} {scene scene' : Workshop}
    {schedule : List (Nat × Move)} (h : Gives Workshop.surroundings scene schedule scene') {k : Nat}
    (hclock : scene.clock = .stream readingAt k) :
    ∃ n, readings (Pool.accesses schedule) = (List.range' k n).map readingAt := by
  induction h generalizing k with
  | done => exact ⟨0, rfl⟩
  | @silent scene scene' rest i access haccess h ih =>
    obtain ⟨n, hn⟩ := ih hclock
    refine ⟨n, ?_⟩
    rw [← hn]
    cases access with
    | load | exchange => rfl
    | read reading => exact absurd rfl (haccess reading)
  | @read scene scene' rest i reading htick h ih =>
    have hreading : readingAt k = reading := by
      simpa [Workshop.surroundings, Workshop.tick, hclock, Clock.tick, Tick.plain] using htick
    obtain ⟨n, hn⟩ := ih (k := k + 1) (by
      simp [Workshop.surroundings, Workshop.tick, hclock, Clock.tick])
    refine ⟨n + 1, ?_⟩
    rw [List.range'_succ, List.map_cons, ← hn, hreading]
    rfl
  | @answer scene scene' rest i h ih => exact ih hclock

namespace Config

variable {c : Config} {count threads : UInt64} {start : Int64}

/-! ## Accepted configurations -/

theorem settings_of_ofArguments {a : Arguments} (h : ofArguments a = .ok c) :
    (0 ≤ c.nodeId ∧ c.nodeId ≤ c.layout.maxNode) ∧ 0 ≤ c.offset ∧
      checkThreads c.command = .ok () := by
  unfold ofArguments at h
  split at h
  · cases h
  · rename_i layout hlayout
    split_ifs at h with hnode hoffset
    cases hthreads : checkThreads a.command with
    | error e => simp [hthreads] at h
    | ok =>
      simp only [hthreads, Except.ok.injEq] at h
      subst h
      exact ⟨hnode, Int64.not_lt.1 hoffset, hthreads⟩

theorem exists_create {a : Arguments} (h : ofArguments a = .ok c) (hstart : c.offset ≤ start) :
    ∃ g, Generator.create c.layout c.nodeId c.offset start =
        .ok (g, [.created c.layout c.nodeId c.offset]) ∧
      g.layout = c.layout ∧ g.nodeId = c.nodeId ∧ g.offset = c.offset := by
  obtain ⟨⟨hnonneg, hle⟩, hoffset, -⟩ := settings_of_ofArguments h
  exact ⟨⟨c.layout, c.nodeId, c.offset, hnonneg, hle, hoffset⟩,
    create_eq_ok_iff.2 ⟨⟨rfl, rfl, rfl⟩, hstart, rfl⟩, rfl, rfl, rfl⟩

/-! ## Generating -/

/-- What comes of generating on a clock that reads `start` at the construction, if the workers take
their steps in the order of a schedule. -/
inductive Generates (c : Config) (count threads : UInt64) (start : Int64)
    (schedule : List (Nat × Move)) : Output → Prop where
  | refused {cause : Error}
      (h : Generator.create c.layout c.nodeId c.offset start = .error cause) :
      Generates c count threads start schedule { failure := some (.construction cause) }
  | drawn {g : Generator} {events : List Event} {p : Pool}
      (h : Generator.create c.layout c.nodeId c.offset start = .ok (g, events))
      (hp : (Pool.ofCount 0 count (max threads 1)).steps? g schedule = some p)
      (hdone : ∀ w ∈ p.workers, w.isFinished) :
      Generates c count threads start schedule
        (Output.ofDrawn events (p.events ++ p.closing (max threads 1)) p.result)

variable {readingAt : Nat → Int64} {k : Nat}

theorem session_create_error {cause : Error}
    (h : Generator.create c.layout c.nodeId c.offset (readingAt k) = .error cause) :
    ∃ clock, Session.create c.layout c.nodeId c.offset (.stream readingAt k) =
      .error ⟨cause, clock⟩ := by
  unfold Generator.create at h
  unfold Session.create
  cases hsettings : ofSettings c.layout c.nodeId c.offset with
  | error cause' =>
    rw [hsettings] at h
    obtain rfl : cause' = cause := by simpa [Except.bind] using h
    exact ⟨_, rfl⟩
  | ok g =>
    rw [hsettings] at h
    have hstart : g.start (readingAt k) = .error cause := h
    simp only [Clock.read, hstart]
    exact ⟨_, rfl⟩

theorem session_create_ok {g : Generator} {events : List Event}
    (h : Generator.create c.layout c.nodeId c.offset (readingAt k) = .ok (g, events)) :
    Session.create c.layout c.nodeId c.offset (.stream readingAt k) =
      .ok { session := { generator := g, clock := .stream readingAt (k + 1) }
            value := (), events } := by
  unfold Generator.create at h
  unfold Session.create
  cases hsettings : ofSettings c.layout c.nodeId c.offset with
  | error cause =>
    rw [hsettings] at h
    cases h
  | ok g' =>
    rw [hsettings] at h
    have hstart : g'.start (readingAt k) = .ok (g, events) := h
    simp only [Clock.read, hstart]
    rfl

/-- **Generating.** On a stream of readings the command takes the first one for the construction,
and its workers follow a schedule on those that come next. -/
theorem exists_generates (hcommand : c.command = .generate count threads)
    (hends : (c.run (.stream readingAt k)).failure ≠ some .endless) :
    ∃ schedule n, c.Generates count threads (readingAt k) schedule (c.run (.stream readingAt k)) ∧
      readings (Pool.accesses schedule) = (List.range' (k + 1) n).map readingAt := by
  cases hcreate : Generator.create c.layout c.nodeId c.offset (readingAt k) with
  | error cause =>
    obtain ⟨clock, hsession⟩ := session_create_error hcreate
    refine ⟨[], 0, ?_, rfl⟩
    simp only [run, hcommand, hsession]
    exact .refused hcreate
  | ok built =>
    obtain ⟨g, events⟩ := built
    have hsession := session_create_ok hcreate
    simp only [run, hcommand, hsession, Session.generate?, generate] at hends ⊢
    cases hrun : (Pool.ofCount 0 count (max threads 1)).run g Workshop.surroundings
        (Session.patience + 2 * count.toNat)
        { clock := .stream readingAt (k + 1), raised := ({} : Signals).raised } with
    | none => simp [hrun] at hends
    | some left =>
      obtain ⟨p, scene⟩ := left
      obtain ⟨schedule, hsteps, hgiven, hdone⟩ := Pool.exists_given_steps_of_run
        (Workshop.stays_surroundings readingAt) ⟨k + 1, rfl⟩
        (Pool.settled_ofCount 0 count (max threads 1)) hrun
      obtain ⟨n, hn⟩ := readings_of_gives hgiven rfl
      refine ⟨schedule, n, ?_, hn⟩
      simp only [Option.map_some]
      exact .drawn hcreate hsteps hdone

end Config

end Snowflake
