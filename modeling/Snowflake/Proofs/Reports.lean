import Snowflake.Proofs.Construction
import Snowflake.Proofs.Errands
import Snowflake.Proofs.Waiting

/-!
# The log tells what happened

Something is reported when a construction, an attempt, a call for the next id or a drawing of many
ids comes to its end, and how it ended says what (`Ending.reports`). Most of them end without a
word.

**Stories.** A story begins with a construction. If it succeeds, the generator is then used for
attempts, for calls and for drawings by a single worker, in any order and on any surroundings
(`Story.Grows`). A story keeps what was reported, as the definitions of these uses have it, and
beside it what came to an end, in the order in which it did: of an attempt those nested in it and
then itself, of a call its attempts and then the call, of a drawing its calls and then the drawing.

**Theorem (`log_tells_endings`).** The log of a story, from the level of debugging upwards, is what
its endings have to report, one after the other.
-/

namespace Snowflake

/-- An entry of the log, with its fields by name. -/
structure Report where
  level : Level
  message : String
  fields : List (String × Int) := []
deriving DecidableEq

def Event.report (e : Event) : Report := ⟨e.level, e.message, e.fields⟩

theorem Event.rank_level_le (e : Event) : e.level.rank ≤ Level.debug.rank := by
  cases e <;> simp [Event.level, Level.rank]

namespace Generator

/-- Something that came to its end. -/
inductive Ending where
  | construction (result : Except Error Generator)
  | attempt (outcome : Outcome)
  | call (outcome : Except Error Int64)
  /-- A single worker that was to draw many ids. -/
  | drawing (outcome : Except Error (List Int64))

/-- What is reported of it. -/
def Ending.reports : Ending → List Report
  | construction (.ok g) =>
    [{ level := .debug, message := "created snowflake generator"
       fields := [("node_id", g.nodeId.toInt), ("timestamp_offset_ms", g.offset.toInt),
         ("node_id_bits", g.layout.nodeBits), ("sequence_bits", g.layout.sequenceBits)] }]
  | attempt (.error (.clockRegressed now last)) =>
    [{ level := .warn, message := "clock has gone backwards"
       fields := [("now_ms", now.toInt), ("last_ms", last.toInt)] }]
  | call (.error .cancelled) =>
    [{ level := .debug, message := "id generation cancelled while spin-waiting" }]
  | drawing (.ok ids) =>
    [{ level := .debug, message := "generated ids"
       fields := [("count", ids.length), ("threads", 1)] }]
  | _ => []

/-- The events are reported, in this order, of these endings. -/
def Tells (events : List Event) (endings : List Ending) : Prop :=
  events.map Event.report = endings.flatMap Ending.reports

variable {σ : Type} {g : Generator} {around : Surroundings σ} {register register' : Int64}
  {scene scene' : σ} {d : Draw σ} {calls : List (Call σ)} {n : Nat}

theorem Tells.append {events events' : List Event} {ends ends' : List Ending}
    (h : Tells events ends) (h' : Tells events' ends') :
    Tells (events ++ events') (ends ++ ends') := by
  unfold Tells at *
  rw [List.map_append, List.flatMap_append, h, h']

theorem Tells.flatMap {α : Type} {xs : List α} {f : α → List Event} {e : α → List Ending}
    (h : ∀ x ∈ xs, Tells (f x) (e x)) : Tells (xs.flatMap f) (xs.flatMap e) := by
  induction xs with
  | nil => rfl
  | cons x xs ih =>
    obtain ⟨hx, hxs⟩ := List.forall_mem_cons.1 h
    rw [List.flatMap_cons, List.flatMap_cons]
    exact hx.append (ih hxs)

/-! ## Attempts -/

/-- The attempts nested in this one, in the order in which they ended, and then itself. -/
def Attempt.endings (a : Attempt) : List Ending := (a.nested ++ [a.outcome]).map .attempt

theorem tells_settle (seen held reading : Int64) :
    Tells (g.settle seen held reading).events [.attempt (g.settle seen held reading).outcome] := by
  unfold settle
  cases g.propose seen reading with
  | commit next => rfl
  | exhausted => rfl
  | regressed now last => rfl

mutual

theorem tells_poll (register : Int64) :
    ∀ tick, Tells (g.poll register tick).events (g.poll register tick).endings
  | .mk during reading => by
    rw [poll, Attempt.endings, List.map_append]
    exact (tells_pollAll register during).append (tells_settle _ _ _)

theorem tells_pollAll (register : Int64) : ∀ ticks,
    Tells (g.pollAll register ticks).events ((g.pollAll register ticks).outcomes.map .attempt)
  | [] => rfl
  | tick :: ticks => by
    rw [pollAll, List.map_append]
    exact (tells_poll register tick).append (tells_pollAll _ ticks)

end

theorem tells_along (register : Int64) (scene : σ) (n : Nat) :
    Tells (g.along around register scene n Attempt.events)
      (g.along around register scene n Attempt.endings) :=
  .flatMap fun _ _ => tells_poll _ _

/-! ## Calls -/

/-- The attempts of a call, each after those nested in it, and then the call. -/
def Call.endings (g : Generator) (around : Surroundings σ) (c : Call σ) : List Ending :=
  g.along around c.register c.scene (c.draw.attempts - 1) Attempt.endings ++ [.call c.draw.outcome]

theorem tells_call (h : Draws g around register scene d) :
    Tells d.events (Call.endings g around ⟨register, scene, d⟩) := by
  obtain ⟨n, -, hend⟩ := draws_iff_endsWith.1 h
  have hattempts : Tells (g.along around register scene n Attempt.events)
      (g.along around register scene n Attempt.endings) := tells_along register scene n
  cases hend with
  | minted hid => simpa [Call.endings, Tells, Ending.reports] using hattempts
  | regressed herror => simpa [Call.endings, Tells, Ending.reports] using hattempts
  | cancelled hpending hyes => exact hattempts.append rfl

theorem tells_errand
    (h : Errand g around n register scene calls register' scene') :
    Tells (calls.flatMap (·.draw.events)) (calls.flatMap (·.endings g around)) :=
  .flatMap fun c hc => tells_call (h.draws c hc)

theorem tells_closing (outcome : Except Error (List Int64)) :
    Tells (closing outcome) [.drawing outcome] := by
  cases outcome <;> rfl

/-! ## Stories -/

/-- A generator in use, with what was reported and what came to its end since it was asked for. -/
structure Story (σ : Type) where
  register : Int64 := 0
  scene : σ
  events : List Event
  endings : List Ending

namespace Story

/-- The log, from the level of debugging upwards. -/
def log (s : Story σ) : List Report :=
  (s.events.filter fun e => e.level.rank ≤ Level.debug.rank).map Event.report

theorem log_eq (s : Story σ) : s.log = s.events.map Event.report := by
  rw [log, List.filter_eq_self.2]
  intro e _
  simpa using e.rank_level_le

/-- A construction on a clock that reads `now`. -/
def opened (layout : Layout) (nodeId offset now : Int64) (scene : σ) : Story σ :=
  match create layout nodeId offset now with
  | .ok (g, events) => { scene, events, endings := [.construction (.ok g)] }
  | .error cause => { scene, events := [], endings := [.construction (.error cause)] }

/-- An attempt on the next tick. -/
def attempted (s : Story σ) (g : Generator) (around : Surroundings σ) : Story σ where
  register := (g.poll s.register (around.tick s.scene).1).register
  scene := (around.tick s.scene).2
  events := s.events ++ (g.poll s.register (around.tick s.scene).1).events
  endings := s.endings ++ (g.poll s.register (around.tick s.scene).1).endings

/-- A call that has made `n + 1` attempts and is still waiting. -/
def waited (s : Story σ) (g : Generator) (around : Surroundings σ) (n : Nat) : Story σ where
  register := (g.attempt around s.register s.scene n).register
  scene := around.later (n + 1) s.scene
  events := s.events ++ g.along around s.register s.scene n Attempt.events
  endings := s.endings ++ g.along around s.register s.scene n Attempt.endings

/-- A call that returned. -/
def called (s : Story σ) (g : Generator) (around : Surroundings σ) (d : Draw σ) : Story σ where
  register := d.register
  scene := d.scene
  events := s.events ++ d.events
  endings := s.endings ++ Call.endings g around ⟨s.register, s.scene, d⟩

/-- A drawing that returned, with the calls that it made. -/
def drawn (s : Story σ) (g : Generator) (around : Surroundings σ) (calls : List (Call σ))
    (r : Generated σ) : Story σ where
  register := r.register
  scene := r.scene
  events := s.events ++ r.events
  endings := s.endings ++ (calls.flatMap (·.endings g around) ++ [.drawing r.outcome])

/-- How a generator is used. Each use has surroundings of its own, so that anyone may call off a
wait; what they share is the scene. -/
inductive Grows (g : Generator) : Story σ → Story σ → Prop where
  | attempt (s : Story σ) (around : Surroundings σ) : Grows g s (s.attempted g around)
  /-- A call that does not return, or has not yet; also one of a drawing. -/
  | waiting {s : Story σ} (around : Surroundings σ) (n : Nat)
      (h : g.Waits around s.register s.scene (n + 1)) : Grows g s (s.waited g around n)
  | call {s : Story σ} (around : Surroundings σ) (fuel : Nat) {d : Draw σ}
      (h : g.next around fuel s.register s.scene = some d) : Grows g s (s.called g around d)
  | drawing {s : Story σ} (around : Nat → Surroundings σ) (fuel : Nat) (count threads : UInt64)
      {r : Generated σ} {calls : List (Call σ)} (hsingle : threads ≤ 1)
      (h : g.generate around fuel s.register s.scene count threads = some r)
      (hcalls : Errand g (around 0) count.toNat s.register s.scene calls r.register r.scene) :
      Grows g s (s.drawn g (around 0) calls r)

/-- The stories that begin with this construction. -/
inductive Happens (layout : Layout) (nodeId offset now : Int64) (scene : σ) : Story σ → Prop where
  | opened : Happens layout nodeId offset now scene (opened layout nodeId offset now scene)
  | grown {g : Generator} {events : List Event} {s s' : Story σ}
      (hg : create layout nodeId offset now = .ok (g, events))
      (h : Happens layout nodeId offset now scene s) (hgrows : Grows g s s') :
      Happens layout nodeId offset now scene s'

end Story

theorem tells_opened (layout : Layout) (nodeId offset now : Int64) (scene : σ) :
    Tells (Story.opened layout nodeId offset now scene).events
      (Story.opened layout nodeId offset now scene).endings := by
  unfold Story.opened
  cases h : create layout nodeId offset now with
  | error cause => rfl
  | ok built =>
    obtain ⟨g, events⟩ := built
    obtain ⟨⟨rfl, rfl, rfl⟩, -, rfl⟩ := create_eq_ok_iff.1 h
    rfl

/-- **One use.** What it reports is told by what it brings to an end. -/
theorem Tells.grows {s s' : Story σ} (h : Tells s.events s.endings) (hgrows : Story.Grows g s s') :
    Tells s'.events s'.endings := by
  cases hgrows with
  | attempt => exact h.append (tells_poll _ _)
  | waiting around n hwaits => exact h.append (tells_along _ _ _)
  | call around fuel hd => exact h.append (tells_call (draws_of_next hd))
  | drawing around fuel count threads hsingle hr hcalls =>
    obtain ⟨calls', register', scene', herrand, -, rfl⟩ := (generate_eq_some_iff hsingle).1 hr
    obtain ⟨rfl, -, -⟩ := hcalls.unique herrand
    exact h.append ((tells_errand herrand).append (tells_closing _))

theorem Story.Happens.tells {layout : Layout} {nodeId offset now : Int64} {s : Story σ}
    (h : Happens layout nodeId offset now scene s) : Tells s.events s.endings := by
  induction h with
  | opened => exact tells_opened layout nodeId offset now scene
  | grown hg h hgrows ih => exact ih.grows hgrows

/-- **The log.** In every story of a generator, also of one that is refused, the log is what its
endings have to report, in their order and nothing else: a construction that succeeds, an attempt on
a clock that went backwards with the two times, a call that was called off, and a drawing that
succeeds with the number of its ids. Stories leave out no drawing that returns, as no attempt and
no call: what a single worker does is the calls that it makes. -/
theorem log_tells_endings (layout : Layout) (nodeId offset now : Int64) {σ : Type} (scene : σ) :
    (∀ s, Story.Happens layout nodeId offset now scene s →
      s.log = s.endings.flatMap Ending.reports) ∧
    ∀ (g : Generator) (s : Story σ) (around : Nat → Surroundings σ) (fuel : Nat)
      (count threads : UInt64) (r : Generated σ), threads ≤ 1 →
      g.generate around fuel s.register s.scene count threads = some r →
        ∃ s', Story.Grows g s s' ∧ s'.register = r.register ∧ s'.scene = r.scene ∧
          s'.events = s.events ++ r.events ∧ s'.endings.getLast? = some (.drawing r.outcome) := by
  constructor
  · intro s hs
    rw [s.log_eq]
    exact hs.tells
  · intro g s around fuel count threads r hsingle hr
    obtain ⟨calls, register', scene', herrand, -, rfl⟩ := (generate_eq_some_iff hsingle).1 hr
    exact ⟨_, .drawing around fuel count threads hsingle hr herrand, rfl, rfl, rfl,
      by simp [Story.drawn]⟩

/-- A clock on which an attempt loses to one that is made while it reads, a wait lasts until the
next millisecond, another is called off, and time goes backwards twice. -/
def eventful : Surroundings (Nat × Nat) where
  tick s := (match s.1 with
    | 0 => .mk [.plain 1005, .plain 1003] 1006
    | 1 | 2 => .plain 1005
    | 3 | 4 | 5 => .plain 1006
    | 6 => .plain 1007
    | _ => .plain 1002, (s.1 + 1, s.2))
  cancelled s := (s.2 == 1, (s.1, s.2 + 1))

/-- The calls of a drawing on this clock, the second of them with a wait. -/
def eventfulCalls : List (Call (Nat × Nat)) :=
  [⟨20, (1, 0), ⟨21, .ok 23, (2, 0), 1, 0, [], []⟩⟩,
    ⟨21, (2, 0), ⟨24, .ok 26, (4, 1), 2, 1, [], []⟩⟩]

theorem errand_eventfulCalls : Errand paired eventful 2 20 (1, 0) eventfulCalls 24 (4, 1) :=
  .drew (.minted rfl rfl) rfl (.drew (.retried rfl rfl rfl (.minted rfl rfl)) rfl (.done 24 (4, 1)))

theorem collected_eventfulCalls : collected eventfulCalls = .ok [23, 26] :=
  congrArg Except.ok (Pool.mergeSort_eq_of_perm (.refl _) (by decide))

/-- An attempt, a drawing that succeeds, a call that has an id, one that is called off, and a
drawing that fails. A construction before the offset reports nothing. -/
theorem eventful_log :
    (∃ s, Story.Happens paired.layout 1 1000 1000 (0, 0) s ∧ s.scene = (8, 2) ∧
      s.log =
        [⟨.debug, "created snowflake generator", [("node_id", 1), ("timestamp_offset_ms", 1000),
          ("node_id_bits", 1), ("sequence_bits", 1)]⟩,
        ⟨.warn, "clock has gone backwards", [("now_ms", 3), ("last_ms", 5)]⟩,
        ⟨.debug, "generated ids", [("count", 2), ("threads", 1)]⟩,
        ⟨.debug, "id generation cancelled while spin-waiting", []⟩,
        ⟨.warn, "clock has gone backwards", [("now_ms", 2), ("last_ms", 7)]⟩]) ∧
    ∃ s, Story.Happens paired.layout 1 1000 999 (0, 0) s ∧ s.log = [] := by
  refine ⟨?_, _, .opened, (log_tells_endings paired.layout 1 1000 999 (0, 0)).1 _ .opened⟩
  have hcreated : create paired.layout 1 1000 1000 =
      .ok (paired, [.created paired.layout 1 1000]) := rfl
  have hopened : Story.Happens paired.layout 1 1000 1000 (0, 0) _ := .opened
  have hattempt := hopened.grown hcreated (.attempt _ eventful)
  have hdrawn := hattempt.grown hcreated (.drawing (fun _ => eventful) 4 2 1 (by decide)
    ((generate_eq_some_iff (by decide)).2 ⟨_, _, _, errand_eventfulCalls, by decide, rfl⟩)
    errand_eventfulCalls)
  have hcalled := hdrawn.grown hcreated (.call eventful 1 rfl)
  have hcancelled := hcalled.grown hcreated (.call eventful 1 rfl)
  have herrand : Errand paired eventful 2 25 (6, 2) _ _ _ :=
    .drew (.minted rfl rfl) rfl (.failed (.failed rfl rfl) rfl)
  have hfailed := hcancelled.grown hcreated (.drawing (fun _ => eventful) 2 2 0 (by decide)
    ((generate_eq_some_iff (by decide)).2 ⟨_, _, _, herrand, by decide, rfl⟩) herrand)
  refine ⟨_, hfailed, rfl, ?_⟩
  rw [(log_tells_endings paired.layout 1 1000 1000 (0, 0)).1 _ hfailed]
  simp only [Story.called, Story.drawn, Generated.ofCalls, collected_eventfulCalls]
  decide +kernel

end Generator

end Snowflake
