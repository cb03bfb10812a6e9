import Snowflake.Proofs.Attempt
import Mathlib.Logic.Function.Basic
import Mathlib.Data.List.Basic

/-!
# Records of attempts

The history of a run says who ended an attempt and how. What happened when is lost, and so is
the reading an attempt took. A `Recording` keeps both beside the run: it holds the schedule so
far, a note for each caller about the attempt that is under way, and a record of each ended one.
Moments in time are positions in the schedule.

Nothing that happens depends on a recording (`run_shared`), so the records of a run
(`Generator.records`) are facts about the run itself. They agree with its history
(`history_eq_records`) and with its schedule (`Record.Faithful`): the accesses of an attempt stand
where its record says, with the reading that the record names.
-/

namespace Snowflake.Generator

variable {g : Generator} {phase : Phase} {access : Access} {a : Advance}

/-! ## Notes and records -/

/-- When an attempt made its accesses, and the reading it took. -/
structure Note where
  loadedAt : Nat := 0
  readAt : Nat := 0
  reading : Int64 := 0
deriving DecidableEq

/-- The note after an access at this time. -/
def Note.after (n : Note) (time : Nat) : Access → Note
  | .load => { n with loadedAt := time }
  | .read reading => { n with readAt := time, reading }
  | .exchange => n

/-- An attempt that has ended. -/
structure Record extends Note where
  caller : Nat
  /-- When it made its last access. -/
  endedAt : Nat
  outcome : Outcome
deriving DecidableEq

namespace Record

/-- The entry of the history. -/
def ended (r : Record) : Ended := ⟨r.caller, r.outcome⟩

/-- The id, if one was committed. -/
def id? (r : Record) : Option Int64 := r.outcome.toOption.bind Status.id?

end Record

/-- Records that ascend in a number are those below a bound, and then those from it on. -/
theorem filter_lt_append_filter_le {key : Record → Nat} {records : List Record}
    (h : records.Pairwise fun r r' => key r < key r') (bound : Nat) :
    records.filter (key · < bound) ++ records.filter (bound ≤ key ·) = records := by
  induction records with
  | nil => rfl
  | cons r rest ih =>
    obtain ⟨hr, hrest⟩ := List.pairwise_cons.1 h
    have hih := ih hrest
    by_cases hlt : key r < bound
    · simpa [hlt, Nat.not_le.2 hlt] using hih
    · have hnone : rest.filter (key · < bound) = [] :=
        List.filter_eq_nil_iff.2 fun r' hr' => by have := hr r' hr'; simp; omega
      have hall : rest.filter (bound ≤ key ·) = rest := by simpa [hnone] using hih
      simp [hlt, Nat.not_lt.1 hlt, hall] at hnone ⊢
      exact fun r' hr' => by have := hr r' hr'; omega

/-- A run so far, with what happened when. -/
structure Recording where
  shared : Shared
  schedule : List (Nat × Access) := []
  /-- The note of each caller about its latest attempt. -/
  notes : Nat → Note := fun _ => {}
  records : List Record := []

namespace Recording

def fresh (callers : Nat) : Recording := { shared := .fresh callers }

variable (w : Recording)

/-- The recording after an access of caller `i` that led to `a`. -/
def after (i : Nat) (access : Access) (a : Advance) : Recording :=
  let note := (w.notes i).after w.schedule.length access
  { shared :=
      { register := a.register
        phases := w.shared.phases.set i a.phase
        history := w.shared.history ++ (a.ended.map fun outcome => ⟨i, outcome⟩).toList
        events := w.shared.events ++ a.events }
    schedule := w.schedule ++ [(i, access)]
    notes := Function.update w.notes i note
    records := w.records ++
      (a.ended.map fun outcome =>
        { note with caller := i, endedAt := w.schedule.length, outcome }).toList }

@[simp] theorem after_schedule (i : Nat) (access : Access) (a : Advance) :
    (w.after i access a).schedule = w.schedule ++ [(i, access)] := rfl

@[simp] theorem after_register (i : Nat) (access : Access) (a : Advance) :
    (w.after i access a).shared.register = a.register := rfl

/-- One access of one caller. -/
def step? (g : Generator) (w : Recording) (move : Nat × Access) : Option Recording :=
  (w.shared.phases[move.1]?).bind fun phase =>
    (g.advance? w.shared.register phase move.2).map (w.after move.1 move.2)

/-- The accesses of a schedule, one after the other. -/
def run (g : Generator) (w : Recording) : List (Nat × Access) → Option Recording
  | [] => some w
  | move :: moves => (w.step? g move).bind fun w => w.run g moves

theorem step?_shared (move : Nat × Access) :
    (w.step? g move).map shared = w.shared.step? g move := by
  simp only [step?, Shared.step?]
  cases w.shared.phases[move.1]? with
  | none => rfl
  | some phase =>
    rw [Option.bind_some, Option.map_map]
    rfl

theorem run_shared (moves : List (Nat × Access)) :
    (w.run g moves).map shared = w.shared.run g moves := by
  induction moves generalizing w with
  | nil => rfl
  | cons move moves ih =>
    rw [run, Shared.run, ← step?_shared]
    cases w.step? g move with
    | none => rfl
    | some w' => exact ih w'

end Recording

/-- The reading that an access takes of the clock. -/
def Access.reading? : Access → Option Int64
  | .read reading => some reading
  | _ => none

/-- The readings of a schedule, in the order in which they are taken. -/
def readings (moves : List (Nat × Access)) : List Int64 := moves.filterMap (·.2.reading?)

/-- The records of a run of so many callers. -/
def records (g : Generator) (callers : Nat) (moves : List (Nat × Access)) : List Record :=
  ((Recording.fresh callers).run g moves).elim [] (·.records)

namespace Recording

variable {w w' : Recording} {moves : List (Nat × Access)}

theorem exists_of_run {callers : Nat} {s : Shared}
    (h : (Shared.fresh callers).run g moves = some s) :
    ∃ w, (fresh callers).run g moves = some w ∧ w.shared = s ∧
      g.records callers moves = w.records := by
  rw [show Shared.fresh callers = (fresh callers).shared from rfl, ← run_shared,
    Option.map_eq_some_iff] at h
  obtain ⟨w, hw, hs⟩ := h
  exact ⟨w, hw, hs, by rw [Generator.records, hw]; rfl⟩

theorem step?_cases {i : Nat} (h : w.step? g (i, access) = some w') :
    ∃ phase a, w.shared.phases[i]? = some phase ∧
      Advances g w.shared.register phase access a ∧ w' = w.after i access a := by
  obtain ⟨phase, hphase, h⟩ := Option.bind_eq_some_iff.1 h
  obtain ⟨a, ha, rfl⟩ := Option.map_eq_some_iff.1 h
  exact ⟨phase, a, hphase, advances_of_advance? ha, rfl⟩

theorem eq_idle_of_fresh {callers i : Nat} (h : (fresh callers).shared.phases[i]? = some phase) :
    phase = .idle :=
  List.eq_of_mem_replicate (List.mem_of_getElem? h)

/-- What every access of a schedule keeps, its whole run keeps. -/
theorem run_induction {P : Recording → Prop}
    (step : ∀ w i phase access a, P w → w.shared.phases[i]? = some phase →
      Advances g w.shared.register phase access a → P (w.after i access a))
    (hw : P w) (h : w.run g moves = some w') : P w' := by
  induction moves generalizing w with
  | nil => exact Option.some.inj h ▸ hw
  | cons move moves ih =>
    obtain ⟨w₁, h₁, h⟩ := Option.bind_eq_some_iff.1 h
    obtain ⟨phase, a, hphase, ha, rfl⟩ := step?_cases h₁
    exact ih (step w _ phase _ a hw hphase ha) h

/-- An access leaves the other callers as they are, so what holds of each of them holds still of
all callers if it holds of the one that moved. -/
theorem forall_callers_after {P : Nat → Note → Phase → Prop} {i : Nat}
    (hold : ∀ j p, j ≠ i → w.shared.phases[j]? = some p → P j (w.notes j) p)
    (hnew : P i ((w.notes i).after w.schedule.length access) a.phase) :
    ∀ j p, (w.after i access a).shared.phases[j]? = some p →
      P j ((w.after i access a).notes j) p := by
  intro j p hj
  by_cases hji : j = i
  · subst hji
    simp only [after, List.getElem?_set_self'] at hj
    obtain ⟨_, _, rfl⟩ := Option.map_eq_some_iff.1 hj
    simpa only [after, Function.update_self, Function.const_apply] using hnew
  · simp only [after, List.getElem?_set_ne (Ne.symm hji)] at hj
    simpa only [after, Function.update_of_ne hji] using hold j p hji hj

end Recording

/-! ## What notes and records say -/

variable {schedule schedule' : List (Nat × Access)}

theorem getElem?_append_some {k : Nat} {move : Nat × Access} (h : schedule[k]? = some move) :
    (schedule ++ schedule')[k]? = some move := by
  obtain ⟨hk, -⟩ := List.getElem?_eq_some_iff.1 h
  rw [List.getElem?_append_left hk, h]

/-- The accesses of caller `i` up to its phase stand where its note says. -/
def Note.Faithful (n : Note) (schedule : List (Nat × Access)) (i : Nat) : Phase → Prop
  | .idle => True
  | .loaded _ => schedule[n.loadedAt]? = some (i, .load)
  | .proposing .. => schedule[n.loadedAt]? = some (i, .load) ∧
      schedule[n.readAt]? = some (i, .read n.reading) ∧ n.loadedAt < n.readAt

theorem Note.Faithful.mono {n : Note} {i : Nat} (h : n.Faithful schedule i phase) :
    n.Faithful (schedule ++ schedule') i phase := by
  cases phase with
  | idle => trivial
  | loaded seen =>
    show (schedule ++ schedule')[n.loadedAt]? = some (i, .load)
    exact getElem?_append_some h
  | proposing seen next =>
    exact ⟨getElem?_append_some h.1, getElem?_append_some h.2.1, h.2.2⟩

/-- The accesses of an ended attempt stand where its record says. -/
structure Record.Faithful (r : Record) (schedule : List (Nat × Access)) : Prop where
  loaded : schedule[r.loadedAt]? = some (r.caller, .load)
  read : schedule[r.readAt]? = some (r.caller, .read r.reading)
  loaded_lt : r.loadedAt < r.readAt
  read_le : r.readAt ≤ r.endedAt
  ended_lt : r.endedAt < schedule.length
  exchanged : r.readAt < r.endedAt → schedule[r.endedAt]? = some (r.caller, .exchange)
  /-- Only an exchange can give an id. -/
  read_lt : r.id?.isSome → r.readAt < r.endedAt

theorem Record.Faithful.mono {r : Record} (h : r.Faithful schedule) :
    r.Faithful (schedule ++ schedule') where
  loaded := getElem?_append_some h.loaded
  read := getElem?_append_some h.read
  loaded_lt := h.loaded_lt
  read_le := h.read_le
  ended_lt := by have := h.ended_lt; rw [List.length_append]; omega
  exchanged hlt := getElem?_append_some (h.exchanged hlt)
  read_lt := h.read_lt

namespace Recording

variable {w w' : Recording} {moves : List (Nat × Access)}

/-- Notes and records agree with the schedule, and the records with the history. -/
structure Timed (w : Recording) : Prop where
  notes : ∀ i p, w.shared.phases[i]? = some p → (w.notes i).Faithful w.schedule i p
  records : ∀ r ∈ w.records, r.Faithful w.schedule
  /-- The records stand in the order in which the attempts ended. -/
  sorted : w.records.Pairwise (·.endedAt < ·.endedAt)
  history : w.shared.history = w.records.map Record.ended

theorem timed_fresh (callers : Nat) : (fresh callers).Timed where
  notes i p hp := by
    rw [eq_idle_of_fresh hp]
    trivial
  records := nofun
  sorted := .nil
  history := rfl

/-- A faithful record may be added at the end of the schedule. -/
theorem Timed.after_ended {i : Nat} (h : w.Timed)
    (hnote : ((w.notes i).after w.schedule.length access).Faithful
      (w.schedule ++ [(i, access)]) i a.phase)
    (hrecord : ∀ outcome ∈ a.ended, Record.Faithful
      { (w.notes i).after w.schedule.length access with
        caller := i, endedAt := w.schedule.length, outcome } (w.schedule ++ [(i, access)])) :
    (w.after i access a).Timed where
  notes := forall_callers_after (P := fun j n p => n.Faithful (w.schedule ++ [(i, access)]) j p)
    (fun j p _ hj => (h.notes j p hj).mono) hnote
  records r hr := by
    rcases List.mem_append.1 hr with hr | hr
    · exact (h.records r hr).mono
    · obtain ⟨outcome, hout, rfl⟩ := Option.map_eq_some_iff.1 (Option.mem_toList.1 hr)
      exact hrecord outcome hout
  sorted := by
    refine List.pairwise_append.2 ⟨h.sorted, ?_, fun r hr r' hr' => ?_⟩
    · cases a.ended <;> simp
    · obtain ⟨outcome, -, rfl⟩ := Option.map_eq_some_iff.1 (Option.mem_toList.1 hr')
      exact (h.records r hr).ended_lt
  history := by
    show w.shared.history ++ _ = (w.records ++ _).map Record.ended
    rw [List.map_append, h.history]
    cases a.ended <;> rfl

theorem Timed.after {i : Nat} (h : w.Timed) (hphase : w.shared.phases[i]? = some phase)
    (ha : Advances g w.shared.register phase access a) : (w.after i access a).Timed := by
  have hnow : (w.schedule ++ [(i, access)])[w.schedule.length]? = some (i, access) := by simp
  have hnote := h.notes i phase hphase
  cases ha with
  | load => exact h.after_ended hnow nofun
  | propose hp =>
    obtain ⟨hk, -⟩ := List.getElem?_eq_some_iff.1 hnote
    exact h.after_ended ⟨getElem?_append_some hnote, hnow, hk⟩ nofun
  | refuse hp =>
    obtain ⟨hk, -⟩ := List.getElem?_eq_some_iff.1 hnote
    have hnone := settle_refuse_id? hp
    refine h.after_ended trivial fun outcome hout => {
      loaded := getElem?_append_some hnote
      read := hnow
      loaded_lt := hk
      read_le := Nat.le_refl _
      ended_lt := by simp
      exchanged := fun hlt => absurd hlt (Nat.lt_irrefl _)
      read_lt := fun hid => ?_ }
    obtain rfl := Option.some.inj hout
    rw [Record.id?, hnone] at hid
    cases hid
  | win | lose =>
    obtain ⟨hk, -⟩ := List.getElem?_eq_some_iff.1 hnote.2.1
    exact h.after_ended trivial fun outcome _ => {
      loaded := getElem?_append_some hnote.1
      read := getElem?_append_some hnote.2.1
      loaded_lt := hnote.2.2
      read_le := Nat.le_of_lt hk
      ended_lt := by simp
      exchanged := fun _ => hnow
      read_lt := fun _ => hk }

theorem timed_run {callers : Nat} (h : (fresh callers).run g moves = some w) : w.Timed :=
  run_induction (fun _ _ _ _ _ h hphase ha => h.after hphase ha) (timed_fresh callers) h

/-- The schedule of a whole run is the one it followed. -/
theorem schedule_run (h : w.run g moves = some w') : w'.schedule = w.schedule ++ moves := by
  induction moves generalizing w with
  | nil => rw [List.append_nil, ← Option.some.inj h]
  | cons move moves ih =>
    obtain ⟨w₁, h₁, h⟩ := Option.bind_eq_some_iff.1 h
    obtain ⟨phase, a, -, -, rfl⟩ := step?_cases h₁
    rw [ih h, after_schedule, List.append_assoc]
    rfl

/-- The records of a run agree with its schedule. -/
theorem faithful_run {callers : Nat} (h : (fresh callers).run g moves = some w) :
    ∀ r ∈ w.records, r.Faithful moves := by
  have hschedule : w.schedule = moves := schedule_run h
  rw [← hschedule]
  exact (timed_run h).records

end Recording

/-! ## Two runs -/

/-- Two callers whose attempts overlap: the first loses an exchange, and later the second is
refused on a word that has been replaced. -/
def race : List (Nat × Access) :=
  [(0, .load), (1, .load), (0, .read 1003), (1, .read 1005), (1, .exchange), (0, .exchange),
    (0, .load), (0, .read 1005), (1, .load), (0, .exchange), (1, .read 1004),
    (1, .load), (0, .load), (0, .read 1009), (0, .exchange), (1, .read 1005)]

example : (paired.records 2 race).map (fun r => (r.endedAt, r.outcome)) =
    [(4, .ok (.ready 22)), (5, .ok (.pending 0)), (9, .ok (.ready 23)),
      (10, .error (.clockRegressed 4 5)), (14, .ok (.ready 38)), (15, .ok (.pending 1))] := by
  decide +kernel

/-- Two callers on a clock that leaps past all that a register keeps; one loses two exchanges. -/
def surge : List (Nat × Access) :=
  [(0, .load), (1, .load), (0, .read 1003), (0, .exchange), (1, .read 9223372036854774807),
    (1, .exchange), (0, .load), (1, .load), (0, .read 9223372036854774807), (0, .exchange),
    (1, .read 9223372036854775807), (1, .exchange), (1, .load), (1, .read 9223372036854775807),
    (1, .exchange)]

end Snowflake.Generator
