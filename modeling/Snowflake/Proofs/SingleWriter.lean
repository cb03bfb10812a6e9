import Snowflake.Proofs.Additions
import Mathlib.Order.Monotone.Defs

/-!
# Plain additions of a single writer

A plain addition is a load and, at some later time, a store. Updates are lost where two callers make
them at once; where one caller makes all of them and the others only read, or try exchanges that
fail, none is.

**The word that is held.** Between its load and its store nobody but the writer could change the
register, so the word that the writer holds is still in the register when it stores (`Tracks`). This
is where the others' exchanges have to fail. Why they do makes no difference: another word is found,
or a weak exchange is refused.

**Prefixes.** What the register holds at any time is described by the number of additions that are
completed, and not by the word itself, which can come back when sums wrap around. An observer sees
the word after as many additions as were completed before it, and this number never falls.

**Theorem (`plain_additions_exact`).** The replies to the completed additions, and the word in the
register, are those of as many atomic additions of the same deltas, made with nobody else around
(`atomically`). Every observer sees the word after some of these, later ones after no fewer.
-/

namespace Snowflake.Register

variable {initial value : Int64} {call : Call} {delta : Int64}

namespace Call

/-- What a plain addition adds. -/
def plainDelta? : Call → Option Int64
  | getAndAdd .plain delta | addAndGet .plain delta => some delta
  | _ => none

/-- The atomic addition of the same delta, with the same kind of reply. -/
def atomic : Call → Call
  | getAndAdd _ delta => getAndAdd .coherent delta
  | addAndGet _ delta => addAndGet .coherent delta
  | call => call

/-- A call that changes the register only if it is an exchange that succeeds. -/
def isObserver : Call → Bool
  | get _ | compareAndExchange .. | compareAndSet .. => true
  | _ => false

theorem plainDelta?_eq_some_iff :
    call.plainDelta? = some delta ↔
      call = getAndAdd .plain delta ∨ call = addAndGet .plain delta := by
  unfold plainDelta?
  split <;> simp_all

theorem access_fresh_of_plain (h : call.plainDelta? = some delta) (value : Int64) :
    call.access .fresh value = (value, .holds value) := by
  rcases plainDelta?_eq_some_iff.1 h with rfl | rfl <;> rfl

theorem access_holding_of_plain (h : call.plainDelta? = some delta) (seen value : Int64) :
    call.access (.holding seen) value =
      (seen + delta, .completes (call.answer seen (seen + delta))) := by
  rcases plainDelta?_eq_some_iff.1 h with rfl | rfl <;> rfl

theorem delta?_atomic (h : call.plainDelta? = some delta) : call.atomic.delta? = some delta := by
  rcases plainDelta?_eq_some_iff.1 h with rfl | rfl <;> rfl

theorem access_atomic (h : call.plainDelta? = some delta) (stage : Stage) (value : Int64) :
    call.atomic.access stage value =
      (value + delta, .completes (call.answer value (value + delta))) := by
  rcases plainDelta?_eq_some_iff.1 h with rfl | rfl <;> rfl

end Call

/-! ## Observers -/

/-- What a call replies that finds the register at a word and leaves it alone. -/
inductive Observes (value : Int64) : Call → Reply → Prop where
  | read (tier : Tier) : Observes value (.get tier) (.word value)
  | witness (tier : Tier) {expected new : Int64} (h : value ≠ expected) :
      Observes value (.compareAndExchange tier expected new) (.word value)
  | failure (tier : Tier) (expected new : Int64) :
      Observes value (.compareAndSet tier expected new) (.flag false)

/-- The call is no exchange that took effect. -/
def Completed.fails (c : Completed) : Bool :=
  match c.call with
  | .compareAndExchange _ expected _ => c.reply != .word expected
  | .compareAndSet .. => c.reply == .flag false
  | _ => true

/-- A call that observes completes in one access, and leaves the register alone if it fails. -/
theorem access_of_observer {i : Nat} (hcall : call.isObserver) (stage : Stage) (value : Int64) :
    ∃ after reply, call.access stage value = (after, .completes reply) ∧
      ((⟨i, call, value, after, reply⟩ : Completed).fails →
        after = value ∧ Observes value call reply) := by
  cases call with
  | get tier => exact ⟨_, _, rfl, fun _ => ⟨rfl, .read tier⟩⟩
  | compareAndExchange tier expected new =>
    refine ⟨_, _, rfl, fun hfails => ?_⟩
    have hne : value ≠ expected := by simpa [Completed.fails, Call.run] using hfails
    exact ⟨if_neg hne, .witness tier hne⟩
  | compareAndSet tier expected new =>
    refine ⟨_, _, rfl, fun hfails => ?_⟩
    have hreply : ((Call.compareAndSet tier expected new).run value).2 = .flag false :=
      beq_iff_eq.1 hfails
    have hne : value ≠ expected := by simpa [Call.run] using hreply
    exact ⟨if_neg hne, hreply.symm ▸ .failure tier expected new⟩
  | set | getAndSet | getAndAdd | addAndGet | addByExchange => cases hcall

namespace Shared

variable {plan : List (List Call)} {additions : List Call} {w k : Nat} {s s' : Shared}

/-! ## The atomic additions -/

/-- The first `k` of these additions, made atomically with nobody else around. -/
def atomically (initial : Int64) (additions : List Call) (k : Nat) : Shared :=
  (ofCalls initial [additions.map Call.atomic]).run (List.replicate k 0)

theorem atomically_succ_eq_step (initial : Int64) (additions : List Call) (k : Nat) :
    atomically initial additions (k + 1) = (atomically initial additions k).step 0 := by
  rw [atomically, List.replicate_succ', run, List.foldl_append]
  rfl

theorem callers_atomically (h : ∀ call ∈ additions, call.plainDelta?.isSome) (initial : Int64)
    (k : Nat) :
    (atomically initial additions k).callers =
      [{ calls := (additions.drop k).map Call.atomic }] := by
  induction k with
  | zero => rfl
  | succ k ih =>
    rw [atomically_succ_eq_step, step, ih]
    cases hk : additions.drop k with
    | nil =>
      have hlength := List.drop_eq_nil_iff.1 hk
      rw [List.drop_eq_nil_of_le (by omega)]
      exact ih.trans (by rw [hk])
    | cons call others =>
      have hmem : call ∈ additions := List.mem_of_mem_drop (hk ▸ List.mem_cons_self)
      obtain ⟨delta, hdelta⟩ := Option.isSome_iff_exists.1 (h call hmem)
      have hothers : additions.drop (k + 1) = others := by
        rw [← List.drop_drop, hk, List.drop_one, List.tail_cons]
      simp [Call.access_atomic hdelta, hothers]

/-- **One more.** The next addition finds what those before it left. -/
theorem atomically_succ (h : ∀ call ∈ additions, call.plainDelta?.isSome) (initial : Int64)
    (hk : additions[k]? = some call) (hcall : call.plainDelta? = some delta) :
    let t := atomically initial additions k
    (atomically initial additions (k + 1)).value = t.value + delta ∧
    (atomically initial additions (k + 1)).history = t.history ++
      [⟨0, call.atomic, t.value, t.value + delta, call.answer t.value (t.value + delta)⟩] := by
  have hdrop : additions.drop k = call :: additions.drop (k + 1) := by
    obtain ⟨hlt, rfl⟩ := List.getElem?_eq_some_iff.1 hk
    exact List.drop_eq_getElem_cons hlt
  intro t
  have hcallers := callers_atomically h initial k
  rw [hdrop, List.map_cons] at hcallers
  rw [atomically_succ_eq_step, step, hcallers]
  simp [Call.access_atomic hcall, t]

/-! ## One turn -/

/-- Caller `w` makes plain additions only, and all others observe. -/
structure OneWriter (w : Nat) (s : Shared) : Prop where
  writer : ∀ caller, s.callers[w]? = some caller →
    ∀ call ∈ caller.calls, call.plainDelta?.isSome
  others : ∀ (i : Nat) caller, s.callers[i]? = some caller → i ≠ w →
    ∀ call ∈ caller.calls, call.isObserver

/-- Every exchange of another caller than `w` has failed. -/
def OthersFail (w : Nat) (s : Shared) : Prop := ∀ c ∈ s.history, c.caller ≠ w → c.fails

instance (w : Nat) (s : Shared) : Decidable (s.OthersFail w) :=
  inferInstanceAs (Decidable (∀ c ∈ s.history, c.caller ≠ w → c.fails))

/-- What one turn leads to while one caller writes. -/
inductive Goes (w : Nat) (s : Shared) : Shared → Prop where
  | rest : Goes w s s
  | load {call : Call} {others : List Call} (h : s.callers[w]? = some ⟨call :: others, .fresh⟩) :
      Goes w s { s with callers := s.callers.set w ⟨call :: others, .holding s.value⟩ }
  | store {call : Call} {others : List Call} {seen delta : Int64}
      (h : s.callers[w]? = some ⟨call :: others, .holding seen⟩)
      (hcall : call.plainDelta? = some delta) :
      Goes w s
        { value := seen + delta
          callers := s.callers.set w ⟨others, .fresh⟩
          history := s.history ++
            [⟨w, call, s.value, seen + delta, call.answer seen (seen + delta)⟩] }
  | observe {i : Nat} {call : Call} {others : List Call} {stage : Stage} {reply : Reply}
      (hi : i ≠ w) (h : s.callers[i]? = some ⟨call :: others, stage⟩)
      (hobserves : Observes s.value call reply) :
      Goes w s
        { s with
          callers := s.callers.set i ⟨others, .fresh⟩
          history := s.history ++ [⟨i, call, s.value, s.value, reply⟩] }

theorem goes_step (h : s.OneWriter w) (i : Nat) (hfail : (s.step i).OthersFail w) :
    Goes w s (s.step i) := by
  cases hi : s.callers[i]? with
  | none =>
    rw [show s.step i = s by simp [step, hi]]
    exact .rest
  | some caller =>
    obtain ⟨calls, stage⟩ := caller
    cases calls with
    | nil =>
      rw [show s.step i = s by simp [step, hi]]
      exact .rest
    | cons call others =>
      by_cases hiw : i = w
      · subst hiw
        obtain ⟨delta, hdelta⟩ :=
          Option.isSome_iff_exists.1 (h.writer _ hi call List.mem_cons_self)
        cases stage with
        | fresh =>
          have hload := Goes.load hi
          simpa only [step, hi, Call.access_fresh_of_plain hdelta] using hload
        | holding seen =>
          have hstore := Goes.store hi hdelta
          simpa only [step, hi, Call.access_holding_of_plain hdelta] using hstore
      · obtain ⟨after, reply, haccess, hobserves⟩ :=
          access_of_observer (i := i) (h.others i _ hi hiw call List.mem_cons_self) stage s.value
        simp only [step, hi, haccess] at hfail ⊢
        obtain ⟨rfl, hreply⟩ := hobserves
          (hfail _ (List.mem_append_right _ List.mem_cons_self) hiw)
        exact .observe hiw hi hreply

theorem goes_refuse (h : s.OneWriter w) (i : Nat) : Goes w s (s.refuse i) := by
  unfold refuse
  split
  next tier expected new others stage hi =>
    have hiw : i ≠ w := by
      rintro rfl
      exact absurd (h.writer _ hi _ List.mem_cons_self) (by simp [Call.plainDelta?])
    exact .observe hiw hi (.failure tier expected new)
  next => exact .rest

theorem goes_turn (h : s.OneWriter w) (t : Turn) (hfail : (s.turn t).OthersFail w) :
    Goes w s (s.turn t) := by
  cases t with
  | access i => exact goes_step h i hfail
  | refusal i => exact goes_refuse h i

theorem OneWriter.set (h : s.OneWriter w) {i : Nat} {caller caller' : Caller}
    (hi : s.callers[i]? = some caller) (hcalls : ∀ call ∈ caller'.calls, call ∈ caller.calls)
    (value : Int64) (history : List Completed) :
    OneWriter w { value, callers := s.callers.set i caller', history } := by
  have hset : ∀ (j : Nat) (c : Caller), (s.callers.set i caller')[j]? = some c →
      ∃ c', s.callers[j]? = some c' ∧ ∀ call ∈ c.calls, call ∈ c'.calls := by
    intro j c hj
    by_cases hij : i = j
    · subst hij
      obtain ⟨hlt, -⟩ := List.getElem?_eq_some_iff.1 hi
      rw [List.getElem?_set_self hlt] at hj
      obtain rfl := Option.some.inj hj
      exact ⟨caller, hi, hcalls⟩
    · rw [List.getElem?_set_ne hij] at hj
      exact ⟨c, hj, fun call hcall => hcall⟩
  constructor
  · intro c hc call hcall
    obtain ⟨c', hc', hsub⟩ := hset w c hc
    exact h.writer c' hc' call (hsub call hcall)
  · intro j c hc hj call hcall
    obtain ⟨c', hc', hsub⟩ := hset j c hc
    exact h.others j c' hc' hj call (hsub call hcall)

theorem Goes.oneWriter (hgoes : Goes w s s') (h : s.OneWriter w) : s'.OneWriter w := by
  cases hgoes with
  | rest => exact h
  | load hw =>
    refine h.set hw ?_ _ _
    exact fun call hcall => hcall
  | store hw | observe _ hw =>
    refine h.set hw ?_ _ _
    exact fun call hcall => List.mem_cons_of_mem _ hcall

/-- The additions that the writer completed within this history. -/
def additionsIn (w : Nat) (history : List Completed) : Nat := history.countP (·.caller = w)

/-- What the calls of caller `i` in this history replied. -/
def repliesOf (i : Nat) (history : List Completed) : List Reply :=
  (history.filter (·.caller = i)).map Completed.reply

/-- Every call of another caller than `w` finds the word after the additions completed before it. -/
def Observed (initial : Int64) (additions : List Call) (w : Nat) (history : List Completed) :
    Prop :=
  ∀ (p : Nat) c, history[p]? = some c → c.caller ≠ w →
    Observes (atomically initial additions (additionsIn w (history.take p))).value c.call c.reply

/-- Where the writer stands that has completed the first `k` of its additions, and what everybody
was told. -/
structure Tracks (initial : Int64) (additions : List Call) (w : Nat) (s : Shared) : Prop where
  oneWriter : s.OneWriter w
  /-- A word that the writer holds is the one in the register. -/
  writer : ∃ stage, (stage = .fresh ∨ stage = .holding s.value) ∧
    s.callers[w]? = some ⟨additions.drop (additionsIn w s.history), stage⟩
  value : s.value = (atomically initial additions (additionsIn w s.history)).value
  completed : callsOf w s.history = additions.take (additionsIn w s.history)
  replies : repliesOf w s.history =
    (atomically initial additions (additionsIn w s.history)).history.map Completed.reply
  observed : Observed initial additions w s.history

@[simp] theorem additionsIn_append (w : Nat) (history : List Completed) (c : Completed) :
    additionsIn w (history ++ [c]) = additionsIn w history + if c.caller = w then 1 else 0 := by
  simp [additionsIn, List.countP_append, List.countP_cons]

@[simp] theorem callsOf_append (i : Nat) (history : List Completed) (c : Completed) :
    callsOf i (history ++ [c]) = callsOf i history ++ if c.caller = i then [c.call] else [] := by
  by_cases hi : c.caller = i <;> simp [callsOf, List.filter_append, hi]

@[simp] theorem repliesOf_append (i : Nat) (history : List Completed) (c : Completed) :
    repliesOf i (history ++ [c]) =
      repliesOf i history ++ if c.caller = i then [c.reply] else [] := by
  by_cases hi : c.caller = i <;> simp [repliesOf, List.filter_append, hi]

/-- What was observed before stays as it was; the call that is completed last is looked at alone. -/
theorem Observed.append {history : List Completed} {last : Completed}
    (h : Observed initial additions w history)
    (hlast : last.caller ≠ w → Observes
      (atomically initial additions (additionsIn w history)).value last.call last.reply) :
    Observed initial additions w (history ++ [last]) := by
  intro p c hp hc
  rcases getElem?_concat_eq_some_iff.1 hp with hp | ⟨rfl, rfl⟩
  · obtain ⟨hlt, -⟩ := List.getElem?_eq_some_iff.1 hp
    rw [List.take_append_of_le_length (Nat.le_of_lt hlt)]
    exact h p c hp hc
  · rw [List.take_left]
    exact hlast hc

theorem Tracks.goes (hadd : ∀ call ∈ additions, call.plainDelta?.isSome)
    (h : Tracks initial additions w s) (hgoes : Goes w s s') : Tracks initial additions w s' := by
  have hone := hgoes.oneWriter h.oneWriter
  obtain ⟨stage, hstage, hw⟩ := h.writer
  obtain ⟨hlt, -⟩ := List.getElem?_eq_some_iff.1 hw
  cases hgoes with
  | rest => exact h
  | @load call others hload =>
    obtain ⟨hcalls, -⟩ := Caller.mk.inj (Option.some.inj (hw.symm.trans hload))
    refine ⟨hone, ⟨_, .inr rfl, ?_⟩, h.value, h.completed, h.replies, h.observed⟩
    rw [List.getElem?_set_self hlt, hcalls]
  | @store call others seen delta hstore hcall =>
    obtain ⟨hcalls, rfl⟩ := Caller.mk.inj (Option.some.inj (hw.symm.trans hstore))
    -- The word that is held is still the one in the register, so the sum is that of one step.
    obtain rfl : seen = s.value := by simpa using hstage
    have hk : additions[additionsIn w s.history]? = some call := by
      rw [← List.head?_drop, hcalls, List.head?_cons]
    have hothers : additions.drop (additionsIn w s.history + 1) = others := by
      rw [← List.drop_drop, hcalls, List.drop_one, List.tail_cons]
    obtain ⟨hvalue, hhistory⟩ := atomically_succ hadd initial hk hcall
    refine ⟨hone, ⟨_, .inl rfl, ?_⟩, ?_, ?_, ?_, ?_⟩
    · simp [List.getElem?_set_self hlt, hothers]
    · simp [hvalue, ← h.value]
    · simp [h.completed, List.take_add_one, hk]
    · simp [h.replies, hhistory, ← h.value]
    · exact h.observed.append fun hne => absurd rfl hne
  | @observe i call others stage reply hi hobserve hobserves =>
    refine ⟨hone, ⟨_, hstage, ?_⟩, ?_, ?_, ?_, ?_⟩
    · simp [List.getElem?_set_ne hi, hw, hi]
    · simp [hi, h.value]
    · simp [hi, h.completed]
    · simp [hi, h.replies]
    · exact h.observed.append fun _ => h.value ▸ hobserves

/-! ## Whole runs -/

theorem tracks_ofCalls (hw : plan[w]? = some additions)
    (hadd : ∀ call ∈ additions, call.plainDelta?.isSome)
    (hothers : ∀ (i : Nat) calls, plan[i]? = some calls → i ≠ w → ∀ call ∈ calls, call.isObserver) :
    Tracks initial additions w (ofCalls initial plan) where
  oneWriter := by
    have hcallers : ∀ (i : Nat) caller, (ofCalls initial plan).callers[i]? = some caller →
        plan[i]? = some caller.calls := by
      intro i caller hi
      rw [ofCalls, List.getElem?_map, Option.map_eq_some_iff] at hi
      obtain ⟨calls, hcalls, rfl⟩ := hi
      exact hcalls
    constructor
    · intro caller hc
      obtain rfl : additions = caller.calls :=
        Option.some.inj (hw.symm.trans (hcallers w caller hc))
      exact hadd
    · exact fun i caller hi hne => hothers i caller.calls (hcallers i caller hi) hne
  writer := ⟨.fresh, .inl rfl, by simp [ofCalls, hw, additionsIn]⟩
  value := rfl
  completed := rfl
  replies := rfl
  observed p c hp := by cases hp

theorem history_turn (s : Shared) (t : Turn) : s.history <+: (s.turn t).history := by
  cases t with
  | access i =>
    simp only [turn, step]
    split
    next call rest stage hi =>
      cases call.access stage s.value with
      | mk value progress =>
        cases progress with
        | holds seen => exact List.prefix_rfl
        | completes reply => exact List.prefix_append _ _
    next => exact List.prefix_rfl
  | refusal i =>
    simp only [turn, refuse]
    split
    next => exact List.prefix_append _ _
    next => exact List.prefix_rfl

theorem history_turns (s : Shared) (ts : List Turn) : s.history <+: (s.turns ts).history := by
  induction ts generalizing s with
  | nil => exact List.prefix_rfl
  | cons t ts ih => exact (history_turn s t).trans (ih (s.turn t))

theorem Tracks.turns (hadd : ∀ call ∈ additions, call.plainDelta?.isSome)
    (h : Tracks initial additions w s) (ts : List Turn) (hfail : (s.turns ts).OthersFail w) :
    Tracks initial additions w (s.turns ts) := by
  induction ts generalizing s with
  | nil => exact h
  | cons t ts ih =>
    have hturn : (s.turn t).OthersFail w := fun c hc =>
      hfail c ((history_turns (s.turn t) ts).subset hc)
    exact ih (h.goes hadd (goes_turn h.oneWriter t hturn)) hfail

theorem calls_atomically (hadd : ∀ call ∈ additions, call.plainDelta?.isSome) (initial : Int64)
    (hk : k ≤ additions.length) :
    (atomically initial additions k).history.map Completed.call =
      (additions.take k).map Call.atomic := by
  induction k with
  | zero => rfl
  | succ k ih =>
    have hget := List.getElem?_eq_getElem hk
    obtain ⟨delta, hdelta⟩ := Option.isSome_iff_exists.1 (hadd _ (List.getElem_mem hk))
    rw [(atomically_succ hadd initial hget hdelta).2, List.map_append, ih (Nat.le_of_lt hk),
      List.take_add_one, hget, List.map_append]
    rfl

/-- Atomic additions add their deltas, modulo `2 ^ 64`. -/
theorem value_atomically (hadd : ∀ call ∈ additions, call.plainDelta?.isSome) (initial : Int64)
    (hk : k ≤ additions.length) :
    (atomically initial additions k).value = Int64.ofInt
      (initial.toInt + ((additions.take k).map fun call => call.atomic.amount).sum) := by
  induction k with
  | zero => simp [atomically, ofCalls, run]
  | succ k ih =>
    have hget := List.getElem?_eq_getElem hk
    obtain ⟨delta, hdelta⟩ := Option.isSome_iff_exists.1 (hadd _ (List.getElem_mem hk))
    rw [(atomically_succ hadd initial hget hdelta).1, ih (Nat.le_of_lt hk), List.take_add_one, hget,
      List.map_append, List.sum_append, ← Int.add_assoc, Int64.ofInt_add]
    simp [Call.amount, Call.delta?_atomic hdelta]

theorem Tracks.additionsIn_le (h : Tracks initial additions w s) :
    additionsIn w s.history ≤ additions.length := by
  have hlength := congrArg List.length h.completed
  have hcount : (callsOf w s.history).length = additionsIn w s.history := by
    rw [callsOf, List.length_map, additionsIn, List.countP_eq_length_filter]
  rw [hcount, List.length_take] at hlength
  omega

/-- **Single writer.** Of a caller that makes plain additions while all others observe, the replies
and the word in the register are those of the atomic additions of the same deltas, as far as they
are completed. What is observed is the word after some of them, and later never after fewer. -/
theorem plain_additions_exact (initial : Int64) (plan : List (List Call)) (w : Nat)
    (additions : List Call) (hw : plan[w]? = some additions)
    (hadd : ∀ call ∈ additions, call.plainDelta?.isSome)
    (hothers : ∀ (i : Nat) calls, plan[i]? = some calls → i ≠ w → ∀ call ∈ calls, call.isObserver)
    (ts : List Turn) (hfail : ((ofCalls initial plan).turns ts).OthersFail w) :
    let s := (ofCalls initial plan).turns ts
    (∃ k ≤ additions.length,
      callsOf w s.history = additions.take k ∧
      repliesOf w s.history = (atomically initial additions k).history.map Completed.reply ∧
      s.value = (atomically initial additions k).value ∧
      (s.Finished → k = additions.length) ∧
      ∃ seen : Nat → Nat, Monotone seen ∧ ∀ (p : Nat) c, s.history[p]? = some c → c.caller ≠ w →
        seen p ≤ k ∧ Observes (atomically initial additions (seen p)).value c.call c.reply) ∧
    ∀ k ≤ additions.length,
      (atomically initial additions k).history.map Completed.call =
        (additions.take k).map Call.atomic ∧
      (atomically initial additions k).value = Int64.ofInt
        (initial.toInt + ((additions.take k).map fun call => call.atomic.amount).sum) := by
  intro s
  have h : Tracks initial additions w s := (tracks_ofCalls hw hadd hothers).turns hadd ts hfail
  refine ⟨⟨additionsIn w s.history, h.additionsIn_le, h.completed, h.replies, h.value, ?_,
    fun p => additionsIn w (s.history.take p), ?_, ?_⟩,
    fun k hk => ⟨calls_atomically hadd initial hk, value_atomically hadd initial hk⟩⟩
  · intro hdone
    obtain ⟨stage, -, hwriter⟩ := h.writer
    have hnone := List.drop_eq_nil_iff.1 (hdone _ (List.mem_of_getElem? hwriter))
    exact Nat.le_antisymm h.additionsIn_le hnone
  · intro p q hpq
    exact (List.take_sublist_take_left hpq).countP_le
  · intro p c hp hc
    exact ⟨(List.take_sublist p s.history).countP_le, h.observed p c hp hc⟩

/-- The second caller counts past the largest word and back, the others look on. -/
def watched : List (List Call) :=
  [[.get .sequential, .compareAndSet .plain Int64.minValue 5, .get .acquire],
    [.getAndIncrement .plain, .addAndGet .plain (-3)],
    [.compareAndExchange .sequential 0 9, .get .plain]]

/-- Between a load and the store after it, a weak exchange is refused that expects the word in the
register, and another exchange fails. -/
def watching : List Turn :=
  [.access 1, .access 0, .access 1, .access 1, .refusal 0, .access 2, .access 1, .access 0,
    .access 2]

theorem watched_exact :
    ((ofCalls Int64.maxValue watched).turns watching).OthersFail 1 ∧
    ((ofCalls Int64.maxValue watched).turns watching).Finished ∧
    ((ofCalls Int64.maxValue watched).turns watching).value = Int64.maxValue - 2 ∧
    repliesOf 1 ((ofCalls Int64.maxValue watched).turns watching).history =
      [.word Int64.maxValue, .word (Int64.maxValue - 2)] := by
  have hfail : ((ofCalls Int64.maxValue watched).turns watching).OthersFail 1 := by
    decide +kernel
  have hdone : ∀ caller ∈ ((ofCalls Int64.maxValue watched).turns watching).callers,
      caller.calls = [] := by decide +kernel
  have hothers : ∀ (i : Nat) calls, watched[i]? = some calls → i ≠ 1 →
      ∀ call ∈ calls, call.isObserver := by
    rintro (_ | _ | _ | i) calls hi hne
    · obtain rfl := Option.some.inj hi
      decide
    · exact absurd rfl hne
    · obtain rfl := Option.some.inj hi
      decide
    · cases hi
  obtain ⟨⟨k, -, -, hreplies, hvalue, hall, -⟩, -⟩ := plain_additions_exact Int64.maxValue watched 1
    [.getAndIncrement .plain, .addAndGet .plain (-3)] rfl (by decide) hothers watching hfail
  obtain rfl := hall hdone
  exact ⟨hfail, hdone, hvalue.trans (by decide), hreplies.trans (by decide)⟩

end Shared

end Snowflake.Register
