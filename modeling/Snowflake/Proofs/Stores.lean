import Snowflake.Proofs.Nesting
import Snowflake.Proofs.Packing

/-!
# What is stored

The register is written by exchanges, and only by those that succeed. `Shared.stores` lists the
words that a run stores, whether or not they differ from the words they replace; the last of them is
what the run leaves in the register (`register_run`).

**Attempts while the others stand still.** An idle caller that makes a whole attempt stores what it
proposes, if that is an exchange, and otherwise nothing (`Alone.attempt`). The word is the id
without its node (`Layout.withoutNode`): the stamp of the node fills a field that is clear in every
word of the register.
-/

namespace Snowflake

open Word

/-! ## Ids without their node -/

namespace Layout

variable {l : Layout} {w : Int64} {t s : Nat}

/-- An id with the field of the node cleared. -/
def withoutNode (l : Layout) (id : Int64) : Int64 := id &&& ~~~ l.placeNode l.maxNode

theorem testBit_placeNode {n : Int64} (hn : unsigned n < 2 ^ l.nodeBits) (i : Nat) :
    (unsigned (l.placeNode n)).testBit i =
      (decide (l.sequenceBits ≤ i) && (unsigned n).testBit (i - l.sequenceBits)) := by
  rw [unsigned_placeNode_of_lt l hn, Nat.testBit_mul_two_pow]

theorem testBit_nodeField (l : Layout) (i : Nat) :
    (unsigned (l.placeNode l.maxNode)).testBit i =
      (decide (l.sequenceBits ≤ i) && decide (i - l.sequenceBits < l.nodeBits)) := by
  have hpos : 0 < 2 ^ l.nodeBits := by positivity
  rw [testBit_placeNode (by rw [unsigned_maxNode]; omega), unsigned_maxNode,
    Nat.testBit_two_pow_sub_one]

theorem Holds.testBit_eq_false (h : l.Holds w t s) {i : Nat} (hi : l.sequenceBits ≤ i)
    (hn : i - l.sequenceBits < l.nodeBits) : (unsigned w).testBit i = false := by
  have hfield := congrArg (·.testBit (i - l.sequenceBits))
    (pack_node (t := t) (n := 0) (by positivity) h.sequence_lt)
  rw [← h.unsigned_eq] at hfield
  simpa [Nat.testBit_mod_two_pow, Nat.testBit_div_two_pow, hn, Nat.sub_add_cancel hi] using hfield

end Layout

namespace Generator

open Layout

variable {g : Generator} {w reading : Int64} {t n : Nat} {s s' : Shared} {i : Nat}

/-- The stamp of the node is what an id has in the field. -/
theorem withoutNode_stamped (h : g.layout.Holds w t n) :
    g.layout.withoutNode (w ||| g.stamp) = w := by
  have hbit : ∀ (x : Int64) (i : Nat), x.toBitVec.getLsbD i = (unsigned x).testBit i :=
    fun _ _ => rfl
  apply Int64.toBitVec.inj
  refine BitVec.eq_of_getLsbD_eq fun i hi => ?_
  rw [withoutNode, Int64.toBitVec_and, Int64.toBitVec_not, Int64.toBitVec_or, BitVec.getLsbD_and,
    BitVec.getLsbD_not, BitVec.getLsbD_or, hbit, hbit, hbit, testBit_nodeField, stamp,
    testBit_placeNode g.unsigned_nodeId_lt]
  by_cases hplace : g.layout.sequenceBits ≤ i
  · by_cases hfield : i - g.layout.sequenceBits < g.layout.nodeBits
    · simp [hplace, hfield, h.testBit_eq_false hplace hfield]
    · have hnode : (unsigned g.nodeId).testBit (i - g.layout.sequenceBits) = false :=
        Nat.testBit_lt_two_pow (g.unsigned_nodeId_lt.trans_le
          (Nat.pow_le_pow_right (by decide) (Nat.le_of_not_lt hfield)))
      simp [hfield, hnode, hi]
  · simp [hplace, hi]

/-! ## Words stored in a run -/

namespace Shared

/-- The word that an access stores, if it is an exchange that succeeds. -/
def stored? (s : Shared) (move : Nat × Access) : Option Int64 :=
  match s.phases[move.1]?, move.2 with
  | some (.proposing seen next), .exchange => if s.register = seen then some next else none
  | _, _ => none

/-- The words stored along a schedule. -/
def stores (g : Generator) (s : Shared) : List (Nat × Access) → List Int64
  | [] => []
  | move :: moves => (s.stored? move).toList ++ (s.step? g move).elim [] (·.stores g moves)

theorem register_step {move : Nat × Access} (h : s.step? g move = some s') :
    s'.register = (s.stored? move).getD s.register := by
  obtain ⟨i, access⟩ := move
  obtain ⟨phase, a, hphase, ha, rfl⟩ := step?_cases h
  show a.register = _
  cases ha with
  | load | propose | refuse => simp [stored?, hphase]
  | win => simp [stored?, hphase]
  | lose hne => simp [stored?, hphase, hne]

theorem stores_cons_of_advance {phase : Phase} {access : Access} {a : Advance}
    (h : s.phases[i]? = some phase) (ha : g.advance? s.register phase access = some a)
    (moves : List (Nat × Access)) :
    s.stores g ((i, access) :: moves) =
      (s.stored? (i, access)).toList ++ (s.after i a).stores g moves := by
  rw [stores, step?, h, Option.bind_some, ha, Option.map_some, Option.elim_some]
  rfl

/-- **Stores.** A run leaves the word that it stored last. -/
theorem register_run {moves : List (Nat × Access)} (h : s.run g moves = some s') :
    s'.register = (s.stores g moves).getLast?.getD s.register := by
  induction moves generalizing s with
  | nil =>
    obtain rfl : s = s' := Option.some.inj h
    rfl
  | cons move moves ih =>
    obtain ⟨s₁, hstep, hrun⟩ := Option.bind_eq_some_iff.1 h
    rw [ih hrun, register_step hstep, stores, hstep, Option.elim_some, List.getLast?_append]
    cases (s₁.stores g moves).getLast? with
    | some last => rfl
    | none => cases s.stored? move <;> rfl

theorem stores_append {moves : List (Nat × Access)} (h : s.run g moves = some s')
    (moves' : List (Nat × Access)) :
    s.stores g (moves ++ moves') = s.stores g moves ++ s'.stores g moves' := by
  induction moves generalizing s with
  | nil =>
    obtain rfl : s = s' := Option.some.inj h
    rfl
  | cons move moves ih =>
    obtain ⟨s₁, hstep, hrun⟩ := Option.bind_eq_some_iff.1 h
    rw [List.cons_append, stores, stores, hstep, Option.elim_some, Option.elim_some, ih hrun,
      List.append_assoc]

end Shared

/-! ## Attempts while the others stand still -/

/-- The attempts of an idle caller on these ticks, while the others stand still, leave this word and
store nothing else than the id without its node, if there is one. -/
structure Commits (g : Generator) (s : Shared) (i : Nat) (ticks : List Tick) (register : Int64)
    (id? : Option Int64) : Prop where
  run : ∃ s', s.run g (g.accessesAll s.register i ticks) = some s' ∧ s'.register = register ∧
    s'.phases = s.phases
  stores : s.stores g (g.accessesAll s.register i ticks) = (id?.map g.layout.withoutNode).toList
  register_eq : register = (id?.map g.layout.withoutNode).getD s.register

/-- The word that a proposal is to store. -/
def Proposal.next? : Proposal → Option Int64
  | .commit next => some next
  | _ => none

/-- The id that an attempt committed. -/
def Attempt.id? (a : Attempt) : Option Int64 := a.outcome.toOption.bind Status.id?

theorem id?_poll_plain (g : Generator) (w reading : Int64) :
    (g.poll w (.plain reading)).id? = (g.propose w reading).next?.map (· ||| g.stamp) := by
  rw [poll_plain, Attempt.id?]
  cases hp : g.propose w reading with
  | commit next =>
    rw [settle_commit hp]
    rfl
  | exhausted | regressed => exact settle_refuse_id? (by simp [hp])

theorem register_of_id? (h : (g.poll w (.plain reading)).id? = none) :
    (g.poll w (.plain reading)).register = w := by
  rw [id?_poll_plain, Option.map_eq_none_iff] at h
  rw [poll_plain]
  refine (settle_refuse ?_).1
  intro next hp
  rw [hp] at h
  cases h

theorem withoutNode_id? (h : g.layout.Holds w t n) (reading : Int64) :
    (g.poll w (.plain reading)).id?.map g.layout.withoutNode = (g.propose w reading).next? := by
  rw [id?_poll_plain]
  cases hp : g.propose w reading with
  | commit next =>
    obtain ⟨t', n', hnext, -⟩ := propose_commit h hp
    exact congrArg some (withoutNode_stamped hnext)
  | exhausted | regressed => rfl

/-- What follows the load of an attempt stores what it proposes. -/
theorem stores_closingAccesses {seen : Int64} (hphase : s.phases[i]? = some (.loaded seen))
    (hheld : s.register = seen) (reading : Int64) :
    s.stores g (g.closingAccesses seen i reading) = (g.propose seen reading).next?.toList := by
  obtain ⟨hi, -⟩ := List.getElem?_eq_some_iff.1 hphase
  have hread : s.stored? (i, .read reading) = none := by simp [Shared.stored?, hphase]
  unfold closingAccesses
  cases hp : g.propose seen reading with
  | commit next =>
    let s₁ := s.after i { register := s.register, phase := .proposing seen next }
    have hproposing : s₁.phases[i]? = some (.proposing seen next) := List.getElem?_set_self hi
    have hexchange : s₁.stored? (i, .exchange) = some next := by
      simp only [Shared.stored?, hproposing]
      exact if_pos hheld
    rw [Shared.stores_cons_of_advance hphase (by simp only [advance?, hp]; rfl), hread]
    exact (Shared.stores_cons_of_advance hproposing rfl []).trans (by rw [hexchange]; rfl)
  | exhausted =>
    rw [Shared.stores_cons_of_advance hphase (by simp only [advance?, hp]; rfl), hread]
    rfl
  | regressed now last =>
    rw [Shared.stores_cons_of_advance hphase (by simp only [advance?, hp]; rfl), hread]
    rfl

theorem stores_accesses (hidle : s.phases[i]? = some .idle) (reading : Int64) :
    s.stores g (g.accesses s.register i (.plain reading)) =
      (g.propose s.register reading).next?.toList := by
  obtain ⟨hi, -⟩ := List.getElem?_eq_some_iff.1 hidle
  have hseen : (s.after i { register := s.register, phase := .loaded s.register }).phases[i]? =
      some (.loaded s.register) := List.getElem?_set_self hi
  have hload : s.stored? (i, .load) = none := by simp [Shared.stored?, hidle]
  rw [Tick.plain, accesses, accessesAll, List.nil_append,
    Shared.stores_cons_of_advance hidle rfl, hload]
  exact stores_closingAccesses hseen rfl reading

/-- **One attempt.** It stores the id without its node, if it has one. -/
theorem commits_attempt (hidle : s.phases[i]? = some .idle) (h : g.layout.Holds s.register t n)
    (reading : Int64) :
    g.Commits s i [.plain reading] (g.poll s.register (.plain reading)).register
      (g.poll s.register (.plain reading)).id? := by
  obtain ⟨s', hrun, hleads⟩ := run_accessesAll (g := g) [.plain reading] s i fun j hij hj => by
    have hj : j = i := by simp only [Tick.plain, Tick.depth, Tick.depthAll] at hj; omega
    rw [hj, hidle]
  have hregister : s'.register = (g.poll s.register (.plain reading)).register := hleads.register
  have hstores : s.stores g (g.accessesAll s.register i [.plain reading]) =
      (g.propose s.register reading).next?.toList := by
    rw [accessesAll, accessesAll, List.append_nil, stores_accesses hidle]
  have hlast := Shared.register_run hrun
  rw [hregister, hstores] at hlast
  refine ⟨⟨s', hrun, hleads.register, hleads.phases⟩, ?_, ?_⟩
  · rw [hstores, withoutNode_id? h]
  · rw [hlast, withoutNode_id? h]
    cases (g.propose s.register reading).next? <;> rfl

theorem Commits.cons {tick : Tick} {ticks : List Tick} {register : Int64} {id? : Option Int64}
    (h : g.Commits s i [tick] (g.poll s.register tick).register none)
    (hrest : ∀ s', s'.register = s.register → s'.phases = s.phases →
      g.Commits s' i ticks register id?) : g.Commits s i (tick :: ticks) register id? := by
  obtain ⟨s₁, hrun, hregister, hphases⟩ := h.run
  have hkept : (g.poll s.register tick).register = s.register := h.register_eq
  have hone : g.accessesAll s.register i [tick] = g.accesses s.register i tick := by
    rw [accessesAll, accessesAll, List.append_nil]
  have hnone := h.stores
  rw [hone] at hrun hnone
  have hrest := hrest s₁ (hregister.trans hkept) hphases
  have hall : g.accessesAll s.register i (tick :: ticks) =
      g.accesses s.register i tick ++ g.accessesAll s₁.register i ticks := by
    rw [accessesAll, hregister]
  obtain ⟨s₂, hrun₂, hregister₂, hphases₂⟩ := hrest.run
  refine ⟨⟨s₂, ?_, hregister₂, hphases₂.trans hphases⟩, ?_, ?_⟩
  · rw [hall, run_append, hrun, Option.bind_some, hrun₂]
  · rw [hall, Shared.stores_append hrun, hnone, hrest.stores]
    rfl
  · rw [hrest.register_eq, hregister, hkept]

end Generator

end Snowflake
