import Snowflake.Proofs.Attempt
import Snowflake.Proofs.Packing
import Mathlib.Data.Bool.AllAny

/-!
# A generator is a clock of moments

A moment is a timestamp with a sequence number, both of any size. `Moment.advance` says what a
relative reading does to one: a later reading begins its own millisecond, the same reading takes
the next sequence number while there is one, and an earlier reading is refused.

**Theorem (`polls_match_moments`).** On readings that fit the layout, a fresh generator and the
machine that starts at the moment `(0, 0)` go through the same turns. The register is the moment
packed into a word, an id is `encode` of the moment and the node id, and decoding it with the
generator gives back the reading of the very attempt that minted it.

The generator never calls `encode`: it shifts the reading, counts up, and or-s the node's stamp
on. The two ways of packing meet in `pack`.
-/

namespace Snowflake

open Word Layout

/-! ## The machine -/

/-- A timestamp and a sequence number. -/
structure Moment where
  timestamp : Nat
  sequence : Nat
deriving DecidableEq, Repr

/-- How the machine answers a reading. -/
inductive Verdict where
  | minted
  | exhausted
  | regressed
deriving DecidableEq, Repr

/-- One reading and what it led to. -/
structure Turn where
  reading : Int64
  after : Moment
  verdict : Verdict
deriving DecidableEq, Repr

namespace Moment

/-- The moment after a relative reading, and the answer to it. -/
def advance (l : Layout) (m : Moment) (now : Int) : Moment × Verdict :=
  if m.timestamp < now then (⟨now.toNat, 0⟩, .minted)
  else if now < m.timestamp then (m, .regressed)
  else if m.sequence < l.maxSequence.toInt then (⟨m.timestamp, m.sequence + 1⟩, .minted)
  else (m, .exhausted)

/-- The turns that readings lead to, one after the other. -/
def turns (g : Generator) : Moment → List Int64 → List Turn
  | _, [] => []
  | m, reading :: readings =>
    let next := m.advance g.layout (g.relative reading).toInt
    ⟨reading, next.1, next.2⟩ :: next.1.turns g readings

end Moment

namespace Generator

variable (g : Generator)

/-! ## Attempts in turn -/

/-- Whole attempts one after the other, on readings during which nothing happens. -/
def polls (g : Generator) : Int64 → List Int64 → List Attempt
  | _, [] => []
  | w, reading :: readings =>
    let a := g.poll w (.plain reading)
    a :: g.polls a.register readings

/-- The id of a moment. -/
def idOf (m : Moment) : Int64 :=
  g.layout.encode ⟨Int64.ofNat m.timestamp, g.nodeId, Int64.ofNat m.sequence⟩

/-- What the caller is told in a turn of the machine. -/
def answer (turn : Turn) : Outcome :=
  match turn.verdict with
  | .minted => .ok (.ready (g.idOf turn.after))
  | .exhausted => .ok (.pending 1)
  | .regressed =>
    .error (.clockRegressed (g.relative turn.reading) (Int64.ofNat turn.after.timestamp))

/-- An attempt does what the machine does in a turn. -/
structure Matches (turn : Turn) (a : Attempt) : Prop where
  register : a.register.toInt = turn.after.timestamp * 2 ^ g.layout.shift + turn.after.sequence
  outcome : a.outcome = g.answer turn
  /-- A minted id is not negative. -/
  nonneg : turn.verdict = .minted → 0 ≤ g.idOf turn.after
  /-- Packing what a minted id unpacks to gives it back. -/
  encode_decode : turn.verdict = .minted →
    g.layout.encode (g.layout.decode (g.idOf turn.after)) = g.idOf turn.after
  /-- A minted id unpacks to the reading of its own attempt. -/
  decode : turn.verdict = .minted →
    g.decode (g.idOf turn.after) = .ok ⟨turn.reading, g.nodeId, Int64.ofNat turn.after.sequence⟩

variable {g} {w reading : Int64} {m : Moment}

/-! ## Ids of moments -/

theorem stamped_eq_idOf (h : g.layout.Holds w m.timestamp m.sequence)
    (ht : m.timestamp < 2 ^ (63 - g.layout.shift)) : w ||| g.stamp = g.idOf m := by
  apply unsigned_injective
  rw [unsigned_stamped h, idOf, ← g.ofNat_unsigned_nodeId,
    unsigned_encode_of_lt ht g.unsigned_nodeId_lt h.sequence_lt]
  rw [g.ofNat_unsigned_nodeId]

theorem decode_idOf (h : g.layout.Holds w m.timestamp m.sequence)
    (ht : m.timestamp < 2 ^ (63 - g.layout.shift)) :
    g.layout.decode (g.idOf m) =
      ⟨Int64.ofNat m.timestamp, g.nodeId, Int64.ofNat m.sequence⟩ := by
  rw [← stamped_eq_idOf h ht, decode_stamped h]

theorem addChecked_relative (h : (g.relative reading).toInt = m.timestamp)
    (ht : m.timestamp < 2 ^ 63) :
    Word.addChecked? (Int64.ofNat m.timestamp) g.offset = some reading := by
  have hreading := toInt_relative_of_nonneg (by omega : 0 ≤ (g.relative reading).toInt)
  rw [addChecked?_eq_some_iff, Int64.toInt_ofNat_of_lt ht]
  omega

/-! ## One turn -/

/-- A turn that mints an id: the attempt commits a word that holds the reading's moment. -/
theorem matches_minted {next : Int64} (hp : g.propose w reading = .commit next)
    (h : g.layout.Holds next m.timestamp m.sequence) (ht : m.timestamp < 2 ^ (63 - g.layout.shift))
    (hr : (g.relative reading).toInt = m.timestamp) :
    g.Matches ⟨reading, m, .minted⟩ (g.settle w w reading) := by
  have hid := stamped_eq_idOf h ht
  have hdecode := decode_idOf h ht
  rw [settle_commit hp]
  refine ⟨h.toInt_eq ht, by rw [hid]; rfl, fun _ => ?_, fun _ => ?_, fun _ => ?_⟩
  · show 0 ≤ g.idOf m
    rw [← hid]
    exact (zero_le_stamped h).2 ht
  · show g.layout.encode (g.layout.decode (g.idOf m)) = g.idOf m
    rw [hdecode]
    rfl
  · show g.decode (g.idOf m) = _
    simp only [decode, hdecode, addChecked_relative hr h.timestamp_lt]

/-- A turn that mints nothing: the attempt leaves the register alone. -/
theorem matches_refused {verdict : Verdict} {a : Attempt} (hv : verdict ≠ .minted)
    (h : g.layout.Holds w m.timestamp m.sequence) (ht : m.timestamp < 2 ^ (63 - g.layout.shift))
    (hreg : a.register = w) (hout : a.outcome = g.answer ⟨reading, m, verdict⟩) :
    g.Matches ⟨reading, m, verdict⟩ a where
  register := by rw [hreg]; exact h.toInt_eq ht
  outcome := hout
  nonneg hminted := absurd hminted hv
  encode_decode hminted := absurd hminted hv
  decode hminted := absurd hminted hv

/-- **One turn.** On a register that holds the moment `m`, an attempt does what the machine
does, and the register then holds the moment after it. -/
theorem matches_advance (h : g.layout.Holds w m.timestamp m.sequence)
    (ht : m.timestamp < 2 ^ (63 - g.layout.shift))
    (hr : g.relative reading ≤ g.layout.maxTimestamp) :
    let next := m.advance g.layout (g.relative reading).toInt
    let a := g.settle w w reading
    g.Matches ⟨reading, next.1, next.2⟩ a ∧
      g.layout.Holds a.register next.1.timestamp next.1.sequence ∧
      next.1.timestamp < 2 ^ (63 - g.layout.shift) := by
  rcases lt_trichotomy (m.timestamp : Int) (g.relative reading).toInt with hlt | heq | hgt
  · have hnow : ((g.relative reading).toInt.toNat : Int) = _ := Int.toNat_of_nonneg (by omega)
    have hfit := (le_maxTimestamp_iff hnow.symm).1 hr
    have hp := propose_later h hlt
    have hnext := holds_placeTimestamp_of_le (by omega) hr
    simp only [Moment.advance, if_pos hlt]
    refine ⟨matches_minted hp hnext hfit hnow.symm, ?_, hfit⟩
    rw [settle_commit hp]
    exact hnext
  · have hp := propose_same h heq.symm
    simp only [Moment.advance, ← heq, lt_self_iff_false, if_false, lt_maxSequence_iff]
    split_ifs with hs
    · rw [if_pos hs] at hp
      have hnext := h.succ hs
      refine ⟨matches_minted hp hnext ht heq.symm, ?_, ht⟩
      rw [settle_commit hp]
      exact hnext
    · rw [if_neg hs] at hp
      simp only [settle_exhausted hp]
      exact ⟨matches_refused (by decide) h ht rfl rfl, h, ht⟩
  · have hp := propose_earlier h hgt
    simp only [Moment.advance, if_neg hgt.not_gt, if_pos hgt, settle_regressed hp]
    exact ⟨matches_refused (by decide) h ht rfl rfl, h, ht⟩

/-! ## Whole runs -/

theorem polls_match_turns (readings : List Int64)
    (hr : ∀ reading ∈ readings, g.relative reading ≤ g.layout.maxTimestamp)
    (h : g.layout.Holds w m.timestamp m.sequence)
    (ht : m.timestamp < 2 ^ (63 - g.layout.shift)) :
    List.Forall₂ g.Matches (m.turns g readings) (g.polls w readings) := by
  induction readings generalizing w m with
  | nil => exact .nil
  | cons reading readings ih =>
    obtain ⟨hfirst, hholds, hlt⟩ := matches_advance h ht (hr reading List.mem_cons_self)
    rw [polls, poll_plain, Moment.turns]
    exact .cons hfirst (ih (fun r hmem => hr r (List.mem_cons_of_mem _ hmem)) hholds hlt)

/-- **Refinement.** On readings that fit the layout, a fresh generator takes the turns of the
machine that starts at the moment `(0, 0)`. -/
theorem polls_match_moments (g : Generator) (readings : List Int64)
    (h : ∀ reading ∈ readings, g.relative reading ≤ g.layout.maxTimestamp) :
    List.Forall₂ g.Matches (Moment.turns g ⟨0, 0⟩ readings) (g.polls 0 readings) :=
  polls_match_turns readings h holds_zero (by positivity)

/-- Readings that lead to each kind of turn. -/
theorem paired_matches_moments :
    (∀ reading ∈ ([1003, 1003, 1003, 1001, 1004] : List Int64),
      paired.relative reading ≤ paired.layout.maxTimestamp) ∧
    List.Forall₂ paired.Matches (Moment.turns paired ⟨0, 0⟩ [1003, 1003, 1003, 1001, 1004])
      (paired.polls 0 [1003, 1003, 1003, 1001, 1004]) := by
  refine ⟨?_, polls_match_moments paired _ ?_⟩ <;> exact List.all_iff_forall_prop.1 (by decide)

end Generator

end Snowflake
