import Snowflake.Proofs.Losses
import Snowflake.Proofs.Minting
import Snowflake.Proofs.Replacing

/-!
# Runs that go on

A run need not begin with a fresh register. Callers may find it as others left it, some of them with
attempts under way, and what they commit then goes on where the chain of commits had come to.

All that must be known of an open attempt is that whoever is about to exchange has taken a reading
that calls for it (`Phase.Backed`). How it came by that reading, and when, makes no difference: an
exchange can only succeed on the word that the register holds, so it commits on that word.

**Theorem (`Continues.run`).** A run on readings of some kind prolongs the chain of commits by
readings of that kind.
-/

namespace Snowflake.Generator

variable {g : Generator} {fits : Int64 → Prop} {rs ids : List Int64} {register : Int64}

/-- Whoever is about to exchange has taken a reading, of this kind, that calls for it. -/
def Phase.Backed (g : Generator) (fits : Int64 → Prop) : Phase → Prop
  | .proposing seen next => ∃ reading, fits reading ∧ g.propose seen reading = .commit next
  | _ => True

/-- The chain of commits that led to a state, with a reading behind every exchange that is due. -/
structure Shared.Continues (g : Generator) (fits : Int64 → Prop) (s : Shared)
    (rs ids : List Int64) : Prop where
  mints : Mints g rs s.register ids
  backed : ∀ phase ∈ s.phases, phase.Backed g fits

theorem Shared.continues_idle (h : Mints g rs register ids) (callers : Nat) :
    Shared.Continues g fits { register, phases := .replicate callers .idle } rs ids where
  mints := h
  backed phase hphase := by
    rw [List.eq_of_mem_replicate hphase]
    trivial

/-- **One access.** It adds a reading to the chain exactly if it adds an id. -/
theorem Mints.access {phase : Phase} {access : Access} {a : Advance} (h : Mints g rs register ids)
    (hphase : phase.Backed g fits) (hr : ∀ reading, access = .read reading → fits reading)
    (ha : Advances g register phase access a) :
    a.phase.Backed g fits ∧ ∃ more, (∀ reading ∈ more, fits reading) ∧
      Mints g (rs ++ more) a.register (ids ++ minted a.ended.toList) := by
  have hsame : Mints g (rs ++ []) register (ids ++ []) := by simpa using h
  cases ha with
  | load => exact ⟨trivial, [], nofun, hsame⟩
  | propose hp => exact ⟨⟨_, hr _ rfl, hp⟩, [], nofun, hsame⟩
  | @refuse seen reading hp =>
    have hnone : minted [(g.settle seen seen reading).outcome] = [] := by
      simp only [minted, List.filterMap_cons, settle_refuse_id? hp, List.filterMap_nil]
    refine ⟨trivial, [], nofun, ?_⟩
    rw [Option.toList_some, hnone]
    exact hsame
  | win =>
    obtain ⟨reading, hfits, hp⟩ := hphase
    exact ⟨trivial, [reading], by simpa using hfits, h.commit hp⟩
  | lose => exact ⟨trivial, [], nofun, hsame⟩

theorem Shared.Continues.after {s : Shared} {i : Nat} {phase : Phase} {access : Access}
    {a : Advance} (h : s.Continues g fits rs ids) (hphase : s.phases[i]? = some phase)
    (hr : ∀ reading, access = .read reading → fits reading)
    (ha : Advances g s.register phase access a) :
    ∃ more, (∀ reading ∈ more, fits reading) ∧
      (s.after i a).Continues g fits (rs ++ more) (ids ++ minted a.ended.toList) := by
  obtain ⟨hbacked, more, hmore, hmints⟩ :=
    h.mints.access (h.backed phase (List.mem_of_getElem? hphase)) hr ha
  exact ⟨more, hmore, hmints, forall_mem_set h.backed hbacked i⟩

/-- **Whole runs.** What a run commits goes on from the chain that it found. -/
theorem Shared.Continues.run {s s' : Shared} {moves : List (Nat × Access)}
    (h : s.Continues g fits rs ids) (hr : ∀ reading ∈ readings moves, fits reading)
    (hrun : s.run g moves = some s') :
    ∃ more new, (∀ reading ∈ more, fits reading) ∧ s'.ids = s.ids ++ new ∧
      s'.Continues g fits (rs ++ more) (ids ++ new) := by
  induction moves generalizing s rs ids with
  | nil =>
    obtain rfl := Option.some.inj hrun
    exact ⟨[], [], nofun, by simp, by simpa using h⟩
  | cons move moves ih =>
    obtain ⟨s₁, hstep, hrun⟩ := Option.bind_eq_some_iff.1 hrun
    obtain ⟨phase, a, hphase, ha, rfl⟩ := Shared.step?_cases hstep
    have hread : ∀ reading, move.2 = .read reading → fits reading := fun reading heq =>
      hr reading (List.mem_filterMap.2 ⟨move, List.mem_cons_self, by rw [heq]; rfl⟩)
    obtain ⟨more₁, hmore₁, h₁⟩ := h.after hphase hread ha
    have hrest : ∀ reading ∈ readings moves, fits reading := fun reading hmem => by
      obtain ⟨m, hm, heq⟩ := List.mem_filterMap.1 hmem
      exact hr reading (List.mem_filterMap.2 ⟨m, List.mem_cons_of_mem _ hm, heq⟩)
    obtain ⟨more, new, hmore, hids, hgoes⟩ := ih h₁ hrest hrun
    refine ⟨more₁ ++ more, minted a.ended.toList ++ new, ?_, ?_, ?_⟩
    · exact List.forall_mem_append.2 ⟨hmore₁, hmore⟩
    · rw [hids, Shared.ids_after, List.append_assoc]
    · rwa [← List.append_assoc, ← List.append_assoc]

/-- What a run from the fresh register leaves can be gone on from. -/
theorem continues_run {callers : Nat} {moves : List (Nat × Access)} {s : Shared}
    (h : (Shared.fresh callers).run g moves = some s)
    (hr : ∀ reading ∈ readings moves, fits reading) :
    ∃ rs, (∀ reading ∈ rs, fits reading) ∧ s.Continues g fits rs s.ids := by
  obtain ⟨more, new, hmore, hids, hgoes⟩ := (Shared.continues_idle .fresh callers).run hr h
  obtain rfl : s.ids = new := hids
  exact ⟨more, hmore, hgoes⟩

end Snowflake.Generator
