import Snowflake.Proofs.Nodes
import Snowflake.Proofs.Workers
import Mathlib.Data.Bool.AllAny

/-!
# Drawing many ids loses none

Workers share one register with all that came before the call and with all that comes after it, so
the three together are one chain of commits, and on readings within the layout its ids ascend. From
this chain everything else is read off.

**Theorem (`draws_lose_nothing`).** Whatever state a generator was left in, and in whatever order
the workers take their steps, once all of them have finished:

- if none has failed, the result is the ids that the workers drew, as many as were asked for,
  ascending, of the generator's own node, and all larger than any id that was minted before;
- if some have failed, the result is the error of the first of them, and the ids that any worker had
  drawn by then are lost for good: nobody who uses the generator later is given one of them.

Callers with attempts under way when the call begins stay where they are meanwhile, and may go on
afterwards (`Shared.resumed`).
-/

namespace Snowflake.Generator

variable {g : Generator} {rs rs' ids ids' : List Int64} {register : Int64} {s : Shared}

/-- The callers of a state where they stood, and so many new ones, on a register that others have
moved on. Nothing is kept of what was before. -/
def Shared.resumed (s : Shared) (register : Int64) (callers : Nat) : Shared :=
  { register, phases := s.phases ++ .replicate callers .idle }

theorem Shared.Continues.resumed {fits : Int64 → Prop} (h : s.Continues g fits rs ids)
    (hmints : Mints g rs' register ids') (callers : Nat) :
    (s.resumed register callers).Continues g fits rs' ids' where
  mints := hmints
  backed := List.forall_mem_append.2 ⟨h.backed, (Shared.continues_idle hmints callers).backed⟩

/-- **Drawing.** The workers' accesses are a run of as many callers, which commits what they drew.
If none has failed, the result is what they drew, the whole count of ids, ascending, of the right
node, and larger than those before. Otherwise it is the first failure. No id that was drawn is
minted again. -/
theorem draws_lose_nothing (g : Generator) {callers : Nat} {before : List (Nat × Access)}
    {s : Shared} (hs : (Shared.fresh callers).run g before = some s)
    (hbefore : ∀ reading ∈ readings before, g.relative reading ≤ g.layout.maxTimestamp)
    (count threads : UInt64) {moves : List (Nat × Move)} {p : Pool}
    (hp : (Pool.ofCount s.register count (max threads 1)).steps? g moves = some p)
    (hr : ∀ reading ∈ readings (Pool.accesses moves), g.relative reading ≤ g.layout.maxTimestamp)
    (hdone : ∀ w ∈ p.workers, w.isFinished) :
    (∃ s', ({ register := s.register
              phases := .replicate (max threads 1).toNat .idle } : Shared).run g
        (Pool.accesses moves) = some s' ∧ s'.register = p.register ∧ p.ids.Perm s'.ids) ∧
    ((∀ w ∈ p.workers, w.failure? = none) →
      ∃ ids, p.result = .ok ids ∧ ids.Perm p.ids ∧ ids.length = count.toNat ∧
        ids.Pairwise (· < ·) ∧ (∀ id ∈ ids, (g.layout.decode id).node = g.nodeId) ∧
        ∀ old ∈ s.ids, ∀ id ∈ ids, old < id) ∧
    ((∃ w ∈ p.workers, w.failure? ≠ none) →
      ∃ (i : Nat) (w : Worker) (cause : Error), p.workers[i]? = some w ∧ w.failure? = some cause ∧
        (∀ j < i, ∀ v, p.workers[j]? = some v → v.failure? = none) ∧ p.result = .error cause) ∧
    ∀ callers' after s', (s.resumed p.register callers').run g after = some s' →
      (∀ reading ∈ readings after, g.relative reading ≤ g.layout.maxTimestamp) →
        ∀ id ∈ p.ids, id ∉ s'.ids := by
  obtain ⟨rs, hrs, hchain⟩ := continues_run hs hbefore
  obtain ⟨s₁, hs₁, hmirrors⟩ :=
    (Pool.mirrors_ofCount s.register count (max threads 1)).run hp
  -- The commits of the workers prolong the chain of the commits before.
  obtain ⟨more, new, hmore, hnew, hgoes⟩ :=
    (Shared.continues_idle hchain.mints (max threads 1).toNat).run hr hs₁
  obtain rfl : s₁.ids = new := hnew
  have hmints := hgoes.mints
  rw [hmirrors.register] at hmints
  have hfits := List.forall_mem_append.2 ⟨hrs, hmore⟩
  have hascending := (hmints.ascending hfits).2
  obtain ⟨-, hsorted, hlarger⟩ := List.pairwise_append.1 hascending
  refine ⟨⟨s₁, hs₁, hmirrors.register, hmirrors.ids⟩, fun hnone => ?_, Pool.result_eq_error, ?_⟩
  · refine ⟨s₁.ids, Pool.result_eq_ok hmirrors.ids hsorted hnone, hmirrors.ids.symm, ?_, hsorted,
      ?_, hlarger⟩
    · rw [← hmirrors.ids.length_eq, Pool.length_ids_of_finished hp hdone hnone]
    · exact fun id hid => hmints.node_eq id (List.mem_append_right _ hid)
  · intro callers' after s' hafter hr' id hid hid'
    obtain ⟨later, late, hlater, hlate, hgoes'⟩ := (hchain.resumed hmints callers').run hr' hafter
    obtain rfl : s'.ids = late := hlate
    -- The later commits prolong it once more.
    have hall := (hgoes'.mints.ascending (List.forall_mem_append.2 ⟨hfits, hlater⟩)).2
    have hdrawn : id ∈ s.ids ++ s₁.ids := List.mem_append_right _ (hmirrors.ids.subset hid)
    exact Int64.lt_irrefl ((List.pairwise_append.1 hall).2.2 id hdrawn id hid')

/-- A caller that mints an id and has loaded again when the call begins. -/
def prelude : List (Nat × Access) := [(0, .load), (0, .read 1003), (0, .exchange), (0, .load)]

/-- Two workers that draw three ids. The first loses an exchange to the second, and then finds the
millisecond exhausted. -/
def relay : List (Nat × Move) :=
  [(0, .access .load), (1, .access .load), (0, .access (.read 1003)), (1, .access (.read 1003)),
    (1, .access .exchange), (0, .access .exchange), (0, .answer false), (0, .access .load),
    (0, .access (.read 1003)), (0, .answer false), (0, .access .load), (0, .access (.read 1005)),
    (0, .access .exchange), (0, .access .load), (0, .access (.read 1005)), (0, .access .exchange)]

/-- Two workers on a clock that goes backwards for the second one, which fails while the first has
drawn one of its ids. -/
def setback : List (Nat × Move) :=
  [(0, .access .load), (0, .access (.read 1005)), (0, .access .exchange), (1, .access .load),
    (1, .access (.read 1004)), (0, .access .load), (0, .access (.read 1005)),
    (0, .access .exchange)]

/-- The caller of the prelude goes on: its attempt is lost, and it makes another one. -/
def comeback : List (Nat × Access) :=
  [(0, .read 1009), (0, .exchange), (0, .load), (0, .read 1009), (0, .exchange)]

/-- The relay draws three ids. After the setback the two ids of the first worker are lost, and the
caller that comes back gets a later one. -/
theorem relay_and_setback_lose_nothing :
    (∀ reading ∈ readings prelude, paired.relative reading ≤ paired.layout.maxTimestamp) ∧
    ∃ s, (Shared.fresh 1).run paired prelude = some s ∧ s.ids = [14] ∧
      (∃ p, (Pool.ofCount s.register 3 (max 2 1)).steps? paired relay = some p ∧
        (∀ w ∈ p.workers, w.isFinished) ∧ (∀ w ∈ p.workers, w.failure? = none) ∧
        ∃ ids, p.result = .ok ids ∧ ids.Perm p.ids ∧ ids.length = 3 ∧ ids.Pairwise (· < ·) ∧
          ∀ id ∈ ids, 14 < id) ∧
      ∃ p, (Pool.ofCount s.register 3 (max 2 1)).steps? paired setback = some p ∧
        (∀ w ∈ p.workers, w.isFinished) ∧ (∃ w ∈ p.workers, w.failure? ≠ none) ∧
        (∃ cause, p.result = .error cause) ∧ p.ids = [23, 22] ∧
        ∃ s', (s.resumed p.register 0).run paired comeback = some s' ∧ s'.ids = [38] ∧
          ∀ id ∈ p.ids, id ∉ s'.ids := by
  have hprelude : ∀ reading ∈ readings prelude,
      paired.relative reading ≤ paired.layout.maxTimestamp :=
    List.all_iff_forall_prop.1 (by decide +kernel)
  have hrelay : ∀ reading ∈ readings (Pool.accesses relay),
      paired.relative reading ≤ paired.layout.maxTimestamp :=
    List.all_iff_forall_prop.1 (by decide +kernel)
  have hsetback : ∀ reading ∈ readings (Pool.accesses setback),
      paired.relative reading ≤ paired.layout.maxTimestamp :=
    List.all_iff_forall_prop.1 (by decide +kernel)
  have hcomeback : ∀ reading ∈ readings comeback,
      paired.relative reading ≤ paired.layout.maxTimestamp :=
    List.all_iff_forall_prop.1 (by decide +kernel)
  have hends : ((Shared.fresh 1).run paired prelude).bind (fun s =>
      ((Pool.ofCount s.register 3 (max 2 1)).steps? paired relay).bind fun p =>
        ((Pool.ofCount s.register 3 (max 2 1)).steps? paired setback).bind fun q =>
          ((s.resumed q.register 0).run paired comeback).map fun s' =>
            ((p.workers.all fun w => w.isFinished && w.failure?.isNone) &&
              (q.workers.all Worker.isFinished && q.workers.any fun w => w.failure?.isSome),
              s.ids, q.ids, s'.ids)) = some (true, [14], [23, 22], [38]) := by decide +kernel
  obtain ⟨s, hs, hends⟩ := Option.bind_eq_some_iff.1 hends
  obtain ⟨p, hp, hends⟩ := Option.bind_eq_some_iff.1 hends
  obtain ⟨q, hq, hends⟩ := Option.bind_eq_some_iff.1 hends
  obtain ⟨s', hs', hends⟩ := Option.map_eq_some_iff.1 hends
  simp only [Prod.mk.injEq, List.all_eq_true, List.any_eq_true, Bool.and_eq_true,
    Option.isNone_iff_eq_none, Option.isSome_iff_ne_none] at hends
  obtain ⟨⟨hdone, hdone', hfails⟩, hids, hdrawn, hlate⟩ := hends
  obtain ⟨-, hok, -⟩ := draws_lose_nothing paired hs hprelude 3 2 hp hrelay
    fun w hw => (hdone w hw).1
  obtain ⟨ids, hresult, hdrew, hlength, hsorted, -, hlarger⟩ := hok fun w hw => (hdone w hw).2
  obtain ⟨-, -, herror, hlost⟩ := draws_lose_nothing paired hs hprelude 3 2 hq hsetback hdone'
  obtain ⟨-, -, cause, -, -, -, hcause⟩ := herror hfails
  exact ⟨hprelude, s, hs, hids,
    ⟨p, hp, fun w hw => (hdone w hw).1, fun w hw => (hdone w hw).2, ids, hresult, hdrew, hlength,
      hsorted, hlarger 14 (by simp [hids])⟩,
    q, hq, hdone', hfails, ⟨cause, hcause⟩, hdrawn, s', hs', hlate, hlost 0 _ s' hs' hcomeback⟩

end Snowflake.Generator
