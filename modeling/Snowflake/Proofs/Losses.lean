import Snowflake.Proofs.Nesting
import Mathlib.Data.List.Induction

/-!
# Lost attempts are few

Call an open attempt stale if the register no longer holds the word that it saw. Whether it has
taken its reading yet makes no difference: it can only lose its exchange.

**Potential.** The attempts that were lost, and the stale ones with them, are at most `n - 1` for
each id, where `n` bounds the attempts that are under way at the same time (`FewLost`). An attempt
is stale before it is lost, so a loss does not change the sum. Only a commit makes attempts stale,
at most all those under way but the one that commits, and it adds an id.

**Theorem (`fewLost_run`).** This holds in every run, on any clock. Nested attempts are a run of
as many callers as they are deep, so it holds of them as well (`lost_nested`).
-/

namespace Snowflake.Generator

variable {g : Generator}

/-! ## Counting lost attempts -/

/-- How many of these attempts were lost. -/
def lost (outcomes : List Outcome) : Nat := outcomes.count (.ok (.pending 0))

/-- The ids of these attempts. -/
def minted (outcomes : List Outcome) : List Int64 :=
  outcomes.filterMap fun outcome => outcome.toOption.bind Status.id?

theorem lost_append (outcomes outcomes' : List Outcome) :
    lost (outcomes ++ outcomes') = lost outcomes + lost outcomes' :=
  List.count_append

theorem minted_append (outcomes outcomes' : List Outcome) :
    minted (outcomes ++ outcomes') = minted outcomes ++ minted outcomes' :=
  List.filterMap_append

theorem Shared.ids_eq_minted (s : Shared) : s.ids = minted (s.history.map Ended.outcome) := by
  rw [ids, minted, List.filterMap_map]
  rfl

/-- The register no longer holds the word that was seen in this phase. -/
def Phase.isStale (register : Int64) : Phase → Bool
  | .idle => false
  | .loaded seen => seen != register
  | .proposing seen _ => seen != register

namespace Shared

variable {s : Shared} {i : Nat} {phase : Phase} {a : Advance} {n : Nat}

theorem outcomes_after (s : Shared) (i : Nat) (a : Advance) :
    (s.after i a).history.map Ended.outcome =
      s.history.map Ended.outcome ++ a.ended.toList := by
  rw [after, List.map_append]
  cases a.ended <;> rfl

theorem ids_after (s : Shared) (i : Nat) (a : Advance) :
    (s.after i a).ids = s.ids ++ minted a.ended.toList := by
  rw [ids_eq_minted, outcomes_after, minted_append, ← ids_eq_minted]

/-- How many of the open attempts are stale. -/
def stale (s : Shared) : Nat := s.phases.countP (·.isStale s.register)

theorem stale_le_inFlight (s : Shared) : s.stale ≤ s.inFlight := by
  refine List.countP_mono_left fun phase _ hstale => ?_
  cases phase with
  | idle => cases hstale
  | _ => rfl

theorem countP_phases_after (hphase : s.phases[i]? = some phase) (p : Phase → Bool) :
    (s.after i a).phases.countP p + (p phase).toNat = s.phases.countP p + (p a.phase).toNat := by
  obtain ⟨hi, rfl⟩ := List.getElem?_eq_some_iff.1 hphase
  rw [after, List.countP_set hi]
  by_cases hp : p s.phases[i]
  · have hpos : 0 < s.phases.countP p := List.countP_pos_iff.2 ⟨_, List.getElem_mem hi, hp⟩
    cases hnew : p a.phase <;> simp [hp] <;> omega
  · cases hnew : p a.phase <;> simp [hp]

/-- At most `n - 1` attempts are lost or stale for each id. -/
def FewLost (n : Nat) (s : Shared) : Prop :=
  lost (s.history.map Ended.outcome) + s.stale ≤ (n - 1) * s.ids.length

/-- If an attempt is lost, one less is stale; if more turn stale, an id is minted. -/
theorem FewLost.of_le (h : s.FewLost n)
    (hle : lost a.ended.toList + (s.after i a).stale ≤
      s.stale + (n - 1) * (minted a.ended.toList).length) : (s.after i a).FewLost n := by
  unfold FewLost at h ⊢
  rw [outcomes_after, lost_append, ids_after, List.length_append, Nat.mul_add]
  omega

/-- **One access.** An attempt turns stale only when another one commits, and is lost only if it was
stale before. -/
theorem FewLost.after {access : Access} (h : s.FewLost n) (hn : s.inFlight ≤ n)
    (hphase : s.phases[i]? = some phase) (ha : Advances g s.register phase access a) :
    (s.after i a).FewLost n := by
  have hstale : a.register = s.register → (s.after i a).stale + (phase.isStale s.register).toNat =
      s.stale + (a.phase.isStale s.register).toNat := by
    intro hreg
    rw [stale, show (s.after i a).register = s.register from hreg]
    exact countP_phases_after hphase _
  have hopen := countP_phases_after (a := a) hphase (· ≠ .idle)
  have hall := (s.after i a).stale_le_inFlight
  refine h.of_le (i := i) ?_
  cases ha with
  | load | propose hp =>
    have hsame := hstale rfl
    simp [lost, Phase.isStale] at hsame ⊢
    omega
  | @refuse seen reading hp =>
    have hsame := hstale rfl
    have hlost : (g.settle seen seen reading).outcome ≠ .ok (.pending 0) := by
      rcases (settle_refuse hp).2 with hout | ⟨now, last, hout⟩ <;> simp [hout]
    simp [lost, hlost, Phase.isStale] at hsame ⊢
    omega
  | @win next =>
    -- All the other attempts under way may turn stale.
    have hothers : (s.after i _).inFlight + 1 = s.inFlight := hopen
    have hid : (minted [.ok (.ready (next ||| g.stamp))]).length = 1 := rfl
    rw [Option.toList_some, hid]
    simp [lost]
    omega
  | @lose seen next hne =>
    have hsame := hstale rfl
    have hwas : (seen != s.register) = true := bne_iff_ne.2 (Ne.symm hne)
    simp [lost, Phase.isStale, hwas] at hsame ⊢
    omega

end Shared

/-! ## Attempts under way -/

/-- On the way through a schedule, never more than so many attempts are under way. -/
def InFlightAtMost (g : Generator) (callers : Nat) (moves : List (Nat × Access)) (n : Nat) : Prop :=
  ∀ before, before <+: moves → ∀ s, (Shared.fresh callers).run g before = some s → s.inFlight ≤ n

theorem run_fresh_induction {callers : Nat} {P : List (Nat × Access) → Shared → Prop}
    (start : P [] (Shared.fresh callers))
    (step : ∀ moves s i phase access a, (Shared.fresh callers).run g moves = some s → P moves s →
      s.phases[i]? = some phase → Advances g s.register phase access a →
        P (moves ++ [(i, access)]) (s.after i a))
    {moves : List (Nat × Access)} {s : Shared} (h : (Shared.fresh callers).run g moves = some s) :
    P moves s := by
  induction moves using List.reverseRecOn generalizing s with
  | nil =>
    obtain rfl := Option.some.inj h
    exact start
  | append_singleton moves move ih =>
    rw [run_append] at h
    obtain ⟨s₀, hs₀, h⟩ := Option.bind_eq_some_iff.1 h
    obtain ⟨s₁, hstep, h⟩ := Option.bind_eq_some_iff.1 h
    obtain rfl := Option.some.inj h
    obtain ⟨phase, a, hphase, ha, rfl⟩ := Shared.step?_cases hstep
    exact step moves s₀ move.1 phase move.2 a hs₀ (ih hs₀) hphase ha

/-- **Whole runs.** Nothing is assumed of the clock. -/
theorem fewLost_run {callers n : Nat} {moves : List (Nat × Access)} {s : Shared}
    (h : (Shared.fresh callers).run g moves = some s) (hn : InFlightAtMost g callers moves n) :
    s.FewLost n := by
  refine run_fresh_induction (P := fun moves s => InFlightAtMost g callers moves n → s.FewLost n)
    ?_ ?_ h hn
  · intro _
    simp [Shared.FewLost, Shared.stale, Shared.fresh, lost, List.countP_replicate, Phase.isStale]
  · intro moves s i phase access a hs ih hphase ha hn
    have hpre : moves <+: moves ++ [(i, access)] := List.prefix_append _ _
    have hbefore := ih fun before hbefore => hn before (hbefore.trans hpre)
    exact hbefore.after (hn moves hpre s hs) hphase ha

theorem length_phases_run {callers : Nat} {moves : List (Nat × Access)} {s : Shared}
    (h : (Shared.fresh callers).run g moves = some s) : s.phases.length = callers := by
  refine run_fresh_induction (P := fun _ s => s.phases.length = callers)
    List.length_replicate ?_ h
  intro moves s i phase access a _ ih _ _
  rw [Shared.after, List.length_set, ih]

theorem inFlightAtMost_callers (callers : Nat) (moves : List (Nat × Access)) :
    InFlightAtMost g callers moves callers := by
  intro before _ s hs
  rw [← length_phases_run hs]
  exact List.countP_le_length

/-! ## Nested attempts -/

/-- Nested attempts that begin on a fresh register: they are a run of as many callers as they are
deep, and few of them are lost. -/
theorem lost_nested (g : Generator) (ticks : List Tick) :
    ∃ moves s, (Shared.fresh (Tick.depthAll ticks)).run g moves = some s ∧
      readings moves = Tick.readingsAll ticks ∧
      (g.pollAll 0 ticks).Leads (Shared.fresh (Tick.depthAll ticks)) s ∧
      lost (g.pollAll 0 ticks).outcomes ≤
        (Tick.depthAll ticks - 1) * (minted (g.pollAll 0 ticks).outcomes).length := by
  let fresh := Shared.fresh (Tick.depthAll ticks)
  have hidle : ∀ j, 0 ≤ j → j < 0 + Tick.depthAll ticks → fresh.phases[j]? = some .idle := by
    intro j _ hj
    exact List.getElem?_replicate_of_lt (by omega)
  obtain ⟨s, hrun, hleads⟩ := run_accessesAll (g := g) ticks fresh 0 hidle
  have houtcomes : s.history.map Ended.outcome = (g.pollAll 0 ticks).outcomes := hleads.outcomes
  have hfew := fewLost_run hrun (inFlightAtMost_callers _ _)
  rw [Shared.FewLost, Shared.ids_eq_minted, houtcomes] at hfew
  exact ⟨_, s, hrun, readings_accessesAll _ _ _, hleads, by omega⟩

end Snowflake.Generator
