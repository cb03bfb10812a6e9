import Snowflake.Proofs.Losses
import Snowflake.Proofs.Sightings
import Mathlib.Data.Bool.AllAny

/-!
# Lost races

An attempt that loses its exchange is told to try again at once. That is never for nothing, and it
does not happen too often.

- **Lost races are real** (`Record.Settles.lost_iff`). On readings within the layout every commit
  makes the register larger, so a word that was replaced never comes back. Hence an exchange is lost
  exactly if another attempt committed between the load and the exchange. For attempts nested in the
  reading of another one, that is to say: the outer one is lost exactly if one of them has minted an
  id (`poll_lost_iff`).
- **Lost races are few** (`fewLost_run`). Where at most `n` attempts are under way at the same time,
  at most `n - 1` are lost for each id.

**Theorem (`lost_races_real_and_bounded`)** puts these together.
-/

namespace Snowflake.Generator

variable {g : Generator} {rs more ids ids' : List Int64} {w w' seen held reading : Int64}
  {records : List Record} {r : Record}

/-! ## No word comes back -/

theorem Mints.unsigned_lt (h : Mints g rs w ids) (h' : Mints g (rs ++ more) w' ids')
    (hr : ∀ reading ∈ more, g.relative reading ≤ g.layout.maxTimestamp) (hmore : more ≠ []) :
    Word.unsigned w < Word.unsigned w' := by
  induction more using List.reverseRecOn generalizing w' ids' with
  | nil => exact absurd rfl hmore
  | append_singleton more reading ih =>
    rw [← List.append_assoc] at h'
    obtain ⟨w₀, ids₀, h₀, hp, -⟩ := h'.of_append
    obtain ⟨t, s, hholds, -⟩ := h₀.last
    have hlast := unsigned_lt_of_commit hholds hp (hr reading (by simp))
    by_cases hnil : more = []
    · subst hnil
      rw [List.append_nil] at h₀
      rw [(h.unique h₀).1]
      exact hlast
    · have hrest : ∀ reading ∈ more, g.relative reading ≤ g.layout.maxTimestamp :=
        fun r hmem => hr r (List.mem_append_left _ hmem)
      exact (ih h₀ hrest hnil).trans hlast

/-- A word is held again only if nothing was committed in between. -/
theorem Mints.eq_iff (h : Mints g rs w ids) (h' : Mints g (rs ++ more) w' ids')
    (hr : ∀ reading ∈ more, g.relative reading ≤ g.layout.maxTimestamp) :
    w' = w ↔ more = [] := by
  constructor
  · rintro rfl
    by_contra hmore
    exact Nat.lt_irrefl _ (h.unsigned_lt h' hr hmore)
  · rintro rfl
    rw [List.append_nil] at h'
    exact (h'.unique h).1

/-! ## Attempts that were overtaken -/

/-- Another attempt committed between the load of this one and its end. -/
def Record.Overtaken (records : List Record) (r : Record) : Prop :=
  ∃ r' ∈ records, r'.id?.isSome ∧ r.loadedAt < r'.endedAt ∧ r'.endedAt < r.endedAt

theorem Record.Faithful.exchanged_iff {moves : List (Nat × Access)} (h : r.Faithful moves) :
    r.readAt < r.endedAt ↔ moves[r.endedAt]? = some (r.caller, .exchange) := by
  refine ⟨h.exchanged, fun hexchange => lt_of_le_of_ne h.read_le fun heq => ?_⟩
  rw [← heq, h.read] at hexchange
  simp at hexchange

/-- What the load of an attempt did not see had been committed at its load or after it. -/
theorem Record.Settles.lost_iff (h : r.Settles g records seen held)
    (hs : records.Pairwise (·.endedAt < ·.endedAt)) (hle : r.loadedAt ≤ r.endedAt)
    (hr : ∀ reading ∈ committed records, g.relative reading ≤ g.layout.maxTimestamp)
    (hreached : r.readAt < r.endedAt) :
    r.outcome = .ok (.pending 0) ↔
      ∃ r' ∈ records, r'.id?.isSome ∧ r.loadedAt ≤ r'.endedAt ∧ r'.endedAt < r.endedAt := by
  obtain ⟨next, hp⟩ := h.reached.1 hreached
  let window := (endedBefore records r.endedAt).filter (r.loadedAt ≤ ·.endedAt)
  have hfound : Mints g (committed (endedBefore records r.loadedAt) ++ committed window) held
      ((endedBefore records r.endedAt).filterMap Record.id?) := by
    rw [committed, committed, ← List.map_append, ← List.filter_append, endedBefore_split hs hle]
    exact h.found
  have hfits : ∀ reading ∈ committed window, g.relative reading ≤ g.layout.maxTimestamp := by
    intro reading hmem
    have hsub : window.Sublist records := List.filter_sublist.trans endedBefore_sublist
    exact hr reading (((hsub.filter _).map _).subset hmem)
  rw [h.outcome, settle_outcome_lost_iff hp, Ne, Mints.eq_iff h.saw hfound hfits, committed,
    List.map_eq_nil_iff, List.filter_eq_nil_iff]
  simp only [window, endedBefore, List.mem_filter, decide_eq_true_eq, not_forall, Decidable.not_not]
  constructor
  · rintro ⟨r', ⟨⟨hmem, hlt⟩, hge⟩, hid⟩
    exact ⟨r', hmem, hid, hge, hlt⟩
  · rintro ⟨r', hmem, hid, hge, hlt⟩
    exact ⟨r', ⟨⟨hmem, hlt⟩, hge⟩, hid⟩

theorem Recording.lost_iff_overtaken {w : Recording} {callers : Nat} {moves : List (Nat × Access)}
    (hw : (fresh callers).run g moves = some w)
    (hr : ∀ reading ∈ readings moves, g.relative reading ≤ g.layout.maxTimestamp)
    (hmem : r ∈ w.records) (hreached : r.readAt < r.endedAt) :
    r.outcome = .ok (.pending 0) ↔ r.Overtaken w.records := by
  obtain ⟨seen, held, hsettles⟩ := (sighted_run hw).settled r hmem
  have hf := faithful_run hw r hmem
  have hfits : ∀ reading ∈ committed w.records, g.relative reading ≤ g.layout.maxTimestamp :=
    fun reading hcommitted => hr reading (committed_subset hw hcommitted)
  rw [hsettles.lost_iff (timed_run hw).sorted (hf.loaded_lt.le.trans hf.read_le) hfits hreached]
  refine exists_congr fun r' => and_congr_right fun hmem' => and_congr_right fun hid =>
    and_congr_left fun _ => ⟨fun hle => lt_of_le_of_ne hle fun heq => ?_, le_of_lt⟩
  -- A load and an exchange do not stand at the same place.
  have hf' := faithful_run hw r' hmem'
  have hexchange := hf'.exchanged (hf'.read_lt hid)
  rw [← heq, hf.loaded] at hexchange
  simp at hexchange

/-! ## Attempts nested in a reading -/

/-- An attempt continues a chain by its commit, if it makes one. -/
theorem Mints.settle (h : Mints g rs held ids) (seen reading : Int64) :
    ∃ more, more ⊆ [reading] ∧ Mints g (rs ++ more) (g.settle seen held reading).register
      (ids ++ minted [(g.settle seen held reading).outcome]) := by
  have hnone : Mints g (rs ++ []) held (ids ++ []) := by simpa using h
  cases hp : g.propose seen reading with
  | commit next =>
    by_cases hheld : held = seen
    · subst hheld
      rw [settle_commit hp]
      exact ⟨[reading], List.Subset.refl _, h.commit hp⟩
    · simp only [Generator.settle, hp, Generator.commit, Register.exchange, if_neg hheld]
      exact ⟨[], List.nil_subset _, hnone⟩
  | exhausted | regressed =>
    simp only [Generator.settle, hp]
    exact ⟨[], List.nil_subset _, hnone⟩

mutual

/-- So does an attempt with all that is nested in it. -/
theorem Mints.poll : ∀ (tick : Tick) {rs ids : List Int64} {w : Int64}, Mints g rs w ids →
    ∃ more, more ⊆ tick.readings ∧ Mints g (rs ++ more) (g.poll w tick).register
      (ids ++ minted (g.poll w tick).all.outcomes)
  | .mk during reading, rs, ids, w, h => by
    obtain ⟨inner, hinner, h₁⟩ := Mints.pollAll during h
    obtain ⟨own, hown, h₂⟩ := h₁.settle w reading
    rw [List.append_assoc, List.append_assoc, ← minted_append] at h₂
    refine ⟨inner ++ own, ?_, ?_⟩
    · rw [Tick.readings]
      exact List.append_subset.2 ⟨fun _ hmem => List.mem_append_left _ (hinner hmem),
        fun _ hmem => List.mem_append_right _ (hown hmem)⟩
    · rw [Generator.poll]
      exact h₂

theorem Mints.pollAll : ∀ (ticks : List Tick) {rs ids : List Int64} {w : Int64},
    Mints g rs w ids → ∃ more, more ⊆ Tick.readingsAll ticks ∧
      Mints g (rs ++ more) (g.pollAll w ticks).register (ids ++ minted (g.pollAll w ticks).outcomes)
  | [], rs, ids, w, h => ⟨[], List.nil_subset _, by simpa [Generator.pollAll, minted] using h⟩
  | tick :: ticks, rs, ids, w, h => by
    obtain ⟨first, hfirst, h₁⟩ := Mints.poll tick h
    obtain ⟨others, hothers, h₂⟩ := Mints.pollAll ticks h₁
    rw [List.append_assoc, List.append_assoc, ← minted_append] at h₂
    refine ⟨first ++ others, ?_, ?_⟩
    · rw [Tick.readingsAll]
      exact List.append_subset.2 ⟨fun _ hmem => List.mem_append_left _ (hfirst hmem),
        fun _ hmem => List.mem_append_right _ (hothers hmem)⟩
    · rw [Generator.pollAll]
      exact h₂

end

/-- An attempt that proposes an exchange is lost exactly if one that was nested in its reading has
minted an id. -/
theorem poll_lost_iff {next : Int64} {during : List Tick} (h : Mints g rs w ids)
    (hr : ∀ r ∈ Tick.readingsAll during, g.relative r ≤ g.layout.maxTimestamp)
    (hp : g.propose w reading = .commit next) :
    (g.poll w (.mk during reading)).outcome = .ok (.pending 0) ↔
      minted (g.poll w (.mk during reading)).nested ≠ [] := by
  obtain ⟨more, hmore, hinner⟩ := Mints.pollAll during h
  have hlen := hinner.length_eq
  rw [List.length_append, List.length_append, h.length_eq, Nat.add_left_cancel_iff] at hlen
  rw [poll, settle_outcome_lost_iff hp, Ne,
    h.eq_iff hinner fun r hmem => hr r (hmore hmem), ← List.length_eq_zero_iff, hlen,
    List.length_eq_zero_iff]

/-! ## All kinds of overlap -/

/-- **Lost races are real and bounded.** Callers stand for attempts that overlap, nested ones
included. On readings within the layout, an attempt that came to its exchange was lost exactly if
another one committed between its load and its exchange. Where at most `n` attempts are under way at
the same time, at most `n - 1` are lost for each id. -/
theorem lost_races_real_and_bounded (g : Generator) {callers n : Nat}
    {moves : List (Nat × Access)} {s : Shared}
    (h : (Shared.fresh callers).run g moves = some s)
    (hr : ∀ reading ∈ readings moves, g.relative reading ≤ g.layout.maxTimestamp)
    (hn : InFlightAtMost g callers moves n) :
    s.history = (g.records callers moves).map Record.ended ∧
    (∀ r ∈ g.records callers moves, r.Faithful moves ∧
      (moves[r.endedAt]? = some (r.caller, .exchange) →
        (r.outcome = .ok (.pending 0) ↔ r.Overtaken (g.records callers moves)))) ∧
    lost (s.history.map Ended.outcome) ≤ (n - 1) * s.ids.length ∧
    (∀ during reading next,
      (∀ r ∈ Tick.readingsAll during, g.relative r ≤ g.layout.maxTimestamp) →
      g.propose s.register reading = .commit next →
        ((g.poll s.register (.mk during reading)).outcome = .ok (.pending 0) ↔
          minted (g.poll s.register (.mk during reading)).nested ≠ [])) ∧
    ∀ ticks, ∃ moves' s', (Shared.fresh (Tick.depthAll ticks)).run g moves' = some s' ∧
      readings moves' = Tick.readingsAll ticks ∧
      (g.pollAll 0 ticks).Leads (Shared.fresh (Tick.depthAll ticks)) s' ∧
      lost (g.pollAll 0 ticks).outcomes ≤
        (Tick.depthAll ticks - 1) * (minted (g.pollAll 0 ticks).outcomes).length := by
  obtain ⟨w, hw, rfl, hrecords⟩ := Recording.exists_of_run h
  have hfew := fewLost_run h hn
  rw [Shared.FewLost] at hfew
  rw [hrecords]
  refine ⟨(Recording.timed_run hw).history, ?_, by omega, ?_, lost_nested g⟩
  · intro r hmem
    have hf := Recording.faithful_run hw r hmem
    exact ⟨hf, fun hexchange =>
      Recording.lost_iff_overtaken hw hr hmem (hf.exchanged_iff.2 hexchange)⟩
  · intro during reading next hfits hp
    exact poll_lost_iff (mints_run hw) hfits hp

/-- In the race one attempt is lost, to the one that committed before it. An attempt after the race
would be lost as well if one that mints an id were nested in its reading. -/
theorem race_lost_once :
    (∀ reading ∈ readings race, paired.relative reading ≤ paired.layout.maxTimestamp) ∧
    InFlightAtMost paired 2 race 2 ∧
    ∃ s, (Shared.fresh 2).run paired race = some s ∧
      lost (s.history.map Ended.outcome) ≤ (2 - 1) * s.ids.length ∧
      (∃ r ∈ paired.records 2 race, race[r.endedAt]? = some (r.caller, .exchange) ∧
        r.outcome = .ok (.pending 0) ∧ r.Overtaken (paired.records 2 race)) ∧
      ((paired.poll s.register (.mk [.plain 1010] 1011)).outcome = .ok (.pending 0) ↔
        minted (paired.poll s.register (.mk [.plain 1010] 1011)).nested ≠ []) := by
  have hfits : ∀ reading ∈ readings race, paired.relative reading ≤ paired.layout.maxTimestamp :=
    List.all_iff_forall_prop.1 (by decide +kernel)
  have hopen : InFlightAtMost paired 2 race 2 := inFlightAtMost_callers 2 race
  have hafter : ((Shared.fresh 2).run paired race).map (fun s =>
      paired.propose s.register 1011) = some (.commit 44) := by decide +kernel
  obtain ⟨s, hs, hafter⟩ := Option.map_eq_some_iff.1 hafter
  have hlost : ∃ r ∈ paired.records 2 race, race[r.endedAt]? = some (r.caller, .exchange) ∧
      r.outcome = .ok (.pending 0) := by decide +kernel
  obtain ⟨r, hmem, hexchange, hout⟩ := hlost
  obtain ⟨-, hreal, hfew, hnested, -⟩ := lost_races_real_and_bounded paired hs hfits hopen
  have hinner : ∀ r ∈ Tick.readingsAll [.plain 1010],
      paired.relative r ≤ paired.layout.maxTimestamp :=
    List.all_iff_forall_prop.1 (by decide +kernel)
  exact ⟨hfits, hopen, s, hs, hfew,
    ⟨r, hmem, hexchange, hout, ((hreal r hmem).2 hexchange).1 hout⟩, hnested _ _ _ hinner hafter⟩

end Snowflake.Generator
