import Snowflake.Environment
import Snowflake.Proofs.Construction
import Snowflake.Proofs.Exhaustion
import Snowflake.Proofs.Regression
import Snowflake.Proofs.Retries
import Snowflake.Proofs.Stores
import Snowflake.Proofs.Turns

/-!
# What a failed call leaves behind

Nothing. A call for the next id may make many attempts before it fails, but every one of them has
found its millisecond exhausted, since nobody else is there to win a race; the last one finds a
clock that went backwards, or the wait is called off. None of these writes the register. A call that
returns an id writes it once, with the id but for the node.

**Causes.** A generation call fails for these two causes only, and neither is a fault of the
configuration. A layout or a generator is refused for such a fault only.

**Flags.** No call raises a flag or lowers one. What its readings do is theirs.

**Theorem (`failures_commit_nothing`).** All this holds in every state that can be reached, on every
clock and for every source of cancellations.
-/

namespace Snowflake

open Generator

variable {e : Error}

/-! ## Faults of the configuration -/

theorem Layout.isConfiguration_of_ofWidths {nodeBits sequenceBits : UInt32}
    (h : Layout.ofWidths nodeBits sequenceBits = .error e) : e.isConfiguration := by
  unfold Layout.ofWidths at h
  split at h
  · cases h
    rfl
  · cases h

theorem Layout.isConfiguration_of_readWidth {name : String} {default : Nat} {value : Option String}
    (h : Layout.readWidth name default value = .error e) : e.isConfiguration := by
  unfold Layout.readWidth at h
  split at h
  · cases h
  · split at h
    · cases h
    · cases h
      rfl

theorem Layout.isConfiguration_of_ofLookup {lookup : String → Option String}
    (h : (Layout.ofLookup lookup).result = .error e) : e.isConfiguration := by
  unfold Layout.ofLookup at h
  split at h
  · rename_i cause hnode
    obtain rfl : cause = e := by simpa using h
    exact isConfiguration_of_readWidth hnode
  · split at h
    · rename_i cause hsequence
      obtain rfl : cause = e := by simpa using h
      exact isConfiguration_of_readWidth hsequence
    · exact isConfiguration_of_ofWidths h

namespace Generator

theorem isConfiguration_of_create {layout : Layout} {nodeId offset now : Int64}
    (h : create layout nodeId offset now = .error e) : e.isConfiguration := by
  cases create_eq_error_iff.1 h <;> rfl

/-! ## Attempts -/

variable {g : Generator} {w reading : Int64} {t n : Nat} {s : Shared} {i : Nat}

/-- The clock reads before the timestamp of the register; both relative to the offset. -/
structure Regressed (g : Generator) (register reading : Int64) (e : Error) : Prop where
  cause : e = .clockRegressed (g.relative reading) (g.layout.timestampOf register)
  before : g.relative reading < g.layout.timestampOf register

theorem Regressed.not_configuration (h : g.Regressed w reading e) : e.isConfiguration = false := by
  rw [h.cause]
  rfl

theorem regressed_of_poll (h : (g.poll w (.plain reading)).outcome = .error e) :
    g.Regressed w reading e := by
  rw [poll_plain] at h
  obtain ⟨hbefore, hcause⟩ := settle_error h
  exact ⟨hcause, hbefore⟩

/-! ## Whole calls -/

variable {σ : Type} {around : Surroundings σ} {kind : σ → Prop} {scene : σ} {d : Draw σ}

theorem commits_tick (haround : around.Stays kind) (hkind : kind scene)
    (hidle : s.phases[i]? = some .idle) (hholds : g.layout.Holds s.register t n) :
    g.Commits s i [(around.tick scene).1] (g.poll s.register (around.tick scene).1).register
      (g.poll s.register (around.tick scene).1).id? := by
  obtain ⟨reading, htick⟩ := haround.tick scene hkind
  rw [htick]
  exact commits_attempt hidle hholds reading

theorem id?_of_pending {a : Attempt} {n : Int64} (h : a.outcome = .ok (.pending n)) :
    a.id? = none := by
  rw [Attempt.id?, h]
  rfl

/-- **Stores of a call.** However many attempts it makes, it stores what the last one does. -/
theorem Draws.commits (h : Draws g around w scene d)
    (haround : around.Stays kind) (hkind : kind scene) (hw : s.register = w)
    (hidle : s.phases[i]? = some .idle) (hholds : g.layout.Holds w t n) :
    g.Commits s i (around.ticks d.attempts scene) d.register d.outcome.toOption := by
  induction h generalizing s with
  | @minted register scene a id ha hready =>
    subst hw ha
    have hid : (g.poll s.register (around.tick scene).1).id? = some id := by
      simp [Attempt.id?, hready, Except.toOption, Status.id?]
    have hlast := commits_tick haround hkind hidle hholds
    rwa [hid] at hlast
  | @failed register scene a e ha herror =>
    subst hw ha
    have hid : (g.poll s.register (around.tick scene).1).id? = none := by
      simp [Attempt.id?, herror, Except.toOption]
    have hlast := commits_tick haround hkind hidle hholds
    rwa [hid] at hlast
  | @stopped register scene a n ha hpending hstop =>
    subst hw ha
    have hlast := commits_tick haround hkind hidle hholds
    rwa [id?_of_pending hpending] at hlast
  | @retried register scene a n d ha hpending hgo hrest ih =>
    subst hw ha
    have hfirst := commits_tick haround hkind hidle hholds
    rw [id?_of_pending hpending] at hfirst
    have hkept : (g.poll s.register (around.tick scene).1).register = s.register :=
      hfirst.register_eq
    rw [hkept] at ih
    refine hfirst.cons ?_
    intro s' hregister hphases
    exact ih (haround.after_answer _ (haround.after_tick _ hkind)) hregister
      (by rw [hphases, hidle]) hholds

/-- **Cause of a failure.** It is the last reading of the call, or the last answer that it heard. -/
theorem Draws.cause (h : Draws g around w scene d)
    (haround : around.Stays kind) (hkind : kind scene) (he : d.outcome = .error e) :
    e = .cancelled ∨ ∃ reading, (around.ticks d.attempts scene).getLast? = some (.plain reading) ∧
      g.Regressed w reading e := by
  induction h with
  | minted => cases he
  | @failed register scene a cause ha herror =>
    obtain rfl : cause = e := by simpa using he
    obtain ⟨reading, htick⟩ := haround.tick scene hkind
    subst ha
    rw [htick] at herror
    exact Or.inr ⟨reading, congrArg some htick, regressed_of_poll herror⟩
  | stopped =>
    simp only [Except.error.injEq] at he
    exact Or.inl he.symm
  | @retried register scene a n d ha hpending hgo hrest ih =>
    obtain ⟨reading, htick⟩ := haround.tick scene hkind
    subst ha
    have hkept : (g.poll register (around.tick scene).1).register = register := by
      have hid := id?_of_pending hpending
      rw [htick] at hid ⊢
      exact register_of_id? hid
    have hkind' := haround.after_answer _ (haround.after_tick _ hkind)
    rcases ih hkind' he with hcancelled | ⟨last, hlast, hregressed⟩
    · exact Or.inl hcancelled
    · rw [hkept] at hregressed
      refine Or.inr ⟨last, ?_, hregressed⟩
      show ((around.tick scene).1 :: around.ticks d.attempts _).getLast? = _
      rw [List.getLast?_cons, hlast]
      rfl

/-- **Failures.** An idle caller of any state that can be reached makes an attempt or a whole call
while the others stand still. It stores the id without its node, once, or nothing if there is no id;
it fails only because the clock went backwards or the wait was called off; and flags change by its
readings alone. What is refused for its configuration is told apart from that. -/
theorem failures_commit_nothing (g : Generator) {callers : Nat} {moves : List (Nat × Access)}
    {s : Shared} (h : (Shared.fresh callers).run g moves = some s) {i : Nat}
    (hi : s.phases[i]? = some .idle) :
    (∀ reading, let a := g.poll s.register (.plain reading)
      g.Commits s i [.plain reading] a.register a.id? ∧
        ∀ e, a.outcome = .error e →
          g.Regressed s.register reading e ∧ e.isConfiguration = false) ∧
    (∀ {σ : Type} (around : Surroundings σ) (kind : σ → Prop) (fuel : Nat) (scene : σ)
      (d : Draw σ), around.Stays kind → kind scene →
      g.next around fuel s.register scene = some d →
        let ticks := around.ticks d.attempts scene
        g.Commits s i ticks d.register d.outcome.toOption ∧
          ∀ e, d.outcome = .error e →
            (e = .cancelled ∨ ∃ reading, ticks.getLast? = some (.plain reading) ∧
              g.Regressed s.register reading e) ∧ e.isConfiguration = false) ∧
    (∀ {σ α : Type} (around : Surroundings σ) (flag : σ → α),
      (∀ scene, flag (around.tick scene).2 = flag scene) →
      (∀ scene, flag (around.cancelled scene).2 = flag scene) →
      ∀ fuel register scene d, g.next around fuel register scene = some d →
        flag d.scene = flag scene) ∧
    (∀ session : Session, (session.clock.ticks 1).2 = session.poll.session.clock ∧
      session.poll.session.signals = session.signals.or (session.clock.ticks 1).1) ∧
    (∀ (session : Session) c a, session.next? c = some a → ∃ n,
      (session.clock.ticks n).2 = a.session.clock ∧
        a.session.signals = session.signals.or (session.clock.ticks n).1) ∧
    (∀ layout nodeId offset now e,
      create layout nodeId offset now = .error e → e.isConfiguration = true) ∧
    (∀ nodeBits sequenceBits e,
      Layout.ofWidths nodeBits sequenceBits = .error e → e.isConfiguration = true) ∧
    ∀ lookup e, (Layout.ofLookup lookup).result = .error e → e.isConfiguration = true := by
  obtain ⟨rs, ids, hmints⟩ : ∃ rs ids, Mints g rs s.register ids := by
    obtain ⟨w, hw, rfl, -⟩ := Recording.exists_of_run h
    exact ⟨_, _, mints_run hw⟩
  obtain ⟨t, n, hholds, -⟩ := hmints.last
  refine ⟨?_, ?_, ?_, Session.signals_poll, fun session c a => Session.signals_next,
    fun _ _ _ _ _ => isConfiguration_of_create, fun _ _ _ => Layout.isConfiguration_of_ofWidths,
    fun _ _ => Layout.isConfiguration_of_ofLookup⟩
  · intro reading
    refine ⟨commits_attempt hi hholds reading, ?_⟩
    intro e he
    have hregressed := regressed_of_poll he
    exact ⟨hregressed, hregressed.not_configuration⟩
  · intro σ around kind fuel scene d haround hkind hd
    have hdraws := draws_of_next hd
    refine ⟨hdraws.commits haround hkind rfl hi hholds, ?_⟩
    intro e he
    have hcause := hdraws.cause haround hkind he
    refine ⟨hcause, ?_⟩
    rcases hcause with rfl | ⟨reading, -, hregressed⟩
    · rfl
    · exact hregressed.not_configuration
  · intro σ α around flag htick hask fuel register scene d hd
    exact (draws_of_next hd).scene_induction (P := fun other => flag other = flag scene)
      (fun other hother => (htick other).trans hother)
      (fun other hother => (hask other).trans hother) rfl

/-- Two ids use up the fifth millisecond, while another caller has an attempt under way. -/
def crowded : List (Nat × Access) :=
  solo 1005 ++ (1, .load) :: solo 1005

/-- Two readings of that millisecond and then another one, with answers that never call off. -/
def twiceThen (reading : Int64) : Surroundings (Nat × Nat) :=
  .streams (fun k => .plain (if k < 2 then 1005 else reading)) fun _ => false

/-- After two attempts that find the millisecond exhausted, the third one finds a clock that went
backwards, or mints the only id. -/
theorem crowded_failures_commit_nothing :
    ∃ s, (Shared.fresh 2).run paired crowded = some s ∧ s.phases = [.idle, .loaded 20] ∧
      s.register = 21 ∧
      (∃ d, paired.next (twiceThen 1004) 5 s.register (0, 0) = some d ∧
        d.outcome = .error (.clockRegressed 4 5) ∧
        paired.Commits s 0 ((twiceThen 1004).ticks 3 (0, 0)) 21 none) ∧
      ∃ d, paired.next (twiceThen 1006) 5 s.register (0, 0) = some d ∧ d.outcome = .ok 26 ∧
        paired.Commits s 0 ((twiceThen 1006).ticks 3 (0, 0)) 24 (some 26) := by
  have hends : ((Shared.fresh 2).run paired crowded).map (fun s => (s.phases, s.register)) =
      some ([.idle, .loaded 20], 21) := by decide +kernel
  obtain ⟨s, hs, hstate⟩ := Option.map_eq_some_iff.1 hends
  obtain ⟨hphases, hregister⟩ := Prod.mk.inj hstate
  have hidle : s.phases[0]? = some .idle := by rw [hphases]; rfl
  have hstays : ∀ reading, (twiceThen reading).Stays fun _ => True := by
    intro reading
    exact ⟨fun scene _ => ⟨_, rfl⟩, fun _ _ => trivial, fun _ _ => trivial⟩
  obtain ⟨-, hcalls, -⟩ := failures_commit_nothing paired hs hidle
  have hcall : ∀ reading outcome register,
      (paired.next (twiceThen reading) 5 21 (0, 0)).map
          (fun d => (d.outcome, d.attempts, d.register)) = some (outcome, 3, register) →
        ∃ d, paired.next (twiceThen reading) 5 s.register (0, 0) = some d ∧ d.outcome = outcome ∧
          paired.Commits s 0 ((twiceThen reading).ticks 3 (0, 0)) register outcome.toOption := by
    intro reading outcome register hnext
    rw [← hregister] at hnext
    obtain ⟨d, hd, hdraw⟩ := Option.map_eq_some_iff.1 hnext
    obtain ⟨houtcome, hdraw⟩ := Prod.mk.inj hdraw
    obtain ⟨hattempts, hleft⟩ := Prod.mk.inj hdraw
    obtain ⟨hcommits, -⟩ := hcalls _ _ 5 _ d (hstays reading) trivial hd
    rw [hattempts, hleft, houtcome] at hcommits
    exact ⟨d, hd, houtcome, hcommits⟩
  exact ⟨s, hs, hphases, hregister,
    hcall 1004 (.error (.clockRegressed 4 5)) 21 (by decide +kernel),
    hcall 1006 (.ok 26) 24 (by decide +kernel)⟩

end Generator

end Snowflake
