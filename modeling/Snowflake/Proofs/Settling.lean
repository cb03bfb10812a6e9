import Snowflake.Ambient
import Snowflake.Proofs.Construction

/-!
# The layout of a process is settled once

What the environment is at a step, and which step settles the layout, can be read off the steps
themselves, without asking what any of them was answered (`environmentAfter`, `settled?`): the first
one that uses the layout in a valid environment, or installs one, settles it. A use in an invalid
environment stops its caller and settles nothing, so the next use tries again. A construction
settles the layout before it looks at the node id, so it does so even if it is refused then.

**Theorem (`layout_settled_once`).** These are the environment and the layout of the process after
any steps. Each step is answered by them alone (`Answers`): while the layout is unsettled from the
environment as it is at the step, and from the settled layout ever after.
-/

namespace Snowflake.Ambient

variable {now : Environment} {l : Layout} {s : Step}

/-! ## What the steps say by themselves -/

namespace Step

/-- The environment after a step. -/
def environment (now : Environment) : Step → Environment
  | set name value => now.set name value
  | unset name => now.unset name
  | _ => now

/-- The layout that a step settles if none is settled before. -/
def settles? (now : Environment) : Step → Option Layout
  | layout | create .. => (Layout.ofEnvironment now).toOption
  | install l => some l
  | _ => none

end Step

/-- The environment after some steps. -/
def environmentAfter (now : Environment) (steps : List Step) : Environment :=
  steps.foldl Step.environment now

/-- The layout that the first step settles that settles one. -/
def settled? : Environment → List Step → Option Layout
  | _, [] => none
  | now, s :: rest => (s.settles? now).or (settled? (s.environment now) rest)

theorem settled?_append (now : Environment) (before after : List Step) :
    settled? now (before ++ after) =
      (settled? now before).or (settled? (environmentAfter now before) after) := by
  induction before generalizing now with
  | nil => rfl
  | cons s before ih =>
    rw [List.cons_append, settled?, settled?, ih, Option.or_assoc]
    rfl

/-- **Once only.** No step changes a layout that is settled. -/
theorem settled?_append_of_some {before : List Step} (h : settled? now before = some l)
    (after : List Step) : settled? now (before ++ after) = some l := by
  rw [settled?_append, h, Option.some_or]

/-- What comes of a step in an environment, with the layout that is settled before it. -/
inductive Answers (now : Environment) : Option Layout → Step → Reply → Prop where
  | layout {l : Layout} : Answers now (some l) .layout (.layout (.ok l))
  | refuses {l : Layout} (other : Layout) :
      Answers now (some l) (.install other) (.installed (.error l))
  | creates {l : Layout} (nodeId offset reading : Int64) :
      Answers now (some l) (.create nodeId offset reading)
        (.created (.ok ((Generator.create l nodeId offset reading).map Prod.fst)))
  | layoutSettled {l : Layout} (h : Layout.ofEnvironment now = .ok l) :
      Answers now none .layout (.layout (.ok l))
  | layoutHalted {cause : Error} (h : Layout.ofEnvironment now = .error cause) :
      Answers now none .layout (.layout (.error (.invalidLayout cause)))
  | installs (l : Layout) : Answers now none (.install l) (.installed (.ok ()))
  | createsSettled {l : Layout} (nodeId offset reading : Int64)
      (h : Layout.ofEnvironment now = .ok l) :
      Answers now none (.create nodeId offset reading)
        (.created (.ok ((Generator.create l nodeId offset reading).map Prod.fst)))
  | createsHalted {cause : Error} (nodeId offset reading : Int64)
      (h : Layout.ofEnvironment now = .error cause) :
      Answers now none (.create nodeId offset reading) (.created (.error (.invalidLayout cause)))
  | describes (settled : Option Layout) :
      Answers now settled .describe (.described (Layout.ofEnvironment now))
  | sets (settled : Option Layout) (name : String) (value : Setting) :
      Answers now settled (.set name value) .nothing
  | unsets (settled : Option Layout) (name : String) :
      Answers now settled (.unset name) .nothing

/-- A generator that is built has the layout that is settled with it, if not before. -/
theorem Answers.layout_of_created {settled : Option Layout} {reply : Reply} {g : Generator}
    (h : Answers now settled s reply) (hg : reply = .created (.ok (.ok g))) :
    settled.or (s.settles? now) = some g.layout := by
  have hlayout : ∀ {l : Layout} {nodeId offset reading : Int64},
      Reply.created (.ok ((Generator.create l nodeId offset reading).map Prod.fst)) =
        .created (.ok (.ok g)) → l = g.layout := by
    intro l nodeId offset reading hreply
    cases hcreate : Generator.create l nodeId offset reading with
    | error e => simp [hcreate, Except.map] at hreply
    | ok built =>
      obtain ⟨g', events⟩ := built
      obtain rfl : g' = g := by simpa [hcreate, Except.map] using hreply
      exact (Generator.create_eq_ok_iff.1 hcreate).1.1.symm
  cases h with
  | creates => rw [hlayout hg, Option.some_or]
  | createsSettled _ _ _ henv =>
    rw [Option.none_or, Step.settles?, henv, Except.toOption, hlayout hg]
  | _ => cases hg

/-! ## One step -/

theorem layout_of_ok (h : Layout.ofEnvironment now = .ok l) :
    (⟨now, none⟩ : Ambient).layout = (⟨now, some l⟩, [.resolved l], .ok l) := by
  simp only [layout, h]

theorem layout_of_error {cause : Error} (h : Layout.ofEnvironment now = .error cause) :
    (⟨now, none⟩ : Ambient).layout = (⟨now, none⟩, [], .error (.invalidLayout cause)) := by
  simp only [layout, h]

theorem create_of_layout {p p' : Ambient} {events : List Event}
    (h : p.layout = (p', events, .ok l)) (nodeId offset reading : Int64) :
    ∃ more, p.create nodeId offset reading =
      (p', more, .ok ((Generator.create l nodeId offset reading).map Prod.fst)) := by
  simp only [create, h]
  cases Generator.create l nodeId offset reading with
  | ok built => exact ⟨_, rfl⟩
  | error e => exact ⟨_, rfl⟩

/-- **One step.** It changes the environment, settles the layout if that is not settled, and is
answered from the two. -/
theorem step_settles (now : Environment) (settled : Option Layout) (s : Step) :
    ((⟨now, settled⟩ : Ambient).step s).1 = ⟨s.environment now, settled.or (s.settles? now)⟩ ∧
      Answers now settled s ((⟨now, settled⟩ : Ambient).step s).2.2 := by
  cases s with
  | layout =>
    cases settled with
    | some l => exact ⟨rfl, .layout⟩
    | none =>
      cases henv : Layout.ofEnvironment now with
      | ok l =>
        simp only [step, layout_of_ok henv, Step.settles?, henv]
        exact ⟨rfl, .layoutSettled henv⟩
      | error cause =>
        simp only [step, layout_of_error henv, Step.settles?, henv]
        exact ⟨rfl, .layoutHalted henv⟩
  | install l =>
    cases settled with
    | some existing => exact ⟨rfl, .refuses l⟩
    | none => exact ⟨rfl, .installs l⟩
  | describe => exact ⟨by simp [step, Step.environment, Step.settles?], .describes settled⟩
  | create nodeId offset reading =>
    cases settled with
    | some l =>
      obtain ⟨more, h⟩ := create_of_layout (p := ⟨now, some l⟩) rfl nodeId offset reading
      simp only [step, h]
      exact ⟨rfl, .creates nodeId offset reading⟩
    | none =>
      cases henv : Layout.ofEnvironment now with
      | ok l =>
        obtain ⟨more, h⟩ := create_of_layout (layout_of_ok henv) nodeId offset reading
        simp only [step, h, Step.settles?, henv]
        exact ⟨rfl, .createsSettled nodeId offset reading henv⟩
      | error cause =>
        simp only [step, create, layout_of_error henv, Step.settles?, henv]
        exact ⟨rfl, .createsHalted nodeId offset reading henv⟩
  | set name value =>
    exact ⟨by simp [step, Step.environment, Step.settles?], .sets settled name value⟩
  | unset name => exact ⟨by simp [step, Step.environment, Step.settles?], .unsets settled name⟩

/-! ## Many steps -/

/-- **Many steps.** They leave the environment that they make, and the layout that is settled before
them or that they settle. -/
theorem steps_settle (now : Environment) (settled : Option Layout) (steps : List Step) :
    ((⟨now, settled⟩ : Ambient).steps steps).1 =
      ⟨environmentAfter now steps, settled.or (settled? now steps)⟩ := by
  induction steps generalizing now settled with
  | nil => simp [Ambient.steps, environmentAfter, settled?]
  | cons s rest ih =>
    change ((((⟨now, settled⟩ : Ambient).step s).1).steps rest).1 = _
    rw [(step_settles now settled s).1, ih, Option.or_assoc]
    rfl

theorem length_replies (p : Ambient) (steps : List Step) :
    (p.steps steps).2.2.length = steps.length := by
  induction steps generalizing p with
  | nil => rfl
  | cons s rest ih => simp [Ambient.steps, ih]

theorem replies_append (p : Ambient) (before after : List Step) :
    (p.steps (before ++ after)).2.2 =
      (p.steps before).2.2 ++ ((p.steps before).1.steps after).2.2 := by
  induction before generalizing p with
  | nil => rfl
  | cons s before ih => simp [Ambient.steps, ih]

/-- **The layout is settled once.** In a process that starts in any environment, these are the
environment and the layout after any steps. A step is answered from the layout settled before it, or
while none is settled from the environment as it is; it is the first to settle one exactly if it
uses the layout in a valid environment or installs one. From then on the layout stays, and every
generator that is built has it. -/
theorem layout_settled_once (e : Environment) (before : List Step) (s : Step)
    (after : List Step) :
    let p : Ambient := { environment := e }
    let now := environmentAfter e before
    (p.steps before).1 = ⟨now, settled? e before⟩ ∧
    (∃ reply, (p.steps (before ++ s :: after)).2.2[before.length]? = some reply ∧
      Answers now (settled? e before) s reply ∧
      ∀ g, reply = .created (.ok (.ok g)) → settled? e (before ++ [s]) = some g.layout) ∧
    (settled? e before = none → settled? e (before ++ [s]) = s.settles? now) ∧
    ∀ l, settled? e before = some l → settled? e (before ++ s :: after) = some l := by
  intro p now
  have hone : settled? e (before ++ [s]) = (settled? e before).or (s.settles? now) := by
    rw [settled?_append, settled?, settled?, Option.or_none]
  have hbefore : (p.steps before).1 = ⟨now, settled? e before⟩ := steps_settle e none before
  have hanswer := (step_settles now (settled? e before) s).2
  refine ⟨hbefore, ⟨_, ?_, hanswer, fun g hg => ?_⟩, fun h => ?_, fun l h => ?_⟩
  · have hlength : (p.steps before).2.2.length = before.length := length_replies p before
    rw [replies_append, hbefore, List.getElem?_append_right (Nat.le_of_eq hlength), hlength,
      Nat.sub_self]
    rfl
  · rw [hone]
    exact hanswer.layout_of_created hg
  · rw [hone, h, Option.none_or]
  · exact settled?_append_of_some h _

/-- An environment whose node width is no number. -/
def mistaken : Environment := ⟨[(Layout.nodeBitsVariable, .text "four")]⟩

/-- Uses before and after the mistake is put right. The generator of the third use is refused, since
its node id is too large. -/
def startup : List Step :=
  [.layout, .create 3 0 5, .set Layout.nodeBitsVariable (.text " 4 "), .create 16 0 5,
    .install .standard, .unset Layout.nodeBitsVariable, .describe, .layout, .create 3 0 5]

/-- The refused construction settles the layout, and a later one succeeds with it, although the
environment describes another one by then. -/
theorem startup_settled_once :
    settled? mistaken (startup.take 3) = none ∧
    settled? mistaken (startup.take 4) = some ⟨4, 12, by decide⟩ ∧
    settled? mistaken startup = some ⟨4, 12, by decide⟩ ∧
    (({ environment := mistaken } : Ambient).steps startup).2.2[6]? =
      some (.described (.ok .standard)) ∧
    ∃ g, (({ environment := mistaken } : Ambient).steps startup).2.2[8]? =
        some (.created (.ok (.ok g))) ∧
      g.layout = ⟨4, 12, by decide⟩ := by
  have hunsettled : settled? mistaken (startup.take 3) = none := by decide +kernel
  obtain ⟨-, -, hfirst, -⟩ := layout_settled_once mistaken (startup.take 3) (.create 16 0 5)
    (startup.drop 4)
  have hsettled : settled? mistaken (startup.take 4) = some ⟨4, 12, by decide⟩ :=
    (hfirst hunsettled).trans (by decide +kernel)
  obtain ⟨-, -, -, hstays⟩ := layout_settled_once mistaken (startup.take 4) (.install .standard)
    (startup.drop 5)
  have hlater : settled? mistaken startup = some ⟨4, 12, by decide⟩ := hstays _ hsettled
  obtain ⟨-, ⟨reply, hreply, -, hbuilt⟩, -, -⟩ := layout_settled_once mistaken (startup.take 8)
    (.create 3 0 5) []
  have hlast : (({ environment := mistaken } : Ambient).steps startup).2.2[8]? =
      some (.created (.ok (.ok ⟨⟨4, 12, by decide⟩, 3, 0, by decide, by decide, by decide⟩))) := by
    decide +kernel
  have hlayout := hbuilt _ (Option.some.inj (hreply.symm.trans hlast))
  exact ⟨hunsettled, hsettled, hlater, by decide +kernel, _, hlast,
    Option.some.inj (hlayout.symm.trans hlater)⟩

end Snowflake.Ambient
