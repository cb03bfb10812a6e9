import Snowflake.Interrupt
import Snowflake.Proofs.Replacing
import Mathlib.Data.List.Induction

/-!
# Which handles share a flag, and how it stands

Which flag a handle has is said by the calls alone (`origins`): a new handle has one of its own, a
clone has that of the handle it is made from, whatever that was a clone of, and a thread's handle
has the thread's. So is what is done to a flag (`Call.mark?`), by whichever of its handles: it is
raised by an interrupt, and lowered by a clear, which may also come from the thread itself.

**Stickiness.** A flag is up exactly if the last call that raised or lowered it raised it
(`Raised`). Flags that are made start lowered, because nothing was done to any of their handles
before there was one.

**No leaks.** Two handles lead to one flag only if they have the same origin (`Mirrors`), so a call
on the one changes nothing of the other.

**Theorem (`raised_by_last_mark`).** This is how every handle reads after any calls, directly, for
its thread, and as a reason to cancel. Each call is answered by the calls before it alone
(`Answers`).
-/

namespace Snowflake.Interrupts

/-! ## What the calls say by themselves -/

/-- Where the flag of a handle comes from: it is that of a thread, or was made for the handle with
this number. -/
inductive Origin where
  | thread (number : Nat)
  | handle (number : Nat)
deriving DecidableEq, Repr

variable {cs : List Call} {c : Call} {os : List Origin} {o o' : Origin} {s : Interrupts}

/-- The origins of all handles after one more call. -/
def Call.origins (before : List Origin) : Call → List Origin
  | .new => before ++ [.handle before.length]
  | .clone h => before ++ before[h]?.toList
  | .current t => before ++ [.thread t]
  | _ => before

/-- The origins of the handles, in the order of their numbers. -/
def origins (cs : List Call) : List Origin := cs.foldl Call.origins []

/-- The flag that a call raises or lowers. -/
def Call.mark? (origins : List Origin) : Call → Option (Origin × Bool)
  | .interrupt h => origins[h]?.map (·, true)
  | .clear h => origins[h]?.map (·, false)
  | .threadClear t => some (.thread t, false)
  | _ => none

/-- The call with this number raises or lowers a flag. -/
def Marks (cs : List Call) (k : Nat) (o : Origin) (up : Bool) : Prop :=
  ∃ c, cs[k]? = some c ∧ c.mark? (origins (cs.take k)) = some (o, up)

/-- The last call that raised or lowered a flag raised it. -/
def Raised (cs : List Call) (o : Origin) : Prop :=
  ∃ k, Marks cs k o true ∧ ∀ j > k, ∀ up, ¬Marks cs j o up

theorem origins_append (cs : List Call) (c : Call) :
    origins (cs ++ [c]) = c.origins (origins cs) := by
  rw [origins, List.foldl_append]
  rfl

theorem marks_append {k : Nat} {up : Bool} :
    Marks (cs ++ [c]) k o up ↔
      Marks cs k o up ∨ k = cs.length ∧ c.mark? (origins cs) = some (o, up) := by
  constructor
  · rintro ⟨c', hc', hmark⟩
    rcases getElem?_concat_eq_some_iff.1 hc' with hc' | ⟨rfl, rfl⟩
    · obtain ⟨hlt, -⟩ := List.getElem?_eq_some_iff.1 hc'
      rw [List.take_append_of_le_length (Nat.le_of_lt hlt)] at hmark
      exact .inl ⟨c', hc', hmark⟩
    · rw [List.take_left] at hmark
      exact .inr ⟨rfl, hmark⟩
  · rintro (⟨c', hc', hmark⟩ | ⟨rfl, hmark⟩)
    · obtain ⟨hlt, -⟩ := List.getElem?_eq_some_iff.1 hc'
      refine ⟨c', getElem?_concat_eq_some_iff.2 (.inl hc'), ?_⟩
      rwa [List.take_append_of_le_length (Nat.le_of_lt hlt)]
    · exact ⟨c, getElem?_concat_eq_some_iff.2 (.inr ⟨rfl, rfl⟩), by rwa [List.take_left]⟩

theorem Marks.lt {k : Nat} {up : Bool} (h : Marks cs k o up) : k < cs.length := by
  obtain ⟨c, hc, -⟩ := h
  exact (List.getElem?_eq_some_iff.1 hc).1

/-- A call decides how the flag stands that it marks, and no other. -/
theorem raised_append :
    Raised (cs ++ [c]) o ↔
      c.mark? (origins cs) = some (o, true) ∨
        (∀ up, c.mark? (origins cs) ≠ some (o, up)) ∧ Raised cs o := by
  constructor
  · rintro ⟨k, hk, hlast⟩
    rcases marks_append.1 hk with hk | ⟨rfl, hmark⟩
    · refine .inr ⟨fun up hmark => ?_, k, hk, fun j hj up hmark => ?_⟩
      · exact hlast cs.length hk.lt up (marks_append.2 (.inr ⟨rfl, hmark⟩))
      · exact hlast j hj up (marks_append.2 (.inl hmark))
    · exact .inl hmark
  · rintro (hmark | ⟨hother, k, hk, hlast⟩)
    · refine ⟨cs.length, marks_append.2 (.inr ⟨rfl, hmark⟩), fun j hj up hj' => ?_⟩
      have hlt := hj'.lt
      rw [List.length_append, List.length_singleton] at hlt
      omega
    · refine ⟨k, marks_append.2 (.inl hk), fun j hj up hj' => ?_⟩
      rcases marks_append.1 hj' with hj' | ⟨-, hmark⟩
      · exact hlast j hj up hj'
      · exact hother up hmark

theorem raised_append_of_ne (h : ∀ up, c.mark? (origins cs) ≠ some (o, up)) :
    Raised (cs ++ [c]) o ↔ Raised cs o := by
  rw [raised_append]
  exact ⟨fun hr => (hr.resolve_left (h true)).2, fun hr => .inr ⟨h, hr⟩⟩

/-! ## The flags behind the origins -/

/-- An origin that there is: a thread has a flag from the start, a handle from when it is made. -/
inductive Known (os : List Origin) : Origin → Prop where
  | thread (number : Nat) : Known os (.thread number)
  | handle {o : Origin} (h : o ∈ os) : Known os o

theorem known_of_getElem? {k : Nat} (h : os[k]? = some o) : Known os o :=
  .handle (List.mem_of_getElem? h)

theorem known_append_iff : Known (os ++ [o']) o ↔ Known os o ∨ o = o' := by
  constructor
  · rintro (t | h)
    · exact .inl (.thread t)
    · rcases List.mem_append.1 h with h | h
      · exact .inl (.handle h)
      · exact .inr (List.mem_singleton.1 h)
  · rintro ((t | h) | rfl)
    · exact .thread t
    · exact .handle (List.mem_append_left _ h)
    · exact .handle (List.mem_append_right _ List.mem_cons_self)

theorem Known.of_append (ho : Known os o) (h : Known (os ++ [o]) o') : Known os o' := by
  rcases known_append_iff.1 h with h | rfl
  · exact h
  · exact ho

/-- Only flags that there are can be raised. -/
theorem Call.known_of_mark? {up : Bool} (h : c.mark? os = some (o, up)) : Known os o := by
  cases c with
  | interrupt k | clear k =>
    obtain ⟨o', ho', hmark⟩ := Option.map_eq_some_iff.1 h
    obtain ⟨rfl, -⟩ := Prod.mk.inj hmark
    exact known_of_getElem? ho'
  | threadClear t =>
    obtain ⟨rfl, -⟩ := Prod.mk.inj (Option.some.inj h)
    exact .thread t
  | new | clone | current | isInterrupted | threadIsInterrupted => cases h

theorem Call.prefix_origins (c : Call) (os : List Origin) : os <+: c.origins os := by
  cases c <;> simp [Call.origins]

theorem Marks.known {k : Nat} {up : Bool} (h : Marks cs k o up) : Known (origins cs) o := by
  induction cs using List.reverseRecOn with
  | nil => exact absurd h.lt (Nat.not_lt_zero k)
  | append_singleton cs c ih =>
    have hknown : Known (origins cs) o := by
      rcases marks_append.1 h with h | ⟨-, hmark⟩
      · exact ih h
      · exact Call.known_of_mark? hmark
    rw [origins_append]
    cases hknown with
    | thread t => exact .thread t
    | handle ho => exact .handle ((c.prefix_origins _).subset ho)

/-- Whose flag it is that has this origin. -/
def owner (s : Interrupts) : Origin → Owner
  | .thread t => .thread t
  | .handle h => s.handles[h]?.getD .loose

/-- The handles lead to different flags if they have different origins. -/
structure Owns (os : List Origin) (s : Interrupts) : Prop where
  handles : s.handles = os.map s.owner
  /-- A flag that is made is named for the first handle to it. -/
  own : ∀ h, .handle h ∈ os → os[h]? = some (.handle h)
  made : ∀ h, .handle h ∈ os → ∃ m < s.made, s.owner (.handle h) = .made m
  distinct : ∀ o o', Known os o → Known os o' → s.owner o = s.owner o' → o = o'

namespace Owns

theorem length_eq (h : Owns os s) : s.handles.length = os.length := by
  rw [h.handles, List.length_map]

theorem getElem? (h : Owns os s) (k : Nat) : s.handles[k]? = os[k]?.map s.owner := by
  conv_lhs => rw [h.handles]
  exact List.getElem?_map

theorem owner_add (h : Owns os s) (ho : Known os o) {s' : Interrupts} {w : Owner}
    (hs : s'.handles = s.handles ++ [w]) : s'.owner o = s.owner o := by
  cases ho with
  | thread t => rfl
  | @handle o ho =>
    cases o with
    | thread t => rfl
    | handle k =>
      have hlt : k < s.handles.length := by
        obtain ⟨hlt, -⟩ := List.getElem?_eq_some_iff.1 (h.own k ho)
        rwa [h.length_eq]
      rw [owner, owner, hs, List.getElem?_append_left hlt]

theorem owner_new (h : Owns os s) {s' : Interrupts} {w : Owner}
    (hs : s'.handles = s.handles ++ [w]) : s'.owner (.handle os.length) = w := by
  rw [owner, hs, ← h.length_eq]
  simp

theorem owner_ne_made (h : Owns os s) (ho : Known os o) {m : Nat} (hm : s.made ≤ m) :
    s.owner o ≠ .made m := by
  intro hmade
  cases ho with
  | thread t => cases hmade
  | @handle o ho =>
    cases o with
    | thread t => cases hmade
    | handle k =>
      obtain ⟨m', hm', hk⟩ := h.made k ho
      exact Nat.ne_of_lt (Nat.lt_of_lt_of_le hm' hm) (Owner.made.inj (hk.symm.trans hmade))

theorem lt_of_handle_mem (h : Owns os s) {k : Nat} (hk : .handle k ∈ os) : k < os.length :=
  (List.getElem?_eq_some_iff.1 (h.own k hk)).1

theorem handles_add (h : Owns os s) {s' : Interrupts} {w : Owner}
    (hs : s'.handles = s.handles ++ [w]) (hw : s'.owner o = w) :
    s'.handles = (os ++ [o]).map s'.owner := by
  have hold : os.map s'.owner = os.map s.owner :=
    List.map_congr_left fun o ho => h.owner_add (.handle ho) hs
  rw [List.map_append, hold, ← h.handles, List.map_singleton, hw, hs]

theorem share (h : Owns os s) (ho : Known os o) :
    Owns (os ++ [o]) { s with handles := s.handles ++ [s.owner o] } := by
  have hknown : ∀ o', Known (os ++ [o]) o' → Known os o' := fun o' => ho.of_append
  have hold : ∀ k, .handle k ∈ os ++ [o] → .handle k ∈ os := by
    intro k hk
    cases hknown _ (.handle hk) with
    | handle hk => exact hk
  generalize hs : ({ s with handles := s.handles ++ [s.owner o] } : Interrupts) = s'
  have hhandles : s'.handles = s.handles ++ [s.owner o] := hs ▸ rfl
  have howner : ∀ o', Known (os ++ [o]) o' → s'.owner o' = s.owner o' := fun o' ho' =>
    h.owner_add (hknown o' ho') hhandles
  refine ⟨h.handles_add hhandles (h.owner_add ho hhandles), fun k hk => ?_, fun k hk => ?_, ?_⟩
  · rw [List.getElem?_append_left (h.lt_of_handle_mem (hold k hk))]
    exact h.own k (hold k hk)
  · rw [howner _ (.handle hk), ← hs]
    exact h.made k (hold k hk)
  · intro o₁ o₂ h₁ h₂ hsame
    rw [howner o₁ h₁, howner o₂ h₂] at hsame
    exact h.distinct o₁ o₂ (hknown o₁ h₁) (hknown o₂ h₂) hsame

theorem make (h : Owns os s) :
    Owns (os ++ [.handle os.length])
      { s with made := s.made + 1, handles := s.handles ++ [.made s.made] } := by
  generalize hs : ({ s with made := s.made + 1, handles := s.handles ++ [.made s.made] } :
    Interrupts) = s'
  have hhandles : s'.handles = s.handles ++ [.made s.made] := hs ▸ rfl
  have hmade : s'.made = s.made + 1 := hs ▸ rfl
  have howner : ∀ o, Known os o → s'.owner o = s.owner o := fun o ho => h.owner_add ho hhandles
  have hnew : s'.owner (.handle os.length) = .made s.made := h.owner_new hhandles
  refine ⟨h.handles_add hhandles hnew, fun k hk => ?_, fun k hk => ?_, ?_⟩
  · rcases List.mem_append.1 hk with hk | hk
    · rw [List.getElem?_append_left (h.lt_of_handle_mem hk)]
      exact h.own k hk
    · obtain rfl := Origin.handle.inj (List.mem_singleton.1 hk)
      exact List.getElem?_concat_length
  · rcases List.mem_append.1 hk with hk | hk
    · obtain ⟨m, hm, howns⟩ := h.made k hk
      exact ⟨m, by omega, (howner _ (.handle hk)).trans howns⟩
    · obtain rfl := Origin.handle.inj (List.mem_singleton.1 hk)
      exact ⟨s.made, by omega, hnew⟩
  · intro o₁ o₂ h₁ h₂ hsame
    rcases known_append_iff.1 h₁ with h₁ | rfl
    · rcases known_append_iff.1 h₂ with h₂ | rfl
      · rw [howner o₁ h₁, howner o₂ h₂] at hsame
        exact h.distinct o₁ o₂ h₁ h₂ hsame
      · rw [howner o₁ h₁, hnew] at hsame
        exact absurd hsame (h.owner_ne_made h₁ s.made.le_refl)
    · rcases known_append_iff.1 h₂ with h₂ | rfl
      · rw [howner o₂ h₂, hnew] at hsame
        exact absurd hsame.symm (h.owner_ne_made h₂ s.made.le_refl)
      · rfl

end Owns

/-! ## One call -/

/-- The handles and flags are those that the calls lead to. -/
structure Mirrors (cs : List Call) (s : Interrupts) : Prop where
  owns : Owns (origins cs) s
  fresh : ∀ m ≥ s.made, s.flags.isRaised (.made m) = false
  raised : ∀ o, Known (origins cs) o → (s.flags.isRaised (s.owner o) ↔ Raised cs o)

/-- What a call does. -/
inductive Does (os : List Origin) (s : Interrupts) : Call → Interrupts → Prop where
  | makes :
      Does os s .new { s with made := s.made + 1, handles := s.handles ++ [.made s.made] }
  | shares {c : Call} {o : Origin} (ho : Known os o) (horigins : c.origins os = os ++ [o])
      (hmark : c.mark? os = none) : Does os s c { s with handles := s.handles ++ [s.owner o] }
  | marks {c : Call} {o : Origin} {up : Bool} (ho : Known os o) (horigins : c.origins os = os)
      (hmark : c.mark? os = some (o, up)) :
      Does os s c { s with flags := s.flags.set (s.owner o) up }
  | rests {c : Call} (horigins : c.origins os = os) (hmark : c.mark? os = none) : Does os s c s

/-- What a call is answered. -/
inductive Answers (cs : List Call) : Call → Reply → Prop where
  | makes : Answers cs .new (.handle (origins cs).length)
  | hands (t : Nat) : Answers cs (.current t) (.handle (origins cs).length)
  | clones {h : Nat} (hh : h < (origins cs).length) :
      Answers cs (.clone h) (.handle (origins cs).length)
  | raises {h : Nat} (hh : h < (origins cs).length) : Answers cs (.interrupt h) .nothing
  | lowers {h : Nat} {o : Origin} {up : Bool} (ho : (origins cs)[h]? = some o)
      (hup : up ↔ Raised cs o) : Answers cs (.clear h) (.flag up)
  | tells {h : Nat} {o : Origin} {up : Bool} (ho : (origins cs)[h]? = some o)
      (hup : up ↔ Raised cs o) : Answers cs (.isInterrupted h) (.flag up)
  | threadLowers {t : Nat} {up : Bool} (hup : up ↔ Raised cs (.thread t)) :
      Answers cs (.threadClear t) (.flag up)
  | threadTells {t : Nat} {up : Bool} (hup : up ↔ Raised cs (.thread t)) :
      Answers cs (.threadIsInterrupted t) (.flag up)
  /-- There is no such handle. -/
  | misses {c : Call} {h : Nat} (hc : c ∈ [.clone h, .interrupt h, .clear h, .isInterrupted h])
      (hh : (origins cs).length ≤ h) : Answers cs c .nothing

/-- A call on a handle that does not exist does nothing. -/
theorem does_answers_of_none {k : Nat} (h : (origins cs)[k]? = none) (s : Interrupts)
    (hc : c ∈ [.clone k, .interrupt k, .clear k, .isInterrupted k]) :
    Does (origins cs) s c s ∧ Answers cs c .nothing := by
  refine ⟨?_, .misses hc (List.getElem?_eq_none_iff.1 h)⟩
  simp only [List.mem_cons, List.not_mem_nil, or_false] at hc
  rcases hc with rfl | rfl | rfl | rfl
  · exact .rests (by simp [Call.origins, h]) rfl
  · exact .rests rfl (by simp [Call.mark?, h])
  · exact .rests rfl (by simp [Call.mark?, h])
  · exact .rests rfl rfl

namespace Mirrors

/-- A call on a handle is one on the flag of its origin, or on nothing. -/
theorem onHandle_cases (h : Mirrors cs s) (k : Nat) :
    (∃ o, (origins cs)[k]? = some o ∧ ∀ act, s.onHandle k act = act (s.owner o)) ∨
      (origins cs)[k]? = none ∧ ∀ act, s.onHandle k act = (s, .nothing) := by
  simp only [onHandle, h.owns.getElem?]
  cases (origins cs)[k]? with
  | some o => exact .inl ⟨o, rfl, fun act => rfl⟩
  | none => exact .inr ⟨rfl, fun act => rfl⟩

theorem add_eq (h : Mirrors cs s) (w : Owner) :
    s.add w = ({ s with handles := s.handles ++ [w] }, .handle (origins cs).length) := by
  rw [add, h.owns.length_eq]

theorem does_answers (h : Mirrors cs s) (c : Call) :
    Does (origins cs) s c (s.call c).1 ∧ Answers cs c (s.call c).2 := by
  cases c with
  | new =>
    rw [call, add, h.owns.length_eq]
    exact ⟨.makes, .makes⟩
  | current t =>
    rw [call, h.add_eq]
    exact ⟨.shares (.thread t) rfl rfl, .hands t⟩
  | threadClear t => exact ⟨.marks (.thread t) rfl rfl, .threadLowers (h.raised _ (.thread t))⟩
  | threadIsInterrupted t => exact ⟨.rests rfl rfl, .threadTells (h.raised _ (.thread t))⟩
  | clone k =>
    rcases h.onHandle_cases k with ⟨o, ho, hact⟩ | ⟨hnone, hact⟩
    · obtain ⟨hlt, -⟩ := List.getElem?_eq_some_iff.1 ho
      rw [call, hact, h.add_eq]
      exact ⟨.shares (known_of_getElem? ho) (by simp [Call.origins, ho]) rfl, .clones hlt⟩
    · rw [call, hact]
      exact does_answers_of_none hnone s (by simp)
  | interrupt k =>
    rcases h.onHandle_cases k with ⟨o, ho, hact⟩ | ⟨hnone, hact⟩
    · obtain ⟨hlt, -⟩ := List.getElem?_eq_some_iff.1 ho
      rw [call, hact]
      exact ⟨.marks (known_of_getElem? ho) rfl (by simp [Call.mark?, ho]), .raises hlt⟩
    · rw [call, hact]
      exact does_answers_of_none hnone s (by simp)
  | clear k =>
    rcases h.onHandle_cases k with ⟨o, ho, hact⟩ | ⟨hnone, hact⟩
    · have hknown := known_of_getElem? ho
      rw [call, hact]
      exact ⟨.marks hknown rfl (by simp [Call.mark?, ho]), .lowers ho (h.raised o hknown)⟩
    · rw [call, hact]
      exact does_answers_of_none hnone s (by simp)
  | isInterrupted k =>
    rcases h.onHandle_cases k with ⟨o, ho, hact⟩ | ⟨hnone, hact⟩
    · rw [call, hact]
      exact ⟨.rests rfl rfl, .tells ho (h.raised o (known_of_getElem? ho))⟩
    · rw [call, hact]
      exact does_answers_of_none hnone s (by simp)

theorem not_raised_new (h : Mirrors cs s) : ¬Raised cs (.handle (origins cs).length) := by
  rintro ⟨k, hk, -⟩
  cases hk.known with
  | handle hmem => exact Nat.lt_irrefl _ (h.owns.lt_of_handle_mem hmem)

theorem after (h : Mirrors cs s) {s' : Interrupts} (hdoes : Does (origins cs) s c s') :
    Mirrors (cs ++ [c]) s' := by
  cases hdoes with
  | makes =>
    have horigins : origins (cs ++ [.new]) = origins cs ++ [.handle (origins cs).length] :=
      origins_append cs .new
    have howns := h.owns.make
    refine ⟨horigins ▸ howns, fun m hm => h.fresh m (Nat.le_of_succ_le hm), fun o ho => ?_⟩
    rw [raised_append_of_ne (by simp [Call.mark?])]
    rw [horigins] at ho
    rcases known_append_iff.1 ho with ho | rfl
    · rw [h.owns.owner_add ho rfl]
      exact h.raised o ho
    · rw [h.owns.owner_new rfl, h.fresh s.made s.made.le_refl]
      simpa using h.not_raised_new
  | shares ho horigins hmark =>
    rw [← origins_append] at horigins
    refine ⟨horigins ▸ h.owns.share ho, h.fresh, fun o' ho' => ?_⟩
    rw [horigins] at ho'
    rw [raised_append_of_ne (by simp [hmark]), h.owns.owner_add (ho.of_append ho') rfl]
    exact h.raised o' (ho.of_append ho')
  | @marks _ o up ho horigins hmark =>
    rw [← origins_append] at horigins
    refine ⟨horigins ▸ ⟨h.owns.handles, h.owns.own, h.owns.made, h.owns.distinct⟩, fun m hm => ?_,
      fun o' ho' => ?_⟩
    · rw [Flags.isRaised_set, if_neg (h.owns.owner_ne_made ho hm).symm]
      exact h.fresh m hm
    · rw [horigins] at ho'
      show (s.flags.set (s.owner o) up).isRaised (s.owner o') ↔ _
      rw [Flags.isRaised_set]
      by_cases hsame : o' = o
      · subst hsame
        rw [if_pos rfl, raised_append, hmark]
        simp
      · -- Another origin leads to another flag, which is not set.
        rw [if_neg fun howner => hsame (h.owns.distinct o' o ho' ho howner),
          raised_append_of_ne (by simp [hmark, Ne.symm hsame])]
        exact h.raised o' ho'
  | rests horigins hmark =>
    rw [← origins_append] at horigins
    refine ⟨horigins ▸ h.owns, h.fresh, fun o ho => ?_⟩
    rw [raised_append_of_ne (by simp [hmark])]
    exact h.raised o (horigins ▸ ho)

/-- **Readings.** A handle reads as the calls before it say. -/
theorem reading (h : Mirrors cs s) {k : Nat} (hk : (origins cs)[k]? = some o) :
    ∃ w up, s.handles[k]? = some w ∧ s.flags.isRaised w = up ∧ s.readings[k]? = some up ∧
      (up ↔ Raised cs o) := by
  have hhandle : s.handles[k]? = some (s.owner o) := by
    rw [h.owns.getElem?, hk]
    rfl
  refine ⟨s.owner o, s.flags.isRaised (s.owner o), hhandle, rfl, ?_,
    h.raised o (known_of_getElem? hk)⟩
  rw [readings, List.getElem?_map, hhandle]
  rfl

/-- What a handle reads after one more call. -/
theorem reading_call (h : Mirrors cs s) (c : Call) {k : Nat} (hk : (origins cs)[k]? = some o) :
    ∃ up, (s.call c).1.readings[k]? = some up ∧ (up ↔ Raised (cs ++ [c]) o) := by
  have hk' : (origins (cs ++ [c]))[k]? = some o := by
    obtain ⟨more, hmore⟩ := c.prefix_origins (origins cs)
    obtain ⟨hlt, -⟩ := List.getElem?_eq_some_iff.1 hk
    rw [origins_append, ← hmore, List.getElem?_append_left hlt, hk]
  obtain ⟨-, up, -, -, hreading, hup⟩ := (h.after (h.does_answers c).1).reading hk'
  exact ⟨up, hreading, hup⟩

/-! ## Whole sequences -/

theorem calls (h : Mirrors cs s) (cs' : List Call) :
    Mirrors (cs ++ cs') (s.calls cs').1 ∧
    ∀ (k : Nat) c, cs'[k]? = some c →
      ∃ reply, (s.calls cs').2[k]? = some reply ∧ Answers (cs ++ cs'.take k) c reply := by
  induction cs' generalizing cs s with
  | nil => exact ⟨by rwa [List.append_nil], fun k c hk => by simp at hk⟩
  | cons c cs' ih =>
    obtain ⟨hdoes, hanswers⟩ := h.does_answers c
    obtain ⟨hmirrors, hreplies⟩ := ih (h.after hdoes)
    rw [List.append_assoc] at hmirrors
    refine ⟨hmirrors, fun k c' hk => ?_⟩
    cases k with
    | zero =>
      obtain rfl := Option.some.inj hk
      refine ⟨(s.call c).2, rfl, ?_⟩
      rwa [List.take_zero, List.append_nil]
    | succ k =>
      obtain ⟨reply, hreply, hanswers'⟩ := hreplies k c' hk
      refine ⟨reply, hreply, ?_⟩
      rwa [List.take_succ_cons, List.append_cons]

end Mirrors

theorem mirrors_nil : Mirrors [] {} where
  owns :=
    { handles := rfl
      own := fun k hk => by cases hk
      made := fun k hk => by cases hk
      distinct := by
        rintro _ _ (t | ho) (t' | ho') hsame
        · exact congrArg Origin.thread (Owner.thread.inj hsame)
        all_goals contradiction }
  fresh m hm := rfl
  raised o ho := by
    have hnone : ¬Raised [] o := fun ⟨k, hk, _⟩ => Nat.not_lt_zero k hk.lt
    simpa using hnone

/-- **Sticky, shared and isolated.** After any calls each handle reads as the last call left its
flag that raised or lowered it, by whichever handle, and each thread reads its own flag so. Both are
reasons to cancel exactly then. Every call was answered by those before it. One more call lowers
what it clears for all handles to the flag, and leaves alone what the handles to other flags read.
-/
theorem raised_by_last_mark (cs : List Call) :
    let s := (({} : Interrupts).calls cs).1
    s.handles.length = (origins cs).length ∧
    (∀ (k : Nat) o, (origins cs)[k]? = some o →
      ∃ w up, s.handles[k]? = some w ∧ (Canceller.flag w).isCancelled s.flags = up ∧
        s.readings[k]? = some up ∧ (up ↔ Raised cs o)) ∧
    (∀ t, (Canceller.flag (.thread t)).isCancelled s.flags ↔ Raised cs (.thread t)) ∧
    (∀ (k : Nat) c, cs[k]? = some c →
      ∃ reply, (({} : Interrupts).calls cs).2[k]? = some reply ∧ Answers (cs.take k) c reply) ∧
    ∀ c (k : Nat) o, (origins cs)[k]? = some o →
      (c.mark? (origins cs) = some (o, false) → (s.call c).1.readings[k]? = some false) ∧
      ((∀ up, c.mark? (origins cs) ≠ some (o, up)) →
        (s.call c).1.readings[k]? = s.readings[k]?) := by
  intro s
  obtain ⟨h, hreplies⟩ := mirrors_nil.calls cs
  rw [List.nil_append] at h
  refine ⟨h.owns.length_eq, fun k o hk => h.reading hk, fun t => h.raised _ (.thread t), ?_, ?_⟩
  · exact fun k c hk => hreplies k c hk
  · intro c k o hk
    obtain ⟨up', hreading', hup'⟩ := h.reading_call c hk
    constructor
    · intro hmark
      have hlowered : ¬Raised (cs ++ [c]) o := by
        rw [raised_append, hmark]
        simp
      rw [hreading', Bool.eq_false_iff.2 fun htrue => hlowered (hup'.1 htrue)]
    · intro hother
      obtain ⟨-, up, -, -, hreading, hup⟩ := h.reading hk
      rw [raised_append_of_ne hother] at hup'
      rw [hreading', hreading, Bool.eq_iff_iff.2 (hup'.trans hup.symm)]

/-- A clone of a clone is interrupted, and so is a thread, by a handle that it gave away. The thread
clears its flag itself. -/
def relayed : List Call :=
  [.new, .clone 0, .clone 1, .current 7, .interrupt 2, .new, .interrupt 3, .threadClear 7]

theorem relayed_by_last_mark :
    (({} : Interrupts).calls relayed).1.readings = [true, true, true, false, false] ∧
    Raised relayed (.handle 0) ∧ ¬Raised relayed (.thread 7) ∧ ¬Raised relayed (.handle 4) := by
  obtain ⟨-, hreads, hthreads, -⟩ := raised_by_last_mark relayed
  have hreadings : (({} : Interrupts).calls relayed).1.readings =
      [true, true, true, false, false] := by decide
  refine ⟨hreadings, ?_, ?_, ?_⟩
  · obtain ⟨-, up, -, -, hup, hraised⟩ := hreads 0 (.handle 0) rfl
    rw [hreadings] at hup
    exact hraised.1 (Option.some.inj hup).symm
  · rw [← hthreads 7]
    decide
  · obtain ⟨-, up, -, -, hup, hraised⟩ := hreads 4 (.handle 4) (by decide)
    rw [hreadings] at hup
    rw [← hraised, ← Option.some.inj hup]
    decide

end Snowflake.Interrupts
