import Snowflake.Proofs.Tokens

/-!
# The values of JSON

A value is a word, a number, a string, or a list of further values between brackets or braces, to
any depth (`Value`). Items and members are listed alike: with commas between them, blanks anywhere,
and a closing character at the end (`Listed`).

**Skipping.** A value that stands at the front of a text is skipped whatever it is, given fuel for
its length (`skips`), and only a value is skipped (`skipsOnly`). Both are inductions on the fuel,
with one statement for each of the four readers that call each other; what items and members share
is one element and what follows it (`skipElement`).
-/

namespace Snowflake.Json

open Text (ne_of_isDigit)

variable {cs rest : List Char} {first : Bool} {close : Char}

/-! ## Values -/

/-- What stands before an element: blanks, with a comma between them unless it is the first one. -/
inductive Lead : Bool → List Char → Prop where
  | first {b : List Char} (hb : Blank b) : Lead true b
  | next {b b' : List Char} (hb : Blank b) (hb' : Blank b') : Lead false (b ++ ',' :: b')

theorem Lead.append_blank {lead b : List Char} (h : Lead first lead) (hb : Blank b) :
    Lead first (lead ++ b) := by
  cases h with
  | first hb₁ => exact .first (List.forall_mem_append.2 ⟨hb₁, hb⟩)
  | next hb₁ hb₂ =>
    rw [List.append_assoc]
    exact .next hb₁ (List.forall_mem_append.2 ⟨hb₂, hb⟩)

/-- Elements with commas between them, through the closing character. -/
inductive Listed (Element : List Char → Prop) (close : Char) : Bool → List Char → Prop where
  | close {first : Bool} {b : List Char} (hb : Blank b) : Listed Element close first (b ++ [close])
  | element {first : Bool} {lead e cs : List Char} (hlead : Lead first lead) (he : Element e)
      (h : Listed Element close false cs) : Listed Element close first (lead ++ e ++ cs)

/-- A member of an object: a name, a colon and a value. -/
inductive Member (Value : List Char → Prop) : List Char → Prop where
  | mk {s b b' v : List Char} (hs : Body s) (hb : Blank b) (hb' : Blank b') (hv : Value v) :
      Member Value ('"' :: s ++ '"' :: b ++ ':' :: b' ++ v)

/-- A value without blanks around it. -/
inductive Value : List Char → Prop where
  | null : Value ['n', 'u', 'l', 'l']
  | true : Value ['t', 'r', 'u', 'e']
  | false : Value ['f', 'a', 'l', 's', 'e']
  | number {cs : List Char} (h : Number.Text cs) : Value cs
  | string {s : List Char} (h : Body s) : Value ('"' :: s ++ ['"'])
  | array {cs : List Char} (h : Listed Value ']' Bool.true cs) : Value ('[' :: cs)
  | object {cs : List Char} (h : Listed (Member Value) '\x7d' Bool.true cs) : Value ('\x7b' :: cs)

/-- The text begins with a character that is neither blank nor the closing one. -/
def Opens (close : Char) (cs : List Char) : Prop :=
  ∃ c ds, cs = c :: ds ∧ isBlank c = false ∧ c ≠ close

theorem Opens.solid (h : Opens close cs) : Solid cs := by
  obtain ⟨c, ds, rfl, hc, -⟩ := h
  exact solid_cons hc

theorem Opens.append (h : Opens close cs) (rest : List Char) : Opens close (cs ++ rest) := by
  obtain ⟨c, ds, rfl, hc⟩ := h
  exact ⟨c, ds ++ rest, rfl, hc⟩

theorem Opens.length_pos (h : Opens close cs) : 0 < cs.length := by
  obtain ⟨c, ds, rfl, -⟩ := h
  exact Nat.succ_pos _

theorem not_isBlank_of_isDigit {c : Char} (h : c.isDigit) : isBlank c = false := by
  simp [isBlank, ne_of_isDigit h]

theorem Digits.Written.head {d : Digits} (h : d.Written cs) :
    ∃ c ds, cs = c :: ds ∧ c.isDigit := by
  obtain ⟨hw, -, -⟩ := h
  obtain ⟨c, ds, hcs⟩ := List.exists_cons_of_ne_nil hw.run.1
  exact ⟨c, _, by rw [hcs]; rfl, hw.run.2 c (hcs ▸ List.mem_cons_self)⟩

theorem Value.opens {v : List Char} (h : Value v) : Opens ']' v := by
  cases h with
  | number h =>
    cases h with
    | positive h =>
      obtain ⟨c, ds, rfl, hc⟩ := h.head
      exact ⟨c, ds, rfl, not_isBlank_of_isDigit hc, ne_of_isDigit hc rfl⟩
    | negative h => exact ⟨_, _, rfl, rfl, by decide⟩
  | _ => exact ⟨_, _, rfl, rfl, by decide⟩

theorem Member.opens {e : List Char} (h : Member Value e) : Opens '\x7d' e := by
  obtain ⟨hs, hb, hb', hv⟩ := h
  exact ⟨_, _, rfl, rfl, by decide⟩

/-! ## One element -/

/-- The text after the next element, or after the closing character. -/
def skipElement (close : Char) (first : Bool) (element : List Char → Except Fault (List Char))
    (cs : List Char) : Except Fault (List Char) :=
  match skipBlanks cs with
  | [] => .error .ended
  | c :: cs =>
    if c = close then .ok cs
    else if first then element (c :: cs)
    else if c = ',' then element cs
    else .error .malformed

theorem skipItemsWith_succ (fuel : Nat) (first : Bool) (cs : List Char) :
    skipItemsWith (fuel + 1) first cs = skipElement ']' first
      (fun cs => (skipValueWith fuel cs).bind (skipItemsWith fuel false)) cs := by
  rw [skipItemsWith, skipElement]
  split
  next hcs => rw [hcs]
  next hcs => simp [hcs]
  next c ds hclose hcs =>
    have hc : c ≠ ']' := fun hc => hclose (hc ▸ rfl)
    simp [hcs, hc]

theorem skipMembersWith_succ (fuel : Nat) (first : Bool) (cs : List Char) :
    skipMembersWith (fuel + 1) first cs = skipElement '\x7d' first
      (fun cs => (skipMemberWith fuel cs).bind (skipMembersWith fuel false)) cs := by
  rw [skipMembersWith, skipElement]
  split
  next hcs => rw [hcs]
  next hcs => simp [hcs]
  next c ds hclose hcs =>
    have hc : c ≠ '\x7d' := fun hc => hclose (hc ▸ rfl)
    simp [hcs, hc]

section Element

variable {element : List Char → Except Fault (List Char)}

theorem skipElement_close {b : List Char} (hb : Blank b) (hclose : isBlank close = false) :
    skipElement close first element (b ++ close :: rest) = .ok rest := by
  rw [skipElement, skipBlanks_append hb, skipBlanks_cons hclose]
  exact if_pos rfl

theorem skipElement_append {lead : List Char} {r : Except Fault (List Char)}
    (hlead : Lead first lead) (hcs : Opens close cs) (hcomma : close ≠ ',')
    (helement : ∀ b, Blank b → element (b ++ cs) = r) :
    skipElement close first element (lead ++ cs) = r := by
  cases hlead with
  | first hb =>
    have hsolid := skipBlanks_of_solid hcs.solid
    obtain ⟨c, ds, rfl, hc, hclose⟩ := hcs
    rw [skipElement, skipBlanks_append hb, hsolid]
    exact (if_neg hclose).trans (helement [] blank_nil)
  | next hb hb' =>
    rw [skipElement, List.append_assoc, skipBlanks_append hb, List.cons_append,
      skipBlanks_cons rfl]
    exact (if_neg hcomma.symm).trans (helement _ hb')

theorem exists_of_skipElement (h : skipElement close first element cs = .ok rest) :
    (∃ b, Blank b ∧ cs = b ++ close :: rest) ∨
      ∃ lead ds, Lead first lead ∧ cs = lead ++ ds ∧ element ds = .ok rest := by
  obtain ⟨b, hb, hcs⟩ := exists_blank_append cs
  unfold skipElement at h
  split at h
  next => cases h
  next c ds htoken =>
    rw [htoken] at hcs
    split_ifs at h with hclose hfirst hcomma
    · obtain rfl := Except.ok.inj h
      exact .inl ⟨b, hb, hclose ▸ hcs⟩
    · exact .inr ⟨b, _, hfirst ▸ .first hb, hcs, h⟩
    · obtain rfl := Bool.eq_false_of_not_eq_true hfirst
      exact .inr ⟨b ++ [','], ds, .next hb blank_nil, by simp [hcs, hcomma], h⟩

end Element

/-! ## Skipping -/

theorem expectWord_eq_ok_iff {ws : List Char} : expectWord ws cs = .ok rest ↔ cs = ws ++ rest := by
  fun_induction expectWord ws cs with
  | case1 cs => simp
  | case2 w ws => simp
  | case3 ws c cs ih => simp [ih]
  | case4 w ws c cs hc => simp [hc]

theorem stops_blank_append {b : List Char} (hb : Blank b) (hcs : Stops cs) : Stops (b ++ cs) := by
  refine head_append (fun c hc => ?_) hcs
  have hblank := hb c (List.mem_of_mem_head? hc)
  simp [isBlank] at hblank
  obtain ((rfl | rfl) | rfl) | rfl := hblank <;> decide

theorem stops_close {b : List Char} (hb : Blank b)
    (hclose : close.isDigit = false ∧ close ≠ '.' ∧ close ≠ 'e' ∧ close ≠ 'E')
    (rest : List Char) : Stops (b ++ [close] ++ rest) := by
  rw [List.append_assoc]
  exact stops_blank_append hb (stops_cons hclose)

theorem Lead.stops {lead : List Char} (h : Lead false lead) (rest : List Char) :
    Stops (lead ++ rest) := by
  cases h with
  | next hb hb' =>
    rw [List.append_assoc]
    exact stops_blank_append hb (stops_cons (by decide))

theorem Listed.length_pos {Element : List Char → Prop} (h : Listed Element close first cs) :
    0 < cs.length := by
  induction h with
  | close hb => simp
  | element _ _ _ ih =>
    rw [List.length_append]
    exact Nat.add_pos_right _ ih

theorem Listed.stops {Element : List Char → Prop} (h : Listed Element close false cs)
    (hclose : close.isDigit = false ∧ close ≠ '.' ∧ close ≠ 'e' ∧ close ≠ 'E')
    (rest : List Char) : Stops (cs ++ rest) := by
  cases h with
  | close hb => exact stops_close hb hclose rest
  | element hlead =>
    simp only [List.append_assoc]
    exact hlead.stops _

theorem skipValueWith_blank {b : List Char} (hb : Blank b) (fuel : Nat) (cs : List Char) :
    skipValueWith fuel (b ++ cs) = skipValueWith fuel cs := by
  cases fuel <;> simp [skipValueWith, skipBlanks_append hb]

theorem skipValueWith_digit {c : Char} (hc : c.isDigit) (fuel : Nat) (cs : List Char) :
    skipValueWith (fuel + 1) (c :: cs) = skipNumber (c :: cs) := by
  simp [skipValueWith, skipBlanks_cons (not_isBlank_of_isDigit hc), ne_of_isDigit hc, hc]

section Lists

variable {Element : List Char → Prop} {element tail : List Char → Except Fault (List Char)}

/-- Elements are skipped if each of them is and what follows it is. -/
theorem Listed.skip {v : List Char} (h : Listed Element close first v)
    (hopens : ∀ {e}, Element e → Opens close e)
    (hclose : isBlank close = false ∧ close ≠ ',' ∧ close.isDigit = false ∧ close ≠ '.' ∧
      close ≠ 'e' ∧ close ≠ 'E')
    (helement : ∀ {b e rest}, Blank b → Element e → e.length < v.length → Stops rest →
      element (b ++ e ++ rest) = .ok rest)
    (htail : ∀ {cs}, Listed Element close false cs → cs.length < v.length →
      tail (cs ++ rest) = .ok rest) :
    skipElement close first (fun cs => (element cs).bind tail) (v ++ rest) = .ok rest := by
  obtain ⟨hblank, hcomma, hstops⟩ := hclose
  cases h with
  | close hb =>
    rw [List.append_assoc]
    exact skipElement_close hb hblank
  | @element _ lead e cs hlead he h =>
    have hopen := hopens he
    have hpos := hopen.length_pos
    have hpos' := h.length_pos
    simp only [List.append_assoc]
    refine skipElement_append hlead (hopen.append _) hcomma fun b hb => ?_
    have hread : element (b ++ (e ++ (cs ++ rest))) = .ok (cs ++ rest) := by
      rw [← List.append_assoc]
      exact helement hb he (by simp; omega) (h.stops hstops rest)
    exact bind_eq_ok_iff.2 ⟨_, hread, htail h (by simp; omega)⟩

/-- Whatever is skipped as elements is elements, if that holds of each and of what follows it. -/
theorem exists_listed (h : skipElement close first (fun cs => (element cs).bind tail) cs = .ok rest)
    (helement : ∀ {cs rest}, element cs = .ok rest →
      ∃ b e, Blank b ∧ Element e ∧ cs = b ++ e ++ rest)
    (htail : ∀ {cs}, tail cs = .ok rest → ∃ v, Listed Element close false v ∧ cs = v ++ rest) :
    ∃ v, Listed Element close first v ∧ cs = v ++ rest := by
  obtain ⟨b, hb, rfl⟩ | ⟨lead, ds, hlead, rfl, hds⟩ := exists_of_skipElement h
  · exact ⟨b ++ [close], .close hb, by simp⟩
  · obtain ⟨cs, hread, hrest⟩ := bind_eq_ok_iff.1 hds
    obtain ⟨b, e, hb, he, rfl⟩ := helement hread
    obtain ⟨v, hv, rfl⟩ := htail hrest
    exact ⟨lead ++ b ++ e ++ v, .element (hlead.append_blank hb) he hv, by simp⟩

end Lists

/-- With that much fuel, what is not longer is skipped. -/
structure Skips (fuel : Nat) : Prop where
  value {b v rest : List Char} (hb : Blank b) (h : Value v) (hfuel : v.length ≤ fuel)
    (hrest : Stops rest) : skipValueWith fuel (b ++ v ++ rest) = .ok rest
  items {v : List Char} (first : Bool) (h : Listed Value ']' first v) (hfuel : v.length ≤ fuel)
    (rest : List Char) : skipItemsWith fuel first (v ++ rest) = .ok rest
  members {v : List Char} (first : Bool) (h : Listed (Member Value) '\x7d' first v)
    (hfuel : v.length ≤ fuel) (rest : List Char) :
    skipMembersWith fuel first (v ++ rest) = .ok rest
  member {b v rest : List Char} (hb : Blank b) (h : Member Value v) (hfuel : v.length ≤ fuel)
    (hrest : Stops rest) : skipMemberWith fuel (b ++ v ++ rest) = .ok rest

namespace Skips

variable {fuel : Nat}

theorem value_succ (ih : Skips fuel) {v : List Char} (h : Value v) (hfuel : v.length ≤ fuel + 1)
    (hrest : Stops rest) : skipValueWith (fuel + 1) (v ++ rest) = .ok rest := by
  cases h with
  | null => rfl
  | true => rfl
  | false => rfl
  | number h =>
    cases h with
    | positive h =>
      obtain ⟨c, ds, rfl, hc⟩ := h.head
      rw [List.cons_append, skipValueWith_digit hc]
      exact map_eq_ok_iff.2 ⟨_, digits_append h hrest, rfl⟩
    | negative h => exact map_eq_ok_iff.2 ⟨_, digits_append h hrest, rfl⟩
  | @string s h =>
    have hquotes : '"' :: s ++ ['"'] ++ rest = '"' :: (s ++ '"' :: rest) := by simp
    rw [hquotes]
    exact skipString_append h
  | array h => exact ih.items true h (Nat.le_of_succ_le_succ hfuel) rest
  | object h => exact ih.members true h (Nat.le_of_succ_le_succ hfuel) rest

theorem member_succ (ih : Skips fuel) {b v : List Char} (hb : Blank b) (h : Member Value v)
    (hfuel : v.length ≤ fuel + 1) (hrest : Stops rest) :
    skipMemberWith (fuel + 1) (b ++ v ++ rest) = .ok rest := by
  cases h with
  | @mk s b₁ b₂ v hs hb₁ hb₂ hv =>
    simp only [List.length_append, List.length_cons] at hfuel
    have hassoc : b ++ ('"' :: s ++ '"' :: b₁ ++ ':' :: b₂ ++ v) ++ rest =
        b ++ '"' :: (s ++ '"' :: (b₁ ++ ':' :: (b₂ ++ v ++ rest))) := by simp
    rw [hassoc, skipMemberWith, skipBlanks_append hb, skipBlanks_cons rfl]
    refine bind_eq_ok_iff.2 ⟨_, skipString_append hs, ?_⟩
    rw [skipBlanks_append hb₁, skipBlanks_cons rfl]
    exact ih.value hb₂ hv (by omega) hrest

theorem succ (ih : Skips fuel) : Skips (fuel + 1) where
  value hb h hfuel hrest := by
    rw [List.append_assoc, skipValueWith_blank hb]
    exact ih.value_succ h hfuel hrest
  items first h hfuel rest := by
    rw [skipItemsWith_succ]
    exact h.skip Value.opens (by decide)
      (fun hb he hlt hrest => ih.value hb he (by omega) hrest)
      fun h hlt => ih.items false h (by omega) rest
  members first h hfuel rest := by
    rw [skipMembersWith_succ]
    exact h.skip Member.opens (by decide)
      (fun hb he hlt hrest => ih.member hb he (by omega) hrest)
      fun h hlt => ih.members false h (by omega) rest
  member := ih.member_succ

theorem zero : Skips 0 where
  value _ h hfuel _ := absurd hfuel (Nat.not_le.2 h.opens.length_pos)
  items _ h hfuel _ := absurd hfuel (Nat.not_le.2 h.length_pos)
  members _ h hfuel _ := absurd hfuel (Nat.not_le.2 h.length_pos)
  member _ h hfuel _ := absurd hfuel (Nat.not_le.2 h.opens.length_pos)

end Skips

theorem skips (fuel : Nat) : Skips fuel := by
  induction fuel with
  | zero => exact .zero
  | succ fuel ih => exact ih.succ

/-- Whatever is skipped with that much fuel is of its kind. -/
structure SkipsOnly (fuel : Nat) : Prop where
  value {cs rest : List Char} (h : skipValueWith fuel cs = .ok rest) :
    ∃ b v, Blank b ∧ Value v ∧ cs = b ++ v ++ rest
  items {cs rest : List Char} (first : Bool) (h : skipItemsWith fuel first cs = .ok rest) :
    ∃ v, Listed Value ']' first v ∧ cs = v ++ rest
  members {cs rest : List Char} (first : Bool) (h : skipMembersWith fuel first cs = .ok rest) :
    ∃ v, Listed (Member Value) '\x7d' first v ∧ cs = v ++ rest
  member {cs rest : List Char} (h : skipMemberWith fuel cs = .ok rest) :
    ∃ b v, Blank b ∧ Member Value v ∧ cs = b ++ v ++ rest

namespace SkipsOnly

variable {fuel : Nat}

theorem value_succ (ih : SkipsOnly fuel) (h : skipValueWith (fuel + 1) cs = .ok rest) :
    ∃ b v, Blank b ∧ Value v ∧ cs = b ++ v ++ rest := by
  obtain ⟨b, hb, hcs⟩ := exists_blank_append cs
  suffices htoken : ∃ v, Value v ∧ skipBlanks cs = v ++ rest by
    obtain ⟨v, hv, heq⟩ := htoken
    exact ⟨b, v, hb, hv, by rw [hcs, heq, List.append_assoc]⟩
  have hword {ws ds : List Char} (h : expectWord ws ds = .ok rest) : ds = ws ++ rest :=
    expectWord_eq_ok_iff.1 h
  unfold skipValueWith at h
  split at h
  next => cases h
  next => exact ⟨_, .null, by rw [‹skipBlanks cs = _›, hword h]; rfl⟩
  next => exact ⟨_, .true, by rw [‹skipBlanks cs = _›, hword h]; rfl⟩
  next => exact ⟨_, .false, by rw [‹skipBlanks cs = _›, hword h]; rfl⟩
  next =>
    obtain ⟨s, hs, rfl⟩ := exists_of_skipString h
    exact ⟨_, .string hs, by rw [‹skipBlanks cs = _›]; simp⟩
  next =>
    obtain ⟨⟨d, ds⟩, hd, rfl⟩ := map_eq_ok_iff.1 h
    obtain ⟨w, hw, rfl⟩ := exists_of_digits hd
    exact ⟨_, .number (.negative hw), ‹skipBlanks cs = _›⟩
  next =>
    obtain ⟨v, hv, rfl⟩ := ih.items true h
    exact ⟨_, .array hv, ‹skipBlanks cs = _›⟩
  next =>
    obtain ⟨v, hv, rfl⟩ := ih.members true h
    exact ⟨_, .object hv, ‹skipBlanks cs = _›⟩
  next c ds _ _ _ _ _ _ _ heq =>
    split_ifs at h
    obtain ⟨⟨d, ds⟩, hd, rfl⟩ := map_eq_ok_iff.1 h
    obtain ⟨w, hw, hds⟩ := exists_of_digits hd
    exact ⟨_, .number (.positive hw), heq.trans hds⟩

theorem member_succ (ih : SkipsOnly fuel) (h : skipMemberWith (fuel + 1) cs = .ok rest) :
    ∃ b v, Blank b ∧ Member Value v ∧ cs = b ++ v ++ rest := by
  obtain ⟨b, hb, hcs⟩ := exists_blank_append cs
  unfold skipMemberWith at h
  split at h
  next => cases h
  next ds htoken =>
    obtain ⟨ds₁, hname, hvalue⟩ := bind_eq_ok_iff.1 h
    obtain ⟨s, hs, rfl⟩ := exists_of_skipString hname
    obtain ⟨b₁, hb₁, hds₁⟩ := exists_blank_append ds₁
    split at hvalue
    next => cases hvalue
    next ds₂ hcolon =>
      obtain ⟨b₂, v, hb₂, hv, rfl⟩ := ih.value hvalue
      rw [hcolon] at hds₁
      refine ⟨b, _, hb, .mk hs hb₁ hb₂ hv, ?_⟩
      rw [hcs, htoken, hds₁]
      simp
    next => cases hvalue
  next => cases h

theorem succ (ih : SkipsOnly fuel) : SkipsOnly (fuel + 1) where
  value := ih.value_succ
  items first h := exists_listed ((skipItemsWith_succ fuel first _).symm.trans h) ih.value
    (ih.items false)
  members first h := exists_listed ((skipMembersWith_succ fuel first _).symm.trans h) ih.member
    (ih.members false)
  member := ih.member_succ

theorem zero : SkipsOnly 0 where
  value h := nomatch h
  items _ h := nomatch h
  members _ h := nomatch h
  member h := nomatch h

end SkipsOnly

theorem skipsOnly (fuel : Nat) : SkipsOnly fuel := by
  induction fuel with
  | zero => exact .zero
  | succ fuel ih => exact ih.succ

theorem skipValue_append {b v : List Char} (hb : Blank b) (h : Value v) (hrest : Stops rest) :
    skipValue (b ++ v ++ rest) = .ok rest :=
  (skips _).value hb h (by simp only [List.length_append]; omega) hrest

theorem exists_of_skipValue (h : skipValue cs = .ok rest) :
    ∃ b v, Blank b ∧ Value v ∧ cs = b ++ v ++ rest :=
  (skipsOnly _).value h

end Snowflake.Json
