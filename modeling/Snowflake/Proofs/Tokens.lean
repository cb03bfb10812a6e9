import Snowflake.Error
import Snowflake.Json.Skip
import Snowflake.Proofs.Numerals
import Mathlib.Data.List.Induction
import Mathlib.Data.List.TakeWhile

/-!
# The tokens of JSON

Blanks, numbers and strings as they are written, without regard to how they are read. A number ends
where it cannot go on (`Stops`), so what follows it has to be something else.

**Numbers** are read in their places as far as they go (`digits_append`, `exists_of_digits`). An
integer is read in the one form in which it is written (`readNumber_integer`, `eq_of_readNumber`),
because its digits begin with no idle zero: they are the digits of their number
(`Whole.eq_toDigits`).

**Strings** are pieces between quotes, each of which is a character or an escape (`Body`). The
pieces of a name also have to spell characters (`Spelled`), so that the halves of a surrogate pair
stand together there.

Each reader comes with two lemmas: it takes its token off the front of a text, and whatever it takes
off is such a token.
-/

namespace Snowflake.Json

open Text (ne_of_isDigit)

variable {cs ds rest : List Char} {cut : Fault}

/-! ## Blanks -/

/-- Nothing but blanks. -/
def Blank (cs : List Char) : Prop := ∀ c ∈ cs, isBlank c

instance (cs : List Char) : Decidable (Blank cs) :=
  inferInstanceAs (Decidable (∀ c ∈ cs, isBlank c))

/-- The text goes on with a token, or ends. -/
def Solid (cs : List Char) : Prop := ∀ c ∈ cs.head?, isBlank c = false

theorem blank_nil : Blank [] := List.forall_mem_nil _

theorem solid_cons {c : Char} (hc : isBlank c = false) : Solid (c :: cs) := by
  simpa [Solid] using hc

@[simp] theorem skipBlanks_append (hb : Blank ds) (cs : List Char) :
    skipBlanks (ds ++ cs) = skipBlanks cs :=
  List.dropWhile_append_of_pos hb

theorem skipBlanks_of_solid (h : Solid cs) : skipBlanks cs = cs := by
  cases cs with
  | nil => rfl
  | cons c cs => exact List.dropWhile_cons_of_neg (by simp [h c rfl])

theorem skipBlanks_cons {c : Char} (hc : isBlank c = false) (cs : List Char) :
    skipBlanks (c :: cs) = c :: cs :=
  skipBlanks_of_solid (solid_cons hc)

theorem exists_blank_append (cs : List Char) :
    ∃ b, Blank b ∧ cs = b ++ skipBlanks cs :=
  ⟨cs.takeWhile isBlank, fun _ hc => List.mem_takeWhile_imp hc,
    List.takeWhile_append_dropWhile.symm⟩

/-! ## Numbers -/

/-- One or more digits. -/
def DigitRun (ds : List Char) : Prop := ds ≠ [] ∧ ∀ c ∈ ds, c.isDigit

/-- Digits without an idle zero at the front. -/
inductive Whole : List Char → Prop where
  | zero : Whole ['0']
  | digits {c : Char} {ds : List Char} (hc : c.isDigit) (hzero : c ≠ '0')
      (hds : ∀ c ∈ ds, c.isDigit) : Whole (c :: ds)

/-- How the digits of a fraction are written, if there is one. -/
inductive Fraction : Option (List Char) → List Char → Prop where
  | none : Fraction none []
  | point {ds : List Char} (h : DigitRun ds) : Fraction (some ds) ('.' :: ds)

/-- How the sign and the digits of an exponent are written, if there is one. -/
inductive Exponent : Option (Bool × List Char) → List Char → Prop where
  | none : Exponent none []
  | bare {e : Char} {ds : List Char} (he : e = 'e' ∨ e = 'E') (h : DigitRun ds) :
      Exponent (some (false, ds)) (e :: ds)
  | plus {e : Char} {ds : List Char} (he : e = 'e' ∨ e = 'E') (h : DigitRun ds) :
      Exponent (some (false, ds)) (e :: '+' :: ds)
  | minus {e : Char} {ds : List Char} (he : e = 'e' ∨ e = 'E') (h : DigitRun ds) :
      Exponent (some (true, ds)) (e :: '-' :: ds)

/-- How the digits of a number are written. -/
inductive Digits.Written (d : Digits) : List Char → Prop where
  | mk {f e : List Char} (hw : Whole d.whole) (hf : Fraction d.fraction f)
      (he : Exponent d.exponent e) : d.Written (d.whole ++ f ++ e)

/-- A number. -/
inductive Number.Text : List Char → Prop where
  | positive {d : Digits} {cs : List Char} (h : d.Written cs) : Number.Text cs
  | negative {d : Digits} {cs : List Char} (h : d.Written cs) : Number.Text ('-' :: cs)

/-- The text does not go on like the number before it. -/
def Stops (cs : List Char) : Prop :=
  ∀ c ∈ cs.head?, c.isDigit = false ∧ c ≠ '.' ∧ c ≠ 'e' ∧ c ≠ 'E'

theorem stops_cons {c : Char} (hc : c.isDigit = false ∧ c ≠ '.' ∧ c ≠ 'e' ∧ c ≠ 'E') :
    Stops (c :: cs) := by
  rintro _ ⟨⟩
  exact hc

theorem splitDigits_eq_iff :
    splitDigits cs = (ds, rest) ↔
      (∀ c ∈ ds, c.isDigit) ∧ (∀ c ∈ rest.head?, c.isDigit = false) ∧ cs = ds ++ rest := by
  constructor
  · intro h
    obtain ⟨rfl, rfl⟩ := Prod.mk.inj h
    refine ⟨fun c hc => List.mem_takeWhile_imp hc, fun c hc => ?_,
      List.takeWhile_append_dropWhile.symm⟩
    have hlast := List.head?_dropWhile_not Char.isDigit cs
    rw [Option.mem_def.1 hc] at hlast
    simpa using hlast
  · rintro ⟨hds, hrest, rfl⟩
    rw [splitDigits, List.takeWhile_append_of_pos hds, List.dropWhile_append_of_pos hds]
    cases rest with
    | nil => simp
    | cons c rest => simp [hrest c rfl]

theorem someDigits_eq_ok_iff :
    someDigits cut cs = .ok (ds, rest) ↔
      DigitRun ds ∧ (∀ c ∈ rest.head?, c.isDigit = false) ∧ cs = ds ++ rest := by
  have hsome : someDigits cut cs = .ok (ds, rest) ↔ ds ≠ [] ∧ splitDigits cs = (ds, rest) := by
    unfold someDigits
    rcases splitDigits cs with ⟨_ | ⟨d, ds'⟩, rest'⟩
    · cases rest' <;> simp +contextual [eq_comm]
    · simp only [Except.ok.injEq, Prod.mk.injEq]
      constructor
      · rintro ⟨rfl, rfl⟩
        exact ⟨List.cons_ne_nil d ds', rfl, rfl⟩
      · exact fun h => h.2
  rw [hsome, splitDigits_eq_iff, DigitRun, and_assoc]

theorem Whole.run (h : Whole ds) : DigitRun ds := by
  cases h with
  | zero => exact ⟨List.cons_ne_nil _ _, List.forall_mem_singleton.2 rfl⟩
  | digits hc _ hds => exact ⟨List.cons_ne_nil _ _, List.forall_mem_cons.2 ⟨hc, hds⟩⟩

/-- Digits are a whole number unless they begin with a zero that is not alone. -/
theorem DigitRun.whole_iff (h : DigitRun ds) :
    Whole ds ↔ ¬(ds.head? = some '0' ∧ ds ≠ ['0']) := by
  obtain ⟨c, cs, rfl⟩ := List.exists_cons_of_ne_nil h.1
  obtain ⟨hc, hcs⟩ := List.forall_mem_cons.1 h.2
  constructor
  · rintro hw ⟨hzero, hne⟩
    cases hw with
    | zero => exact hne rfl
    | digits _ hc0 _ => exact hc0 (Option.some.inj hzero)
  · intro hidle
    by_cases hc0 : c = '0'
    · subst hc0
      obtain rfl : cs = [] := by simpa using hidle
      exact .zero
    · exact .digits hc hc0 hcs

theorem wholeDigits_eq_ok_iff :
    wholeDigits cut cs = .ok (ds, rest) ↔
      Whole ds ∧ (∀ c ∈ rest.head?, c.isDigit = false) ∧ cs = ds ++ rest := by
  simp only [wholeDigits, bind_eq_ok_iff, Prod.exists, someDigits_eq_ok_iff]
  constructor
  · rintro ⟨ds', rest', ⟨hrun, hrest, rfl⟩, hread⟩
    split_ifs at hread with hidle
    obtain ⟨rfl, rfl⟩ := Prod.mk.inj (Except.ok.inj hread)
    exact ⟨hrun.whole_iff.2 hidle, hrest, rfl⟩
  · rintro ⟨hw, hrest, rfl⟩
    exact ⟨ds, rest, ⟨hw.run, hrest, rfl⟩, if_neg (hw.run.whole_iff.1 hw)⟩

theorem head_append {p : Char → Prop} (hcs : ∀ c ∈ cs.head?, p c) (hrest : ∀ c ∈ rest.head?, p c) :
    ∀ c ∈ (cs ++ rest).head?, p c := by
  cases cs with
  | nil => exact hrest
  | cons c cs => exact hcs

theorem Fraction.head {f : Option (List Char)} (h : Fraction f cs) : ∀ c ∈ cs.head?, c = '.' := by
  cases h <;> simp

theorem Exponent.head {e : Option (Bool × List Char)} (h : Exponent e cs) :
    ∀ c ∈ cs.head?, c = 'e' ∨ c = 'E' := by
  cases h <;> simp_all

theorem fraction_append {f : Option (List Char)} (h : Fraction f cs)
    (hrest : ∀ c ∈ rest.head?, c.isDigit = false ∧ c ≠ '.') :
    fraction cut (cs ++ rest) = .ok (f, rest) := by
  cases h with
  | none =>
    cases rest with
    | nil => rfl
    | cons c rest =>
      have hpoint : c ≠ '.' := (hrest c rfl).2
      simp [fraction, hpoint]
  | point h =>
    exact map_eq_ok_iff.2
      ⟨_, someDigits_eq_ok_iff.2 ⟨h, fun c hc => (hrest c hc).1, rfl⟩, rfl⟩

theorem exists_of_fraction {f : Option (List Char)} (h : fraction cut cs = .ok (f, rest)) :
    ∃ w, Fraction f w ∧ cs = w ++ rest := by
  unfold fraction at h
  split at h
  · obtain ⟨⟨ds, cs⟩, hread, heq⟩ := map_eq_ok_iff.1 h
    obtain ⟨hds, -, rfl⟩ := someDigits_eq_ok_iff.1 hread
    obtain ⟨rfl, rfl⟩ := Prod.mk.inj heq
    exact ⟨_, .point hds, rfl⟩
  · obtain ⟨rfl, rfl⟩ := Prod.mk.inj (Except.ok.inj h)
    exact ⟨[], .none, rfl⟩

theorem exponent_append {e : Option (Bool × List Char)} (h : Exponent e cs) (hrest : Stops rest) :
    exponent cut (cs ++ rest) = .ok (e, rest) := by
  have hread {ds : List Char} (hds : DigitRun ds) : someDigits cut (ds ++ rest) = .ok (ds, rest) :=
    someDigits_eq_ok_iff.2 ⟨hds, fun c hc => (hrest c hc).1, rfl⟩
  cases h with
  | none =>
    cases rest with
    | nil => rfl
    | cons c rest =>
      obtain ⟨-, -, he, hE⟩ := hrest c rfl
      exact if_neg (not_or.2 ⟨he, hE⟩)
  | @bare e ds he h =>
    obtain ⟨d, ds, rfl⟩ := List.exists_cons_of_ne_nil h.1
    have hd := h.2 d List.mem_cons_self
    have hsign : d ≠ '+' ∧ d ≠ '-' := ⟨ne_of_isDigit hd rfl, ne_of_isDigit hd rfl⟩
    have hbare : exponent cut (e :: d :: ds ++ rest) =
        (someDigits cut (d :: ds ++ rest)).map fun split => (some (false, split.1), split.2) := by
      simp [exponent, he, hsign]
    exact hbare.trans (map_eq_ok_iff.2 ⟨_, hread h, rfl⟩)
  | plus he h => simp [exponent, he, (hread h :), Except.map]
  | minus he h => simp [exponent, he, (hread h :), Except.map]

theorem exists_of_exponent {e : Option (Bool × List Char)} (h : exponent cut cs = .ok (e, rest)) :
    ∃ w, Exponent e w ∧ cs = w ++ rest := by
  unfold exponent at h
  split at h
  next c cs =>
    split_ifs at h with he
    · obtain ⟨⟨ds, rest⟩, hread, heq⟩ := map_eq_ok_iff.1 h
      obtain ⟨hds, -, hcs⟩ := someDigits_eq_ok_iff.1 hread
      obtain ⟨rfl, rfl⟩ := Prod.mk.inj heq
      split at hcs
      · exact ⟨_, .plus he hds, by simp [← hcs]⟩
      · exact ⟨_, .minus he hds, by simp [← hcs]⟩
      · exact ⟨_, .bare he hds, by simp [← hcs]⟩
    · obtain ⟨rfl, rfl⟩ := Prod.mk.inj (Except.ok.inj h)
      exact ⟨[], .none, rfl⟩
  next =>
    obtain ⟨rfl, rfl⟩ := Prod.mk.inj (Except.ok.inj h)
    exact ⟨[], .none, rfl⟩

/-- Digits are read in their places as far as the number goes. -/
theorem digits_append {d : Digits} (h : d.Written cs) (hrest : Stops rest) :
    digits cut (cs ++ rest) = .ok (d, rest) := by
  obtain ⟨hw, hf, he⟩ := h
  rename_i f e
  have hexp : ∀ c ∈ (e ++ rest).head?, c.isDigit = false ∧ c ≠ '.' := by
    refine head_append (fun c hc => ?_) fun c hc => ⟨(hrest c hc).1, (hrest c hc).2.1⟩
    obtain rfl | rfl := he.head c hc <;> decide
  have hfrac : ∀ c ∈ (f ++ (e ++ rest)).head?, c.isDigit = false :=
    head_append (fun c hc => by rw [hf.head c hc]; decide) fun c hc => (hexp c hc).1
  rw [List.append_assoc, List.append_assoc]
  refine bind_eq_ok_iff.2 ⟨_, wholeDigits_eq_ok_iff.2 ⟨hw, hfrac, rfl⟩, ?_⟩
  refine bind_eq_ok_iff.2 ⟨_, fraction_append hf hexp, ?_⟩
  exact map_eq_ok_iff.2 ⟨_, exponent_append he hrest, rfl⟩

theorem exists_of_digits {d : Digits} (h : digits cut cs = .ok (d, rest)) :
    ∃ w, d.Written w ∧ cs = w ++ rest := by
  obtain ⟨⟨whole, cs₁⟩, hwhole, h₁⟩ := bind_eq_ok_iff.1 h
  obtain ⟨⟨frac, cs₂⟩, hfrac, h₂⟩ := bind_eq_ok_iff.1 h₁
  obtain ⟨⟨exp, cs₃⟩, hexp, h₃⟩ := map_eq_ok_iff.1 h₂
  obtain ⟨hw, -, rfl⟩ := wholeDigits_eq_ok_iff.1 hwhole
  obtain ⟨f, hf, rfl⟩ := exists_of_fraction hfrac
  obtain ⟨e, he, rfl⟩ := exists_of_exponent hexp
  obtain ⟨rfl, rfl⟩ := Prod.mk.inj h₃
  exact ⟨whole ++ f ++ e, ⟨hw, hf, he⟩, by simp⟩

/-! ### Integers -/

theorem Whole.concat {c : Char} (h : Whole ds) (hzero : ds ≠ ['0']) (hc : c.isDigit) :
    Whole (ds ++ [c]) := by
  cases h with
  | zero => exact absurd rfl hzero
  | digits hd hd0 hds =>
    exact .digits hd hd0 (List.forall_mem_append.2 ⟨hds, List.forall_mem_singleton.2 hc⟩)

theorem Whole.of_concat {c : Char} (h : Whole (ds ++ [c])) (hne : ds ≠ []) :
    Whole ds ∧ ds ≠ ['0'] := by
  obtain ⟨d, ds, rfl⟩ := List.exists_cons_of_ne_nil hne
  rw [List.cons_append] at h
  generalize hconcat : ds ++ [c] = cs at h
  cases h with
  | zero => simp at hconcat
  | digits hd hd0 hcs =>
    rw [← hconcat] at hcs
    exact ⟨.digits hd hd0 (List.forall_mem_append.1 hcs).1, fun h => hd0 (List.cons.inj h).1⟩

theorem digitChar_sub {c : Char} (hc : c.isDigit) :
    c.toNat - '0'.toNat < 10 ∧ (c.toNat - '0'.toNat).digitChar = c := by
  have hrange : 48 ≤ c.toNat ∧ c.toNat ≤ 57 := by
    simpa [Char.isDigit, UInt32.le_iff_toNat_le] using hc
  have hzero : '0'.toNat = 48 := rfl
  have hlt : c.toNat - '0'.toNat < 10 := by omega
  refine ⟨hlt, Char.toNat_inj.1 ?_⟩
  rw [Nat.toNat_digitChar_of_lt_ten hlt]
  omega

theorem toDigits_eq_zero_iff {n : Nat} : Nat.toDigits 10 n = ['0'] ↔ n = 0 := by
  constructor
  · intro h
    have hread := congrArg (Nat.ofDigitChars 10 · 0) h
    rw [Nat.ofDigitChars_ten_toDigits] at hread
    exact hread
  · rintro rfl
    rfl

theorem whole_toDigits (n : Nat) : Whole (Nat.toDigits 10 n) := by
  induction n using Nat.strongRecOn with
  | ind n ih =>
    have hdigit {k : Nat} (hk : k < 10) : k.digitChar.isDigit := by
      simp [Nat.isDigit_digitChar, hk]
    by_cases hn : n < 10
    · rw [Nat.toDigits_of_lt_base hn]
      by_cases hzero : n = 0
      · subst hzero
        exact .zero
      · exact .digits (hdigit hn) (mt Nat.digitChar_eq_zero.1 hzero) (List.forall_mem_nil _)
    · rw [Nat.toDigits_of_base_le (by decide) (Nat.le_of_not_lt hn)]
      exact (ih (n / 10) (by omega)).concat (mt toDigits_eq_zero_iff.1 (by omega))
        (hdigit (Nat.mod_lt n (by decide)))

/-- Digits without an idle zero at the front are those of their number. -/
theorem Whole.eq_toDigits (h : Whole ds) : ds = Nat.toDigits 10 (Nat.ofDigitChars 10 ds 0) := by
  induction ds using List.reverseRecOn with
  | nil => cases h
  | append_singleton ds c ih =>
    have hc : c.isDigit := h.run.2 c (by simp)
    obtain ⟨hlt, hchar⟩ := digitChar_sub hc
    rw [Nat.ofDigitChars_append, Nat.ofDigitChars_cons, Nat.ofDigitChars_nil]
    by_cases hne : ds = []
    · subst hne
      rw [Nat.ofDigitChars_nil, Nat.mul_zero, Nat.zero_add, Nat.toDigits_of_lt_base hlt, hchar]
      rfl
    · -- The digits before the last one are no idle zero either, so their number is positive.
      obtain ⟨hds, hzero⟩ := h.of_concat hne
      specialize ih hds
      have hpos : 0 < Nat.ofDigitChars 10 ds 0 := by
        refine Nat.pos_of_ne_zero fun h0 => hzero ?_
        rw [ih, toDigits_eq_zero_iff, h0]
      rw [← Nat.toDigits_append_toDigits (by decide) hpos hlt, ← ih,
        Nat.toDigits_of_lt_base hlt, hchar]

/-- How an integer is written. -/
def integerText (n : Int) : List Char := (Text.integer n).toList

theorem integerText_of_nonneg (n : Nat) : integerText n = Nat.toDigits 10 n :=
  Text.toList_integer_of_nonneg (Int.natCast_nonneg n)

theorem integerText_of_neg {n : Nat} (hn : 0 < n) :
    integerText (-(n : Int)) = '-' :: Nat.toDigits 10 n := by
  rw [integerText, Text.toList_integer_of_neg (by omega), Int.natAbs_neg, Int.natAbs_natCast]

/-- The digits of a natural number, as those of a number. -/
def Digits.natural (n : Nat) : Digits := ⟨Nat.toDigits 10 n, none, none⟩

theorem Digits.natural_written (n : Nat) : (natural n).Written (Nat.toDigits 10 n) := by
  simpa [natural] using Digits.Written.mk (d := natural n) (whole_toDigits n) .none .none

/-- Whether digits are an integer depends only on their value and on the places that are empty. -/
theorem Digits.exists_number (d : Digits) (negative : Bool) :
    ∃ inexact : Except Fault Number, (∀ n, inexact ≠ .ok (.integer n)) ∧
      d.number negative = match d.fraction, d.exponent with
        | none, none =>
          let n := Nat.ofDigitChars 10 d.whole 0
          if negative then if 0 < n ∧ Word.InRange (-n) then .ok (.integer (-n)) else inexact
          else if n < UInt64.size then .ok (.integer n) else inexact
        | _, _ => inexact := by
  refine ⟨_, fun n => ?_, rfl⟩
  split_ifs <;> simp

/-- Digits are read as an integer if nothing follows the whole part and the word holds it. -/
theorem Digits.number_eq_integer_iff {d : Digits} {negative : Bool} {n : Int}
    (hw : Whole d.whole) :
    d.number negative = .ok (.integer n) ↔
      ∃ m, d = natural m ∧
        if negative then n = -m ∧ 0 < m ∧ Word.InRange n else n = m ∧ m < UInt64.size := by
  obtain ⟨inexact, hinexact, hnumber⟩ := d.exists_number negative
  rw [hnumber]
  constructor
  · intro h
    split at h
    next hf he =>
      refine ⟨Nat.ofDigitChars 10 d.whole 0, ?_, ?_⟩
      · rw [natural, ← hw.eq_toDigits, ← hf, ← he]
      · dsimp only at h
        split_ifs at h ⊢ with hneg hm hm
        · obtain rfl := Number.integer.inj (Except.ok.inj h)
          exact ⟨rfl, hm⟩
        · exact absurd h (hinexact n)
        · obtain rfl := Number.integer.inj (Except.ok.inj h)
          exact ⟨rfl, hm⟩
        · exact absurd h (hinexact n)
    next => exact absurd h (hinexact n)
  · rintro ⟨m, rfl, h⟩
    have hvalue : Nat.ofDigitChars 10 (natural m).whole 0 = m := Nat.ofDigitChars_ten_toDigits
    simp only [hvalue]
    simp only [natural]
    split_ifs at h ⊢ with hneg hm hm
    · rw [h.1]
    · exact absurd (h.1 ▸ h.2) hm
    · rw [h.1]
    · exact absurd h.2 hm

/-- The number after its sign. -/
def numberAfterSign (negative : Bool) (cs : List Char) : Except Fault (Number × List Char) :=
  (digits .ended cs).bind fun (d, cs) => (d.number negative).map fun n => (n, cs)

theorem readNumber_minus (cs : List Char) : readNumber ('-' :: cs) = numberAfterSign true cs := rfl

theorem readNumber_of_head (h : ∀ c ∈ cs.head?, c ≠ '-') :
    readNumber cs = numberAfterSign false cs := by
  cases cs with
  | nil => rfl
  | cons c cs =>
    have hminus : c ≠ '-' := h c rfl
    simp [readNumber, numberAfterSign, hminus]

theorem numberAfterSign_append {negative : Bool} {m : Nat} {n : Int}
    (hn : if negative then n = -m ∧ 0 < m ∧ Word.InRange n else n = m ∧ m < UInt64.size)
    (hrest : Stops rest) :
    numberAfterSign negative (Nat.toDigits 10 m ++ rest) = .ok (.integer n, rest) := by
  refine bind_eq_ok_iff.2 ⟨_, digits_append (Digits.natural_written m) hrest, ?_⟩
  refine map_eq_ok_iff.2 ⟨_, (Digits.number_eq_integer_iff (whole_toDigits m)).2 ⟨m, rfl, hn⟩, rfl⟩

theorem exists_of_numberAfterSign {negative : Bool} {n : Int}
    (h : numberAfterSign negative cs = .ok (.integer n, rest)) :
    ∃ m : Nat, cs = Nat.toDigits 10 m ++ rest ∧ if negative then n = -m ∧ 0 < m else n = m := by
  obtain ⟨⟨d, rest⟩, hread, h₁⟩ := bind_eq_ok_iff.1 h
  obtain ⟨n, hn, h₂⟩ := map_eq_ok_iff.1 h₁
  obtain ⟨rfl, rfl⟩ := Prod.mk.inj h₂
  obtain ⟨-, ⟨hw, hf, he⟩, rfl⟩ := exists_of_digits hread
  obtain ⟨m, rfl, hm⟩ := (Digits.number_eq_integer_iff hw).1 hn
  cases hf
  cases he
  refine ⟨m, by simp [Digits.natural], ?_⟩
  split_ifs at hm ⊢ with hneg
  · exact ⟨hm.1, hm.2.1⟩
  · exact hm.1

/-- **Integers.** An integer is read where it is written, unless it goes on as another number. -/
theorem readNumber_integer {n : Int} (hn : Word.InRange n) (hrest : Stops rest) :
    readNumber (integerText n ++ rest) = .ok (.integer n, rest) := by
  obtain ⟨m, rfl | ⟨rfl, hm⟩⟩ : ∃ m : Nat, n = m ∨ n = -m ∧ 0 < m := ⟨n.natAbs, by omega⟩
  · have hbound := (Word.inRange_iff.1 hn).2
    have hsize : m < UInt64.size := by
      rw [UInt64.size]
      omega
    have hhead : ∀ c ∈ (Nat.toDigits 10 m ++ rest).head?, c ≠ '-' := by
      obtain ⟨c, ds, hcs, hc, -⟩ := Text.exists_digit_toDigits m
      rw [hcs]
      rintro _ ⟨⟩
      exact ne_of_isDigit hc rfl
    rw [integerText_of_nonneg, readNumber_of_head hhead]
    exact numberAfterSign_append ⟨rfl, hsize⟩ hrest
  · rw [integerText_of_neg hm]
    exact numberAfterSign_append ⟨rfl, hm, hn⟩ hrest

theorem eq_of_readNumber {n : Int} (h : readNumber cs = .ok (.integer n, rest)) :
    cs = integerText n ++ rest := by
  by_cases hminus : cs.head? = some '-'
  · obtain ⟨cs, rfl⟩ := List.head?_eq_some_iff.1 hminus
    obtain ⟨m, rfl, rfl, hm⟩ := exists_of_numberAfterSign ((readNumber_minus cs).symm.trans h)
    rw [integerText_of_neg hm, List.cons_append]
  · have hhead : ∀ c ∈ cs.head?, c ≠ '-' := fun c hc hcs => hminus (hcs ▸ hc)
    obtain ⟨m, rfl, rfl⟩ := exists_of_numberAfterSign ((readNumber_of_head hhead).symm.trans h)
    rw [integerText_of_nonneg]

/-! ## Strings -/

/-- The pieces between the quotes of a string: characters and escapes. -/
inductive Body : List Char → Prop where
  | nil : Body []
  | plain {c : Char} {cs : List Char} (hquote : c ≠ '"') (hescape : c ≠ '\\')
      (hcontrol : 0x20 ≤ c.toNat) (h : Body cs) : Body (c :: cs)
  | escape {e : Char} {cs : List Char} (he : (escapeOf? e).isSome) (h : Body cs) :
      Body ('\\' :: e :: cs)
  | code {a b c d : Char} {cs : List Char} (hcode : (hexFour? a b c d).isSome) (h : Body cs) :
      Body ('\\' :: 'u' :: a :: b :: c :: d :: cs)

/-- The pieces between the quotes of a string, and the characters that they spell. Two codes that
are the halves of a surrogate pair spell one character; a half alone spells none. -/
inductive Spelled : List Char → List Char → Prop where
  | nil : Spelled [] []
  | plain {c : Char} {cs s : List Char} (hquote : c ≠ '"') (hescape : c ≠ '\\')
      (hcontrol : 0x20 ≤ c.toNat) (h : Spelled cs s) : Spelled (c :: cs) (c :: s)
  | escape {e c : Char} {cs s : List Char} (he : escapeOf? e = some c) (h : Spelled cs s) :
      Spelled ('\\' :: e :: cs) (c :: s)
  | code {a b c d : Char} {n : Nat} {cs s : List Char} (hcode : hexFour? a b c d = some n)
      (hlow : isLowSurrogate n = false) (hhigh : isHighSurrogate n = false) (h : Spelled cs s) :
      Spelled ('\\' :: 'u' :: a :: b :: c :: d :: cs) (Char.ofNat n :: s)
  | pair {a b c d a' b' c' d' : Char} {n m : Nat} {cs s : List Char}
      (hcode : hexFour? a b c d = some n) (hcode' : hexFour? a' b' c' d' = some m)
      (hhigh : isHighSurrogate n) (hlow : isLowSurrogate m) (h : Spelled cs s) :
      Spelled ('\\' :: 'u' :: a :: b :: c :: d :: '\\' :: 'u' :: a' :: b' :: c' :: d' :: cs)
        (Char.ofNat (0x10000 + (n - 0xD800) * 0x400 + (m - 0xDC00)) :: s)

theorem skipString_append (h : Body cs) : skipString (cs ++ '"' :: rest) = .ok rest := by
  induction h with
  | nil => simp [skipString]
  | plain hquote hescape hcontrol _ ih => simp [skipString, hescape, Nat.not_lt.2 hcontrol, ih]
  | @escape e cs he _ ih =>
    have hu : e ≠ 'u' := by
      rintro rfl
      simp [escapeOf?] at he
    simp [skipString, hu, he, ih]
  | code hcode _ ih => simp [skipString, hcode, ih]

theorem not_end_or_escape (hend : cs ≠ []) (hescape : ∀ e ds, cs ≠ e :: ds) : False := by
  cases cs with
  | nil => exact hend rfl
  | cons e ds => exact hescape e ds rfl

theorem exists_of_skipString (h : skipString cs = .ok rest) :
    ∃ s, Body s ∧ cs = s ++ '"' :: rest := by
  fun_induction skipString cs with
  | case2 cs =>
    obtain rfl := Except.ok.inj h
    exact ⟨[], .nil, rfl⟩
  | case4 a b c d cs hcode ih =>
    obtain ⟨s, hs, rfl⟩ := ih h
    exact ⟨_, .code hcode hs, rfl⟩
  | case7 e cs hu hu' he ih =>
    obtain ⟨s, hs, rfl⟩ := ih h
    exact ⟨_, .escape he hs, rfl⟩
  | case10 c cs hquote hend _ _ hescape hcontrol ih =>
    obtain ⟨s, hs, rfl⟩ := ih h
    refine ⟨_, .plain hquote (fun hc => ?_) (Nat.le_of_not_lt hcontrol) hs, rfl⟩
    exact not_end_or_escape (hend hc) (hescape · · hc)
  | _ => cases h

theorem not_isLowSurrogate {n : Nat} (h : isHighSurrogate n) : isLowSurrogate n = false := by
  simp [isHighSurrogate, isLowSurrogate] at h ⊢
  omega

theorem readString_append {s : List Char} (h : Spelled cs s) :
    readString (cs ++ '"' :: rest) = .ok (s, rest) := by
  induction h with
  | nil => simp [readString]
  | plain hquote hescape hcontrol _ ih =>
    simp [readString, hescape, Nat.not_lt.2 hcontrol, ih, ReadString.cons, Except.map]
  | @escape e c cs s he _ ih =>
    have hu : e ≠ 'u' := by
      rintro rfl
      simp [escapeOf?] at he
    simp [readString, hu, he, ih, ReadString.cons, Except.map]
  | code hcode hlow hhigh _ ih =>
    simp [readString, hcode, hlow, hhigh, ih, ReadString.cons, Except.map]
  | pair hcode hcode' hhigh hlow _ ih =>
    simp [readString, hcode, hcode', hlow, hhigh, not_isLowSurrogate hhigh, ih, ReadString.cons,
      Except.map]

theorem ReadString.exists_of_cons {c : Char} {r : ReadString} {s : List Char}
    (h : r.cons c = .ok (s, rest)) : ∃ t, s = c :: t ∧ r = .ok (t, rest) := by
  obtain ⟨⟨t, cs⟩, hr, hs⟩ := map_eq_ok_iff.1 h
  obtain ⟨rfl, rfl⟩ := Prod.mk.inj hs
  exact ⟨t, rfl, hr⟩

theorem exists_of_readString {s : List Char} (h : readString cs = .ok (s, rest)) :
    ∃ w, Spelled w s ∧ cs = w ++ '"' :: rest := by
  fun_induction readString cs generalizing s with
  | case2 cs =>
    obtain ⟨rfl, rfl⟩ := Prod.mk.inj (Except.ok.inj h)
    exact ⟨[], .nil, rfl⟩
  | case9 a b c d n hcode _ hhigh a' b' c' d' cs m hcode' hlow ih =>
    obtain ⟨t, rfl, ht⟩ := ReadString.exists_of_cons h
    obtain ⟨w, hw, rfl⟩ := ih ht
    exact ⟨_, .pair hcode hcode' hhigh hlow hw, rfl⟩
  | case13 a b c d cs n hcode hlow hhigh ih =>
    obtain ⟨t, rfl, ht⟩ := ReadString.exists_of_cons h
    obtain ⟨w, hw, rfl⟩ := ih ht
    exact ⟨_, .code hcode (Bool.not_eq_true _ ▸ hlow) (Bool.not_eq_true _ ▸ hhigh) hw, rfl⟩
  | case15 e cs _ _ c he ih =>
    obtain ⟨t, rfl, ht⟩ := ReadString.exists_of_cons h
    obtain ⟨w, hw, rfl⟩ := ih ht
    exact ⟨_, .escape he hw, rfl⟩
  | case18 c cs hquote hend _ _ hescape hcontrol ih =>
    obtain ⟨t, rfl, ht⟩ := ReadString.exists_of_cons h
    obtain ⟨w, hw, rfl⟩ := ih ht
    refine ⟨_, .plain hquote (fun hc => ?_) (Nat.le_of_not_lt hcontrol) hw, rfl⟩
    exact not_end_or_escape (hend hc) (hescape · · hc)
  | _ => cases h

end Snowflake.Json
