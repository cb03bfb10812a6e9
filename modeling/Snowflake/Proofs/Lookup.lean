import Snowflake.Proofs.Widths
import Mathlib.Data.List.Induction
import Mathlib.Data.List.TakeWhile

/-!
# What a lookup accepts

The texts that a lookup accepts are those of a grammar. Digits are one or more ASCII digits, read
with the first one counting most (`Text.Digits`); a numeral is digits, perhaps with a plus sign
before them (`Text.Numeral`). A variable contributes a default where it is unset, and otherwise the
number of a numeral with any blanks on either side (`Layout.Contributes`).

Trimming leaves the numeral of such a text, since no numeral holds a blank, and gives nothing else,
since what it takes away are blanks (`Text.exists_padding`).

**Theorem (`lookup_resolves`).** What comes of the two variables is one of four things
(`Layout.Resolves`): the layout of the two numbers if their sum is small enough, a refusal of the
two numbers if it is not, or a refusal of the first variable that contributes nothing, with its text
as it stands. The second variable is looked up exactly if the first one contributes. Sums are those
of natural numbers.
-/

namespace Snowflake

open Text

namespace Text

variable {cs before after : List Char} {n bound : Nat}

/-! ## Numerals -/

/-- One or more ASCII digits, with the number that they denote. -/
inductive Digits : List Char → Nat → Prop where
  | one {c : Char} (hc : c.isDigit) : Digits [c] (c.toNat - '0'.toNat)
  | more {cs : List Char} {n : Nat} {c : Char} (h : Digits cs n) (hc : c.isDigit) :
      Digits (cs ++ [c]) (10 * n + (c.toNat - '0'.toNat))

/-- Digits with the number that they denote, perhaps with a plus sign before them. -/
inductive Numeral : List Char → Nat → Prop where
  | plain {cs : List Char} {n : Nat} (h : Digits cs n) : Numeral cs n
  | plus {cs : List Char} {n : Nat} (h : Digits cs n) : Numeral ('+' :: cs) n

theorem Digits.all_isDigit (h : Digits cs n) : ∀ c ∈ cs, c.isDigit := by
  induction h with
  | one hc => exact List.forall_mem_singleton.2 hc
  | more h hc ih => exact List.forall_mem_append.2 ⟨ih, List.forall_mem_singleton.2 hc⟩

theorem Digits.ne_nil (h : Digits cs n) : cs ≠ [] := by
  cases h <;> simp

theorem Digits.value_eq (h : Digits cs n) : Nat.ofDigitChars 10 cs 0 = n := by
  induction h with
  | one hc => simp [Nat.ofDigitChars_cons, Nat.ofDigitChars_nil]
  | more h hc ih => rw [Nat.ofDigitChars_append, ih, Nat.ofDigitChars_cons, Nat.ofDigitChars_nil]

theorem digits_of_all_isDigit (hne : cs ≠ []) (hcs : ∀ c ∈ cs, c.isDigit) :
    Digits cs (Nat.ofDigitChars 10 cs 0) := by
  induction cs using List.reverseRecOn with
  | nil => exact absurd rfl hne
  | append_singleton cs c ih =>
    obtain ⟨hinit, hlast⟩ := List.forall_mem_append.1 hcs
    have hc := hlast c List.mem_cons_self
    rw [Nat.ofDigitChars_append, Nat.ofDigitChars_cons, Nat.ofDigitChars_nil]
    by_cases hnil : cs = []
    · subst hnil
      simpa [Nat.ofDigitChars_nil] using Digits.one hc
    · exact .more (ih hnil hinit) hc

theorem digits?_eq_some_iff : digits? cs = some n ↔ Digits cs n := by
  unfold digits?
  constructor
  · intro h
    split_ifs at h with hdigits
    exact Option.some.inj h ▸ digits_of_all_isDigit hdigits.1 (List.all_eq_true.1 hdigits.2)
  · intro h
    rw [if_pos ⟨h.ne_nil, List.all_eq_true.2 h.all_isDigit⟩, h.value_eq]

theorem unsigned?_iff_numeral : unsigned? bound cs = some n ↔ Numeral cs n ∧ n < bound := by
  have hbody : ∀ ds, (digits? ds).filter (· < bound) = some n ↔ Digits ds n ∧ n < bound := by
    simp [Option.filter_eq_some_iff, digits?_eq_some_iff]
  unfold unsigned?
  split
  next r =>
    rw [hbody]
    refine and_congr_left fun _ => ⟨.plus, fun h => ?_⟩
    cases h with
    | plus h => exact h
    | plain h => exact absurd (h.all_isDigit '+' List.mem_cons_self) (by decide)
  next hplus =>
    rw [hbody]
    refine and_congr_left fun _ => ⟨.plain, fun h => ?_⟩
    cases h with
    | plus h => exact absurd rfl (hplus _)
    | plain h => exact h

theorem numeral_natural (n : Nat) : Numeral (natural n).toList n := by
  rw [natural, Nat.toList_repr]
  exact .plain (digits?_eq_some_iff.1 (digits?_toDigits n))

theorem Numeral.ne_nil (h : Numeral cs n) : cs ≠ [] := by
  cases h with
  | plain h => exact h.ne_nil
  | plus h => exact List.cons_ne_nil _ _

theorem Numeral.not_blank (h : Numeral cs n) : ∀ c ∈ cs, isBlank c = false := by
  cases h with
  | plain h => exact fun c hc => not_blank_of_isDigit (h.all_isDigit c hc)
  | plus h =>
    exact List.forall_mem_cons.2 ⟨by decide, fun c hc => not_blank_of_isDigit (h.all_isDigit c hc)⟩

/-! ## Blanks -/

/-- Nothing but blanks. -/
def Blank (s : String) : Prop := ∀ c ∈ s.toList, isBlank c

instance (s : String) : Decidable (Blank s) :=
  decidable_of_iff (s.toList.all isBlank) List.all_eq_true

theorem trim_padded (hbefore : ∀ c ∈ before, isBlank c) (hne : cs ≠ [])
    (hcs : ∀ c ∈ cs, isBlank c = false) (hafter : ∀ c ∈ after, isBlank c) :
    trim (before ++ cs ++ after) = cs := by
  have hstart : trimStart (before ++ cs ++ after) = cs ++ after := by
    obtain ⟨c, rest, rfl⟩ := List.exists_cons_of_ne_nil hne
    rw [trimStart, List.append_assoc, List.dropWhile_append_of_pos hbefore, List.cons_append,
      List.dropWhile_cons_of_neg (by simp [hcs c List.mem_cons_self])]
  rw [trim, hstart, trimEnd, List.reverse_append, List.dropWhile_append_of_pos]
  · exact trimEnd_of_not_blank hcs
  · exact fun c hc => hafter c (List.mem_reverse.1 hc)

theorem exists_padding (text : String) :
    ∃ before after, Blank before ∧ Blank after ∧
      text = before ++ String.ofList (trim text.toList) ++ after := by
  have hblank : ∀ cs : List Char, Blank (String.ofList (cs.takeWhile isBlank)) := by
    intro cs c hc
    rw [String.toList_ofList] at hc
    exact List.mem_takeWhile_imp hc
  refine ⟨String.ofList (text.toList.takeWhile isBlank),
    String.ofList ((trimStart text.toList).reverse.takeWhile isBlank).reverse, hblank _, ?_, ?_⟩
  · intro c hc
    rw [String.toList_ofList, List.mem_reverse] at hc
    exact List.mem_takeWhile_imp hc
  · have hend : trim text.toList ++ ((trimStart text.toList).reverse.takeWhile isBlank).reverse =
        trimStart text.toList := by
      rw [trim, trimEnd, ← List.reverse_append, List.takeWhile_append_dropWhile,
        List.reverse_reverse]
    apply String.toList_injective
    simp only [String.toList_append, String.toList_ofList]
    rw [List.append_assoc, hend]
    exact List.takeWhile_append_dropWhile.symm

end Text

namespace Layout

variable {text name : String} {value : Option String} {default n : Nat}
  {w nodeBits sequenceBits : UInt32}

/-! ## Variables -/

/-- The number that a variable contributes: a default if it is unset, and else that of a numeral
with blanks on either side. -/
inductive Contributes (default : Nat) : Option String → Nat → Prop where
  | unset : Contributes default none default
  | numeral {before body after : String} {n : Nat} (hbefore : Blank before)
      (hbody : Numeral body.toList n) (hafter : Blank after) (hn : n ≤ 2 ^ 32 - 1) :
      Contributes default (some (before ++ body ++ after)) n

/-- A variable that contributes no number. -/
def Malformed (default : Nat) (value : Option String) : Prop := ¬∃ n, Contributes default value n

theorem width?_iff_contributes :
    width? text = some w ↔ Contributes default (some text) w.toNat := by
  simp only [width?, Option.map_eq_some_iff, unsigned?_iff_numeral]
  constructor
  · rintro ⟨n, ⟨hnumeral, hlt⟩, rfl⟩
    obtain ⟨before, after, hbefore, hafter, htext⟩ := exists_padding text
    rw [htext, UInt32.toNat_ofNat_of_lt' hlt]
    exact .numeral hbefore (by rwa [String.toList_ofList]) hafter (Nat.le_pred_of_lt hlt)
  · intro h
    generalize hn : w.toNat = n at h
    cases h with
    | @numeral before body after _ hbefore hbody hafter _ =>
      refine ⟨n, ⟨?_, hn ▸ w.toNat_lt⟩, by rw [← hn, UInt32.ofNat_toNat]⟩
      rwa [String.toList_append, String.toList_append,
        trim_padded hbefore hbody.ne_nil hbody.not_blank hafter]

theorem readWidth_eq_ok_iff (hdefault : default < UInt32.size) :
    readWidth name default value = .ok w ↔ Contributes default value w.toNat := by
  cases value with
  | some text => rw [readWidth_some_eq_ok_iff, width?_iff_contributes]
  | none =>
    rw [readWidth, Except.ok.injEq]
    constructor
    · rintro rfl
      rw [UInt32.toNat_ofNat_of_lt' hdefault]
      exact .unset
    · intro h
      generalize hn : w.toNat = n at h
      cases h
      rw [← hn, UInt32.ofNat_toNat]

theorem Contributes.lt (h : Contributes default value n) (hdefault : default < UInt32.size) :
    n < UInt32.size := by
  cases h with
  | unset => exact hdefault
  | numeral _ _ _ hn => exact Nat.lt_of_le_pred (by decide) hn

theorem Contributes.readWidth (h : Contributes default value n) (hdefault : default < UInt32.size)
    (name : String) : readWidth name default value = .ok (UInt32.ofNat n) := by
  rw [readWidth_eq_ok_iff hdefault, UInt32.toNat_ofNat_of_lt' (h.lt hdefault)]
  exact h

/-- Reading fails exactly for a malformed variable, and names its text as it stands. -/
theorem readWidth_eq_error_iff (hdefault : default < UInt32.size) {e : Error} :
    readWidth name default value = .error e ↔
      ∃ text, value = some text ∧ Malformed default value ∧ e = .invalidVariable name text := by
  constructor
  · intro h
    have hmalformed : Malformed default value := by
      rintro ⟨n, hn⟩
      rw [hn.readWidth hdefault] at h
      cases h
    cases value with
    | none => cases h
    | some text =>
      refine ⟨text, rfl, hmalformed, ?_⟩
      cases hw : width? text <;> simp [Layout.readWidth, hw] at h
      exact h.symm
  · rintro ⟨text, rfl, hmalformed, rfl⟩
    cases hw : width? text with
    | none => simp [Layout.readWidth, hw]
    | some w => exact absurd ⟨_, width?_iff_contributes.1 hw⟩ hmalformed

/-! ## Widths -/

/-- The three comparisons are one, of natural numbers. -/
theorem tooMany_iff :
    (22 < nodeBits ∨ 22 < sequenceBits ∨ 22 < nodeBits + sequenceBits) ↔
      sharedBits < nodeBits.toNat + sequenceBits.toNat := by
  have hn := nodeBits.toNat_lt
  have hs := sequenceBits.toNat_lt
  simp only [UInt32.lt_iff_toNat_lt, UInt32.toNat_add, UInt32.toNat_ofNat, sharedBits]
  omega

theorem ofWidths_of_le (h : nodeBits.toNat + sequenceBits.toNat ≤ sharedBits) :
    ofWidths nodeBits sequenceBits = .ok ⟨nodeBits.toNat, sequenceBits.toNat, h⟩ :=
  dif_neg fun hmany => Nat.not_lt.2 h (tooMany_iff.1 hmany)

theorem ofWidths_of_gt (h : sharedBits < nodeBits.toNat + sequenceBits.toNat) :
    ofWidths nodeBits sequenceBits = .error (.tooManyBits nodeBits sequenceBits) :=
  dif_pos (tooMany_iff.2 h)

theorem ofWidths_eq_ok_iff {l : Layout} :
    ofWidths nodeBits sequenceBits = .ok l ↔
      l.nodeBits = nodeBits.toNat ∧ l.sequenceBits = sequenceBits.toNat := by
  constructor
  · intro h
    rcases Nat.lt_or_ge sharedBits (nodeBits.toNat + sequenceBits.toNat) with hmany | hfits
    · simp [ofWidths_of_gt hmany] at h
    · obtain rfl := Except.ok.inj ((ofWidths_of_le hfits).symm.trans h)
      exact ⟨rfl, rfl⟩
  · obtain ⟨n, s, hfits⟩ := l
    rintro ⟨rfl, rfl⟩
    exact ofWidths_of_le hfits

/-! ## Lookups -/

variable {lookup : String → Option String} {r : Lookup}

/-- What comes of the two variables, and which of them are looked up for it. -/
inductive Resolves (lookup : String → Option String) : Lookup → Prop where
  | malformedNode {text : String} (htext : lookup nodeBitsVariable = some text)
      (hn : Malformed 10 (lookup nodeBitsVariable)) :
      Resolves lookup ⟨[nodeBitsVariable], .error (.invalidVariable nodeBitsVariable text)⟩
  | malformedSequence {n : Nat} {text : String} (hn : Contributes 10 (lookup nodeBitsVariable) n)
      (htext : lookup sequenceBitsVariable = some text)
      (hs : Malformed 12 (lookup sequenceBitsVariable)) :
      Resolves lookup ⟨[nodeBitsVariable, sequenceBitsVariable],
        .error (.invalidVariable sequenceBitsVariable text)⟩
  | tooMany {n s : UInt32} (hn : Contributes 10 (lookup nodeBitsVariable) n.toNat)
      (hs : Contributes 12 (lookup sequenceBitsVariable) s.toNat) (h : 22 < n.toNat + s.toNat) :
      Resolves lookup ⟨[nodeBitsVariable, sequenceBitsVariable], .error (.tooManyBits n s)⟩
  | layout {n s : Nat} (hn : Contributes 10 (lookup nodeBitsVariable) n)
      (hs : Contributes 12 (lookup sequenceBitsVariable) s) (h : n + s ≤ 22) :
      Resolves lookup ⟨[nodeBitsVariable, sequenceBitsVariable], .ok ⟨n, s, h⟩⟩

theorem resolves_ofLookup (lookup : String → Option String) :
    Resolves lookup (ofLookup lookup) := by
  simp only [ofLookup, standard]
  cases hn : Layout.readWidth nodeBitsVariable 10 (lookup nodeBitsVariable) with
  | error e =>
    obtain ⟨text, htext, hmalformed, rfl⟩ := (readWidth_eq_error_iff (by decide)).1 hn
    exact .malformedNode htext hmalformed
  | ok n =>
    have hn := (readWidth_eq_ok_iff (by decide)).1 hn
    cases hs : Layout.readWidth sequenceBitsVariable 12 (lookup sequenceBitsVariable) with
    | error e =>
      obtain ⟨text, htext, hmalformed, rfl⟩ := (readWidth_eq_error_iff (by decide)).1 hs
      exact .malformedSequence hn htext hmalformed
    | ok s =>
      have hs := (readWidth_eq_ok_iff (by decide)).1 hs
      by_cases h : n.toNat + s.toNat ≤ sharedBits
      · simp only [ofWidths_of_le h]
        exact .layout hn hs h
      · simp only [ofWidths_of_gt (Nat.not_le.1 h)]
        exact .tooMany hn hs (Nat.not_le.1 h)

theorem Resolves.eq_ofLookup (h : Resolves lookup r) : ofLookup lookup = r := by
  cases h with
  | malformedNode htext hn =>
    have hread : Layout.readWidth nodeBitsVariable 10 (lookup nodeBitsVariable) = .error _ :=
      (readWidth_eq_error_iff (by decide)).2 ⟨_, htext, hn, rfl⟩
    simp only [ofLookup, standard, hread]
  | malformedSequence hn htext hs =>
    have hread :
        Layout.readWidth sequenceBitsVariable 12 (lookup sequenceBitsVariable) = .error _ :=
      (readWidth_eq_error_iff (by decide)).2 ⟨_, htext, hs, rfl⟩
    simp only [ofLookup, standard, hn.readWidth (by decide), hread]
  | tooMany hn hs h =>
    simp only [ofLookup, standard, hn.readWidth (by decide), hs.readWidth (by decide),
      UInt32.ofNat_toNat, ofWidths_of_gt h]
  | @layout n s hn hs h =>
    have hn' := UInt32.toNat_ofNat_of_lt' (hn.lt (by decide))
    have hs' := UInt32.toNat_ofNat_of_lt' (hs.lt (by decide))
    have hsum : (UInt32.ofNat n).toNat + (UInt32.ofNat s).toNat ≤ sharedBits := by
      rw [hn', hs']
      exact h
    simp only [ofLookup, standard, hn.readWidth (by decide), hs.readWidth (by decide),
      ofWidths_of_le hsum, hn', hs']

/-- A width of a layout, written in decimal with blanks on either side, contributes itself. -/
theorem contributes_natural {before after : String} (hbefore : Blank before) (hafter : Blank after)
    (hn : n ≤ sharedBits) : Contributes default (some (before ++ natural n ++ after)) n :=
  .numeral hbefore (numeral_natural n) hafter (hn.trans (by decide))

/-- **The grammar of lookups.** Every lookup comes to what its two variables contribute, or to a
refusal of the first one that is malformed. Every layout is found again from its widths in decimal,
with any blanks around them. -/
theorem lookup_resolves (lookup : String → Option String) :
    (∀ r, ofLookup lookup = r ↔ Resolves lookup r) ∧
    ∀ (l : Layout) (before after before' after' : String),
      Blank before → Blank after → Blank before' → Blank after' →
      lookup nodeBitsVariable = some (before ++ natural l.nodeBits ++ after) →
      lookup sequenceBitsVariable = some (before' ++ natural l.sequenceBits ++ after') →
        (ofLookup lookup).result = .ok l := by
  refine ⟨fun r => ⟨fun h => h ▸ resolves_ofLookup lookup, Resolves.eq_ofLookup⟩, ?_⟩
  intro l before after before' after' hbefore hafter hbefore' hafter' hn hs
  have hcn : Contributes 10 (lookup nodeBitsVariable) l.nodeBits :=
    hn ▸ contributes_natural hbefore hafter l.nodeBits_le
  have hcs : Contributes 12 (lookup sequenceBitsVariable) l.sequenceBits :=
    hs ▸ contributes_natural hbefore' hafter' l.sequenceBits_le
  rw [(Resolves.layout hcn hcs l.fits).eq_ofLookup]

/-- A layout is found again in its padded widths. The largest number and 23, with a sign and a
leading zero, are too many bits, although their sum is small modulo the size of their type. A zero
with a minus sign contributes nothing. -/
theorem padded_widths_resolve :
    Blank "\u3000" ∧ Blank " \t" ∧ Blank "" ∧
    (ofLookup (Environment.ofWidthTexts "\u30004 \t" "18").text?).result = .ok ⟨4, 18, by decide⟩ ∧
    ofLookup (Environment.ofWidthTexts "+4294967295" "023").text? =
      ⟨[nodeBitsVariable, sequenceBitsVariable], .error (.tooManyBits 4294967295 23)⟩ ∧
    Malformed 10 (some "-0") := by
  have hspace : Blank "\u3000" := by decide
  have htab : Blank " \t" := by decide
  have hempty : Blank "" := by decide
  have hnode : Numeral "+4294967295".toList 4294967295 :=
    (unsigned?_iff_numeral.1
      (by decide : unsigned? UInt32.size "+4294967295".toList = some 4294967295)).1
  have hsequence : Numeral "023".toList 23 :=
    (unsigned?_iff_numeral.1 (by decide : unsigned? UInt32.size "023".toList = some 23)).1
  refine ⟨hspace, htab, hempty, ?_, ?_, ?_⟩
  · exact (lookup_resolves _).2 ⟨4, 18, by decide⟩ "\u3000" " \t" "" "" hspace htab hempty hempty
      (by decide) (by decide)
  · refine ((lookup_resolves _).1 _).2 (.tooMany ?_ ?_ (by decide))
    · exact .numeral hempty hnode hempty (by decide)
    · exact .numeral hempty hsequence hempty (by decide)
  · have hresolves := ((lookup_resolves (Environment.ofWidthTexts "-0" "12").text?).1
      ⟨[nodeBitsVariable], .error (.invalidVariable nodeBitsVariable "-0")⟩).1 rfl
    cases hresolves with
    | malformedNode htext hn => exact hn

end Layout

end Snowflake
