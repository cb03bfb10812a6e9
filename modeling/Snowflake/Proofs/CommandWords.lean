import Snowflake.Command.Line
import Snowflake.Proofs.NamedValues
import Snowflake.Proofs.Numerals

/-!
# The words of a scope

A command line has two scopes, the program's before the name of the command and the command's after
it. In either one flags are written, with their value in the next word or after an equals sign, and
in that of `decode` there are ids as well (`Item`).

**Pending words.** The value of a flag, and ids that follow each other, are only checked when the
next word shows that they are complete. So what a scope has given is stated of what it settles to
once that is done (`Given.Settles`): each item adds its setting or its id to it
(`readScope_written`, `readScope_id`). The digits of an id are told from a short flag after its sign
(`take_id`), and a value is never taken for the name of a command, because it is awaited.

**Items in any order.** If no flag is set twice, the words of items settle to their settings and
ids, with whatever stands behind them still to be read (`readScope_items`).
-/

namespace Snowflake

open Text

/-! ## Shapes -/

section Shapes

variable {cs : List Char}

theorem Shape.of_toDigits (n : Nat) : Shape.of (Nat.toDigits 10 n) = .plain := by
  obtain ⟨c, ds, hcs, hc, -⟩ := exists_digit_toDigits n
  have hminus : c ≠ '-' := ne_of_isDigit hc rfl
  simp [hcs, Shape.of, hminus]

theorem Shape.of_short {c : Char} (hc : c ≠ '-') (cs : List Char) :
    Shape.of ('-' :: c :: cs) = .short c cs := by
  simp [Shape.of, hc]

theorem looksNumeric_of_digits {first point mark : Bool} (h : ∀ c ∈ cs, c.isDigit) :
    looksNumeric first point mark cs := by
  induction cs generalizing first with
  | nil => rfl
  | cons c cs ih =>
    obtain ⟨hc, hcs⟩ := List.forall_mem_cons.1 h
    simp [looksNumeric, hc, ih hcs]

theorem Flag.name_no_equals (f : Flag) : ∀ c ∈ f.name.toList, c ≠ '=' := by
  cases f <;> simp [name]

theorem Flag.name_ne_nil (f : Flag) : f.name.toList ≠ [] := by
  cases f <;> decide

theorem Shape.of_name (f : Flag) :
    Shape.of ('-' :: '-' :: f.name.toList) = .long f.name.toList none := by
  cases f <;> decide

theorem Shape.of_attached (f : Flag) (text : List Char) :
    Shape.of ('-' :: '-' :: (f.name.toList ++ '=' :: text)) = .long f.name.toList (some text) := by
  have hname : ∀ c ∈ f.name.toList, (c != '=') = true := fun c hc => by simp [f.name_no_equals c hc]
  obtain ⟨c, cs, hcs⟩ := List.exists_cons_of_ne_nil f.name_ne_nil
  have htake : (f.name.toList ++ '=' :: text).takeWhile (· != '=') = f.name.toList := by
    rw [List.takeWhile_append_of_pos hname]
    simp
  have hdrop : (f.name.toList ++ '=' :: text).dropWhile (· != '=') = '=' :: text := by
    rw [List.dropWhile_append_of_pos hname]
    simp
  rw [hcs, List.cons_append] at *
  rw [Shape.of, htake, hdrop]
  · rfl
  · simp

theorem Scope.named?_name {s : Scope} {f : Flag} (h : f ∈ s.flags) :
    s.named? f.name.toList = some f := by
  revert h
  cases s <;> cases f <;> decide

end Shapes

/-! ## Items -/

/-- What a written flag says. -/
def Written.setting (w : Written) : Flag × Int := (w.flag, w.value)

/-- What stands in a scope. -/
inductive Item where
  | flag (w : Written)
  | id (id : Int64)
deriving DecidableEq

namespace Item

def words : Item → List String
  | flag w => w.words
  | id i => [word i]

/-- The setting of a flag. -/
def setting? : Item → Option (Flag × Int)
  | flag w => some w.setting
  | id _ => none

def id? : Item → Option Int64
  | flag _ => none
  | id i => some i

/-- The scope takes the flag with its value, or takes ids. -/
def Fits (scope : Scope) : Item → Prop
  | flag w => w.flag ∈ scope.flags ∧ 0 ≤ w.value ∧
      w.flag.read? (integer w.value).toList = some w.value
  | id _ => scope = .decode

end Item

/-! ## Reading -/

variable {scope : Scope} {g : Given} {settings : List (Flag × Int)} {ids : List Int64}

namespace Given

/-- Once what is pending is checked, the scope has given these settings and ids. -/
def Settles (g : Given) (settings : List (Flag × Int)) (ids : List Int64) : Prop :=
  g.settle = .ok ⟨settings, ids, .nothing⟩

theorem settles_empty : ({} : Given).Settles [] [] := rfl

theorem Settles.not_isAwaiting (h : g.Settles settings ids) : g.isAwaiting = false := by
  unfold Settles settle at h
  unfold isAwaiting
  split at h <;> simp_all

theorem assign_fresh {f : Flag} {text : List Char} {n : Int} (hf : f ∉ g.values.map Prod.fst)
    (hn : f.read? text = some n) :
    g.assign f text = .ok { g with values := g.values ++ [(f, n)] } := by
  rw [assign, if_neg (mt lookup_isSome_iff_mem.1 hf), hn]

theorem Settles.attach (h : g.Settles settings ids) {f : Flag} {text : List Char} {n : Int}
    (hf : f ∉ settings.map Prod.fst) (hn : f.read? text = some n) :
    ∃ g', g.attach f text = .ok g' ∧ g'.Settles (settings ++ [(f, n)]) ids := by
  refine ⟨⟨settings ++ [(f, n)], ids, .nothing⟩, ?_, rfl⟩
  rw [Given.attach, h]
  exact assign_fresh (g := ⟨settings, ids, .nothing⟩) hf hn

theorem Settles.await (h : g.Settles settings ids) (f : Flag) :
    g.await f = .ok ⟨settings, ids, .flag f none⟩ := by
  rw [Given.await, h]
  rfl

theorem settles_flag {f : Flag} {text : List Char} {n : Int} (hf : f ∉ settings.map Prod.fst)
    (hn : f.read? text = some n) :
    (⟨settings, ids, .flag f (some text)⟩ : Given).Settles (settings ++ [(f, n)]) ids :=
  assign_fresh (g := ⟨settings, ids, .nothing⟩) hf hn

theorem settles_ids {texts : List (List Char)} {read : List Int64}
    (hread : texts.mapM word? = some read) :
    (⟨settings, ids, .ids texts⟩ : Given).Settles settings (ids ++ read) := by
  simp [Settles, settle, hread]

theorem Settles.takeValue_id (h : g.Settles settings ids) (i : Int64) :
    ∃ g', g.takeValue .decode (word i).toList = .ok g' ∧ g'.Settles settings (ids ++ [i]) := by
  have hword : [(word i).toList].mapM word? = some [i] := by simp [word?_word]
  have hafter : g.settle.map (fun g => { g with pending := .ids [(word i).toList] }) =
      .ok ⟨settings, ids, .ids [(word i).toList]⟩ := by
    rw [h]
    rfl
  obtain ⟨values, given, pending⟩ := g
  cases pending with
  | nothing => exact ⟨_, hafter, settles_ids hword⟩
  | flag f value =>
    cases value with
    | none => cases h
    | some text => exact ⟨_, hafter, settles_ids hword⟩
  | ids texts =>
    cases hread : texts.mapM word? with
    | none => simp [Settles, settle, hread] at h
    | some read =>
      obtain ⟨rfl, rfl⟩ : values = settings ∧ given ++ read = ids := by
        simpa [Settles, settle, hread] using h
      have hmore : (texts ++ [(word i).toList]).mapM word? = some (read ++ [i]) := by
        simp [List.mapM_append, hread, word?_word]
      exact ⟨_, rfl, List.append_assoc given read [i] ▸ settles_ids hmore⟩

end Given

open Given

theorem readScope_take {w : List Char} (words : List (List Char)) (hshape : Shape.of w ≠ .escape)
    (hname : scope = .program → g.isAwaiting = false →
      w ≠ "help".toList ∧ Scope.ofName? w = none) :
    readScope scope false g (w :: words) =
      (g.take scope w).bind fun g => readScope scope false g words := by
  have hhelp : ¬(scope = .program ∧ !g.isAwaiting ∧ w = "help".toList) := fun h =>
    (hname h.1 (by simpa using h.2.1)).1 h.2.2
  have hcommand : (if scope = .program ∧ !g.isAwaiting then Scope.ofName? w else none) = none := by
    split_ifs with h
    · exact (hname h.1 (by simpa using h.2)).2
    · rfl
  conv_lhs => unfold readScope
  rw [if_neg Bool.false_ne_true, if_neg hhelp, hcommand]
  exact if_neg hshape

theorem not_name_of_hyphen {w : List Char} (h : w.head? = some '-') :
    w ≠ "help".toList ∧ Scope.ofName? w = none := by
  obtain ⟨cs, rfl⟩ := List.head?_eq_some_iff.1 h
  exact ⟨by simp, rfl⟩

theorem readScope_written {w : Written} (hg : g.Settles settings ids)
    (hfits : (Item.flag w).Fits scope) (hnew : w.flag ∉ settings.map Prod.fst)
    (rest : List (List Char)) :
    ∃ g', g'.Settles (settings ++ [w.setting]) ids ∧
      readScope scope false g (w.words.map String.toList ++ rest) =
        readScope scope false g' rest := by
  obtain ⟨hflag, hpos, hread⟩ := hfits
  obtain ⟨f, n, attached⟩ := w
  cases attached with
  | true =>
    obtain ⟨g', hattach, hg'⟩ := hg.attach hnew hread
    have hword : (⟨f, n, true⟩ : Written).words.map String.toList =
        ['-' :: '-' :: (f.name.toList ++ '=' :: (integer n).toList)] := by
      simp [Written.words]
    have hshape := Shape.of_attached f (integer n).toList
    refine ⟨g', hg', ?_⟩
    rw [hword, List.singleton_append, readScope_take _ (by simp [hshape])
      fun _ _ => not_name_of_hyphen rfl, take, hshape]
    simp only [takeLong, Scope.named?_name hflag, hattach]
    rfl
  | false =>
    have hword : (⟨f, n, false⟩ : Written).words.map String.toList =
        ['-' :: '-' :: f.name.toList, (integer n).toList] := by
      simp [Written.words]
    have hname := Shape.of_name f
    have hvalue : Shape.of (integer n).toList = .plain := by
      rw [toList_integer_of_nonneg hpos, Shape.of_toDigits]
    refine ⟨_, settles_flag hnew hread, ?_⟩
    rw [hword, List.cons_append, List.singleton_append, readScope_take _ (by simp [hname])
      fun _ _ => not_name_of_hyphen rfl, take, hname]
    simp only [takeLong, Scope.named?_name hflag, hg.await f, Except.bind]
    -- The flag awaits a value now, so the next word is not compared with names.
    rw [readScope_take _ (by simp [hvalue]) fun _ h => absurd h (by simp [isAwaiting]), take,
      hvalue]
    rfl

/-- Where ids may stand, a negative one is none the less a value. -/
theorem take_id (g : Given) (i : Int64) :
    Shape.of (word i).toList ≠ .escape ∧
      g.take .decode (word i).toList = g.takeValue .decode (word i).toList := by
  rw [word, take]
  rcases Int.lt_or_le i.toInt 0 with hneg | hpos
  · obtain ⟨c, ds, hcs, hc, hds⟩ := exists_digit_toDigits i.toInt.natAbs
    have hnumeric : looksNumeric true false false (c :: ds) :=
      looksNumeric_of_digits (List.forall_mem_cons.2 ⟨hc, hds⟩)
    rw [toList_integer_of_neg hneg, hcs, Shape.of_short (ne_of_isDigit hc rfl)]
    exact ⟨by simp, if_pos ⟨rfl, hnumeric⟩⟩
  · rw [toList_integer_of_nonneg hpos, Shape.of_toDigits]
    exact ⟨by simp, rfl⟩

theorem readScope_id (hg : g.Settles settings ids) (i : Int64) (rest : List (List Char)) :
    ∃ g', g'.Settles settings (ids ++ [i]) ∧
      readScope .decode false g ((word i).toList :: rest) = readScope .decode false g' rest := by
  obtain ⟨g', htake, hg'⟩ := hg.takeValue_id i
  have hid := take_id g i
  refine ⟨g', hg', ?_⟩
  rw [readScope_take rest hid.1 (fun h => absurd h (by decide)), hid.2, htake]
  rfl

/-- Items are read as their settings and ids, if no flag is set twice. -/
theorem readScope_items {items : List Item} (hg : g.Settles settings ids)
    (hfits : ∀ item ∈ items, item.Fits scope)
    (hnodup : ((settings ++ items.filterMap Item.setting?).map Prod.fst).Nodup)
    (rest : List (List Char)) :
    ∃ g', g'.Settles (settings ++ items.filterMap Item.setting?) (ids ++ items.filterMap Item.id?) ∧
      readScope scope false g ((items.flatMap Item.words).map String.toList ++ rest) =
        readScope scope false g' rest := by
  induction items generalizing g settings ids with
  | nil => exact ⟨g, by simpa using hg, rfl⟩
  | cons item items ih =>
    obtain ⟨hitem, hitems⟩ := List.forall_mem_cons.1 hfits
    rw [List.flatMap_cons, List.map_append, List.append_assoc]
    cases item with
    | flag w =>
      have hnew : w.flag ∉ settings.map Prod.fst := fun hmem => by
        rw [List.map_append] at hnodup
        exact List.disjoint_of_nodup_append hnodup hmem (by simp [Item.setting?, Written.setting])
      have hlater :
          ((settings ++ [w.setting] ++ items.filterMap Item.setting?).map Prod.fst).Nodup := by
        simpa [Item.setting?, List.filterMap_cons] using hnodup
      obtain ⟨g₁, hg₁, hread⟩ := readScope_written hg hitem hnew _
      obtain ⟨g₂, hg₂, hrest⟩ := ih hg₁ hitems hlater
      refine ⟨g₂, ?_, hread.trans hrest⟩
      simpa [Item.setting?, Item.id?, List.filterMap_cons] using hg₂
    | id i =>
      obtain rfl : scope = .decode := hitem
      obtain ⟨g₁, hg₁, hread⟩ := readScope_id hg i _
      obtain ⟨g₂, hg₂, hrest⟩ := ih hg₁ hitems hnodup
      refine ⟨g₂, ?_, hread.trans hrest⟩
      simpa [Item.setting?, Item.id?, List.filterMap_cons] using hg₂

end Snowflake
