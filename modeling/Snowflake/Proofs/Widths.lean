import Snowflake.Command.Line
import Snowflake.Proofs.Fields
import Snowflake.Proofs.Numerals

/-!
# Two readings of the same widths

The two variables for the widths are read in two ways. A lookup trims the text and takes an unsigned
numeral (`Layout.width?`); the command line takes the text as it is, and any numeral whose value is
in range (`Flag.width?`). So the lookup refuses a zero with a minus sign, the command line refuses
blanks around a numeral, and on everything else the two agree: for one text
(`Layout.width?_iff_of_flag`, `Flag.width?_iff_of_layout`), for a variable that may be unset, and
for the layout that comes of both.

**Theorem (`layouts_agree_iff`).** Where the lookup and a command line without flags both give a
layout, it is the same one. They give the same layouts exactly if no accepted text has the minus
sign of a zero, and none has blanks around it.
-/

namespace Snowflake

open Text

variable {text name : String} {value : Option String} {default : Nat} {w w' : UInt32}

/-! ## Texts -/

theorem Layout.width?_eq_some_iff :
    width? text = some w ↔
      (trim text.toList).head? ≠ some '-' ∧ integer? (trim text.toList) = some (w.toNat : Int) := by
  simp only [width?, Option.map_eq_some_iff, unsigned?_eq_some_iff]
  constructor
  · rintro ⟨n, ⟨hminus, hread, hlt⟩, rfl⟩
    refine ⟨hminus, ?_⟩
    rw [hread, UInt32.toNat_ofNat_of_lt' hlt]
  · rintro ⟨hminus, hread⟩
    exact ⟨w.toNat, ⟨hminus, hread, w.toNat_lt⟩, UInt32.ofNat_toNat⟩

/-- The width that a text gives on the command line. -/
def Flag.width? (text : String) : Option UInt32 :=
  (nodeBits.read? text.toList).map fun n => UInt32.ofNat n.toNat

theorem Flag.width?_eq_some_iff :
    width? text = some w ↔ integer? text.toList = some (w.toNat : Int) := by
  simp only [width?, read?, Option.map_eq_some_iff, Option.filter_eq_some_iff, decide_eq_true_eq]
  constructor
  · rintro ⟨n, ⟨hread, hpos, hlt⟩, rfl⟩
    rw [hread, UInt32.toNat_ofNat_of_lt' (by omega), Int.toNat_of_nonneg hpos]
  · intro hread
    have hlt := w.toNat_lt
    refine ⟨w.toNat, ⟨hread, by omega, ?_⟩, UInt32.ofNat_toNat⟩
    exact_mod_cast hlt

/-- Of a width on the command line, the lookup refuses the minus sign of a zero and nothing else. -/
theorem Layout.width?_iff_of_flag (h : Flag.width? text = some w) :
    width? text = some w' ↔ w' = w ∧ text.toList.head? ≠ some '-' := by
  have hread := Flag.width?_eq_some_iff.1 h
  rw [width?_eq_some_iff, trim_of_integer? hread, hread, ← UInt32.toNat_inj]
  simp only [Option.some.injEq, Int.natCast_inj, and_comm, eq_comm]

/-- Of a width that is looked up, the command line refuses the blanks around it and nothing else. -/
theorem Flag.width?_iff_of_layout (h : Layout.width? text = some w) :
    width? text = some w' ↔ w' = w ∧ trim text.toList = text.toList := by
  have hread := (Layout.width?_eq_some_iff.1 h).2
  rw [width?_eq_some_iff]
  constructor
  · intro hread'
    have htrim := trim_of_integer? hread'
    rw [htrim, hread', Option.some.injEq, Int.natCast_inj] at hread
    exact ⟨UInt32.toNat_inj.1 hread, htrim⟩
  · rintro ⟨rfl, htrim⟩
    rwa [htrim] at hread

/-! ## Variables -/

/-- The width that the command line takes from a variable, or the default if it is unset. -/
def Flag.widthOf? (default : Nat) (value : Option String) : Option UInt32 :=
  match value with
  | none => some (UInt32.ofNat default)
  | some text => width? text

theorem Layout.readWidth_some_eq_ok_iff :
    readWidth name default (some text) = .ok w ↔ width? text = some w := by
  simp only [readWidth]
  cases width? text <;> simp

theorem Layout.readWidth_iff_of_flag (h : Flag.widthOf? default value = some w) :
    readWidth name default value = .ok w' ↔
      w' = w ∧ ∀ text ∈ value, text.toList.head? ≠ some '-' := by
  cases value with
  | none =>
    obtain rfl : UInt32.ofNat default = w := Option.some.inj h
    simp [readWidth, eq_comm]
  | some text =>
    rw [readWidth_some_eq_ok_iff, width?_iff_of_flag h]
    simp

theorem Flag.widthOf?_iff_of_readWidth (h : Layout.readWidth name default value = .ok w) :
    widthOf? default value = some w' ↔
      w' = w ∧ ∀ text ∈ value, trim text.toList = text.toList := by
  cases value with
  | none =>
    obtain rfl : UInt32.ofNat default = w := Except.ok.inj h
    simp [widthOf?, eq_comm]
  | some text =>
    rw [widthOf?, width?_iff_of_layout (Layout.readWidth_some_eq_ok_iff.1 h)]
    simp

/-! ## A command line without flags -/

variable {e : Environment} {f : Flag} {l l' : Layout}

theorem forM_eq_ok_iff {ε α : Type} {f : α → Except ε Unit} {as : List α} :
    as.forM f = .ok () ↔ ∀ a ∈ as, f a = .ok () := by
  induction as with
  | nil => exact ⟨fun _ => nofun, fun _ => rfl⟩
  | cons a as ih =>
    rw [List.forall_mem_cons, ← ih]
    show (f a).bind (fun _ => as.forM f) = .ok () ↔ _
    cases f a <;> simp [Except.bind]

theorem Given.checkVariable_eq_ok_iff (hname : f.variableName? = some name) :
    ({} : Given).checkVariable e f = .ok () ↔
      ∀ s, e.get? name = some s → ∃ text, s = .text text ∧ (f.read? text.toList).isSome := by
  simp only [checkVariable, hname, Option.bind_some, List.lookup_nil, Option.isSome_none,
    Bool.false_eq_true, if_false]
  cases h : e.get? name with
  | none => simp
  | some s => cases s <;> simp [Option.isSome_iff_ne_none]

theorem Given.checkVariable_of_unset (hname : f.variableName? = some name)
    (h : e.get? name = none) : ({} : Given).checkVariable e f = .ok () :=
  (checkVariable_eq_ok_iff hname).2 (by simp [h])

theorem Flag.resolve_of_unset (hname : f.variableName? = some name) (h : e.get? name = none) :
    f.resolve {} {} e = f.default := by
  simp [resolve, hname, Environment.text?, h]

/-- A width is taken from its variable exactly if the variable passes the check of the command
line. -/
theorem Flag.widthOf?_eq_some_iff (hname : f.variableName? = some name)
    (hread : ∀ text, f.read? text = nodeBits.read? text) (htext : e.get? name ≠ some .bytes) :
    widthOf? f.default.toNat (e.text? name) = some w ↔
      ({} : Given).checkVariable e f = .ok () ∧ UInt32.ofNat (f.resolve {} {} e).toNat = w := by
  rw [Given.checkVariable_eq_ok_iff hname]
  simp only [resolve, hname, hread, List.lookup_nil, Option.none_or, Option.bind_some]
  cases hget : e.get? name with
  | none => simp [Environment.text?, hget, widthOf?]
  | some s =>
    cases s with
    | bytes => exact absurd hget htext
    | text value =>
      simp only [Environment.text?, hget, widthOf?, width?, Option.bind_some]
      cases hr : nodeBits.read? value.toList <;> simp [hr]

theorem Arguments.ofWords_layout (e : Environment) :
    ofWords ["layout"] e =
      (Flag.shared.forM (({} : Given).checkVariable e)).bind fun _ =>
        .ok (ofScopes .layout {} {} e) := by
  -- Both scopes make the same checks, since neither was given a flag.
  have hends : ∀ checked : Except Refusal Unit,
      ((checked.map fun _ => ({} : Given)).bind fun command =>
        if Scope.layout = .decode ∧ command.ids = [] then .error .missingIds
        else (checked.map fun _ => ({} : Given)).map fun program =>
          ofScopes .layout program command e) =
      checked.bind fun _ => .ok (ofScopes .layout {} {} e) := by
    intro checked
    cases checked <;> rfl
  exact hends _

theorem Layout.maxNode_nonneg (l : Layout) : 0 ≤ l.maxNode := by
  have hpos : (0 : Int) < 2 ^ l.nodeBits := by positivity
  rw [Int64.le_iff_toInt_le, toInt_maxNode, Int64.toInt_zero]
  omega

/-- With node zero, to show the layout, the widths alone are checked. -/
theorem Config.layout_ofArguments {a : Arguments} (hnode : a.nodeId = 0) (hoffset : 0 ≤ a.offset)
    (hcommand : a.command = .layout) :
    (ofArguments a).toOption.map layout = some l ↔
      Layout.ofWidths a.nodeBits a.sequenceBits = .ok l := by
  unfold ofArguments
  cases Layout.ofWidths a.nodeBits a.sequenceBits with
  | error => simp [Except.toOption]
  | ok l' =>
    simp [hnode, l'.maxNode_nonneg, Int64.not_lt.2 hoffset, hcommand, checkThreads,
      Except.toOption]

namespace Environment

/-- Node id and offset are unset, and each of the widths is unset or a text. -/
structure WidthsOnly (e : Environment) : Prop where
  nodeBits : e.get? Layout.nodeBitsVariable ≠ some .bytes
  sequenceBits : e.get? Layout.sequenceBitsVariable ≠ some .bytes
  nodeId : e.get? nodeIdVariable = none
  offset : e.get? offsetVariable = none

/-- The layout that a command line without flags shows. -/
def shown? (e : Environment) : Option Layout :=
  (Arguments.ofWords ["layout"] e).toOption.bind fun a =>
    (Config.ofArguments a).toOption.map Config.layout

theorem shown?_eq_some_iff (h : e.WidthsOnly) :
    e.shown? = some l ↔ ∃ n s, Flag.widthOf? 10 (e.text? Layout.nodeBitsVariable) = some n ∧
      Flag.widthOf? 12 (e.text? Layout.sequenceBitsVariable) = some s ∧
      Layout.ofWidths n s = .ok l := by
  have hnode := fun w =>
    Flag.widthOf?_eq_some_iff (w := w) (f := .nodeBits) rfl (fun _ => rfl) h.nodeBits
  have hsequence := fun w =>
    Flag.widthOf?_eq_some_iff (w := w) (f := .sequenceBits) rfl (fun _ => rfl) h.sequenceBits
  have hlayout := Config.layout_ofArguments (l := l) (a := Arguments.ofScopes .layout {} {} e)
    (by simp [Arguments.ofScopes, Flag.resolve_of_unset (f := .nodeId) rfl h.nodeId, Flag.default])
    (by simp [Arguments.ofScopes, Flag.resolve_of_unset (f := .offset) rfl h.offset]; decide) rfl
  have hchecked : Flag.shared.forM (({} : Given).checkVariable e) = .ok () ↔
      ({} : Given).checkVariable e .nodeBits = .ok () ∧
        ({} : Given).checkVariable e .sequenceBits = .ok () := by
    rw [forM_eq_ok_iff]
    simp [Flag.shared, Given.checkVariable_of_unset (f := .nodeId) rfl h.nodeId,
      Given.checkVariable_of_unset (f := .offset) rfl h.offset]
  rw [shown?, Arguments.ofWords_layout]
  constructor
  · intro hshown
    cases hforM : Flag.shared.forM (({} : Given).checkVariable e) with
    | error r => simp [hforM, Except.bind, Except.toOption] at hshown
    | ok u =>
      rw [hforM] at hshown
      obtain ⟨hn, hs⟩ := hchecked.1 hforM
      exact ⟨_, _, (hnode _).2 ⟨hn, rfl⟩, (hsequence _).2 ⟨hs, rfl⟩, hlayout.1 hshown⟩
  · rintro ⟨n, s, hn, hs, hl⟩
    obtain ⟨hn', rfl⟩ := (hnode n).1 hn
    obtain ⟨hs', rfl⟩ := (hsequence s).1 hs
    rw [hchecked.2 ⟨hn', hs'⟩]
    exact hlayout.2 hl

theorem ofEnvironment_eq_ok_iff :
    Layout.ofEnvironment e = .ok l ↔
      ∃ n s, Layout.readWidth Layout.nodeBitsVariable 10 (e.text? Layout.nodeBitsVariable) =
          .ok n ∧
        Layout.readWidth Layout.sequenceBitsVariable 12 (e.text? Layout.sequenceBitsVariable) =
          .ok s ∧
        Layout.ofWidths n s = .ok l := by
  simp only [Layout.ofEnvironment, Layout.ofLookup, Layout.standard]
  cases Layout.readWidth Layout.nodeBitsVariable 10 (e.text? Layout.nodeBitsVariable) with
  | error => simp
  | ok n =>
    cases Layout.readWidth Layout.sequenceBitsVariable 12
        (e.text? Layout.sequenceBitsVariable) with
    | error => simp
    | ok s => simp

/-! ## Both -/

/-- The texts of the two widths, as far as they are set. -/
def widthTexts (e : Environment) : List (List Char) :=
  [Layout.nodeBitsVariable, Layout.sequenceBitsVariable].filterMap fun name =>
    (e.text? name).map String.toList

theorem forall_mem_widthTexts {p : List Char → Prop} :
    (∀ text ∈ e.widthTexts, p text) ↔
      (∀ text ∈ e.text? Layout.nodeBitsVariable, p text.toList) ∧
        ∀ text ∈ e.text? Layout.sequenceBitsVariable, p text.toList := by
  simp [widthTexts, or_imp, forall_and]

theorem ofEnvironment_iff_of_shown (h : e.WidthsOnly) (hl : e.shown? = some l) :
    Layout.ofEnvironment e = .ok l' ↔ l' = l ∧ ∀ text ∈ e.widthTexts, text.head? ≠ some '-' := by
  obtain ⟨n, s, hn, hs, hl⟩ := (shown?_eq_some_iff h).1 hl
  rw [ofEnvironment_eq_ok_iff, forall_mem_widthTexts]
  simp only [Layout.readWidth_iff_of_flag hn, Layout.readWidth_iff_of_flag hs]
  constructor
  · rintro ⟨_, _, ⟨rfl, hnminus⟩, ⟨rfl, hsminus⟩, hl'⟩
    exact ⟨Except.ok.inj (hl'.symm.trans hl), hnminus, hsminus⟩
  · rintro ⟨rfl, hnminus, hsminus⟩
    exact ⟨n, s, ⟨rfl, hnminus⟩, ⟨rfl, hsminus⟩, hl⟩

theorem shown?_iff_of_ofEnvironment (h : e.WidthsOnly) (hl : Layout.ofEnvironment e = .ok l) :
    e.shown? = some l' ↔ l' = l ∧ ∀ text ∈ e.widthTexts, trim text = text := by
  obtain ⟨n, s, hn, hs, hl⟩ := ofEnvironment_eq_ok_iff.1 hl
  rw [shown?_eq_some_iff h, forall_mem_widthTexts]
  simp only [Flag.widthOf?_iff_of_readWidth hn, Flag.widthOf?_iff_of_readWidth hs]
  constructor
  · rintro ⟨_, _, ⟨rfl, hntrim⟩, ⟨rfl, hstrim⟩, hl'⟩
    exact ⟨Except.ok.inj (hl'.symm.trans hl), hntrim, hstrim⟩
  · rintro ⟨rfl, hntrim, hstrim⟩
    exact ⟨n, s, ⟨rfl, hntrim⟩, ⟨rfl, hstrim⟩, hl⟩

/-- **Agreement.** The command line and the lookup never come to different layouts. They come to the
same ones exactly if the texts that the command line accepts have no minus sign, and those that the
lookup accepts have no blanks around them. -/
theorem layouts_agree_iff (h : e.WidthsOnly) :
    (∀ l l', e.shown? = some l → Layout.ofEnvironment e = .ok l' → l = l') ∧
    ((∀ l, e.shown? = some l ↔ Layout.ofEnvironment e = .ok l) ↔
      ((∃ l, e.shown? = some l) → ∀ text ∈ e.widthTexts, text.head? ≠ some '-') ∧
        ((∃ l, Layout.ofEnvironment e = .ok l) → ∀ text ∈ e.widthTexts, trim text = text)) := by
  refine ⟨fun l l' hl hl' => ((ofEnvironment_iff_of_shown h hl).1 hl').1.symm, ?_, ?_⟩
  · intro hagree
    constructor
    · rintro ⟨l, hl⟩
      exact ((ofEnvironment_iff_of_shown h hl).1 ((hagree l).1 hl)).2
    · rintro ⟨l, hl⟩
      exact ((shown?_iff_of_ofEnvironment h hl).1 ((hagree l).2 hl)).2
  · rintro ⟨hminus, hblank⟩ l
    constructor
    · intro hl
      exact (ofEnvironment_iff_of_shown h hl).2 ⟨rfl, hminus ⟨l, hl⟩⟩
    · intro hl
      exact (shown?_iff_of_ofEnvironment h hl).2 ⟨rfl, hblank ⟨l, hl⟩⟩

/-- The two widths, given as texts. -/
def ofWidthTexts (nodeBits sequenceBits : String) : Environment :=
  ⟨[(Layout.nodeBitsVariable, .text nodeBits), (Layout.sequenceBitsVariable, .text sequenceBits)]⟩

/-- A plus sign and leading zeros are read alike. -/
theorem signed_widths_agree :
    (ofWidthTexts "04" "+18").WidthsOnly ∧
    (ofWidthTexts "04" "+18").shown? = some ⟨4, 18, by decide⟩ ∧
    ∀ l, (ofWidthTexts "04" "+18").shown? = some l ↔
      Layout.ofEnvironment (ofWidthTexts "04" "+18") = .ok l := by
  have hset : (ofWidthTexts "04" "+18").WidthsOnly :=
    ⟨by decide, by decide, by decide, by decide⟩
  refine ⟨hset, by decide, (layouts_agree_iff hset).2.2 ⟨fun _ => ?_, fun _ => ?_⟩⟩
  · decide
  · decide

/-- A width in blanks is looked up, but refused on the command line; of a zero with a minus sign it
is the other way round. -/
theorem padded_and_negated_disagree :
    (ofWidthTexts "4" " 18 ").WidthsOnly ∧
    Layout.ofEnvironment (ofWidthTexts "4" " 18 ") = .ok ⟨4, 18, by decide⟩ ∧
    (ofWidthTexts "4" " 18 ").shown? = none ∧
    (ofWidthTexts "-0" "12").WidthsOnly ∧
    Layout.ofEnvironment (ofWidthTexts "-0" "12") =
      .error (.invalidVariable Layout.nodeBitsVariable "-0") ∧
    (ofWidthTexts "-0" "12").shown? = some ⟨0, 12, by decide⟩ :=
  ⟨⟨by decide, by decide, by decide, by decide⟩, by decide, by decide,
    ⟨by decide, by decide, by decide, by decide⟩, by decide, by decide⟩

end Environment

end Snowflake
