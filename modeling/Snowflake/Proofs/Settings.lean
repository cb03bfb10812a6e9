import Snowflake.Proofs.CommandWords
import Snowflake.Proofs.Commands
import Snowflake.Proofs.Lookup
import Snowflake.Proofs.Widths

/-!
# Where settings come from

A setting of the program is taken from its flag, or from its variable, or is its default. The flag
may stand in either scope of a line; what belongs to the command alone stands behind its name.

**What has to be said.** A line and an environment give a configuration, with a source for each of
its settings, if those of the line stand there once each, in whatever order, and the variables of
the others hold their values or are unset (`Line.Gives`). Neither the scope of a flag nor its place
among ids is mentioned.

**Resolution.** Both scopes together hold each flag of the line once, so it is looked up in one of
them, and only the others are left to the environment (`Line.Gives.resolve`). A variable whose flag
stands on the line is checked all the same, so it must hold some valid value.

**Theorem (`settings_by_source`).** Any such line is read as exactly the configuration.
-/

namespace Snowflake

open Text

/-! ## Lines -/

namespace Command

/-- The name that opens the scope of the command. -/
def name : Command → String
  | generate .. => "generate"
  | decode _ => "decode"
  | layout => "layout"

def scope : Command → Scope
  | generate .. => .generate
  | decode _ => .decode
  | layout => .layout

/-- The settings that belong to the command alone. -/
def settings : Command → List (Flag × Int)
  | generate count threads => [(.count, count.toNat), (.threads, threads.toNat)]
  | _ => []

def ids : Command → List Int64
  | decode ids => ids
  | _ => []

end Command

/-- The values of all flags. -/
def Config.settings (c : Config) : List (Flag × Int) :=
  (.nodeBits, (c.layout.nodeBits : Int)) :: (.sequenceBits, (c.layout.sequenceBits : Int)) ::
    (.nodeId, c.nodeId.toInt) :: (.offset, c.offset.toInt) :: c.command.settings

/-- What the variable of a flag holds. -/
def Flag.variable? (f : Flag) (e : Environment) : Option Setting := f.variableName?.bind e.get?

/-- What a line says before and after the name of its command. -/
structure Line where
  before : List Written
  after : List Item

namespace Line

def words (l : Line) (c : Command) : List String :=
  l.before.flatMap Written.words ++ c.name :: l.after.flatMap Item.words

/-- The settings of the flags. -/
def settings (l : Line) : List (Flag × Int) :=
  l.before.map Written.setting ++ l.after.filterMap Item.setting?

def ids (l : Line) : List Int64 := l.after.filterMap Item.id?

end Line

/-- Where the value of a flag comes from. -/
inductive Source where
  | line
  | environment
  | default
deriving DecidableEq, Repr

/-- What the variable of a flag with the value `n` has to hold. If the flag stands on the line, it
wins over any value there. -/
inductive Comes (e : Environment) (f : Flag) (n : Int) : Source → Prop where
  | line (he : ∀ s ∈ f.variable? e, ∃ text, s = .text text ∧ (f.read? text.toList).isSome) :
      Comes e f n .line
  | environment {text : String} (he : f.variable? e = some (.text text))
      (hn : f.read? text.toList = some n) : Comes e f n .environment
  | default (he : f.variable? e = none) (hn : n = f.default) : Comes e f n .default

/-- The line and the environment give the settings of a configuration, each from its source: those
of the line stand there once each, in some order and on either side of the command's name. -/
structure Line.Gives (l : Line) (e : Environment) (source : Flag → Source) (c : Config) : Prop where
  shared : ∀ w ∈ l.before, w.flag ∈ Flag.shared
  settings : l.settings.Perm (c.settings.filter fun s => source s.1 = .line)
  ids : l.ids = c.command.ids
  sources : ∀ s ∈ c.settings, Comes e s.1 s.2 (source s.1)

/-! ## Settings -/

variable {c : Config} {a : Arguments} {e : Environment} {l : Line} {f : Flag} {n : Int}

theorem Command.ofName?_name (c : Command) :
    c.name.toList ≠ "help".toList ∧ Scope.ofName? c.name.toList = some c.scope := by
  cases c <;> simp [name, scope, Scope.ofName?]

/-- The arguments that a configuration describes. -/
def Config.arguments (c : Config) : Arguments where
  nodeBits := .ofNat c.layout.nodeBits
  sequenceBits := .ofNat c.layout.sequenceBits
  nodeId := c.nodeId
  offset := c.offset
  command := c.command

/-- A configuration keeps all of its arguments. -/
theorem Config.arguments_of_ofArguments (h : ofArguments a = .ok c) : a = c.arguments := by
  obtain ⟨nodeBits, sequenceBits, nodeId, offset, command⟩ := a
  unfold ofArguments at h
  split at h
  next => cases h
  next layout hlayout =>
    obtain ⟨hn, hs⟩ := Layout.ofWidths_eq_ok_iff.1 hlayout
    split_ifs at h
    split at h
    next => cases h
    next =>
      obtain rfl := Except.ok.inj h
      simp [arguments, hn, hs]

theorem Flag.read?_width {n : Nat} (h : n ≤ 22) :
    nodeBits.read? (integer n).toList = some (n : Int) := by
  have hsize : n < 4294967296 := Nat.lt_of_le_of_lt h (by decide)
  simp [read?, integer?_integer, hsize]

theorem Flag.read?_word (w : Int64) : nodeId.read? (integer w.toInt).toList = some w.toInt := by
  simp [read?, integer?_integer, Word.inRange_toInt]

theorem Flag.read?_count (n : UInt64) :
    count.read? (integer n.toNat).toList = some (n.toNat : Int) := by
  have hdigits := toList_integer_of_nonneg (Int.natCast_nonneg n.toNat)
  have hminus : (integer n.toNat).toList.head? ≠ some '-' := by
    obtain ⟨c, ds, hcs, hc, -⟩ := exists_digit_toDigits (n.toNat : Int).natAbs
    have hminus : c ≠ '-' := ne_of_isDigit hc rfl
    rw [hdigits, hcs]
    simpa using hminus
  exact Option.map_eq_some_iff.2
    ⟨n.toNat, unsigned?_eq_some_iff.2 ⟨hminus, integer?_integer _, n.toNat_lt⟩, rfl⟩

theorem Config.settings_fit (h : ofArguments a = .ok c) :
    ∀ s ∈ c.settings, s.1 ∈ c.command.scope.flags ∧ 0 ≤ s.2 ∧
      s.1.read? (integer s.2).toList = some s.2 := by
  obtain ⟨⟨hnode, -⟩, hoffset, -⟩ := settings_of_ofArguments h
  rw [Int64.le_iff_toInt_le] at hnode hoffset
  have hshared : ∀ f ∈ Flag.shared, f ∈ c.command.scope.flags := by
    generalize c.command.scope = scope
    cases scope <;> decide
  simp only [settings, List.forall_mem_cons]
  refine ⟨⟨hshared _ (by decide), Int.natCast_nonneg _, Flag.read?_width c.layout.nodeBits_le⟩,
    ⟨hshared _ (by decide), Int.natCast_nonneg _, Flag.read?_width c.layout.sequenceBits_le⟩,
    ⟨hshared _ (by decide), hnode, Flag.read?_word c.nodeId⟩,
    ⟨hshared _ (by decide), hoffset, Flag.read?_word c.offset⟩, ?_⟩
  cases c.command with
  | generate count threads =>
    simp only [Command.settings, List.forall_mem_cons]
    have hown : Flag.count ∈ Scope.generate.flags ∧ Flag.threads ∈ Scope.generate.flags := by
      decide
    exact ⟨⟨hown.1, Int.natCast_nonneg _, Flag.read?_count count⟩,
      ⟨hown.2, Int.natCast_nonneg _, Flag.read?_count threads⟩, List.forall_mem_nil _⟩
  | decode ids => exact List.forall_mem_nil _
  | layout => exact List.forall_mem_nil _

theorem Config.nodup_settings (c : Config) : (c.settings.map Prod.fst).Nodup := by
  cases hc : c.command <;> simp [settings, Command.settings, hc]

theorem Comes.checkVariable {source : Source} (h : Comes e f n source) (g : Given) :
    g.checkVariable e f = .ok () := by
  have hvariable : f.variableName?.bind e.get? = f.variable? e := rfl
  rw [Given.checkVariable, hvariable]
  split_ifs
  · rfl
  · cases h with
    | line he =>
      cases hs : f.variable? e with
      | none => rfl
      | some s =>
        obtain ⟨text, rfl, hread⟩ := he s hs
        exact if_pos hread
    | environment he hn => simp [he, hn]
    | default he hn => rw [he]

theorem readScope_name {g : Given} {values : List (Flag × Int)} {ids : List Int64}
    (hg : g.Settles values ids) (c : Command) (words : List (List Char)) :
    readScope .program false g (c.name.toList :: words) = .ok (g, some (c.scope, words)) := by
  obtain ⟨hhelp, hname⟩ := c.ofName?_name
  have hhelp' : c.name.toList ≠ ['h', 'e', 'l', 'p'] := hhelp
  unfold readScope
  simp [hhelp', hname, hg.not_isAwaiting]

theorem Given.Settles.finish {g : Given} {values : List (Flag × Int)} {ids : List Int64}
    (hg : g.Settles values ids)
    (he : ∀ f ∈ Flag.shared, ∀ g : Given, g.checkVariable e f = .ok ()) :
    g.finish e = .ok ⟨values, ids, .nothing⟩ :=
  bind_eq_ok_iff.2 ⟨_, hg, map_eq_ok_iff.2 ⟨(), forM_eq_ok_iff.2 fun f hf => he f hf _, rfl⟩⟩

namespace Line.Gives

variable {source : Flag → Source} (h : l.Gives e source c)

include h

theorem mem_settings_iff {s : Flag × Int} :
    s ∈ l.settings ↔ s ∈ c.settings ∧ source s.1 = .line := by
  rw [h.settings.mem_iff, List.mem_filter, decide_eq_true_eq]

theorem once : (l.settings.map Prod.fst).Nodup :=
  (h.settings.map Prod.fst).nodup_iff.2 (c.nodup_settings.sublist (List.filter_sublist.map _))

theorem checkVariable (f : Flag) (hf : f ∈ Flag.shared) (g : Given) :
    g.checkVariable e f = .ok () := by
  have hmem : f ∈ c.settings.map Prod.fst :=
    List.mem_append_left (c.command.settings.map Prod.fst) hf
  obtain ⟨s, hs, rfl⟩ := List.mem_map.1 hmem
  exact (h.sources s hs).checkVariable g

/-- A flag is resolved to its value, whichever scope of the line it stands in. -/
theorem resolve {program command : Given} (hprogram : program.values = l.before.map Written.setting)
    (hcommand : command.values = l.after.filterMap Item.setting?) :
    ∀ s ∈ c.settings, s.1.resolve program command e = s.2 := by
  rintro ⟨f, n⟩ hs
  -- A flag is looked up in both scopes as in one list, where it stands once at most.
  have hperm : (command.values ++ program.values).Perm l.settings := by
    rw [hprogram, hcommand]
    exact List.perm_append_comm
  have hnodup := (hperm.map Prod.fst).nodup_iff.2 h.once
  have hscopes : (command.values.lookup f).or (program.values.lookup f) =
      (command.values ++ program.values).lookup f := List.lookup_append.symm
  have hnone (hsource : source f ≠ .line) :
      (command.values ++ program.values).lookup f = none := by
    rw [← Option.not_isSome_iff_eq_none, lookup_isSome_iff_mem, (hperm.map Prod.fst).mem_iff]
    intro hmem
    obtain ⟨s, hs, hf⟩ := List.mem_map.1 hmem
    exact hsource (hf ▸ (h.mem_settings_iff.1 hs).2)
  have hcomes := h.sources (f, n) hs
  dsimp only at hcomes ⊢
  rw [Flag.resolve, ← Option.or_assoc, hscopes]
  cases hsource : source f with
  | line =>
    rw [(lookup_eq_some_iff_mem hnodup).2 (hperm.mem_iff.2 (h.mem_settings_iff.2 ⟨hs, hsource⟩))]
    rfl
  | environment =>
    rw [hsource] at hcomes
    obtain ⟨⟩ | ⟨he, hn⟩ := hcomes
    obtain ⟨name, hname, hget⟩ := Option.bind_eq_some_iff.1 he
    simp [hnone (by simp [hsource]), hname, Environment.text?, hget, hn]
  | default =>
    rw [hsource] at hcomes
    obtain ⟨⟩ | ⟨⟩ | ⟨he, rfl⟩ := hcomes
    have htext : f.variableName?.bind e.text? = none := by
      rw [Option.bind_eq_none_iff]
      intro name hname
      simp [Environment.text?, Option.bind_eq_none_iff.1 he name hname]
    rw [hnone (by simp [hsource]), htext]
    rfl

theorem readScope_program (ha : Config.ofArguments a = .ok c) :
    ∃ g : Given, g.Settles (l.before.map Written.setting) [] ∧
      readScope .program false {} ((l.words c.command).map String.toList) =
        .ok (g, some (c.command.scope, (l.after.flatMap Item.words).map String.toList)) := by
  have hfits : ∀ item ∈ l.before.map Item.flag, item.Fits .program := by
    rw [List.forall_mem_map]
    intro w hw
    have hmem : w.setting ∈ l.settings := List.mem_append_left _ (List.mem_map_of_mem hw)
    exact ⟨h.shared w hw, (Config.settings_fit ha _ (h.mem_settings_iff.1 hmem).1).2⟩
  have hsettings : (l.before.map Item.flag).filterMap Item.setting? =
      l.before.map Written.setting := by
    simp [List.filterMap_map, Function.comp_def, Item.setting?]
  have hids : (l.before.map Item.flag).filterMap Item.id? = [] := by
    simp [List.filterMap_map, Function.comp_def, Item.id?]
  have hnodup := h.once.sublist ((List.sublist_append_left _ _).map Prod.fst)
  obtain ⟨g, hg, hread⟩ := readScope_items Given.settles_empty hfits (hsettings.symm ▸ hnodup)
    (c.command.name.toList :: (l.after.flatMap Item.words).map String.toList)
  rw [hsettings, hids, List.append_nil] at hg
  have hwords : (l.words c.command).map String.toList =
      ((l.before.map Item.flag).flatMap Item.words).map String.toList ++
        c.command.name.toList :: (l.after.flatMap Item.words).map String.toList := by
    simp [words, List.flatMap_map, Item.words]
  exact ⟨g, hg, hwords ▸ hread.trans (readScope_name hg c.command _)⟩

theorem readScope_command (ha : Config.ofArguments a = .ok c) :
    ∃ g : Given, g.Settles (l.after.filterMap Item.setting?) c.command.ids ∧
      readScope c.command.scope false {} ((l.after.flatMap Item.words).map String.toList) =
        .ok (g, none) := by
  have hfits : ∀ item ∈ l.after, item.Fits c.command.scope := by
    intro item hitem
    cases item with
    | flag w =>
      have hmem : w.setting ∈ l.settings :=
        List.mem_append_right _ (List.mem_filterMap.2 ⟨_, hitem, rfl⟩)
      exact Config.settings_fit ha _ (h.mem_settings_iff.1 hmem).1
    | id i =>
      have hmem : i ∈ c.command.ids := h.ids ▸ List.mem_filterMap.2 ⟨_, hitem, rfl⟩
      show c.command.scope = .decode
      cases hc : c.command with
      | decode ids => rfl
      | _ => simp [hc, Command.ids] at hmem
  have hnodup := h.once.sublist ((List.sublist_append_right _ _).map Prod.fst)
  obtain ⟨g, hg, hread⟩ := readScope_items Given.settles_empty hfits hnodup []
  rw [List.append_nil] at hread
  exact ⟨g, h.ids ▸ hg, hread⟩

theorem ofScopes_eq {program command : Given}
    (hprogram : program.values = l.before.map Written.setting)
    (hcommand : command.values = l.after.filterMap Item.setting?)
    (hids : command.ids = c.command.ids) :
    Arguments.ofScopes c.command.scope program command e = c.arguments := by
  have hvalue := h.resolve hprogram hcommand
  simp only [Config.settings, List.forall_mem_cons] at hvalue
  obtain ⟨hnode, hsequence, hid, hoffset, hown⟩ := hvalue
  cases hc : c.command with
  | generate count threads =>
    simp only [hc, Command.settings, List.forall_mem_cons] at hown
    simp [Arguments.ofScopes, Config.arguments, Command.scope, hnode, hsequence, hid, hoffset,
      hown, hc]
  | decode ids =>
    simp [Arguments.ofScopes, Config.arguments, Command.scope, Command.ids, hnode, hsequence, hid,
      hoffset, hids, hc]
  | layout =>
    simp [Arguments.ofScopes, Config.arguments, Command.scope, hnode, hsequence, hid, hoffset, hc]

/-- The line is read as the arguments of the configuration. -/
theorem ofWords (ha : Config.ofArguments a = .ok c) (hids : c.command ≠ .decode []) :
    Arguments.ofWords (l.words c.command) e = .ok a := by
  obtain ⟨program, hprogram, hbefore⟩ := h.readScope_program ha
  obtain ⟨command, hcommand, hafter⟩ := h.readScope_command ha
  have hgiven : ¬(c.command.scope = .decode ∧ c.command.ids = []) := by
    rintro ⟨hscope, hempty⟩
    cases hc : c.command with
    | decode ids =>
      rw [hc] at hempty
      exact hids (hempty ▸ hc)
    | _ => simp [hc, Command.scope] at hscope
  refine bind_eq_ok_iff.2 ⟨_, hbefore, bind_eq_ok_iff.2 ⟨_, hafter, ?_⟩⟩
  refine bind_eq_ok_iff.2 ⟨_, hcommand.finish h.checkVariable, ?_⟩
  refine (if_neg hgiven).trans (map_eq_ok_iff.2 ⟨_, hprogram.finish h.checkVariable, ?_⟩)
  rw [h.ofScopes_eq rfl rfl rfl, Config.arguments_of_ofArguments ha]

end Line.Gives

/-- **Sources.** A configuration is what comes of any line and environment that give its settings,
wherever the flags stand. -/
theorem settings_by_source {source : Flag → Source} (hc : ∃ a, Config.ofArguments a = .ok c)
    (hids : c.command ≠ .decode []) (h : l.Gives e source c) :
    ∃ a, Arguments.ofWords (l.words c.command) e = .ok a ∧ Config.ofArguments a = .ok c := by
  obtain ⟨a, ha⟩ := hc
  exact ⟨a, h.ofWords ha hids, ha⟩

/-! ## A line with all three sources -/

namespace Sample

/-- Ids to take apart, with a layout, a node and an offset. -/
def config : Config := ⟨⟨8, 10, by decide⟩, 5, defaultOffset, .decode [-1, 4194304, 7]⟩

/-- The node id before the command, the sequence bits between the ids. -/
def line : Line :=
  ⟨[⟨.nodeId, 5, true⟩], [.id (-1), .flag ⟨.sequenceBits, 10, false⟩, .id 4194304, .id 7]⟩

/-- The node bits, and another node id. -/
def environment : Environment :=
  ⟨[(Layout.nodeBitsVariable, .text "+08"), (nodeIdVariable, .text "3")]⟩

def source : Flag → Source
  | .nodeBits => .environment
  | .offset => .default
  | _ => .line

end Sample

open Sample in
/-- The node id of the line wins over that of the environment, and the id before the flag is not
taken for a flag. -/
theorem sample_settings :
    line.words config.command =
      ["--node-id=5", "decode", "-1", "--sequence-bits", "10", "4194304", "7"] ∧
    line.Gives environment source config ∧
    ∃ a, Arguments.ofWords (line.words config.command) environment = .ok a ∧
      Config.ofArguments a = .ok config := by
  have hgives : line.Gives environment source config :=
    { shared := by decide
      settings := by decide
      ids := by decide
      sources := by
        have hunset : ∀ s ∈ Flag.sequenceBits.variable? environment,
            ∃ text, s = .text text ∧ (Flag.sequenceBits.read? text.toList).isSome := by
          rintro _ ⟨⟩
        have hlost : ∀ s ∈ Flag.nodeId.variable? environment,
            ∃ text, s = .text text ∧ (Flag.nodeId.read? text.toList).isSome := by
          rintro _ ⟨⟩
          exact ⟨"3", rfl, by decide⟩
        simp only [Config.settings, List.forall_mem_cons]
        exact ⟨.environment rfl (by decide), .line hunset, .line hlost,
          .default (by decide) rfl, List.forall_mem_nil _⟩ }
  refine ⟨by decide, hgives, settings_by_source ⟨config.arguments, ?_⟩ (by decide) hgives⟩
  decide

end Snowflake
