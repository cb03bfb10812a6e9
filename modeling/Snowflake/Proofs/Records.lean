import Snowflake.Json.Codec
import Snowflake.Proofs.NamedValues
import Snowflake.Proofs.Values

/-!
# Records

Which texts are records of given integers: an object that holds each field once, in any order and
among members with any other names and values, or an array of the integers in order (`Record`).

**Theorem (`readRecord_iff`).** A text is read as a record if and only if it is one whose integers
are accepted. An object is read member by member; the fields found so far have distinct names and
are those of the members read, so that at the end each field is looked up exactly if the members are
the record's fields in some order (`mapM_lookup_eq_some_iff`).
-/

namespace Snowflake.Json

open Text (ne_of_isDigit)

variable {accepts : Int → Bool} {fields : List String} {ns : List Int} {first : Bool}
  {cs rest tail : List Char}

/-! ## Records -/

/-- What a member contributes: a field its integer, and a member with another name nothing. -/
inductive Says (fields : List String) (name : String) : List Char → List (String × Int) → Prop where
  | field {n : Int} (hname : name ∈ fields) : Says fields name (integerText n) [(name, n)]
  | other {v : List Char} (hname : name ∉ fields) (hv : Value v) : Says fields name v []

/-- The members of an object through its closing brace, and the fields among them. -/
inductive Members (fields : List String) : Bool → List Char → List (String × Int) → Prop where
  | close {first : Bool} {b : List Char} (hb : Blank b) : Members fields first (b ++ ['\x7d']) []
  | member {first : Bool} {name : String} {lead w b b' v cs : List Char}
      {new found : List (String × Int)} (hlead : Lead first lead) (hw : Spelled w name.toList)
      (hb : Blank b) (hb' : Blank b') (hv : Says fields name v new)
      (h : Members fields false cs found) :
      Members fields first (lead ++ '"' :: w ++ '"' :: b ++ ':' :: b' ++ v ++ cs) (new ++ found)

/-- The integers of an array through its closing bracket. -/
inductive Integers : Bool → List Char → List Int → Prop where
  | close {first : Bool} {b : List Char} (hb : Blank b) : Integers first (b ++ [']']) []
  | item {first : Bool} {n : Int} {lead cs : List Char} {ns : List Int} (hlead : Lead first lead)
      (h : Integers false cs ns) : Integers first (lead ++ integerText n ++ cs) (n :: ns)

theorem Members.length_pos {found : List (String × Int)} (h : Members fields first cs found) :
    0 < cs.length := by
  induction h with
  | close hb => simp
  | member _ _ _ _ _ _ ih =>
    rw [List.length_append]
    exact Nat.add_pos_right _ ih

theorem Members.stops {found : List (String × Int)} (h : Members fields false cs found)
    (rest : List Char) : Stops (cs ++ rest) := by
  cases h with
  | close hb => exact stops_close hb (by decide) rest
  | member hlead =>
    simp only [List.append_assoc]
    exact hlead.stops _

theorem Integers.stops (h : Integers false cs ns) (rest : List Char) : Stops (cs ++ rest) := by
  cases h with
  | close hb => exact stops_close hb (by decide) rest
  | item hlead =>
    simp only [List.append_assoc]
    exact hlead.stops _

/-- A text that is a record of the fields with these values: an object that holds each of the fields
once, in any order and among any other members, or an array of the values. -/
inductive Record (fields : List String) (ns : List Int) : List Char → Prop where
  | object {b cs b' : List Char} {found : List (String × Int)} (hb : Blank b)
      (h : Members fields true cs found) (hfound : found.Perm (fields.zip ns))
      (hlength : fields.length = ns.length) (hb' : Blank b') :
      Record fields ns (b ++ '\x7b' :: cs ++ b')
  | array {b cs b' : List Char} (hb : Blank b) (h : Integers true cs ns)
      (hlength : fields.length = ns.length) (hb' : Blank b') :
      Record fields ns (b ++ '[' :: cs ++ b')

/-! ## Integers -/

theorem integerText_head (n : Int) :
    ∃ c ds, integerText n = c :: ds ∧ (c = '-' ∨ c.isDigit) ∧ isBlank c = false := by
  obtain ⟨m, rfl | ⟨rfl, hm⟩⟩ : ∃ m : Nat, n = m ∨ n = -m ∧ 0 < m := ⟨n.natAbs, by omega⟩
  · obtain ⟨c, ds, hcs, hc, -⟩ := Text.exists_digit_toDigits m
    exact ⟨c, ds, (integerText_of_nonneg m).trans hcs, .inr hc, not_isBlank_of_isDigit hc⟩
  · exact ⟨'-', _, integerText_of_neg hm, .inl rfl, rfl⟩

theorem integerText_opens (n : Int) : Opens ']' (integerText n) := by
  obtain ⟨c, ds, hcs, hc, hblank⟩ := integerText_head n
  refine ⟨c, ds, hcs, hblank, ?_⟩
  obtain rfl | hc := hc
  · decide
  · exact ne_of_isDigit hc rfl

theorem readInteger_append {b : List Char} {n : Int} (hb : Blank b) (hn : accepts n)
    (hrange : Word.InRange n) (hrest : Stops rest) :
    readInteger accepts (b ++ integerText n ++ rest) = .ok (n, rest) := by
  have hread := readNumber_integer hrange hrest
  obtain ⟨c, ds, hcs, hc, hblank⟩ := integerText_head n
  rw [hcs] at hread ⊢
  rw [readInteger, List.append_assoc, skipBlanks_append hb, List.cons_append,
    skipBlanks_cons hblank]
  exact (if_pos hc).trans (bind_eq_ok_iff.2 ⟨_, hread, if_pos hn⟩)

theorem exists_of_readInteger {n : Int} (h : readInteger accepts cs = .ok (n, rest)) :
    accepts n ∧ ∃ b, Blank b ∧ cs = b ++ integerText n ++ rest := by
  obtain ⟨b, hb, hcs⟩ := exists_blank_append cs
  unfold readInteger at h
  split at h
  next => cases h
  next c ds htoken =>
    split_ifs at h with hc
    obtain ⟨⟨number, rest⟩, hread, h₁⟩ := bind_eq_ok_iff.1 h
    cases number with
    | inexact => cases h₁
    | integer m =>
      dsimp only at h₁
      split_ifs at h₁ with hm
      obtain ⟨rfl, rfl⟩ := Prod.mk.inj (Except.ok.inj h₁)
      refine ⟨hm, b, hb, ?_⟩
      rw [hcs, htoken, eq_of_readNumber hread, List.append_assoc]

/-! ## Arrays -/

theorem readItems_cons_append {lead : List Char} (hlead : Lead first lead) (hcs : Opens ']' cs)
    (field : String) :
    readItems accepts first (field :: fields) (lead ++ cs) =
      (readInteger accepts cs).bind fun (n, cs) =>
        (readItems accepts false fields cs).map fun (ns, cs) => (n :: ns, cs) := by
  have hsolid := skipBlanks_of_solid hcs.solid
  obtain ⟨c, ds, rfl, -, hc⟩ := hcs
  cases hlead with
  | first hb => simp [readItems, skipBlanks_append hb, hsolid]
  | next hb hb' =>
    have hcomma (cs : List Char) : skipBlanks (',' :: cs) = ',' :: cs := skipBlanks_cons rfl cs
    simp [readItems, skipBlanks_append hb, skipBlanks_append hb', hcomma, hsolid]

theorem exists_of_readItems_cons {field : String}
    (h : readItems accepts first (field :: fields) cs = .ok (ns, tail)) :
    ∃ lead ds n mid ms, Lead first lead ∧ cs = lead ++ ds ∧
      readInteger accepts ds = .ok (n, mid) ∧ readItems accepts false fields mid = .ok (ms, tail) ∧
      ns = n :: ms := by
  obtain ⟨b, hb, hcs⟩ := exists_blank_append cs
  suffices hitem : ∃ lead ds, Lead first lead ∧ cs = lead ++ ds ∧
      ((readInteger accepts ds).bind fun (n, cs) =>
        (readItems accepts false fields cs).map fun (ns, cs) => (n :: ns, cs)) = .ok (ns, tail) by
    obtain ⟨lead, ds, hlead, hds, hread⟩ := hitem
    obtain ⟨⟨n, mid⟩, hn, hrest⟩ := bind_eq_ok_iff.1 hread
    obtain ⟨⟨ms, tail⟩, hms, heq⟩ := map_eq_ok_iff.1 hrest
    obtain ⟨rfl, rfl⟩ := Prod.mk.inj heq
    exact ⟨lead, ds, n, mid, ms, hlead, hds, hn, hms, rfl⟩
  unfold readItems at h
  dsimp only at h
  split at h
  next => cases h
  next => cases h
  next c ds _ htoken =>
    rw [htoken] at hcs
    split_ifs at h with hfirst hcomma
    · exact ⟨b, c :: ds, hfirst ▸ .first hb, hcs, h⟩
    · obtain rfl := Bool.eq_false_of_not_eq_true hfirst
      obtain ⟨b', hb', hds⟩ := exists_blank_append ds
      split at h
      next => cases h
      next => cases h
      next c' ds' _ htoken' =>
        rw [htoken'] at hds
        exact ⟨b ++ ',' :: b', c' :: ds', .next hb hb', by simp [hcs, hcomma, hds], h⟩

theorem readItems_append (haccepts : ∀ n, accepts n → Word.InRange n)
    (h : Integers first cs ns) (hns : ∀ n ∈ ns, accepts n) (hlength : fields.length = ns.length) :
    ∃ tail, readItems accepts first fields (cs ++ rest) = .ok (ns, tail) ∧
      endArray tail = .ok rest := by
  induction h generalizing fields with
  | @close first b hb =>
    obtain rfl := List.eq_nil_of_length_eq_zero hlength
    refine ⟨b ++ [']'] ++ rest, rfl, ?_⟩
    rw [endArray, List.append_assoc, skipBlanks_append hb]
    rfl
  | @item first n lead cs ns hlead h ih =>
    obtain ⟨field, fields, rfl⟩ := List.exists_cons_of_length_eq_add_one hlength
    obtain ⟨hn, hns⟩ := List.forall_mem_cons.1 hns
    obtain ⟨tail, hread, htail⟩ := ih hns (Nat.succ.inj hlength)
    refine ⟨tail, ?_, htail⟩
    rw [List.append_assoc, List.append_assoc,
      readItems_cons_append hlead ((integerText_opens n).append _)]
    have hinteger := readInteger_append blank_nil hn (haccepts n hn) (h.stops rest)
    exact bind_eq_ok_iff.2 ⟨_, hinteger, map_eq_ok_iff.2 ⟨_, hread, rfl⟩⟩

theorem exists_of_endArray (h : endArray cs = .ok rest) :
    ∃ b, Blank b ∧ cs = b ++ ']' :: rest := by
  obtain ⟨b, hb, hcs⟩ := exists_blank_append cs
  unfold endArray at h
  split at h
  next => cases h
  next ds htoken =>
    obtain rfl := Except.ok.inj h
    exact ⟨b, hb, htoken ▸ hcs⟩
  next => cases h

theorem exists_of_readItems (h : readItems accepts first fields cs = .ok (ns, tail))
    (htail : endArray tail = .ok rest) :
    fields.length = ns.length ∧ (∀ n ∈ ns, accepts n) ∧
      ∃ w, Integers first w ns ∧ cs = w ++ rest := by
  induction fields generalizing first cs ns with
  | nil =>
    obtain ⟨rfl, rfl⟩ := Prod.mk.inj (Except.ok.inj h)
    obtain ⟨b, hb, rfl⟩ := exists_of_endArray htail
    exact ⟨rfl, List.forall_mem_nil _, b ++ [']'], .close hb, by simp⟩
  | cons field fields ih =>
    obtain ⟨lead, ds, n, mid, ms, hlead, rfl, hn, hms, rfl⟩ := exists_of_readItems_cons h
    obtain ⟨haccepts, b, hb, rfl⟩ := exists_of_readInteger hn
    obtain ⟨hlength, hns, w, hw, rfl⟩ := ih hms
    exact ⟨congrArg Nat.succ hlength, List.forall_mem_cons.2 ⟨haccepts, hns⟩,
      lead ++ b ++ integerText n ++ w, .item (hlead.append_blank hb) hw, by simp⟩

/-! ## Objects -/

theorem nextName_append {lead : List Char} (hlead : Lead first lead) (cs : List Char) :
    nextName first (lead ++ '"' :: cs) = .ok (some cs) := by
  cases hlead with
  | first hb =>
    rw [nextName, skipBlanks_append hb]
    rfl
  | next hb hb' =>
    have hquote : skipBlanks (_ ++ '"' :: cs) = '"' :: cs :=
      (skipBlanks_append hb' _).trans (skipBlanks_cons rfl cs)
    rw [List.append_assoc, nextName, skipBlanks_append hb, List.cons_append, skipBlanks_cons rfl]
    simp [hquote]

theorem nextName_close {b : List Char} (hb : Blank b) (rest : List Char) :
    nextName first (b ++ '\x7d' :: rest) = .ok none := by
  rw [nextName, skipBlanks_append hb]
  rfl

theorem exists_of_nextName {ds : List Char} (h : nextName first cs = .ok (some ds)) :
    ∃ lead, Lead first lead ∧ cs = lead ++ '"' :: ds := by
  obtain ⟨b, hb, hcs⟩ := exists_blank_append cs
  unfold nextName at h
  split at h
  next => cases h
  next => cases h
  next c cs' _ htoken =>
    rw [htoken] at hcs
    split_ifs at h with hfirst hquote hcomma
    · obtain rfl := Option.some.inj (Except.ok.inj h)
      exact ⟨b, hfirst ▸ .first hb, hquote ▸ hcs⟩
    · obtain rfl := Bool.eq_false_of_not_eq_true hfirst
      obtain ⟨b', hb', hcs'⟩ := exists_blank_append cs'
      split at h
      next => cases h
      next ds' htoken' =>
        obtain rfl := Option.some.inj (Except.ok.inj h)
        rw [htoken'] at hcs'
        exact ⟨b ++ ',' :: b', .next hb hb', by simp [hcs, hcomma, hcs']⟩
      next => cases h

theorem of_nextName_none (h : nextName first cs = .ok none) :
    ∃ rest, skipBlanks cs = '\x7d' :: rest := by
  unfold nextName at h
  split at h
  next => cases h
  next ds htoken => exact ⟨ds, htoken⟩
  next =>
    split_ifs at h
    · cases h
    · split at h <;> cases h

theorem expectColon_append {b : List Char} (hb : Blank b) (rest : List Char) :
    expectColon (b ++ ':' :: rest) = .ok rest := by
  rw [expectColon, skipBlanks_append hb]
  rfl

theorem exists_of_expectColon (h : expectColon cs = .ok rest) :
    ∃ b, Blank b ∧ cs = b ++ ':' :: rest := by
  obtain ⟨b, hb, hcs⟩ := exists_blank_append cs
  unfold expectColon at h
  split at h
  next => cases h
  next ds htoken =>
    obtain rfl := Except.ok.inj h
    exact ⟨b, hb, htoken ▸ hcs⟩
  next => cases h

/-- The fields found once a member is read whose name is known, and the text after it. -/
def readMember (accepts : Int → Bool) (fields : List String) (found : List (String × Int))
    (name : String) (cs : List Char) : Reading (List (String × Int)) :=
  if name ∈ fields then
    if (found.lookup name).isSome then .error .mismatched
    else (expectColon cs).bind fun cs =>
      (readInteger accepts cs).map fun (n, cs) => ((name, n) :: found, cs)
  else (expectColon cs).bind fun cs => (skipValue cs).map fun cs => (found, cs)

theorem readMembersWith_succ (fuel : Nat) (first : Bool) (found : List (String × Int))
    (cs : List Char) :
    readMembersWith accepts fields (fuel + 1) first found cs =
      (nextName first cs).bind fun
        | none => .ok (found, cs)
        | some cs =>
          (readString cs).bind fun (name, cs) =>
            (readMember accepts fields found (String.ofList name) cs).bind fun (found, cs) =>
              readMembersWith accepts fields fuel false found cs := by
  rw [readMembersWith]
  refine congrArg (Except.bind (nextName first cs)) (funext fun next => ?_)
  cases next with
  | none => rfl
  | some cs =>
    refine congrArg (Except.bind (readString cs)) (funext fun (name, cs) => ?_)
    simp only [readMember]
    split_ifs
    · rfl
    · cases expectColon cs with
      | error f => rfl
      | ok cs => simp only [Except.bind]; cases readInteger accepts cs <;> rfl
    · cases expectColon cs with
      | error f => rfl
      | ok cs => simp only [Except.bind]; cases skipValue cs <;> rfl

section Member

variable {name : String} {new found : List (String × Int)} {v : List Char}

theorem Says.read (h : Says fields name v new) (haccepts : ∀ n, accepts n → Word.InRange n)
    (hnew : ∀ m ∈ new, accepts m.2) (hnodup : ((new ++ found).map Prod.fst).Nodup)
    {b b' : List Char} (hb : Blank b) (hb' : Blank b') (hrest : Stops rest) :
    readMember accepts fields found name (b ++ ':' :: (b' ++ v ++ rest)) =
      .ok (new ++ found, rest) := by
  have hcolon := expectColon_append hb (b' ++ v ++ rest)
  cases h with
  | @field n hname =>
    have hn : accepts n := hnew (name, n) List.mem_cons_self
    have hunknown : ¬(found.lookup name).isSome :=
      mt lookup_isSome_iff_mem.1 (List.nodup_cons.1 hnodup).1
    rw [readMember, if_pos hname, if_neg hunknown]
    exact bind_eq_ok_iff.2 ⟨_, hcolon,
      map_eq_ok_iff.2 ⟨_, readInteger_append hb' hn (haccepts n hn) hrest, rfl⟩⟩
  | other hname hv =>
    rw [readMember, if_neg hname]
    exact bind_eq_ok_iff.2 ⟨_, hcolon, map_eq_ok_iff.2 ⟨_, skipValue_append hb' hv hrest, rfl⟩⟩

theorem exists_of_readMember {all : List (String × Int)}
    (h : readMember accepts fields found name cs = .ok (all, rest)) :
    ∃ b b' v new, Blank b ∧ Blank b' ∧ Says fields name v new ∧ all = new ++ found ∧
      (∀ m ∈ new, accepts m.2) ∧ cs = b ++ ':' :: (b' ++ v ++ rest) ∧
      ((found.map Prod.fst).Nodup → (all.map Prod.fst).Nodup) := by
  unfold readMember at h
  split_ifs at h with hname hknown
  · obtain ⟨ds, hcolon, hread⟩ := bind_eq_ok_iff.1 h
    obtain ⟨⟨n, rest⟩, hn, heq⟩ := map_eq_ok_iff.1 hread
    obtain ⟨rfl, rfl⟩ := Prod.mk.inj heq
    obtain ⟨b, hb, rfl⟩ := exists_of_expectColon hcolon
    obtain ⟨haccepts, b', hb', rfl⟩ := exists_of_readInteger hn
    refine ⟨b, b', _, _, hb, hb', .field hname, rfl, ?_, rfl, fun hnodup => ?_⟩
    · exact List.forall_mem_singleton.2 haccepts
    · exact List.nodup_cons.2 ⟨mt lookup_isSome_iff_mem.2 hknown, hnodup⟩
  · obtain ⟨ds, hcolon, hread⟩ := bind_eq_ok_iff.1 h
    obtain ⟨rest, hskip, heq⟩ := map_eq_ok_iff.1 hread
    obtain ⟨rfl, rfl⟩ := Prod.mk.inj heq
    obtain ⟨b, hb, rfl⟩ := exists_of_expectColon hcolon
    obtain ⟨b', v, hb', hv, rfl⟩ := exists_of_skipValue hskip
    exact ⟨b, b', v, [], hb, hb', .other hname hv, rfl, List.forall_mem_nil _, rfl, id⟩

end Member

theorem readMembersWith_append (haccepts : ∀ n, accepts n → Word.InRange n) {fuel : Nat}
    {acc found : List (String × Int)} (h : Members fields first cs found)
    (hfound : ∀ m ∈ found, accepts m.2) (hnodup : ((found ++ acc).map Prod.fst).Nodup)
    (hfuel : cs.length ≤ fuel) :
    ∃ all tail, readMembersWith accepts fields fuel first acc (cs ++ rest) = .ok (all, tail) ∧
      all.Perm (found ++ acc) ∧ skipBlanks tail = '\x7d' :: rest := by
  obtain ⟨fuel, rfl⟩ : ∃ k, fuel = k + 1 :=
    Nat.exists_eq_add_one.2 (Nat.lt_of_lt_of_le h.length_pos hfuel)
  induction h generalizing fuel acc with
  | close hb =>
    rw [List.append_assoc]
    refine ⟨acc, _, ?_, .refl _, (skipBlanks_append hb _).trans (skipBlanks_cons rfl rest)⟩
    rw [readMembersWith_succ]
    exact bind_eq_ok_iff.2 ⟨_, nextName_close hb rest, rfl⟩
  | @member first name lead w b b' v cs new found hlead hw hb hb' hv h ih =>
    have hperm : (found ++ (new ++ acc)).Perm (new ++ found ++ acc) :=
      List.append_assoc new found acc ▸ List.perm_append_comm_assoc found new acc
    have hnodup' := (hperm.map Prod.fst).nodup_iff.2 hnodup
    obtain ⟨hnew, hfound⟩ := List.forall_mem_append.1 hfound
    -- The member is at least as long as its quotes, so there is fuel left for what follows it.
    simp only [List.length_append, List.length_cons] at hfuel
    have hpos := h.length_pos
    obtain ⟨fuel, rfl⟩ : ∃ k, fuel = k + 1 := Nat.exists_eq_add_one.2 (by omega)
    obtain ⟨all, tail, hread, hall, htail⟩ := ih hfound hnodup' fuel (by omega)
    refine ⟨all, tail, ?_, hall.trans hperm, htail⟩
    have hassoc : lead ++ '"' :: w ++ '"' :: b ++ ':' :: b' ++ v ++ cs ++ rest =
        lead ++ '"' :: (w ++ '"' :: (b ++ ':' :: (b' ++ v ++ (cs ++ rest)))) := by simp
    have hacc : ((new ++ acc).map Prod.fst).Nodup :=
      hnodup'.sublist ((List.sublist_append_right found _).map _)
    have hmember := hv.read haccepts hnew hacc hb hb' (h.stops rest)
    rw [readMembersWith_succ, hassoc]
    refine bind_eq_ok_iff.2 ⟨_, nextName_append hlead _, ?_⟩
    refine bind_eq_ok_iff.2 ⟨_, readString_append hw, ?_⟩
    dsimp only
    rw [String.ofList_toList]
    exact bind_eq_ok_iff.2 ⟨_, hmember, hread⟩

theorem exists_of_readMembersWith {fuel : Nat} {acc all : List (String × Int)}
    (h : readMembersWith accepts fields fuel first acc cs = .ok (all, tail))
    (hacc : (acc.map Prod.fst).Nodup) :
    (all.map Prod.fst).Nodup ∧ ∃ found w rest, Members fields first w found ∧
      all.Perm (found ++ acc) ∧ (∀ m ∈ found, accepts m.2) ∧ cs = w ++ rest ∧
      skipBlanks tail = '\x7d' :: rest := by
  induction fuel generalizing first acc cs with
  | zero => cases h
  | succ fuel ih =>
    rw [readMembersWith_succ] at h
    obtain ⟨next, hnext, hmembers⟩ := bind_eq_ok_iff.1 h
    cases next with
    | none =>
      obtain ⟨rfl, rfl⟩ := Prod.mk.inj (Except.ok.inj hmembers)
      obtain ⟨rest, htoken⟩ := of_nextName_none hnext
      obtain ⟨b, hb, hcs⟩ := exists_blank_append cs
      rw [htoken] at hcs
      exact ⟨hacc, [], b ++ ['\x7d'], rest, .close hb, .refl _, List.forall_mem_nil _,
        by simp [hcs], htoken⟩
    | some ds =>
      obtain ⟨lead, hlead, rfl⟩ := exists_of_nextName hnext
      obtain ⟨⟨name, ds₁⟩, hname, hmember⟩ := bind_eq_ok_iff.1 hmembers
      obtain ⟨⟨acc', ds₂⟩, hmember, hrest⟩ := bind_eq_ok_iff.1 hmember
      obtain ⟨s, hs, rfl⟩ := exists_of_readString hname
      obtain ⟨b, b', v, new, hb, hb', hv, rfl, hnew, rfl, hnodup⟩ := exists_of_readMember hmember
      obtain ⟨hall, found, w, rest, hw, hperm, hfound, rfl, htail⟩ := ih hrest (hnodup hacc)
      have hs' : Spelled s (String.ofList name).toList := String.toList_ofList.symm ▸ hs
      refine ⟨hall, new ++ found, _, rest, .member hlead hs' hb hb' hv hw, hperm.trans ?_,
        List.forall_mem_append.2 ⟨hnew, hfound⟩, by simp, htail⟩
      rw [List.append_assoc]
      exact List.perm_append_comm_assoc found new acc

/-! ## Whole texts -/

theorem Members.mem_fields {found : List (String × Int)} (h : Members fields first cs found) :
    ∀ m ∈ found, m.1 ∈ fields := by
  induction h with
  | close hb => exact List.forall_mem_nil _
  | member hlead hw hb hb' hv h ih =>
    refine List.forall_mem_append.2 ⟨?_, ih⟩
    cases hv with
    | field hname => exact List.forall_mem_singleton.2 hname
    | other hname hv => exact List.forall_mem_nil _

theorem endText_eq_ok_iff : endText cs = .ok () ↔ Blank cs := by
  have hblank : skipBlanks cs = [] ↔ Blank cs := List.dropWhile_eq_nil_iff
  rw [endText, ← hblank]
  split_ifs with h <;> simp [h]

theorem forall_found_iff {found : List (String × Int)} (hlength : fields.length = ns.length)
    (hfound : found.Perm (fields.zip ns)) :
    (∀ m ∈ found, accepts m.2) ↔ ∀ n ∈ ns, accepts n := by
  have hvalues : (found.map Prod.snd).Perm ns :=
    List.map_snd_zip hlength.ge ▸ hfound.map Prod.snd
  simp only [← hvalues.mem_iff, List.forall_mem_map]

theorem readObject_append (haccepts : ∀ n, accepts n → Word.InRange n) (hfields : fields.Nodup)
    {found : List (String × Int)} (h : Members fields true cs found)
    (hlength : fields.length = ns.length) (hfound : found.Perm (fields.zip ns))
    (hns : ∀ n ∈ ns, accepts n) : readObject accepts fields (cs ++ rest) = .ok (ns, rest) := by
  have hnames : (found.map Prod.fst).Perm fields :=
    List.map_fst_zip hlength.le ▸ hfound.map Prod.fst
  have hnodup : ((found ++ []).map Prod.fst).Nodup :=
    (List.append_nil found).symm ▸ hnames.nodup_iff.2 hfields
  have hfuel : cs.length ≤ (cs ++ rest).length + 1 := by
    rw [List.length_append]
    omega
  obtain ⟨all, tail, hread, hall, htail⟩ :=
    readMembersWith_append haccepts h ((forall_found_iff hlength hfound).2 hns) hnodup hfuel
  have hperm : all.Perm (fields.zip ns) := hall.trans ((List.append_nil found).symm ▸ hfound)
  have hlookup : fields.mapM (fun f => all.lookup f) = some ns :=
    (mapM_lookup_eq_some_iff hfields ((hall.map Prod.fst).nodup_iff.2 hnodup)
      fun m hm => h.mem_fields m (List.append_nil found ▸ hall.mem_iff.1 hm)).2 ⟨hlength, hperm⟩
  refine bind_eq_ok_iff.2 ⟨_, hread, ?_⟩
  simp [hlookup, htail]

theorem exists_of_readObject (hfields : fields.Nodup)
    (h : readObject accepts fields cs = .ok (ns, rest)) :
    fields.length = ns.length ∧ (∀ n ∈ ns, accepts n) ∧
      ∃ w found, Members fields true w found ∧ found.Perm (fields.zip ns) ∧ cs = w ++ rest := by
  obtain ⟨⟨all, tail⟩, hread, hmapM⟩ := bind_eq_ok_iff.1 h
  obtain ⟨hnodup, found, w, rest', hw, hall, hfound, rfl, htail⟩ :=
    exists_of_readMembersWith hread List.nodup_nil
  rw [List.append_nil] at hall
  dsimp only at hmapM
  split at hmapM
  next ns' hlookup =>
    obtain ⟨rfl, rfl⟩ := Prod.mk.inj (Except.ok.inj hmapM)
    obtain ⟨hlength, hperm⟩ := (mapM_lookup_eq_some_iff hfields hnodup
      fun m hm => hw.mem_fields m (hall.mem_iff.1 hm)).1 hlookup
    have hfound' := hall.symm.trans hperm
    refine ⟨hlength, (forall_found_iff hlength hfound').1 hfound, w, found, hw, hfound', ?_⟩
    simp [htail]
  next => cases hmapM

/-- **Records.** A text is read as a record exactly if it is one whose values are accepted. -/
theorem readRecord_iff (haccepts : ∀ n, accepts n → Word.InRange n) (hfields : fields.Nodup) :
    (∃ tail, readRecord accepts fields cs = .ok (ns, tail) ∧ endText tail = .ok ()) ↔
      Record fields ns cs ∧ ∀ n ∈ ns, accepts n := by
  constructor
  · rintro ⟨tail, hread, htail⟩
    have hblank := endText_eq_ok_iff.1 htail
    obtain ⟨b, hb, hcs⟩ := exists_blank_append cs
    unfold readRecord at hread
    split at hread
    next => cases hread
    next ds htoken =>
      obtain ⟨⟨ns, ds'⟩, hitems, hclose⟩ := bind_eq_ok_iff.1 hread
      obtain ⟨ds'', hend, heq⟩ := map_eq_ok_iff.1 hclose
      obtain ⟨rfl, rfl⟩ := Prod.mk.inj heq
      obtain ⟨hlength, hns, w, hw, rfl⟩ := exists_of_readItems hitems hend
      rw [hcs, htoken, ← List.cons_append, ← List.append_assoc]
      exact ⟨.array hb hw hlength hblank, hns⟩
    next ds htoken =>
      obtain ⟨hlength, hns, w, found, hw, hfound, rfl⟩ := exists_of_readObject hfields hread
      rw [hcs, htoken, ← List.cons_append, ← List.append_assoc]
      exact ⟨.object hb hw hfound hlength hblank, hns⟩
    next c ds _ _ htoken =>
      split_ifs at hread
      obtain ⟨-, -, herror⟩ := bind_eq_ok_iff.1 hread
      cases herror
  · rintro ⟨hrecord, hns⟩
    cases hrecord with
    | @object b w b' found hb h hfound hlength hb' =>
      refine ⟨b', ?_, endText_eq_ok_iff.2 hb'⟩
      rw [readRecord, List.append_assoc, skipBlanks_append hb, List.cons_append,
        skipBlanks_cons rfl]
      exact readObject_append haccepts hfields h hlength hfound hns
    | @array b w b' hb h hlength hb' =>
      obtain ⟨tail, hitems, hend⟩ := readItems_append haccepts h hns hlength
      refine ⟨b', ?_, endText_eq_ok_iff.2 hb'⟩
      rw [readRecord, List.append_assoc, skipBlanks_append hb, List.cons_append,
        skipBlanks_cons rfl]
      exact bind_eq_ok_iff.2 ⟨_, hitems, map_eq_ok_iff.2 ⟨_, hend, rfl⟩⟩

end Snowflake.Json
