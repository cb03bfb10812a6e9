import Mathlib.Data.List.Forall2
import Mathlib.Data.List.Nodup

/-!
# Named values

Lists of values with names of their own, as fields are found in a record and flags on a command
line. With distinct names, what is looked up is what is in the list (`lookup_eq_some_iff_mem`), so
the order of the list does not matter: all names of another list are looked up exactly if the one is
the other in some order (`mapM_lookup_eq_some_iff`).
-/

namespace Snowflake

variable {α β ν : Type}

theorem mapM_eq_some_iff {f : α → Option β} {as : List α} {bs : List β} :
    as.mapM f = some bs ↔ List.Forall₂ (fun a b => f a = some b) as bs := by
  induction as generalizing bs with
  | nil => cases bs <;> simp
  | cons a as ih =>
    simp only [List.mapM_cons, Option.bind_eq_bind, Option.bind_eq_some_iff, Option.pure_def,
      Option.some.injEq, List.forall₂_cons_left_iff, ih]
    constructor
    · rintro ⟨b, hb, bs, hbs, rfl⟩
      exact ⟨b, bs, hb, hbs, rfl⟩
    · rintro ⟨b, bs, hb, hbs, rfl⟩
      exact ⟨b, hb, bs, hbs, rfl⟩

variable [BEq ν] [LawfulBEq ν] {l : List (ν × β)} {name : ν} {value : β}

theorem lookup_isSome_iff_mem : (l.lookup name).isSome ↔ name ∈ l.map Prod.fst := by
  rw [List.lookup_isSome_iff, List.mem_map]
  exact exists_congr fun m => and_congr_right fun _ => beq_iff_eq.trans eq_comm

theorem lookup_eq_some_iff_mem (h : (l.map Prod.fst).Nodup) :
    l.lookup name = some value ↔ (name, value) ∈ l := by
  induction l with
  | nil => simp
  | cons m l ih =>
    obtain ⟨name', value'⟩ := m
    obtain ⟨hname', hl⟩ := List.nodup_cons.1 h
    rw [List.lookup_cons, List.mem_cons, Prod.mk.injEq]
    by_cases hname : name = name'
    · subst hname
      have hnot : (name, value) ∉ l := fun hmem => hname' (List.mem_map.2 ⟨_, hmem, rfl⟩)
      simp [hnot, eq_comm]
    · simp [beq_false_of_ne hname, hname, ih hl]

/-- Of distinct names all are looked up exactly if the list consists of them, in some order. -/
theorem mapM_lookup_eq_some_iff {names : List ν} {values : List β} (hnames : names.Nodup)
    (hl : (l.map Prod.fst).Nodup) (hsub : ∀ m ∈ l, m.1 ∈ names) :
    names.mapM (fun name => l.lookup name) = some values ↔
      names.length = values.length ∧ l.Perm (names.zip values) := by
  rw [mapM_eq_some_iff, List.forall₂_iff_zip]
  refine and_congr_right fun hlength => ?_
  have hzip : (names.zip values).map Prod.fst = names := List.map_fst_zip (Nat.le_of_eq hlength)
  rw [List.perm_ext_iff_of_nodup (.of_map _ hl) (.of_map _ (hzip.symm ▸ hnames))]
  simp only [lookup_eq_some_iff_mem hl]
  constructor
  · rintro h ⟨name, value⟩
    refine ⟨fun hmem => ?_, fun hmem => h hmem⟩
    have hname : name ∈ (names.zip values).map Prod.fst := hzip.symm ▸ hsub _ hmem
    obtain ⟨⟨name', value'⟩, hmem', rfl⟩ := List.mem_map.1 hname
    have hvalue := (lookup_eq_some_iff_mem hl).2 hmem
    rw [(lookup_eq_some_iff_mem hl).2 (h hmem')] at hvalue
    exact Option.some.inj hvalue ▸ hmem'
  · exact fun h name value hmem => (h (name, value)).2 hmem

end Snowflake
