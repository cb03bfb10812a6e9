import Mathlib.Data.List.Basic

/-!
# Replacing an element

Callers and workers stand in a list, and a step replaces one of them. What that does to all of them,
to what is shown of each, and to what they have in common, is said here once. So is what a history
holds that one more entry is added to.
-/

namespace Snowflake

variable {α β : Type} {l : List α} {x y : α} {i : Nat}

theorem forall_mem_set {P : α → Prop} (h : ∀ z ∈ l, P z) (hx : P x) (i : Nat) :
    ∀ z ∈ l.set i x, P z := by
  intro z hz
  rcases List.mem_or_eq_of_mem_set hz with hz | rfl
  · exact h z hz
  · exact hx

theorem getElem?_concat_eq_some_iff :
    (l ++ [y])[i]? = some x ↔ l[i]? = some x ∨ i = l.length ∧ y = x := by
  rcases Nat.lt_trichotomy i l.length with hlt | rfl | hgt
  · rw [List.getElem?_append_left hlt]
    simp [Nat.ne_of_lt hlt]
  · simp
  · rw [List.getElem?_eq_none (by simp; omega), List.getElem?_eq_none (Nat.le_of_lt hgt)]
    simp [Nat.ne_of_gt hgt]

theorem map_set_of_eq {f : α → β} (h : l[i]? = some x) (hy : f y = f x) :
    (l.set i y).map f = l.map f := by
  obtain ⟨hi, rfl⟩ := List.getElem?_eq_some_iff.1 h
  rw [List.map_set, hy, ← List.map_set, List.set_getElem_self]

/-- Exchanging an element for one with more to show shows that much more. -/
theorem flatMap_set_perm {f : α → List β} {more : List β} (h : l[i]? = some x)
    (hy : f y = more ++ f x) : ((l.set i y).flatMap f).Perm (l.flatMap f ++ more) := by
  induction l generalizing i with
  | nil => simp at h
  | cons z l ih =>
    cases i with
    | zero =>
      obtain rfl : z = x := by simpa using h
      rw [List.set_cons_zero, List.flatMap_cons, List.flatMap_cons, hy, List.append_assoc]
      exact List.perm_append_comm
    | succ i =>
      rw [List.set_cons_succ, List.flatMap_cons, List.flatMap_cons, List.append_assoc]
      exact (ih (by simpa using h)).append_left _

/-- Exchanging an element for one with less to show takes that much away. -/
theorem perm_flatMap_set {f : α → List β} {less : List β} (h : l[i]? = some x)
    (hx : f x = less ++ f y) : ((l.set i y).flatMap f ++ less).Perm (l.flatMap f) := by
  obtain ⟨hi, rfl⟩ := List.getElem?_eq_some_iff.1 h
  have hnew : (l.set i y)[i]? = some y := List.getElem?_set_self hi
  have hperm := flatMap_set_perm hnew hx
  rw [List.set_set, List.set_getElem_self] at hperm
  exact hperm.symm

end Snowflake
