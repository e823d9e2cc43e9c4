/-
# Lists that change in place

A table kept as a list changes by `modify` at one place, or by `mapIdx` at all of them.  Below is
where an element of the new list comes from, and what becomes of a sum over the list.
-/
import Mathlib.Algebra.Ring.Nat
import Mathlib.Tactic.Common

namespace Lists

variable {α : Type} {l : List α} {i j : Nat} {f : α → α} {x y : α}

/-- The members of a list in which one place was changed. -/
theorem mem_modify (h : y ∈ l.modify i f) : y ∈ l ∨ ∃ x, l[i]? = some x ∧ y = f x := by
  obtain ⟨j, hj⟩ := List.mem_iff_getElem?.mp h
  rw [List.getElem?_modify] at hj
  obtain ⟨x, hx, hy⟩ := Option.map_eq_some_iff.mp hj
  by_cases hij : i = j
  · exact .inr ⟨x, hij ▸ hx, by rw [← hy, if_pos hij]⟩
  · exact .inl (by rw [← hy, if_neg hij]; exact List.mem_iff_getElem?.mpr ⟨j, hx⟩)

theorem getElem?_of_modify (h : (l.modify j f)[i]? = some y) :
    (i = j ∧ ∃ x, l[i]? = some x ∧ f x = y) ∨ i ≠ j ∧ l[i]? = some y := by
  rw [List.getElem?_modify] at h
  obtain ⟨x, hx, hy⟩ := Option.map_eq_some_iff.mp h
  split at hy
  · exact .inl ⟨Eq.symm ‹_›, x, hx, hy⟩
  · exact .inr ⟨Ne.symm ‹_›, hy ▸ hx⟩

/-- What no change touches. -/
theorem map_modify {β : Type} {k : α → β} (hf : ∀ x, k (f x) = k x) :
    (l.modify i f).map k = l.map k := by
  refine List.ext_getElem? fun j => ?_
  rw [List.getElem?_map, List.getElem?_map, List.getElem?_modify]
  cases l[j]? with
  | none => rfl
  | some x =>
    by_cases hij : i = j
    · simp [hij, hf]
    · simp [hij]

theorem map_mapIdx {β : Type} {k : α → β} {f : Nat → α → α} (hf : ∀ i x, k (f i x) = k x) :
    (l.mapIdx f).map k = l.map k := by
  refine List.ext_getElem? fun j => ?_
  rw [List.getElem?_map, List.getElem?_map, List.getElem?_mapIdx]
  cases l[j]? with
  | none => rfl
  | some x => exact congrArg some (hf j x)

/-- One element of a sum changes. -/
theorem sum_map_modify (F : α → Nat) (f : α → α) (h : l[i]? = some x) :
    ((l.modify i f).map F).sum + F x = (l.map F).sum + F (f x) := by
  induction l generalizing i with
  | nil => cases h
  | cons y l ih =>
    cases i with
    | zero =>
      cases h
      simp only [List.modify_zero_cons, List.map_cons, List.sum_cons]
      omega
    | succ i =>
      have hrec := ih (i := i) h
      simp only [List.modify_succ_cons, List.map_cons, List.sum_cons]
      omega

/-- No element grows. -/
theorem sum_map_mapIdx_le {F : α → Nat} {f : Nat → α → α} (h : ∀ i x, F (f i x) ≤ F x) :
    ((l.mapIdx f).map F).sum ≤ (l.map F).sum := by
  induction l generalizing f with
  | nil => exact Nat.le_refl 0
  | cons x l ih =>
    have hrec := ih (f := fun i => f (i + 1)) fun i => h (i + 1)
    have hx := h 0 x
    simp only [List.mapIdx_cons, List.map_cons, List.sum_cons]
    omega

end Lists
