/-
# A list of tasks

A concurrent component is often a shared record and a list of tasks, each at one of its await points
(or lock acquisitions).  A step moves one task and changes the record; what has to be shown is that
the OTHER tasks can still rely on what they know.  `Each` says that every task satisfies what its
place and the record say; the rules below cover a task that moves (`Each.set`) and one that is
spawned (`Each.spawn`).  `Any` says that some task has something left to do; a step keeps it if the
moving task hands that on (`Any.set`).
-/
import Mathlib.Data.List.Basic
import Mathlib.Tactic.Common

namespace Tasks

variable {τ : Type} {ts : List τ} {P Q : Nat → τ → Prop}

/-- Every task of the list satisfies `P`, which may depend on its index. -/
def Each (ts : List τ) (P : Nat → τ → Prop) : Prop := ∀ i t, ts[i]? = some t → P i t

theorem Each.nil : Each ([] : List τ) P := fun _ _ h => nomatch h

theorem Each.mono (h : Each ts P) (hm : ∀ j u, ts[j]? = some u → P j u → Q j u) : Each ts Q :=
  fun j u hj => hm j u hj (h j u hj)

/-- A new task. -/
theorem Each.spawn (h : Each ts P) {t : τ} (ht : P ts.length t) : Each (ts ++ [t]) P := by
  intro j u hj
  rw [List.getElem?_append] at hj
  split at hj
  · exact h j u hj
  · rename_i hlt
    obtain ⟨hj0, hu⟩ := List.getElem?_eq_some_iff.mp hj
    have hlast : j = ts.length := by rw [List.length_singleton] at hj0; omega
    rw [List.getElem_singleton] at hu
    exact hlast ▸ hu ▸ ht

/-- Task `i` moves to `t`; the others keep what they know. -/
theorem Each.set (h : Each ts P) {i : Nat} {t : τ} (ht : Q i t)
    (hm : ∀ j u, j ≠ i → ts[j]? = some u → P j u → Q j u) : Each (ts.set i t) Q := by
  intro j u hj
  rw [List.getElem?_set] at hj
  split at hj
  · rename_i hij
    subst hij
    split at hj
    · cases hj; exact ht
    · cases hj
  · rename_i hij
    exact hm j u (Ne.symm hij) hj (h j u hj)

/-- Some task of the list satisfies `p`. -/
def Any (ts : List τ) (p : τ → Prop) : Prop := ∃ (i : Nat) (t : τ), ts[i]? = some t ∧ p t

variable {p : τ → Prop}

theorem Any.spawn (h : Any ts p) (t : τ) : Any (ts ++ [t]) p := by
  obtain ⟨j, u, hj, hu⟩ := h
  exact ⟨j, u, (List.getElem?_append_left (List.getElem?_eq_some_iff.mp hj).1).trans hj, hu⟩

/-- Task `i` moves from `t` to `t'`, and still has to do what it had to do. -/
theorem Any.set (h : Any ts p) {i : Nat} {t t' : τ} (ht : ts[i]? = some t) (hp : p t → p t') :
    Any (ts.set i t') p := by
  obtain ⟨j, u, hj, hu⟩ := h
  by_cases hij : i = j
  · subst hij
    rw [ht] at hj
    cases hj
    exact ⟨i, t', List.getElem?_set_self (List.getElem?_eq_some_iff.mp ht).1, hp hu⟩
  · exact ⟨j, u, (List.getElem?_set_ne hij).trans hj, hu⟩

/-- Task `i` moves to one that satisfies `p`. -/
theorem Any.here {i : Nat} {t t' : τ} (ht : ts[i]? = some t) (hp : p t') : Any (ts.set i t') p :=
  ⟨i, t', List.getElem?_set_self (List.getElem?_eq_some_iff.mp ht).1, hp⟩

end Tasks
