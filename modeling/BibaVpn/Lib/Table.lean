/-
# Tables: finite maps with counted entries

A hash map as a list of entries with distinct keys.  The order of the list is not observable through
`get`; what is counted (`size`, `count`) does not depend on it either.  The distinctness of the keys
is a field, so every operation carries its proof and no lemma has to assume it.

Per operation there is one lemma for `get` and one for `count`.
-/
import Mathlib.Data.List.Basic
import Mathlib.Tactic.Common

structure Table (κ ν : Type) where
  entries : List (κ × ν)
  nodup : (entries.map Prod.fst).Nodup

namespace Table

variable {κ ν : Type}

/-! ## 1. Operations -/

def empty : Table κ ν := ⟨[], List.nodup_nil⟩

/-- The number of entries. -/
def size (t : Table κ ν) : Nat := t.entries.length

/-- The number of entries whose value satisfies `p`. -/
def count (t : Table κ ν) (p : ν → Bool) : Nat := t.entries.countP fun e => p e.2

/-- Keep the entries whose value satisfies `p`. -/
def retain (t : Table κ ν) (p : ν → Bool) : Table κ ν :=
  ⟨t.entries.filter fun e => p e.2, (List.filter_sublist.map _).nodup t.nodup⟩

theorem size_eq_count (t : Table κ ν) : t.size = t.count fun _ => true := by
  simp [size, count, List.countP_true]

theorem size_retain_le (t : Table κ ν) (p : ν → Bool) : (t.retain p).size ≤ t.size :=
  List.length_filter_le _ _

/-- What is counted is counted among what is kept, or among what is dropped. -/
theorem count_retain (t : Table κ ν) (p q : ν → Bool) :
    t.count q = (t.retain p).count q + t.count fun v => !p v && q v := by
  simp only [count, retain]
  induction t.entries with
  | nil => rfl
  | cons e es ih =>
    cases hp : p e.2 with
    | true =>
      rw [List.filter_cons_of_pos (by simpa using hp), List.countP_cons, List.countP_cons,
        List.countP_cons, ih]
      simp only [hp, Bool.not_true, Bool.false_and, Bool.false_eq_true, if_false]
      omega
    | false =>
      rw [List.filter_cons_of_neg (by simp [hp]), List.countP_cons, List.countP_cons, ih]
      simp only [hp, Bool.not_false, Bool.true_and]
      omega

variable [DecidableEq κ]

def get (t : Table κ ν) (k : κ) : Option ν := t.entries.lookup k

def erase (t : Table κ ν) (k : κ) : Table κ ν :=
  ⟨t.entries.filter fun e => e.1 ≠ k, (List.filter_sublist.map _).nodup t.nodup⟩

theorem notMem_keys_erase (t : Table κ ν) (k : κ) : k ∉ (t.erase k).entries.map Prod.fst := by
  intro h
  obtain ⟨e, he, hk⟩ := List.mem_map.mp h
  simpa [hk] using (List.mem_filter.mp he).2

/-- Set the value of a key. -/
def insert (t : Table κ ν) (k : κ) (v : ν) : Table κ ν :=
  ⟨(k, v) :: (t.erase k).entries, List.nodup_cons.mpr ⟨t.notMem_keys_erase k, (t.erase k).nodup⟩⟩

/-! ## 2. Lookups -/

theorem get_eq_some_iff {t : Table κ ν} {k : κ} {v : ν} :
    t.get k = some v ↔ (k, v) ∈ t.entries := by
  constructor
  · intro h
    obtain ⟨l1, l2, heq, -⟩ := List.lookup_eq_some_iff.mp h
    rw [heq]
    exact List.mem_append_right _ List.mem_cons_self
  · intro h
    have hkeys := t.nodup
    obtain ⟨l1, l2, heq⟩ := List.append_of_mem h
    rw [heq, List.map_append, List.map_cons, List.nodup_append] at hkeys
    refine List.lookup_eq_some_iff.mpr ⟨l1, l2, heq, fun e he => ?_⟩
    have hne := hkeys.2.2 e.1 (List.mem_map_of_mem he) k List.mem_cons_self
    simpa using fun h => hne h.symm

theorem get_erase (t : Table κ ν) (k k' : κ) :
    (t.erase k).get k' = if k' = k then none else t.get k' := by
  refine Option.ext fun v => ?_
  rw [get_eq_some_iff]
  split
  · rename_i h
    simp [erase, h]
  · rename_i h
    rw [get_eq_some_iff]
    simp [erase, h]

theorem get_insert (t : Table κ ν) (k k' : κ) (v : ν) :
    (t.insert k v).get k' = if k' = k then some v else t.get k' := by
  have hget : (t.insert k v).get k' = if k' == k then some v else (t.erase k).get k' := by
    show List.lookup k' ((k, v) :: (t.erase k).entries) = _
    rw [List.lookup_cons]
    split <;> simp_all [get]
  rw [hget, get_erase]
  by_cases h : k' = k <;> simp [h]

theorem get_retain (t : Table κ ν) (p : ν → Bool) (k : κ) :
    (t.retain p).get k = (t.get k).filter p := by
  refine Option.ext fun v => ?_
  rw [get_eq_some_iff, Option.filter_eq_some_iff, get_eq_some_iff]
  simp [retain]

/-! ## 3. Counts -/

/-- One for a value that is there and satisfies `p`. -/
def weight (p : ν → Bool) : Option ν → Nat
  | some v => if p v then 1 else 0
  | none => 0

theorem countP_erase (p : ν → Bool) (k : κ) (es : List (κ × ν)) (hn : (es.map Prod.fst).Nodup) :
    (es.countP fun e => p e.2) =
      ((es.filter fun e => e.1 ≠ k).countP fun e => p e.2) + weight p (es.lookup k) := by
  induction es with
  | nil => rfl
  | cons e es ih =>
    rw [List.map_cons, List.nodup_cons] at hn
    have ih := ih hn.2
    by_cases hk : e.1 = k
    · -- the entry of `k`: there is no other
      have hlook : es.lookup k = none := List.lookup_eq_none_iff.mpr fun x hx => by
        have : k ≠ x.1 := fun h => hn.1 (by rw [hk, h]; exact List.mem_map_of_mem hx)
        simpa using this
      rw [hlook] at ih
      rw [List.countP_cons, List.filter_cons_of_neg (by simp [hk]), List.lookup_cons, ← hk]
      simp only [weight, beq_self_eq_true, Nat.add_zero, hk] at ih ⊢
      omega
    · have hne : (k == e.1) = false := by simpa using Ne.symm hk
      rw [List.countP_cons, List.filter_cons_of_pos (by simp [hk]), List.countP_cons,
        List.lookup_cons, hne]
      simp only
      omega

theorem count_erase (t : Table κ ν) (p : ν → Bool) (k : κ) :
    t.count p = (t.erase k).count p + weight p (t.get k) := countP_erase p k t.entries t.nodup

theorem count_insert (t : Table κ ν) (p : ν → Bool) (k : κ) (v : ν) :
    (t.insert k v).count p + weight p (t.get k) = t.count p + weight p (some v) := by
  have h := t.count_erase p k
  have hcons : (t.insert k v).count p = (t.erase k).count p + weight p (some v) :=
    List.countP_cons
  omega

theorem size_insert (t : Table κ ν) (k : κ) (v : ν) :
    (t.insert k v).size = if (t.get k).isSome then t.size else t.size + 1 := by
  have h := t.count_insert (fun _ => true) k v
  rw [← size_eq_count, ← size_eq_count] at h
  cases hg : t.get k <;> simp [weight, hg] at h ⊢ <;> omega

theorem size_erase_of_get {t : Table κ ν} {k : κ} {v : ν} (h : t.get k = some v) :
    t.size = (t.erase k).size + 1 := by
  have hc := t.count_erase (fun _ => true) k
  rw [← size_eq_count, ← size_eq_count, h] at hc
  simpa [weight] using hc

end Table
