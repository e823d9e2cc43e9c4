/-
# Counting failures in a row

A loop gives up after `limit` failures in a row.  Its counter is reset by an attempt that succeeds,
and in some loops already by an attempt that passes a first stage and then fails in a second one:
such a LATE failure is counted as the first of a new row, whatever came before it.

`Counted` is what such a counter sees: a row of failures of which only the first is late.  A counter
that follows the attempts (`Tracks`) has reached the limit exactly if there was such a row
(`Tracks.le_iff`).  That is every row of failures exactly if late failures come first in their rows
(`Orderly.counted`).
-/
import Mathlib.Data.List.Induction
import Mathlib.Tactic.Common

namespace Strikes

/-- How an attempt ends: it fails in the first stage, or in the second, or it succeeds. -/
inductive Kind
  | early
  | late
  | success
  deriving DecidableEq, Repr

def Kind.Fails (k : Kind) : Prop := k ≠ .success

instance (k : Kind) : Decidable k.Fails := inferInstanceAs (Decidable (k ≠ .success))

/-- The counter after an attempt. -/
def next : Nat → Kind → Nat
  | n, .early => n + 1
  | _, .late => 1
  | _, .success => 0

/-- The counter after a sequence of attempts. -/
def count (ks : List Kind) : Nat := ks.foldl next 0

@[simp] theorem count_snoc (ks : List Kind) (k : Kind) : count (ks ++ [k]) = next (count ks) k := by
  rw [count, List.foldl_append]
  rfl

variable {limit : Nat} {ks : List Kind}

/-- `limit` failures in a row. -/
def Row (limit : Nat) (ks : List Kind) : Prop :=
  ∃ before row after, ks = before ++ row ++ after ∧ row.length = limit ∧ ∀ k ∈ row, k.Fails

/-- `limit` failures in a row, of which only the first may be late. -/
def Counted (limit : Nat) (ks : List Kind) : Prop :=
  ∃ before k row after, ks = before ++ k :: row ++ after ∧ row.length + 1 = limit ∧ k.Fails ∧
    ∀ x ∈ row, x = .early

/-- Late failures come only first in a row of failures. -/
def Orderly (ks : List Kind) : Prop :=
  ∀ before k after, ks = before ++ k :: .late :: after → k = .success

theorem Counted.row (h : Counted limit ks) : Row limit ks := by
  obtain ⟨before, k, row, after, rfl, hlen, hk, hrow⟩ := h
  refine ⟨before, k :: row, after, rfl, hlen, fun x hx => ?_⟩
  rcases List.mem_cons.mp hx with rfl | hx
  · exact hk
  · rw [hrow x hx]
    decide

/-- In an orderly sequence every row of failures counts. -/
theorem Orderly.counted (ho : Orderly ks) (hpos : 0 < limit) (h : Row limit ks) :
    Counted limit ks := by
  obtain ⟨before, row, after, rfl, hlen, hrow⟩ := h
  cases row with
  | nil => exact absurd hlen (Nat.ne_of_lt hpos)
  | cons k row =>
    refine ⟨before, k, row, after, rfl, hlen, hrow k List.mem_cons_self, fun x hx => ?_⟩
    have hfails := hrow x (List.mem_cons_of_mem k hx)
    cases x with
    | early => rfl
    | success => exact absurd rfl hfails
    | late =>
      -- what comes before it in the row is a failure
      obtain ⟨front, back, rfl⟩ := List.append_of_mem hx
      exfalso
      rcases List.eq_nil_or_concat front with rfl | ⟨front, y, rfl⟩
      · exact hrow k List.mem_cons_self (ho before k (back ++ after) (by simp))
      · refine hrow y (by simp) (ho (before ++ k :: front) y (back ++ after) (by simp))

/-- The counter is at least `limit` exactly if the last `limit` attempts are a row that counts. -/
theorem le_count_iff : ∀ {ks : List Kind} {limit : Nat}, 0 < limit →
    (limit ≤ count ks ↔ ∃ before k row, ks = before ++ k :: row ∧ row.length + 1 = limit ∧ k.Fails ∧
      ∀ x ∈ row, x = .early) := by
  intro ks
  induction ks using List.reverseRecOn with
  | nil =>
    intro limit hpos
    constructor
    · intro h
      exact absurd h (Nat.not_le.mpr hpos)
    · rintro ⟨before, k, row, heq, -⟩
      exact absurd heq (by simp)
  | append_singleton ks k ih =>
    intro limit hpos
    rw [count_snoc]
    constructor
    · intro h
      cases k with
      | success => exact absurd h (Nat.not_le.mpr hpos)
      | late =>
        have hone : limit = 1 := Nat.le_antisymm h hpos
        exact ⟨ks, .late, [], rfl, hone.symm, by decide, fun x hx => by cases hx⟩
      | early =>
        rcases Nat.eq_or_lt_of_le hpos with hone | hmore
        · exact ⟨ks, .early, [], rfl, hone, by decide, fun x hx => by cases hx⟩
        · obtain ⟨before, k, row, rfl, hlen, hk, hrow⟩ :=
            (@ih (limit - 1) (by omega)).mp (Nat.sub_le_of_le_add h)
          refine ⟨before, k, row ++ [.early], by simp, ?_, hk, fun x hx => ?_⟩
          · rw [List.length_append, List.length_singleton]
            omega
          · rcases List.mem_append.mp hx with hx | hx
            · exact hrow x hx
            · exact List.mem_singleton.mp hx
    · rintro ⟨before, k', row, heq, hlen, hk, hrow⟩
      rcases List.eq_nil_or_concat row with rfl | ⟨row, last, rfl⟩
      · -- the row is the last attempt
        obtain ⟨-, heq⟩ := List.append_inj' heq rfl
        cases heq
        cases k with
        | success => exact absurd rfl hk
        | late => exact Nat.le_of_eq hlen.symm
        | early => exact hlen ▸ Nat.le_add_left 1 _
      · have hlast := hrow last (by simp)
        subst hlast
        rw [List.concat_eq_append, ← List.cons_append, ← List.append_assoc] at heq
        obtain ⟨hks, heq⟩ := List.append_inj' heq rfl
        cases heq
        rw [List.length_concat] at hlen
        have hprev := (@ih (limit - 1) (by omega)).mpr
          ⟨before, k', row, hks, by omega, hk, fun x hx => hrow x (by simp [hx])⟩
        exact Nat.le_add_of_sub_le hprev

/-- **A counter that follows the attempts**, and has gone on to the next one only below the
limit. -/
structure Tracks (limit n : Nat) (ks : List Kind) : Prop where
  count_eq : n = count ks
  below : ∀ before k after, ks = before ++ k :: after → count before < limit

theorem Tracks.nil (limit : Nat) : Tracks limit 0 [] where
  count_eq := rfl
  below before k after h := by simp at h

theorem Tracks.snoc {n : Nat} (h : Tracks limit n ks) (hlt : n < limit) (k : Kind) :
    Tracks limit (next n k) (ks ++ [k]) where
  count_eq := by rw [count_snoc, h.count_eq]
  below before x after heq := by
    rcases List.eq_nil_or_concat after with rfl | ⟨after, last, rfl⟩
    · obtain ⟨rfl, -⟩ := List.append_inj' heq rfl
      exact h.count_eq ▸ hlt
    · rw [List.concat_eq_append, ← List.cons_append, ← List.append_assoc] at heq
      obtain ⟨rfl, -⟩ := List.append_inj' heq rfl
      exact h.below before x after rfl

/-- **The counter has reached the limit exactly if a row was counted.** -/
theorem Tracks.le_iff {n : Nat} (h : Tracks limit n ks) (hpos : 0 < limit) :
    limit ≤ n ↔ Counted limit ks := by
  rw [h.count_eq, le_count_iff hpos]
  constructor
  · rintro ⟨before, k, row, rfl, hlen, hk, hrow⟩
    exact ⟨before, k, row, [], by simp, hlen, hk, hrow⟩
  · rintro ⟨before, k, row, after, heq, hlen, hk, hrow⟩
    cases after with
    | nil => exact ⟨before, k, row, by simpa using heq, hlen, hk, hrow⟩
    | cons x after =>
      -- the counter was at the limit before the last attempt
      have hlt := h.below _ x after heq
      have hle := (le_count_iff hpos).mpr ⟨before, k, row, rfl, hlen, hk, hrow⟩
      exact absurd hlt (Nat.not_lt.mpr hle)

end Strikes
