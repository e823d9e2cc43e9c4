/-
# Indexing that may panic

The code reads a slice with `data[i]` and `data[i..j]`, which stop the task when they leave it.
Here such a function returns a `Checked` value, which tells a returned error (`fails`) from a panic
(`panics`), so that "never reads outside its input" is a statement about it.
-/
import Mathlib.Tactic.Common

namespace Slice

/-- Why a function that indexes did not return a value. -/
inductive Stop
  | fails (msg : String)
  | panics
  deriving DecidableEq, Repr

abbrev Checked (α : Type) := Except Stop α

variable {α β : Type}

/-- `anyhow::bail!`. -/
def bail (msg : String) : Checked α := .error (.fails msg)

/-- A call whose error is passed on with `?`. -/
def lift (x : Except String α) : Checked α := x.mapError .fails

/-- `data[i]`. -/
def index (data : List β) (i : Nat) : Checked β :=
  match data[i]? with
  | some b => .ok b
  | none => .error .panics

/-- `data[i..j]`. -/
def range (data : List β) (i j : Nat) : Checked (List β) :=
  if i ≤ j ∧ j ≤ data.length then .ok ((data.take j).drop i) else .error .panics

/-- `data[i..]`. -/
def tail (data : List β) (i : Nat) : Checked (List β) := range data i data.length

variable {data : List β} {i : Nat}

theorem index_of_lt (h : i < data.length) : index data i = .ok data[i] := by
  rw [index, List.getElem?_eq_getElem h]

theorem range_of_le {i j : Nat} (hi : i ≤ j) (hj : j ≤ data.length) :
    range data i j = .ok ((data.take j).drop i) := if_pos ⟨hi, hj⟩

theorem tail_of_le (h : i ≤ data.length) : tail data i = .ok (data.drop i) := by
  rw [tail, range_of_le h (Nat.le_refl _), List.take_length]

@[simp] theorem lift_ok (a : α) : lift (.ok a) = .ok a := rfl

@[simp] theorem lift_error (msg : String) : lift (.error msg : Except String α) = bail msg := rfl

@[simp] theorem ok_bind (a : α) (f : α → Checked β) : (Except.ok a >>= f : Checked β) = f a := rfl

/-- A call whose error is passed on never panics. -/
theorem lift_ne_panics (x : Except String α) : lift x ≠ .error .panics := by
  cases x <;> simp [bail]

/-- Two neighbours of a slice. -/
theorem take_two_drop (h : i + 1 < data.length) :
    (data.drop i).take 2 = [data[i], data[i + 1]] := by
  rw [List.drop_eq_getElem_cons (by omega), List.drop_eq_getElem_cons h]
  rfl

end Slice
