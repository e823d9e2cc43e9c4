/-
# The Gregorian calendar

The proleptic calendar from the year 0 on: which years are leap years, how long a month is, which
triples are dates, and the number of a date, which counts the days before it from 0000-01-01.

* §1 is the calendar, §2 the length of its years in closed form;
* §3: a date is determined by its number (`Date.eq_of_number`), and `next` adds one to it.
-/
import Mathlib.Algebra.BigOperators.Intervals
import Mathlib.Algebra.Order.BigOperators.Group.Finset
import Mathlib.Tactic.IntervalCases

namespace BibaVpn.Calendar

open Finset

/-! ## 1. Years, months, dates -/

/-- Every fourth year, but of the centuries only every fourth. -/
def isLeap (y : Nat) : Bool := y % 4 == 0 && (y % 100 != 0 || y % 400 == 0)

/-- The days of a month, counted from 1. -/
def monthLength (y : Nat) : Nat → Nat
  | 1 | 3 | 5 | 7 | 8 | 10 | 12 => 31
  | 4 | 6 | 9 | 11 => 30
  | 2 => if isLeap y then 29 else 28
  | _ => 0

def daysBeforeMonth (y m : Nat) : Nat := ∑ k ∈ range m, monthLength y k

def yearLength (y : Nat) : Nat := daysBeforeMonth y 13

def daysBeforeYear (y : Nat) : Nat := ∑ k ∈ range y, yearLength k

@[ext] structure Date where
  year : Nat
  month : Nat
  day : Nat
  deriving DecidableEq, Repr

/-- The calendar has this date (no month outside of 1 to 12 has days). -/
def Date.Valid (d : Date) : Prop := 1 ≤ d.day ∧ d.day ≤ monthLength d.year d.month

/-- The days from 0000-01-01 to the date. -/
def Date.number (d : Date) : Nat :=
  daysBeforeYear d.year + daysBeforeMonth d.year d.month + (d.day - 1)

/-- The date after this one. -/
def Date.next (d : Date) : Date :=
  if d.day < monthLength d.year d.month then { d with day := d.day + 1 }
  else if d.month < 12 then ⟨d.year, d.month + 1, 1⟩
  else ⟨d.year + 1, 1, 1⟩

/-! ## 2. Lengths -/

theorem isLeap_iff {y : Nat} : isLeap y = true ↔ y % 4 = 0 ∧ (y % 100 = 0 → y % 400 = 0) := by
  simp only [isLeap, Bool.and_eq_true, Bool.or_eq_true, beq_iff_eq, bne_iff_ne]
  omega

theorem yearLength_eq (y : Nat) : yearLength y = if isLeap y then 366 else 365 := by
  simp only [yearLength, daysBeforeMonth, sum_range_succ, range_zero, sum_empty, monthLength]
  split <;> rfl

theorem daysBeforeYear_succ (y : Nat) :
    daysBeforeYear (y + 1) = 365 * y + y / 4 + y / 400 + 366 - y / 100 := by
  induction y with
  | zero => simp [daysBeforeYear, yearLength_eq, isLeap]
  | succ y ih =>
    rw [daysBeforeYear, sum_range_succ, ← daysBeforeYear, ih, yearLength_eq]
    by_cases hleap : isLeap (y + 1) = true
    · have hrule := isLeap_iff.mp hleap
      rw [if_pos hleap]
      omega
    · have hrule := mt isLeap_iff.mpr hleap
      rw [if_neg hleap]
      omega

/-- The months from March on do not depend on the leap day, if the year is counted from its end. -/
theorem daysBeforeMonth_from_march (y : Nat) {k : Nat} (hk : k < 10) :
    daysBeforeMonth y (k + 3) + 306 = yearLength y + (153 * k + 2) / 5 := by
  have hfeb : daysBeforeMonth y 3 + 306 = yearLength y := by
    rw [yearLength_eq]
    simp only [daysBeforeMonth, sum_range_succ, range_zero, sum_empty, monthLength]
    split <;> rfl
  rw [← hfeb]
  simp only [daysBeforeMonth]
  interval_cases k <;> simp only [sum_range_succ, range_zero, sum_empty, monthLength]

/-! ## 3. The number of a date -/

theorem Date.Valid.month_pos {d : Date} (h : d.Valid) : 1 ≤ d.month ∧ d.month ≤ 12 := by
  obtain ⟨hpos, hle⟩ := h
  have hmonth : monthLength d.year d.month ≠ 0 := by omega
  by_contra hout
  refine hmonth ?_
  unfold monthLength
  split <;> first | rfl | omega

theorem daysBeforeMonth_mono (y : Nat) : Monotone (daysBeforeMonth y) :=
  fun _ _ h => sum_le_sum_of_subset (range_mono h)

theorem daysBeforeYear_mono : Monotone daysBeforeYear :=
  fun _ _ h => sum_le_sum_of_subset (range_mono h)

namespace Date

theorem number_lt_month {d : Date} (h : d.Valid) :
    d.number < daysBeforeYear d.year + daysBeforeMonth d.year (d.month + 1) := by
  rw [number, daysBeforeMonth, daysBeforeMonth, sum_range_succ]
  have := h.2
  have := h.1
  omega

theorem number_lt_year {d : Date} (h : d.Valid) : d.number < daysBeforeYear (d.year + 1) := by
  have hmonth := number_lt_month h
  have hmono := daysBeforeMonth_mono d.year (show d.month + 1 ≤ 13 by have := h.month_pos; omega)
  have hyear : daysBeforeYear (d.year + 1) = daysBeforeYear d.year + yearLength d.year :=
    sum_range_succ ..
  rw [hyear]
  exact lt_of_lt_of_le hmonth (Nat.add_le_add_left hmono _)

theorem number_first (y : Nat) : (⟨y, 1, 1⟩ : Date).number = daysBeforeYear y := rfl

theorem year_lt {d : Date} {y : Nat} (h : d.number < daysBeforeYear y) : d.year < y := by
  by_contra hlate
  have hmono := daysBeforeYear_mono (Nat.le_of_not_lt hlate)
  rw [number] at h
  omega

/-- **A date is determined by its number.** -/
theorem eq_of_number {d e : Date} (hd : d.Valid) (he : e.Valid) (h : d.number = e.number) :
    d = e := by
  have hy : d.year = e.year := Nat.le_antisymm
    (Nat.lt_succ_iff.mp (year_lt (h ▸ number_lt_year he)))
    (Nat.lt_succ_iff.mp (year_lt (h ▸ number_lt_year hd)))
  have hmonth : ∀ {a b : Date}, a.Valid → a.year = b.year → a.number = b.number →
      ¬ a.month < b.month := by
    intro a b ha hab hnum hlt
    have hbelow := number_lt_month ha
    have hmono := daysBeforeMonth_mono a.year hlt
    rw [hnum, number, ← hab] at hbelow
    dsimp only [Nat.succ_eq_add_one] at hmono
    omega
  have hm : d.month = e.month := Nat.le_antisymm
    (Nat.le_of_not_lt (hmonth he hy.symm h.symm)) (Nat.le_of_not_lt (hmonth hd hy h))
  refine Date.ext hy hm ?_
  rw [number, number, hy, hm] at h
  have := hd.1
  have := he.1
  omega

theorem next_valid {d : Date} (h : d.Valid) : d.next.Valid := by
  obtain ⟨hpos, hle⟩ := h.month_pos
  unfold Date.next
  split
  next hday => exact ⟨Nat.le_add_left 1 _, hday⟩
  next hday =>
    split
    next hmonth =>
      refine ⟨le_refl 1, ?_⟩
      show 1 ≤ monthLength d.year (d.month + 1)
      generalize d.month = m at hpos hmonth
      interval_cases m <;> simp only [monthLength] <;> (try split) <;> omega
    next => exact ⟨le_refl 1, by simp [monthLength]⟩

theorem number_next {d : Date} (h : d.Valid) : d.next.number = d.number + 1 := by
  have hday := h.1
  have hlen := h.2
  have hsucc : daysBeforeMonth d.year (d.month + 1) =
      daysBeforeMonth d.year d.month + monthLength d.year d.month := sum_range_succ ..
  unfold Date.next number
  split
  next => dsimp only; omega
  next hlast =>
    split
    next => dsimp only; omega
    next hmonth =>
      have htwelve : d.month = 12 := by have := h.month_pos; omega
      have hyear : daysBeforeYear (d.year + 1) = daysBeforeYear d.year + yearLength d.year :=
        sum_range_succ ..
      have hjan : daysBeforeMonth (d.year + 1) 1 = 0 := rfl
      rw [htwelve] at hsucc hlast hlen ⊢
      change yearLength d.year = _ at hsucc
      dsimp only
      omega

end Date

end BibaVpn.Calendar
