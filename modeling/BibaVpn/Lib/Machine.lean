/-
# Fixed-width unsigned integers, as the naturals below a bound, and addresses

The code's counters are `u16`, `u32`, `u64` and `usize`.  A value is kept as a `Nat`; the
operations that can leave the range say so: `saturating_*` stops at the maximum, `checked_*`
answers `none`, and `to_be_bytes` / `from_be_bytes` are the big-endian encodings, which are
inverse to each other exactly on the range.  An IP address is the byte string of its octets.
-/
import Mathlib.Algebra.Ring.Nat
import Mathlib.Data.List.Induction
import Mathlib.Data.Nat.Basic
import Mathlib.Tactic.Common

namespace Machine

/-- A byte string. -/
abbrev Bytes := List UInt8

def u16Max : Nat := 2 ^ 16 - 1

def u32Max : Nat := 2 ^ 32 - 1

def u64Max : Nat := 2 ^ 64 - 1

/-! ## 1. Saturating and checked arithmetic -/

/-- `a.saturating_add(b)` in a type whose largest value is `top`. -/
def saturatingAdd (top a b : Nat) : Nat := min (a + b) top

/-- `a.saturating_mul(b)`. -/
def saturatingMul (top a b : Nat) : Nat := min (a * b) top

/-- `a.checked_add(b)`. -/
def checkedAdd (top a b : Nat) : Option Nat := if a + b ≤ top then some (a + b) else none

/-- `a - b` of unsigned integers, `none` where it underflows. -/
def checkedSub (a b : Nat) : Option Nat := if b ≤ a then some (a - b) else none

/-- `a.abs_diff(b)`. -/
def absDiff (a b : Nat) : Nat := if a < b then b - a else a - b

theorem saturatingAdd_le (top a b : Nat) : saturatingAdd top a b ≤ a + b := Nat.min_le_left _ _

theorem le_saturatingAdd {top a b c : Nat} (hc : c ≤ a + b) (ht : c ≤ top) :
    c ≤ saturatingAdd top a b := Nat.le_min.mpr ⟨hc, ht⟩

theorem absDiff_le_iff {a b d : Nat} : absDiff a b ≤ d ↔ a ≤ b + d ∧ b ≤ a + d := by
  unfold absDiff
  split <;> omega

/-- Within the range, a checked addition is the addition. -/
theorem checkedAdd_eq_some_iff {top a b c : Nat} :
    checkedAdd top a b = some c ↔ c = a + b ∧ a + b ≤ top := by
  unfold checkedAdd
  split
  · simp [eq_comm, *]
  · simp [*]

theorem checkedSub_of_le {a b : Nat} (h : b ≤ a) : checkedSub a b = some (a - b) := if_pos h

/-! ## 2. Big-endian encodings -/

/-- `n.to_be_bytes()` in `k` bytes: the value modulo `256 ^ k`. -/
def toBe : Nat → Nat → Bytes
  | 0, _ => []
  | k + 1, n => toBe k (n / 256) ++ [UInt8.ofNat (n % 256)]

/-- `from_be_bytes`. -/
def fromBe (bs : Bytes) : Nat := bs.foldl (fun n b => n * 256 + b.toNat) 0

@[simp] theorem length_toBe : ∀ (k n : Nat), (toBe k n).length = k
  | 0, _ => rfl
  | k + 1, n => by simp [toBe, length_toBe k]

theorem fromBe_append_singleton (bs : Bytes) (b : UInt8) :
    fromBe (bs ++ [b]) = fromBe bs * 256 + b.toNat := by
  simp [fromBe, List.foldl_append]

/-- Decoding an encoding gives back the value, within the width. -/
theorem fromBe_toBe : ∀ {k n : Nat}, n < 256 ^ k → fromBe (toBe k n) = n
  | 0, n, h => by
    rw [Nat.pow_zero, Nat.lt_one_iff] at h
    rw [h]; rfl
  | k + 1, n, h => by
    have hdiv : n / 256 < 256 ^ k := by
      rw [Nat.div_lt_iff_lt_mul (by omega)]
      rwa [Nat.pow_succ] at h
    have hmod : (UInt8.ofNat (n % 256)).toNat = n % 256 := by
      rw [UInt8.toNat_ofNat']
      exact Nat.mod_eq_of_lt (Nat.mod_lt _ (by omega))
    rw [toBe, fromBe_append_singleton, fromBe_toBe hdiv, hmod]
    omega

theorem fromBe_lt : ∀ (bs : Bytes), fromBe bs < 256 ^ bs.length := by
  intro bs
  induction bs using List.reverseRecOn with
  | nil => simp [fromBe]
  | append_singleton bs b ih =>
    have hb : b.toNat < 256 := b.toNat_lt
    rw [fromBe_append_singleton, List.length_append, List.length_singleton, Nat.pow_succ]
    omega

/-- Every byte string is the encoding of its value, in its own width. -/
theorem toBe_fromBe (bs : Bytes) : toBe bs.length (fromBe bs) = bs := by
  induction bs using List.reverseRecOn with
  | nil => rfl
  | append_singleton bs b ih =>
    have hb : b.toNat < 256 := b.toNat_lt
    have hdiv : (fromBe bs * 256 + b.toNat) / 256 = fromBe bs := by omega
    have hmod : (fromBe bs * 256 + b.toNat) % 256 = b.toNat := by omega
    rw [fromBe_append_singleton, List.length_append, List.length_singleton, toBe, hdiv, hmod, ih,
      UInt8.ofNat_toNat]

/-- `u16::from_be_bytes([a, b])`. -/
def fromBe16 (a b : UInt8) : Nat := fromBe [a, b]

theorem fromBe16_eq (a b : UInt8) : fromBe16 a b = a.toNat * 256 + b.toNat := by
  simp [fromBe16, fromBe]

/-! ## 3. Addresses -/

/-- `IpAddr`, by its octets. -/
inductive IpAddr
  | v4 (octets : Bytes)
  | v6 (octets : Bytes)
  deriving DecidableEq, Repr

/-- `Ipv6Addr::to_ipv4_mapped`: `::ffff:a.b.c.d`. -/
def toIpv4Mapped (octets : Bytes) : Option Bytes :=
  if octets.take 12 = List.replicate 10 0 ++ [0xff, 0xff] then some (octets.drop 12) else none

/-- An address, with its IPv4 form where it is IPv4-mapped. -/
def IpAddr.unmapped : IpAddr → IpAddr
  | .v4 octets => .v4 octets
  | .v6 octets =>
    match toIpv4Mapped octets with
    | some mapped => .v4 mapped
    | none => .v6 octets

end Machine
