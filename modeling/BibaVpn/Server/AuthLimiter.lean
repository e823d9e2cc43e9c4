/-
# The auth rate limiter

`AuthRateLimiter` (`server_limits.rs`) counts failed authentications per source bucket and bans a
bucket for a while.  Its state is a table behind a lock, and every function reads the clock AFTER it
has the lock, so its calls are a sequence with a clock that does not go back.

* §1 is the bucket of an address, and which addresses share one (`buckets_exact`), §2 the three
  calls, §3 the limiter in a run;
* §4 is the accounting: `bans_active` is the number of entries with a ban, and the table is bounded.
  It also shows that a ban holds, whatever happens in between (`ban_cannot_be_escaped`);
* §5 is the window.  The documentation calls it SLIDING, but what is kept is one counter and the
  time of its first failure: a burst that begins late in a counted window and ends after it is cut
  in two (`burst_not_banned`).  `burst_banned_iff` says exactly which bursts are seen.

Instants and durations are naturals (of any unit).
-/
import BibaVpn.Lib.Lts
import BibaVpn.Lib.Machine
import BibaVpn.Lib.Table

namespace BibaVpn.Server

open Machine Lts

/-! ## 1. Buckets -/

/-- `IPV6_AUTH_PREFIX_BITS`. -/
def ipv6AuthPrefixBits : Nat := 64

/-- `u128::from(addr)`. -/
def bits (addr : Bytes) : BitVec 128 := BitVec.ofNat 128 (fromBe addr)

/-- `mask_ipv6`: the first two branches are `checked_sub` giving a shift below 128, and 128. -/
def maskIpv6 (addr : Bytes) (prefixBits : Nat) : Bytes :=
  let mask : BitVec 128 :=
    if prefixBits ≤ 128 then
      if 128 - prefixBits < 128 then BitVec.allOnes 128 <<< (128 - prefixBits) else 0
    else BitVec.allOnes 128
  toBe 16 (bits addr &&& mask).toNat

/-- `auth_limit_key`. -/
def authLimitKey : IpAddr → IpAddr
  | .v4 addr => .v4 addr
  | .v6 addr =>
    match toIpv4Mapped addr with
    | some v4 => .v4 v4
    | none => .v6 (maskIpv6 addr ipv6AuthPrefixBits)

/-- Two hosts of one /64 share a bucket, and an IPv4-mapped address has the bucket of its IPv4. -/
example : authLimitKey (.v6 (toBe 16 0x20010db8000000010000000000000001)) =
    authLimitKey (.v6 (toBe 16 0x20010db80000000100000000000000ff)) ∧
    authLimitKey (.v6 (toBe 16 0xffffcb007101)) = .v4 [0xcb, 0, 0x71, 1] := by decide

/-- The same IPv4 address, or IPv6 addresses whose first 64 bits are equal. -/
def SameSite : IpAddr → IpAddr → Prop
  | .v4 a, .v4 b => a = b
  | .v6 a, .v6 b => ∀ i < 64, (bits a).getMsbD i = (bits b).getMsbD i
  | _, _ => False

theorem bits_toBe (b : BitVec 128) : bits (toBe 16 b.toNat) = b := by
  have hlt : b.toNat < 256 ^ 16 := b.isLt
  rw [bits, fromBe_toBe hlt, BitVec.ofNat_toNat, BitVec.setWidth_eq]

/-- **`mask_ipv6` keeps the first bits and clears the rest**, also for lengths of 0, 128 and
more. -/
theorem getMsbD_maskIpv6 (addr : Bytes) (n i : Nat) :
    (bits (maskIpv6 addr n)).getMsbD i = (decide (i < min n 128) && (bits addr).getMsbD i) := by
  by_cases hi : i < 128
  · simp only [maskIpv6, bits_toBe, BitVec.getMsbD_and, Bool.and_comm ((bits addr).getMsbD i)]
    congr 1
    by_cases hn : n ≤ 128
    · by_cases hshift : 128 - n < 128
      · rw [if_pos hn, if_pos hshift, BitVec.getMsbD_shiftLeft, BitVec.getMsbD_allOnes,
          decide_eq_decide]
        omega
      · rw [if_pos hn, if_neg hshift, BitVec.ofNat_eq_ofNat, BitVec.getMsbD_zero, eq_comm,
          decide_eq_false_iff_not]
        omega
    · rw [if_neg hn, BitVec.getMsbD_allOnes, decide_eq_decide]
      omega
  · have hge : 128 ≤ i := Nat.le_of_not_lt hi
    rw [BitVec.getMsbD_of_ge _ _ hge, BitVec.getMsbD_of_ge _ _ hge, Bool.and_false]

theorem toBe_bits_maskIpv6 (addr : Bytes) (n : Nat) :
    toBe 16 (bits (maskIpv6 addr n)).toNat = maskIpv6 addr n := by rw [maskIpv6, bits_toBe]

theorem maskIpv6_eq_iff {a b : Bytes} :
    maskIpv6 a ipv6AuthPrefixBits = maskIpv6 b ipv6AuthPrefixBits ↔
      ∀ i < 64, (bits a).getMsbD i = (bits b).getMsbD i := by
  constructor
  · intro h i hi
    have hbit := congrArg (fun x => (bits x).getMsbD i) h
    simpa [getMsbD_maskIpv6, ipv6AuthPrefixBits, hi] using hbit
  · intro h
    have hbits : bits (maskIpv6 a ipv6AuthPrefixBits) = bits (maskIpv6 b ipv6AuthPrefixBits) := by
      refine BitVec.eq_of_getMsbD_eq fun i _ => ?_
      rw [getMsbD_maskIpv6, getMsbD_maskIpv6]
      by_cases hi : i < 64
      · rw [h i hi]
      · simp [ipv6AuthPrefixBits, hi]
    rw [← toBe_bits_maskIpv6 a, ← toBe_bits_maskIpv6 b, hbits]

/-- A mapped address has a one among the bits that the mask clears, so no masked one is mapped. -/
theorem toIpv4Mapped_maskIpv6 (addr : Bytes) :
    toIpv4Mapped (maskIpv6 addr ipv6AuthPrefixBits) = none := by
  refine if_neg fun h => ?_
  have hbit : (bits (maskIpv6 addr ipv6AuthPrefixBits)).getLsbD 32 = false := by
    have hmsb := getMsbD_maskIpv6 addr ipv6AuthPrefixBits 95
    simpa [BitVec.getMsbD, ipv6AuthPrefixBits] using hmsb
  rw [← toBe_bits_maskIpv6] at h
  generalize bits (maskIpv6 addr ipv6AuthPrefixBits) = b at h hbit
  -- the twelfth octet of a mapped address is 255, so bit 32 is set
  have hlast := congrArg (·[11]?) h
  simp [toBe] at hlast
  replace hlast := congrArg UInt8.toNat hlast
  rw [UInt8.toNat_ofNat', show (255 : UInt8).toNat = 255 from rfl] at hlast
  rw [BitVec.getLsbD, Nat.testBit_eq_decide_div_mod_eq, decide_eq_false_iff_not] at hbit
  omega

theorem authLimitKey_eq (ip : IpAddr) : authLimitKey ip = match ip.unmapped with
    | .v4 addr => .v4 addr
    | .v6 addr => .v6 (maskIpv6 addr ipv6AuthPrefixBits) := by
  rcases ip with addr | addr
  · rfl
  · rw [authLimitKey, IpAddr.unmapped]
    cases toIpv4Mapped addr <;> rfl

/-- The buckets are the classes that are meant. -/
structure BucketsExact : Prop where
  classes : ∀ a b, authLimitKey a = authLimitKey b ↔ SameSite a.unmapped b.unmapped
  idempotent : ∀ a, authLimitKey (authLimitKey a) = authLimitKey a
  mask : ∀ addr n i,
    (bits (maskIpv6 addr n)).getMsbD i = (decide (i < min n 128) && (bits addr).getMsbD i)

/-- **A bucket is one IPv4 address or one IPv6 /64.** -/
theorem buckets_exact : BucketsExact where
  classes a b := by
    rw [authLimitKey_eq a, authLimitKey_eq b]
    cases a.unmapped <;> cases b.unmapped <;> simp [SameSite, maskIpv6_eq_iff]
  idempotent a := by
    rcases a with addr | addr
    · rfl
    · rw [authLimitKey]
      cases toIpv4Mapped addr with
      | some v4 => rfl
      | none =>
        dsimp only
        rw [authLimitKey, toIpv4Mapped_maskIpv6]
        refine congrArg IpAddr.v6 (maskIpv6_eq_iff.mpr fun i hi => ?_)
        simp [getMsbD_maskIpv6, ipv6AuthPrefixBits, hi]
  mask := getMsbD_maskIpv6

/-! ## 2. The calls -/

/-- `MAX_TRACKED_IPS`. -/
def maxTrackedIps : Nat := 100000

/-- `AuthRateLimiterConfig`. -/
structure AuthRateLimiterConfig where
  enabled : Bool
  maxFailures : Nat
  window : Nat
  ban : Nat
  /-- it is a `u32` -/
  maxFailures_le : maxFailures ≤ u32Max

/-- `IpAuthState`. -/
structure IpAuthState where
  failures : Nat
  windowStart : Nat
  bannedUntil : Option Nat
  deriving DecidableEq, Repr

/-- `fetch_add` of an `AtomicU64`. -/
def fetchAdd (x n : Nat) : Nat := (x + n) % 2 ^ 64

/-- `fetch_sub` of an `AtomicU64`, which wraps. -/
def fetchSub (x n : Nat) : Nat := (x + 2 ^ 64 - n % 2 ^ 64) % 2 ^ 64

/-- `AuthRateLimiter`, with what its lock guards. -/
structure AuthRateLimiter where
  cfg : AuthRateLimiterConfig
  inner : Table IpAddr IpAuthState
  bansActive : Nat
  authFailuresTotal : Nat
  authBansIssuedTotal : Nat

/-- `AuthRateLimiter::new`. -/
def AuthRateLimiter.new (cfg : AuthRateLimiterConfig) : AuthRateLimiter := ⟨cfg, .empty, 0, 0, 0⟩

/-- The ban is in force at `now`. -/
def IpAuthState.activeBan (now : Nat) (st : IpAuthState) : Bool :=
  match st.bannedUntil with
  | some till => now < till
  | none => false

/-- `check_allowed`. -/
def AuthRateLimiter.checkAllowed (l : AuthRateLimiter) (ip : IpAddr) (now : Nat) :
    AuthRateLimiter × Except String Unit :=
  if !l.cfg.enabled then (l, .ok ())
  else match l.inner.get (authLimitKey ip) with
    | none => (l, .ok ())
    | some st =>
      match st.bannedUntil with
      | none => (l, .ok ())
      | some till =>
        if now < till then (l, .error "temporarily banned (too many auth failures)")
        else
          ({ l with
            inner := l.inner.insert (authLimitKey ip) { st with bannedUntil := none, failures := 0 }
            bansActive := fetchSub l.bansActive 1 }, .ok ())

/-- What `prune_locked` keeps: bans in force and windows in progress. -/
def AuthRateLimiterConfig.keeps (cfg : AuthRateLimiterConfig) (now : Nat) (st : IpAuthState) :
    Bool :=
  match st.bannedUntil with
  | some till => now < till
  | none => now - st.windowStart ≤ cfg.window

/-- `prune_locked`: each ban it drops is taken off `bans_active`. -/
def AuthRateLimiter.prune (l : AuthRateLimiter) (now : Nat) : AuthRateLimiter :=
  { l with
    inner := l.inner.retain (l.cfg.keeps now)
    bansActive := fetchSub l.bansActive
      (l.inner.count fun st => !l.cfg.keeps now st && st.bannedUntil.isSome) }

/-- The entries that may be evicted: those without a ban in force. -/
def AuthRateLimiter.evictable (l : AuthRateLimiter) (now : Nat) : List (IpAddr × IpAuthState) :=
  l.inner.entries.filter fun e => !e.2.activeBan now

/-- `min_by_key(window_start)` over an iteration order that is not specified: `tie` picks among the
oldest. -/
def AuthRateLimiter.victim (l : AuthRateLimiter) (now tie : Nat) : Option IpAddr :=
  let oldest := (l.evictable now).filter fun e =>
    (l.evictable now).all fun e' => e.2.windowStart ≤ e'.2.windowStart
  (oldest[tie % oldest.length]?).map Prod.fst

/-- `record_failure`, up to the entry: room for a new entry of `key`.  `none` is its early return,
when everything that is tracked is banned. -/
def AuthRateLimiter.makeRoom (l : AuthRateLimiter) (key : IpAddr) (now tie : Nat) :
    Option AuthRateLimiter :=
  if l.inner.size ≥ maxTrackedIps ∧ (l.inner.get key).isNone then
    let pruned := l.prune now
    if pruned.inner.size ≥ maxTrackedIps then
      (pruned.victim now tie).map fun k => { pruned with inner := pruned.inner.erase k }
    else some pruned
  else some l

/-- The entry that `makeRoom` evicts, if it does. -/
def AuthRateLimiter.evicted (l : AuthRateLimiter) (key : IpAddr) (now tie : Nat) : Option IpAddr :=
  if l.inner.size ≥ maxTrackedIps ∧ (l.inner.get key).isNone ∧
      (l.prune now).inner.size ≥ maxTrackedIps then (l.prune now).victim now tie
  else none

/-- A count whose window is over starts again. -/
def IpAuthState.roll (cfg : AuthRateLimiterConfig) (now : Nat) (st : IpAuthState) : IpAuthState :=
  if now - st.windowStart > cfg.window then { st with failures := 0, windowStart := now } else st

/-- `record_failure` once the entry is there (or made): the count and the ban. -/
def AuthRateLimiter.countFailure (l : AuthRateLimiter) (key : IpAddr) (now : Nat) :
    AuthRateLimiter :=
  let st := (l.inner.get key).getD ⟨0, now, none⟩
  if st.activeBan now then { l with inner := l.inner.insert key st }
  else
    let bans := if st.bannedUntil.isSome then fetchSub l.bansActive 1 else l.bansActive
    let st := { st with bannedUntil := none }.roll l.cfg now
    let failures := saturatingAdd u32Max st.failures 1
    if failures ≥ l.cfg.maxFailures then
      { l with
        inner := l.inner.insert key ⟨0, now, some (now + l.cfg.ban)⟩
        bansActive := fetchAdd bans 1
        authFailuresTotal := fetchAdd l.authFailuresTotal 1
        authBansIssuedTotal := fetchAdd l.authBansIssuedTotal 1 }
    else
      { l with
        inner := l.inner.insert key { st with failures := failures }
        bansActive := bans
        authFailuresTotal := fetchAdd l.authFailuresTotal 1 }

/-- `record_failure`; `tie` is the choice of `victim`. -/
def AuthRateLimiter.recordFailure (l : AuthRateLimiter) (ip : IpAddr) (now tie : Nat) :
    AuthRateLimiter :=
  if !l.cfg.enabled then l
  else match l.makeRoom (authLimitKey ip) now tie with
    | none => l.prune now
    | some l' => l'.countFailure (authLimitKey ip) now

/-- `record_success`. -/
def AuthRateLimiter.recordSuccess (l : AuthRateLimiter) (ip : IpAddr) (now : Nat) :
    AuthRateLimiter :=
  if !l.cfg.enabled then l
  else match l.inner.get (authLimitKey ip) with
    | none => l
    | some st =>
      if st.activeBan now then l
      else
        { l with
          inner := l.inner.erase (authLimitKey ip)
          bansActive := if st.bannedUntil.isSome then fetchSub l.bansActive 1 else l.bansActive }

/-! ## 3. Runs -/

/-- The limiter and the clock. -/
structure LimiterState where
  limiter : AuthRateLimiter
  clock : Nat

inductive LimiterAction
  | tick (t : Nat)
  | checkAllowed (ip : IpAddr)
  | recordFailure (ip : IpAddr) (tie : Nat)
  | recordSuccess (ip : IpAddr)
  deriving DecidableEq, Repr

def LimiterState.step (s : LimiterState) : LimiterAction → Option LimiterState
  | .tick t => if s.clock ≤ t then some { s with clock := t } else none
  | .checkAllowed ip => some { s with limiter := (s.limiter.checkAllowed ip s.clock).1 }
  | .recordFailure ip tie => some { s with limiter := s.limiter.recordFailure ip s.clock tie }
  | .recordSuccess ip => some { s with limiter := s.limiter.recordSuccess ip s.clock }

/-- A new limiter, at some time. -/
def LimiterState.start (cfg : AuthRateLimiterConfig) (t : Nat) : LimiterState := ⟨.new cfg, t⟩

/-! ## 4. Accounting, and bans

What one call does is said twice: to the counts of the table (`Exact`), and to the entry of one key
(`EntryStep`).  Everything below is derived from the second. -/

/-- `bans_active` is what it counts, and the table is bounded. -/
structure AuthRateLimiter.Exact (l : AuthRateLimiter) : Prop where
  bans : l.bansActive = l.inner.count fun st => st.bannedUntil.isSome
  size : l.inner.size ≤ maxTrackedIps

variable {n now till w k : Nat} {st : IpAuthState} {ip : IpAddr} {cfg : AuthRateLimiterConfig}
  {s₀ : LimiterState}

theorem fetchSub_of_le {x : Nat} (hn : n ≤ x) (hx : x < 2 ^ 64) : fetchSub x n = x - n := by
  unfold fetchSub
  omega

theorem fetchAdd_of_lt {x : Nat} (h : x + n < 2 ^ 64) : fetchAdd x n = x + n := Nat.mod_eq_of_lt h

namespace AuthRateLimiter

variable {l l' : AuthRateLimiter} {key k : IpAddr} {now tie : Nat}

/-- One, if the entry has a ban. -/
def banWeight (e : Option IpAuthState) : Nat := Table.weight (fun st => st.bannedUntil.isSome) e

theorem banWeight_some (st : IpAuthState) :
    banWeight (some st) = if st.bannedUntil.isSome then 1 else 0 := rfl

theorem Exact.bansActive_le (h : l.Exact) : l.bansActive ≤ maxTrackedIps := by
  have hle : (l.inner.count fun st => st.bannedUntil.isSome) ≤ l.inner.size := List.countP_le_length
  have := h.size
  rw [h.bans]
  omega

/-- What is taken off the counter was counted, so the subtraction does not wrap. -/
theorem Exact.fetchSub_eq (h : l.Exact) (hn : n ≤ l.bansActive) :
    fetchSub l.bansActive n = l.bansActive - n := by
  have := h.bansActive_le
  exact fetchSub_of_le hn (by unfold maxTrackedIps at this; omega)

theorem Exact.banWeight_le (h : l.Exact) (key : IpAddr) :
    banWeight (l.inner.get key) ≤ l.bansActive := by
  have := l.inner.count_erase (fun st => st.bannedUntil.isSome) key
  rw [h.bans, this]
  exact Nat.le_add_left _ _

/-- The counter after the ban of an entry, if it has one, is released. -/
theorem Exact.release (h : l.Exact) (hg : l.inner.get key = some st) :
    (if st.bannedUntil.isSome then fetchSub l.bansActive 1 else l.bansActive) +
      banWeight (l.inner.get key) = l.bansActive := by
  have hw := h.banWeight_le key
  rw [hg, banWeight_some] at hw ⊢
  split at hw
  · rename_i hb
    rw [if_pos hb, if_pos hb, h.fetchSub_eq hw]
    omega
  · rename_i hb
    rw [if_neg hb, if_neg hb, Nat.add_zero]

theorem Exact.insert (h : l.Exact)
    (hroom : (l.inner.get key).isSome ∨ l.inner.size < maxTrackedIps)
    (hin : l'.inner = l.inner.insert key st)
    (hb : l'.bansActive + banWeight (l.inner.get key) = l.bansActive + banWeight (some st)) :
    l'.Exact := by
  have hcount := l.inner.count_insert (fun st => st.bannedUntil.isSome) key st
  have hbans := h.bans
  have hsize := h.size
  constructor
  · rw [hin]
    unfold banWeight at hb
    omega
  · rw [hin, Table.size_insert]
    split
    · exact hsize
    · rename_i hn
      rcases hroom with hs | hlt
      · exact absurd hs hn
      · exact hlt

theorem Exact.erase {b : Nat} (h : l.Exact) (hb : b + banWeight (l.inner.get key) = l.bansActive) :
    Exact { l with inner := l.inner.erase key, bansActive := b } := by
  have hcount := l.inner.count_erase (fun st => st.bannedUntil.isSome) key
  have hbans := h.bans
  constructor
  · show b = (l.inner.erase key).count _
    unfold banWeight at hb
    omega
  · exact Nat.le_trans (List.length_filter_le _ _) h.size

theorem Exact.prune (h : l.Exact) (now : Nat) : (l.prune now).Exact := by
  have hcount := l.inner.count_retain (l.cfg.keeps now) fun st => st.bannedUntil.isSome
  have hbans := h.bans
  constructor
  · show fetchSub l.bansActive _ = (l.inner.retain (l.cfg.keeps now)).count _
    rw [h.fetchSub_eq (by omega)]
    omega
  · exact Nat.le_trans (l.inner.size_retain_le _) h.size

/-- Only an entry without a ban in force is evicted. -/
theorem victim_spec (h : l.victim now tie = some k) :
    ∃ st, l.inner.get k = some st ∧ st.activeBan now = false := by
  obtain ⟨e, he, rfl⟩ := Option.map_eq_some_iff.mp h
  have hmem := List.mem_of_getElem? he
  obtain ⟨hin, hban⟩ := List.mem_filter.mp (List.mem_filter.mp hmem).1
  exact ⟨e.2, Table.get_eq_some_iff.mpr hin, by simpa using hban⟩

theorem get_prune (l : AuthRateLimiter) (now : Nat) (k : IpAddr) :
    (l.prune now).inner.get k = (l.inner.get k).filter (l.cfg.keeps now) := l.inner.get_retain _ k

/-- What is left by `prune_locked` has a ban in force or none at all. -/
theorem bannedUntil_of_prune (hg : (l.prune now).inner.get k = some st)
    (hban : st.activeBan now = false) : st.bannedUntil = none := by
  rw [get_prune, Option.filter_eq_some_iff] at hg
  have hk := hg.2
  unfold AuthRateLimiterConfig.keeps at hk
  unfold IpAuthState.activeBan at hban
  cases hb : st.bannedUntil with
  | none => rfl
  | some till =>
    simp only [hb] at hk hban
    rw [hban] at hk
    cases hk

/-- What `record_failure` does to have room for `key`. -/
theorem makeRoom_cases (h : l.makeRoom key now tie = some l') :
    (l' = l ∧ ((l.inner.get key).isSome ∨ l.inner.size < maxTrackedIps)) ∨
    (l.inner.get key = none ∧ l' = l.prune now ∧ (l.prune now).inner.size < maxTrackedIps) ∨
    (l.inner.get key = none ∧ l.evicted key now tie = (l.prune now).victim now tie ∧
      ∃ k st, (l.prune now).victim now tie = some k ∧ (l.prune now).inner.get k = some st ∧
        st.bannedUntil = none ∧
        l' = { l.prune now with inner := (l.prune now).inner.erase k }) := by
  unfold makeRoom at h
  split at h
  · rename_i hfull
    have hnone : l.inner.get key = none := by simpa using hfull.2
    simp only at h
    split at h
    · rename_i hstill
      obtain ⟨k, hk, rfl⟩ := Option.map_eq_some_iff.mp h
      obtain ⟨st, hg, hban⟩ := victim_spec hk
      refine .inr (.inr ⟨hnone, ?_, k, st, hk, hg, bannedUntil_of_prune hg hban, rfl⟩)
      exact if_pos ⟨hfull.1, hfull.2, hstill⟩
    · cases h
      exact .inr (.inl ⟨hnone, rfl, by omega⟩)
  · rename_i hroom
    cases h
    refine .inl ⟨rfl, ?_⟩
    by_cases hs : (l.inner.get key).isSome
    · exact .inl hs
    · refine .inr (Nat.not_le.mp fun hge => hroom ⟨hge, ?_⟩)
      simpa using hs

theorem Exact.makeRoom (h : l.Exact) (hm : l.makeRoom key now tie = some l') :
    l'.Exact ∧ ((l'.inner.get key).isSome ∨ l'.inner.size < maxTrackedIps) := by
  rcases makeRoom_cases hm with ⟨rfl, hroom⟩ | ⟨-, rfl, hlt⟩ | ⟨-, -, k, st, -, hg, hb, rfl⟩
  · exact ⟨h, hroom⟩
  · exact ⟨h.prune now, .inr hlt⟩
  · have hp := h.prune now
    refine ⟨hp.erase ?_, .inr ?_⟩
    · rw [hg, banWeight_some, hb, Option.isSome_none, if_neg Bool.false_ne_true, Nat.add_zero]
    · have hsize := hp.size
      rw [Table.size_erase_of_get hg] at hsize
      exact Nat.lt_of_succ_le hsize

/-- What a failure that is counted makes of an entry. -/
def fail (cfg : AuthRateLimiterConfig) (now : Nat) (st : IpAuthState) : IpAuthState :=
  if st.activeBan now then st
  else
    let st := { st with bannedUntil := none }.roll cfg now
    let failures := saturatingAdd u32Max st.failures 1
    if failures ≥ cfg.maxFailures then ⟨0, now, some (now + cfg.ban)⟩
    else { st with failures := failures }

theorem roll_bannedUntil (cfg : AuthRateLimiterConfig) (now : Nat) (st : IpAuthState) :
    (st.roll cfg now).bannedUntil = st.bannedUntil := by
  unfold IpAuthState.roll
  split <;> rfl

theorem countFailure_inner (l : AuthRateLimiter) (key : IpAddr) (now : Nat) :
    (l.countFailure key now).inner =
      l.inner.insert key (fail l.cfg now ((l.inner.get key).getD ⟨0, now, none⟩)) := by
  unfold countFailure fail
  simp only
  split
  · rfl
  · split <;> rfl

theorem Exact.countFailure (h : l.Exact)
    (hroom : (l.inner.get key).isSome ∨ l.inner.size < maxTrackedIps) :
    (l.countFailure key now).Exact := by
  refine h.insert hroom (countFailure_inner l key now) ?_
  have hle := h.bansActive_le
  -- the ban that the entry had, if any, is released first
  have hrel : (if ((l.inner.get key).getD ⟨0, now, none⟩).bannedUntil.isSome then
        fetchSub l.bansActive 1 else l.bansActive) +
          banWeight (l.inner.get key) = l.bansActive := by
    cases hg : l.inner.get key with
    | none => rfl
    | some st =>
      have := h.release hg
      rwa [hg] at this
  unfold AuthRateLimiter.countFailure fail
  simp only
  split
  · rename_i hact
    cases hg : l.inner.get key with
    | none => rw [hg] at hact; cases hact
    | some st => rfl
  · split
    · have hadd := fetchAdd_of_lt (show
          (if ((l.inner.get key).getD ⟨0, now, none⟩).bannedUntil.isSome then
            fetchSub l.bansActive 1 else l.bansActive) + 1 < 2 ^ 64 by
        unfold maxTrackedIps at hle
        omega)
      rw [banWeight_some]
      simp only [hadd, Option.isSome_some, if_true]
      omega
    · rw [banWeight_some, roll_bannedUntil]
      exact hrel

/-- `check_allowed` changes nothing, or it clears a ban that is over. -/
theorem checkAllowed_cases (l : AuthRateLimiter) (ip : IpAddr) (now : Nat) :
    (l.checkAllowed ip now).1 = l ∨
    ∃ st till, l.inner.get (authLimitKey ip) = some st ∧ st.bannedUntil = some till ∧ till ≤ now ∧
      (l.checkAllowed ip now).1 =
        { l with
          inner := l.inner.insert (authLimitKey ip) { st with bannedUntil := none, failures := 0 }
          bansActive := fetchSub l.bansActive 1 } := by
  unfold AuthRateLimiter.checkAllowed
  split
  · exact .inl rfl
  · split
    · exact .inl rfl
    · rename_i st hg
      split
      · exact .inl rfl
      · rename_i till hb
        split
        · exact .inl rfl
        · rename_i hle
          exact .inr ⟨st, till, hg, hb, Nat.not_lt.mp hle, rfl⟩

theorem Exact.checkAllowed (h : l.Exact) (ip : IpAddr) (now : Nat) :
    (l.checkAllowed ip now).1.Exact := by
  rcases checkAllowed_cases l ip now with heq | ⟨st, till, hg, hb, -, heq⟩
  · rw [heq]
    exact h
  · have hrel := h.release hg
    rw [hb, Option.isSome_some, if_pos rfl] at hrel
    rw [heq]
    exact h.insert (.inl (by rw [hg]; rfl)) rfl hrel

theorem Exact.recordFailure (h : l.Exact) (ip : IpAddr) (now tie : Nat) :
    (l.recordFailure ip now tie).Exact := by
  unfold AuthRateLimiter.recordFailure
  split
  · exact h
  · cases hm : l.makeRoom (authLimitKey ip) now tie with
    | none => exact h.prune now
    | some l' => exact (h.makeRoom hm).1.countFailure (h.makeRoom hm).2

theorem Exact.recordSuccess (h : l.Exact) (ip : IpAddr) (now : Nat) :
    (l.recordSuccess ip now).Exact := by
  unfold AuthRateLimiter.recordSuccess
  split
  · exact h
  · cases hg : l.inner.get (authLimitKey ip) with
    | none => exact h
    | some st =>
      simp only
      split
      · exact h
      · exact h.erase (h.release hg)

/-- `prune_locked` leaves an entry alone or drops an idle one. -/
theorem prune_cases (l : AuthRateLimiter) (now : Nat) (k : IpAddr) :
    (l.prune now).inner.get k = l.inner.get k ∨
      ∃ st, l.inner.get k = some st ∧ (l.prune now).inner.get k = none ∧
        l.cfg.keeps now st = false := by
  rw [get_prune]
  cases hg : l.inner.get k with
  | none => exact .inl rfl
  | some st =>
    cases hk : l.cfg.keeps now st with
    | true => exact .inl (by simp [Option.filter, hk])
    | false => exact .inr ⟨st, rfl, by simp [Option.filter, hk], hk⟩

/-- Room for `key` is made without touching the entry of `key`; another one is left alone, dropped
when it is idle, or evicted. -/
theorem get_makeRoom (h : l.makeRoom key now tie = some l') (k : IpAddr) :
    l'.cfg = l.cfg ∧ l'.inner.get key = l.inner.get key ∧
    (l'.inner.get k = l.inner.get k ∨
      ∃ st, l.inner.get k = some st ∧ l'.inner.get k = none ∧
        (l.cfg.keeps now st = false ∨
          l.evicted key now tie = some k ∧ st.activeBan now = false)) := by
  rcases makeRoom_cases h with ⟨rfl, -⟩ | ⟨hn, rfl, -⟩ | ⟨hn, hev, v, st, hv, hg, hb, rfl⟩
  · exact ⟨rfl, rfl, .inl rfl⟩
  · refine ⟨rfl, by rw [get_prune, hn]; rfl, ?_⟩
    rcases l.prune_cases now k with hk | ⟨st, hst, hk, hkeep⟩
    · exact .inl hk
    · exact .inr ⟨st, hst, hk, .inl hkeep⟩
  · refine ⟨rfl, ?_, ?_⟩
    · show ((l.prune now).inner.erase v).get key = _
      rw [Table.get_erase, get_prune, hn]
      split <;> rfl
    · show ((l.prune now).inner.erase v).get k = _ ∨ ∃ st, _ ∧
        ((l.prune now).inner.erase v).get k = _ ∧ _
      rw [Table.get_erase]
      by_cases hkv : k = v
      · subst hkv
        rw [if_pos rfl]
        rw [get_prune, Option.filter_eq_some_iff] at hg
        refine .inr ⟨st, hg.1, rfl, .inr ⟨hev.trans hv, ?_⟩⟩
        unfold IpAuthState.activeBan
        rw [hb]
      · rw [if_neg hkv]
        rcases l.prune_cases now k with hk | ⟨st, hst, hk, hkeep⟩
        · exact .inl hk
        · exact .inr ⟨st, hst, hk, .inl hkeep⟩

end AuthRateLimiter

namespace LimiterState

open AuthRateLimiter

variable {s s' t : LimiterState} {a : LimiterAction} {key : IpAddr}

theorem step_tick {t : Nat} :
    s.step (.tick t) = some s' ↔ s.clock ≤ t ∧ s' = { s with clock := t } := by
  unfold LimiterState.step
  simp only
  split <;> simp [*, eq_comm]

/-- What one step can do to the entry of `key`. -/
inductive EntryStep (s : LimiterState) (key : IpAddr) (a : LimiterAction) :
    Option IpAuthState → Option IpAuthState → Prop
  | same (e : Option IpAuthState) : EntryStep s key a e e
  | cleared (st : IpAuthState) (till : Nat) (hb : st.bannedUntil = some till) (h : till ≤ s.clock) :
    EntryStep s key a (some st) (some { st with bannedUntil := none, failures := 0 })
  | pruned (st : IpAuthState) (h : s.limiter.cfg.keeps s.clock st = false) :
    EntryStep s key a (some st) none
  | evicted (ip : IpAddr) (tie : Nat) (st : IpAuthState) (ha : a = .recordFailure ip tie)
      (hk : authLimitKey ip ≠ key)
      (he : s.limiter.evicted (authLimitKey ip) s.clock tie = some key)
      (hb : st.activeBan s.clock = false) :
    EntryStep s key a (some st) none
  | succeeded (ip : IpAddr) (st : IpAuthState) (ha : a = .recordSuccess ip)
      (hk : authLimitKey ip = key) (hb : st.activeBan s.clock = false) :
    EntryStep s key a (some st) none
  | failed (ip : IpAddr) (tie : Nat) (e : Option IpAuthState) (ha : a = .recordFailure ip tie)
      (hk : authLimitKey ip = key) (hr : (s.limiter.makeRoom key s.clock tie).isSome) :
    EntryStep s key a e (some (fail s.limiter.cfg s.clock (e.getD ⟨0, s.clock, none⟩)))

/-- A failure that is recorded is counted in the entry of its bucket. -/
theorem get_recordFailure {l l' : AuthRateLimiter} {tie : Nat} (hen : l.cfg.enabled = true)
    (hm : l.makeRoom (authLimitKey ip) now tie = some l') (k : IpAddr) :
    (l.recordFailure ip now tie).inner.get k =
      if k = authLimitKey ip then
        some (fail l.cfg now ((l.inner.get (authLimitKey ip)).getD ⟨0, now, none⟩))
      else l'.inner.get k := by
  obtain ⟨hcfg, hself, -⟩ := get_makeRoom hm k
  unfold AuthRateLimiter.recordFailure
  rw [hen, hm]
  simp only [Bool.not_true, Bool.false_eq_true, if_false]
  rw [countFailure_inner, Table.get_insert, hself, hcfg]

theorem entryStep (h : s.step a = some s') (key : IpAddr) :
    EntryStep s key a (s.limiter.inner.get key) (s'.limiter.inner.get key) := by
  cases a with
  | tick t =>
    obtain ⟨-, rfl⟩ := step_tick.mp h
    exact .same _
  | checkAllowed ip =>
    cases h
    rcases checkAllowed_cases s.limiter ip s.clock with heq | ⟨st, till, hg, hb, hle, heq⟩
    · simp only [heq]
      exact .same _
    · simp only [heq, Table.get_insert]
      split
      · rename_i hk
        rw [hk, hg]
        exact .cleared st till hb hle
      · exact .same _
  | recordFailure ip tie =>
    cases h
    cases hen : s.limiter.cfg.enabled with
    | false =>
      simp only [AuthRateLimiter.recordFailure, hen, Bool.not_false, if_true]
      exact .same _
    | true =>
      cases hm : s.limiter.makeRoom (authLimitKey ip) s.clock tie with
      | none =>
        have hget : (s.limiter.recordFailure ip s.clock tie).inner.get key =
            (s.limiter.prune s.clock).inner.get key := by
          unfold AuthRateLimiter.recordFailure
          rw [hen, hm]
          rfl
        simp only [hget]
        rcases s.limiter.prune_cases s.clock key with hsame | ⟨st, hst, hnone, hkeep⟩
        · rw [hsame]
          exact .same _
        · rw [hst, hnone]
          exact .pruned st hkeep
      | some l' =>
        simp only [get_recordFailure hen hm key]
        split
        · rename_i hk
          rw [← hk]
          refine .failed ip tie _ rfl hk.symm ?_
          rw [hk, hm]
          rfl
        · rename_i hk
          rcases (get_makeRoom hm key).2.2 with hsame | ⟨st, hst, hnone, hkeep | ⟨hev, hban⟩⟩
          · rw [hsame]
            exact .same _
          · rw [hst, hnone]
            exact .pruned st hkeep
          · rw [hst, hnone]
            exact .evicted ip tie st rfl (Ne.symm hk) hev hban
  | recordSuccess ip =>
    cases h
    unfold AuthRateLimiter.recordSuccess
    split
    · exact .same _
    · cases hg : s.limiter.inner.get (authLimitKey ip) with
      | none => exact .same _
      | some st =>
        simp only
        split
        · exact .same _
        · rename_i hban
          simp only [Table.get_erase]
          split
          · rename_i hk
            subst hk
            rw [hg]
            exact .succeeded ip st rfl rfl (by simpa using hban)
          · exact .same _

/-- The clock does not go back, and the configuration is fixed. -/
theorem step_clock (h : s.step a = some s') :
    s.clock ≤ s'.clock ∧ s'.limiter.cfg = s.limiter.cfg := by
  cases a with
  | tick t =>
    obtain ⟨hle, rfl⟩ := step_tick.mp h
    exact ⟨hle, rfl⟩
  | checkAllowed ip =>
    cases h
    rcases checkAllowed_cases s.limiter ip s.clock with heq | ⟨st, till, hg, hb, hle, heq⟩
    · exact ⟨Nat.le_refl _, by simp only [heq]⟩
    · exact ⟨Nat.le_refl _, by simp only [heq]⟩
  | recordFailure ip tie =>
    cases h
    refine ⟨Nat.le_refl _, ?_⟩
    unfold AuthRateLimiter.recordFailure
    split
    · rfl
    · cases hm : s.limiter.makeRoom (authLimitKey ip) s.clock tie with
      | none => rfl
      | some l' =>
        have hcfg : (l'.countFailure (authLimitKey ip) s.clock).cfg = l'.cfg := by
          unfold countFailure
          simp only
          split
          · rfl
          · split <;> rfl
        exact hcfg.trans (get_makeRoom hm (authLimitKey ip)).1
  | recordSuccess ip =>
    cases h
    refine ⟨Nat.le_refl _, ?_⟩
    unfold AuthRateLimiter.recordSuccess
    split
    · rfl
    · split
      · rfl
      · split <;> rfl

/-- A limiter that is switched off does nothing. -/
theorem step_disabled (hoff : s.limiter.cfg.enabled = false) (h : s.step a = some s') :
    s'.limiter = s.limiter := by
  cases a with
  | tick t =>
    obtain ⟨-, rfl⟩ := step_tick.mp h
    rfl
  | checkAllowed ip =>
    cases h
    simp only [AuthRateLimiter.checkAllowed, hoff, Bool.not_false, if_true]
  | recordFailure ip tie =>
    cases h
    simp only [AuthRateLimiter.recordFailure, hoff, Bool.not_false, if_true]
  | recordSuccess ip =>
    cases h
    simp only [AuthRateLimiter.recordSuccess, hoff, Bool.not_false, if_true]

/-- What holds in every state that a new limiter reaches. -/
structure Inv (cfg : AuthRateLimiterConfig) (s : LimiterState) : Prop where
  cfg_eq : s.limiter.cfg = cfg
  exact : s.limiter.Exact
  off : cfg.enabled = false → s.limiter.inner = .empty

theorem Inv.of_start (cfg : AuthRateLimiterConfig) (t : Nat) : Inv cfg (start cfg t) :=
  ⟨rfl, ⟨rfl, Nat.zero_le _⟩, fun _ => rfl⟩

theorem Inv.next (hI : Inv cfg s) (h : s.step a = some s') : Inv cfg s' := by
  refine ⟨(step_clock h).2.trans hI.cfg_eq, ?_, fun hoff => ?_⟩
  · cases a with
    | tick t =>
      obtain ⟨-, rfl⟩ := step_tick.mp h
      exact hI.exact
    | checkAllowed ip =>
      cases h
      exact hI.exact.checkAllowed ip s.clock
    | recordFailure ip tie =>
      cases h
      exact hI.exact.recordFailure ip s.clock tie
    | recordSuccess ip =>
      cases h
      exact hI.exact.recordSuccess ip s.clock
  · rw [step_disabled (hI.cfg_eq ▸ hoff) h]
    exact hI.off hoff

theorem Inv.of_reachable {t0 : Nat} (hr : Reachable step (start cfg t0) s) : Inv cfg s :=
  hr.invariant (Inv.of_start cfg t0) fun _ _ _ hI h => hI.next h

/-- When the ban of a bucket ends, if it has one. -/
def bannedUntil (s : LimiterState) (key : IpAddr) : Option Nat :=
  (s.limiter.inner.get key).bind IpAuthState.bannedUntil

theorem bannedUntil_eq_some :
    s.bannedUntil key = some till ↔
      ∃ st, s.limiter.inner.get key = some st ∧ st.bannedUntil = some till :=
  Option.bind_eq_some_iff

theorem activeBan_of_lt (hb : st.bannedUntil = some till) (hlt : now < till) :
    st.activeBan now = true := by
  simp [IpAuthState.activeBan, hb, hlt]

theorem keeps_of_lt (hb : st.bannedUntil = some till) (hlt : now < till) :
    cfg.keeps now st = true := by
  simp [AuthRateLimiterConfig.keeps, hb, hlt]

/-- **A ban in force outlives every step.** -/
theorem bannedUntil_step (h : s.step a = some s') (hb : s.bannedUntil key = some till)
    (hlt : s.clock < till) : s'.bannedUntil key = some till := by
  rw [bannedUntil_eq_some] at hb ⊢
  obtain ⟨st, hg, hb⟩ := hb
  have hact := activeBan_of_lt hb hlt
  have hstep := entryStep h key
  rw [hg] at hstep
  generalize he' : s'.limiter.inner.get key = e' at hstep ⊢
  cases hstep with
  | same => exact ⟨st, rfl, hb⟩
  | cleared st till' hb' hle =>
    rw [hb] at hb'
    cases hb'
    omega
  | pruned st hk => rw [keeps_of_lt hb hlt] at hk; cases hk
  | evicted ip tie st ha hk hev hn => rw [hact] at hn; cases hn
  | succeeded ip st ha hk hn => rw [hact] at hn; cases hn
  | failed ip tie e ha hk hr =>
    refine ⟨st, ?_, hb⟩
    unfold fail
    rw [Option.getD_some, if_pos hact]

theorem bannedUntil_run (hr : Reachable step s t) (hb : s.bannedUntil key = some till)
    (hlt : t.clock < till) : t.bannedUntil key = some till := by
  have hinv : t.clock < till → t.bannedUntil key = some till := by
    refine Reachable.invariant (I := fun u => u.clock < till → u.bannedUntil key = some till) hr
      (fun _ => hb) fun u a u' ih hs hlt' => ?_
    have hclock := (step_clock hs).1
    exact bannedUntil_step hs (ih (by omega)) (by omega)
  exact hinv hlt

/-- Every ban is set by a failure of its bucket, and runs for the configured time from then. -/
theorem bannedUntil_set (h : s.step a = some s') (hb : s'.bannedUntil key = some till)
    (hn : s.bannedUntil key ≠ some till) :
    till = s.clock + s.limiter.cfg.ban ∧
      ∃ ip tie, a = .recordFailure ip tie ∧ authLimitKey ip = key := by
  rw [bannedUntil_eq_some] at hb
  rw [Ne, bannedUntil_eq_some] at hn
  obtain ⟨st', hg', hb'⟩ := hb
  have hstep := entryStep h key
  rw [hg'] at hstep
  generalize hg : s.limiter.inner.get key = e at hstep hn
  generalize he' : some st' = e' at hstep
  cases hstep with
  | same => exact absurd ⟨st', he'.symm, hb'⟩ hn
  | cleared st till' hbt hle =>
    cases he'
    cases hb'
  | pruned | evicted | succeeded => cases he'
  | failed ip tie _ ha hk hr =>
    refine ⟨?_, ip, tie, ha, hk⟩
    cases he'
    unfold fail at hb'
    simp only at hb'
    split at hb'
    · cases e with
      | none => cases hb'
      | some st => exact absurd ⟨st, rfl, hb'⟩ hn
    · split at hb'
      · cases hb'
        rfl
      · rw [roll_bannedUntil] at hb'
        cases hb'

/-- The answer to a bucket whose ban is in force. -/
theorem checkAllowed_banned (hen : s.limiter.cfg.enabled = true)
    (hb : s.bannedUntil (authLimitKey ip) = some till) (hlt : s.clock < till) :
    (s.limiter.checkAllowed ip s.clock).2 =
      .error "temporarily banned (too many auth failures)" := by
  obtain ⟨st, hg, hb⟩ := bannedUntil_eq_some.mp hb
  unfold AuthRateLimiter.checkAllowed
  rw [hen, hg]
  simp only [Bool.not_true, Bool.false_eq_true, if_false, hb, if_pos hlt]

/-- In a state that has a ban, the limiter is on. -/
theorem Inv.enabled (hI : Inv cfg s) (hb : s.bannedUntil key = some till) : cfg.enabled = true := by
  cases hen : cfg.enabled with
  | true => rfl
  | false =>
    unfold bannedUntil at hb
    rw [hI.off hen] at hb
    cases hb

/-- A ban in force at a reached state rejects every address of the bucket until it ends. -/
theorem Inv.rejects (hI : Inv cfg s) (hb : s.bannedUntil key = some till)
    (hr : Reachable step s t) (hlt : t.clock < till) (hk : authLimitKey ip = key) :
    (t.limiter.checkAllowed ip t.clock).2 =
      .error "temporarily banned (too many auth failures)" := by
  have hIt : Inv cfg t := hr.invariant hI fun _ _ _ hI h => hI.next h
  subst hk
  refine checkAllowed_banned ?_ (bannedUntil_run hr hb hlt) hlt
  rw [hIt.cfg_eq]
  exact hI.enabled hb

/-- **A ban cannot be escaped, and the accounting is exact.**  In every state a limiter reaches,
`bans_active` is the number of entries with a ban and the table is within its bound.  A ban is set
by a failure of its own bucket, to the time of that failure plus `ban`; and from then on, whatever
calls on whatever addresses come in between, every check of every address of the bucket is rejected
before that time. -/
theorem ban_cannot_be_escaped {cfg : AuthRateLimiterConfig} {t0 : Nat}
    (hr : Reachable step (start cfg t0) s) :
    s.limiter.bansActive = (s.limiter.inner.count fun st => st.bannedUntil.isSome) ∧
    s.limiter.inner.size ≤ maxTrackedIps ∧
    ∀ a s' key till, s.step a = some s' → s'.bannedUntil key = some till →
      (s.bannedUntil key ≠ some till →
        till = s.clock + cfg.ban ∧ ∃ ip tie, a = .recordFailure ip tie ∧ authLimitKey ip = key) ∧
      ∀ t, Reachable step s' t → t.clock < till → ∀ ip, authLimitKey ip = key →
        (t.limiter.checkAllowed ip t.clock).2 =
          .error "temporarily banned (too many auth failures)" := by
  have hI := Inv.of_reachable hr
  refine ⟨hI.exact.bans, hI.exact.size, fun a s' key till hs hb => ⟨fun hn => ?_, ?_⟩⟩
  · rw [← hI.cfg_eq]
    exact bannedUntil_set hs hb hn
  · intro t ht hlt ip hk
    exact (hI.next hs).rejects hb ht hlt hk

/-- Three failures in a minute are banned for five. -/
def threePerMinute : AuthRateLimiterConfig := ⟨true, 3, 60, 300, by decide⟩

/-- A host, and another address of its /64. -/
def someHost : IpAddr := .v6 (toBe 16 0x20010db8000000010000000000000001)

def sameSubnet : IpAddr := .v6 (toBe 16 0x20010db80000000100000000000000ff)

/-- The third failure, at 30, bans the subnet until 330: a success of a session in flight and a
check at 329 from another address change nothing. -/
theorem ban_cannot_be_escaped_subnet :
    (run step (start threePerMinute 0)
      [.recordFailure someHost 0, .recordFailure sameSubnet 0, .tick 30, .recordFailure someHost 0,
        .recordSuccess sameSubnet, .tick 329]).isSome ∧
    ∀ s s' t,
      run step (start threePerMinute 0)
        [.recordFailure someHost 0, .recordFailure sameSubnet 0, .tick 30] = some s →
      s.step (.recordFailure someHost 0) = some s' →
      run step s' [.recordSuccess sameSubnet, .tick 329] = some t →
      s'.bannedUntil (authLimitKey someHost) = some 330 ∧
      (t.limiter.checkAllowed sameSubnet t.clock).2 =
        .error "temporarily banned (too many auth failures)" := by
  refine ⟨rfl, fun s s' t hs hs' ht => ?_⟩
  have hb : s'.bannedUntil (authLimitKey someHost) = some 330 := by
    cases hs
    cases hs'
    rfl
  have hclock : t.clock < 330 := by
    cases hs
    cases hs'
    cases ht
    decide
  have hban := (ban_cannot_be_escaped (Reachable.of_run hs)).2.2 _ s' _ 330 hs' hb
  exact ⟨hb, hban.2 t (Reachable.of_run ht) hclock sameSubnet (by decide)⟩

/-! ## 5. The window

A burst is a run that counts `n` failures of one bucket, from the first to the last.  In between the
bucket may be checked, and other buckets may do anything; what is left out is what the purpose of
the limiter leaves out, a success, an eviction and a ban of the bucket. -/

/-- A step between two failures of `key`: not a success, no eviction, and no failure of `key` (but
one that is not recorded, for the table is full of bans). -/
def Spares (key : IpAddr) (s : LimiterState) : LimiterAction → Prop
  | .tick _ | .checkAllowed _ => True
  | .recordFailure ip tie =>
    if authLimitKey ip = key then s.limiter.makeRoom key s.clock tie = none
    else s.limiter.evicted (authLimitKey ip) s.clock tie ≠ some key
  | .recordSuccess ip => authLimitKey ip ≠ key

/-- A failure of `key` that is recorded, under no ban. -/
def Records (key : IpAddr) (s s' : LimiterState) : Prop :=
  ∃ ip tie, authLimitKey ip = key ∧ (s.limiter.makeRoom key s.clock tie).isSome ∧
    (∀ till, s.bannedUntil key = some till → till ≤ s.clock) ∧
    s.step (.recordFailure ip tie) = some s'

/-- `Burst key s₀ n s`: `n` failures of `key`, the first of which is recorded in `s₀` and the last
of which leads to `s`. -/
inductive Burst (key : IpAddr) (s₀ : LimiterState) : Nat → LimiterState → Prop
  | first {s : LimiterState} (h : Records key s₀ s) : Burst key s₀ 1 s
  | next {n : Nat} {s t u : LimiterState} (hb : Burst key s₀ n s) (hn : s.bannedUntil key = none)
      (hp : Path step (Spares key) s t) (h : Records key t u) : Burst key s₀ (n + 1) u

/-- The last failure falls into the window that the first was counted in: the first began a new one
(there was no entry, or its window was over), or the old one is not over at the end. -/
def Aligned (key : IpAddr) (s₀ s : LimiterState) : Prop :=
  ∀ st, s₀.limiter.inner.get key = some st →
    s₀.clock - st.windowStart > s₀.limiter.cfg.window ∨
    s.clock - st.windowStart ≤ s₀.limiter.cfg.window

/-- The entry that a failure at this moment is counted in. -/
def countedIn (s : LimiterState) (key : IpAddr) : IpAuthState :=
  { (s.limiter.inner.get key).getD ⟨0, s.clock, none⟩ with bannedUntil := none }.roll
    s.limiter.cfg s.clock

theorem activeBan_eq_false (h : ∀ till, st.bannedUntil = some till → till ≤ now) :
    st.activeBan now = false := by
  unfold IpAuthState.activeBan
  split
  · rename_i till hb
    exact decide_eq_false (Nat.not_lt.mpr (h till hb))
  · rfl

/-- What a recorded failure leaves. -/
theorem Records.get (hen : s.limiter.cfg.enabled = true) (h : Records key s s') :
    s'.clock = s.clock ∧ s'.limiter.inner.get key =
      if saturatingAdd u32Max (s.countedIn key).failures 1 ≥ s.limiter.cfg.maxFailures then
        some ⟨0, s.clock, some (s.clock + s.limiter.cfg.ban)⟩
      else some { s.countedIn key with
        failures := saturatingAdd u32Max (s.countedIn key).failures 1 } := by
  obtain ⟨ip, tie, rfl, hroom, hban, hs⟩ := h
  obtain ⟨l', hm⟩ := Option.isSome_iff_exists.mp hroom
  cases hs
  refine ⟨rfl, ?_⟩
  simp only [get_recordFailure hen hm, if_pos]
  have hact : ((s.limiter.inner.get (authLimitKey ip)).getD ⟨0, s.clock, none⟩).activeBan s.clock
      = false := by
    refine activeBan_eq_false fun till hb => hban till ?_
    cases hg : s.limiter.inner.get (authLimitKey ip) with
    | none => rw [hg] at hb; cases hb
    | some st => exact bannedUntil_eq_some.mpr ⟨st, hg, by rwa [hg] at hb⟩
  unfold fail
  rw [hact]
  simp only [Bool.false_eq_true, if_false]
  exact apply_ite some _ _ _

/-- After `k` failures, of which the first was counted in the window from `w`: all of them are in
the count, or that window is over and one at least is not. -/
def Counted (key : IpAddr) (w k : Nat) (s : LimiterState) : Prop :=
  (∃ f, k ≤ f ∧ s.limiter.inner.get key = some ⟨f, w, none⟩) ∨
  (s.limiter.cfg.window < s.clock - w ∧
    ∀ st, s.limiter.inner.get key = some st → st.bannedUntil = none ∧ st.failures < k)

theorem roll_eq (cfg : AuthRateLimiterConfig) (now : Nat) (st : IpAuthState) :
    (now - st.windowStart ≤ cfg.window ∧ st.roll cfg now = st) ∨
    (cfg.window < now - st.windowStart ∧
      st.roll cfg now = { st with failures := 0, windowStart := now }) := by
  unfold IpAuthState.roll
  split
  · exact .inr ⟨‹_›, rfl⟩
  · exact .inl ⟨by omega, rfl⟩

theorem countedIn_bannedUntil (s : LimiterState) (key : IpAddr) :
    (s.countedIn key).bannedUntil = none := roll_bannedUntil _ _ _

theorem countedIn_failures_le (s : LimiterState) (key : IpAddr) :
    (s.countedIn key).failures ≤ ((s.limiter.inner.get key).getD ⟨0, s.clock, none⟩).failures := by
  unfold countedIn
  rcases roll_eq s.limiter.cfg s.clock
    { (s.limiter.inner.get key).getD ⟨0, s.clock, none⟩ with bannedUntil := none } with
    ⟨-, heq⟩ | ⟨-, heq⟩
  · rw [heq]
  · rw [heq]
    exact Nat.zero_le _

/-- Where the next failure is counted. -/
theorem Counted.countedIn (hk : 0 < k) (h : Counted key w k s) :
    (s.clock - w ≤ s.limiter.cfg.window ∧ ∃ f, k ≤ f ∧ s.countedIn key = ⟨f, w, none⟩) ∨
    (s.limiter.cfg.window < s.clock - w ∧ (s.countedIn key).failures < k) := by
  rcases h with ⟨f, hf, hg⟩ | ⟨hover, hless⟩
  · unfold LimiterState.countedIn
    rw [hg]
    rcases roll_eq s.limiter.cfg s.clock ⟨f, w, none⟩ with ⟨hin, heq⟩ | ⟨hout, heq⟩
    · exact .inl ⟨hin, f, hf, heq⟩
    · refine .inr ⟨hout, ?_⟩
      show (IpAuthState.roll s.limiter.cfg s.clock ⟨f, w, none⟩).failures < k
      rw [heq]
      exact hk
  · refine .inr ⟨hover, Nat.lt_of_le_of_lt (s.countedIn_failures_le key) ?_⟩
    cases hg : s.limiter.inner.get key with
    | none => exact hk
    | some st => exact (hless st hg).2

/-- **One failure.**  If it does not ban, it is one more of the count. -/
theorem Counted.record (hen : s.limiter.cfg.enabled = true) (hk : 0 < k) (h : Counted key w k s)
    (hrec : Records key s s') (hn : s'.bannedUntil key = none) : Counted key w (k + 1) s' := by
  obtain ⟨hclock, hget⟩ := hrec.get hen
  obtain ⟨ip, tie, -, -, -, hs⟩ := hrec
  have hcfg := (step_clock hs).2
  have hmax := s.limiter.cfg.maxFailures_le
  split at hget
  · -- a ban, which is excluded
    unfold LimiterState.bannedUntil at hn
    rw [hget] at hn
    cases hn
  · rename_i hlt
    have hsat : saturatingAdd u32Max (s.countedIn key).failures 1 =
        (s.countedIn key).failures + 1 := by
      unfold saturatingAdd at hlt ⊢
      omega
    rw [hsat] at hget
    rcases h.countedIn hk with ⟨-, f, hf, heq⟩ | ⟨hover, hless⟩
    · refine .inl ⟨f + 1, by omega, ?_⟩
      rw [hget, heq]
    · refine .inr ⟨by rw [hcfg, hclock]; exact hover, fun st hst => ?_⟩
      rw [hget] at hst
      cases hst
      exact ⟨s.countedIn_bannedUntil key, Nat.succ_lt_succ hless⟩

/-- **The last failure.**  It bans exactly if the window of the first is not over. -/
theorem Counted.last (hen : s.limiter.cfg.enabled = true) (hk : 0 < k) (h : Counted key w k s)
    (hrec : Records key s s') (hmax : s.limiter.cfg.maxFailures = k + 1) :
    s'.bannedUntil key = some (s'.clock + s.limiter.cfg.ban) ↔
      s'.clock - w ≤ s.limiter.cfg.window := by
  obtain ⟨hclock, hget⟩ := hrec.get hen
  have htop := s.limiter.cfg.maxFailures_le
  unfold LimiterState.bannedUntil
  rw [hget, hclock, hmax]
  unfold saturatingAdd
  rcases h.countedIn hk with ⟨hin, f, hf, heq⟩ | ⟨hover, hless⟩
  · rw [heq, if_pos (by simp only; omega)]
    exact iff_of_true rfl hin
  · rw [if_neg (by omega)]
    refine iff_of_false (fun hb => ?_) (by omega)
    rw [Option.bind_some, countedIn_bannedUntil] at hb
    cases hb

/-- **A step in between** leaves the count, or drops an entry whose window is over. -/
theorem Counted.spared (h : Counted key w k s) (hp : Spares key s a) (hs : s.step a = some s') :
    Counted key w k s' := by
  obtain ⟨hclock, hcfg⟩ := step_clock hs
  have hstep := entryStep hs key
  unfold Counted at h ⊢
  rw [hcfg]
  generalize s.limiter.inner.get key = e at h hstep
  generalize s'.limiter.inner.get key = e' at hstep ⊢
  have hover : s.limiter.cfg.window < s.clock - w → s.limiter.cfg.window < s'.clock - w := by omega
  cases hstep with
  | same => exact h.imp id fun h => ⟨hover h.1, h.2⟩
  | cleared st till hb hle =>
    -- no entry that is counted in has a ban
    rcases h with ⟨f, -, heq⟩ | ⟨-, hless⟩
    · cases heq
      cases hb
    · rw [(hless st rfl).1] at hb
      cases hb
  | pruned st hkeep =>
    refine .inr ⟨?_, fun st h => by cases h⟩
    rcases h with ⟨f, -, heq⟩ | ⟨h, -⟩
    · cases heq
      unfold AuthRateLimiterConfig.keeps at hkeep
      simp only [decide_eq_false_iff_not] at hkeep
      omega
    · exact hover h
  | evicted ip tie st ha hk he hb =>
    subst ha
    simp only [Spares, if_neg hk] at hp
    exact absurd he hp
  | succeeded ip st ha hk hb =>
    subst ha
    exact absurd hk hp
  | failed ip tie e ha hk hr =>
    subst ha
    simp only [Spares, if_pos hk] at hp
    rw [hp] at hr
    cases hr

/-- The configuration is fixed in a run. -/
theorem path_cfg {P : LimiterState → LimiterAction → Prop} (h : Path step P s t) :
    t.limiter.cfg = s.limiter.cfg :=
  h.invariant (I := fun u => u.limiter.cfg = s.limiter.cfg) rfl
    fun _ _ _ ih _ hs => (step_clock hs).2.trans ih

theorem Records.reachable (h : Records key s s') : Reachable step s s' := by
  obtain ⟨ip, tie, -, -, -, hs⟩ := h
  exact Path.tail (.refl s) trivial hs

theorem Burst.reachable (h : Burst key s₀ n s) : Reachable step s₀ s := by
  induction h with
  | first h => exact h.reachable
  | next _ _ hp h ih => exact (ih.trans hp.reachable).trans h.reachable

theorem Burst.pos (h : Burst key s₀ n s) : 0 < n := by
  cases h <;> omega

/-- The first failure begins the count, in the window it finds or in a new one. -/
theorem Records.counted (hen : s.limiter.cfg.enabled = true) (h : Records key s s')
    (hn : s'.bannedUntil key = none) : Counted key (s.countedIn key).windowStart 1 s' := by
  obtain ⟨-, hget⟩ := h.get hen
  split at hget
  · unfold LimiterState.bannedUntil at hn
    rw [hget] at hn
    cases hn
  · refine .inl ⟨saturatingAdd u32Max (s.countedIn key).failures 1,
      le_saturatingAdd (Nat.le_add_left 1 _) (by decide), ?_⟩
    rw [hget, ← s.countedIn_bannedUntil key]

/-- **A whole burst is counted**, as long as it does not ban. -/
theorem Burst.counted (hen : s₀.limiter.cfg.enabled = true) (h : Burst key s₀ n s)
    (hn : s.bannedUntil key = none) : Counted key (s₀.countedIn key).windowStart n s := by
  induction h with
  | first h => exact h.counted hen hn
  | next hb hn' hp h ih =>
    have hcfg := path_cfg (hb.reachable.trans hp.reachable)
    refine Counted.record (hcfg ▸ hen) hb.pos ?_ h hn
    exact hp.invariant (ih hn') fun _ _ _ hc hsp hs => hc.spared hsp hs

/-- The window of the first failure, in terms of what the table held before it. -/
theorem aligned_iff (hw : s.clock - s₀.clock ≤ s₀.limiter.cfg.window) :
    Aligned key s₀ s ↔ s.clock - (s₀.countedIn key).windowStart ≤ s₀.limiter.cfg.window := by
  unfold Aligned LimiterState.countedIn
  cases hg : s₀.limiter.inner.get key with
  | none =>
    refine iff_of_true (fun st h => by cases h) ?_
    rcases roll_eq s₀.limiter.cfg s₀.clock ⟨0, s₀.clock, none⟩ with ⟨-, heq⟩ | ⟨-, heq⟩
    · rw [Option.getD_none, heq]
      exact hw
    · rw [Option.getD_none, heq]
      exact hw
  | some st =>
    rw [Option.getD_some]
    rcases roll_eq s₀.limiter.cfg s₀.clock { st with bannedUntil := none } with
      ⟨hin, heq⟩ | ⟨hout, heq⟩
    · rw [heq]
      constructor
      · intro h
        exact (h st rfl).resolve_left (Nat.not_lt.mpr hin)
      · rintro h _ ⟨⟩
        exact .inr h
    · rw [heq]
      refine iff_of_true ?_ hw
      rintro _ ⟨⟩
      exact .inl hout

/-- **Which bursts are seen.**  For a burst of `max_failures` failures within `window`, the bucket
is banned when the last has been recorded exactly if the last falls into the window that the first
was counted in; then it is rejected for the next `ban`. -/
theorem burst_banned_iff {cfg : AuthRateLimiterConfig} {t0 : Nat} {s₀ : LimiterState}
    (hen : cfg.enabled = true) (hr : Reachable step (start cfg t0) s₀)
    (hb : Burst key s₀ cfg.maxFailures s) (hw : s.clock - s₀.clock ≤ cfg.window) :
    (s.bannedUntil key = some (s.clock + cfg.ban) ↔ Aligned key s₀ s) ∧
    (Aligned key s₀ s → ∀ t, Reachable step s t → t.clock < s.clock + cfg.ban →
      ∀ ip, authLimitKey ip = key →
        (t.limiter.checkAllowed ip t.clock).2 =
          .error "temporarily banned (too many auth failures)") := by
  have hI := Inv.of_reachable hr
  have hIs := Inv.of_reachable (hr.trans hb.reachable)
  have hiff : s.bannedUntil key = some (s.clock + cfg.ban) ↔ Aligned key s₀ s := by
    rw [aligned_iff (hI.cfg_eq ▸ hw), hI.cfg_eq]
    generalize hmax : cfg.maxFailures = m at hb
    cases hb with
    | first h =>
      obtain ⟨hclock, hget⟩ := h.get (hI.cfg_eq ▸ hen)
      rw [hI.cfg_eq, hmax, if_pos (le_saturatingAdd (Nat.le_add_left 1 _) (by decide))] at hget
      refine iff_of_true ?_ ?_
      · unfold LimiterState.bannedUntil
        rw [hget, hclock]
        rfl
      · rw [hclock, ← hI.cfg_eq]
        unfold LimiterState.countedIn
        rcases roll_eq s₀.limiter.cfg s₀.clock
          { (s₀.limiter.inner.get key).getD ⟨0, s₀.clock, none⟩ with bannedUntil := none } with
          ⟨hin, heq⟩ | ⟨-, heq⟩
        · rw [heq]
          exact hin
        · rw [heq]
          simp
    | next hb' hn hp h =>
      rename_i n s₁ s₂
      have hcfg₂ : s₂.limiter.cfg = cfg := (path_cfg h.reachable).symm.trans hIs.cfg_eq
      have hc := hp.invariant (hb'.counted (hI.cfg_eq ▸ hen) hn) fun _ _ _ hc hsp hs =>
        hc.spared hsp hs
      have := hc.last (hcfg₂ ▸ hen) hb'.pos h (hcfg₂ ▸ hmax)
      rwa [hcfg₂] at this
  refine ⟨hiff, fun hal t ht hlt ip hk => ?_⟩
  exact hIs.rejects (hiff.mpr hal) ht hlt hk

/-- A failure of a bucket without a ban, when the table is not full. -/
theorem Records.of_step (hs : s.step (.recordFailure ip 0) = some s')
    (hroom : s.limiter.inner.size < maxTrackedIps) (hn : s.bannedUntil (authLimitKey ip) = none) :
    Records (authLimitKey ip) s s' := by
  refine ⟨ip, 0, rfl, ?_, fun till hb => ?_, hs⟩
  · unfold AuthRateLimiter.makeRoom
    rw [if_neg (fun h => Nat.not_le.mpr hroom h.1)]
    rfl
  · rw [hn] at hb
    cases hb

/-- Another failure of the bucket, after a while. -/
theorem Burst.again {t : Nat} {u : LimiterState} (hb : Burst (authLimitKey ip) s₀ n s)
    (hs : run step s [.tick t, .recordFailure ip 0] = some u)
    (hroom : s.limiter.inner.size < maxTrackedIps) (hn : s.bannedUntil (authLimitKey ip) = none) :
    Burst (authLimitKey ip) s₀ (n + 1) u := by
  simp only [run_cons, run_nil, Option.bind_eq_some_iff] at hs
  obtain ⟨s₁, htick, s₂, hfail, hu⟩ := hs
  cases hu
  refine hb.next hn (.tail (a := .tick t) (.refl s) trivial htick) (Records.of_step hfail ?_ ?_)
  · rw [(step_tick.mp htick).2]
    exact hroom
  · rw [(step_tick.mp htick).2]
    exact hn

/-- The state of a new limiter after some calls from time 0 on. -/
def afterCalls (calls : List LimiterAction) : LimiterState :=
  (run step (start threePerMinute 0) calls).getD (start threePerMinute 0)

/-- **A burst that is not seen.**  With three failures per minute, after a failure at 0 the failures
at 59, 61 and 62 are three within three seconds.  The window from 0 ends between them, the count
starts again at 61, and the bucket is not banned: it is still served. -/
theorem burst_not_banned :
    ∃ s₀ s, Reachable step (start threePerMinute 0) s₀ ∧
      Burst (authLimitKey someHost) s₀ threePerMinute.maxFailures s ∧
      s.clock - s₀.clock ≤ threePerMinute.window ∧
      s.bannedUntil (authLimitKey someHost) = none ∧
      (s.limiter.checkAllowed someHost s.clock).2 = .ok () := by
  have h₁ : Burst (authLimitKey someHost) (afterCalls [.recordFailure someHost 0, .tick 59]) 1
      (afterCalls [.recordFailure someHost 0, .tick 59, .recordFailure someHost 0]) :=
    .first (Records.of_step rfl (by decide) rfl)
  have h₂ := h₁.again (t := 61) rfl (by decide) rfl
  have h₃ := h₂.again (t := 62) rfl (by decide) rfl
  have hr : run step (start threePerMinute 0) [.recordFailure someHost 0, .tick 59] =
      some (afterCalls [.recordFailure someHost 0, .tick 59]) := rfl
  exact ⟨_, _, Reachable.of_run hr, h₃, by decide, rfl, rfl⟩

/-- The same burst after a quiet minute is seen. -/
theorem burst_banned_iff_quiet :
    ∃ s₀ s, Reachable step (start threePerMinute 0) s₀ ∧
      Burst (authLimitKey someHost) s₀ threePerMinute.maxFailures s ∧
      s.clock - s₀.clock ≤ threePerMinute.window ∧ Aligned (authLimitKey someHost) s₀ s ∧
      s.bannedUntil (authLimitKey someHost) = some (s.clock + threePerMinute.ban) := by
  have hr : run step (start threePerMinute 0) [.recordFailure someHost 0, .tick 61] =
      some (afterCalls [.recordFailure someHost 0, .tick 61]) := rfl
  have h₁ : Burst (authLimitKey someHost) (afterCalls [.recordFailure someHost 0, .tick 61]) 1
      (afterCalls [.recordFailure someHost 0, .tick 61, .recordFailure someHost 0]) :=
    .first (Records.of_step rfl (by decide) rfl)
  have h₂ := h₁.again (t := 62) rfl (by decide) rfl
  have h₃ := h₂.again (t := 64) rfl (by decide) rfl
  have hal : Aligned (authLimitKey someHost) (afterCalls [.recordFailure someHost 0, .tick 61])
      (afterCalls [.recordFailure someHost 0, .tick 61, .recordFailure someHost 0, .tick 62,
        .recordFailure someHost 0, .tick 64, .recordFailure someHost 0]) := by
    rintro st h
    cases h
    exact .inl (by decide)
  have hreach := Reachable.of_run hr
  exact ⟨_, _, hreach, h₃, by decide, hal, (burst_banned_iff rfl hreach h₃ (by decide)).1.mpr hal⟩

end LimiterState

end BibaVpn.Server
