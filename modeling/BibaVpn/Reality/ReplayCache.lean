/-
# The REALITY replay cache under concurrent handshakes

`RealityReplayCache::check_and_insert` (`reality.rs`) drops the entries whose
`ts + max_time_diff` lies before the caller's clock value, refuses a nonce that is still
there, refuses when the cache is full, and otherwise records the nonce.  The cache is behind
a lock, but the clock value is not: `server_handshake_reality_with_auth` reads `now` and only
then enters the cache, so calls can reach the lock in an order that is not clock order.

* §1 is the cache and §2 the server: a clock that never goes back, any number of handshakes
  that have read it, and the calls, one at a time.
* §3 is the schedule on which one HELLO is accepted twice (`accepted_twice`).  A call with a
  LATER clock value gets in between: it prunes the entry of a HELLO whose second copy has
  already read the clock and still passes its own window test.
* §4 is the exact remedy.  As long as no call that has reached the cache carried a clock value
  beyond `ts + max_time_diff` of the fresh HELLO now being checked (`Timely`), the entry of that
  HELLO cannot have been pruned, and every HELLO is accepted at most once.
* §5 is the cache on its own, called in clock order: its content is then a function of what was
  accepted before, and so is every answer (`replay_cache_exact`).
-/
import BibaVpn.Lib.Lts
import BibaVpn.Lib.Machine

namespace BibaVpn.Reality

open Machine Lts

/-! ## 1. The cache -/

/-- `REALITY_REPLAY_CACHE_CAP`. -/
def replayCacheCap : Nat := 65536

/-- A HELLO nonce (16 bytes on the wire). -/
abbrev Nonce := Bytes

/-- `RealityReplayCacheInner`: the authenticated nonces with their HELLO timestamps. -/
structure ReplayCache where
  entries : List (Nonce × Nat)
  deriving DecidableEq, Repr

/-- `reality_timestamp_in_window`. -/
def timestampInWindow (now unixSecs maxTimeDiff : Nat) : Except String Unit :=
  let delta := absDiff now unixSecs
  if delta > maxTimeDiff then
    .error (s!"REALITY: HELLO timestamp outside allowed window " ++
      s!"(skew {delta}s > max_time_diff {maxTimeDiff}s)")
  else .ok ()

/-- `guard.entries.retain(..)`: the entries that are still alive at `now`. -/
def ReplayCache.retain (c : ReplayCache) (now maxTimeDiff : Nat) : ReplayCache :=
  ⟨c.entries.filter fun e => decide (now ≤ saturatingAdd u64Max e.2 maxTimeDiff)⟩

/-- `RealityReplayCache::check_and_insert`: the cache it leaves, and its answer. -/
def ReplayCache.checkAndInsert (c : ReplayCache) (nonce : Nonce)
    (helloUnixSecs now maxTimeDiff : Nat) : ReplayCache × Except String Unit :=
  match timestampInWindow now helloUnixSecs maxTimeDiff with
  | .error e => (c, .error e)
  | .ok () =>
    let live := c.retain now maxTimeDiff
    if live.entries.any (fun e => e.1 == nonce) then
      (live, .error "REALITY: replay detected (HELLO nonce already seen)")
    else if live.entries.length ≥ replayCacheCap then
      -- a live nonce is never evicted: its captured AUTH would be replayable again
      (live, .error "REALITY: replay cache full")
    else (⟨live.entries ++ [(nonce, helloUnixSecs)]⟩, .ok ())

theorem mem_retain {c : ReplayCache} {now d : Nat} {e : Nonce × Nat} :
    e ∈ (c.retain now d).entries ↔ e ∈ c.entries ∧ now ≤ saturatingAdd u64Max e.2 d := by
  simp [ReplayCache.retain]

/-- **Everything one call can do.**  It fails the window test and touches nothing; or it prunes
at its own clock value and then refuses; or it prunes, finds no live entry with this nonce,
and records it. -/
theorem checkAndInsert_cases (c : ReplayCache) (n : Nonce) (ts now d : Nat) :
    ((∃ e, c.checkAndInsert n ts now d = (c, .error e)) ∧ ¬ absDiff now ts ≤ d) ∨
      (absDiff now ts ≤ d ∧ ∃ e, c.checkAndInsert n ts now d = (c.retain now d, .error e)) ∨
      (absDiff now ts ≤ d ∧ (∀ e ∈ (c.retain now d).entries, e.1 ≠ n) ∧
        c.checkAndInsert n ts now d
          = (⟨(c.retain now d).entries ++ [(n, ts)]⟩, .ok ())) := by
  by_cases hw : absDiff now ts ≤ d
  · have hok : timestampInWindow now ts d = .ok () := if_neg (Nat.not_lt.mpr hw)
    right
    simp only [ReplayCache.checkAndInsert, hok]
    split
    · exact Or.inl ⟨hw, _, rfl⟩
    · rename_i hseen
      split
      · exact Or.inl ⟨hw, _, rfl⟩
      · refine Or.inr ⟨hw, ?_, rfl⟩
        intro e he hn
        exact hseen (List.any_eq_true.mpr ⟨e, he, by simp [hn]⟩)
  · obtain ⟨e, he⟩ : ∃ e, timestampInWindow now ts d = .error e :=
      ⟨_, if_pos (Nat.lt_of_not_le hw)⟩
    exact Or.inl ⟨⟨e, by simp only [ReplayCache.checkAndInsert, he]⟩, hw⟩

/-! ## 2. The server: a clock, handshakes that have read it, and the cache -/

/-- A handshake between its second `SystemTime::now()` and its call: the HELLO it verified and
the clock value it will call with. -/
structure Handshake where
  nonce : Nonce
  helloUnixSecs : Nat
  now : Nat
  deriving DecidableEq, Repr

/-- The server process.  `accepted` lists the calls that returned `Ok`, and `horizon` is the
latest clock value with which a call has got past the window test and pruned the cache. -/
structure Server where
  clock : Nat
  cache : ReplayCache
  waiting : List Handshake
  accepted : List (Nonce × Nat)
  horizon : Nat
  deriving DecidableEq, Repr

/-- A process that has just started, at clock value `t`. -/
def Server.start (t : Nat) : Server := ⟨t, ⟨[]⟩, [], [], 0⟩

inductive Action
  /-- the clock advances -/
  | tick (t : Nat)
  /-- a handshake whose AUTH was verified reads the clock -/
  | readClock (nonce : Nonce) (helloUnixSecs : Nat)
  /-- the `i`-th waiting handshake gets the lock and calls `check_and_insert` -/
  | check (i : Nat)
  deriving DecidableEq, Repr

/-- One call under the lock. -/
def Server.call (d : Nat) (s : Server) (h : Handshake) (rest : List Handshake) : Server :=
  let r := s.cache.checkAndInsert h.nonce h.helloUnixSecs h.now d
  { s with
    cache := r.1
    waiting := rest
    accepted := match r.2 with
      | .ok _ => (h.nonce, h.helloUnixSecs) :: s.accepted
      | .error _ => s.accepted
    horizon := if absDiff h.now h.helloUnixSecs ≤ d then max s.horizon h.now else s.horizon }

/-- One step of the server, for a fixed `max_time_diff`. -/
def Server.step (d : Nat) (s : Server) : Action → Option Server
  | .tick t => if s.clock ≤ t ∧ t ≤ u64Max then some { s with clock := t } else none
  | .readClock nonce ts => some { s with waiting := s.waiting ++ [⟨nonce, ts, s.clock⟩] }
  | .check i => s.waiting[i]?.map fun h => s.call d h (s.waiting.eraseIdx i)

/-! ## 3. The schedule that accepts one HELLO twice -/

/-- Two copies of the HELLO `(nonce 7, ts 100)` arrive at second 110, the last one at which it
is fresh under `max_time_diff = 10`; a third, unrelated HELLO arrives at second 111.  Both
copies have read the clock before it ticks, and the unrelated call runs between them. -/
def twiceSchedule : List Action :=
  [.readClock [7] 100, .readClock [7] 100, .tick 111, .readClock [8] 111,
    .check 0, .check 1, .check 0]

/-- **One HELLO accepted twice.**  The call at clock 111 prunes the entry of the HELLO stamped
100, and the second copy, which still carries clock 110, is recorded as new. -/
theorem accepted_twice :
    ∃ s, run (Server.step 10) (Server.start 110) twiceSchedule = some s ∧
      s.accepted = [([7], 100), ([8], 111), ([7], 100)] ∧ ¬ s.accepted.Nodup := by
  refine ⟨⟨111, ⟨[([8], 111), ([7], 100)]⟩, [], [([7], 100), ([8], 111), ([7], 100)], 111⟩,
    ?_, rfl, by decide⟩
  decide

/-! ## 4. At most once, while no pruning clock has passed the HELLO's own window -/

/-- The condition on a step: when a handshake calls and passes its window test, no earlier call has
pruned the cache with a clock value beyond `ts + max_time_diff` of its HELLO. -/
def Timely (d : Nat) (s : Server) : Action → Prop
  | .check i => ∀ h, s.waiting[i]? = some h → absDiff h.now h.helloUnixSecs ≤ d →
      s.horizon ≤ saturatingAdd u64Max h.helloUnixSecs d
  | _ => True

/-- The invariant.  No clock value in use exceeds `u64::MAX`; every accepted HELLO whose window
the horizon has not passed is still in the cache; and no HELLO has been accepted twice. -/
structure Server.Inv (d : Nat) (s : Server) : Prop where
  clock_le : s.clock ≤ u64Max
  waiting_le : ∀ h ∈ s.waiting, h.now ≤ u64Max
  cached : ∀ a ∈ s.accepted, s.horizon ≤ saturatingAdd u64Max a.2 d → a ∈ s.cache.entries
  once : s.accepted.Nodup

theorem inv_start {t : Nat} (ht : t ≤ u64Max) (d : Nat) : (Server.start t).Inv d where
  clock_le := ht
  waiting_le := by simp [Server.start]
  cached := by simp [Server.start]
  once := List.nodup_nil

/-- **One call keeps the invariant.**  The three cases are those of `checkAndInsert_cases`; the
accepting one is where the horizon matters. -/
theorem inv_call {d : Nat} {s : Server} {h : Handshake} {rest : List Handshake} (hI : s.Inv d)
    (hmem : h ∈ s.waiting) (hrest : ∀ x ∈ rest, x ∈ s.waiting)
    (ht : absDiff h.now h.helloUnixSecs ≤ d →
      s.horizon ≤ saturatingAdd u64Max h.helloUnixSecs d) : (s.call d h rest).Inv d := by
  have hwait : ∀ x ∈ rest, x.now ≤ u64Max := fun x hx => hI.waiting_le x (hrest x hx)
  rcases checkAndInsert_cases s.cache h.nonce h.helloUnixSecs h.now d with
    ⟨⟨e, he⟩, hw⟩ | ⟨hw, e, he⟩ | ⟨hw, hnew, he⟩
  · exact ⟨hI.clock_le, hwait, by simpa [Server.call, he, hw] using hI.cached,
      by simpa [Server.call, he] using hI.once⟩
  · refine ⟨hI.clock_le, hwait, ?_, by simpa [Server.call, he] using hI.once⟩
    intro a ha hh
    simp only [Server.call, he, if_pos hw] at ha hh ⊢
    have h1 := hI.cached a ha (le_trans (le_max_left _ _) hh)
    exact mem_retain.mpr ⟨h1, le_trans (le_max_right _ _) hh⟩
  · -- the window test bounds this call's clock by the end of its own HELLO's window
    have hnow : h.now ≤ saturatingAdd u64Max h.helloUnixSecs d :=
      le_saturatingAdd (absDiff_le_iff.mp hw).1 (hI.waiting_le h hmem)
    have hfresh : (h.nonce, h.helloUnixSecs) ∉ s.accepted := by
      intro hin
      have hc := hI.cached _ hin (ht hw)
      exact hnew _ (mem_retain.mpr ⟨hc, hnow⟩) rfl
    refine ⟨hI.clock_le, hwait, ?_, ?_⟩
    · intro a ha hh
      simp only [Server.call, he, if_pos hw, List.mem_cons] at ha hh
      simp only [Server.call, he, List.mem_append, List.mem_singleton]
      rcases ha with rfl | ha
      · exact Or.inr rfl
      · exact Or.inl (mem_retain.mpr
          ⟨hI.cached a ha (le_trans (le_max_left _ _) hh), le_trans (le_max_right _ _) hh⟩)
    · simpa [Server.call, he] using ⟨hfresh, hI.once⟩

theorem inv_step {d : Nat} {s s' : Server} {a : Action} (hI : s.Inv d) (ht : Timely d s a)
    (hs : s.step d a = some s') : s'.Inv d := by
  cases a with
  | tick t =>
    simp only [Server.step] at hs
    split at hs
    · rename_i hle
      cases hs
      exact ⟨hle.2, hI.waiting_le, hI.cached, hI.once⟩
    · cases hs
  | readClock n ts =>
    simp only [Server.step, Option.some.injEq] at hs
    subst hs
    refine ⟨hI.clock_le, ?_, hI.cached, hI.once⟩
    intro h hh
    rcases List.mem_append.mp hh with hh | hh
    · exact hI.waiting_le h hh
    · rw [List.mem_singleton.mp hh]; exact hI.clock_le
  | check i =>
    simp only [Server.step, Option.map_eq_some_iff] at hs
    obtain ⟨h, hi, rfl⟩ := hs
    exact inv_call hI (List.mem_of_getElem? hi) (fun _ hx => List.mem_of_mem_eraseIdx hx)
      (ht h hi)

/-- **A REALITY HELLO is accepted at most once**, in every run whose calls are all timely: no two
`check_and_insert` calls with the same nonce and timestamp both returned `Ok`. -/
theorem accepted_at_most_once {d t : Nat} {s : Server} (ht : t ≤ u64Max)
    (h : Path (Server.step d) (Timely d) (Server.start t) s) : s.accepted.Nodup :=
  (h.invariant (inv_start ht d) fun _ _ _ hI hp hs => inv_step hI hp hs).once

/-- In a run in which the calls reach the lock in clock order every call is timely: the second
copy of the HELLO of `twiceSchedule`, called before the unrelated one, is refused. -/
theorem accepted_at_most_once_in_order :
    ∃ s, run (Server.step 10) (Server.start 110) [.readClock [7] 100, .readClock [7] 100,
        .check 0, .check 0] = some s ∧ s.accepted = [([7], 100)] ∧ s.accepted.Nodup := by
  let s1 : Server := ⟨110, ⟨[]⟩, [⟨[7], 100, 110⟩], [], 0⟩
  let s2 : Server := ⟨110, ⟨[]⟩, [⟨[7], 100, 110⟩, ⟨[7], 100, 110⟩], [], 0⟩
  let s3 : Server := ⟨110, ⟨[([7], 100)]⟩, [⟨[7], 100, 110⟩], [([7], 100)], 110⟩
  let s4 : Server := ⟨110, ⟨[([7], 100)]⟩, [], [([7], 100)], 110⟩
  have e1 : (Server.start 110).step 10 (.readClock [7] 100) = some s1 := by decide
  have e2 : s1.step 10 (.readClock [7] 100) = some s2 := by decide
  have e3 : s2.step 10 (.check 0) = some s3 := by decide
  have e4 : s3.step 10 (.check 0) = some s4 := by decide
  have t3 : Timely 10 s2 (.check 0) := by
    intro h hh _
    cases hh
    decide
  have t4 : Timely 10 s3 (.check 0) := by
    intro h hh _
    cases hh
    decide
  have hp : Path (Server.step 10) (Timely 10) (Server.start 110) s4 :=
    ((((Lts.Path.refl _).tail trivial e1).tail trivial e2).tail t3 e3).tail t4 e4
  exact ⟨s4, by decide, rfl, accepted_at_most_once (by decide) hp⟩

/-! ## 5. Calls in clock order -/

/-- The entry is still alive at `now`. -/
def alive (d now : Nat) (e : Nonce × Nat) : Bool := decide (now ≤ saturatingAdd u64Max e.2 d)

/-- A cache and the calls that returned `Ok`, oldest first. -/
structure History where
  cache : ReplayCache
  accepted : List (Nonce × Nat)
  deriving DecidableEq, Repr

/-- One more call. -/
def History.call (d : Nat) (s : History) (h : Handshake) : History :=
  let r := s.cache.checkAndInsert h.nonce h.helloUnixSecs h.now d
  ⟨r.1, match r.2 with
    | .ok _ => s.accepted ++ [(h.nonce, h.helloUnixSecs)]
    | .error _ => s.accepted⟩

/-- A sequence of calls on a new cache, for a fixed `max_time_diff`. -/
def history (d : Nat) (calls : List Handshake) : History :=
  calls.foldl (History.call d) ⟨⟨[]⟩, []⟩

theorem history_snoc (d : Nat) (calls : List Handshake) (h : Handshake) :
    history d (calls ++ [h]) = (history d calls).call d h := by
  simp [history, List.foldl_append]

/-- What is alive later was alive before. -/
theorem alive_of_le {d now later : Nat} (h : now ≤ later) {e : Nonce × Nat}
    (ha : alive d later e = true) : alive d now e = true :=
  decide_eq_true (le_trans h (of_decide_eq_true ha))

theorem filter_alive_alive {d now later : Nat} (h : now ≤ later) (es : List (Nonce × Nat)) :
    (es.filter (alive d now)).filter (alive d later) = es.filter (alive d later) := by
  rw [List.filter_filter]
  refine List.filter_congr fun e _ => ?_
  cases ha : alive d later e with
  | false => rfl
  | true => rw [alive_of_le h ha, Bool.and_self]

/-- **The cache knows what was accepted and is alive.**  At any clock value that no call so far has
exceeded, pruning the cache and pruning the list of accepted calls give the same list. -/
theorem retain_history (d : Nat) (calls : List Handshake) :
    ∀ now, (∀ h ∈ calls, h.now ≤ now) →
      (history d calls).cache.entries.filter (alive d now) =
        (history d calls).accepted.filter (alive d now) := by
  -- by induction from the last call; a call that pruned did so at a clock value below `now`
  induction calls using List.reverseRecOn with
  | nil => intro now _; rfl
  | append_singleton calls h ih =>
    intro now hle
    have hold := ih now fun x hx => hle x (List.mem_append_left _ hx)
    have hnow : h.now ≤ now := hle h (by simp)
    rw [history_snoc]
    rcases checkAndInsert_cases (history d calls).cache h.nonce h.helloUnixSecs h.now d with
      ⟨⟨e, he⟩, -⟩ | ⟨-, e, he⟩ | ⟨-, -, he⟩
    · simpa only [History.call, he] using hold
    · simp only [History.call, he]
      exact (filter_alive_alive hnow _).trans hold
    · simp only [History.call, he, List.filter_append]
      rw [← hold]
      exact congrArg (· ++ _) (filter_alive_alive hnow _)

theorem accepted_append (d : Nat) (pre post : List Handshake) :
    (history d pre).accepted <+: (history d (pre ++ post)).accepted := by
  induction post using List.reverseRecOn with
  | nil => exact ⟨[], by rw [List.append_nil, List.append_nil]⟩
  | append_singleton post h ih =>
    rw [← List.append_assoc, history_snoc]
    refine ih.trans ?_
    simp only [History.call]
    split
    · exact List.prefix_append _ _
    · exact List.prefix_refl _

/-- After a call that passed the window test everything in the cache is alive. -/
theorem alive_of_mem_call {d : Nat} {s : History} {h : Handshake} (hle : h.now ≤ u64Max)
    (hw : absDiff h.now h.helloUnixSecs ≤ d) {e : Nonce × Nat}
    (he : e ∈ (s.call d h).cache.entries) : alive d h.now e = true := by
  rcases checkAndInsert_cases s.cache h.nonce h.helloUnixSecs h.now d with
    ⟨-, hno⟩ | ⟨-, x, hx⟩ | ⟨-, -, hx⟩
  · exact absurd hw hno
  · simp only [History.call, hx] at he
    exact (List.mem_filter.mp he).2
  · simp only [History.call, hx, List.mem_append, List.mem_singleton] at he
    rcases he with he | rfl
    · exact (List.mem_filter.mp he).2
    · exact decide_eq_true (le_saturatingAdd (absDiff_le_iff.mp hw).1 hle)

/-- When a call returns `Ok`, in terms of the cache it finds. -/
theorem checkAndInsert_ok_iff (c : ReplayCache) (n : Nonce) (ts now d : Nat) :
    (c.checkAndInsert n ts now d).2 = .ok () ↔ absDiff now ts ≤ d ∧
      (∀ e ∈ c.entries.filter (alive d now), e.1 ≠ n) ∧
      (c.entries.filter (alive d now)).length < replayCacheCap := by
  have hret : (c.retain now d).entries = c.entries.filter (alive d now) := rfl
  by_cases hw : absDiff now ts ≤ d
  · have hok : timestampInWindow now ts d = .ok () := if_neg (Nat.not_lt.mpr hw)
    simp only [ReplayCache.checkAndInsert, hok, hret, hw, true_and]
    split
    · rename_i hseen
      obtain ⟨e, he, hn⟩ := List.any_eq_true.mp hseen
      exact ⟨fun h => (by cases h), fun h => absurd (by simpa using hn) (h.1 e he)⟩
    · rename_i hseen
      have hnew : ∀ e ∈ c.entries.filter (alive d now), e.1 ≠ n := fun e he hn =>
        hseen (List.any_eq_true.mpr ⟨e, he, by simp [hn]⟩)
      split
      · rename_i hfull
        exact ⟨fun h => (by cases h), fun h => absurd h.2 (Nat.not_lt.mpr hfull)⟩
      · rename_i hroom
        exact ⟨fun _ => ⟨hnew, Nat.lt_of_not_le hroom⟩, fun _ => rfl⟩
  · obtain ⟨e, he⟩ : ∃ e, timestampInWindow now ts d = .error e :=
      ⟨_, if_pos (Nat.lt_of_not_le hw)⟩
    simp only [ReplayCache.checkAndInsert, he]
    exact ⟨fun h => (by cases h), fun h => absurd h.1 hw⟩

/-- **The replay cache, called in clock order, is exact.**  A call returns `Ok` iff its HELLO is
fresh, no earlier accepted call with this nonce is alive, and there is room among the accepted calls
that are alive.  After a call that passed the window test the cache is the list of accepted calls
that are alive.  And whatever calls came in between, a nonce that was accepted and is alive is
refused. -/
theorem replay_cache_exact (d : Nat) (calls : List Handshake) (c : Handshake)
    (hsorted : ((calls ++ [c]).map Handshake.now).Pairwise (· ≤ ·)) (hle : c.now ≤ u64Max) :
    (((history d calls).cache.checkAndInsert c.nonce c.helloUnixSecs c.now d).2 = .ok () ↔
        absDiff c.now c.helloUnixSecs ≤ d ∧
        (∀ e ∈ (history d calls).accepted, alive d c.now e = true → e.1 ≠ c.nonce) ∧
        ((history d calls).accepted.filter (alive d c.now)).length < replayCacheCap) ∧
      (absDiff c.now c.helloUnixSecs ≤ d →
        (history d (calls ++ [c])).cache.entries =
          (history d (calls ++ [c])).accepted.filter (alive d c.now)) ∧
      (∀ pre post, calls = pre ++ post → ∀ e ∈ (history d pre).accepted, e.1 = c.nonce →
        alive d c.now e = true →
        ((history d calls).cache.checkAndInsert c.nonce c.helloUnixSecs c.now d).2 ≠ .ok ()) := by
  rw [List.map_append, List.pairwise_append] at hsorted
  have hbound : ∀ h ∈ calls, h.now ≤ c.now := fun h hh =>
    hsorted.2.2 h.now (List.mem_map_of_mem hh) c.now (by simp)
  have hok : ((history d calls).cache.checkAndInsert c.nonce c.helloUnixSecs c.now d).2 = .ok () ↔
      absDiff c.now c.helloUnixSecs ≤ d ∧
      (∀ e ∈ (history d calls).accepted, alive d c.now e = true → e.1 ≠ c.nonce) ∧
      ((history d calls).accepted.filter (alive d c.now)).length < replayCacheCap := by
    rw [checkAndInsert_ok_iff, retain_history d calls c.now hbound]
    simp only [List.mem_filter, and_imp]
  refine ⟨hok, fun hw => ?_, ?_⟩
  · have hbound' : ∀ h ∈ calls ++ [c], h.now ≤ c.now := fun h hh => by
      rcases List.mem_append.mp hh with hh | hh
      · exact hbound h hh
      · rw [List.mem_singleton.mp hh]
    rw [← retain_history d (calls ++ [c]) c.now hbound', history_snoc]
    exact (List.filter_eq_self.mpr fun e he => alive_of_mem_call hle hw he).symm
  · rintro pre post rfl e he hn ha hcall
    exact (hok.mp hcall).2.1 e ((accepted_append d pre post).subset he) ha hn

/-- The cache of a server with `max_time_diff = 10`: nonce 7 is accepted at second 100; a stale
HELLO changes nothing; at second 110 nonce 7 is still alive and is refused; at second 111 it is not
alive and is accepted again with a new timestamp. -/
theorem replay_cache_exact_window :
    let calls : List Handshake := [⟨[7], 100, 100⟩, ⟨[8], 80, 105⟩, ⟨[7], 109, 110⟩]
    (history 10 calls).accepted = [([7], 100)] ∧
      ((history 10 calls).cache.checkAndInsert [7] 111 111 10).2 = .ok () ∧
      (history 10 (calls ++ [⟨[7], 111, 111⟩])).cache.entries = [([7], 111)] := by
  intro calls
  have hacc : (history 10 calls).accepted = [([7], 100)] := by decide
  have hacc' : (history 10 (calls ++ [⟨[7], 111, 111⟩])).accepted = [([7], 100), ([7], 111)] := by
    decide
  obtain ⟨hok, hcache, -⟩ := replay_cache_exact 10 calls ⟨[7], 111, 111⟩ (by decide) (by decide)
  refine ⟨hacc, hok.mpr ⟨by decide, ?_, ?_⟩, (hcache (by decide)).trans ?_⟩
  · rw [hacc]; decide
  · rw [hacc]; decide
  · rw [hacc']; decide

end BibaVpn.Reality
