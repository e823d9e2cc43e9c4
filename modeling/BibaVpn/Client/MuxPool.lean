/-
# The slot of the mux pool

A client keeps its mux sessions in one slot (`local_client.rs`, `tcp_mux.rs`): `None`, or a pool of
up to four sessions.  The slot is filled by connect attempts, which a process-wide lock serialises:
an attempt dials several connections, publishes the first one that is ready in a NEW pool, and hands
the lock to a background task that adds the others to that pool, if it is still the one in the slot.
Sessions leave when they end or when a stopped one is pruned, and the last one clears the slot.

* §1 is the state: the slot with the holder of its lock, the holder of the serialisation lock, and
  the tasks, each at an await point.  A pool is named by its index, so that the identity test of the
  fill task (`Arc::ptr_eq`) is an equality of indices, and a batch of connections is numbered;
* §2 says what each task can rely on (`TaskOk`), §3 that every step keeps it.  The point is what the
  holder of the serialisation lock knows: while it dials, the slot is empty, because only such a
  holder fills it;
* §4 draws the conclusions.
-/
import BibaVpn.Lib.Lists
import BibaVpn.Lib.Lts
import BibaVpn.Lib.Tasks

namespace BibaVpn.Client.MuxPool

open Lts Tasks

/-! ## 1. The slot and its tasks -/

/-- `TcpMuxSessionPool`: the ids of its sessions, and the `ended` flag.  `batch` is the batch of
connections that it was made for. -/
structure Pool where
  batch : Nat
  sessions : List Nat
  ended : Bool
  deriving DecidableEq

/-- A mux session: the batch its connection came from, and whether its endpoint has stopped. -/
structure MuxSession where
  batch : Nat
  stopped : Bool
  deriving DecidableEq

/-- A task, at an await point. -/
inductive Task
  /-- in `wait_for_mux_connect`, with this many attempts -/
  | waiting (attempts : Nat)
  /-- has the serialisation lock, before its second look at the slot -/
  | serialised (attempts : Nat)
  /-- in `next_mux_ready`, with `left` connections pending -/
  | connecting (batch left attempts : Nat)
  /-- a connection is ready; waits for the lock of the slot -/
  | ready (batch left : Nat)
  /-- has the lock of the slot, in `publish_mux_connection` -/
  | publishing (batch left : Nat)
  /-- the fill task, in `next_pool_mux_ready` -/
  | filling (batch pool left : Nat)
  /-- a further connection is ready; waits for the lock of the slot -/
  | filled (batch pool left : Nat)
  /-- has the lock of the slot, behind the generation check -/
  | fillPublishing (batch pool left : Nat)
  /-- in `remove_mux_session`, before and behind the lock of the slot -/
  | removing (sid : Nat)
  | removeLocked (sid : Nat)
  /-- in `prune_stopped_mux_sessions`, before and behind the lock of the slot -/
  | pruning
  | pruneLocked
  /-- the shutdown branch of `run_local_client`, before `*tcp_mux_slot.lock() = None` -/
  | clearing
  | done
  deriving DecidableEq

structure State where
  slot : Option Nat
  lock : Option Nat
  serial : Option Nat
  shutdown : Bool
  pools : List Pool
  sessions : List MuxSession
  batches : Nat
  tasks : List Task

def State.start : State := ⟨none, none, none, false, [], [], 0, []⟩

/-- What the task does next. -/
inductive Choice
  /-- `tcp_mux_slot_has_sessions` -/
  | look
  /-- the serialisation lock is granted -/
  | serial
  /-- a pending connection fails, or becomes ready -/
  | fail
  | ready
  /-- the next attempt, after the backoff -/
  | retry
  /-- the lock of the slot is granted -/
  | lock
  /-- the critical section, which ends with the release of the lock -/
  | go
  /-- the task gives up or is aborted: what it holds is released -/
  | abort
  deriving DecidableEq

inductive Action
  /-- someone needs the mux, with this bound on its attempts -/
  | connect (attempts : Nat)
  | prune
  /-- the endpoint of a session stops -/
  | stop (sid : Nat)
  /-- `endpoint.run` of a session returns -/
  | finish (sid : Nat)
  | shutdown
  | act (i : Nat) (c : Choice)
  deriving DecidableEq

/-- `cfg.ws_parallel.clamp(1, 4)`. -/
def width (wsParallel : Nat) : Nat := max 1 (min wsParallel 4)

namespace State

/-- `tcp_mux_slot_has_sessions`. -/
def hasSessions (s : State) : Bool :=
  match s.slot with
  | none => false
  | some p =>
    match s.pools[p]? with
    | some pool => !pool.sessions.isEmpty
    | none => false

def become (s : State) (i : Nat) (t : Task) : State := { s with tasks := s.tasks.set i t }

def spawn (s : State) (t : Task) : State := { s with tasks := s.tasks ++ [t] }

/-- Task `i` ends and releases what it holds. -/
def leave (s : State) (i : Nat) : State :=
  { s with
    lock := if s.lock = some i then none else s.lock
    serial := if s.serial = some i then none else s.serial
    tasks := s.tasks.set i .done }

/-- A new batch of connections is dialled. -/
def dial (s : State) (wsParallel i attempts : Nat) : State :=
  { s with batches := s.batches + 1 }.become i (.connecting s.batches (width wsParallel) attempts)

/-- The critical section of a connect attempt: the ready connection becomes a session of a new pool,
the pool goes into the slot, and the fill task takes over the serialisation lock. -/
def publishNew (s : State) (i batch left : Nat) : State :=
  { s with
    slot := some s.pools.length
    lock := none
    serial := some s.tasks.length
    pools := s.pools ++ [⟨batch, [s.sessions.length], false⟩]
    sessions := s.sessions ++ [⟨batch, false⟩]
    tasks := s.tasks.set i .done ++ [.filling batch s.pools.length left] }

/-- The critical section of a fill task: one more session in its pool. -/
def publishMore (s : State) (i batch p left : Nat) : State :=
  { s with
    lock := none
    pools := s.pools.modify p fun pool =>
      { pool with sessions := pool.sessions ++ [s.sessions.length] }
    sessions := s.sessions ++ [⟨batch, false⟩]
    tasks := s.tasks.set i (.filling batch p left) }

/-- `sessions.retain(..)` on the pool in the slot; when nothing is left, the pool is marked and the
slot cleared. -/
def retain (s : State) (keep : Nat → Bool) : State :=
  match s.slot with
  | none => s
  | some p =>
    match s.pools[p]? with
    | none => s
    | some pool =>
      if pool.sessions.filter keep = [] then
        { s with
          slot := none
          pools := s.pools.modify p fun q => { q with sessions := [], ended := true } }
      else
        { s with pools := s.pools.modify p fun q => { q with sessions := q.sessions.filter keep } }

/-- `handle.endpoint.load().is_some()`. -/
def isRunning (s : State) (sid : Nat) : Bool :=
  match s.sessions[sid]? with
  | some m => !m.stopped
  | none => false

/-- The generation check of `next_pool_mux_ready`. -/
def current (s : State) (p : Nat) : Bool :=
  s.slot == some p && !s.shutdown &&
    match s.pools[p]? with
    | some pool => !pool.ended
    | none => false

def markStopped (s : State) (sid : Nat) : State :=
  { s with sessions := s.sessions.modify sid fun m => { m with stopped := true } }

def step (wsParallel : Nat) (s : State) : Action → Option State
  | .connect attempts => some (s.spawn (.waiting attempts))
  | .prune => some (s.spawn .pruning)
  | .stop sid => some (s.markStopped sid)
  | .finish sid => some ((s.markStopped sid).spawn (.removing sid))
  | .shutdown => some ({ s with shutdown := true }.spawn .clearing)
  | .act i c =>
    match s.tasks[i]?, c with
    | some (.waiting _), .look =>
      if s.lock = none then some (if s.hasSessions then s.leave i else s) else none
    | some (.waiting attempts), .serial =>
      if s.serial = none then some ({ s with serial := some i }.become i (.serialised attempts))
      else none
    | some (.serialised attempts), .look =>
      if s.lock = none then
        match s.hasSessions, attempts with
        | false, left + 1 => some (s.dial wsParallel i left)
        | _, _ => some (s.leave i)
      else none
    | some (.connecting batch (left + 1) attempts), .fail =>
      some (s.become i (.connecting batch left attempts))
    | some (.connecting batch (left + 1) _), .ready => some (s.become i (.ready batch left))
    | some (.connecting _ 0 (attempts + 1)), .retry => some (s.dial wsParallel i attempts)
    | some (.ready batch left), .lock =>
      if s.lock = none then some ({ s with lock := some i }.become i (.publishing batch left))
      else none
    | some (.publishing batch left), .go => some (s.publishNew i batch left)
    | some (.filling batch p (left + 1)), .fail => some (s.become i (.filling batch p left))
    | some (.filling batch p (left + 1)), .ready => some (s.become i (.filled batch p left))
    | some (.filled batch p left), .lock =>
      if s.lock = none then
        if s.current p then some ({ s with lock := some i }.become i (.fillPublishing batch p left))
        else some (s.leave i)
      else none
    | some (.fillPublishing batch p left), .go => some (s.publishMore i batch p left)
    | some (.removing sid), .lock =>
      if s.lock = none then some ({ s with lock := some i }.become i (.removeLocked sid)) else none
    | some (.removeLocked sid), .go => some ((s.retain fun id => id != sid).leave i)
    | some .pruning, .lock =>
      if s.lock = none then some ({ s with lock := some i }.become i .pruneLocked) else none
    | some .pruneLocked, .go => some ((s.retain s.isRunning).leave i)
    | some .clearing, .lock =>
      if s.lock = none then some ({ s with slot := none }.leave i) else none
    | some _, .abort => some (s.leave i)
    | _, _ => none

end State

/-! ## 2. What the tasks rely on -/

/-- **Everything that a step can do.** -/
inductive Move (wsParallel : Nat) (s : State) : Action → State → Prop
  | connect (n : Nat) : Move wsParallel s (.connect n) (s.spawn (.waiting n))
  | prune : Move wsParallel s .prune (s.spawn .pruning)
  | stop (sid : Nat) : Move wsParallel s (.stop sid) (s.markStopped sid)
  | finish (sid : Nat) : Move wsParallel s (.finish sid) ((s.markStopped sid).spawn (.removing sid))
  | shutdown : Move wsParallel s .shutdown ({ s with shutdown := true }.spawn .clearing)
  | look (i : Nat) : Move wsParallel s (.act i .look) s
  | leave (i : Nat) (c : Choice) (t : Task) (ht : s.tasks[i]? = some t) :
      Move wsParallel s (.act i c) (s.leave i)
  | serial (i n : Nat) (ht : s.tasks[i]? = some (.waiting n)) (hfree : s.serial = none) :
      Move wsParallel s (.act i .serial) ({ s with serial := some i }.become i (.serialised n))
  | dial (i n : Nat) (ht : s.tasks[i]? = some (.serialised (n + 1))) (hno : s.hasSessions = false) :
      Move wsParallel s (.act i .look) (s.dial wsParallel i n)
  | redial (i n batch : Nat) (ht : s.tasks[i]? = some (.connecting batch 0 (n + 1))) :
      Move wsParallel s (.act i .retry) (s.dial wsParallel i n)
  | failed (i batch left n : Nat) (ht : s.tasks[i]? = some (.connecting batch (left + 1) n)) :
      Move wsParallel s (.act i .fail) (s.become i (.connecting batch left n))
  | ready (i batch left n : Nat) (ht : s.tasks[i]? = some (.connecting batch (left + 1) n)) :
      Move wsParallel s (.act i .ready) (s.become i (.ready batch left))
  | locked (i batch left : Nat) (ht : s.tasks[i]? = some (.ready batch left))
      (hfree : s.lock = none) :
      Move wsParallel s (.act i .lock) ({ s with lock := some i }.become i (.publishing batch left))
  | published (i batch left : Nat) (ht : s.tasks[i]? = some (.publishing batch left)) :
      Move wsParallel s (.act i .go) (s.publishNew i batch left)
  | fillFailed (i batch p left : Nat) (ht : s.tasks[i]? = some (.filling batch p (left + 1))) :
      Move wsParallel s (.act i .fail) (s.become i (.filling batch p left))
  | fillReady (i batch p left : Nat) (ht : s.tasks[i]? = some (.filling batch p (left + 1))) :
      Move wsParallel s (.act i .ready) (s.become i (.filled batch p left))
  | fillLocked (i batch p left : Nat) (ht : s.tasks[i]? = some (.filled batch p left))
      (hfree : s.lock = none) (hcur : s.slot = some p) :
      Move wsParallel s (.act i .lock)
        ({ s with lock := some i }.become i (.fillPublishing batch p left))
  | more (i batch p left : Nat) (ht : s.tasks[i]? = some (.fillPublishing batch p left)) :
      Move wsParallel s (.act i .go) (s.publishMore i batch p left)
  | removeLocked (i sid : Nat) (ht : s.tasks[i]? = some (.removing sid)) (hfree : s.lock = none) :
      Move wsParallel s (.act i .lock) ({ s with lock := some i }.become i (.removeLocked sid))
  | removed (i sid : Nat) (ht : s.tasks[i]? = some (.removeLocked sid)) :
      Move wsParallel s (.act i .go) ((s.retain fun id => id != sid).leave i)
  | pruneLocked (i : Nat) (ht : s.tasks[i]? = some .pruning) (hfree : s.lock = none) :
      Move wsParallel s (.act i .lock) ({ s with lock := some i }.become i .pruneLocked)
  | pruned (i : Nat) (ht : s.tasks[i]? = some .pruneLocked) :
      Move wsParallel s (.act i .go) ((s.retain s.isRunning).leave i)
  | cleared (i : Nat) (ht : s.tasks[i]? = some .clearing) (hfree : s.lock = none) :
      Move wsParallel s (.act i .lock) ({ s with slot := none }.leave i)

variable {s s' : State} {a : Action} {j i : Nat} {t : Task}

theorem move_of_step {wsParallel : Nat} (h : s.step wsParallel a = some s') :
    Move wsParallel s a s' := by
  cases a with
  | connect n => cases h; exact .connect n
  | prune => cases h; exact .prune
  | stop sid => cases h; exact .stop sid
  | finish sid => cases h; exact .finish sid
  | shutdown => cases h; exact .shutdown
  | act i c =>
    simp only [State.step] at h
    split at h
    · split at h
      · rename_i ht hfree
        cases h
        split
        · exact .leave i _ _ ht
        · exact .look i
      · cases h
    · split at h
      · cases h; exact .serial i _ ‹_› ‹_›
      · cases h
    · split at h
      · split at h
        · cases h; exact .dial i _ ‹_› ‹_›
        · cases h; exact .leave i _ _ ‹_›
      · cases h
    · cases h; exact .failed i _ _ _ ‹_›
    · cases h; exact .ready i _ _ _ ‹_›
    · cases h; exact .redial i _ _ ‹_›
    · split at h
      · cases h; exact .locked i _ _ ‹_› ‹_›
      · cases h
    · cases h; exact .published i _ _ ‹_›
    · cases h; exact .fillFailed i _ _ _ ‹_›
    · cases h; exact .fillReady i _ _ _ ‹_›
    · split at h
      · split at h
        · rename_i ht hfree hcur
          cases h
          simp only [State.current, Bool.and_eq_true, beq_iff_eq] at hcur
          exact .fillLocked i _ _ _ ht hfree hcur.1.1
        · cases h; exact .leave i _ _ ‹_›
      · cases h
    · cases h; exact .more i _ _ _ ‹_›
    · split at h
      · cases h; exact .removeLocked i _ ‹_› ‹_›
      · cases h
    · cases h; exact .removed i _ ‹_›
    · split at h
      · cases h; exact .pruneLocked i ‹_› ‹_›
      · cases h
    · cases h; exact .pruned i ‹_›
    · split at h
      · cases h; exact .cleared i ‹_› ‹_›
      · cases h
    · cases h; exact .leave i _ _ ‹_›
    · cases h

/-- The batches of the pools, in the order of the pools. -/
def State.poolBatches (s : State) : List Nat := s.pools.map Pool.batch

/-- Task `i` dials the connections of this batch: the slot is empty, and no pool is made for the
batch yet. -/
structure State.Dialing (s : State) (i batch : Nat) : Prop where
  serial : s.serial = some i
  empty : s.slot = none
  issued : batch < s.batches
  fresh : batch ∉ s.poolBatches

/-- Task `i` fills the pool `p`, which was made for this batch. -/
structure State.Filling (s : State) (i batch p : Nat) : Prop where
  serial : s.serial = some i
  pool : s.poolBatches[p]? = some batch

/-- What a task relies on. -/
def TaskOk (s : State) (i : Nat) : Task → Prop
  | .serialised _ => s.serial = some i
  | .connecting batch _ _ | .ready batch _ => s.Dialing i batch
  | .publishing batch _ => s.Dialing i batch ∧ s.lock = some i
  | .filling batch p _ | .filled batch p _ => s.Filling i batch p
  | .fillPublishing batch p _ => s.Filling i batch p ∧ s.lock = some i ∧ s.slot = some p
  | .removeLocked _ | .pruneLocked => s.lock = some i
  | .waiting _ | .removing _ | .pruning | .clearing | .done => True

/-- A step that leaves task `j` what it relies on. -/
structure Frame (s s' : State) (j : Nat) : Prop where
  serial : s.serial = some j → s'.serial = some j
  lock : s.lock = some j → s'.lock = some j
  empty : s.serial = some j → s.slot = none → s'.slot = none
  slot : s.lock = some j → s'.slot = s.slot
  issued : s.batches ≤ s'.batches
  fresh : s.serial = some j → s'.poolBatches = s.poolBatches
  pools : ∀ p b : Nat, s.poolBatches[p]? = some b → s'.poolBatches[p]? = some b

theorem State.Dialing.frame {b : Nat} (h : s.Dialing j b) (hf : Frame s s' j) : s'.Dialing j b where
  serial := hf.serial h.serial
  empty := hf.empty h.serial h.empty
  issued := Nat.lt_of_lt_of_le h.issued hf.issued
  fresh := hf.fresh h.serial ▸ h.fresh

theorem State.Filling.frame {b p : Nat} (h : s.Filling j b p) (hf : Frame s s' j) :
    s'.Filling j b p where
  serial := hf.serial h.serial
  pool := hf.pools p b h.pool

theorem TaskOk.frame (h : TaskOk s j t) (hf : Frame s s' j) : TaskOk s' j t := by
  cases t with
  | serialised n => exact hf.serial h
  | connecting | ready => exact State.Dialing.frame h hf
  | publishing b left => exact ⟨h.1.frame hf, hf.lock h.2⟩
  | filling | filled => exact State.Filling.frame h hf
  | fillPublishing b p left => exact ⟨h.1.frame hf, hf.lock h.2.1, (hf.slot h.2.1).trans h.2.2⟩
  | removeLocked | pruneLocked => exact hf.lock h
  | _ => trivial

/-- What a pool and the list of sessions say about each other. -/
structure PoolOk (sessions : List MuxSession) (pool : Pool) : Prop where
  member : ∀ sid ∈ pool.sessions, ∃ m, sessions[sid]? = some m ∧ m.batch = pool.batch
  once : pool.sessions.Nodup

/-- **The invariant.** -/
structure State.Inv (s : State) : Prop where
  each : Each s.tasks (TaskOk s)
  live : ∀ p, s.slot = some p → ∃ pool, s.pools[p]? = some pool ∧ pool.sessions ≠ [] ∧
    pool.ended = false
  issued : ∀ b ∈ s.poolBatches, b < s.batches
  distinct : s.poolBatches.Nodup
  pools : ∀ pool ∈ s.pools, PoolOk s.sessions pool

/-- The id of a session: `TCP_MUX_SESSION_GEN` counts from 1, in 64 bits. -/
def sessionId (sid : Nat) : UInt64 := UInt64.ofNat (sid + 1)

/-- **As long as fewer than 2^64 sessions were made, a pool loses the same session by its id**, in
64 bits, as by its number. -/
theorem State.Inv.filter_sessionId (hI : s.Inv) (hn : s.sessions.length < UInt64.size)
    {pool : Pool} (hp : pool ∈ s.pools) {sid : Nat} (hsid : sid < s.sessions.length) :
    (pool.sessions.filter fun id => sessionId id != sessionId sid) =
      pool.sessions.filter fun id => id != sid := by
  refine List.filter_congr fun id hid => ?_
  obtain ⟨m, hm, -⟩ := (hI.pools pool hp).member id hid
  have hlt := (List.getElem?_eq_some_iff.mp hm).1
  rw [Bool.eq_iff_iff, bne_iff_ne, bne_iff_ne, sessionId, sessionId, Ne, ← UInt64.toNat_inj,
    UInt64.toNat_ofNat_of_lt' (by omega), UInt64.toNat_ofNat_of_lt' (by omega),
    Nat.add_right_cancel_iff]

/-! ## 3. Every step keeps it -/

/-- A step that changes neither the slot nor the pools. -/
theorem Frame.keep (hslot : s'.slot = s.slot) (hpools : s'.pools = s.pools)
    (hb : s.batches ≤ s'.batches) (hserial : s.serial = some j → s'.serial = some j)
    (hlock : s.lock = some j → s'.lock = some j) : Frame s s' j where
  serial := hserial
  lock := hlock
  empty _ h := hslot.trans h
  slot _ := hslot
  issued := hb
  fresh _ := congrArg (List.map Pool.batch) hpools
  pools p b h := by rwa [State.poolBatches, hpools]

theorem Frame.leave (hne : j ≠ i) : Frame s (s.leave i) j := by
  refine .keep rfl rfl (Nat.le_refl _) (fun h => ?_) fun h => ?_
  · show (if s.serial = some i then none else s.serial) = some j
    rw [h, if_neg fun heq => hne (Option.some.inj heq)]
  · show (if s.lock = some i then none else s.lock) = some j
    rw [h, if_neg fun heq => hne (Option.some.inj heq)]

/-- The invariant, for a step that changes neither the slot, nor the pools, nor the sessions. -/
theorem State.Inv.keep (hI : s.Inv) (hslot : s'.slot = s.slot) (hpools : s'.pools = s.pools)
    (hsess : s'.sessions = s.sessions) (hb : s.batches ≤ s'.batches)
    (heach : Each s'.tasks (TaskOk s')) : s'.Inv where
  each := heach
  live := by rw [hslot, hpools]; exact hI.live
  issued b h := Nat.lt_of_lt_of_le (hI.issued b (by rwa [poolBatches, hpools] at h)) hb
  distinct := by rw [poolBatches, hpools]; exact hI.distinct
  pools := by rw [hpools, hsess]; exact hI.pools

/-- A task that holds nothing is spawned. -/
theorem State.Inv.spawn (hI : s.Inv) (ht : ∀ s i, TaskOk s i t) : (s.spawn t).Inv := by
  refine hI.keep rfl rfl rfl (Nat.le_refl _) ?_
  have hold : Each s.tasks (TaskOk (s.spawn t)) :=
    hI.each.mono fun j u _ h => h.frame (.keep rfl rfl (Nat.le_refl _) id id)
  exact hold.spawn (ht _ _)

theorem State.Inv.leave (hI : s.Inv) (i : Nat) : (s.leave i).Inv :=
  hI.keep rfl rfl rfl (Nat.le_refl _)
    (hI.each.set (Q := TaskOk (s.leave i)) trivial fun _ _ hne _ h => h.frame (.leave hne))

/-- A task moves on without changing anything shared. -/
theorem State.Inv.become (hI : s.Inv) (i : Nat) (ht : TaskOk (s.become i t) i t) :
    (s.become i t).Inv :=
  hI.keep rfl rfl rfl (Nat.le_refl _)
    (hI.each.set ht fun _ _ _ _ h => h.frame (.keep rfl rfl (Nat.le_refl _) id id))

/-- A task takes the lock of the slot. -/
theorem State.Inv.takeLock (hI : s.Inv) (hfree : s.lock = none) (i : Nat)
    (ht : TaskOk ({ s with lock := some i }.become i t) i t) :
    ({ s with lock := some i }.become i t).Inv :=
  hI.keep rfl rfl rfl (Nat.le_refl _) (hI.each.set ht fun _ _ _ _ h =>
    h.frame (.keep rfl rfl (Nat.le_refl _) id fun hl => nomatch hfree.symm.trans hl))

/-- A task takes the serialisation lock. -/
theorem State.Inv.takeSerial (hI : s.Inv) (hfree : s.serial = none) (i n : Nat) :
    ({ s with serial := some i }.become i (.serialised n)).Inv := by
  have ht : TaskOk ({ s with serial := some i }.become i (.serialised n)) i (.serialised n) := rfl
  exact hI.keep rfl rfl rfl (Nat.le_refl _) (hI.each.set ht fun _ _ _ _ h =>
    h.frame (.keep rfl rfl (Nat.le_refl _) (fun hl => nomatch hfree.symm.trans hl) id))

/-- The slot is empty as soon as it has no sessions. -/
theorem State.Inv.slot_eq_none (hI : s.Inv) (hno : s.hasSessions = false) : s.slot = none := by
  cases hslot : s.slot with
  | none => rfl
  | some p =>
    obtain ⟨pool, hp, hne, -⟩ := hI.live p hslot
    simp only [hasSessions, hslot, hp, Bool.not_eq_false', List.isEmpty_iff] at hno
    exact absurd hno hne

/-- A new batch is dialled by the holder of the serialisation lock. -/
theorem State.Inv.dial (hI : s.Inv) (hserial : s.serial = some i) (hslot : s.slot = none)
    (wsParallel n : Nat) : (s.dial wsParallel i n).Inv := by
  refine hI.keep rfl rfl rfl (Nat.le_succ _)
    (hI.each.set (Q := TaskOk (s.dial wsParallel i n)) ?_ ?_)
  · exact ⟨hserial, hslot, Nat.lt_succ_self _, fun h => Nat.lt_irrefl _ (hI.issued _ h)⟩
  · exact fun _ _ _ _ h => h.frame (.keep rfl rfl (Nat.le_succ _) id id)

theorem map_batch_modify (l : List Pool) (p : Nat) {f : Pool → Pool}
    (hf : ∀ pool, (f pool).batch = pool.batch) :
    (l.modify p f).map Pool.batch = l.map Pool.batch := by
  refine List.ext_getElem? fun k => ?_
  rw [List.getElem?_map, List.getElem?_map, List.getElem?_modify]
  cases l[k]? with
  | none => rfl
  | some pool =>
    show some (Pool.batch (if p = k then f pool else pool)) = some pool.batch
    split
    · rw [hf]
    · rfl

theorem PoolOk.append {sessions : List MuxSession} {pool : Pool} (h : PoolOk sessions pool)
    (m : MuxSession) : PoolOk (sessions ++ [m]) pool := by
  refine ⟨fun sid hsid => ?_, h.once⟩
  obtain ⟨m', hm', hb⟩ := h.member sid hsid
  obtain ⟨hlt, -⟩ := List.getElem?_eq_some_iff.mp hm'
  exact ⟨m', (List.getElem?_append_left hlt).trans hm', hb⟩

theorem PoolOk.lt {sessions : List MuxSession} {pool : Pool} (h : PoolOk sessions pool)
    {sid : Nat} (hsid : sid ∈ pool.sessions) : sid < sessions.length := by
  obtain ⟨m, hm, -⟩ := h.member sid hsid
  exact (List.getElem?_eq_some_iff.mp hm).1

namespace State

/-- The first session of a batch goes into a new pool. -/
theorem Inv.publishNew (hI : s.Inv) {batch left : Nat}
    (ht : s.tasks[i]? = some (.publishing batch left)) : (s.publishNew i batch left).Inv := by
  obtain ⟨hdial, hlock⟩ := hI.each i _ ht
  have hbatches : (s.publishNew i batch left).poolBatches = s.poolBatches ++ [batch] := by
    simp [State.publishNew, poolBatches]
  -- the other tasks hold neither lock
  have hothers : Each (s.tasks.set i .done) (TaskOk (s.publishNew i batch left)) := by
    refine hI.each.set trivial fun j u hne _ h => h.frame ?_
    have hserial : s.serial ≠ some j := fun hj =>
      hne (Option.some.inj (hj.symm.trans hdial.serial))
    have hlocked : s.lock ≠ some j := fun hj => hne (Option.some.inj (hj.symm.trans hlock))
    refine ⟨fun hj => absurd hj hserial, fun hj => absurd hj hlocked, fun hj => absurd hj hserial,
      fun hj => absurd hj hlocked, Nat.le_refl _, fun hj => absurd hj hserial, fun p b hp => ?_⟩
    rw [hbatches, List.getElem?_append_left (List.getElem?_eq_some_iff.mp hp).1]
    exact hp
  have hlen : s.pools.length = s.poolBatches.length := (List.length_map _).symm
  refine ⟨?_, ?_, ?_, ?_, ?_⟩
  · refine hothers.spawn ⟨?_, ?_⟩
    · exact congrArg some (List.length_set).symm
    · rw [hbatches, hlen]
      exact List.getElem?_concat_length
  · intro p hp
    obtain rfl : s.pools.length = p := Option.some.inj hp
    exact ⟨_, List.getElem?_concat_length, List.cons_ne_nil _ _, rfl⟩
  · intro b hb
    rw [hbatches] at hb
    rcases List.mem_append.mp hb with hb | hb
    · exact hI.issued b hb
    · exact List.mem_singleton.mp hb ▸ hdial.issued
  · rw [hbatches]
    refine List.nodup_append.mpr ⟨hI.distinct, by simp, fun a ha b hb heq => ?_⟩
    exact hdial.fresh (List.mem_singleton.mp hb ▸ heq ▸ ha)
  · intro pool hpool
    rcases List.mem_append.mp hpool with hpool | hpool
    · exact (hI.pools pool hpool).append _
    · cases List.mem_singleton.mp hpool
      refine ⟨fun sid hsid => ?_, by simp⟩
      cases List.mem_singleton.mp hsid
      exact ⟨_, List.getElem?_concat_length, rfl⟩

/-- One more session goes into the pool in the slot. -/
theorem Inv.publishMore (hI : s.Inv) {batch p left : Nat}
    (ht : s.tasks[i]? = some (.fillPublishing batch p left)) :
    (s.publishMore i batch p left).Inv := by
  obtain ⟨hfill, hlock, hslot⟩ := hI.each i _ ht
  obtain ⟨pool₀, hp₀, hne₀, hended⟩ := hI.live p hslot
  have hbatches : (s.publishMore i batch p left).poolBatches = s.poolBatches :=
    map_batch_modify _ _ fun _ => rfl
  have hbatch : pool₀.batch = batch := by
    have := hfill.pool
    rw [poolBatches, List.getElem?_map, hp₀] at this
    exact Option.some.inj this
  refine ⟨?_, ?_, ?_, ?_, ?_⟩
  · refine hI.each.set (Q := TaskOk (s.publishMore i batch p left)) ⟨hfill.serial, ?_⟩ ?_
    · rw [hbatches]; exact hfill.pool
    · intro j u hne _ h
      refine h.frame ⟨id, fun hj => ?_, fun _ h => h, fun _ => rfl, Nat.le_refl _,
        fun _ => hbatches, fun q b hq => hbatches ▸ hq⟩
      exact absurd (Option.some.inj (hj.symm.trans hlock)) hne
  · intro q hq
    obtain rfl : p = q := Option.some.inj (hslot.symm.trans hq)
    refine ⟨{ pool₀ with sessions := pool₀.sessions ++ [s.sessions.length] }, ?_, by simp, hended⟩
    show (s.pools.modify p _)[p]? = _
    rw [List.getElem?_modify, hp₀]
    simp
  · rw [hbatches]; exact hI.issued
  · rw [hbatches]; exact hI.distinct
  · intro pool hpool
    rcases Lists.mem_modify hpool with hold | ⟨old, hold, rfl⟩
    · exact (hI.pools pool hold).append _
    · obtain rfl : pool₀ = old := Option.some.inj (hp₀.symm.trans hold)
      have hok := hI.pools pool₀ (List.mem_of_getElem? hold)
      refine ⟨fun sid hsid => ?_, ?_⟩
      · rcases List.mem_append.mp hsid with hsid | hsid
        · exact (hok.append _).member sid hsid
        · cases List.mem_singleton.mp hsid
          exact ⟨_, List.getElem?_concat_length, hbatch.symm⟩
      · refine List.nodup_append.mpr ⟨hok.once, by simp, fun a ha b hb heq => ?_⟩
        have := hok.lt ha
        have := List.mem_singleton.mp hb
        omega

/-- What a pool of the slot looks like after `retain`, which is done by the holder of its lock. -/
theorem Inv.retain (hI : s.Inv) (hlock : s.lock = some i) (keep : Nat → Bool) :
    ((s.retain keep).leave i).Inv := by
  unfold State.retain
  split
  · exact hI.leave i
  · rename_i p hslot
    split
    · exact hI.leave i
    · rename_i pool₀ hp₀
      -- both branches change one pool: fewer sessions, the same batch
      have hchange : ∀ (f : Pool → Pool) (slot : Option Nat), (∀ q, (f q).batch = q.batch) →
          (∀ q, (f q).sessions.Sublist q.sessions) → (slot = none ∨ slot = some p ∧
            (f pool₀).sessions ≠ [] ∧ (f pool₀).ended = pool₀.ended) →
          ({ s with slot := slot, pools := s.pools.modify p f }.leave i).Inv := by
        intro f slot hf hsub hcase
        have hbatches : (s.pools.modify p f).map Pool.batch = s.poolBatches :=
          map_batch_modify _ _ hf
        refine ⟨?_, ?_, ?_, ?_, ?_⟩
        · have ht : TaskOk ({ s with slot := slot, pools := s.pools.modify p f }.leave i) i .done :=
            trivial
          refine hI.each.set ht fun j u hne _ h => h.frame ?_
          have hlocked : s.lock ≠ some j := fun hj => hne (Option.some.inj (hj.symm.trans hlock))
          refine ⟨(Frame.leave (s := s) hne).serial, fun hj => absurd hj hlocked, fun _ hnone => ?_,
            fun hj => absurd hj hlocked, Nat.le_refl _, fun _ => hbatches, fun q b hq => ?_⟩
          · rw [hnone] at hslot; cases hslot
          · show ((s.pools.modify p f).map Pool.batch)[q]? = some b
            rw [hbatches]; exact hq
        · intro q hq
          rcases hcase with hnone | ⟨hsome, hne, hended⟩
          · exact absurd (hnone.symm.trans hq) nofun
          · obtain rfl : p = q := Option.some.inj (hsome.symm.trans hq)
            obtain ⟨pool₁, hp₁, -, hend⟩ := hI.live p hslot
            obtain rfl : pool₀ = pool₁ := Option.some.inj (hp₀.symm.trans hp₁)
            refine ⟨f pool₀, ?_, hne, hended.trans hend⟩
            show (s.pools.modify p f)[p]? = _
            rw [List.getElem?_modify, hp₀]
            simp
        · show ∀ b ∈ (s.pools.modify p f).map Pool.batch, b < s.batches
          rw [hbatches]; exact hI.issued
        · show ((s.pools.modify p f).map Pool.batch).Nodup
          rw [hbatches]; exact hI.distinct
        · intro pool hpool
          rcases Lists.mem_modify hpool with hold | ⟨old, hold, rfl⟩
          · exact hI.pools pool hold
          · have hok := hI.pools old (List.mem_of_getElem? hold)
            refine ⟨fun sid hsid => ?_, (hsub old).nodup hok.once⟩
            rw [hf]
            exact hok.member sid ((hsub old).subset hsid)
      split
      · exact hchange (fun q => { q with sessions := [], ended := true }) none (fun _ => rfl)
          (fun _ => List.nil_sublist _) (.inl rfl)
      · rename_i hne
        exact hchange (fun q => { q with sessions := q.sessions.filter keep }) s.slot (fun _ => rfl)
          (fun _ => List.filter_sublist) (.inr ⟨hslot, hne, rfl⟩)

theorem Inv.markStopped (hI : s.Inv) (sid : Nat) : (s.markStopped sid).Inv where
  each := hI.each.mono fun j u _ h => h.frame (.keep rfl rfl (Nat.le_refl _) id id)
  live := hI.live
  issued := hI.issued
  distinct := hI.distinct
  pools pool hpool := by
    refine ⟨fun id hid => ?_, (hI.pools pool hpool).once⟩
    obtain ⟨m, hm, hb⟩ := (hI.pools pool hpool).member id hid
    show ∃ m', (s.sessions.modify sid _)[id]? = some m' ∧ _
    rw [List.getElem?_modify, hm]
    refine ⟨_, rfl, ?_⟩
    split
    · exact hb
    · exact hb

/-- The shutdown branch empties the slot, while nobody has its lock. -/
theorem Inv.clear (hI : s.Inv) (hfree : s.lock = none) (i : Nat) :
    ({ s with slot := none }.leave i).Inv where
  each := by
    have ht : TaskOk ({ s with slot := none }.leave i) i .done := trivial
    refine hI.each.set ht fun j u hne _ h =>
      h.frame ⟨(Frame.leave (s := s) hne).serial, fun hj => ?_,
      fun _ _ => rfl, fun hj => ?_, Nat.le_refl _, fun _ => rfl, fun _ _ h => h⟩
    · exact nomatch hfree.symm.trans hj
    · exact nomatch hfree.symm.trans hj
  live _ h := nomatch h
  issued := hI.issued
  distinct := hI.distinct
  pools := hI.pools

/-- **Every step keeps the invariant.** -/
theorem Inv.move {wsParallel : Nat} (hI : s.Inv) (h : Move wsParallel s a s') : s'.Inv := by
  cases h with
  | connect | prune => exact hI.spawn fun _ _ => trivial
  | stop sid => exact hI.markStopped sid
  | finish sid => exact (hI.markStopped sid).spawn fun _ _ => trivial
  | shutdown =>
    have hflag : { s with shutdown := true }.Inv := hI.keep rfl rfl rfl (Nat.le_refl _)
      (hI.each.mono fun j u _ h => h.frame (.keep rfl rfl (Nat.le_refl _) id id))
    exact hflag.spawn fun _ _ => trivial
  | look i => exact hI
  | leave i c t ht => exact hI.leave i
  | serial i n ht hfree => exact hI.takeSerial hfree i n
  | dial i n ht hno => exact hI.dial (hI.each i _ ht) (hI.slot_eq_none hno) wsParallel n
  | redial i n batch ht =>
    have hdial : s.Dialing i batch := hI.each i _ ht
    exact hI.dial hdial.serial hdial.empty wsParallel n
  | failed i batch left n ht =>
    exact hI.become i (Dialing.frame (hI.each i _ ht) (.keep rfl rfl (Nat.le_refl _) id id))
  | ready i batch left n ht =>
    exact hI.become i (Dialing.frame (hI.each i _ ht) (.keep rfl rfl (Nat.le_refl _) id id))
  | locked i batch left ht hfree =>
    refine hI.takeLock hfree i ⟨Dialing.frame (hI.each i _ ht) ?_, rfl⟩
    exact .keep rfl rfl (Nat.le_refl _) id fun _ => rfl
  | published i batch left ht => exact hI.publishNew ht
  | fillFailed i batch p left ht =>
    exact hI.become i (Filling.frame (hI.each i _ ht) (.keep rfl rfl (Nat.le_refl _) id id))
  | fillReady i batch p left ht =>
    exact hI.become i (Filling.frame (hI.each i _ ht) (.keep rfl rfl (Nat.le_refl _) id id))
  | fillLocked i batch p left ht hfree hcur =>
    refine hI.takeLock hfree i ⟨Filling.frame (hI.each i _ ht) ?_, rfl, hcur⟩
    exact .keep rfl rfl (Nat.le_refl _) id fun _ => rfl
  | more i batch p left ht => exact hI.publishMore ht
  | removeLocked i sid ht hfree => exact hI.takeLock hfree i rfl
  | removed i sid ht => exact hI.retain (hI.each i _ ht) _
  | pruneLocked i ht hfree => exact hI.takeLock hfree i rfl
  | pruned i ht => exact hI.retain (hI.each i _ ht) _
  | cleared i ht hfree => exact hI.clear hfree i

/-! ## 4. The slot -/

/-- What is true of the slot between two steps. -/
structure Sound (s : State) : Prop where
  /-- when its lock is free, the slot is empty or has a pool with a session -/
  live : s.lock = none → ∀ p, s.slot = some p → ∃ pool, s.pools[p]? = some pool ∧ pool.sessions ≠ []
  /-- a session is in one pool at most, once -/
  one : ∀ (p q : Nat) (pool pool' : Pool) (sid : Nat), s.pools[p]? = some pool →
    s.pools[q]? = some pool' → sid ∈ pool.sessions → sid ∈ pool'.sessions → p = q
  once : ∀ pool ∈ s.pools, pool.sessions.Nodup
  /-- and that is the pool made for the batch of its connection -/
  batch : ∀ pool ∈ s.pools, ∀ sid ∈ pool.sessions, ∃ m, s.sessions[sid]? = some m ∧
    m.batch = pool.batch

end State

/-- What is true of a step. -/
structure Orderly (s : State) (a : Action) (s' : State) : Prop where
  /-- a session that is new in a pool was published into the pool in the slot: a new one, or the one
  that was there, and that was not marked -/
  published : ∀ (p : Nat) (pool' : Pool) (sid : Nat), s'.pools[p]? = some pool' →
    sid ∈ pool'.sessions → (∃ pool, s.pools[p]? = some pool ∧ sid ∈ pool.sessions) ∨
      s'.slot = some p ∧ pool'.ended = false ∧
        (s.pools[p]? = none ∨
          s.slot = some p ∧ ∃ pool, s.pools[p]? = some pool ∧ pool.ended = false)
  /-- no pool takes the place of another -/
  overwritten : ∀ p q, s.slot = some p → s'.slot = some q → p = q
  /-- a session leaves the slot by its own removal, or stopped and pruned, or by the shutdown -/
  dropped : ∀ (p : Nat) (pool : Pool) (sid : Nat), s.slot = some p → s.pools[p]? = some pool →
    sid ∈ pool.sessions →
    (s'.slot = some p ∧ ∃ pool', s'.pools[p]? = some pool' ∧ sid ∈ pool'.sessions) ∨
    (∃ i : Nat, a = .act i .go ∧ s.tasks[i]? = some (.removeLocked sid)) ∨
    (∃ i : Nat, a = .act i .go ∧ s.tasks[i]? = some .pruneLocked ∧
      ∃ m, s.sessions[sid]? = some m ∧ m.stopped = true) ∨
    (∃ i : Nat, a = .act i .lock ∧ s.tasks[i]? = some .clearing)

theorem State.Inv.sound (hI : s.Inv) : s.Sound where
  live _ p hp := by
    obtain ⟨pool, hpool, hne, -⟩ := hI.live p hp
    exact ⟨pool, hpool, hne⟩
  one p q pool pool' sid hp hq hsid hsid' := by
    -- both pools have the batch of the session
    obtain ⟨m, hm, hb⟩ := (hI.pools pool (List.mem_of_getElem? hp)).member sid hsid
    obtain ⟨m', hm', hb'⟩ := (hI.pools pool' (List.mem_of_getElem? hq)).member sid hsid'
    obtain rfl : m = m' := Option.some.inj (hm.symm.trans hm')
    have hp' : s.poolBatches[p]? = some pool.batch := by
      rw [State.poolBatches, List.getElem?_map, hp]
      rfl
    have hq' : s.poolBatches[q]? = some pool.batch := by
      rw [State.poolBatches, List.getElem?_map, hq, ← hb, hb']; rfl
    exact (List.getElem?_inj (List.getElem?_eq_some_iff.mp hp').1 hI.distinct).mp
      (hp'.trans hq'.symm)
  once pool hpool := (hI.pools pool hpool).once
  batch pool hpool := (hI.pools pool hpool).member

/-- A step that changes neither the slot nor the pools is orderly. -/
theorem Orderly.keep (hslot : s'.slot = s.slot) (hpools : s'.pools = s.pools) : Orderly s a s' where
  published _ pool' _ hp hsid := .inl ⟨pool', hpools ▸ hp, hsid⟩
  overwritten _ _ hp hq := Option.some.inj (hp.symm.trans (hslot ▸ hq))
  dropped _ pool _ hp hpool hsid := .inl ⟨hslot.trans hp, pool, hpools ▸ hpool, hsid⟩

/-- `retain` keeps the slot and the sessions that it is told to keep, and adds none. -/
theorem State.retain_spec (s : State) (keep : Nat → Bool) :
    (∀ (p : Nat) (pool : Pool) (sid : Nat), s.slot = some p → s.pools[p]? = some pool →
      sid ∈ pool.sessions → keep sid = true → (s.retain keep).slot = some p ∧
        ∃ pool', (s.retain keep).pools[p]? = some pool' ∧ sid ∈ pool'.sessions) ∧
    (∀ (p : Nat) (pool' : Pool) (sid : Nat), (s.retain keep).pools[p]? = some pool' →
      sid ∈ pool'.sessions → ∃ pool, s.pools[p]? = some pool ∧ sid ∈ pool.sessions) ∧
    (∀ p q, s.slot = some p → (s.retain keep).slot = some q → p = q) := by
  have hsame : ∀ p q, s.slot = some p → s.slot = some q → p = q :=
    fun p q hp hq => Option.some.inj (hp.symm.trans hq)
  unfold State.retain
  split
  · rename_i hnone
    refine ⟨fun p pool sid hp => ?_, fun p pool' sid hp hsid => ⟨pool', hp, hsid⟩, hsame⟩
    exact absurd (hnone.symm.trans hp) nofun
  · rename_i p hslot
    split
    · rename_i hnone
      refine ⟨fun q pool sid hq hpool => ?_, fun p pool' sid hp hsid => ⟨pool', hp, hsid⟩, hsame⟩
      rw [← hsame p q hslot hq, hnone] at hpool
      cases hpool
    · rename_i pool₀ hp₀
      -- both branches shorten the list of one pool
      have hshort : ∀ f : Pool → Pool, (∀ q, (f q).sessions.Sublist q.sessions) →
          ∀ (q : Nat) (pool' : Pool) (sid : Nat), (s.pools.modify p f)[q]? = some pool' →
            sid ∈ pool'.sessions → ∃ pool, s.pools[q]? = some pool ∧ sid ∈ pool.sessions := by
        intro f hsub q pool' sid hq hsid
        rcases Lists.getElem?_of_modify hq with ⟨-, old, hold, rfl⟩ | ⟨-, hold⟩
        · exact ⟨old, hold, (hsub old).subset hsid⟩
        · exact ⟨pool', hold, hsid⟩
      split
      · rename_i hempty
        refine ⟨fun q pool sid hq hpool hsid hkeep => ?_,
          hshort _ fun _ => List.nil_sublist _, fun _ _ _ h => (nomatch h)⟩
        obtain rfl := hsame p q hslot hq
        obtain rfl : pool₀ = pool := Option.some.inj (hp₀.symm.trans hpool)
        exact absurd (List.mem_filter.mpr ⟨hsid, hkeep⟩) (by rw [hempty]; exact List.not_mem_nil)
      · refine ⟨fun q pool sid hq hpool hsid hkeep => ⟨hq, ?_⟩,
          hshort _ fun _ => List.filter_sublist, hsame⟩
        obtain rfl := hsame p q hslot hq
        refine ⟨{ pool with sessions := pool.sessions.filter keep }, ?_,
          List.mem_filter.mpr ⟨hsid, hkeep⟩⟩
        show (s.pools.modify p _)[p]? = _
        rw [List.getElem?_modify, hpool]
        simp

/-- A critical section that calls `retain` is orderly when what it drops may be dropped. -/
theorem Orderly.retain (i : Nat) (keep : Nat → Bool)
    (hdrop : ∀ (p : Nat) (pool : Pool) (sid : Nat), s.pools[p]? = some pool → sid ∈ pool.sessions →
      keep sid = false →
      (∃ i : Nat, a = .act i .go ∧ s.tasks[i]? = some (.removeLocked sid)) ∨
      (∃ i : Nat, a = .act i .go ∧ s.tasks[i]? = some .pruneLocked ∧
        ∃ m, s.sessions[sid]? = some m ∧ m.stopped = true)) :
    Orderly s a ((s.retain keep).leave i) := by
  obtain ⟨hkeep, hold, hslot⟩ := s.retain_spec keep
  refine ⟨fun p pool' sid hp hsid => .inl (hold p pool' sid hp hsid), hslot, ?_⟩
  intro p pool sid hp hpool hsid
  cases hk : keep sid with
  | true => exact .inl (hkeep p pool sid hp hpool hsid hk)
  | false =>
    rcases hdrop p pool sid hpool hsid hk with h | h
    · exact .inr (.inl h)
    · exact .inr (.inr (.inl h))

theorem State.Inv.orderly {wsParallel : Nat} (hI : s.Inv) (h : Move wsParallel s a s') :
    Orderly s a s' := by
  cases h with
  | published i batch left ht =>
    -- the slot is empty, so nothing is overwritten or dropped
    obtain ⟨hdial, -⟩ := hI.each i _ ht
    refine ⟨fun p pool' sid hp hsid => ?_, fun p q hp => ?_, fun p pool sid hp => ?_⟩
    · replace hp : (s.pools ++ [⟨batch, [s.sessions.length], false⟩])[p]? = some pool' := hp
      rw [List.getElem?_append] at hp
      split at hp
      · exact .inl ⟨pool', hp, hsid⟩
      · rename_i hlt
        obtain ⟨h0, hpool'⟩ := List.getElem?_eq_some_iff.mp hp
        rw [List.getElem_singleton] at hpool'
        rw [List.length_singleton] at h0
        obtain rfl : s.pools.length = p := by omega
        exact .inr ⟨rfl, hpool' ▸ rfl, .inl (List.getElem?_eq_none (Nat.le_refl _))⟩
    · exact absurd (hdial.empty.symm.trans hp) nofun
    · exact absurd (hdial.empty.symm.trans hp) nofun
  | more i batch p left ht =>
    obtain ⟨-, -, hslot⟩ := hI.each i _ ht
    obtain ⟨pool₀, hp₀, -, hended⟩ := hI.live p hslot
    have hget : ∀ q : Nat, (s.publishMore i batch p left).pools[q]? = (s.pools[q]?).map fun pool =>
        if p = q then { pool with sessions := pool.sessions ++ [s.sessions.length] } else pool :=
      fun q => List.getElem?_modify _ _ _ _
    refine ⟨fun q pool' sid hq hsid => ?_, fun q r hq hr => ?_, fun q pool sid hq hpool hsid => ?_⟩
    · rw [hget] at hq
      obtain ⟨old, hold, hpool'⟩ := Option.map_eq_some_iff.mp hq
      split at hpool'
      · rename_i hpq
        subst hpq hpool'
        rcases List.mem_append.mp hsid with hsid | -
        · exact .inl ⟨old, hold, hsid⟩
        · obtain rfl : pool₀ = old := Option.some.inj (hp₀.symm.trans hold)
          exact .inr ⟨hslot, hended, .inr ⟨hslot, pool₀, hp₀, hended⟩⟩
      · subst hpool'
        exact .inl ⟨old, hold, hsid⟩
    · exact Option.some.inj (hq.symm.trans hr)
    · refine .inl ⟨hq, _, (hget q).trans (by rw [hpool]; rfl), ?_⟩
      split
      · exact List.mem_append_left _ hsid
      · exact hsid
  | removed i sid ht =>
    refine .retain i _ fun p pool id hpool hid hkeep => .inl ⟨i, rfl, ?_⟩
    obtain rfl : id = sid := by simpa using hkeep
    exact ht
  | pruned i ht =>
    refine .retain i _ fun p pool id hpool hid hkeep => .inr ⟨i, rfl, ht, ?_⟩
    obtain ⟨m, hm, -⟩ := (hI.pools pool (List.mem_of_getElem? hpool)).member id hid
    refine ⟨m, hm, ?_⟩
    simpa [State.isRunning, hm] using hkeep
  | cleared i ht hfree =>
    exact ⟨fun _ pool' _ hp hsid => .inl ⟨pool', hp, hsid⟩, fun _ _ _ h => (nomatch h),
      fun _ _ _ _ _ _ => .inr (.inr (.inr ⟨i, rfl, ht⟩))⟩
  | _ => exact .keep rfl rfl

/-- **The slot of the mux pool.**  In every reachable state it is empty or has a pool with a
session, and a session is in at most one pool, the one made for its batch; and no step publishes
into a pool that is not in the slot or is marked, replaces a pool, or drops a session that is
neither stopped nor named. -/
theorem pool_slot_invariant (wsParallel : Nat) {s : State}
    (h : Reachable (State.step wsParallel) State.start s) :
    s.Sound ∧ ∀ a s', s.step wsParallel a = some s' → Orderly s a s' := by
  have hstart : State.start.Inv :=
    ⟨.nil, nofun, nofun, List.nodup_nil, nofun⟩
  have hI : s.Inv := Reachable.invariant (I := State.Inv) h hstart
    fun _ _ _ hI hs => hI.move (move_of_step hs)
  exact ⟨hI.sound, fun a s' hs => hI.orderly (move_of_step hs)⟩

/-- Two connections of one attempt are published, the first session ends while the fill task is
about to publish the third, and the pool stays in the slot. -/
def fillRun : List Action :=
  [.connect 4, .act 0 .look, .act 0 .serial, .act 0 .look, .act 0 .ready, .act 0 .lock, .act 0 .go,
    .act 1 .ready, .act 1 .lock, .act 1 .go, .act 1 .ready, .finish 0, .act 2 .lock, .act 2 .go,
    .act 1 .lock, .act 1 .go]

theorem pool_slot_invariant_fill :
    (run (State.step 3) State.start fillRun).map (fun s => (s.slot, s.pools, s.lock)) =
      some (some 0, [⟨0, [1, 2], false⟩], none) ∧
    ∀ s, run (State.step 3) State.start fillRun = some s →
      s.Sound ∧ ∀ a s', s.step 3 a = some s' → Orderly s a s' :=
  ⟨by decide, fun _ hs => pool_slot_invariant 3 (Reachable.of_run hs)⟩

end BibaVpn.Client.MuxPool
