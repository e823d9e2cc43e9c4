/-
# The native client slot (Android and iOS)

Both native libraries keep the embedded client in one process-wide slot behind a mutex
(`bibavpn-jni`, `bibavpn-ffi`).  A start fills the slot, releases the mutex, and waits up to 20 s
for the client to report its SOCKS port; when that fails it takes the mutex again and stops the
client IN THE SLOT.  By then a stop and another start may have put a different client there.

* §1 is the state: the slot, the client threads, the shutdown signals with their origin, and the
  calls, each between two acquisitions of the mutex.  A critical section is one step: while it waits
  for a thread nobody else can enter, and whether the thread returns in time is a parameter of the
  step;
* §2 is what a start that gives up signals: its own client, exactly when the slot has no other live
  client at that moment;
* §3 is what holds of the Android slot in every run: one thread that is not joined, and a hook that
  is cleared only after its client was joined;
* §4 puts the two together, with the run in which a start stops the client of another.
-/
import BibaVpn.Lib.Lts

namespace BibaVpn.Apps.Native

open Lts

/-! ## 1. Slot, clients and calls -/

/-- The two libraries. -/
inductive Port
  | jni
  | ffi
  deriving DecidableEq

/-- A client thread: the start that spawned it, whether its body has returned, and whether it was
joined. -/
structure Client where
  spawner : Nat
  finished : Bool
  joined : Bool
  deriving DecidableEq

/-- `ClientSlot`, by the index of the client.  `NativeState` of the iOS library is the first
case. -/
inductive Slot
  | live (c : Nat)
  | stopping (c : Nat)
  deriving DecidableEq

/-- Who sent a shutdown signal: a stop, a start that found a finished client in the slot, or a start
that gave up. -/
inductive Origin
  | stop
  | prepare
  | gaveUp (i : Nat)
  deriving DecidableEq

/-- A start, between two acquisitions of the mutex. -/
inductive Call
  | starting
  /-- `ready_rx.recv_timeout(..)`, for the client it spawned -/
  | waiting (c : Nat)
  /-- the channel timed out or was disconnected -/
  | givingUp (c : Nat)
  | done
  deriving DecidableEq

/-- `hook` is the client that the socket protection hook was set for, and `cleared` records each
time it was cleared: for which client, and whether that one had been joined by then. -/
structure State where
  slot : Option Slot
  clients : List Client
  hook : Option Nat
  cleared : List (Nat × Bool)
  signals : List (Nat × Origin)
  calls : List Call

def State.init : State := ⟨none, [], none, [], [], []⟩

inductive Action
  /-- a thread calls start -/
  | start
  /-- a thread calls stop, and the client thread returns within the timeout or not -/
  | stop (returns : Bool)
  /-- the body of a client thread returns -/
  | finish (c : Nat)
  /-- the first critical section of a start -/
  | prepare (i : Nat) (returns configOk : Bool)
  /-- the client reports its port -/
  | ready (i : Nat)
  /-- the wait for it times out, or its channel is disconnected -/
  | giveUp (i : Nat)
  /-- the second critical section of a start -/
  | abort (i : Nat) (returns : Bool)
  deriving DecidableEq

def State.isFinished (s : State) (c : Nat) : Bool :=
  match s.clients[c]? with
  | some k => k.finished
  | none => true

/-- The body of the thread returns. -/
def Client.finish (k : Client) : Client := { k with finished := true }

/-- `thread.join()`, after the body has returned. -/
def Client.join (k : Client) : Client := { k with finished := true, joined := true }

namespace State

def isJoined (s : State) (c : Nat) : Bool := (s.clients[c]?).any Client.joined

/-- The client is taken out of the slot and joined. -/
def join (s : State) (c : Nat) : State :=
  { s with slot := none, clients := s.clients.modify c Client.join }

/-- `clear_hook()`. -/
def clearHook (s : State) : State :=
  { s with hook := none, cleared := s.cleared ++ s.hook.toList.map fun c => (c, s.isJoined c) }

/-- The slot is emptied: its client is joined, then the hook is cleared. -/
def joinSlot (s : State) (c : Nat) : State := (s.join c).clearHook

/-- `ClientSlotManager::stop`, behind the signal: `wait_join` of the client `c`. -/
def waitJoin (s : State) (c : Nat) (returns : Bool) : State :=
  if returns then s.joinSlot c else { s with slot := some (.stopping c) }

def signal (s : State) (c : Nat) (o : Origin) : State :=
  { s with signals := s.signals ++ [(c, o)] }

/-- The critical section that stops the client in the slot: `ClientSlotManager::stop`, or
`stop_client_bounded` of the state taken out of the slot, which detaches a thread that does not
return. -/
def stopSlot (port : Port) (s : State) (o : Origin) (returns : Bool) : State :=
  match s.slot with
  | none => s
  | some (.live c) =>
    match port with
    | .jni => (s.signal c o).waitJoin c returns
    | .ffi =>
      if returns then (s.signal c o).joinSlot c else { s.signal c o with slot := none }.clearHook
  | some (.stopping c) => s.waitJoin c returns

/-- The first part of a start: the slot is empty afterwards, or the start fails. -/
def prepareStart (port : Port) (s : State) (returns : Bool) : Except String State :=
  match s.slot with
  | none => .ok s
  | some (.live c) =>
    if s.isFinished c then
      match port with
      | .jni => .ok (s.joinSlot c)
      | .ffi => .ok ((s.signal c .prepare).joinSlot c)
    else .error "already running"
  | some (.stopping c) => if returns then .ok (s.joinSlot c) else .error "client stopping"

def become (s : State) (i : Nat) (call : Call) : State := { s with calls := s.calls.set i call }

/-- `install_live`: start `i` spawns its client, and the hook is set for it. -/
def spawnClient (s : State) (i : Nat) : State :=
  { s with
    slot := some (.live s.clients.length)
    clients := s.clients ++ [⟨i, false, false⟩]
    hook := some s.clients.length
    calls := s.calls.set i (.waiting s.clients.length) }

def step (port : Port) (s : State) : Action → Option State
  | .start => some { s with calls := s.calls ++ [.starting] }
  | .stop returns => some (s.stopSlot port .stop returns)
  | .finish c => some { s with clients := s.clients.modify c Client.finish }
  | .prepare i returns configOk =>
    match s.calls[i]? with
    | some .starting =>
      match s.prepareStart port returns with
      | .error _ => some (s.become i .done)
      | .ok s => if configOk then some (s.spawnClient i) else some (s.become i .done)
    | _ => none
  | .ready i =>
    match s.calls[i]? with
    | some (.waiting _) => some (s.become i .done)
    | _ => none
  | .giveUp i =>
    match s.calls[i]? with
    | some (.waiting c) => some (s.become i (.givingUp c))
    | _ => none
  | .abort i returns =>
    match s.calls[i]? with
    | some (.givingUp _) => some ((s.stopSlot port (.gaveUp i) returns).become i .done)
    | _ => none

/-! ## 2. Whom a start that gives up signals -/

/-- The start that spawned client `c`. -/
def spawner (s : State) (c : Nat) : Option Nat := (s.clients[c]?).map (·.spawner)

/-- The slot has no live client of another start. -/
def Own (s : State) (i : Nat) : Prop := ∀ c, s.slot = some (.live c) → s.spawner c = some i

end State

/-- The second critical section of a start finds no live client of another start. -/
def GivesUpOwn (s : State) : Action → Prop
  | .abort i _ => s.Own i
  | _ => True

/-- Every client that was signalled by a start that gave up is its own. -/
def State.Faithful (s : State) :
    Prop := ∀ c i, (c, Origin.gaveUp i) ∈ s.signals → s.spawner c = some i

theorem spawner_modify (s : State) (c d : Nat) {f : Client → Client}
    (hf : ∀ k, (f k).spawner = k.spawner) :
    ((s.clients.modify c f)[d]?).map (·.spawner) = s.spawner d := by
  rw [State.spawner, List.getElem?_modify]
  cases s.clients[d]? with
  | none => rfl
  | some k =>
    show some (Client.spawner (if c = d then f k else k)) = some k.spawner
    split
    · rw [hf]
    · rfl

@[simp] theorem State.spawner_joinSlot (s : State) (c d : Nat) :
    (s.joinSlot c).spawner d = s.spawner d := spawner_modify s c d fun _ => rfl

@[simp] theorem State.spawner_waitJoin (s : State) (c d : Nat) (returns : Bool) :
    (s.waitJoin c returns).spawner d = s.spawner d := by
  unfold State.waitJoin
  split
  · exact s.spawner_joinSlot c d
  · rfl

@[simp] theorem State.signals_waitJoin (s : State) (c : Nat) (returns : Bool) :
    (s.waitJoin c returns).signals = s.signals := by
  unfold State.waitJoin
  split <;> rfl

/-- **What stopping the slot does to signals and spawners**: a live client gets one signal. -/
theorem State.stopSlot_spec (port : Port) (s : State) (o : Origin) (returns : Bool) :
    (∀ d, (s.stopSlot port o returns).spawner d = s.spawner d) ∧
    (s.stopSlot port o returns).signals =
      s.signals ++ (match s.slot with
        | some (.live c) => [(c, o)]
        | _ => []) := by
  unfold State.stopSlot
  split
  · rename_i hnone
    exact ⟨fun _ => rfl, by rw [hnone]; exact (List.append_nil _).symm⟩
  · rename_i c hlive
    rw [hlive]
    cases port with
    | jni => exact ⟨fun d => State.spawner_waitJoin _ c d returns,
        State.signals_waitJoin _ c returns⟩
    | ffi =>
      simp only
      split
      · exact ⟨fun d => State.spawner_joinSlot _ c d, rfl⟩
      · exact ⟨fun _ => rfl, rfl⟩
  · rename_i c hstop
    rw [hstop]
    exact ⟨fun d => s.spawner_waitJoin c d returns,
      (s.signals_waitJoin c returns).trans (List.append_nil _).symm⟩

/-- The clients that a step signals. -/
def signalled (s s' : State) : List (Nat × Origin) := s'.signals.drop s.signals.length

variable {s s' : State} {returns : Bool} {c : Nat}

/-- **A start that gives up signals its own client only, exactly when the slot has no live client of
another start.** -/
theorem abort_own_iff (port : Port) {i : Nat} (h : s.step port (.abort i returns) = some s') :
    (∀ x ∈ signalled s s', s.spawner x.1 = some i) ↔ s.Own i := by
  have hsig : signalled s s' = match s.slot with
      | some (.live c) => [(c, .gaveUp i)]
      | _ => [] := by
    simp only [State.step] at h
    split at h
    · cases h
      show (s.stopSlot port (.gaveUp i) returns).signals.drop _ = _
      rw [(s.stopSlot_spec port (.gaveUp i) returns).2, List.drop_left]
    · cases h
  rw [hsig, State.Own]
  cases s.slot with
  | none => simp
  | some slot =>
    cases slot with
    | live c => simp
    | stopping c => simp

namespace State

theorem Faithful.congr (h : s.Faithful) (hsig : s'.signals = s.signals)
    (hspawn : ∀ d i, s.spawner d = some i → s'.spawner d = some i) : s'.Faithful :=
  fun c i hc => hspawn c i (h c i (hsig ▸ hc))

/-- One more signal, which is not of a start that gives up on another's client. -/
theorem Faithful.signal (h : s.Faithful) {o : Origin}
    (ho : ∀ i, o = .gaveUp i → s.spawner c = some i) : (s.signal c o).Faithful := by
  intro d i hd
  rcases List.mem_append.mp hd with hd | hd
  · exact h d i hd
  · cases List.mem_singleton.mp hd
    exact ho i rfl

theorem Faithful.stopSlot {port : Port} (h : s.Faithful) {o : Origin}
    (ho : ∀ i, o = .gaveUp i → s.Own i) : (s.stopSlot port o returns).Faithful := by
  obtain ⟨hspawn, hsig⟩ := s.stopSlot_spec port o returns
  intro d i hd
  rw [hsig] at hd
  rw [hspawn]
  rcases List.mem_append.mp hd with hd | hd
  · exact h d i hd
  · split at hd
    · rename_i c hlive
      cases List.mem_singleton.mp hd
      exact ho i rfl _ hlive
    · cases hd

/-- The first part of a start keeps the spawners, and signals a finished client at most. -/
theorem Faithful.prepareStart {port : Port} {t : State} (h : s.Faithful)
    (hp : s.prepareStart port returns = .ok t) : t.Faithful := by
  have hjoin : ∀ {s : State} (c : Nat), s.Faithful → (s.joinSlot c).Faithful := fun {s} c hs =>
    hs.congr rfl fun d i hd => (s.spawner_joinSlot c d).trans hd
  unfold State.prepareStart at hp
  split at hp
  · cases hp; exact h
  · split at hp
    · cases port with
      | jni => cases hp; exact hjoin _ h
      | ffi => cases hp; exact hjoin _ (h.signal fun _ ho => nomatch ho)
    · cases hp
  · split at hp
    · cases hp; exact hjoin _ h
    · cases hp

theorem spawner_append (s : State) (k : Client) {d i : Nat} (h : s.spawner d = some i) :
    ((s.clients ++ [k])[d]?).map (·.spawner) = some i := by
  obtain ⟨k', hk, rfl⟩ := Option.map_eq_some_iff.mp h
  rw [List.getElem?_append_left (List.getElem?_eq_some_iff.mp hk).1, hk]
  rfl

/-- A step whose starts give up on their own clients keeps the signals faithful. -/
theorem Faithful.step {port : Port} {a : Action} (hF : s.Faithful) (hown : GivesUpOwn s a)
    (h : s.step port a = some s') : s'.Faithful := by
  cases a with
  | start => cases h; exact hF.congr rfl fun _ _ h => h
  | stop returns => cases h; exact hF.stopSlot fun _ ho => nomatch ho
  | finish c =>
    cases h
    exact hF.congr rfl fun d i hd =>
      (spawner_modify s c d (f := Client.finish) fun _ => rfl).trans hd
  | prepare i returns configOk =>
    simp only [State.step] at h
    split at h
    · split at h
      · cases h; exact hF.congr rfl fun _ _ h => h
      · rename_i t hp
        have ht := hF.prepareStart hp
        split at h
        · cases h
          exact ht.congr rfl fun d j hd => t.spawner_append _ hd
        · cases h; exact ht.congr rfl fun _ _ h => h
    · cases h
  | ready i =>
    simp only [State.step] at h
    split at h
    · cases h; exact hF.congr rfl fun _ _ h => h
    · cases h
  | giveUp i =>
    simp only [State.step] at h
    split at h
    · cases h; exact hF.congr rfl fun _ _ h => h
    · cases h
  | abort i returns =>
    simp only [State.step] at h
    split at h
    · cases h
      have hstop : (s.stopSlot port (.gaveUp i) returns).Faithful :=
        hF.stopSlot fun j hj => by cases hj; exact hown
      exact hstop.congr rfl fun _ _ h => h
    · cases h

/-! ## 3. The Android slot in every run -/

/-- The slot has client `c`. -/
def Has (s : State) (c : Nat) : Prop := s.slot = some (.live c) ∨ s.slot = some (.stopping c)

theorem Has.unique {d : Nat} (hc : s.Has c) (hd : s.Has d) : c = d := by
  rcases hc with hc | hc <;> rcases hd with hd | hd <;> rw [hc] at hd <;> cases hd <;> rfl

/-- Client `c` was joined. -/
def Joined (s : State) (c : Nat) : Prop := ∃ k, s.clients[c]? = some k ∧ k.joined = true

/-- **The invariant of the Android slot**: a client that is not joined is in the slot, and so is the
one that the hook is set for. -/
structure JniInv (s : State) : Prop where
  spawned : ∀ c, s.Has c → ∃ k, s.clients[c]? = some k
  unjoined : ∀ (c : Nat) (k : Client), s.clients[c]? = some k → k.joined = false → s.Has c
  hook : ∀ c, s.hook = some c → s.Has c
  /-- no hook was cleared before its client was joined -/
  cleared : ∀ x ∈ s.cleared, x.2 = true

/-- What a step of the Android library does to the hook: it is left, or cleared behind the join. -/
def HookOk (s s' : State) : Prop :=
  ∀ c, s.hook = some c → s'.hook = some c ∨ s'.Joined c ∧ (c, true) ∈ s'.cleared

theorem HookOk.keep (hhook : s'.hook = s.hook) : s.HookOk s' :=
  fun _ hc => .inl (hhook.trans hc)

theorem JniInv.keep (hI : s.JniInv) (hslot : s'.slot = s.slot) (hhook : s'.hook = s.hook)
    (hclients : s'.clients = s.clients) (hcleared : s'.cleared = s.cleared) : s'.JniInv := by
  refine ⟨?_, ?_, ?_, hcleared ▸ hI.cleared⟩
  · unfold Has; rw [hslot, hclients]; exact hI.spawned
  · unfold Has; rw [hslot, hclients]; exact hI.unjoined
  · unfold Has; rw [hslot, hhook]; exact hI.hook

/-- Joining the client in the slot. -/
theorem JniInv.joinSlot (hI : s.JniInv) (hc : s.Has c) :
    (s.joinSlot c).JniInv ∧ s.HookOk (s.joinSlot c) := by
  obtain ⟨k, hk⟩ := hI.spawned c hc
  have hget : ∀ d : Nat, (s.joinSlot c).clients[d]? = (s.clients[d]?).map fun k =>
      if c = d then k.join else k := fun d => List.getElem?_modify _ _ _ _
  have hk' : (s.joinSlot c).clients[c]? = some k.join := by
    rw [hget, hk]
    simp
  -- the hook is cleared behind the join, so its client is found joined
  have hcleared : (s.joinSlot c).cleared = s.cleared ++ s.hook.toList.map fun d => (d, true) := by
    show s.cleared ++ s.hook.toList.map (fun d => (d, (s.join c).isJoined d)) = _
    cases hhook : s.hook with
    | none => rfl
    | some d =>
      obtain rfl := hc.unique (hI.hook d hhook)
      have hj : (s.join c).isJoined c = true := by
        rw [isJoined, show (s.join c).clients[c]? = _ from hk']
        rfl
      simp [hj]
  refine ⟨⟨?_, ?_, nofun, ?_⟩, fun d hd => .inr ⟨?_, ?_⟩⟩
  · rintro d (hd | hd) <;> cases hd
  · intro d k' hk' hjoined
    rw [hget] at hk'
    obtain ⟨k'', hk'', rfl⟩ := Option.map_eq_some_iff.mp hk'
    split at hjoined
    · cases hjoined
    · rename_i hne
      exact absurd (hc.unique (hI.unjoined d k'' hk'' hjoined)) hne
  · intro x hx
    rw [hcleared] at hx
    rcases List.mem_append.mp hx with hx | hx
    · exact hI.cleared x hx
    · obtain ⟨d, -, rfl⟩ := List.mem_map.mp hx
      rfl
  · obtain rfl := hc.unique (hI.hook d hd)
    exact ⟨k.join, hk', rfl⟩
  · rw [hcleared, hd]
    exact List.mem_append_right _ List.mem_cons_self

theorem JniInv.waitJoin (hI : s.JniInv) (hc : s.Has c) (returns : Bool) :
    (s.waitJoin c returns).JniInv ∧ s.HookOk (s.waitJoin c returns) := by
  unfold State.waitJoin
  split
  · exact hI.joinSlot hc
  · refine ⟨⟨?_, ?_, ?_, hI.cleared⟩, fun d hd => .inl hd⟩
    · rintro d (hd | hd)
      · cases hd
      · cases hd; exact hI.spawned c hc
    · intro d k hk hj
      obtain rfl := hc.unique (hI.unjoined d k hk hj)
      exact .inr rfl
    · intro d hd
      obtain rfl := hc.unique (hI.hook d hd)
      exact .inr rfl

theorem JniInv.stopSlot (hI : s.JniInv) (o : Origin) (returns : Bool) :
    (s.stopSlot .jni o returns).JniInv ∧ s.HookOk (s.stopSlot .jni o returns) := by
  unfold State.stopSlot
  split
  · exact ⟨hI, .keep rfl⟩
  · rename_i c hlive
    have hsig : (s.signal c o).JniInv := hI.keep rfl rfl rfl rfl
    exact hsig.waitJoin (.inl hlive) returns
  · rename_i c hstop
    exact hI.waitJoin (.inr hstop) returns

/-- After the first part of a start the slot is empty, and so is the hook. -/
theorem JniInv.prepareStart {t : State} (hI : s.JniInv) (h : s.prepareStart .jni returns = .ok t) :
    t.JniInv ∧ s.HookOk t ∧ t.slot = none := by
  unfold State.prepareStart at h
  split at h
  · cases h
    exact ⟨hI, fun c hc => .inl hc, ‹_›⟩
  · split at h
    · cases h
      exact ⟨(hI.joinSlot (.inl ‹_›)).1, (hI.joinSlot (.inl ‹_›)).2, rfl⟩
    · cases h
  · split at h
    · cases h
      exact ⟨(hI.joinSlot (.inr ‹_›)).1, (hI.joinSlot (.inr ‹_›)).2, rfl⟩
    · cases h

theorem JniInv.spawnClient (hI : s.JniInv) (hnone : s.slot = none) (i : Nat) :
    (s.spawnClient i).JniInv := by
  have hempty : ∀ c, ¬ s.Has c := by
    rintro c (hc | hc) <;> rw [hnone] at hc <;> cases hc
  refine ⟨?_, ?_, ?_, hI.cleared⟩
  · rintro c (hc | hc) <;> cases hc
    exact ⟨_, List.getElem?_concat_length⟩
  · intro c k hk hj
    replace hk : (s.clients ++ [⟨i, false, false⟩])[c]? = some k := hk
    rw [List.getElem?_append] at hk
    split at hk
    · exact absurd (hI.unjoined c k hk hj) (hempty c)
    · rename_i hlt
      obtain ⟨h0, -⟩ := List.getElem?_eq_some_iff.mp hk
      rw [List.length_singleton] at h0
      obtain rfl : s.clients.length = c := by omega
      exact .inl rfl
  · intro c hc
    cases hc
    exact .inl rfl

/-- **Every step of the Android library keeps the invariant**, and clears the hook only after its
client was joined. -/
theorem JniInv.step {a : Action} (hI : s.JniInv) (h : s.step .jni a = some s') :
    s'.JniInv ∧ s.HookOk s' := by
  cases a with
  | start => cases h; exact ⟨hI.keep rfl rfl rfl rfl, .keep rfl⟩
  | stop returns => cases h; exact hI.stopSlot _ _
  | finish c =>
    cases h
    have hget : ∀ d : Nat, (s.clients.modify c Client.finish)[d]? =
        (s.clients[d]?).map fun k => if c = d then k.finish else k :=
      fun d => List.getElem?_modify _ _ _ _
    refine ⟨⟨fun d hd => ?_, fun d k hk hj => ?_, hI.hook, hI.cleared⟩, fun d hd => .inl hd⟩
    · obtain ⟨k, hk⟩ := hI.spawned d hd
      exact ⟨_, (hget d).trans (by rw [hk]; rfl)⟩
    · obtain ⟨k', hk', rfl⟩ := Option.map_eq_some_iff.mp ((hget d).symm.trans hk)
      refine hI.unjoined d k' hk' ?_
      split at hj <;> exact hj
  | prepare i returns configOk =>
    simp only [State.step] at h
    split at h
    · split at h
      · cases h; exact ⟨hI.keep rfl rfl rfl rfl, .keep rfl⟩
      · rename_i t hp
        obtain ⟨ht, hhook, hnone⟩ := hI.prepareStart hp
        split at h
        · cases h
          refine ⟨ht.spawnClient hnone i, fun c hc => ?_⟩
          rcases hhook c hc with hc | ⟨⟨k, hk, hj⟩, hcleared⟩
          · rcases ht.hook c hc with hc | hc <;> rw [hnone] at hc <;> cases hc
          · have hlt := (List.getElem?_eq_some_iff.mp hk).1
            exact .inr ⟨⟨k, (List.getElem?_append_left hlt).trans hk, hj⟩, hcleared⟩
        · cases h; exact ⟨ht.keep rfl rfl rfl rfl, hhook⟩
    · cases h
  | ready i =>
    simp only [State.step] at h
    split at h
    · cases h; exact ⟨hI.keep rfl rfl rfl rfl, .keep rfl⟩
    · cases h
  | giveUp i =>
    simp only [State.step] at h
    split at h
    · cases h; exact ⟨hI.keep rfl rfl rfl rfl, .keep rfl⟩
    · cases h
  | abort i returns =>
    simp only [State.step] at h
    split at h
    · cases h
      obtain ⟨hstop, hhook⟩ := hI.stopSlot (.gaveUp i) returns
      exact ⟨hstop.keep rfl rfl rfl rfl, hhook⟩
    · cases h

theorem JniInv.reachable (h : Reachable (State.step .jni) init s) : s.JniInv := by
  refine Reachable.invariant (I := State.JniInv) h ⟨?_, nofun, nofun, nofun⟩ ?_
  · rintro c (hc | hc) <;> cases hc
  · exact fun _ _ _ hI hs => (hI.step hs).1

end State

/-! ## 4. The client that a failed start stops -/

/-- **Whom a failed start stops.**  When a start that gives up takes the mutex again, the clients it
signals are its own if and only if no live client of another start is in the slot; in every run all
of whose starts give up under that condition, every client signalled by a start that gave up was
spawned by it.  On Android, without any condition, at most one client thread is unjoined, and the
hook is cleared only after the thread of its client was joined. -/
theorem failed_start_signals_own_iff (port : Port) :
    (∀ (s s' : State) (i : Nat) (returns : Bool),
      Reachable (State.step port) State.init s → s.step port (.abort i returns) = some s' →
      ((∀ x ∈ signalled s s', s.spawner x.1 = some i) ↔ s.Own i)) ∧
    (∀ s : State, Path (State.step port) GivesUpOwn State.init s → s.Faithful) ∧
    (∀ s, Reachable (State.step .jni) State.init s →
      (∀ (c d : Nat) (k l : Client), s.clients[c]? = some k → s.clients[d]? = some l →
        k.joined = false → l.joined = false → c = d) ∧
      (∀ x ∈ s.cleared, x.2 = true) ∧ ∀ a s', s.step .jni a = some s' → s.HookOk s') := by
  refine ⟨fun s s' i returns _ h => abort_own_iff port h, fun s h => ?_, fun s h => ?_⟩
  · exact h.invariant (I := State.Faithful) nofun fun _ _ _ hF hown hs => hF.step hown hs
  · have hI := State.JniInv.reachable h
    exact ⟨fun c d k l hk hl hkj hlj => (hI.unjoined c k hk hkj).unique (hI.unjoined d l hl hlj),
      hI.cleared, fun a s' hs => (hI.step hs).2⟩

/-- The first start waits, a stop ends its client, a second start succeeds, and only then the first
one notices that its channel is disconnected. -/
def overtakenStart : List Action :=
  [.start, .prepare 0 false true, .stop true, .start, .prepare 1 false true, .ready 1, .giveUp 0]

/-- **The first start then stops the client of the second one**, which is running, in both
libraries. -/
theorem failed_start_stops_other :
    ([Port.jni, .ffi].map fun port =>
      (run (State.step port) State.init overtakenStart).map (fun s => (s.slot, s.clients))) =
        List.replicate 2 (some (some (.live 1), [⟨0, true, true⟩, ⟨1, false, false⟩])) ∧
    ([Port.jni, .ffi].map fun port =>
      (run (State.step port) State.init (overtakenStart ++ [.abort 0 true])).map (·.signals)) =
        List.replicate 2 (some [(0, .stop), (1, .gaveUp 0)]) := by
  decide

/-- A start that gives up with its own client in the slot signals that one. -/
theorem failed_start_signals_own_iff_alone :
    (run (State.step .jni) State.init [.start, .prepare 0 false true, .giveUp 0,
        .abort 0 false]).map (fun s => (s.signals, s.slot)) =
      some ([(0, .gaveUp 0)], some (.stopping 0)) ∧
    ∀ s, run (State.step .jni) State.init [.start, .prepare 0 false true, .giveUp 0,
      .abort 0 false] = some s → s.Faithful := by
  refine ⟨by decide, fun s hs => (failed_start_signals_own_iff .jni).2.1 s (Path.of_run ?_ hs)⟩
  refine ⟨trivial, fun s₁ h₁ => ⟨trivial, fun s₂ h₂ =>
    ⟨trivial, fun s₃ h₃ => ⟨?_, fun _ _ => trivial⟩⟩⟩⟩
  cases h₁
  cases h₂
  cases h₃
  intro c hc
  cases hc
  rfl

end BibaVpn.Apps.Native
