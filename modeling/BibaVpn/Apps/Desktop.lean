/-
# Connect, disconnect and the recovery watchdog (desktop)

The desktop app has one tunnel behind one mutex (`lib.rs`, `Inner`).  A user's connects and
disconnects run on threads of their own, and a watchdog thread reconnects a tunnel that died.  None
of them holds the mutex for long: a connect claims the phase, releases the mutex for up to 45 s
while it takes a snapshot of the system proxy, starts the client and applies its own proxy, and only
then asks whether the phase is still its own.

* §1 is the state and the calls, each between two acquisitions of the mutex (or two accesses to the
  system proxy), and what one step of each does;
* §2 says once what a step can do, and that at most one teardown is in progress;
* §3 is the explicit disconnect: it stands as long as no attempt claims the phase behind it;
* §4 is the attempt that was superseded: it leaves the newer one alone, unless its guard is dropped
  while the newer one is connecting.
-/
import BibaVpn.Lib.Lts
import BibaVpn.Lib.Tasks

namespace BibaVpn.Apps.Desktop

open Lts Tasks

/-! ## 1. The app and its threads -/

/-- `VpnPhase`. -/
inductive Phase
  | idle
  | connecting
  | connected
  | disconnecting
  deriving DecidableEq

/-- What the system proxy is set to: settings of the user's own, or the local proxy of the app. -/
inductive Proxy
  | own (settings : Nat)
  | biba
  deriving DecidableEq

/-- What `disable_if_residual_biba_proxy` leaves: no proxy. -/
def Proxy.off : Proxy := .own 0

/-- `restore_proxy_blocking`: without a snapshot only a residual local proxy is switched off. -/
def Proxy.restore (os : Proxy) : Option Proxy → Proxy
  | some backup => backup
  | none => if os = .biba then .off else os

/-- Who called `connect_inner`. -/
inductive Caller
  | user
  | watchdog
  deriving DecidableEq

/-- Who called `disconnect_inner`: the user, a connect that found a tunnel installed, the watchdog
before it reconnects, or the watchdog that gave up for lack of file descriptors. -/
inductive Return
  | user
  | connect (c : Caller)
  | recovery
  | exhaustion
  deriving DecidableEq

/-- The argument `restore_system_proxy`. -/
def Return.restores : Return → Bool
  | .recovery => false
  | _ => true

/-- A connect attempt, behind the critical section that claims the phase. -/
inductive Stage
  /-- before `read_backup`, with the snapshot that `Inner` had -/
  | snapshot (saved : Option Proxy)
  /-- the client is started and waited for -/
  | dial (backup : Proxy)
  /-- before `apply_proxy` -/
  | apply (backup : Proxy)
  /-- before the critical section that installs the tunnel -/
  | install (backup : Proxy)
  /-- not installed, before the phase is read again -/
  | judge (backup : Proxy)
  /-- before `restore_proxy_blocking` -/
  | rollback (backup : Proxy)
  /-- returning an error, before `ConnectingPhaseGuard` is dropped -/
  | release
  deriving DecidableEq

/-- A thread, between two acquisitions of the mutex. -/
inductive Task
  /-- `connect_inner`, before its first look at the tunnel -/
  | connect (c : Caller)
  /-- `connect_inner`, before it claims the phase -/
  | claim (c : Caller)
  | attempt (c : Caller) (token : UInt64) (st : Stage)
  /-- `disconnect_inner`, before its first critical section -/
  | disconnect (r : Return)
  /-- `disconnect_inner`, before `restore_proxy_blocking` -/
  | restore (r : Return) (backup : Option Proxy)
  /-- `disconnect_inner`, before its last critical section -/
  | settle (r : Return)
  /-- the watchdog, before the next tick -/
  | tick
  /-- the watchdog at `Tick::Retry`, before it looks at `recovery_pending` -/
  | retry
  /-- the watchdog at `Tick::Check`, during the health probes -/
  | probe
  /-- the watchdog behind its teardown, before it looks at `recovery_pending` -/
  | resume
  /-- `fail_fd_exhaustion_recovery`, behind its disconnect -/
  | forget
  | done
  deriving DecidableEq

/-- `Inner`, the system proxy (`os`) and the threads.  `vpn` is the thread whose tunnel is
installed.  The other fields record the past: the threads that last claimed the phase (`connector`)
and last began a teardown (`disconnector`), whether a teardown began since the phase was last
claimed (`cut`), and whether a disconnect of the user has returned since the user last asked to
connect (`off`). -/
structure State where
  phase : Phase
  connectToken : UInt64
  recoveryPending : Bool
  proxyBackup : Option Proxy
  vpn : Option Nat
  os : Proxy
  tasks : List Task
  connector : Nat
  disconnector : Nat
  cut : Bool
  off : Bool

/-- The app is started, with the settings of the user in the system proxy. -/
def State.start (settings : Nat) : State :=
  { phase := .idle, connectToken := 0, recoveryPending := false, proxyBackup := none, vpn := none
    os := .own settings, tasks := [.tick], connector := 0, disconnector := 0, cut := false,
    off := false }

/-- How the work between two critical sections ends.  `exhausted` is the error that
`is_fd_exhaustion_message` recognises. -/
inductive Outcome
  | good
  | bad
  | exhausted
  deriving DecidableEq

inductive Action
  /-- the user asks to connect, or to disconnect -/
  | connect
  | disconnect
  /-- the next step of a thread -/
  | run (i : Nat) (o : Outcome)
  deriving DecidableEq

def canInstallConnection (phase : Phase) (currentToken attemptToken : UInt64) : Bool :=
  phase == .connecting && currentToken == attemptToken

def shouldStartWatchdogRecovery (phase : Phase) (hasVpn : Bool) : Bool :=
  phase == .connected && hasVpn

def State.become (s : State) (i : Nat) (t : Task) : State := { s with tasks := s.tasks.set i t }

def State.spawn (s : State) (t : Task) : State := { s with tasks := s.tasks ++ [t] }

/-- Where `connect_inner` returns to, without an error that matters. -/
def Caller.idle : Caller → Task
  | .user => .done
  | .watchdog => .tick

/-- Where `connect_inner` returns to with an error. -/
def Caller.failed : Caller → Outcome → Task
  | .watchdog, .exhausted => .disconnect .exhaustion
  | c, _ => c.idle

/-- What follows a call of `disconnect_inner`. -/
def Return.next : Return → Task
  | .user => .done
  | .connect c => .claim c
  | .recovery => .resume
  | .exhaustion => .forget

/-- `disconnect_inner` returns. -/
def State.return (s : State) (i : Nat) (r : Return) : State :=
  { s with off := s.off || r == Return.user }.become i r.next

/-- `connect_inner` claims the phase; `go` is false when `can_connect` or `persist_cfg` fails. -/
def State.claim (s : State) (i : Nat) (c : Caller) (go : Bool) : State :=
  { s with
    phase := .connecting
    connectToken := s.connectToken + 1
    connector := i
    cut := false }.become i
      (.attempt c (s.connectToken + 1) (if go then .snapshot s.proxyBackup else .release))

/-- `connect_inner` installs its tunnel. -/
def State.install (s : State) (i : Nat) (c : Caller) (backup : Proxy) : State :=
  { s with
    phase := .connected
    proxyBackup := some backup
    vpn := some i
    recoveryPending := false }.become i c.idle

/-- `drop` of an armed `ConnectingPhaseGuard`. -/
def State.release (s : State) : State :=
  { s with phase := if s.phase = .connecting then .idle else s.phase }

/-- The first critical section of `disconnect_inner`, when no other teardown is in progress. -/
def State.tear (s : State) (i : Nat) (r : Return) : State :=
  { s with
    phase := .disconnecting
    recoveryPending := s.recoveryPending && !r.restores
    proxyBackup := if r.restores then none else s.proxyBackup
    vpn := none
    disconnector := i
    cut := true }.become i (if r.restores then .restore r s.proxyBackup else .settle r)

/-- A step of an attempt. -/
def State.advance (s : State) (i : Nat) (c : Caller) (k : UInt64) (o : Outcome) : Stage → State
  | .snapshot saved =>
    s.become i (.attempt c k (if o = .good then .dial (saved.getD s.os) else .release))
  | .dial backup => s.become i (.attempt c k (if o = .good then .apply backup else .release))
  | .apply backup =>
    if o = .good then { s with os := .biba }.become i (.attempt c k (.install backup))
    else s.become i (.attempt c k .release)
  | .install backup =>
    if canInstallConnection s.phase s.connectToken k then s.install i c backup
    else s.become i (.attempt c k (.judge backup))
  | .judge backup =>
    s.become i (.attempt c k (if s.phase = .connecting then .release else .rollback backup))
  | .rollback backup =>
    { s with os := s.os.restore (some backup) }.become i (.attempt c k .release)
  | .release => s.release.become i (c.failed o)

/-- The tick of the watchdog. -/
def State.tick (s : State) : Task :=
  match s.phase with
  | .connected => if s.vpn.isSome then .probe else .tick
  | .idle => if s.recoveryPending then .retry else .tick
  | _ => .tick

/-- The next step of a thread. -/
def State.exec (s : State) (i : Nat) (o : Outcome) : Task → Option State
  | .connect c =>
    some (s.become i
      (if s.vpn.isSome && s.phase == .connected then .disconnect (.connect c) else .claim c))
  | .claim c =>
    match s.phase with
    | .connecting | .disconnecting => some (s.become i c.idle)
    | .idle | .connected => some (s.claim i c (o == .good))
  | .attempt c k st => some (s.advance i c k o st)
  | .disconnect r => some (if s.phase = .disconnecting then s.return i r else s.tear i r)
  | .restore r backup => some ({ s with os := s.os.restore backup }.become i (.settle r))
  | .settle r => some ({ s with phase := .idle }.return i r)
  | .tick => some (s.become i s.tick)
  | .retry | .resume => some (s.become i (if s.recoveryPending then .connect .watchdog else .tick))
  | .probe =>
    if o ≠ .good ∧ shouldStartWatchdogRecovery s.phase s.vpn.isSome then
      some ({ s with recoveryPending := true }.become i (.disconnect .recovery))
    else some (s.become i .tick)
  | .forget => some ({ s with recoveryPending := false }.become i .tick)
  | .done => none

def State.step (s : State) : Action → Option State
  | .connect => some ({ s with off := false }.spawn (.connect .user))
  | .disconnect => some (s.spawn (.disconnect .user))
  | .run i o => s.tasks[i]?.bind (s.exec i o)

/-! ## 2. What a step can do -/

/-- A thread of the watchdog, outside `connect_inner` and `disconnect_inner`. -/
def Task.watches : Task → Bool
  | .tick | .retry | .probe | .resume => true
  | _ => false

/-- The steps that change nothing but the thread itself. -/
inductive Passes (s : State) : Task → Task → Prop
  | enter (c : Caller) : Passes s (.connect c) (.claim c)
  | replace (c : Caller) : Passes s (.connect c) (.disconnect (.connect c))
  | busy (c : Caller) : Passes s (.claim c) c.idle
  | snapshot (c : Caller) (k : UInt64) (saved : Option Proxy) :
      Passes s (.attempt c k (.snapshot saved)) (.attempt c k (.dial (saved.getD s.os)))
  | dial (c : Caller) (k : UInt64) (b : Proxy) :
      Passes s (.attempt c k (.dial b)) (.attempt c k (.apply b))
  | failSnapshot (c : Caller) (k : UInt64) (saved : Option Proxy) :
      Passes s (.attempt c k (.snapshot saved)) (.attempt c k .release)
  | failDial (c : Caller) (k : UInt64) (b : Proxy) :
      Passes s (.attempt c k (.dial b)) (.attempt c k .release)
  | failApply (c : Caller) (k : UInt64) (b : Proxy) :
      Passes s (.attempt c k (.apply b)) (.attempt c k .release)
  | refuse (c : Caller) (k : UInt64) (b : Proxy)
      (hno : ¬ (s.phase = .connecting ∧ s.connectToken = k)) :
      Passes s (.attempt c k (.install b)) (.attempt c k (.judge b))
  | concede (c : Caller) (k : UInt64) (b : Proxy) (hph : s.phase = .connecting) :
      Passes s (.attempt c k (.judge b)) (.attempt c k .release)
  | cancel (c : Caller) (k : UInt64) (b : Proxy) (hph : s.phase ≠ .connecting) :
      Passes s (.attempt c k (.judge b)) (.attempt c k (.rollback b))
  | watch {t t' : Task} (ht : t.watches = true) (ht' : t'.watches = true) : Passes s t t'
  | reconnect {t : Task} (ht : t.watches = true) : Passes s t (.connect .watchdog)

/-- **Everything that a step can do.** -/
inductive Move (s : State) : Action → State → Prop
  | connect : Move s .connect ({ s with off := false }.spawn (.connect .user))
  | disconnect : Move s .disconnect (s.spawn (.disconnect .user))
  | pass {i : Nat} {o : Outcome} {t t' : Task} (ht : s.tasks[i]? = some t) (h : Passes s t t') :
      Move s (.run i o) (s.become i t')
  | claim {i : Nat} {o : Outcome} {c : Caller} (go : Bool) (ht : s.tasks[i]? = some (.claim c))
      (hfree : s.phase = .idle ∨ s.phase = .connected) : Move s (.run i o) (s.claim i c go)
  | apply {i : Nat} {o : Outcome} {c : Caller} {k : UInt64} {b : Proxy}
      (ht : s.tasks[i]? = some (.attempt c k (.apply b))) :
      Move s (.run i o) ({ s with os := .biba }.become i (.attempt c k (.install b)))
  | install {i : Nat} {o : Outcome} {c : Caller} {k : UInt64} {b : Proxy}
      (ht : s.tasks[i]? = some (.attempt c k (.install b))) (hph : s.phase = .connecting)
      (htok : s.connectToken = k) : Move s (.run i o) (s.install i c b)
  | rollback {i : Nat} {o : Outcome} {c : Caller} {k : UInt64} {b : Proxy}
      (ht : s.tasks[i]? = some (.attempt c k (.rollback b))) :
      Move s (.run i o) ({ s with os := b }.become i (.attempt c k .release))
  | release {i : Nat} {o : Outcome} {c : Caller} {k : UInt64}
      (ht : s.tasks[i]? = some (.attempt c k .release)) :
      Move s (.run i o) (s.release.become i (c.failed o))
  | yield {i : Nat} {o : Outcome} {r : Return} (ht : s.tasks[i]? = some (.disconnect r))
      (hph : s.phase = .disconnecting) : Move s (.run i o) (s.return i r)
  | tear {i : Nat} {o : Outcome} {r : Return} (ht : s.tasks[i]? = some (.disconnect r))
      (hph : s.phase ≠ .disconnecting) : Move s (.run i o) (s.tear i r)
  | restore {i : Nat} {o : Outcome} {r : Return} {b : Option Proxy}
      (ht : s.tasks[i]? = some (.restore r b)) :
      Move s (.run i o) ({ s with os := s.os.restore b }.become i (.settle r))
  | settle {i : Nat} {o : Outcome} {r : Return} (ht : s.tasks[i]? = some (.settle r)) :
      Move s (.run i o) ({ s with phase := .idle }.return i r)
  | recover {i : Nat} {o : Outcome} (ht : s.tasks[i]? = some .probe) (hph : s.phase = .connected) :
      Move s (.run i o) ({ s with recoveryPending := true }.become i (.disconnect .recovery))
  | forget {i : Nat} {o : Outcome} (ht : s.tasks[i]? = some .forget) :
      Move s (.run i o) ({ s with recoveryPending := false }.become i .tick)

theorem tick_watches (s : State) : s.tick.watches = true := by
  unfold State.tick
  split
  · split <;> rfl
  · split <;> rfl
  · rfl

variable {s s' : State} {i : Nat} {c : Caller} {a : Action} {t : Task}

/-- The steps of an attempt. -/
theorem move_of_advance {o : Outcome} {k : UInt64} {st : Stage}
    (ht : s.tasks[i]? = some (.attempt c k st)) : Move s (.run i o) (s.advance i c k o st) := by
  cases st with
  | snapshot saved =>
    simp only [State.advance]
    split
    · exact .pass ht (.snapshot c k saved)
    · exact .pass ht (.failSnapshot c k saved)
  | dial b =>
    simp only [State.advance]
    split
    · exact .pass ht (.dial c k b)
    · exact .pass ht (.failDial c k b)
  | apply b =>
    simp only [State.advance]
    split
    · exact .apply ht
    · exact .pass ht (.failApply c k b)
  | install b =>
    simp only [State.advance, canInstallConnection, Bool.and_eq_true, beq_iff_eq]
    split
    · rename_i hmay
      exact .install ht hmay.1 hmay.2
    · exact .pass ht (.refuse c k b ‹_›)
  | judge b =>
    simp only [State.advance]
    split
    · exact .pass ht (.concede c k b ‹_›)
    · exact .pass ht (.cancel c k b ‹_›)
  | rollback b => exact .rollback ht
  | release => exact .release ht

theorem move_of_step (h : s.step a = some s') : Move s a s' := by
  cases a with
  | connect => cases h; exact .connect
  | disconnect => cases h; exact .disconnect
  | run i o =>
    obtain ⟨t, ht, h⟩ := Option.bind_eq_some_iff.mp h
    cases t with
    | connect c =>
      cases h
      split
      · exact .pass ht (.replace c)
      · exact .pass ht (.enter c)
    | claim c =>
      simp only [State.exec] at h
      split at h
      · cases h; exact .pass ht (.busy c)
      · cases h; exact .pass ht (.busy c)
      · cases h; exact .claim _ ht (.inl ‹_›)
      · cases h; exact .claim _ ht (.inr ‹_›)
    | attempt c k st => cases h; exact move_of_advance ht
    | disconnect r =>
      cases h
      split
      · exact .yield ht ‹_›
      · exact .tear ht ‹_›
    | restore r b => cases h; exact .restore ht
    | settle r => cases h; exact .settle ht
    | tick => cases h; exact .pass ht (.watch rfl (tick_watches s))
    | retry =>
      cases h
      split
      · exact .pass ht (.reconnect rfl)
      · exact .pass ht (.watch rfl rfl)
    | probe =>
      simp only [State.exec, shouldStartWatchdogRecovery, Bool.and_eq_true, beq_iff_eq] at h
      split at h
      · rename_i hbad
        cases h
        exact .recover ht hbad.2.1
      · cases h; exact .pass ht (.watch rfl rfl)
    | resume =>
      cases h
      split
      · exact .pass ht (.reconnect rfl)
      · exact .pass ht (.watch rfl rfl)
    | forget => cases h; exact .forget ht
    | done => cases h

/-- What a thread in the middle of a teardown relies on. -/
def Turn (s : State) (i : Nat) : Task → Prop
  | .restore r _ | .settle r =>
    s.phase = .disconnecting ∧ s.disconnector = i ∧ (r.restores = true → s.recoveryPending = false)
  | _ => True

/-- A thread in the middle of a teardown, called by `r`. -/
def Task.tears (r : Return) : Task → Prop
  | .restore r' _ | .settle r' => r' = r
  | _ => False

/-- **One teardown at a time**: the phase belongs to the thread that began it. -/
structure State.Turns (s : State) : Prop where
  each : Each s.tasks (Turn s)
  busy : s.phase = .disconnecting → ∃ t r, s.tasks[s.disconnector]? = some t ∧ t.tears r

theorem Turn.free (h : ∀ r, ¬ t.tears r) : Turn s i t := by
  cases t <;> first | exact trivial | exact absurd rfl (h _)

/-- A thread that is not in a teardown relies on nothing, and nothing happens to the others while
the phase, the flag and the owner stay. -/
theorem Turn.keep (h : Turn s i t) (hph : s'.phase = s.phase)
    (hown : s'.disconnector = s.disconnector)
    (hrec : s.recoveryPending = false → s'.recoveryPending = false) : Turn s' i t := by
  cases t <;> first
    | exact trivial
    | exact ⟨hph.trans h.1, hown.trans h.2.1, fun hr => hrec (h.2.2 hr)⟩

/-- Outside a teardown no thread is in one. -/
theorem Turn.absent (h : Turn s i t) (hph : s.phase ≠ .disconnecting) : Turn s' i t := by
  cases t <;> first | exact trivial | exact absurd h.1 hph

theorem Turn.other (h : Turn s i t) (hown : s.disconnector ≠ i) : Turn s' i t := by
  cases t <;> first | exact trivial | exact absurd h.2.1 hown

theorem Caller.idle_free (c : Caller) (r : Return) : ¬ c.idle.tears r := by
  cases c <;> exact id

theorem Caller.failed_free (c : Caller) (o : Outcome) (r : Return) : ¬ (c.failed o).tears r := by
  cases c <;> cases o <;> exact id

theorem Return.next_free (r r' : Return) : ¬ r.next.tears r' := by
  cases r <;> exact id

theorem Task.watches_free (ht : t.watches = true) (r : Return) : ¬ t.tears r := by
  cases t <;> first | exact id | cases ht

theorem Passes.free {t' : Task} (h : Passes s t t') : (∀ r, ¬ t.tears r) ∧ ∀ r, ¬ t'.tears r := by
  cases h with
  | busy c => exact ⟨fun _ => id, c.idle_free⟩
  | watch ht ht' => exact ⟨Task.watches_free ht, Task.watches_free ht'⟩
  | reconnect ht => exact ⟨Task.watches_free ht, fun _ => id⟩
  | _ => exact ⟨fun _ => id, fun _ => id⟩

theorem State.Turns.spawn (h : s.Turns) (ht : ∀ r, ¬ t.tears r) : (s.spawn t).Turns := by
  refine ⟨h.each.spawn (Turn.free ht), fun hph => ?_⟩
  obtain ⟨u, r, hu, hr⟩ := h.busy hph
  exact ⟨u, r, (List.getElem?_append_left (List.getElem?_eq_some_iff.mp hu).1).trans hu, hr⟩

/-- A thread outside the teardown moves. -/
theorem State.Turns.move (h : s.Turns) {t' : Task} (htasks : s'.tasks = s.tasks.set i t')
    (ht : s.tasks[i]? = some t) (hfree : ∀ r, ¬ t.tears r) (hfree' : ∀ r, ¬ t'.tears r)
    (hown : s'.disconnector = s.disconnector)
    (hph : s'.phase = .disconnecting → s.phase = .disconnecting)
    (hothers : ∀ j u, Turn s j u → Turn s' j u) : s'.Turns := by
  refine ⟨?_, fun hd => ?_⟩
  · rw [htasks]
    exact h.each.set (Turn.free hfree') fun j u _ _ hu => hothers j u hu
  · obtain ⟨u, r, hu, hr⟩ := h.busy (hph hd)
    have hne : i ≠ s.disconnector := by
      intro he
      rw [← he, ht] at hu
      cases hu
      exact hfree r hr
    exact ⟨u, r, by rw [htasks, hown, List.getElem?_set_ne hne]; exact hu, hr⟩

theorem State.Turns.step (h : s.Turns) (hs : s.step a = some s') : s'.Turns := by
  cases move_of_step hs with
  | connect =>
    have h' : State.Turns { s with off := false } :=
      ⟨h.each.mono fun _ _ _ hu => hu.keep rfl rfl id, h.busy⟩
    exact h'.spawn fun _ => id
  | disconnect => exact h.spawn fun _ => id
  | pass ht hp => exact h.move rfl ht hp.free.1 hp.free.2 rfl id fun _ _ hu => hu.keep rfl rfl id
  | claim go ht hfree =>
    refine h.move rfl ht (fun _ => id) (fun _ => id) rfl nofun fun _ _ hu => hu.absent ?_
    rcases hfree with hph | hph <;> rw [hph] <;> decide
  | apply ht =>
    exact h.move rfl ht (fun _ => id) (fun _ => id) rfl id fun _ _ hu => hu.keep rfl rfl id
  | install ht hph htok =>
    exact h.move rfl ht (fun _ => id) (Caller.idle_free _) rfl nofun fun _ _ hu =>
      hu.absent (by rw [hph]; decide)
  | rollback ht =>
    exact h.move rfl ht (fun _ => id) (fun _ => id) rfl id fun _ _ hu => hu.keep rfl rfl id
  | release ht =>
    by_cases hph : s.phase = .connecting
    · refine h.move rfl ht (fun _ => id) (Caller.failed_free _ _) rfl (fun hd => ?_) fun _ _ hu =>
        hu.absent (by rw [hph]; decide)
      exact absurd ((if_pos hph).symm.trans hd) (by decide)
    · exact h.move rfl ht (fun _ => id) (Caller.failed_free _ _) rfl ((if_neg hph).symm.trans ·)
        fun _ _ hu => hu.keep (if_neg hph) rfl id
  | yield ht hph =>
    exact h.move rfl ht (fun _ => id) (Return.next_free _) rfl id fun _ _ hu => hu.keep rfl rfl id
  | @tear i o r ht hph =>
    have hi := (List.getElem?_eq_some_iff.mp ht).1
    refine ⟨h.each.set ?_ fun j u _ _ hu => hu.absent hph, fun _ => ?_⟩
    · cases hr : r.restores with
      | true => exact ⟨rfl, rfl, fun _ => by simp [State.tear, State.become, hr]⟩
      | false => exact ⟨rfl, rfl, fun hr' => absurd (hr.symm.trans hr') (by decide)⟩
    · refine ⟨_, r, List.getElem?_set_self hi, ?_⟩
      cases r.restores <;> exact rfl
  | @restore i o r b ht =>
    have hi := (List.getElem?_eq_some_iff.mp ht).1
    have hown := (h.each i _ ht).2.1
    refine ⟨h.each.set (h.each i _ ht) fun j u _ _ hu => hu.keep rfl rfl id, fun _ => ?_⟩
    exact ⟨.settle r, r, by rw [← hown] at hi ⊢; exact List.getElem?_set_self hi, rfl⟩
  | @settle i o r ht =>
    have hown := (h.each i _ ht).2.1
    refine ⟨h.each.set (Turn.free r.next_free) fun j u hne _ hu => hu.other ?_, nofun⟩
    rw [hown]
    exact Ne.symm hne
  | recover ht hph =>
    exact h.move rfl ht (fun _ => id) (fun _ => id) rfl id fun _ _ hu =>
      hu.absent (by rw [hph]; decide)
  | forget ht =>
    exact h.move rfl ht (fun _ => id) (fun _ => id) rfl id fun _ _ hu =>
      hu.keep rfl rfl fun _ => rfl

theorem State.Turns.start (settings : Nat) : (State.start settings).Turns := by
  refine ⟨?_, nofun⟩
  have hnil : Each [] (Turn (State.start settings)) := Each.nil
  exact hnil.spawn trivial

theorem State.Turns.reachable {settings : Nat} (h : Reachable State.step (State.start settings) s) :
    s.Turns :=
  Reachable.invariant (I := State.Turns) h (.start settings) fun _ _ _ hI hs => hI.step hs

/-- **Only the owner of the phase tears down**: in every run, the phase is `Disconnecting` as long
as one thread is in a teardown, and it is one. -/
theorem teardown_exclusive {settings : Nat} (h : Reachable State.step (State.start settings) s)
    (i : Nat) : (∃ t r, s.tasks[i]? = some t ∧ t.tears r) ↔
      s.phase = .disconnecting ∧ s.disconnector = i := by
  have hT := State.Turns.reachable h
  constructor
  · rintro ⟨t, r, ht, hr⟩
    have hturn := hT.each i t ht
    cases t <;> first | exact ⟨hturn.1, hturn.2.1⟩ | cases hr
  · rintro ⟨hphase, rfl⟩
    exact hT.busy hphase

theorem teardown_exclusive_disconnect :
    let ran := run State.step (.start 7) [.disconnect, .run 1 .good]
    ran.map (fun s => (s.phase, s.disconnector)) = some (.disconnecting, 1) ∧
    ∀ s, ran = some s → ((∃ t r, s.tasks[1]? = some t ∧ t.tears r) ↔
      s.phase = .disconnecting ∧ s.disconnector = 1) :=
  ⟨by decide, fun _ hs => teardown_exclusive (Reachable.of_run hs) 1⟩

/-! ## 3. The explicit disconnect -/

/-- What respects a disconnect of the user.  No attempt claims the phase while one stands; and the
user's call does not arrive during a teardown that a recovery is to follow. -/
def Heeds (s : State) : Task → Prop
  | .claim _ => s.phase = .idle → s.off = false
  | .disconnect .user => s.phase = .disconnecting → s.recoveryPending = false
  | _ => True

instance (s : State) : DecidablePred (Heeds s)
  | .claim _ => inferInstanceAs (Decidable (_ → _))
  | .disconnect .user => inferInstanceAs (Decidable (_ → _))
  | .disconnect (.connect _) | .disconnect .recovery | .disconnect .exhaustion => isTrue trivial
  | .connect _ | .attempt .. | .restore .. | .settle _ | .tick | .retry | .probe | .resume | .forget
  | .done => isTrue trivial

def Heeded (s : State) : Action → Prop
  | .run i _ => ∀ t ∈ s.tasks[i]?, Heeds s t
  | _ => True

instance (s : State) : DecidablePred (Heeded s)
  | .run i _ => inferInstanceAs (Decidable (∀ t ∈ s.tasks[i]?, Heeds s t))
  | .connect | .disconnect => isTrue trivial

/-- Nothing is left behind a disconnect of the user that could undo it. -/
def State.Quiet (s : State) : Prop :=
  s.off = true → (s.phase = .idle ∨ s.phase = .disconnecting) ∧ s.recoveryPending = false

theorem State.Quiet.step (hT : s.Turns) (hQ : s.Quiet) (hok : Heeded s a)
    (hs : s.step a = some s') : s'.Quiet := by
  cases move_of_step hs with
  | connect => exact nofun
  | claim go ht hfree =>
    intro hoff
    obtain ⟨hph, -⟩ := hQ hoff
    rcases hfree with hidle | hconn
    · exact absurd (hoff.symm.trans (hok _ ht hidle)) (by decide)
    · rcases hph with hph | hph <;> rw [hconn] at hph <;> cases hph
  | install ht hph htok =>
    intro hoff
    rcases (hQ hoff).1 with hph' | hph' <;> rw [hph] at hph' <;> cases hph'
  | release ht =>
    intro hoff
    obtain ⟨hph, hrec⟩ := hQ hoff
    refine ⟨?_, hrec⟩
    show State.phase s.release = _ ∨ State.phase s.release = _
    rcases hph with hph | hph <;> simp [State.release, hph]
  | @yield i o r ht hph =>
    intro hoff
    refine ⟨.inr hph, ?_⟩
    rcases Bool.or_eq_true _ _ ▸ hoff with hoff | hr
    · exact (hQ hoff).2
    · rw [beq_iff_eq] at hr
      subst hr
      exact hok _ ht hph
  | tear ht hph =>
    intro hoff
    refine ⟨.inr rfl, ?_⟩
    show (s.recoveryPending && _) = false
    rw [(hQ hoff).2]
    rfl
  | @settle i o r ht =>
    intro hoff
    refine ⟨.inl rfl, ?_⟩
    rcases Bool.or_eq_true _ _ ▸ hoff with hoff | hr
    · exact (hQ hoff).2
    · rw [beq_iff_eq] at hr
      subst hr
      exact (hT.each i _ ht).2.2 rfl
  | recover ht hph =>
    intro hoff
    rcases (hQ hoff).1 with hph' | hph' <;> rw [hph] at hph' <;> cases hph'
  | forget ht => exact fun hoff => ⟨(hQ hoff).1, rfl⟩
  | _ => exact hQ

theorem State.Quiet.path {settings : Nat} (h : Path State.step Heeded (State.start settings) s) :
    s.Quiet := by
  have hboth : s.Turns ∧ s.Quiet := by
    refine h.invariant (I := fun s => s.Turns ∧ s.Quiet) ⟨.start settings, nofun⟩ ?_
    exact fun _ _ _ hI hok hs => ⟨hI.1.step hs, hI.2.step hI.1 hok hs⟩
  exact hboth.2

theorem step_of_task (ht : s.tasks[i]? = some t) (o : Outcome) :
    s.step (.run i o) = s.exec i o t := by
  rw [State.step, ht]
  rfl

theorem State.become_get (ht : s.tasks[i]? = some t) (t' : Task) :
    (s.become i t').tasks[i]? = some t' :=
  List.getElem?_set_self (List.getElem?_eq_some_iff.mp ht).1

/-- **An attempt that may claim the phase needs nobody else to install its tunnel.** -/
theorem run_attempt (ht : s.tasks[i]? = some (.claim c)) (hph : s.phase = .idle) :
    ∃ s', run State.step s (List.replicate 5 (.run i .good)) = some s' ∧ s'.phase = .connected ∧
      s'.off = s.off := by
  let k := s.connectToken + 1
  let b := s.proxyBackup.getD s.os
  let s₁ := s.claim i c true
  let s₂ := s₁.become i (.attempt c k (.dial b))
  let s₃ := s₂.become i (.attempt c k (.apply b))
  let s₄ := { s₃ with os := .biba }.become i (.attempt c k (.install b))
  have h₁ : s₁.tasks[i]? = some (.attempt c k (.snapshot s.proxyBackup)) := s.become_get ht _
  have h₂ : s₂.tasks[i]? = some (.attempt c k (.dial b)) := s₁.become_get h₁ _
  have h₃ : s₃.tasks[i]? = some (.attempt c k (.apply b)) := s₂.become_get h₂ _
  have h₄ : s₄.tasks[i]? = some (.attempt c k (.install b)) :=
    State.become_get (s := { s₃ with os := .biba }) h₃ _
  have e₁ : s.step (.run i .good) = some s₁ := by rw [step_of_task ht, State.exec, hph]; rfl
  have e₂ : s₁.step (.run i .good) = some s₂ := step_of_task h₁ _
  have e₃ : s₂.step (.run i .good) = some s₃ := step_of_task h₂ _
  have e₄ : s₃.step (.run i .good) = some s₄ := step_of_task h₃ _
  have e₅ : s₄.step (.run i .good) = some (s₄.install i c b) := by
    have hmay : canInstallConnection s₄.phase s₄.connectToken k = true := by
      show (Phase.connecting == .connecting && k == k) = true
      simp
    rw [step_of_task h₄, State.exec, State.advance, if_pos hmay]
  refine ⟨s₄.install i c b, ?_, rfl, rfl⟩
  simp only [List.replicate, run_cons, run_nil, e₁, e₂, e₃, e₄, e₅, Option.bind_some]

/-- **When an explicit disconnect stands.**  In every run whose steps heed it, the phase is not
Connected from the return of a user's disconnect on until the user asks to connect.  And in every
state where an attempt could claim the phase behind such a disconnect, its own steps alone lead to
Connected while the disconnect stands. -/
theorem explicit_disconnect_stands (settings : Nat) :
    (∀ s : State, Path State.step Heeded (State.start settings) s →
      s.off = true → s.phase ≠ .connected) ∧
    (∀ (s : State) (i : Nat) (c : Caller),
      Reachable State.step (State.start settings) s → s.off = true →
      s.tasks[i]? = some (.claim c) → s.phase = .idle →
      ∃ s', run State.step s (List.replicate 5 (.run i .good)) = some s' ∧
        s'.phase = .connected ∧ s'.off = true) := by
  refine ⟨fun s h hoff hconn => ?_, fun s i c _ hoff ht hph => ?_⟩
  · rcases (State.Quiet.path h hoff).1 with hph | hph <;> rw [hconn] at hph <;> cases hph
  · obtain ⟨s', hrun, hconn, hoff'⟩ := run_attempt ht hph
    exact ⟨s', hrun, hconn, hoff'.trans hoff⟩

/-- The steps of thread `i`, all of which succeed. -/
def go (i n : Nat) : List Action := List.replicate n (.run i .good)

/-- The user connects; the tunnel dies, and the watchdog marks the recovery. -/
def deadTunnel : List Action := .connect :: go 1 6 ++ [.run 0 .good, .run 0 .bad]

/-- The watchdog has torn the tunnel down and seen `recovery_pending`; then the user disconnects. -/
def lateDisconnect : List Action := deadTunnel ++ go 0 3 ++ .disconnect :: go 2 3

/-- The user disconnects while the watchdog tears the tunnel down. -/
def overlookedDisconnect : List Action := deadTunnel ++ go 0 1 ++ [.disconnect, .run 2 .good]

/-- **The watchdog brings the tunnel back behind a disconnect of the user**, whose call has
returned: because it has looked at `recovery_pending` before, or because the call returned at once
and left the flag set. -/
theorem watchdog_undoes_disconnect :
    (run State.step (.start 7) lateDisconnect).map (fun s => (s.phase, s.recoveryPending, s.off)) =
      some (.idle, false, true) ∧
    (run State.step (.start 7) (lateDisconnect ++ go 0 6)).map (fun s => (s.phase, s.off)) =
      some (.connected, true) ∧
    (run State.step (.start 7) overlookedDisconnect).map
      (fun s => (s.phase, s.recoveryPending, s.off)) = some (.disconnecting, true, true) ∧
    (run State.step (.start 7) (overlookedDisconnect ++ go 0 8)).map (fun s => (s.phase, s.off)) =
      some (.connected, true) := by decide +kernel

/-- A disconnect between the teardown of the watchdog and its look at `recovery_pending` stands. -/
theorem explicit_disconnect_stands_heeded :
    (run State.step (.start 7) (deadTunnel ++ go 0 2 ++ .disconnect :: go 2 3 ++ go 0 9)).map
        (fun s => (s.phase, s.off, s.tasks)) = some (.idle, true, [.tick, .done, .done]) ∧
    ∀ s, run State.step (.start 7) (deadTunnel ++ go 0 2 ++ .disconnect :: go 2 3 ++ go 0 9) =
      some s → s.phase ≠ .connected := by
  refine ⟨by decide +kernel, fun s hs => ?_⟩
  have hoff : (run State.step (.start 7)
      (deadTunnel ++ go 0 2 ++ .disconnect :: go 2 3 ++ go 0 9)).map (·.off) = some true := by
    decide +kernel
  rw [hs] at hoff
  exact (explicit_disconnect_stands 7).1 s (Path.of_run (by decide +kernel) hs)
    (Option.some.inj hoff)

/-! ## 4. The superseded attempt -/

/-- The thread is an attempt that holds token `k`. -/
def Task.holds (k : UInt64) : Task → Bool
  | .attempt _ k' _ => k' == k
  | _ => false

/-- What keeps attempts apart.  A guard is dropped while someone is connecting only by the attempt
that holds the current token; and the token that is handed out is not held by an attempt in flight,
which takes 2^64 attempts to fail. -/
def Apart (s : State) : Task → Prop
  | .attempt _ k .release => s.phase = .connecting → k = s.connectToken
  | .claim _ => s.tasks.all (fun t => !t.holds (s.connectToken + 1)) = true
  | _ => True

instance (s : State) : DecidablePred (Apart s)
  | .attempt _ _ .release => inferInstanceAs (Decidable (_ → _))
  | .attempt _ _ (.snapshot _) | .attempt _ _ (.dial _) | .attempt _ _ (.apply _) => isTrue trivial
  | .attempt _ _ (.install _) | .attempt _ _ (.judge _) | .attempt _ _ (.rollback _) =>
    isTrue trivial
  | .claim _ => inferInstanceAs (Decidable (_ = _))
  | .connect _ | .disconnect _ | .restore .. | .settle _ | .tick | .retry | .probe | .resume
  | .forget | .done => isTrue trivial

def KeptApart (s : State) : Action → Prop
  | .run i _ => ∀ t ∈ s.tasks[i]?, Apart s t
  | _ => True

instance (s : State) : DecidablePred (KeptApart s)
  | .run i _ => inferInstanceAs (Decidable (∀ t ∈ s.tasks[i]?, Apart s t))
  | .connect | .disconnect => isTrue trivial

/-- What an attempt relies on: with the current token it is the one that claimed the phase last, and
without a teardown since then the phase is still its own. -/
def Holds (s : State) (i : Nat) : Task → Prop
  | .attempt _ k _ =>
    k = s.connectToken → i = s.connector ∧ (s.cut = false → s.phase = .connecting)
  | _ => True

def State.Tokens (s : State) : Prop := Each s.tasks (Holds s)

theorem Holds.keep (h : Holds s i t) (htok : s'.connectToken = s.connectToken)
    (hcon : s'.connector = s.connector) (hcut : s'.cut = s.cut) (hph : s'.phase = s.phase) :
    Holds s' i t := by
  cases t <;> first
    | exact trivial
    | (intro hk
       rw [htok] at hk
       rw [hcon, hcut, hph]
       exact h hk)

/-- Another thread than the one that claimed the phase does not hold the current token. -/
theorem Holds.other (h : Holds s i t) (htok : s'.connectToken = s.connectToken)
    (hne : i ≠ s.connector) : Holds s' i t := by
  cases t <;> first | exact trivial | exact fun hk => absurd (h (hk.trans htok)).1 hne

theorem Holds.idle (ht : ∀ c k st, t ≠ .attempt c k st) : Holds s i t := by
  cases t <;> first | exact trivial | exact absurd rfl (ht _ _ _)

theorem Caller.idle_ne (c : Caller) (c' : Caller) (k : UInt64) (st : Stage) :
    c.idle ≠ .attempt c' k st := by
  cases c <;> exact nofun

theorem Caller.failed_ne (c : Caller) (o : Outcome) (c' : Caller) (k : UInt64) (st : Stage) :
    c.failed o ≠ .attempt c' k st := by
  cases c <;> cases o <;> exact nofun

theorem Return.next_ne (r : Return) (c : Caller) (k : UInt64) (st : Stage) :
    r.next ≠ .attempt c k st := by
  cases r <;> exact nofun

/-- A thread that only moves itself keeps its token. -/
theorem Holds.pass {t' : Task} (h : Holds s i t) (hp : Passes s t t') : Holds s i t' := by
  cases hp with
  | busy c => exact Holds.idle c.idle_ne
  | watch _ ht' => exact Holds.idle fun c k st he => by rw [he] at ht'; cases ht'
  | enter | replace | reconnect => exact trivial
  | snapshot | dial | failSnapshot | failDial | failApply | refuse | concede | cancel => exact h

theorem State.Tokens.step (hT : s.Turns) (hK : s.Tokens) (hok : KeptApart s a)
    (hs : s.step a = some s') : s'.Tokens := by
  cases move_of_step hs with
  | connect =>
    exact (hK.mono fun _ _ _ hu => hu.keep rfl rfl rfl rfl).spawn trivial
  | disconnect => exact hK.spawn trivial
  | @pass i o t t' ht hp =>
    exact hK.set ((hK i t ht).pass hp) fun _ _ _ _ hu => hu.keep rfl rfl rfl rfl
  | @claim i o c go ht hfree =>
    have hnew := List.all_eq_true.mp (hok _ ht)
    refine hK.set (fun _ => ⟨rfl, fun _ => rfl⟩) fun j u _ hj hu => ?_
    cases u with
    | attempt c' k st =>
      intro hk
      have hno := hnew _ (List.mem_of_getElem? hj)
      simp [Task.holds, show k = s.connectToken + 1 from hk] at hno
    | _ => exact trivial
  | @apply i o c k b ht =>
    exact hK.set ((hK i _ ht).keep rfl rfl rfl rfl) fun _ _ _ _ hu => hu.keep rfl rfl rfl rfl
  | @install i o c k b ht hph htok =>
    obtain ⟨hi, -⟩ := hK i _ ht htok.symm
    exact hK.set (Holds.idle c.idle_ne) fun j u hne _ hu => hu.other rfl (hi ▸ hne)
  | @rollback i o c k b ht =>
    exact hK.set ((hK i _ ht).keep rfl rfl rfl rfl) fun _ _ _ _ hu => hu.keep rfl rfl rfl rfl
  | @release i o c k ht =>
    refine hK.set (Holds.idle (c.failed_ne o)) fun j u hne _ hu => ?_
    by_cases hph : s.phase = .connecting
    · obtain ⟨hi, -⟩ := hK i _ ht (hok _ ht hph)
      exact hu.other rfl (hi ▸ hne)
    · exact hu.keep rfl rfl rfl (if_neg hph)
  | @yield i o r ht hph =>
    exact hK.set (Holds.idle r.next_ne) fun _ _ _ _ hu => hu.keep rfl rfl rfl rfl
  | @tear i o r ht hph =>
    have hmine : Holds (s.tear i r) i
        (if r.restores then .restore r s.proxyBackup else .settle r) := by
      split <;> exact trivial
    refine hK.set hmine fun j u _ _ hu => ?_
    cases u with
    | attempt c k st => exact fun hk => ⟨(hu hk).1, nofun⟩
    | _ => exact trivial
  | restore | recover | forget => exact hK.set trivial fun _ _ _ _ hu => hu.keep rfl rfl rfl rfl
  | @settle i o r ht =>
    refine hK.set (Holds.idle r.next_ne) fun j u _ _ hu => ?_
    cases u with
    | attempt c k st =>
      intro hk
      refine ⟨(hu hk).1, fun hcut => ?_⟩
      have hph := (hT.each i _ ht).1
      rw [(hu hk).2 hcut] at hph
      cases hph
    | _ => exact trivial

theorem State.Tokens.path {settings : Nat}
    (h : Path State.step KeptApart (State.start settings) s) : s.Tokens := by
  have h0 : (State.start settings).Tokens := by
    have hnil : Each [] (Holds (State.start settings)) := Each.nil
    exact hnil.spawn trivial
  have hboth : s.Turns ∧ s.Tokens := by
    refine h.invariant (I := fun s => s.Turns ∧ s.Tokens) ⟨.start settings, h0⟩ ?_
    exact fun _ _ _ hI hok hs => ⟨hI.1.step hs, hI.2.step hI.1 hok hs⟩
  exact hboth.2

/-- What belongs to the attempt in charge: the phase, the installed tunnel, the snapshot, and the
other threads with their own snapshots. -/
def State.Untouched (s s' : State) (i : Nat) : Prop :=
  s'.phase = s.phase ∧ s'.vpn = s.vpn ∧ s'.proxyBackup = s.proxyBackup ∧
    ∀ j, j ≠ i → s'.tasks[j]? = s.tasks[j]?

theorem State.Untouched.become (t : Task) (hph : s'.phase = s.phase) (hvpn : s'.vpn = s.vpn)
    (hbackup : s'.proxyBackup = s.proxyBackup) (htasks : s'.tasks = s.tasks.set i t) :
    s.Untouched s' i :=
  ⟨hph, hvpn, hbackup, fun j hne => by rw [htasks, List.getElem?_set_ne (Ne.symm hne)]⟩

/-- **A superseded attempt touches nothing**, exactly when its step is not the drop of its guard
while someone is connecting. -/
theorem superseded_step_iff {o : Outcome} {k : UInt64} {st : Stage}
    (ht : s.tasks[i]? = some (.attempt c k st)) (hold : k ≠ s.connectToken)
    (hs : s.step (.run i o) = some s') :
    s.Untouched s' i ↔ ¬ (st = .release ∧ s.phase = .connecting) := by
  rw [step_of_task ht] at hs
  cases hs
  cases st with
  | snapshot | dial | judge | rollback => exact iff_of_true (.become _ rfl rfl rfl rfl) nofun
  | apply b =>
    refine iff_of_true ?_ nofun
    simp only [State.advance]
    split <;> exact .become _ rfl rfl rfl rfl
  | install b =>
    refine iff_of_true ?_ nofun
    have hno : ¬ canInstallConnection s.phase s.connectToken k = true := by
      simp only [canInstallConnection, Bool.and_eq_true, beq_iff_eq]
      exact fun hmay => hold hmay.2.symm
    rw [State.advance, if_neg hno]
    exact .become _ rfl rfl rfl rfl
  | release =>
    by_cases hph : s.phase = .connecting
    · refine iff_of_false (fun hU => ?_) (fun hno => hno ⟨rfl, hph⟩)
      have hidle : (s.advance i c k o .release).phase = .idle := if_pos hph
      rw [hU.1, hph] at hidle
      cases hidle
    · exact iff_of_true (.become _ (if_neg hph) rfl rfl rfl) fun hno => hph hno.2

/-- An attempt with the current token installs its tunnel, if no teardown began since it claimed the
phase. -/
theorem State.Tokens.installs (hK : s.Tokens) {b : Proxy}
    (ht : s.tasks[i]? = some (.attempt c s.connectToken (.install b))) (hcut : s.cut = false)
    (o : Outcome) : s.step (.run i o) = some (s.install i c b) := by
  have hph := (hK i _ ht rfl).2 hcut
  have hmay : canInstallConnection s.phase s.connectToken s.connectToken = true := by
    simp [canInstallConnection, hph]
  rw [step_of_task ht, State.exec, State.advance, if_pos hmay]

/-- **When a superseded attempt leaves the newer one alone.**  A step of an attempt whose token is
not current leaves the phase, the installed tunnel, the snapshot and the other threads as they are
if and only if it is not the drop of its guard while someone is connecting.  In every run whose
attempts are kept apart no such step touches them, and the attempt with the current token whose
client and proxy came up, with no teardown begun since it claimed the phase, ends with its tunnel
installed and the phase Connected. -/
theorem superseded_attempt_harmless_iff (settings : Nat) :
    (∀ (s s' : State) (i : Nat) (o : Outcome) (c : Caller) (k : UInt64) (st : Stage),
      Reachable State.step (State.start settings) s → s.tasks[i]? = some (.attempt c k st) →
      k ≠ s.connectToken → s.step (.run i o) = some s' →
      (s.Untouched s' i ↔ ¬ (st = .release ∧ s.phase = .connecting))) ∧
    (∀ s : State, Path State.step KeptApart (State.start settings) s →
      (∀ (s' : State) (i : Nat) (o : Outcome) (c : Caller) (k : UInt64) (st : Stage),
        s.tasks[i]? = some (.attempt c k st) → k ≠ s.connectToken → KeptApart s (.run i o) →
        s.step (.run i o) = some s' → s.Untouched s' i) ∧
      (∀ (i : Nat) (o : Outcome) (c : Caller) (b : Proxy),
        s.tasks[i]? = some (.attempt c s.connectToken (.install b)) → s.cut = false →
        ∃ s', s.step (.run i o) = some s' ∧ s'.phase = .connected ∧ s'.vpn = some i ∧
          s'.proxyBackup = some b)) := by
  refine ⟨fun s s' i o c k st _ ht hold hs => superseded_step_iff ht hold hs,
    fun s h => ⟨fun s' i o c k st ht hold hok hs => ?_, fun i o c b ht hcut => ?_⟩⟩
  · refine (superseded_step_iff ht hold hs).mpr ?_
    rintro ⟨rfl, hph⟩
    exact hold (hok _ ht hph)
  · exact ⟨_, (State.Tokens.path h).installs ht hcut o, rfl, rfl, rfl⟩

/-- The first attempt is slow, the user disconnects and connects again, and the client and the proxy
of the second attempt come up. -/
def overtakenAttempt : List Action :=
  .connect :: go 1 3 ++ .disconnect :: go 2 3 ++ .connect :: go 3 5

/-- **The first attempt then fails, and its guard takes the phase of the second one**, which holds
the current token, is not disconnected, and is not installed. -/
theorem superseded_attempt_takes_phase :
    (run State.step (.start 7) overtakenAttempt).map
        (fun s => (s.phase, s.connectToken, s.cut, s.tasks)) =
      some (.connecting, 2, false,
        [.tick, .attempt .user 1 (.dial (.own 7)), .done, .attempt .user 2 (.install (.own 7))]) ∧
    (run State.step (.start 7) (overtakenAttempt ++ [.run 1 .bad, .run 1 .bad])).map
        (fun s => (s.phase, s.connectToken, s.cut)) = some (.idle, 2, false) ∧
    (run State.step (.start 7) (overtakenAttempt ++ [.run 1 .bad, .run 1 .bad] ++ go 3 4)).map
        (fun s => (s.phase, s.vpn, s.tasks)) =
      some (.idle, none, [.tick, .done, .done, .done]) := by decide +kernel

/-- The second attempt is installed when it gets there before the guard of the first one is
dropped. -/
theorem superseded_attempt_harmless_iff_first :
    (run State.step (.start 7) (overtakenAttempt ++ [.run 1 .bad])).map
        (fun s => (s.cut, s.tasks[3]?)) =
      some (false, some (.attempt .user 2 (.install (.own 7)))) ∧
    ∀ s, run State.step (.start 7) (overtakenAttempt ++ [.run 1 .bad]) = some s →
      ∃ s', s.step (.run 3 .good) = some s' ∧ s'.phase = .connected ∧ s'.vpn = some 3 ∧
        s'.proxyBackup = some (.own 7) := by
  refine ⟨by decide +kernel, fun s hs => ?_⟩
  have hat : (run State.step (.start 7) (overtakenAttempt ++ [.run 1 .bad])).map
      (fun s => (s.cut, s.connectToken, s.tasks[3]?)) =
    some (false, 2, some (.attempt .user 2 (.install (.own 7)))) := by decide +kernel
  rw [hs] at hat
  obtain ⟨hcut, htok, ht⟩ : s.cut = false ∧ s.connectToken = 2 ∧
      s.tasks[3]? = some (.attempt .user 2 (.install (.own 7))) := by
    simpa only [Option.map_some, Option.some.injEq, Prod.mk.injEq] using hat
  rw [← htok] at ht
  exact ((superseded_attempt_harmless_iff 7).2 s (Path.of_run (by decide +kernel) hs)).2 3 .good
    .user (.own 7) ht hcut

end BibaVpn.Apps.Desktop
