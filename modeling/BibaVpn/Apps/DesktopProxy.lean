/-
# The system proxy of the user (desktop)

While the app is connected, the system proxy points to it; the settings of the user wait in
`proxy_backup`, and a disconnect gives them back.  On the way there the snapshot travels: it is read
from the system by a connect attempt that finds none in `Inner`, kept in a local variable while the
client starts, moved to `Inner` when the tunnel is installed, and taken out by a teardown.

* §1 is the watchdog: one thread, which clears `recovery_pending` only when it is clear already;
* §2 says who owes the user the settings whenever the system proxy is not theirs, and that every
  hand-over keeps that, as long as attempts do not overlap and the watchdog tears down only what it
  is to recover;
* §3 draws the conclusion, and shows two overlapping attempts that lose the settings.
-/
import BibaVpn.Apps.Desktop

namespace BibaVpn.Apps.Desktop

open Lts Tasks

/-! ## 1. The one watchdog -/

def Return.ofWatchdog : Return → Bool
  | .user => false
  | .connect c => c == .watchdog
  | .recovery | .exhaustion => true

/-- The thread is the watchdog, wherever it is. -/
def Task.ofWatchdog : Task → Bool
  | .connect c | .claim c | .attempt c _ _ => c == .watchdog
  | .disconnect r | .restore r _ | .settle r => r.ofWatchdog
  | .tick | .retry | .probe | .resume | .forget => true
  | .done => false

/-- The watchdog is thread 0, and what it is about to forget is not pending. -/
def Lone (s : State) (i : Nat) (t : Task) : Prop :=
  (t.ofWatchdog = true → i = 0) ∧ (t = .forget → s.recoveryPending = false)

def State.Watched (s : State) : Prop := Each s.tasks (Lone s)

theorem Passes.ofWatchdog {s : State} {t t' : Task} (h : Passes s t t') :
    (t'.ofWatchdog = true → t.ofWatchdog = true) ∧ t' ≠ .forget := by
  cases h with
  | busy c => cases c <;> exact ⟨id, nofun⟩
  | watch ht ht' =>
    refine ⟨fun _ => ?_, fun he => by subst he; cases ht'⟩
    cases t <;> first | rfl | cases ht
  | reconnect ht =>
    refine ⟨fun _ => ?_, nofun⟩
    cases t <;> first | rfl | cases ht
  | _ => exact ⟨id, nofun⟩

theorem Caller.idle_watchdog (c : Caller) : c.idle.ofWatchdog = (c == .watchdog) := by
  cases c <;> rfl

theorem Caller.failed_watchdog (c : Caller) (o : Outcome) :
    (c.failed o).ofWatchdog = (c == .watchdog) := by
  cases c <;> cases o <;> rfl

theorem Caller.failed_ne_forget (c : Caller) (o : Outcome) : c.failed o ≠ .forget := by
  cases c <;> cases o <;> exact nofun

theorem Return.next_watchdog (r : Return) : r.next.ofWatchdog = r.ofWatchdog := by
  cases r <;> rfl

theorem Return.next_eq_forget {r : Return} (h : r.next = .forget) : r = .exhaustion := by
  cases r <;> first | rfl | cases h

/-- A thread moves; what is pending stays. -/
theorem State.Watched.move {s s' : State} (h : s.Watched) {i : Nat} {t t' : Task}
    (htasks : s'.tasks = s.tasks.set i t') (ht : s.tasks[i]? = some t)
    (hwatch : t'.ofWatchdog = true → t.ofWatchdog = true)
    (hforget : t' = .forget → s'.recoveryPending = false)
    (hrec : s.recoveryPending = false → s'.recoveryPending = false) : s'.Watched := by
  unfold State.Watched
  rw [htasks]
  exact h.set ⟨fun hw => (h i t ht).1 (hwatch hw), hforget⟩ fun j u _ _ hu =>
    ⟨hu.1, fun hf => hrec (hu.2 hf)⟩

/-- During a teardown that some other thread began, the watchdog has nothing pending. -/
theorem State.Watched.not_pending {s : State} (h : s.Watched) (hT : s.Turns) {i : Nat}
    {r : Return} (ht : s.tasks[i]? = some (.disconnect r)) (hr : r.ofWatchdog = true)
    (hph : s.phase = .disconnecting) : s.recoveryPending = false := by
  obtain ⟨t, r', ht', htears⟩ := hT.busy hph
  have hi : i = 0 := (h i _ ht).1 hr
  have hother : r'.restores = true := by
    cases hr' : r' with
    | recovery =>
      -- it would be the watchdog, which is at its call of `disconnect_inner`
      have hw : t.ofWatchdog = true := by
        subst hr'
        cases t <;> first | exact htears.elim | (cases htears; rfl)
      have h0 : s.disconnector = 0 := (h _ t ht').1 hw
      rw [h0, ← hi, ht] at ht'
      cases ht'
      exact htears.elim
    | _ => rfl
  have hturn := hT.each _ t ht'
  cases t <;> first | exact htears.elim | (cases htears; exact hturn.2.2 hother)

theorem State.Watched.step {s s' : State} {a : Action} (hT : s.Turns) (h : s.Watched)
    (hs : s.step a = some s') : s'.Watched := by
  cases move_of_step hs with
  | connect =>
    have hall : Each s.tasks (Lone { s with off := false }) := h
    exact hall.spawn ⟨nofun, nofun⟩
  | disconnect => exact h.spawn ⟨nofun, nofun⟩
  | pass ht hp =>
    exact h.move rfl ht hp.ofWatchdog.1 (fun hf => absurd hf hp.ofWatchdog.2) id
  | claim go ht hfree => exact h.move rfl ht id nofun id
  | apply ht => exact h.move rfl ht id nofun id
  | @install i o c k b ht hph htok =>
    exact h.move rfl ht (c.idle_watchdog ▸ id) (fun _ => rfl) (fun _ => rfl)
  | rollback ht => exact h.move rfl ht id nofun id
  | @release i o c k ht =>
    exact h.move rfl ht (c.failed_watchdog o ▸ id) (fun hf => absurd hf (c.failed_ne_forget o)) id
  | @yield i o r ht hph =>
    refine h.move rfl ht (r.next_watchdog ▸ id) (fun hf => ?_) id
    exact h.not_pending hT ht (by rw [Return.next_eq_forget hf]; rfl) hph
  | @tear i o r ht hph =>
    refine h.move rfl ht ?_ ?_ fun hrec => ?_
    · split <;> exact id
    · split <;> exact nofun
    · show (s.recoveryPending && _) = false
      rw [hrec]
      rfl
  | restore ht => exact h.move rfl ht id nofun id
  | @settle i o r ht =>
    refine h.move rfl ht (r.next_watchdog ▸ id) (fun hf => ?_) id
    exact (hT.each i _ ht).2.2 (by rw [Return.next_eq_forget hf]; rfl)
  | @recover i o ht hph =>
    have hi : i = 0 := (h i _ ht).1 rfl
    refine h.set ⟨fun _ => hi, nofun⟩ fun j u hne _ hu => ⟨hu.1, fun hf => ?_⟩
    subst hf
    exact absurd ((hu.1 rfl).trans hi.symm) hne
  | forget ht => exact h.move rfl ht (fun _ => rfl) nofun (fun _ => rfl)

theorem State.Watched.start (settings : Nat) : (State.start settings).Watched := by
  have hnil : Each [] (Lone (State.start settings)) := Each.nil
  exact hnil.spawn ⟨fun _ => rfl, nofun⟩

/-! ## 2. Who owes the settings -/

/-- The thread is a connect attempt that has claimed the phase and has not returned. -/
def Task.inFlight : Task → Bool
  | .attempt .. => true
  | _ => false

def State.noneInFlight (s : State) : Bool := s.tasks.all fun t => !t.inFlight

theorem State.noneInFlight_spec {s : State} (h : s.noneInFlight = true) {i : Nat} {t : Task}
    (ht : s.tasks[i]? = some t) : t.inFlight = false := by
  simpa using List.all_eq_true.mp h t (List.mem_of_getElem? ht)

/-- What hands the settings over safely.  An attempt claims the phase only when it is Idle and no
other attempt is in flight, and the watchdog begins its teardown only while the recovery is
pending. -/
def HandsOver (s : State) : Task → Prop
  | .claim _ => s.phase ≠ .connected ∧ (s.phase = .idle → s.noneInFlight = true)
  | .disconnect .recovery => s.phase ≠ .disconnecting → s.recoveryPending = true
  | _ => True

instance (s : State) : DecidablePred (HandsOver s)
  | .claim _ => inferInstanceAs (Decidable (_ ∧ (_ → _)))
  | .disconnect .recovery => inferInstanceAs (Decidable (_ → _))
  | .disconnect .user | .disconnect (.connect _) | .disconnect .exhaustion => isTrue trivial
  | .connect _ | .attempt .. | .restore .. | .settle _ | .tick | .retry | .probe | .resume | .forget
  | .done => isTrue trivial

def HandedOver (s : State) : Action → Prop
  | .run i _ => ∀ t ∈ s.tasks[i]?, HandsOver s t
  | _ => True

instance (s : State) : DecidablePred (HandedOver s)
  | .run i _ => inferInstanceAs (Decidable (∀ t ∈ s.tasks[i]?, HandsOver s t))
  | .connect | .disconnect => isTrue trivial

/-- What an attempt carries when the settings of the user are `v`. -/
def Stage.Carries (v : Proxy) (s : State) : Stage → Prop
  | .snapshot none => s.os = v
  | .snapshot (some b) | .dial b | .apply b | .install b => b = v
  | .judge b | .rollback b => b = v ∧ s.phase ≠ .connecting
  | .release => True

/-- What a thread carries. -/
def Carries (v : Proxy) (s : State) (i : Nat) : Task → Prop
  | .attempt _ k st => i = s.connector ∧ k = s.connectToken ∧ st.Carries v s
  | .restore _ b => (∀ x ∈ b, x = v) ∧ s.proxyBackup = none
  | _ => True

/-- The thread is going to set the system proxy back, or to install a tunnel with the snapshot. -/
def Task.Owes : Task → Prop
  | .attempt _ _ (.install _) | .attempt _ _ (.judge _) | .attempt _ _ (.rollback _) => True
  | .restore _ (some _) => True
  | _ => False

/-- **The settings `v` of the user are never lost.**  They are in the system proxy, or the snapshot
in `Inner` belongs to a tunnel or to a pending recovery, or some thread owes them. -/
structure State.Honest (v : Proxy) (s : State) : Prop where
  each : Each s.tasks (Carries v s)
  backup : ∀ b ∈ s.proxyBackup, b = v
  kept : s.phase = .connected ∨ s.recoveryPending = true → s.proxyBackup.isSome = true
  os : s.os = v ∨ (s.phase = .connected ∨ s.recoveryPending = true) ∨ Any s.tasks Task.Owes

variable {v : Proxy} {s s' : State} {i : Nat} {t t' : Task}

theorem Stage.Carries.keep {st : Stage} (h : st.Carries v s) (hos : s.os = v → s'.os = v)
    (hph : s.phase ≠ .connecting → s'.phase ≠ .connecting) : st.Carries v s' := by
  cases st with
  | snapshot saved =>
    cases saved with
    | none => exact hos h
    | some b => exact h
  | judge | rollback => exact ⟨h.1, hph h.2⟩
  | _ => exact h

theorem Carries.keep (h : Carries v s i t) (hcon : s'.connector = s.connector)
    (htok : s'.connectToken = s.connectToken) (hos : s.os = v → s'.os = v)
    (hph : s.phase ≠ .connecting → s'.phase ≠ .connecting)
    (hback : s.proxyBackup = none → s'.proxyBackup = none) : Carries v s' i t := by
  cases t with
  | attempt c k st => exact ⟨h.1.trans hcon.symm, h.2.1.trans htok.symm, h.2.2.keep hos hph⟩
  | restore r b => exact ⟨h.1, hback h.2⟩
  | _ => exact trivial

/-- Only the attempt that claimed the phase last is in flight. -/
theorem Carries.not_inFlight (h : Carries v s i t) (hne : i ≠ s.connector) :
    t.inFlight = false := by
  cases t with
  | attempt c k st => exact absurd h.1 hne
  | _ => rfl

theorem Carries.idle (h : Carries v s i t) (hidle : t.inFlight = false)
    (hback : s.proxyBackup = none → s'.proxyBackup = none) : Carries v s' i t := by
  cases t with
  | attempt c k st => cases hidle
  | restore r b => exact ⟨h.1, hback h.2⟩
  | _ => exact trivial

/-- A thread that is neither an attempt nor restores carries nothing. -/
theorem Carries.free (hidle : t.inFlight = false) (htears : ∀ r, ¬ t.tears r) :
    Carries v s i t := by
  cases t with
  | attempt c k st => cases hidle
  | restore r b => exact absurd rfl (htears r)
  | _ => exact trivial

theorem Caller.idle_inFlight (c : Caller) : c.idle.inFlight = false := by
  cases c <;> rfl

theorem Caller.failed_inFlight (c : Caller) (o : Outcome) : (c.failed o).inFlight = false := by
  cases c <;> cases o <;> rfl

theorem Return.next_inFlight (r : Return) : r.next.inFlight = false := by
  cases r <;> rfl

/-- A thread that only moves itself carries on, and still owes what it owed. -/
theorem Carries.pass (h : Carries v s i t) (hp : Passes s t t') :
    Carries v s i t' ∧ (t.Owes → t'.Owes) := by
  cases hp with
  | enter c => exact ⟨trivial, id⟩
  | replace c => exact ⟨trivial, id⟩
  | busy c => exact ⟨Carries.free c.idle_inFlight c.idle_free, False.elim⟩
  | snapshot c k saved =>
    refine ⟨⟨h.1, h.2.1, ?_⟩, False.elim⟩
    cases saved with
    | none => exact h.2.2
    | some b => exact h.2.2
  | dial c k b => exact ⟨h, False.elim⟩
  | failSnapshot | failDial | failApply => exact ⟨⟨h.1, h.2.1, trivial⟩, False.elim⟩
  | refuse c k b hno =>
    exact ⟨⟨h.1, h.2.1, h.2.2, fun hph => hno ⟨hph, h.2.1.symm⟩⟩, fun _ => trivial⟩
  | concede c k b hph => exact absurd hph h.2.2.2
  | cancel c k b hph => exact ⟨h, fun _ => trivial⟩
  | watch ht ht' =>
    constructor
    · cases t' <;> first | exact trivial | cases ht'
    · cases t <;> first | exact False.elim | cases ht
  | reconnect ht =>
    refine ⟨trivial, ?_⟩
    cases t <;> first | exact False.elim | cases ht

namespace State

/-- With nothing pending and nobody in flight, the settings are in the system proxy. -/
theorem Honest.given (h : s.Honest v) (hT : s.Turns) (hph : s.phase = .idle)
    (hrec : s.recoveryPending = false) (hnone : s.noneInFlight = true) : s.os = v := by
  rcases h.os with hos | (hconn | hrec') | ⟨j, u, hj, hu⟩
  · exact hos
  · rw [hph] at hconn; cases hconn
  · rw [hrec] at hrec'; cases hrec'
  · have hidle := noneInFlight_spec hnone hj
    have hturn := hT.each j u hj
    cases u with
    | attempt c k st => cases hidle
    | restore r b =>
      have hd := hturn.1
      rw [hph] at hd
      cases hd
    | _ => exact hu.elim

theorem Honest.claim (h : s.Honest v) (hT : s.Turns) {c : Caller} (go : Bool)
    (ht : s.tasks[i]? = some (.claim c)) (hph : s.phase = .idle) (hnone : s.noneInFlight = true) :
    (s.claim i c go).Honest v := by
  have hmine : Carries v (s.claim i c go) i (.attempt c (s.connectToken + 1)
      (if go then .snapshot s.proxyBackup else .release)) := by
    refine ⟨rfl, rfl, ?_⟩
    cases go with
    | false => exact trivial
    | true =>
      show Stage.Carries v _ (.snapshot s.proxyBackup)
      cases hb : s.proxyBackup with
      | some b => exact h.backup b hb
      | none =>
        -- no snapshot means that no recovery is pending
        have hrec : s.recoveryPending = false := by
          cases hrec : s.recoveryPending with
          | false => rfl
          | true => have := h.kept (.inr hrec); rw [hb] at this; cases this
        exact h.given hT hph hrec hnone
  refine ⟨h.each.set hmine fun j u _ hj hu => hu.idle (noneInFlight_spec hnone hj) id, h.backup,
    ?_, ?_⟩
  · rintro (hconn | hrec)
    · cases hconn
    · exact h.kept (.inr hrec)
  · rcases h.os with hos | (hconn | hrec) | howes
    · exact .inl hos
    · rw [hph] at hconn; cases hconn
    · exact .inr (.inl (.inr hrec))
    · exact .inr (.inr (howes.set ht False.elim))

theorem Honest.tear (h : s.Honest v) {r : Return} (ht : s.tasks[i]? = some (.disconnect r))
    (hrec : r.restores = false → s.recoveryPending = true) : (s.tear i r).Honest v := by
  have hback : s.proxyBackup = none → (s.tear i r).proxyBackup = none := by
    intro hb
    show (if _ then _ else _) = _
    split
    · rfl
    · exact hb
  have hothers : ∀ j u, j ≠ i → s.tasks[j]? = some u → Carries v s j u →
      Carries v (s.tear i r) j u :=
    fun j u _ _ hu => hu.keep rfl rfl id (fun _ h => by cases h) hback
  cases hr : r.restores with
  | true =>
    have htasks : (s.tear i r).tasks = s.tasks.set i (.restore r s.proxyBackup) := by
      simp [State.tear, become, hr]
    have hnone : (s.tear i r).proxyBackup = none := by simp [State.tear, become, hr]
    have hclear : (s.tear i r).recoveryPending = false := by simp [State.tear, become, hr]
    refine ⟨?_, ?_, ?_, ?_⟩
    · rw [htasks]
      exact h.each.set ⟨h.backup, hnone⟩ hothers
    · intro x hx
      rw [hnone] at hx
      cases hx
    · rintro (hconn | hrec)
      · cases hconn
      · rw [hclear] at hrec; cases hrec
    · rw [htasks]
      rcases h.os with hos | hkept | howes
      · exact .inl hos
      · obtain ⟨b, hb⟩ := Option.isSome_iff_exists.mp (h.kept hkept)
        exact .inr (.inr (Any.here ht (by rw [hb]; exact trivial)))
      · exact .inr (.inr (howes.set ht False.elim))
  | false =>
    have htasks : (s.tear i r).tasks = s.tasks.set i (.settle r) := by
      simp [State.tear, become, hr]
    have hsame : (s.tear i r).proxyBackup = s.proxyBackup := by simp [State.tear, become, hr]
    have hpending : (s.tear i r).recoveryPending = true := by
      simp [State.tear, become, hr, hrec hr]
    refine ⟨?_, ?_, ?_, .inr (.inl (.inr hpending))⟩
    · rw [htasks]
      exact h.each.set trivial hothers
    · rw [hsame]; exact h.backup
    · rw [hsame]; exact fun _ => h.kept (.inr (hrec hr))

theorem Honest.restore (h : s.Honest v) (hv : v ≠ .biba) {r : Return} {b : Option Proxy}
    (ht : s.tasks[i]? = some (.restore r b)) :
    ({ s with os := s.os.restore b }.become i (.settle r)).Honest v := by
  have hmine := h.each i _ ht
  have hsame : s.os = v → s.os.restore b = v := by
    intro hos
    cases b with
    | some x => exact hmine.1 x rfl
    | none => rw [hos, Proxy.restore, if_neg hv]
  refine ⟨h.each.set trivial fun j u _ _ hu => hu.keep rfl rfl hsame id id, h.backup, h.kept, ?_⟩
  cases b with
  | some x => exact .inl (hmine.1 x rfl)
  | none =>
    rcases h.os with hos | hkept | howes
    · exact .inl (hsame hos)
    · exact .inr (.inl hkept)
    · exact .inr (.inr (howes.set ht False.elim))

/-- **Every hand-over keeps the settings.** -/
theorem Honest.step {a : Action} (hT : s.Turns) (hW : s.Watched) (h : s.Honest v) (hv : v ≠ .biba)
    (hok : HandedOver s a) (hs : s.step a = some s') : s'.Honest v := by
  cases move_of_step hs with
  | connect =>
    refine ⟨(h.each.mono fun _ _ _ hu => hu.keep rfl rfl id id id).spawn trivial, h.backup,
      h.kept, ?_⟩
    exact h.os.imp_right (Or.imp_right fun howes => howes.spawn _)
  | disconnect =>
    refine ⟨h.each.spawn trivial, h.backup, h.kept, ?_⟩
    exact h.os.imp_right (Or.imp_right fun howes => howes.spawn _)
  | @pass i o t t' ht hp =>
    obtain ⟨hmine, howe⟩ := (h.each i t ht).pass hp
    refine ⟨h.each.set hmine fun _ _ _ _ hu => hu.keep rfl rfl id id id, h.backup, h.kept, ?_⟩
    exact h.os.imp_right (Or.imp_right fun howes => howes.set ht howe)
  | claim go ht hfree =>
    obtain ⟨hconn, hnone⟩ := hok _ ht
    have hph : s.phase = .idle := hfree.resolve_right hconn
    exact h.claim hT go ht hph (hnone hph)
  | @apply i o c k b ht =>
    obtain ⟨hi, hk, hb⟩ := h.each i _ ht
    refine ⟨h.each.set ⟨hi, hk, hb⟩ fun j u hne _ hu => ?_, h.backup, h.kept, ?_⟩
    · exact hu.idle (hu.not_inFlight (hi ▸ hne)) id
    · exact .inr (.inr (Any.here ht trivial))
  | @install i o c k b ht hph htok =>
    obtain ⟨hi, hk, hb⟩ := h.each i _ ht
    refine ⟨h.each.set (Carries.free c.idle_inFlight c.idle_free) fun j u hne hj hu => ?_, ?_,
      fun _ => rfl, .inr (.inl (.inl rfl))⟩
    · cases u with
      | attempt c' k' st => exact absurd (hu.1.trans hi.symm) hne
      | restore r b' =>
        have hd := (hT.each j _ hj).1
        rw [hph] at hd
        cases hd
      | _ => exact trivial
    · intro x hx
      cases hx
      exact hb
  | @rollback i o c k b ht =>
    obtain ⟨hi, hk, hb, -⟩ := h.each i _ ht
    refine ⟨h.each.set ⟨hi, hk, trivial⟩ fun j u hne _ hu => ?_, h.backup, h.kept, .inl hb⟩
    exact hu.idle (hu.not_inFlight (hi ▸ hne)) id
  | @release i o c k ht =>
    have hmine : Carries v (s.release.become i (c.failed o)) i (c.failed o) :=
      Carries.free (c.failed_inFlight o) (c.failed_free o)
    have hphase : ∀ p : Phase, p ≠ .idle → s.release.phase = p → s.phase = p := by
      intro p hp he
      simp only [State.release] at he
      split at he
      · exact absurd he.symm hp
      · exact he
    refine ⟨h.each.set hmine fun j u _ _ hu => ?_, h.backup, ?_, ?_⟩
    · exact hu.keep rfl rfl id (fun hne he => hne (hphase _ (by decide) he)) id
    · rintro (hconn | hrec)
      · exact h.kept (.inl (hphase _ (by decide) hconn))
      · exact h.kept (.inr hrec)
    · rcases h.os with hos | (hconn | hrec) | howes
      · exact .inl hos
      · refine .inr (.inl (.inl ?_))
        show phase s.release = _
        rw [State.release, hconn]
        rfl
      · exact .inr (.inl (.inr hrec))
      · exact .inr (.inr (howes.set ht False.elim))
  | @yield i o r ht hph =>
    have hmine : Carries v (s.return i r) i r.next := Carries.free r.next_inFlight r.next_free
    refine ⟨h.each.set hmine fun _ _ _ _ hu => hu.keep rfl rfl id id id, h.backup, h.kept, ?_⟩
    exact h.os.imp_right (Or.imp_right fun howes => howes.set ht False.elim)
  | @tear i o r ht hph =>
    refine h.tear ht fun hr => ?_
    cases r with
    | recovery => exact hok _ ht hph
    | _ => cases hr
  | restore ht => exact h.restore hv ht
  | @settle i o r ht =>
    have hph := (hT.each i _ ht).1
    have hmine : Carries v ({ s with phase := .idle }.return i r) i r.next :=
      Carries.free r.next_inFlight r.next_free
    refine ⟨h.each.set hmine fun _ _ _ _ hu => ?_, h.backup, ?_, ?_⟩
    · exact hu.keep rfl rfl id (fun _ h => by cases h) id
    · rintro (hconn | hrec)
      · cases hconn
      · exact h.kept (.inr hrec)
    · rcases h.os with hos | (hconn | hrec) | howes
      · exact .inl hos
      · rw [hph] at hconn; cases hconn
      · exact .inr (.inl (.inr hrec))
      · exact .inr (.inr (howes.set ht False.elim))
  | @recover i o ht hph =>
    refine ⟨h.each.set trivial fun _ _ _ _ hu => hu.keep rfl rfl id id id, h.backup, ?_, ?_⟩
    · exact fun _ => h.kept (.inl hph)
    · exact .inr (.inl (.inl hph))
  | @forget i o ht =>
    have hrec : s.recoveryPending = false := (hW i _ ht).2 rfl
    refine ⟨h.each.set trivial fun _ _ _ _ hu => hu.keep rfl rfl id id id, h.backup, ?_, ?_⟩
    · rintro (hconn | hrec')
      · exact h.kept (.inl hconn)
      · cases hrec'
    · rcases h.os with hos | (hconn | hrec') | howes
      · exact .inl hos
      · exact .inr (.inl (.inl hconn))
      · rw [hrec] at hrec'; cases hrec'
      · exact .inr (.inr (howes.set ht False.elim))

theorem Honest.path {settings : Nat} (h : Path State.step HandedOver (start settings) s) :
    s.Turns ∧ s.Honest (.own settings) := by
  have h0 : (start settings).Honest (.own settings) := by
    have hnil : Each [] (Carries (.own settings) (start settings)) := Each.nil
    refine ⟨hnil.spawn trivial, nofun, ?_, .inl rfl⟩
    rintro (hconn | hrec)
    · cases hconn
    · cases hrec
  have hall : s.Turns ∧ s.Watched ∧ s.Honest (.own settings) := by
    refine h.invariant (I := fun s => s.Turns ∧ s.Watched ∧ s.Honest (.own settings))
      ⟨.start settings, .start settings, h0⟩ ?_
    rintro s a s' ⟨hT, hW, hH⟩ hok hs
    exact ⟨hT.step hs, hW.step hT hs, hH.step hT hW nofun hok hs⟩
  exact ⟨hall.1, hall.2.2⟩

end State

/-! ## 3. The settings are given back -/

/-- **When the user's proxy settings are given back.**  In every run in which an attempt claims the
phase only when it is Idle and no other attempt is in flight, and the watchdog begins its teardown
only while the recovery is pending: whenever the phase is Idle, no recovery is pending and no
attempt is in flight, the system proxy is what it was before the first connect; and the snapshot in
`Inner` is never the proxy of the app. -/
theorem proxy_given_back :
    ∀ (settings : Nat) (s : State), Path State.step HandedOver (State.start settings) s →
      (s.phase = .idle → s.recoveryPending = false → s.noneInFlight = true →
        s.os = .own settings) ∧
      s.proxyBackup ≠ some .biba := by
  intro settings s h
  obtain ⟨hT, hH⟩ := State.Honest.path h
  refine ⟨hH.given hT, fun hb => ?_⟩
  exact absurd (hH.backup _ hb) nofun

/-- The first attempt is about to apply its proxy when the user disconnects and connects again; it
applies it before the second attempt takes its snapshot. -/
def overlappingAttempts : List Action :=
  .connect :: go 1 4 ++ .disconnect :: go 2 3 ++ .connect :: go 3 2 ++ go 1 1 ++ go 3 4

/-- **The second attempt takes the proxy of the app for the user's**: it is what `Inner` keeps, and
what the next disconnect puts into the system proxy for good. -/
theorem overlapping_attempts_lose_settings :
    (run State.step (.start 7) overlappingAttempts).map (fun s => (s.phase, s.proxyBackup)) =
      some (.connected, some .biba) ∧
    (run State.step (.start 7) (overlappingAttempts ++ go 1 4 ++ .disconnect :: go 4 3)).map
        (fun s => (s.phase, s.recoveryPending, s.noneInFlight, s.proxyBackup, s.os)) =
      some (.idle, false, true, none, .biba) := by decide +kernel

/-- A tunnel that dies, a recovery that fails, and a disconnect. -/
theorem proxy_given_back_recovery :
    (run State.step (.start 7) (deadTunnel ++ go 0 5 ++ [.run 0 .bad, .run 0 .bad, .disconnect] ++
        go 2 3)).map (fun s => (s.phase, s.recoveryPending, s.noneInFlight)) =
      some (.idle, false, true) ∧
    ∀ s, run State.step (.start 7) (deadTunnel ++ go 0 5 ++
        [.run 0 .bad, .run 0 .bad, .disconnect] ++ go 2 3) = some s →
      (s.phase = .idle → s.recoveryPending = false → s.noneInFlight = true → s.os = .own 7) ∧
      s.proxyBackup ≠ some .biba :=
  ⟨by decide +kernel, fun s hs => proxy_given_back 7 s (Path.of_run (by decide +kernel) hs)⟩

end BibaVpn.Apps.Desktop
