/-
# What a v3 authentication costs the peer

`server_wait_v3_auth` reads frames until one of them authenticates the peer or ends the wait with an
error.  The rate limiter is to hear of it: one `record_failure` for a refused authentication, one
`record_success` for an accepted one.

* §1 takes one connection out of the server of `Handshake.lean`: whatever the other connections, the
  users file and the clock do, they only choose the shared state in which it proceeds;
* §2 names the six reasons for which the content of a frame is refused, and follows the calls of the
  limiter through the wait;
* §3 is the result.  Four of the reasons are charged.  The other two leave the function through `?`:
  a frame that decrypts, and then is no padded frame or no AUTH message, costs nothing.
-/
import BibaVpn.Server.Handshake

namespace BibaVpn.Server

open Machine Lts Wire Reality

/-! ## 1. One connection -/

/-- What happens to a connection.  `sh` is the shared state that it finds. -/
inductive Event
  | receive (m : Message) (random : Bytes)
  | lost
  | timeout
  | proceed (sh : Shared) (tie : Nat)

/-- The calls of the rate limiter. -/
structure Calls where
  failures : Nat
  successes : Nat
  deriving DecidableEq, Repr

instance : Add Calls := ⟨fun a b => ⟨a.failures + b.failures, a.successes + b.successes⟩⟩

section

variable (L : Libraries) (cfg : Settings)

def Conn.act (c : Conn) : Event → Option Conn
  | .receive m random => c.receive L cfg random m
  | .lost => c.lost
  | .timeout => c.timeout
  | .proceed sh tie => (c.proceed L cfg sh tie).map Prod.snd

/-- The calls that an event makes. -/
def Conn.calls (c : Conn) : Event → Calls
  | .proceed _ _ =>
    match c.phase with
    | .failing _ => ⟨1, 0⟩
    | .recordSuccess | .welcome _ => ⟨0, 1⟩
    | _ => ⟨0, 0⟩
  | _ => ⟨0, 0⟩

/-- **The calls are what happens to the limiter.** -/
theorem Conn.limiter_of_proceed {L : Libraries} {cfg : Settings} {sh sh' : Shared} {c c' : Conn}
    {tie : Nat} (h : c.proceed L cfg sh tie = some (sh', c')) :
    sh'.limiter = match c.calls (.proceed sh tie) with
      | ⟨1, 0⟩ => sh.limiter.recordFailure c.ip sh.instant tie
      | ⟨0, 1⟩ => sh.limiter.recordSuccess c.ip sh.instant
      | _ => sh.limiter := by
  unfold Conn.proceed at h
  unfold Conn.calls
  split at h <;> rename_i hph <;> simp only [hph]
  · obtain ⟨rc, -, h⟩ := Option.map_eq_some_iff.mp h
    split at h
    · cases h; rfl
    · split at h <;> cases h <;> rfl
  · split at h
    · cases h; rfl
    · split at h <;> cases h <;> rfl
  · split at h <;> cases h <;> rfl
  · cases h; rfl
  · obtain ⟨rc, -, h⟩ := Option.map_eq_some_iff.mp h
    split at h <;> cases h <;> rfl
  · cases h; rfl
  · cases h; rfl
  · cases h; rfl
  · obtain ⟨label, -, h⟩ := Option.bind_eq_some_iff.mp h
    obtain ⟨active, -, h⟩ := Option.map_eq_some_iff.mp h
    cases h
    rfl
  · cases h

/-- A step of the server leaves a connection alone, or is an event of it. -/
theorem ServerState.event_of_step {L : Libraries} {cfg : Settings} {s t : ServerState}
    {a : ServerAction} {i : Nat} {c : Conn} (h : s.step L cfg a = some t)
    (hc : s.conns[i]? = some c) :
    t.conns[i]? = some c ∨ ∃ e c', c.act L cfg e = some c' ∧ t.conns[i]? = some c' := by
  have hlt : i < s.conns.length := (List.getElem?_eq_some_iff.mp hc).1
  -- connection `j` moves; it is `i` or another one
  have hset : ∀ {j : Nat} {d d' : Conn} {e : Event}, s.conns[j]? = some d →
      d.act L cfg e = some d' → (s.conns.set j d')[i]? = some c ∨
        ∃ e c', c.act L cfg e = some c' ∧ (s.conns.set j d')[i]? = some c' := by
    intro j d d' e hd he
    by_cases hij : j = i
    · subst hij
      rw [hd] at hc
      cases hc
      exact .inr ⟨e, d', he, List.getElem?_set_self hlt⟩
    · exact .inl ((List.getElem?_set_ne hij).trans hc)
  have hmove : ∀ {j : Nat} {f : Conn → Option Conn} {e : Event}, (∀ d, f d = d.act L cfg e) →
      s.move j f = some t →
      t.conns[i]? = some c ∨ ∃ e c', c.act L cfg e = some c' ∧ t.conns[i]? = some c' := by
    intro j f e hf hs
    obtain ⟨d', hd', rfl⟩ := Option.map_eq_some_iff.mp hs
    obtain ⟨d, hd, hfd⟩ := Option.bind_eq_some_iff.mp hd'
    exact hset hd (hf d ▸ hfd)
  cases a with
  | write data =>
    cases h
    exact .inl hc
  | tick clock instant =>
    cases h
    exact .inl hc
  | accept ip tlsSni httpHost =>
    simp only [ServerState.step] at h
    split at h
    · cases h
      exact .inl hc
    · cases h
      exact .inl ((List.getElem?_append_left hlt).trans hc)
  | receive j m random => exact hmove (e := .receive m random) (fun _ => rfl) h
  | lost j => exact hmove (e := .lost) (fun _ => rfl) h
  | timeout j => exact hmove (e := .timeout) (fun _ => rfl) h
  | proceed j tie =>
    obtain ⟨⟨sh', d'⟩, hd', rfl⟩ := Option.map_eq_some_iff.mp h
    obtain ⟨d, hd, hproceed⟩ := Option.bind_eq_some_iff.mp hd'
    exact hset (e := .proceed s.shared tie) hd (by rw [Conn.act, hproceed]; rfl)

/-- **Whatever the server does, a connection sees a run of events.** -/
theorem ServerState.events_of_run {L : Libraries} {cfg : Settings} {s t : ServerState} {i : Nat}
    {c : Conn} (h : Reachable (ServerState.step L cfg) s t) (hc : s.conns[i]? = some c) :
    ∃ c', Reachable (Conn.act L cfg) c c' ∧ t.conns[i]? = some c' := by
  refine Reachable.invariant (I := fun t => ∃ c', Reachable (Conn.act L cfg) c c' ∧
    t.conns[i]? = some c') h ⟨c, .refl c, hc⟩ ?_
  rintro s a t ⟨d, hd, hs⟩ hstep
  rcases ServerState.event_of_step hstep hs with hsame | ⟨e, d', he, ht⟩
  · exact ⟨d, hd, hsame⟩
  · exact ⟨d', hd.trans (.one he), ht⟩

/-! ## 2. The wait for AUTH -/

/-- Why the content of a frame is refused. -/
inductive Rejection
  /-- the frames or bytes before AUTH exceed the budget -/
  | budget
  /-- too many frames did not decrypt -/
  | decryptFailures
  /-- it decrypts, and is no padded frame -/
  | badFrame
  /-- it unpads, and is no AUTH message -/
  | badAuth
  | wrongToken
  /-- no enabled user has the token, or the user has no free session -/
  | userUnavailable
  deriving DecidableEq, Repr

/-- How the wait ended without success. -/
inductive Ending
  | rejected (r : Rejection)
  /-- the peer closed or was lost, or the time was over -/
  | interrupted
  deriving DecidableEq, Repr

/-- What is wrong with a frame. -/
def frameRejection (A : Aead) (t : PreAuthBudgetTracker) (expected : Option Text) (b : Bytes) :
    Option Rejection :=
  match t.noteBinaryFrame b.length cfg.preAuth with
  | (_, .error _) => some .budget
  | (t, .ok ()) =>
    match A.openPacket b with
    | .error _ =>
      match t.noteDecryptFailure cfg.preAuth with
      | (_, .error _) => some .decryptFailures
      | (_, .ok ()) => none
    | .ok raw =>
      match readPaddedFrame raw with
      | .error _ => some .badFrame
      | .ok inner =>
        match decodeV3Auth inner, expected with
        | .error _, _ => some .badAuth
        | .ok _, none => none
        | .ok token, some want =>
          if secretEq (Text.toUtf8 token.toList) (Text.toUtf8 want) then none else some .wrongToken

/-- Whether the users file has a user for the token. -/
def userRejection (sh : Shared) (token : Text) : Option Rejection :=
  match loadUsers L.fromSlice sh.data with
  | .error _ => some .userUnavailable
  | .ok file => if (L.choose file token).isSome then none else some .userUnavailable

/-- Whether the user has a free session. -/
def slotRejection (sh : Shared) (user : User) : Option Rejection :=
  match (lockedAcquire sh.active user).2 with
  | .error _ => some .userUnavailable
  | .ok () => none

/-- What an event says about how the wait ends. -/
def Conn.ending (c : Conn) (e : Event) : Option Ending :=
  match e, c.phase with
  | .receive (.binary b) _, .auth t expected =>
    ((c.keys.bind (cfg.cipher L)).bind fun A => frameRejection cfg A t expected b).map .rejected
  | .proceed sh _, .acquire token _ => (userRejection L sh token).map .rejected
  | .proceed sh _, .enter _ user _ => (slotRejection sh user).map .rejected
  | .receive .close _, _ | .lost, _ | .timeout, _ => some .interrupted
  | _, _ => none

/-- The wait has neither failed nor returned. -/
def Phase.pending : Phase → Bool
  | .auth _ _ | .acquire _ .sealed | .enter _ _ .sealed | .recordSuccess => true
  | _ => false

/-- The wait has not returned. -/
def Phase.inAuth : Phase → Bool
  | .failing _ => true
  | ph => ph.pending

/-- A connection in `server_wait_v3_auth`, how it ends and the calls it has made. -/
structure Wait where
  conn : Conn
  ending : Option Ending
  calls : Calls

def Wait.start (c : Conn) : Wait := ⟨c, none, ⟨0, 0⟩⟩

/-- One event, as long as the wait has not returned.  The first ending counts: the time may be over
while the failure is recorded. -/
def Wait.step (w : Wait) (e : Event) : Option Wait :=
  if w.conn.phase.inAuth then
    (w.conn.act L cfg e).map fun c =>
      ⟨c, w.ending.or (w.conn.ending L cfg e), w.calls + w.conn.calls e⟩
  else none

end

/-- The refusals that the source charges. -/
def Rejection.Charged (r : Rejection) : Prop := r ≠ .badFrame ∧ r ≠ .badAuth

instance (r : Rejection) : Decidable r.Charged := inferInstanceAs (Decidable (_ ∧ _))

def Ending.Charged : Ending → Prop
  | .rejected r => r.Charged
  | .interrupted => True

/-- **The invariant of the wait**, by where it is. -/
inductive Wait.Inv : Wait → Prop
  | pending {c : Conn} (h : c.phase.pending = true) : Wait.Inv ⟨c, none, ⟨0, 0⟩⟩
  | failing {c : Conn} {timed : Bool} {e : Ending} (h : c.phase = .failing timed) (he : e.Charged) :
      Wait.Inv ⟨c, some e, ⟨0, 0⟩⟩
  | charged {c : Conn} {e : Ending} (h : c.phase = .closed) (he : e.Charged) :
      Wait.Inv ⟨c, some e, ⟨1, 0⟩⟩
  | uncharged {c : Conn} {e : Ending} (h : c.phase = .closed)
      (he : e = .interrupted ∨ ∃ r, e = .rejected r ∧ ¬ r.Charged) : Wait.Inv ⟨c, some e, ⟨0, 0⟩⟩
  | accepted {c : Conn} {t : PreAuthBudgetTracker} (h : c.phase = .channel t) :
      Wait.Inv ⟨c, none, ⟨0, 1⟩⟩

section Steps

variable {L : Libraries} {cfg : Settings} {c c' : Conn} {e : Event}

/-- Where the processing of a frame leaves the wait, by what is wrong with it. -/
def Leaves (r : Option Rejection) (ph : Phase) : Prop :=
  match r with
  | none => ph.pending = true
  | some r => if r.Charged then ∃ timed, ph = .failing timed else ph = .closed

theorem leaves_authFrame (A : Aead) (t : PreAuthBudgetTracker) (expected : Option Text)
    (b : Bytes) :
    Leaves (frameRejection cfg A t expected b) (c.authFrame cfg A t expected b).phase := by
  rcases hn : t.noteBinaryFrame b.length cfg.preAuth with ⟨t', err | ⟨⟩⟩
  · simp only [frameRejection, Conn.authFrame, hn]
    exact ⟨true, rfl⟩
  · cases ho : A.openPacket b with
    | error err =>
      rcases hd : t'.noteDecryptFailure cfg.preAuth with ⟨t'', err | ⟨⟩⟩
      · simp only [frameRejection, Conn.authFrame, hn, ho, hd]
        exact ⟨true, rfl⟩
      · simp only [frameRejection, Conn.authFrame, hn, ho, hd]
        exact rfl
    | ok raw =>
      cases hp : readPaddedFrame raw with
      | error err =>
        simp only [frameRejection, Conn.authFrame, Conn.authOpened, hn, ho, hp]
        exact rfl
      | ok inner =>
        cases ha : decodeV3Auth inner with
        | error err =>
          simp only [frameRejection, Conn.authFrame, Conn.authOpened, hn, ho, hp, ha]
          exact rfl
        | ok token =>
          cases expected with
          | none =>
            simp only [frameRejection, Conn.authFrame, Conn.authOpened, hn, ho, hp, ha]
            exact rfl
          | some want =>
            simp only [frameRejection, Conn.authFrame, Conn.authOpened, hn, ho, hp, ha]
            split
            · exact rfl
            · exact ⟨true, rfl⟩

theorem leaves_user {sh sh' : Shared} {tie : Nat} {token : Text}
    (hph : c.phase = .acquire token .sealed) (h : c.proceed L cfg sh tie = some (sh', c')) :
    Leaves (userRejection L sh token) c'.phase := by
  cases hload : loadUsers L.fromSlice sh.data with
  | error e =>
    simp only [Conn.proceed, hph, hload] at h
    cases h
    simp only [userRejection, hload]
    exact ⟨true, rfl⟩
  | ok file =>
    cases hchoose : L.choose file token with
    | none =>
      simp only [Conn.proceed, hph, hload, hchoose] at h
      cases h
      simp only [userRejection, hload, hchoose]
      exact ⟨true, rfl⟩
    | some user =>
      simp only [Conn.proceed, hph, hload, hchoose] at h
      cases h
      simp only [userRejection, hload, hchoose]
      exact rfl

theorem leaves_slot {sh sh' : Shared} {tie : Nat} {token : Text} {user : User}
    (hph : c.phase = .enter token user .sealed) (h : c.proceed L cfg sh tie = some (sh', c')) :
    Leaves (slotRejection sh user) c'.phase := by
  simp only [Conn.proceed, hph] at h
  unfold slotRejection
  split at h
  · rename_i herr
    cases h
    rw [herr]
    exact ⟨true, rfl⟩
  · rename_i hok
    cases h
    rw [hok]
    exact rfl

/-- The end of a wait whose first ending is `r`. -/
theorem Wait.Inv.of_leaves {r : Option Rejection} (h : Leaves r c.phase) :
    Wait.Inv ⟨c, r.map .rejected, ⟨0, 0⟩⟩ := by
  cases r with
  | none => exact .pending h
  | some r =>
    by_cases hr : r.Charged
    · simp only [Leaves, if_pos hr] at h
      obtain ⟨timed, hph⟩ := h
      exact .failing hph hr
    · simp only [Leaves, if_neg hr] at h
      exact .uncharged h (.inr ⟨r, rfl, hr⟩)

/-- A wait that is interrupted before it failed. -/
theorem Wait.Inv.interrupted (h : c.phase = .closed ∨ ∃ timed, c.phase = .failing timed) :
    Wait.Inv ⟨c, some .interrupted, ⟨0, 0⟩⟩ := by
  rcases h with h | ⟨timed, h⟩
  · exact .uncharged h (.inl rfl)
  · exact .failing h trivial

/-- While the registry is asked nothing else happens to the connection. -/
theorem Conn.proceed_of_act {token : Text}
    (hph : c.phase = .acquire token .sealed ∨ ∃ user, c.phase = .enter token user .sealed)
    (h : c.act L cfg e = some c') : ∃ sh tie, e = .proceed sh tie := by
  cases e with
  | proceed sh tie => exact ⟨sh, tie, rfl⟩
  | receive m random =>
    rcases hph with hph | ⟨user, hph⟩ <;> cases m <;>
      simp only [Conn.act, Conn.receive, Conn.receiveBinary, Conn.receiveOther, hph] at h <;>
        cases h
  | lost =>
    rcases hph with hph | ⟨user, hph⟩ <;> simp only [Conn.act, Conn.lost, hph] at h <;> cases h
  | timeout =>
    rcases hph with hph | ⟨user, hph⟩ <;> simp only [Conn.act, Conn.timeout, hph] at h <;> cases h

/-- What an event does to a wait for the frame. -/
theorem Wait.Inv.step_auth {t : PreAuthBudgetTracker} {expected : Option Text}
    (hauth : c.phase = .auth t expected) (h : c.act L cfg e = some c') :
    Wait.Inv ⟨c', (c.ending L cfg e), c.calls e⟩ := by
  cases e with
  | receive m random =>
    cases m with
    | binary b =>
      simp only [Conn.act, Conn.receive, Conn.receiveBinary, hauth] at h
      obtain ⟨A, hA, rfl⟩ := Option.map_eq_some_iff.mp h
      have heq : c.ending L cfg (.receive (.binary b) random) =
          (frameRejection cfg A t expected b).map .rejected := by
        simp only [Conn.ending, hauth, hA, Option.bind_some]
      rw [heq]
      exact .of_leaves (leaves_authFrame A t expected b)
    | close =>
      simp only [Conn.act, Conn.receive, Conn.receiveOther, hauth, if_true] at h
      cases h
      simp only [Conn.ending]
      exact .interrupted (.inl rfl)
    | ping | pong | other =>
      simp only [Conn.act, Conn.receive, Conn.receiveOther, hauth, reduceCtorEq, if_false] at h
      cases h
      simp only [Conn.ending]
      exact .pending (by rw [hauth]; rfl)
  | lost =>
    simp only [Conn.act, Conn.lost, hauth] at h
    cases h
    simp only [Conn.ending]
    exact .interrupted (.inl rfl)
  | timeout =>
    simp only [Conn.act, Conn.timeout, hauth] at h
    cases h
    simp only [Conn.ending]
    exact .interrupted (.inr ⟨false, rfl⟩)
  | proceed sh tie =>
    simp only [Conn.act, Conn.proceed, hauth] at h
    cases h

/-- What an event does to a wait that is about to record its success. -/
theorem Wait.Inv.step_recordSuccess (hrec : c.phase = .recordSuccess)
    (h : c.act L cfg e = some c') : Wait.Inv ⟨c', (c.ending L cfg e), c.calls e⟩ := by
  cases e with
  | proceed sh tie =>
    simp only [Conn.act, Conn.proceed, hrec, Option.map_some] at h
    cases h
    have heq : c.ending L cfg (.proceed sh tie) = none := by simp only [Conn.ending, hrec]
    have hcalls : c.calls (.proceed sh tie) = ⟨0, 1⟩ := by simp only [Conn.calls, hrec]
    rw [heq, hcalls]
    exact .accepted rfl
  | timeout =>
    simp only [Conn.act, Conn.timeout, hrec] at h
    cases h
    simp only [Conn.ending]
    exact .interrupted (.inr ⟨false, rfl⟩)
  | receive m random =>
    cases m <;>
      simp only [Conn.act, Conn.receive, Conn.receiveBinary, Conn.receiveOther, hrec] at h <;>
      cases h
  | lost =>
    simp only [Conn.act, Conn.lost, hrec] at h
    cases h

/-- What an event does to a wait that has neither failed nor returned. -/
theorem Wait.Inv.step_pending (hph : c.phase.pending = true) (h : c.act L cfg e = some c') :
    Wait.Inv ⟨c', (c.ending L cfg e), c.calls e⟩ := by
  unfold Phase.pending at hph
  split at hph
  · rename_i t expected hauth
    exact .step_auth hauth h
  · rename_i token hacq
    obtain ⟨sh, tie, rfl⟩ := Conn.proceed_of_act (.inl hacq) h
    obtain ⟨⟨sh', c''⟩, hp, rfl⟩ := Option.map_eq_some_iff.mp h
    have heq : c.ending L cfg (.proceed sh tie) = (userRejection L sh token).map .rejected := by
      simp only [Conn.ending, hacq]
    have hcalls : c.calls (.proceed sh tie) = ⟨0, 0⟩ := by simp only [Conn.calls, hacq]
    rw [heq, hcalls]
    exact .of_leaves (leaves_user hacq hp)
  · rename_i token user hent
    obtain ⟨sh, tie, rfl⟩ := Conn.proceed_of_act (.inr ⟨user, hent⟩) h
    obtain ⟨⟨sh', c''⟩, hp, rfl⟩ := Option.map_eq_some_iff.mp h
    have heq : c.ending L cfg (.proceed sh tie) = (slotRejection sh user).map .rejected := by
      simp only [Conn.ending, hent]
    have hcalls : c.calls (.proceed sh tie) = ⟨0, 0⟩ := by simp only [Conn.calls, hent]
    rw [heq, hcalls]
    exact .of_leaves (leaves_slot hent hp)
  · rename_i hrec
    exact .step_recordSuccess hrec h
  · cases hph

/-- What an event does to a wait that has failed: it records the failure, or the time is over and
the caller will. -/
theorem Conn.act_failing {timed : Bool} (hph : c.phase = .failing timed)
    (h : c.act L cfg e = some c') :
    (c'.phase = .closed ∧ c.calls e = ⟨1, 0⟩) ∨
    (c'.phase = .failing false ∧ c.calls e = ⟨0, 0⟩) := by
  cases e with
  | proceed sh tie =>
    simp only [Conn.act, Conn.proceed, hph, Option.map_some] at h
    cases h
    exact .inl ⟨rfl, by simp only [Conn.calls, hph]⟩
  | timeout =>
    cases timed with
    | true =>
      simp only [Conn.act, Conn.timeout, hph] at h
      cases h
      exact .inr ⟨rfl, rfl⟩
    | false =>
      simp only [Conn.act, Conn.timeout, hph] at h
      cases h
  | receive m random =>
    cases m <;>
      simp only [Conn.act, Conn.receive, Conn.receiveBinary, Conn.receiveOther, hph] at h <;>
      cases h
  | lost =>
    simp only [Conn.act, Conn.lost, hph] at h
    cases h

/-- **Every event keeps the invariant.** -/
theorem Wait.Inv.step {w w' : Wait} (hI : w.Inv) (h : w.step L cfg e = some w') : w'.Inv := by
  unfold Wait.step at h
  split at h
  · rename_i hin
    obtain ⟨c', hact, rfl⟩ := Option.map_eq_some_iff.mp h
    cases hI with
    | pending hph =>
      have hcalls : ∀ k : Calls, (⟨0, 0⟩ : Calls) + k = k := by
        rintro ⟨f, s⟩
        exact congrArg₂ Calls.mk (Nat.zero_add f) (Nat.zero_add s)
      simp only [Option.none_or, hcalls]
      exact .step_pending hph hact
    | failing hph he =>
      simp only [Option.some_or]
      rcases Conn.act_failing hph hact with ⟨hph', hk⟩ | ⟨hph', hk⟩
      · rw [hk]
        exact .charged hph' he
      · rw [hk]
        exact .failing hph' he
    | charged hph _ | uncharged hph _ | accepted hph =>
      rw [hph] at hin
      cases hin
  · cases h

end Steps

/-! ## 3. What is charged -/

/-- **A wait that returned with an error because of a frame** has recorded one failure and no
success, exactly if the reason is one that is charged.  One that returned with a session has
recorded one success and no failure.  Every other end is an interruption. -/
structure Wait.Settled (w : Wait) : Prop where
  rejected : ∀ r, w.conn.phase = .closed → w.ending = some (.rejected r) →
    (w.calls = ⟨1, 0⟩ ↔ r.Charged) ∧ (¬ r.Charged → w.calls = ⟨0, 0⟩)
  accepted : ∀ t, w.conn.phase = .channel t → w.calls = ⟨0, 1⟩
  ended : w.conn.phase = .closed → w.ending ≠ none

theorem Wait.Inv.settled {w : Wait} (hI : w.Inv) : w.Settled := by
  cases hI with
  | pending hph =>
    refine ⟨fun r h => ?_, fun t h => ?_, fun h => ?_⟩ <;> (rw [h] at hph; cases hph)
  | failing hph he =>
    refine ⟨fun r h => ?_, fun t h => ?_, fun h => ?_⟩ <;> (rw [h] at hph; cases hph)
  | charged hph he =>
    refine ⟨fun r _ hr => ?_, fun t h => ?_, fun _ => nofun⟩
    · cases hr
      exact ⟨iff_of_true rfl he, fun hn => absurd he hn⟩
    · rw [h] at hph
      cases hph
  | uncharged hph he =>
    refine ⟨fun r _ hr => ?_, fun t h => ?_, fun _ => nofun⟩
    · cases hr
      obtain ⟨r', hr', hn⟩ := he.resolve_left nofun
      cases hr'
      exact ⟨iff_of_false (fun h => by cases h) hn, fun _ => rfl⟩
    · rw [h] at hph
      cases hph
  | accepted hph =>
    refine ⟨fun r h => ?_, fun t _ => rfl, fun h => ?_⟩ <;> (rw [h] at hph; cases hph)

/-- The frame of the event, if it decrypts, is a padded frame around an AUTH message. -/
def Event.OpensToAuth (L : Libraries) (cfg : Settings) (c : Conn) (e : Event) : Prop :=
  ∀ b random A raw, e = .receive (.binary b) random → c.keys.bind (cfg.cipher L) = some A →
    A.openPacket b = .ok raw →
    ∃ inner token, readPaddedFrame raw = .ok inner ∧ decodeV3Auth inner = .ok token

/-- No frame was refused as one that is no AUTH. -/
def Wait.Fair (w : Wait) : Prop := ∀ r, w.ending = some (.rejected r) → r.Charged

theorem charged_of_frameRejection {cfg : Settings} {A : Aead} {t : PreAuthBudgetTracker}
    {expected : Option Text} {b : Bytes} {r : Rejection}
    (hauth : ∀ raw, A.openPacket b = .ok raw →
      ∃ inner token, readPaddedFrame raw = .ok inner ∧ decodeV3Auth inner = .ok token)
    (h : frameRejection cfg A t expected b = some r) : r.Charged := by
  unfold frameRejection at h
  split at h
  · cases h
    decide
  · split at h
    · split at h
      · cases h
        decide
      · cases h
    · rename_i raw hraw
      obtain ⟨inner, token, hinner, htoken⟩ := hauth raw hraw
      cases expected with
      | none =>
        simp only [hinner, htoken] at h
        cases h
      | some want =>
        simp only [hinner, htoken] at h
        split at h
        · cases h
        · cases h
          decide

theorem Wait.Fair.step {L : Libraries} {cfg : Settings} {w w' : Wait} {e : Event} (hF : w.Fair)
    (hauth : e.OpensToAuth L cfg w.conn) (h : w.step L cfg e = some w') : w'.Fair := by
  unfold Wait.step at h
  split at h
  · obtain ⟨c', -, rfl⟩ := Option.map_eq_some_iff.mp h
    intro r hr
    rcases Option.or_eq_some_iff.mp hr with hold | ⟨-, hnew⟩
    · exact hF r hold
    · unfold Conn.ending at hnew
      split at hnew
      · rename_i b random t expected _
        obtain ⟨r', hr', hrej⟩ := Option.map_eq_some_iff.mp hnew
        cases hrej
        obtain ⟨A, hA, hframe⟩ := Option.bind_eq_some_iff.mp hr'
        exact charged_of_frameRejection (fun raw => hauth b random A raw rfl hA) hframe
      · rename_i sh tie token caller _
        obtain ⟨r', hr', hrej⟩ := Option.map_eq_some_iff.mp hnew
        cases hrej
        unfold userRejection at hr'
        split at hr'
        · cases hr'
          decide
        · split at hr'
          · cases hr'
          · cases hr'
            decide
      · rename_i sh tie token user caller _
        obtain ⟨r', hr', hrej⟩ := Option.map_eq_some_iff.mp hnew
        cases hrej
        unfold slotRejection at hr'
        split at hr'
        · cases hr'
          decide
        · cases hr'
      all_goals cases hnew
  · cases h

/-- **A refused authentication is charged exactly if the frame is an AUTH or was never opened.**
From the moment `server_wait_v3_auth` is called, whatever frames come, whatever the server does in
between: every wait that returned is settled, and in every run whose frames either do not decrypt or
are AUTH messages each refusal is charged once. -/
theorem refused_auth_charged (L : Libraries) (cfg : Settings) (c : Conn) (expected : Option Text)
    (hc : c.phase = .auth ⟨0, 0, 0⟩ expected) :
    (∀ w, Reachable (Wait.step L cfg) (Wait.start c) w → w.Settled) ∧
    (∀ w, Path (Wait.step L cfg) (fun w e => e.OpensToAuth L cfg w.conn) (Wait.start c) w →
      ∀ r, w.conn.phase = .closed → w.ending = some (.rejected r) → w.calls = ⟨1, 0⟩) := by
  have hinv : ∀ w, Reachable (Wait.step L cfg) (Wait.start c) w → w.Inv := fun w hw =>
    Reachable.invariant hw (.pending (by rw [hc]; rfl)) fun _ _ _ hI hs => hI.step hs
  constructor
  · intro w hw
    exact (hinv w hw).settled
  · intro w hw r hph hr
    have hfair : w.Fair := Path.invariant hw (fun r hr => nomatch hr) fun _ _ _ hF ha hs =>
      hF.step ha hs
    exact ((hinv w hw.reachable).settled.rejected r hph hr).1.mpr (hfair r hr)

/-! ### Two waits -/

/-- A peer of `plainLibraries` that has sent its HELLO. -/
def greeted : Conn :=
  ⟨.v4 [0, 0, 0, 0], .auth ⟨0, 0, 0⟩ (some ['k']), some ([], []), none, [], [], [], 0, 0⟩

def quiet : Shared := ⟨none, .empty, ⟨[]⟩, .new noLimits, 0, 0⟩

/-- A wrong token is charged. -/
theorem refused_auth_charged_wrong_token :
    (run (Wait.step plainLibraries (oneToken none)) (.start greeted)
        [.receive (.binary (plainFrame [v3CtrlAuth, 0, 1, 108])) [], .proceed quiet 0]).map
          (fun w => (w.conn.phase, w.ending, w.calls)) =
      some (.closed, some (.rejected .wrongToken), ⟨1, 0⟩) ∧
    ∀ w, run (Wait.step plainLibraries (oneToken none)) (.start greeted)
        [.receive (.binary (plainFrame [v3CtrlAuth, 0, 1, 108])) [], .proceed quiet 0] = some w →
      w.Settled :=
  ⟨by decide +kernel, fun w hw =>
    (refused_auth_charged plainLibraries (oneToken none) greeted (some ['k']) rfl).1 w (.of_run hw)⟩

/-- **A frame that decrypts and is no AUTH costs nothing**, whether it unpads or not. -/
theorem unreadable_auth_free :
    (run (Wait.step plainLibraries (oneToken none)) (.start greeted)
        [.receive (.binary (plainFrame [0])) []]).map (fun w => (w.conn.phase, w.ending, w.calls)) =
      some (.closed, some (.rejected .badAuth), ⟨0, 0⟩) ∧
    (run (Wait.step plainLibraries (oneToken none)) (.start greeted)
        [.receive (.binary (Aead.plain.packet 0 [] [0])) []]).map
          (fun w => (w.conn.phase, w.ending, w.calls)) =
      some (.closed, some (.rejected .badFrame), ⟨0, 0⟩) := by
  decide +kernel

end BibaVpn.Server
