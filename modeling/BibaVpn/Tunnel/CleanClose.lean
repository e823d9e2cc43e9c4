/-
# The clean close of a dedicated tunnel

A bridge that closes cleanly feeds nothing to the WebSocket after a `Close` was fed, or after the
`Close` of the peer was processed; and if TCP ended first, and neither the WebSocket fails nor the
timeout fires, it has fed every byte of TCP before its `Close` and written every payload that the
peer sent before its own.

The bridge does so in every run that is ORDERLY (`Params.Orderly`), and two things that are not in
the hands of the peer or of TCP break it:

* the writer learns of the peer's `Close` only at its own `select!`, and only if TCP has not ended:
  else `peer_closed_tx` is not sent, and the writer goes on to feed what is queued;
* the writer drops its end of the queue when it has fed the `Close`.  A ping of the peer that `up`
  reads later cannot be answered, and `up` fails with the payloads behind it unwritten.

§1 states the property and the condition, §2 to §5 are the invariants, §6 is the result with two
runs in which it fails, and §7 shows that the condition on the peer's `Close` is exact.
-/
import BibaVpn.Tunnel.Bridge

namespace BibaVpn.Tunnel.Bridge

open Machine Wire Lts

/-! ## 1. The property and the condition -/

/-- A `Close` was fed, or that of the peer was processed. -/
def Event.closes : Event → Bool
  | .fed m => m = .close
  | .peerClose => true

def Event.isFed : Event → Bool
  | .fed _ => true
  | .peerClose => false

/-- **Nothing is fed after a `Close`.** -/
def State.Quiet (s : State) : Prop :=
  NothingAfter (fun e : Event => e.closes = true) (fun e => e.isFed = true) s.log

instance (s : State) : Decidable s.Quiet :=
  inferInstanceAs (Decidable (NothingAfter _ _ s.log))

/-- The messages that were fed, in order. -/
def fedMessages (log : List Event) : List Message :=
  log.filterMap fun
    | .fed m => some m
    | .peerClose => none

/-- The payload bytes that the peer sent before its `Close`. -/
def Params.due (B : Params) : List Inbound → Bytes
  | [] => []
  | .openedPayload bytes :: rest => bytes ++ B.due rest
  | .message .close :: _ => []
  | .message m :: rest => carried B.opening m ++ B.due rest
  | .failed :: _ => []
  | .ended :: _ => []

/-- **Nothing is lost**: what TCP sent was fed before the `Close`, and what the peer sent before its
own was written. -/
structure Delivered (B : Params) (inbox : List Inbound) (s : State) : Prop where
  fed : ∃ before after, s.log = before ++ .fed .close :: after ∧
    (fedMessages before).flatMap (carried B.sealing) = s.received
  written : s.written = B.due inbox

/-- The writer is in `feed`. -/
def Writer.feeding : Writer → Bool
  | .ping => true
  | .feed _ => true
  | _ => false

/-- The writer has fed its last message. -/
def Writer.finished : Writer → Bool
  | .flush .close => true
  | .flush .closeReply => true
  | .done => true
  | _ => false

/-- When the peer's `Close` may be processed: the writer has fed its own, or it will come to its
`select!` and see the signal first. -/
def State.Settled (s : State) : Prop :=
  s.writer.finished = true ∨ s.phase = .running ∧ s.writer.feeding = false

instance (s : State) : Decidable s.Settled := inferInstanceAs (Decidable (_ ∨ _))

/-- When `up` may take the next item. -/
def Params.MayTake (B : Params) (s : State) : List Inbound → Prop
  | .message .close :: _ => s.Settled
  | .message (.binary b) :: _ =>
    -- it is a frame, and its payload is not taken for the result of an `OPEN`
    (B.openBinary b).toOption = some (carried B.opening (.binary b)) ∨
      (B.openBinary b).toOption = none ∧ s.phase = .running
  | _ => True

instance Params.MayTake.decidable (B : Params) (s : State) : ∀ inbox, Decidable (B.MayTake s inbox)
  | .message .close :: _ => inferInstanceAs (Decidable s.Settled)
  | .message (.binary _) :: _ => inferInstanceAs (Decidable (_ ∨ _))
  | .message (.ping _) :: _ => isTrue trivial
  | .message (.pong _) :: _ => isTrue trivial
  | .message (.text _) :: _ => isTrue trivial
  | .openedPayload _ :: _ => isTrue trivial
  | .failed :: _ => isTrue trivial
  | .ended :: _ => isTrue trivial
  | [] => isTrue trivial

/-- **The condition on a step.**  A failure of `up` before TCP has ended is not excluded. -/
def Params.Orderly (B : Params) (s : State) : Act → Prop
  | .next => B.MayTake s s.inbox
  | .write ok => ok = true ∨ s.phase = .running
  | .pong => s.writer ≠ .done
  | _ => True

instance Params.Orderly.decidable (B : Params) (s : State) : ∀ a, Decidable (B.Orderly s a)
  | .next => inferInstanceAs (Decidable (B.MayTake s s.inbox))
  | .write ok => inferInstanceAs (Decidable (ok = true ∨ s.phase = .running))
  | .pong => inferInstanceAs (Decidable (s.writer ≠ .done))
  | .select _ => isTrue trivial
  | .feed _ => isTrue trivial
  | .flush _ => isTrue trivial
  | .read _ => isTrue trivial
  | .pack _ => isTrue trivial
  | .sendData => isTrue trivial
  | .dummyPack _ => isTrue trivial
  | .dummySend => isTrue trivial
  | .close => isTrue trivial
  | .timeout => isTrue trivial

section Invariants

variable {B : Params} {s s' : State} {a : Act}

/-! ## 2. Where the futures are -/

@[simp] theorem fedMessages_append (l l' : List Event) :
    fedMessages (l ++ l') = fedMessages l ++ fedMessages l' := List.filterMap_append

@[simp] theorem fedMessages_fed (m : Message) : fedMessages [.fed m] = [m] := rfl

@[simp] theorem fedMessages_peerClose : fedMessages [.peerClose] = [] := rfl

variable {m : Message} {what : Flushing} {inbox : List Inbound}

/-- What was fed stays fed. -/
theorem fedMessages_mono {l : List Event} (l' : List Event) (h : m ∈ fedMessages l) :
    m ∈ fedMessages (l ++ l') := by
  rw [fedMessages_append]
  exact List.mem_append_left _ h

/-- **What a phase says about the futures.** -/
structure Staged (s : State) : Prop where
  tcpOpen : s.phase = .running ∨ s.phase = .peerClosed → s.down ≠ .done
  tcpEnded : s.phase = .closing → s.down = .done
  closeFed : s.writer = .flush .close ∨ s.writer = .done → .close ∈ fedMessages s.log
  replied : s.writer = .flush .closeReply → s.phase ≠ .running ∧ s.down ≠ .done
  sent : s.closeSent = true → s.down = .done

theorem Staged.start (prefetched : List WsBridgePrefetch) (stream : List WsRead) :
    Staged (State.start prefetched stream) where
  tcpOpen _ := nofun
  tcpEnded := nofun
  closeFed h := by rcases h with h | h <;> cases h
  replied := nofun
  sent := nofun

/-- The steps that neither end TCP nor bring the writer to its end. -/
theorem Staged.keep (h : Staged s) (hphase : s'.phase = s.phase ∨ ∃ e, s'.phase = .ended e)
    (hdown : s'.down = .done ↔ s.down = .done) (hsent : s'.closeSent = s.closeSent)
    (hw : s'.writer = s.writer ∨ s'.writer.finished = false)
    (hlog : .close ∈ fedMessages s.log → .close ∈ fedMessages s'.log) : Staged s' where
  tcpOpen hp := by
    rw [Ne, hdown]
    rcases hphase with heq | ⟨e, heq⟩
    · exact h.tcpOpen (by rwa [heq] at hp)
    · rw [heq] at hp
      rcases hp with hp | hp <;> cases hp
  tcpEnded hp := by
    rw [hdown]
    rcases hphase with heq | ⟨e, heq⟩
    · exact h.tcpEnded (heq ▸ hp)
    · rw [heq] at hp
      cases hp
  closeFed hfin := by
    rcases hw with heq | hfalse
    · exact hlog (h.closeFed (heq ▸ hfin))
    · rcases hfin with hfin | hfin <;> rw [hfin] at hfalse <;> cases hfalse
  replied hrep := by
    rcases hw with hsame | hfalse
    · obtain ⟨hrun, hopen⟩ := h.replied (hsame ▸ hrep)
      refine ⟨?_, by rwa [Ne, hdown]⟩
      rcases hphase with heq | ⟨e, heq⟩
      · rwa [heq]
      · rw [heq]
        exact nofun
    · rw [hrep] at hfalse
      cases hfalse
  sent hs := hdown.mpr (h.sent (hsent ▸ hs))

theorem Staged.ends (h : Staged s) (e : Ending) : Staged (s.ends e) :=
  h.keep (.inr ⟨e, rfl⟩) Iff.rfl rfl (.inl rfl) id

/-- `try_join!` waits or returns. -/
theorem joined_cases (s : State) :
    s.joined = s.phase ∨ s.joined = .ended .ok ∧ s.writer = .done ∧ s.up = .done := by
  unfold State.joined
  split
  · rename_i hall
    exact .inr ⟨rfl, hall.2⟩
  · exact .inl rfl

theorem Staged.fed (h : Staged s) : Staged (s.fed m) := by
  unfold State.fed
  split
  · rename_i hm
    refine ⟨h.tcpOpen, h.tcpEnded, ?_, nofun, h.sent⟩
    intro _
    rw [hm, fedMessages_append]
    exact List.mem_append_right _ (List.mem_singleton_self _)
  · split
    · exact h.keep (.inl rfl) Iff.rfl rfl (.inr rfl) (fedMessages_mono _)
    · exact h.keep (.inl rfl) Iff.rfl rfl (.inr rfl) (fedMessages_mono _)

theorem Staged.writerDone (h : Staged s) (hw : s.writer = .flush what)
    (hend : what = .close ∨ what = .closeReply) : Staged s.writerDone := by
  unfold State.writerDone
  split
  · rename_i hphase
    have hdone := h.tcpEnded hphase
    have hclose : .close ∈ fedMessages s.log := by
      rcases hend with rfl | rfl
      · exact h.closeFed (.inl hw)
      · exact absurd hdone (h.replied hw).2
    refine ⟨?_, fun _ => hdone, fun _ => hclose, nofun, h.sent⟩
    intro hp
    rcases joined_cases { s with writer := .done } with heq | ⟨heq, -⟩
    · rw [heq] at hp
      exact h.tcpOpen hp
    · rw [heq] at hp
      rcases hp with hp | hp <;> cases hp
  · exact h.ends _

theorem Staged.upDone (h : Staged s) : Staged s.upDone := by
  unfold State.upDone
  split
  · rename_i hphase
    exact ⟨fun _ => h.tcpOpen (.inl hphase), nofun, h.closeFed,
      fun hrep => absurd hphase (h.replied hrep).1, h.sent⟩
  · rcases joined_cases { s with up := .done } with heq | ⟨heq, -⟩
    · exact h.keep (.inl heq) Iff.rfl rfl (.inl rfl) id
    · exact h.keep (.inr ⟨_, heq⟩) Iff.rfl rfl (.inl rfl) id

theorem Staged.step (h : Staged s) (hs : B.step s a = some s') : Staged s' := by
  cases step_effect hs with
  | reply hphase hw =>
    have hrun : s.phase ≠ .running := by
      rw [hphase]
      exact nofun
    refine ⟨h.tcpOpen, h.tcpEnded, ?_, fun _ => ⟨hrun, h.tcpOpen (.inr hphase)⟩, h.sent⟩
    rintro (hfin | hfin) <;> cases hfin
  | take | ping | flushed => exact h.keep (.inl rfl) Iff.rfl rfl (.inr rfl) id
  | fedPing _ => exact h.keep (.inl rfl) Iff.rfl rfl (.inr rfl) (fedMessages_mono _)
  | fed _ => exact h.fed
  | finished hw hend => exact h.writerDone hw hend
  | closes _ _ =>
    exact Staged.upDone (h.keep (.inl rfl) Iff.rfl rfl (.inl rfl) (fedMessages_mono _))
  | streamEnds _ _ => exact Staged.upDone (h.keep (.inl rfl) Iff.rfl rfl (.inl rfl) id)
  | reads _ hd => exact h.keep (.inl rfl) (by rw [hd]; simp) rfl (.inl rfl) id
  | eof hrun hd =>
    refine ⟨?_, fun _ => rfl, h.closeFed, fun hrep => absurd hrun (h.replied hrep).1, fun _ => rfl⟩
    rintro (hp | hp) <;> cases hp
  | packs _ hd _ => exact h.keep (.inl rfl) (by rw [hd]; simp) rfl (.inl rfl) id
  | sends _ hd => exact h.keep (.inl rfl) (by rw [hd]; simp) rfl (.inl rfl) id
  | closing hphase _ _ =>
    exact ⟨h.tcpOpen, h.tcpEnded, h.closeFed, h.replied, fun _ => h.tcpEnded hphase⟩
  | stops _ => exact h.ends _
  | _ => exact h.keep (.inl rfl) Iff.rfl rfl (.inl rfl) id

/-! ## 3. Nothing is lost on the way out

What was fed, what the writer holds and what is queued are one sequence, the TRACK of the bridge:
the writer moves along it, and the other futures append to it. -/

/-- The message that the writer holds. -/
def Writer.inHand : Writer → List Message
  | .ping => [.ping []]
  | .feed m => [m]
  | _ => []

def State.track (s : State) : List Message := fedMessages s.log ++ (s.writer.inHand ++ s.queue)

/-- What `down` has read and not queued. -/
def Down.pending (cipher : Option Aead) : Down → Bytes
  | .loop todo => todo.flatten
  | .send blob todo => carried cipher (.binary blob) ++ todo.flatten
  | .done => []

/-- **The track carries what was read from TCP, and nothing of it after the `Close`.** -/
structure Conveyed (B : Params) (s : State) : Prop where
  bytes : s.track.flatMap (carried B.sealing) ++ s.down.pending B.sealing = s.received
  after : NothingAfter (fun m => m = .close) (fun m => carried B.sealing m ≠ []) s.track
  close_mem : .close ∈ s.track ↔ s.closeSent = true
  dummy : ∀ blob, s.dummy = .send blob → carried B.sealing (.binary blob) = []

theorem Conveyed.start (B : Params) (prefetched : List WsBridgePrefetch) (stream : List WsRead) :
    Conveyed B (State.start prefetched stream) where
  bytes := rfl
  after := .nil
  close_mem := ⟨nofun, nofun⟩
  dummy := nofun

/-- A step of the writer. -/
theorem Conveyed.move (h : Conveyed B s) (htrack : s'.track = s.track) (hdown : s'.down = s.down)
    (hread : s'.received = s.received) (hsent : s'.closeSent = s.closeSent)
    (hdummy : s'.dummy = s.dummy) : Conveyed B s' where
  bytes := by rw [htrack, hdown, hread]; exact h.bytes
  after := by rw [htrack]; exact h.after
  close_mem := by rw [htrack, hsent]; exact h.close_mem
  dummy := by rw [hdummy]; exact h.dummy

/-- A message is appended: either it carries nothing, or no `Close` came before it. -/
theorem Conveyed.append (h : Conveyed B s) (htrack : s'.track = s.track ++ [m]) (hm : m ≠ .close)
    (hbare : carried B.sealing m = [] ∨ s.closeSent = false)
    (hpending : s.down.pending B.sealing = carried B.sealing m ++ s'.down.pending B.sealing)
    (hread : s'.received = s.received) (hsent : s'.closeSent = s.closeSent)
    (hdummy : ∀ blob, s'.dummy = .send blob → s.dummy = .send blob) : Conveyed B s' where
  bytes := by
    have hbytes := h.bytes
    rw [hpending] at hbytes
    rw [htrack, hread, List.flatMap_append, List.flatMap_singleton, List.append_assoc]
    exact hbytes
  after := by
    rw [htrack, nothingAfter_snoc]
    refine ⟨h.after, ?_⟩
    intro hcarries x hx hclose
    rcases hbare with hbare | hnot
    · exact hcarries hbare
    · have hsent := h.close_mem.mp (hclose ▸ hx)
      rw [hnot] at hsent
      cases hsent
  close_mem := by
    rw [htrack, hsent, List.mem_append, List.mem_singleton, ← h.close_mem]
    exact or_iff_left hm.symm
  dummy blob hd := h.dummy blob (hdummy blob hd)

theorem track_push (s : State) (m : Message) :
    fedMessages s.log ++ (s.writer.inHand ++ (s.queue ++ [m])) = s.track ++ [m] := by
  simp only [State.track, List.append_assoc]

theorem track_fed (hw : s.writer = .feed m) : (s.fed m).track = s.track := by
  unfold State.fed
  split
  · simp [State.track, hw, Writer.inHand]
  · split
    · rename_i next queue hq
      simp [State.track, hw, hq, Writer.inHand]
    · rename_i hq
      simp [State.track, hw, hq, Writer.inHand]

theorem fed_same (s : State) (m : Message) :
    (s.fed m).down = s.down ∧ (s.fed m).received = s.received ∧
      (s.fed m).closeSent = s.closeSent ∧ (s.fed m).dummy = s.dummy := by
  unfold State.fed
  split
  · exact ⟨rfl, rfl, rfl, rfl⟩
  · split <;> exact ⟨rfl, rfl, rfl, rfl⟩

/-- `Ok` of the writer and of `up` leave the track alone. -/
theorem Conveyed.writerDone (h : Conveyed B s) (hw : s.writer = .flush what) :
    Conveyed B s.writerDone := by
  unfold State.writerDone
  split
  · refine h.move ?_ rfl rfl rfl rfl
    simp only [State.track, hw]
    rfl
  · exact h.move rfl rfl rfl rfl rfl

theorem Conveyed.upDone (h : Conveyed B s) : Conveyed B s.upDone := by
  unfold State.upDone
  split
  · exact h.move rfl rfl rfl rfl rfl
  · exact h.move rfl rfl rfl rfl rfl

theorem Conveyed.step (h : Conveyed B s) (hstaged : Staged s) (hs : B.step s a = some s') :
    Conveyed B s' := by
  -- while TCP is open the `Close` is not queued
  have hnotSent : s.phase = .running → s.closeSent = false := by
    intro hrun
    by_contra hsent
    exact hstaged.tcpOpen (.inl hrun) (hstaged.sent (Bool.not_eq_false _ ▸ hsent))
  cases step_effect hs with
  | reply _ hw => exact h.move (by simp only [State.track, hw]; rfl) rfl rfl rfl rfl
  | take _ hw hq => exact h.move (by simp only [State.track, hw, hq]; rfl) rfl rfl rfl rfl
  | ping _ hw hq =>
    refine h.append (m := .ping []) ?_ nofun (.inl rfl) rfl rfl rfl fun _ hd => hd
    simp only [State.track, hw, hq, Writer.inHand, List.append_nil]
  | fedPing hw =>
    exact h.move (by simp [State.track, hw, Writer.inHand]) rfl rfl rfl rfl
  | fed hw =>
    obtain ⟨hdown, hread, hsent, hdummy⟩ := fed_same s _
    exact h.move (track_fed hw) hdown hread hsent hdummy
  | flushed hw _ => exact h.move (by simp only [State.track, hw]; rfl) rfl rfl rfl rfl
  | finished hw _ => exact h.writerDone hw
  | closes _ _ =>
    exact Conveyed.upDone (h.move (by simp [State.track]) rfl rfl rfl rfl)
  | streamEnds _ _ => exact Conveyed.upDone (h.move rfl rfl rfl rfl rfl)
  | pongs _ _ =>
    exact h.append (track_push s _) nofun (.inl rfl) rfl rfl rfl fun _ hd => hd
  | reads _ hd =>
    refine ⟨?_, h.after, h.close_mem, h.dummy⟩
    have hbytes := h.bytes
    rw [hd, Down.pending, List.flatten_nil, List.append_nil] at hbytes
    rw [Down.pending, flatten_cut (B.cfg.maxChunk_pos _) _ _ (Nat.le_refl _)]
    exact congrArg (· ++ _) hbytes
  | eof _ hd =>
    refine ⟨?_, h.after, h.close_mem, h.dummy⟩
    have hbytes := h.bytes
    rwa [hd] at hbytes
  | packs _ hd hb =>
    refine ⟨?_, h.after, h.close_mem, h.dummy⟩
    have hbytes := h.bytes
    rw [hd, Down.pending, List.flatten_cons] at hbytes
    rw [Down.pending, hb]
    exact hbytes
  | sends hrun hd =>
    refine h.append (track_push s _) nofun (.inr (hnotSent hrun)) ?_ rfl rfl fun _ hd => hd
    rw [hd]
    rfl
  | dozes _ => exact ⟨h.bytes, h.after, h.close_mem, nofun⟩
  | dummyPacks hb =>
    refine ⟨h.bytes, h.after, h.close_mem, ?_⟩
    intro blob hd
    cases hd
    exact hb
  | dummySends hd =>
    have hbare := h.dummy _ hd
    refine h.append (track_push s _) nofun (.inl hbare) ?_ rfl rfl nofun
    rw [hbare]
    rfl
  | closing _ _ hnew =>
    have htrack := track_push s .close
    refine ⟨?_, ?_, ?_, h.dummy⟩
    · rw [State.track, htrack, List.flatMap_append]
      simpa [carried] using h.bytes
    · rw [State.track, htrack, nothingAfter_snoc]
      exact ⟨h.after, fun hcarries => absurd rfl hcarries⟩
    · rw [State.track, htrack]
      simp
  | _ => exact h.move rfl rfl rfl rfl rfl

/-! ## 4. Nothing is fed after a `Close` -/

/-- Whatever happens, nothing more is fed. -/
def State.Silent (s : State) : Prop :=
  (∃ e, s.phase = .ended e) ∨ s.writer.finished = true ∨
    s.phase = .peerClosed ∧ s.writer.feeding = false

theorem State.Silent.keep (h : s.Silent) (hphase : s'.phase = s.phase ∨ ∃ e, s'.phase = .ended e)
    (hw : s'.writer = s.writer) : s'.Silent := by
  rcases hphase with heq | hended
  · rw [State.Silent, heq, hw]
    exact h
  · exact .inl hended

/-- A step is made by a bridge that has not returned. -/
theorem State.Silent.of_step (h : s.Silent) (hs : B.step s a = some s') :
    s.writer.finished = true ∨ s.phase = .peerClosed ∧ s.writer.feeding = false := by
  rcases h with ⟨e, he⟩ | h
  · exact absurd he (live_of_step hs e)
  · exact h

theorem not_silent_of_feeding (hs : B.step s a = some s') (hfeeds : s.writer.feeding = true) :
    ¬ s.Silent := by
  intro h
  rcases h.of_step hs with hfin | ⟨-, hnot⟩
  · cases hw : s.writer with
    | ping | feed => rw [hw] at hfin; cases hfin
    | _ => rw [hw] at hfeeds; cases hfeeds
  · rw [hfeeds] at hnot
    cases hnot

/-- Without the signal a writer at its `select!` may go on. -/
theorem not_silent_of_select (hs : B.step s a = some s') (hphase : s.phase ≠ .peerClosed)
    (hw : s.writer = .select) : ¬ s.Silent := by
  intro h
  rcases h.of_step hs with hfin | ⟨hp, -⟩
  · rw [hw] at hfin
    cases hfin
  · exact hphase hp

theorem silent_writerDone (s : State) : s.writerDone.Silent := by
  unfold State.writerDone
  split
  · exact .inr (.inl rfl)
  · exact .inl ⟨_, rfl⟩

/-- When `up` returns, a writer that has finished or is not feeding stays silent. -/
theorem State.Settled.upDone (h : s.Settled) : s.upDone.Silent := by
  unfold State.upDone
  split
  · rename_i hrun
    rcases h with hfin | ⟨-, hnot⟩
    · exact .inr (.inl hfin)
    · exact .inr (.inr ⟨rfl, hnot⟩)
  · rename_i hrun
    rcases h with hfin | ⟨hphase, -⟩
    · exact .inr (.inl hfin)
    · exact absurd hphase hrun

theorem State.Silent.upDone (h : s.Silent) (hlive : ∀ e, s.phase ≠ .ended e)
    (hpolled : s.phase ≠ .peerClosed) : s.upDone.Silent := by
  refine State.Settled.upDone (.inl ?_)
  rcases h with ⟨e, he⟩ | hfin | ⟨hp, -⟩
  · exact absurd he (hlive e)
  · exact hfin
  · exact absurd hp hpolled

/-- `up` is not polled any more when it has returned first. -/
theorem polled_of_next (hs : B.step s .next = some s') : s.phase ≠ .peerClosed := by
  intro hp
  unfold Params.step at hs
  rw [hp] at hs
  cases hs

/-- **Silence lasts.** -/
theorem State.Silent.step (h : s.Silent) (hs : B.step s a = some s') : s'.Silent := by
  cases step_effect hs with
  | reply _ _ => exact .inr (.inl rfl)
  | take hphase hw _ => exact absurd h (not_silent_of_select hs hphase hw)
  | ping hphase hw _ => exact absurd h (not_silent_of_select hs hphase hw)
  | fedPing hw => exact absurd h (not_silent_of_feeding hs (by rw [hw]; rfl))
  | fed hw => exact absurd h (not_silent_of_feeding hs (by rw [hw]; rfl))
  | flushed hw hgo =>
    rcases h.of_step hs with hfin | ⟨hp, -⟩
    · rw [hw] at hfin
      rcases hgo with rfl | rfl <;> cases hfin
    · exact .inr (.inr ⟨hp, rfl⟩)
  | finished _ _ => exact silent_writerDone s
  | closes _ _ =>
    have hlive := live_of_step hs
    have hpolled := polled_of_next hs
    exact State.Silent.upDone (h.keep (.inl rfl) rfl) hlive hpolled
  | streamEnds _ _ =>
    have hlive := live_of_step hs
    have hpolled := polled_of_next hs
    exact State.Silent.upDone (h.keep (.inl rfl) rfl) hlive hpolled
  | eof hrun _ =>
    rcases h.of_step hs with hfin | ⟨hp, -⟩
    · exact .inr (.inl hfin)
    · rw [hrun] at hp
      cases hp
  | stops _ => exact .inl ⟨_, rfl⟩
  | _ => exact h.keep (.inl rfl) rfl

/-- **What a step logs**: a message, from a writer that feeds, or the peer's `Close`. -/
theorem log_of_step (hs : B.step s a = some s') :
    s'.log = s.log ∨
    (∃ m, s.writer.feeding = true ∧ s'.log = s.log ++ [.fed m] ∧
      (m = .close → s'.writer.finished = true)) ∨
    (∃ inbox, a = .next ∧ s.inbox = .message .close :: inbox ∧
      s'.log = s.log ++ [.peerClose] ∧ (s.Settled → s'.Silent)) := by
  cases step_effect hs with
  | fedPing hw => exact .inr (.inl ⟨_, by rw [hw]; rfl, rfl, nofun⟩)
  | @fed m hw =>
    refine .inr (.inl ⟨m, by rw [hw]; rfl, ?_⟩)
    unfold State.fed
    split
    · exact ⟨rfl, fun _ => rfl⟩
    · rename_i hne
      split <;> exact ⟨rfl, fun heq => absurd heq hne⟩
  | finished _ _ =>
    left
    unfold State.writerDone
    split <;> rfl
  | closes _ hi =>
    refine .inr (.inr ⟨_, rfl, hi, ?_, fun hset => State.Settled.upDone hset⟩)
    unfold State.upDone
    split <;> rfl
  | streamEnds _ _ =>
    left
    unfold State.upDone
    split <;> rfl
  | _ => exact .inl rfl

structure Hushed (s : State) : Prop where
  quiet : s.Quiet
  silent : ∀ e ∈ s.log, e.closes = true → s.Silent

theorem Hushed.start (prefetched : List WsBridgePrefetch) (stream : List WsRead) :
    Hushed (State.start prefetched stream) where
  quiet := .nil
  silent _ h := absurd h List.not_mem_nil

theorem Hushed.step (h : Hushed s) (hok : B.Orderly s a) (hs : B.step s a = some s') :
    Hushed s' := by
  rcases log_of_step hs with hlog | ⟨m, hfeeds, hlog, hclose⟩ | ⟨inbox, rfl, hi, hlog, hsettled⟩
  · refine ⟨?_, ?_⟩
    · rw [State.Quiet, hlog]
      exact h.quiet
    · rw [hlog]
      exact fun e he hc => (h.silent e he hc).step hs
  · -- a writer that feeds has not been silenced
    have hnone : ∀ e ∈ s.log, ¬ e.closes = true := fun e he hc =>
      not_silent_of_feeding hs hfeeds (h.silent e he hc)
    refine ⟨?_, ?_⟩
    · rw [State.Quiet, hlog, nothingAfter_snoc]
      exact ⟨h.quiet, fun _ => hnone⟩
    · rw [hlog]
      intro e he hc
      rcases List.mem_append.mp he with he | he
      · exact absurd hc (hnone e he)
      · rw [List.mem_singleton.mp he] at hc
        exact .inr (.inl (hclose (of_decide_eq_true hc)))
  · refine ⟨?_, ?_⟩
    · rw [State.Quiet, hlog, nothingAfter_snoc]
      exact ⟨h.quiet, nofun⟩
    · intro _ _ _
      simp only [Params.Orderly, hi] at hok
      exact hsettled hok

/-! ## 5. Nothing is lost on the way in -/

/-- What `up` has taken and not written. -/
def Up.pending : Up → Bytes
  | .writing bytes => bytes
  | _ => []

/-- **What is written, what waits and what is due are what the peer sent.** -/
structure Written (B : Params) (inbox : List Inbound) (s : State) : Prop where
  open_ : s.up ≠ .done → s.written ++ (s.up.pending ++ B.due s.inbox) = B.due inbox
  done : s.up = .done → s.written = B.due inbox

theorem Written.start (B : Params) (prefetched : List WsBridgePrefetch) (stream : List WsRead) :
    Written B (inboxOf prefetched stream) (State.start prefetched stream) where
  open_ _ := rfl
  done := nofun

theorem Written.keep (h : Written B inbox s) (hup : s'.up = s.up) (hin : s'.inbox = s.inbox)
    (hout : s'.written = s.written) : Written B inbox s' where
  open_ := by rw [hup, hin, hout]; exact h.open_
  done := by rw [hup, hout]; exact h.done

/-- Where nothing waits. -/
theorem Written.idle (h : Written B inbox s)
    (hup : s.up = .next ∨ ∃ payload, s.up = .ponging payload) :
    s.written ++ B.due s.inbox = B.due inbox := by
  rcases hup with hup | ⟨payload, hup⟩
  · have hsum := h.open_ (by rw [hup]; exact nofun)
    rwa [hup] at hsum
  · have hsum := h.open_ (by rw [hup]; exact nofun)
    rwa [hup] at hsum

/-- What `up` writes of an item that it may take is what the peer sent with it. -/
theorem due_of_write {i : Inbound} {rest : List Inbound} {bytes : Bytes}
    (hok : B.MayTake s (i :: rest)) (hr : B.react i = .write bytes) :
    B.due (i :: rest) = bytes ++ B.due rest := by
  cases i with
  | openedPayload b =>
    cases hr
    rfl
  | failed | ended => cases hr
  | message m =>
    cases m with
    | binary b =>
      cases hb : B.openBinary b with
      | error why =>
        simp only [Params.react, hb] at hr
        cases hr
      | ok out =>
        simp only [Params.react, hb, Reaction.write.injEq] at hr
        simp only [Params.MayTake, hb, Except.toOption, Option.some.injEq, reduceCtorEq, false_and,
          or_false] at hok
        simp only [Params.due, ← hok, hr]
    | ping payload => cases hr
    | pong payload =>
      cases hr
      rfl
    | text t =>
      cases hr
      rfl
    | close => cases hr

theorem Written.upDone (hall : s.written = B.due inbox) : Written B inbox s.upDone := by
  unfold State.upDone
  split
  · exact ⟨fun h => absurd rfl h, fun _ => hall⟩
  · exact ⟨fun h => absurd rfl h, fun _ => hall⟩

theorem Written.step (h : Written B inbox s) (hok : B.Orderly s a) (hs : B.step s a = some s') :
    Written B inbox s' := by
  cases step_effect hs with
  | fed _ =>
    unfold State.fed
    split
    · exact h.keep rfl rfl rfl
    · split <;> exact h.keep rfl rfl rfl
  | finished _ _ =>
    unfold State.writerDone
    split <;> exact h.keep rfl rfl rfl
  | takes hup hi hr =>
    have hsum := h.idle (.inl hup)
    simp only [Params.Orderly, hi] at hok
    rw [hi, due_of_write hok hr] at hsum
    split
    · rename_i hnil
      rw [hnil, List.nil_append] at hsum
      exact ⟨fun _ => hsum, nofun⟩
    · exact ⟨fun _ => hsum, nofun⟩
  | pinged hup hi =>
    have hsum := h.idle (.inl hup)
    rw [hi] at hsum
    exact ⟨fun _ => hsum, nofun⟩
  | closes hup hi =>
    have hsum := h.idle (.inl hup)
    rw [hi, Params.due, List.append_nil] at hsum
    exact Written.upDone hsum
  | streamEnds hup hi =>
    have hsum := h.idle (.inl hup)
    rw [hi, Params.due, List.append_nil] at hsum
    exact Written.upDone hsum
  | writes hup =>
    have hsum := h.open_ (by rw [hup]; exact nofun)
    rw [hup, Up.pending, ← List.append_assoc] at hsum
    exact ⟨fun _ => hsum, nofun⟩
  | pongs hup _ =>
    have hsum := h.idle (.inr ⟨_, hup⟩)
    exact ⟨fun _ => hsum, nofun⟩
  | _ => exact h.keep rfl rfl rfl

/-! ## 6. The clean close -/

/-- How a bridge returns after TCP has ended. -/
def Concluded (s : State) : Prop :=
  ∀ e, s.phase = .ended e → s.down = .done →
    (∃ what, e = .webSocket what) ∨ (∃ what, e = .timedOut what) ∨
      .close ∈ fedMessages s.log ∧ s.up = .done

theorem Concluded.writerDone (hstaged : Staged s) (hw : s.writer = .flush what)
    (hend : what = .close ∨ what = .closeReply) (hlive : ∀ e, s.phase ≠ .ended e) :
    Concluded s.writerDone := by
  unfold State.writerDone
  split
  · rename_i hphase
    intro e he _
    rcases joined_cases { s with writer := .done } with heq | ⟨-, -, hup⟩
    · exact absurd (heq.symm.trans he) (hlive e)
    · refine .inr (.inr ⟨?_, hup⟩)
      rcases hend with rfl | rfl
      · exact hstaged.closeFed (.inl hw)
      · exact absurd (hstaged.tcpEnded hphase) (hstaged.replied hw).2
  · rename_i hne
    intro e _ hdone
    have hopen : s.phase = .running ∨ s.phase = .peerClosed := by
      cases hphase : s.phase with
      | running => exact .inl rfl
      | peerClosed => exact .inr rfl
      | closing => exact absurd hphase hne
      | ended e => exact absurd hphase (hlive e)
    exact absurd hdone (hstaged.tcpOpen hopen)

theorem Concluded.upDone (hstaged : Staged s) (hlive : ∀ e, s.phase ≠ .ended e) :
    Concluded s.upDone := by
  unfold State.upDone
  split
  · intro e he
    cases he
  · intro e he _
    rcases joined_cases { s with up := .done } with heq | ⟨-, hw, -⟩
    · exact absurd (heq.symm.trans he) (hlive e)
    · exact .inr (.inr ⟨hstaged.closeFed (.inr hw), rfl⟩)

/-- **After the end of TCP an orderly bridge stops only for the WebSocket or the timeout.** -/
theorem Concluded.stops {e : Ending} (hstaged : Staged s) (hconv : Conveyed B s)
    (hok : B.Orderly s a) (h : Stops B s a e) (hdone : s.down = .done) :
    (∃ what, e = .webSocket what) ∨ ∃ what, e = .timedOut what := by
  have hnotRunning : s.phase ≠ .running := fun hrun => hstaged.tcpOpen (.inl hrun) hdone
  cases h with
  | webSocket what => exact .inl ⟨what, rfl⟩
  | timedOut what => exact .inr ⟨what, rfl⟩
  | running hrun => exact absurd hrun hnotRunning
  | unreadable hi hb =>
    simp only [Params.Orderly, hi, Params.MayTake, hb, Except.toOption] at hok
    rcases hok with hok | ⟨-, hrun⟩
    · cases hok
    · exact absurd hrun hnotRunning
  | unwritten =>
    rcases hok with hok | hrun
    · cases hok
    · exact absurd hrun hnotRunning
  | latePong hw => exact absurd hw hok
  | lateClose hw hnew =>
    -- the writer has returned because it fed the `Close`, which was not queued
    have hmem : .close ∈ s.track := List.mem_append_left _ (hstaged.closeFed (.inr hw))
    rw [hconv.close_mem, hnew] at hmem
    cases hmem

theorem Concluded.step (hstaged : Staged s) (hconv : Conveyed B s) (hok : B.Orderly s a)
    (hs : B.step s a = some s') : Concluded s' := by
  have hlive := live_of_step hs
  cases step_effect hs with
  | fed _ =>
    intro e he
    unfold State.fed at he
    split at he
    · exact absurd he (hlive e)
    · split at he <;> exact absurd he (hlive e)
  | finished hw hend => exact Concluded.writerDone hstaged hw hend hlive
  | closes _ _ =>
    exact Concluded.upDone
      (hstaged.keep (.inl rfl) Iff.rfl rfl (.inl rfl) (fedMessages_mono _)) hlive
  | streamEnds _ _ =>
    exact Concluded.upDone (hstaged.keep (.inl rfl) Iff.rfl rfl (.inl rfl) id) hlive
  | eof _ _ =>
    intro e he
    cases he
  | stops h =>
    intro e he hdone
    cases he
    rcases Concluded.stops hstaged hconv hok h hdone with hws | htime
    · exact .inl hws
    · exact .inr (.inl htime)
  | _ =>
    intro e he
    exact absurd he (hlive e)

/-- **What every orderly run keeps.** -/
structure Inv (B : Params) (inbox : List Inbound) (s : State) : Prop where
  staged : Staged s
  conveyed : Conveyed B s
  hushed : Hushed s
  written : Written B inbox s
  concluded : Concluded s

theorem Inv.path {prefetched : List WsBridgePrefetch} {stream : List WsRead} {t : State}
    (h : Path B.step B.Orderly (State.start prefetched stream) t) :
    Inv B (inboxOf prefetched stream) t := by
  refine h.invariant
    ⟨.start _ _, .start B _ _, .start _ _, .start B _ _, fun e he => by cases he⟩ ?_
  intro s a s' hI hok hs
  exact ⟨hI.staged.step hs, hI.conveyed.step hI.staged hs, hI.hushed.step hok hs,
    hI.written.step hok hs, Concluded.step hI.staged hI.conveyed hok hs⟩

/-- Once the `Close` was fed, everything that was read from TCP was fed before it. -/
theorem Conveyed.fed_before (h : Conveyed B s) (hdone : s.down = .done)
    (hclose : .close ∈ fedMessages s.log) :
    ∃ before after, s.log = before ++ .fed .close :: after ∧
      (fedMessages before).flatMap (carried B.sealing) = s.received := by
  obtain ⟨e, he, hmsg⟩ := List.mem_filterMap.mp hclose
  have heq : e = .fed .close := by
    cases e with
    | fed m => exact congrArg Event.fed (Option.some.inj hmsg)
    | peerClose => cases hmsg
  subst heq
  obtain ⟨before, after, hlog⟩ := List.append_of_mem he
  refine ⟨before, after, hlog, ?_⟩
  have htrack : s.track = fedMessages before ++
      .close :: (fedMessages after ++ (s.writer.inHand ++ s.queue)) := by
    rw [State.track, hlog, fedMessages_append]
    simp [fedMessages]
  have hafter := h.after
  rw [htrack] at hafter
  have hrest : (fedMessages after ++ (s.writer.inHand ++ s.queue)).flatMap (carried B.sealing) =
      [] := by
    refine List.flatMap_eq_nil_iff.mpr fun m hm => ?_
    exact Decidable.not_not.mp (hafter.of_split rfl m hm)
  have hbytes := h.bytes
  rw [htrack, hdone, Down.pending, List.append_nil, List.flatMap_append, List.flatMap_cons, hrest,
    List.append_nil] at hbytes
  exact (List.append_nil _).symm.trans hbytes

/-- **The clean close of the bridge**, in every run whose steps are all orderly: nothing is fed
after a `Close`; and when the bridge has returned after TCP ended first, for another reason than the
WebSocket or the timeout, nothing was lost. -/
theorem clean_close {prefetched : List WsBridgePrefetch} {stream : List WsRead} {t : State}
    (h : Path B.step B.Orderly (State.start prefetched stream) t) :
    t.Quiet ∧
    (t.down = .done → ∀ e, t.phase = .ended e → (∀ what, e ≠ .webSocket what) →
      (∀ what, e ≠ .timedOut what) → Delivered B (inboxOf prefetched stream) t) := by
  have hI := Inv.path h
  refine ⟨hI.hushed.quiet, ?_⟩
  intro hdone e he hws htime
  rcases hI.concluded e he hdone with ⟨what, hw⟩ | ⟨what, ht⟩ | ⟨hclose, hup⟩
  · exact absurd hw (hws what)
  · exact absurd ht (htime what)
  · exact ⟨hI.conveyed.fed_before hdone hclose, hI.written.done hup⟩

end Invariants

/-- A bridge of a client without encryption, padding, pings or dummy frames. -/
def plainBridge : Params := ⟨⟨0, 0, .random, 4096⟩, none, .client, 0, 0⟩

/-- The draws of a frame that is neither padded nor sealed. -/
def noDraws : Draws := ⟨⟨0, fun _ => 0⟩, ⟨0, fun _ => 0⟩, 0⟩

/-- Both ends have sent one byte, and TCP ends first. -/
def closeInTurn : List Act :=
  [.read (some [7]), .pack noDraws, .sendData, .read (some []), .close, .next, .write true,
    .select false, .feed true, .feed true, .flush true, .next]

/-- The orderly close, in which the peer answers the `Close` with its own. -/
theorem clean_close_in_turn :
    (run plainBridge.step
        (State.start [] [.message (.binary [1, 0, 0, 1, 0, 9]), .message .close])
        closeInTurn).isSome = true ∧
    ∀ t, run plainBridge.step
        (State.start [] [.message (.binary [1, 0, 0, 1, 0, 9]), .message .close]) closeInTurn =
        some t →
      t.Quiet ∧ Delivered plainBridge
        (inboxOf [] [.message (.binary [1, 0, 0, 1, 0, 9]), .message .close]) t := by
  refine ⟨by decide +kernel, ?_⟩
  intro t ht
  have hpath := Path.of_run (P := plainBridge.Orderly) (by decide +kernel) ht
  have hend : (run plainBridge.step
      (State.start [] [.message (.binary [1, 0, 0, 1, 0, 9]), .message .close]) closeInTurn).map
        (fun s => (s.down, s.phase)) = some (.done, .ended .ok) := by decide +kernel
  rw [ht] at hend
  obtain ⟨hdone, hphase⟩ := Prod.mk.inj (Option.some.inj hend)
  obtain ⟨hquiet, hdelivered⟩ := clean_close hpath
  exact ⟨hquiet, hdelivered hdone .ok hphase nofun nofun⟩

/-- **The close is not always clean.**

* TCP has ended, and the peer's `Close` is read while the writer still flushes.  The writer goes on
  and feeds its own.
* TCP has ended and the `Close` was fed.  The peer, which has not seen it, pings, sends a byte and
  closes.  The ping ends the bridge, and the byte is not written.  Neither has the WebSocket failed,
  nor has the timeout fired. -/
theorem close_not_clean :
    (∃ t, run plainBridge.step (State.start [] [.message .close])
        [.read (some [7]), .pack noDraws, .sendData, .select false, .feed true, .read (some []),
          .close, .next, .flush true, .select false, .feed true] = some t ∧
      t.log = [.fed (.binary [1, 0, 0, 1, 0, 7]), .peerClose, .fed .close] ∧ ¬ t.Quiet) ∧
    (∃ t, run plainBridge.step
        (State.start []
          [.message (.ping []), .message (.binary [1, 0, 0, 1, 0, 9]), .message .close])
        [.read (some []), .close, .select false, .feed true, .flush true, .next, .pong] = some t ∧
      t.down = .done ∧ t.phase = .ended (.queue "ws pong") ∧ t.written = [] ∧
      plainBridge.due (inboxOf [] [.message (.ping []), .message (.binary [1, 0, 0, 1, 0, 9]),
        .message .close]) = [9]) := by
  refine ⟨⟨_, rfl, ?_, ?_⟩, ⟨_, rfl, ?_, ?_, ?_, ?_⟩⟩
  all_goals decide +kernel

/-! ## 7. The condition on the peer's `Close` is exact -/

section Exact

variable {B : Params} {s s' : State} {a : Act}

/-- A writer in `feed` can feed. -/
theorem feed_of_feeding (hpolls : s.phase.polls .writer = true) (hfeeds : s.writer.feeding = true) :
    ∃ t m, B.step s (.feed true) = some t ∧ t.log = s.log ++ [.fed m] := by
  cases hw : s.writer with
  | ping =>
    refine ⟨{ s with log := s.log ++ [.fed (.ping [])], writer := .flush .ping }, .ping [], ?_, rfl⟩
    simp only [Params.step, Act.task, hpolls, Params.writerAct, hw, if_true]
  | feed m =>
    refine ⟨s.fed m, m, ?_, ?_⟩
    · simp only [Params.step, Act.task, hpolls, Params.writerAct, hw, if_true]
    · unfold State.fed
      split
      · rfl
      · split <;> rfl
  | _ => rw [hw] at hfeeds; cases hfeeds

/-- At its `select!` the writer takes what is queued, and then feeds it. -/
theorem feed_of_queued (hphase : s.phase = .closing) (hw : s.writer = .select) (hq : s.queue ≠ []) :
    ∃ as t m, run B.step s as = some t ∧ t.log = s.log ++ [.fed m] := by
  cases hqueue : s.queue with
  | nil => exact absurd hqueue hq
  | cons m queue =>
    have hselect : B.step s (.select false) = some { s with writer := .feed m, queue } := by
      simp [Params.step, Act.task, hphase, Phase.polls, Params.writerAct, hw, hqueue]
    obtain ⟨t, m', hfeed, hlog⟩ := feed_of_feeding (B := B)
      (s := { s with writer := .feed m, queue }) (by rw [hphase]; rfl) rfl
    refine ⟨[.select false, .feed true], t, m', ?_, hlog⟩
    rw [run_cons, hselect, Option.bind_some, run_cons, hfeed]
    rfl

/-- After TCP has ended, a writer that has not finished can feed: there is a message, or the `Close`
is still to be queued. -/
theorem feed_of_closing (hphase : s.phase = .closing) (hfin : s.writer.finished = false)
    (hmore : s.writer.inHand ++ s.queue ≠ [] ∨ s.closeSent = false) :
    ∃ as t m, run B.step s as = some t ∧ t.log = s.log ++ [.fed m] := by
  have hselect : ∀ u : State, u.phase = .closing → u.writer = .select →
      (u.queue ≠ [] ∨ u.closeSent = false) →
      ∃ as t m, run B.step u as = some t ∧ t.log = u.log ++ [.fed m] := by
    intro u hphase hw hmore
    by_cases hq : u.queue = []
    · have hnew : u.closeSent = false := hmore.resolve_left (absurd hq)
      have hclose : B.step u .close = some { u with queue := [.close], closeSent := true } := by
        simp [Params.step, Act.task, hphase, Phase.polls, State.closeAct, State.send, hw, hnew, hq,
          wsOutCap]
      obtain ⟨as, t, m, hrun, hlog⟩ := feed_of_queued (B := B)
        (s := { u with queue := [.close], closeSent := true }) hphase hw (by simp)
      refine ⟨.close :: as, t, m, ?_, hlog⟩
      rw [run_cons, hclose]
      exact hrun
    · exact feed_of_queued hphase hw hq
  cases hw : s.writer with
  | select =>
    rw [hw] at hmore
    exact hselect s hphase hw hmore
  | ping =>
    obtain ⟨t, m, hfeed, hlog⟩ :=
      feed_of_feeding (B := B) (s := s) (by rw [hphase]; rfl) (by rw [hw]; rfl)
    exact ⟨[.feed true], t, m, by rw [run_cons, hfeed]; rfl, hlog⟩
  | feed m =>
    obtain ⟨t, m, hfeed, hlog⟩ :=
      feed_of_feeding (B := B) (s := s) (by rw [hphase]; rfl) (by rw [hw]; rfl)
    exact ⟨[.feed true], t, m, by rw [run_cons, hfeed]; rfl, hlog⟩
  | done => rw [hw] at hfin; cases hfin
  | flush what =>
    rw [hw] at hmore hfin
    have hflush : B.step s (.flush true) = some { s with writer := .select } := by
      cases what with
      | batch => simp [Params.step, Act.task, hphase, Phase.polls, Params.writerAct, hw]
      | ping => simp [Params.step, Act.task, hphase, Phase.polls, Params.writerAct, hw]
      | close => cases hfin
      | closeReply => cases hfin
    obtain ⟨as, t, m, hrun, hlog⟩ := hselect { s with writer := .select } hphase rfl hmore
    refine ⟨.flush true :: as, t, m, ?_, hlog⟩
    rw [run_cons, hflush]
    exact hrun

/-- A message fed after the peer's `Close`. -/
theorem not_quiet_of_fed {m : Message} {log : List Event} (hlog : s.log = log ++ [.fed m])
    (hclose : .peerClose ∈ log) : ¬ s.Quiet := by
  intro hquiet
  rw [State.Quiet, hlog, nothingAfter_snoc] at hquiet
  exact hquiet.2 rfl _ hclose rfl

/-- In silence the log stays quiet. -/
theorem State.Silent.quiet (h : s.Silent) (hquiet : s.Quiet) (hs : B.step s a = some s') :
    s'.Quiet := by
  rcases log_of_step hs with hlog | ⟨m, hfeeds, -⟩ | ⟨inbox, -, -, hlog, -⟩
  · rw [State.Quiet, hlog]
    exact hquiet
  · exact absurd h (not_silent_of_feeding hs hfeeds)
  · rw [State.Quiet, hlog, nothingAfter_snoc]
    exact ⟨hquiet, nofun⟩

theorem upDone_same (s : State) :
    s.upDone.log = s.log ∧ s.upDone.writer = s.writer ∧ s.upDone.queue = s.queue ∧
      s.upDone.closeSent = s.closeSent := by
  unfold State.upDone
  split <;> exact ⟨rfl, rfl, rfl, rfl⟩

/-- If the writer is not settled when `up` returns, it can feed. -/
theorem feed_of_unsettled (hphase : s.phase = .running ∨ s.phase = .closing) (hnot : ¬ s.Settled)
    (hmore : s.writer.inHand ++ s.queue ≠ [] ∨ s.closeSent = false) :
    ∃ as t m, run B.step s.upDone as = some t ∧ t.log = s.log ++ [.fed m] := by
  obtain ⟨hlog, hw, hq, hsent⟩ := upDone_same s
  have hfin : s.writer.finished = false := by
    by_contra hf
    exact hnot (.inl (Bool.not_eq_false _ ▸ hf))
  rw [← hlog]
  rcases hphase with hrun | hclosing
  · -- the signal is sent, but the writer is in `feed`
    have hfeeds : s.writer.feeding = true := by
      by_contra hf
      exact hnot (.inr ⟨hrun, Bool.not_eq_true _ ▸ hf⟩)
    have hpolls : s.upDone.phase.polls .writer = true := by
      simp only [State.upDone, hrun]
      rfl
    obtain ⟨t, m, hfeed, ht⟩ := feed_of_feeding (B := B) hpolls (hw ▸ hfeeds)
    exact ⟨[.feed true], t, m, by rw [run_cons, hfeed]; rfl, ht⟩
  · have hphase : s.upDone.phase = .closing := by
      unfold State.upDone
      split
      · rename_i hrun
        rw [hclosing] at hrun
        cases hrun
      · rcases joined_cases { s with up := .done } with heq | ⟨-, hdone, -⟩
        · exact heq.trans hclosing
        · have hdone : s.writer = .done := hdone
          rw [hdone] at hfin
          cases hfin
    refine feed_of_closing hphase (hw ▸ hfin) ?_
    rwa [hw, hq, hsent]

/-- Before the `Close` is fed there is something to feed, or it is still to be queued. -/
theorem Inv.more {inbox : List Inbound} (hI : Inv B inbox s) (hlive : ∀ e, s.phase ≠ .ended e)
    (hnot : ¬ s.Settled) (hphase : s.phase ≠ .peerClosed) :
    s.writer.inHand ++ s.queue ≠ [] ∨ s.closeSent = false := by
  by_contra hnone
  obtain ⟨hempty, hsent⟩ := not_or.mp hnone
  have hmem := hI.conveyed.close_mem.mpr (Bool.not_eq_false _ ▸ hsent)
  rw [State.track, Decidable.not_not.mp hempty, List.append_nil] at hmem
  obtain ⟨e, he, hmsg⟩ := List.mem_filterMap.mp hmem
  have hcloses : e.closes = true := by
    cases e with
    | fed m => exact decide_eq_true (Option.some.inj hmsg)
    | peerClose => rfl
  rcases hI.hushed.silent e he hcloses with ⟨e, hended⟩ | hfin | ⟨hp, -⟩
  · exact hlive e hended
  · exact hnot (.inl hfin)
  · exact hphase hp

/-- **When the peer's `Close` is next**, the log is quiet in every run in which the reader takes the
`Close` now IF AND ONLY IF the writer is settled. -/
theorem settled_iff {prefetched : List WsBridgePrefetch} {stream : List WsRead}
    {inbox : List Inbound} (h : Path B.step B.Orderly (State.start prefetched stream) s)
    (hphase : s.phase = .running ∨ s.phase = .closing) (hup : s.up = .next)
    (hin : s.inbox = .message .close :: inbox) :
    s.Settled ↔ ∀ as t, run B.step s (.next :: as) = some t → t.Quiet := by
  have hI := Inv.path h
  have hpolls : s.phase.polls .up = true := by rcases hphase with hp | hp <;> rw [hp] <;> rfl
  have hnext : B.step s .next =
      some (State.upDone { s with inbox, log := s.log ++ [.peerClose] }) := by
    simp only [Params.step, Act.task, hpolls, Params.upAct, hup, hin, Params.react, if_true]
  simp only [run_cons, hnext, Option.bind_some]
  constructor
  · intro hset as t hrun
    have hok : B.Orderly s .next := by
      simp only [Params.Orderly, hin]
      exact hset
    have hhushed := hI.hushed.step hok hnext
    have hmem : Event.peerClose ∈
        (State.upDone { s with inbox, log := s.log ++ [.peerClose] }).log := by
      rw [(upDone_same _).1]
      exact List.mem_append_right _ (List.mem_singleton_self _)
    have hsilent := hhushed.silent _ hmem rfl
    refine ((Reachable.of_run hrun).invariant (I := fun u => u.Quiet ∧ u.Silent)
      ⟨hhushed.quiet, hsilent⟩ ?_).1
    intro u a u' hu hs
    exact ⟨hu.2.quiet hu.1 hs, hu.2.step hs⟩
  · intro hall
    by_contra hnot
    have hlive : ∀ e, s.phase ≠ .ended e := live_of_step hnext
    have hmore := hI.more hlive hnot (polled_of_next hnext)
    obtain ⟨as, t, m, hrun, hlog⟩ := feed_of_unsettled (B := B)
      (s := { s with inbox, log := s.log ++ [.peerClose] }) hphase hnot hmore
    exact not_quiet_of_fed hlog (by simp) (hall as t hrun)

theorem settled_iff_at_start : let s := State.start [] [.message .close]
    s.Settled ∧ ∀ as t, run plainBridge.step s (.next :: as) = some t → t.Quiet :=
  ⟨by decide, (settled_iff (.refl _) (.inl rfl) rfl rfl).mp (by decide)⟩

end Exact

end BibaVpn.Tunnel.Bridge
