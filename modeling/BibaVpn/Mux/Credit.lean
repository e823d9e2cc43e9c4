/-
# What credit guarantees, and what it does not

* §1: in every reachable state of a pair whose ends are not cancelled, credit is conserved in both
  directions (`credit_conserved`), with the consequences for the arithmetic of the code.
* §2: flow control never resets a stream whose receive queue has room for one more RECORD
  (`not_refused`).  The condition is needed: the byte window admits many more one-byte records than
  the queue does (`one_byte_records_refused`).
-/
import BibaVpn.Mux.Pair

namespace BibaVpn.Mux

open Machine Lts

/-! ## 1. Credit is conserved -/

/-- Bytes of `s` that the receiver `r` has not enqueued: credit was taken for them, and they are in
the uplink's hands, in the output lane, on the WebSocket, or in the record just refused. -/
def unenqueued (s r : Half) : Nat :=
  s.side.up.taken + dataBytes s.out + dataBytes s.wire + optSum Msg.dataLen r.refused

/-- Credit that the receiver `r` has raised and the sender has not applied: about to be queued, in
the control lane, or on the WebSocket. -/
def unapplied (r : Half) : Nat := r.side.down.granting + winTotal r.ctl + winTotal r.wire

/-- **Credit conservation of the direction from `s` to `r`, with `r`'s window `w`.**  The sum; the
same seen from the receiver alone; and what follows for the arithmetic: every counter is within its
window and its `u32`, a subtraction never goes below zero, `publish_credit` never overflows, the
next `WIN` is accepted and the next `DATA` is within the receiver's credit and occupancy. -/
structure Conserved (w : Nat) (s r : Half) : Prop where
  window : r.side.flow.receiveLimit = w ∧ s.side.flow.sendLimit = w ∧ w ≤ u32Max
  sum : s.side.flow.sendAvailable + unenqueued s r + r.side.flow.bytes + r.side.down.pending +
    unapplied r = w
  receiver : r.side.flow.credit + r.side.flow.bytes + r.side.down.pending = w
  available : s.side.flow.sendAvailable ≤ s.side.flow.sendLimit
  consumed : r.side.down.inHand ≤ r.side.flow.bytes
  publish : r.side.flow.raiseCredit r.side.down.pending =
    .ok { r.side.flow with credit := r.side.flow.credit + r.side.down.pending }
  win : ∀ m ws, r.wire = m :: ws → IsWin m →
    s.side.flow.dispatch m.flags m.payload =
      .ok { s.side.flow with
        sendAvailable := s.side.flow.sendAvailable + m.winAmount, sendReady := true }
  data : ∀ payload ws, s.wire = .data payload :: ws →
    payload.length ≤ r.side.flow.credit ∧ r.side.flow.bytes + payload.length ≤ w

/-- The record at the head of the wire is within the receiver's credit and occupancy, whether or
not an end is cancelled. -/
theorem Dir.data_within {w : Nat} {s r : Half} {payload : Bytes} {ws : List Msg} (hr : r.Honest)
    (hd : Dir w s r) (hw : s.wire = .data payload :: ws) :
    payload.length ≤ r.side.flow.credit ∧ r.side.flow.bytes + payload.length ≤ w := by
  have hsum := hd.le
  have hcredit := hr.side.down.credit
  rw [hd.receiveLimit] at hcredit
  simp only [inFlight, Half.sendSum, Half.recvSum, hw, dataBytes_cons, Msg.dataLen] at hsum
  omega

theorem Dir.conserved {w : Nat} {s r : Half} (hs : s.Honest) (hr : r.Honest) (hd : Dir w s r)
    (hsc : s.side.flow.cancelled = false) (hrc : r.side.flow.cancelled = false) :
    Conserved w s r where
  window := ⟨hd.receiveLimit, hd.sendLimit, hd.receiveLimit ▸ hr.side.down.limit⟩
  sum := by
    have hsum := hd.eq hsc hrc
    have hno : optSum Msg.winAmount s.refused = 0 := by
      cases hrf : s.refused with
      | none => rfl
      | some m => exact winAmount_of_isStream (hd.refused m hrf)
    simp only [inFlight, Half.sendSum, Half.recvSum, hno] at hsum
    simp only [unenqueued, unapplied]
    omega
  receiver := hr.side.down.credit.trans hd.receiveLimit
  available := hs.side.up.available
  consumed := le_trans (Nat.le_add_left _ _) hr.side.down.bytes
  publish := hr.side.down.raiseCredit_eq
  win m ws hw hm := by
    obtain ⟨n, rfl, hpos, hle⟩ := hm
    exact hd.win_accepted hs hw hpos hle
  data _ _ hw := hd.data_within hr hw

/-- **Credit is conserved.**  In every state that the two ends can reach, as long as neither has
cancelled the stream, both directions are accounted for byte by byte. -/
theorem credit_conserved {wa wb : MuxWindow} {ca cb : ChunkSize} {ea eb : Nat} {pre : Bytes}
    {p : Pair} (h : Reachable Pair.step (Pair.start wa wb ca cb ea eb pre) p)
    (ha : p.a.side.flow.cancelled = false) (hb : p.b.side.flow.cancelled = false) :
    Conserved wb.bytes p.a p.b ∧ Conserved wa.bytes p.b p.a := by
  have hI := Pair.Inv.reachable h
  exact ⟨hI.ab.conserved hI.a hI.b ha hb, hI.ba.conserved hI.b hI.a hb ha⟩

def oneMib : MuxWindow := ⟨1, Nat.le_refl 1, by decide⟩

def chunk64k : ChunkSize := ⟨64 * 1024, by decide, Nat.le_refl _⟩

/-- Three bytes sent, delivered, written and consumed, and the `WIN` for them about to be queued. -/
def threeBytes : List (Bool × HalfAction) :=
  [(true, .connected), (true, .up (.readSocket [1, 2, 3])), (true, .up .takeCredit),
    (true, .up .acquire), (true, .up .emit), (true, .writeOutput), (false, .connected),
    (false, .deliver true),
    (false, .down .receive), (false, .down (.write 3)), (false, .down .consume),
    (false, .down .check), (false, .down .raise)]

theorem credit_conserved_publishing :
    ∃ p, Lts.run Pair.step (Pair.start oneMib oneMib chunk64k chunk64k 1 1 []) threeBytes = some p ∧
      p.b.side.down.phase = .publishing 3 ∧
      Conserved oneMib.bytes p.a p.b ∧ Conserved oneMib.bytes p.b p.a := by
  refine ⟨_, rfl, rfl, ?_⟩
  have hrun : Lts.run Pair.step (Pair.start oneMib oneMib chunk64k chunk64k 1 1 []) threeBytes
      = some _ := rfl
  exact credit_conserved (Reachable.of_run hrun) rfl rfl

/-! ## 2. Flow control does not reset the stream -/

/-- The queue of `r` has room for one more record when the next one of `s` is `DATA`. -/
def RoomFor (s r : Half) : Prop :=
  ∀ payload ws, s.wire = .data payload :: ws → r.side.flow.queue.length < maxQueuedRecords

/-- **The condition on a step**: a reader takes a `DATA` record only when the stream holds fewer
than `MAX_QUEUED_RECORDS`. -/
def QueueRoom (p : Pair) : Bool × HalfAction → Prop
  | (true, .deliver _) => RoomFor p.b p.a
  | (false, .deliver _) => RoomFor p.a p.b
  | _ => True

/-- **Within the credit, only the number of records can be exceeded.**  A record refused although
the queue had room finds the stream cancelled. -/
theorem Pair.Inv.cancelled_of_refused {wa wb : Nat} {p : Pair} {m : Msg} {ws : List Msg}
    {e : String} (h : p.Inv wa wb) (hw : p.b.wire = m :: ws) (hrst : m ≠ .rst)
    (hroom : RoomFor p.b p.a) (he : p.a.side.dispatch m.flags m.payload = .error e) :
    p.a.side.flow.cancelled = true := by
  have hm := h.isStream_of_refused hw hrst he
  -- a FIN that has arrived was the peer's last record
  have hfin : p.a.side.flow.fin ≠ true := fun hf => by
    have hst := Half.stream_pop hw
    rw [hm, if_pos rfl, (h.ba.fin hf).2] at hst
    cases hst
  unfold Side.dispatch at he
  cases hd : p.a.side.flow.dispatch m.flags m.payload with
  | ok g => rw [hd] at he; cases he
  | error e' =>
    cases m with
    | data payload =>
      have henq := (Flow.dispatch_data p.a.side.flow payload).symm.trans hd
      obtain ⟨hcredit, hbytes⟩ := h.ba.data_within h.a hw
      have hlim := h.ba.receiveLimit
      have hq := hroom payload ws hw
      rcases Flow.enqueue_error henq with hf | hc | ⟨-, hfull⟩
      · exact absurd hf hfin
      · exact hc
      · omega
    | close =>
      have henq := (Flow.dispatch_close p.a.side.flow).symm.trans hd
      rcases Flow.enqueue_error henq with hf | hc | ⟨hne, -⟩
      · exact absurd hf hfin
      · exact hc
      · exact absurd rfl hne
    | opening c t => cases hm
    | win n => cases hm
    | rst => cases hm
    | cap k w => cases hm

theorem Pair.Inv.refusedLive_stepA {wa wb : Nat} {p q : Pair} {act : HalfAction} (h : p.Inv wa wb)
    (hroom : ∀ known, act = .deliver known → RoomFor p.b p.a) (hs : p.stepA act = some q) :
    q.a.refusedLive = p.a.refusedLive ∧ q.b.refusedLive = p.b.refusedLive := by
  rcases Pair.stepA_cases hs with ⟨known, rfl, hk, hr, m, ws, hw, rfl⟩ | ⟨a, ha, rfl⟩
  · refine ⟨?_, rfl⟩
    rcases Half.handle_cases h.a hk m with ⟨hspec, -⟩ | ⟨-, side, -, heq⟩ | ⟨hrst, e, he, heq⟩
    · exact hspec.refusedLive
    · rw [heq]
    · rw [heq]
      simp [h.cancelled_of_refused hw hrst (hroom known rfl) he]
  · exact ⟨(Half.spec_local h.a ha).refusedLive, rfl⟩

theorem Pair.Inv.refusedLive_step {wa wb : Nat} {p q : Pair} {act : Bool × HalfAction}
    (h : p.Inv wa wb) (hroom : QueueRoom p act) (hs : p.step act = some q) :
    q.a.refusedLive = p.a.refusedLive ∧ q.b.refusedLive = p.b.refusedLive := by
  obtain ⟨who, act⟩ := act
  cases who with
  | true => exact h.refusedLive_stepA (fun _ hact => by subst hact; exact hroom) hs
  | false =>
    obtain ⟨q', hq, rfl⟩ := Option.map_eq_some_iff.mp hs
    exact (h.swap.refusedLive_stepA (fun _ hact => by subst hact; exact hroom) hq).symm

/-- **An honest stream stalls but is not reset**, in every run in which a `DATA` record reaches a
stream only while its queue holds fewer than `MAX_QUEUED_RECORDS`: no `DATA` or `CLOSE` is refused
on a stream that is not cancelled already. -/
theorem not_refused {wa wb : MuxWindow} {ca cb : ChunkSize} {ea eb : Nat} {pre : Bytes} {p : Pair}
    (h : Path Pair.step QueueRoom (Pair.start wa wb ca cb ea eb pre) p) :
    p.a.refusedLive = false ∧ p.b.refusedLive = false := by
  refine (h.invariant (I := fun p => p.Inv wa.bytes wb.bytes ∧
    p.a.refusedLive = false ∧ p.b.refusedLive = false)
    ⟨Pair.Inv.start wa wb ca cb ea eb pre, rfl, rfl⟩ ?_).2
  rintro s act s' ⟨hinv, ha, hb⟩ hroom hs
  obtain ⟨ha', hb'⟩ := hinv.refusedLive_step hroom hs
  exact ⟨hinv.step hs, ha'.trans ha, hb'.trans hb⟩

/-- The three bytes of `threeBytes` are the only record, so its delivery finds room. -/
theorem not_refused_three_bytes :
    ∃ p, Path Pair.step QueueRoom (Pair.start oneMib oneMib chunk64k chunk64k 1 1 []) p ∧
      p.b.side.down.written = [1, 2, 3] ∧ p.a.refusedLive = false ∧ p.b.refusedLive = false := by
  have hrun : Lts.run Pair.step (Pair.start oneMib oneMib chunk64k chunk64k 1 1 []) threeBytes
      = some _ := rfl
  have hA : Allowed Pair.step QueueRoom (Pair.start oneMib oneMib chunk64k chunk64k 1 1 [])
      threeBytes := by
    iterate 7 refine ⟨trivial, ?_⟩; rintro _ ⟨⟩
    refine ⟨fun _ _ _ => by decide, ?_⟩
    rintro _ ⟨⟩
    iterate 5 refine ⟨trivial, ?_⟩; rintro _ ⟨⟩
    trivial
  have hpath := Path.of_run hA hrun
  exact ⟨_, hpath, rfl, not_refused hpath⟩

/-- One end after `k` single bytes have been read and sent, with `wire` on the way. -/
def Half.sentBytes (k : Nat) (wire : List Msg) : Half :=
  { Half.new 1 oneMib oneMib chunk64k [] with
    running := true
    side := {
      flow := { Flow.new 1 (some oneMib.bytes) oneMib.bytes with
        sendAvailable := oneMib.bytes - k }
      up := ⟨.reading, chunk64k.bytes, [], List.replicate k 0, List.replicate k 0⟩
      down := ⟨.receiving, 0, [], [], false⟩ }
    wire := wire }

/-- The other end with `k` single bytes in its queue, none of which its pump has looked at. -/
def Half.queuedBytes (k : Nat) : Half :=
  { Half.new 1 oneMib oneMib chunk64k [] with
    running := true
    side := {
      flow := { Flow.new 1 (some oneMib.bytes) oneMib.bytes with
        queue := List.replicate k [0]
        bytes := k
        credit := oneMib.bytes - k
        receiveReady := decide (0 < k) }
      up := ⟨.reading, chunk64k.bytes, [], [], []⟩
      down := ⟨.receiving, 0, List.replicate k 0, [], false⟩ } }

/-- One byte read from the socket and sent. -/
def sendByte : List (Bool × HalfAction) :=
  [(true, .up (.readSocket [0])), (true, .up .takeCredit), (true, .up .acquire),
    (true, .up .emit), (true, .writeOutput)]

theorem run_sendByte (k : Nat) (hk : k ≤ maxQueuedRecords) (b : Half) :
    Lts.run Pair.step ⟨Half.sentBytes k [], b⟩ sendByte
      = some ⟨Half.sentBytes (k + 1) [.data [0]], b⟩ := by
  simp only [maxQueuedRecords] at hk
  have hb : oneMib.bytes = 1048576 := rfl
  have hc : chunk64k.bytes = 65536 := rfl
  have h1 : 0 < oneMib.bytes - k := by omega
  have h2 : min 1 (oneMib.bytes - k) = 1 := by omega
  have h3 : oneMib.bytes - k - 1 = oneMib.bytes - (k + 1) := by omega
  simp [sendByte, Pair.step, Pair.stepA, Half.local, Half.sentBytes, Half.new, Side.stepUp,
    Uplink.step, Flow.new, Uplink.goto, h1, h2, h3, hc, ← List.replicate_succ']

theorem enqueue_queuedBytes (k : Nat) (hk : k < maxQueuedRecords) :
    (Half.queuedBytes k).side.flow.enqueue [0] false
      = .ok (Half.queuedBytes (k + 1)).side.flow := by
  simp only [maxQueuedRecords] at hk
  have hb : oneMib.bytes = 1048576 := rfl
  have hsub : oneMib.bytes - k - 1 = oneMib.bytes - (k + 1) := by omega
  simp only [Half.queuedBytes, Flow.enqueue, Flow.new, maxQueuedRecords, List.length_replicate,
    List.replicate_succ']
  rw [if_neg (by simp), if_neg, if_pos (by simp)]
  · simp [hsub]
  · simp only [List.length_singleton]
    omega

/-- The next byte does not fit, although there is credit for it. -/
theorem enqueue_queuedBytes_full :
    (Half.queuedBytes maxQueuedRecords).side.flow.enqueue [0] false
      = .error "mux receive window exceeded" := by
  simp only [Half.queuedBytes, Flow.enqueue, Flow.new, List.length_replicate]
  rw [if_neg (by simp), if_pos]
  exact ⟨by simp, Or.inr (Or.inr (Nat.le_refl _))⟩

theorem step_deliver_single {a b : Half} {m : Msg} (hw : a.wire = [m]) (hr : b.refused = none) :
    Pair.step ⟨a, b⟩ (false, .deliver true) = some ⟨{ a with wire := [] }, b.handle true m⟩ := by
  simp only [Pair.step, Pair.swap, Pair.stepA, hw, hr, true_or, if_true, Option.map_some]

/-- How a registered stream handles one byte, given what its queue says. -/
theorem handle_byte (h : Half) :
    h.handle true (.data [0]) = match h.side.flow.enqueue [0] false with
      | .ok flow => { h with side := { h.side with
          flow := flow, down := { h.side.down with received := h.side.down.received ++ [0] } } }
      | .error _ => { h with
          refused := some (.data [0])
          refusedLive := h.refusedLive || !h.side.flow.cancelled } := by
  have hd : h.side.flow.dispatch (Msg.data [0]).flags (Msg.data [0]).payload
      = h.side.flow.enqueue [0] false := Flow.dispatch_data _ _
  unfold Half.handle Side.dispatch
  rw [if_neg (by simp), if_neg (by simp), hd]
  cases h.side.flow.enqueue [0] false with
  | ok flow => rfl
  | error e => simp [Except.map, Msg.isStream]

/-- `n` bytes, one record each, from a stream that was just opened. -/
theorem reachable_bytes {n : Nat} (hn : n ≤ maxQueuedRecords) :
    Reachable Pair.step (Pair.start oneMib oneMib chunk64k chunk64k 1 1 [])
      ⟨Half.sentBytes n [], Half.queuedBytes n⟩ := by
  have hconn : Lts.run Pair.step (Pair.start oneMib oneMib chunk64k chunk64k 1 1 [])
      [(true, .connected), (false, .connected)]
      = some ⟨Half.sentBytes 0 [], Half.queuedBytes 0⟩ := by
    simp [Pair.start, Pair.step, Pair.stepA, Pair.swap, Half.local, Half.sentBytes,
      Half.queuedBytes, Half.new, Side.new, Flow.new]
  have hbytes := run_iterate (fun k => (⟨Half.sentBytes k [], Half.queuedBytes k⟩ : Pair))
    (fun _ => sendByte ++ [(false, .deliver true)]) n (fun k hk => by
      have hk' : k < maxQueuedRecords := Nat.lt_of_lt_of_le hk hn
      rw [run_append_of_eq (run_sendByte k (Nat.le_of_lt hk') _), run_cons,
        step_deliver_single rfl rfl, handle_byte, enqueue_queuedBytes k hk']
      simp [Half.sentBytes, Half.queuedBytes, List.replicate_succ'])
  exact (Reachable.of_run hconn).trans (Reachable.of_run hbytes)

/-- **One-byte records fill the queue long before the window.**  After 8192 of them the stream is
open at both ends, more than a million bytes of credit are left, and the next byte is refused; the
reader then removes the stream and queues a reset. -/
theorem one_byte_records_refused :
    ∃ p q r t, Reachable Pair.step (Pair.start oneMib oneMib chunk64k chunk64k 1 1 []) p ∧
      p.a.wire = [.data [0]] ∧ p.a.side.flow.cancelled = false ∧
      p.b.side.flow.cancelled = false ∧ p.b.side.flow.fin = false ∧
      p.b.side.flow.credit = oneMib.bytes - 8192 ∧
      p.step (false, .deliver true) = some q ∧ q.b.refused = some (.data [0]) ∧
      q.b.refusedLive = true ∧
      q.step (false, .reject) = some r ∧ r.b.registered = false ∧
      r.step (false, .sendReset) = some t ∧ t.b.ctl = [.rst] := by
  have hsend := run_sendByte maxQueuedRecords (Nat.le_refl _) (Half.queuedBytes maxQueuedRecords)
  have hfull := handle_byte (Half.queuedBytes maxQueuedRecords)
  rw [enqueue_queuedBytes_full] at hfull
  have hstep := step_deliver_single (a := Half.sentBytes (maxQueuedRecords + 1) [.data [0]])
    (b := Half.queuedBytes maxQueuedRecords) rfl rfl
  rw [hfull] at hstep
  exact ⟨_, _, _, _, (reachable_bytes (Nat.le_refl _)).trans (Reachable.of_run hsend), rfl, rfl,
    rfl, rfl, rfl, hstep, rfl, rfl, rfl, rfl, rfl, rfl⟩

end BibaVpn.Mux
