/-
# The client side of a UDP mux session

One task (`run_udp_mux_one_session`) forwards the datagrams of every SOCKS association over one
WebSocket, and keeps the callers that wait for a reply in a table under the `xid` of their request.
A caller hands its request over through a bounded queue and waits on a oneshot channel; it may stop
waiting at any time.  The table is changed by six events: a forwarded request, a failure after its
insertion, a reply, the reclaim tick, the end of the session, and its abortion.

* §1 is the request with its oneshot, §2 the session and its step function.  The session is at one
  of its await points: between two events, or in the middle of sending a request;
* §3 is the invariant.  An entry of the table belongs to a request that was registered under the
  key of the entry and is not answered; so does a queued command, which is not registered.  That is
  why no oneshot is used twice;
* §4 shows each event to keep it, §5 assembles the results, and §6 adds the converse.
-/
import BibaVpn.Lib.Lists
import BibaVpn.Lib.Lts
import BibaVpn.Lib.Table
import BibaVpn.Wire.Crypto
import BibaVpn.Client.Dns

namespace BibaVpn.Udp.Client

open Machine Lists Lts Wire BibaVpn.Client

/-! ## 1. Requests -/

/-- A request, as `UdpMuxHandle::forward` is called with it, and its oneshot: whether the receiver
is gone, and what it was sent.  `registered` is the number of replies that the session had decoded
when it entered the request in its table. -/
structure Request where
  xid : Nat
  dstHost : Text
  dstPort : Nat
  payload : Bytes
  closed : Bool
  answers : List (Except String Bytes)
  registered : Option Nat

/-- `reply.send(..)`: nothing arrives when the receiver is gone. -/
def Request.answer (a : Except String Bytes) (r : Request) : Request :=
  if r.closed then r else { r with answers := r.answers ++ [a] }

/-- The receiver is dropped. -/
def Request.close (r : Request) : Request := { r with closed := true }

/-- The request is entered in the table, after `n` replies. -/
def Request.register (n : Nat) (r : Request) : Request := { r with registered := some n }

/-! ## 2. The session -/

/-- `UDP_MUX_CLIENT_PENDING_CAP`. -/
def pendingCap : Nat := 2048

/-- `UDP_MUX_CMD_QUEUE_CAP`. -/
def cmdQueueCap : Nat := 16384

/-- The fields of `UdpMuxConfig` that the session reads. -/
structure Config where
  maxPad : UInt8
  padMode : PadMode
  maxWsBinary : Nat
  decoyMax : UInt8

/-- `PendingUdpEntry`: the oneshot, by the index of its request, and the DNS query that the request
carried. -/
structure Entry where
  reply : Nat
  dnsExpect : Option (Nat × Text)
  deriving DecidableEq

/-- Where the session task is. -/
inductive Phase
  | running
  /-- in `g.send(..)` for the request with this `xid` -/
  | sending (xid : Nat)
  /-- behind the loop, before `pending.drain()` -/
  | draining
  | ended
  deriving DecidableEq

/-- A session, the commands in `cmd_rx`, and every request made of it. -/
structure Session where
  requests : List Request
  queue : List Nat
  pending : Table Nat Entry
  inbox : List UdpRep
  badFrames : Nat
  tx : ChaHalf
  adaptive : AdaptivePadState
  rx : Aead
  phase : Phase

def Session.start (tx : ChaHalf) (rx : Aead) : Session :=
  ⟨[], [], .empty, [], 0, tx, ⟨0⟩, rx, .running⟩

/-- The arguments of a call of `record_dns`. -/
structure Snoop where
  message : Bytes
  id : Nat
  qname : Text

/-- What can happen. -/
inductive Action
  /-- a worker calls `forward` with this SOCKS5 datagram, under this `xid` -/
  | submit (data : Bytes) (xid : Nat)
  /-- a caller stops waiting: its timeout fires, or its worker is aborted -/
  | drop (i : Nat)
  /-- `cmd_rx.recv()` yields a command -/
  | forward (pad : PadCoins) (decoy : DecoyCoins)
  /-- `g.send(..)` returns, with the text of its error -/
  | sent (error : Option String)
  /-- every sender of the command channel is gone -/
  | cmdClosed
  /-- `ws_rx.next()` yields a binary message -/
  | binary (b : Bytes)
  /-- a ping, a pong or a text message -/
  | other
  /-- the stream ends, or a close message arrives -/
  | wsClosed
  /-- reading the WebSocket fails -/
  | wsError
  /-- `reclaim_tick` -/
  | tick
  /-- `pending.drain()` -/
  | drain
  /-- the task is aborted at one of its await points -/
  | abort

def Session.isClosed (s : Session) (i : Nat) : Bool :=
  match s.requests[i]? with
  | some r => r.closed
  | none => true

/-- `reclaim_closed_pending`. -/
def Session.reclaimClosedPending (s : Session) : Session :=
  { s with pending := s.pending.retain fun e => !s.isClosed e.reply }

/-- The oneshot of request `i` is used. -/
def Session.answer (s : Session) (i : Nat) (a : Except String Bytes) : Session :=
  { s with requests := s.requests.modify i (Request.answer a) }

/-- `if let Some(entry) = pending.remove(&xid) { entry.reply.send(a) }`. -/
def Session.settle (s : Session) (xid : Nat) (a : Except String Bytes) : Session :=
  match s.pending.get xid with
  | none => s
  | some e => { s with pending := s.pending.erase xid }.answer e.reply a

/-- `pending.entry(xid).insert(..)`, for the request `i`. -/
def Session.register (s : Session) (xid i : Nat) (dns : Option (Nat × Text)) : Session :=
  { s with
    pending := s.pending.insert xid ⟨i, dns⟩
    requests := s.requests.modify i (Request.register s.inbox.length) }

/-- `pack_tunnel_out`, with the state of cipher and padding that it leaves. -/
def packTunnelOut (C : Config) (s : Session) (pad : PadCoins) (decoy : DecoyCoins) (body : Bytes) :
    Except String Bytes × Session :=
  match PreparedFrame.new [body] C.maxPad C.padMode (some s.adaptive) pad with
  | .error _ => (.error "pack frame", s)
  | .ok (frame, adaptive) =>
    let s := { s with adaptive := adaptive.getD s.adaptive }
    match s.tx.seal C.decoyMax decoy frame.toBytes with
    | .error _ => (.error "seal c2s (udp mux)", s)
    | .ok (blob, tx) =>
      if blob.length > C.maxWsBinary then
        (.error s!"WS binary {blob.length} exceeds max_ws_binary {C.maxWsBinary}", { s with tx })
      else (.ok blob, { s with tx })

/-- `unpack_tunnel_in`. -/
def unpackTunnelIn (rx : Aead) (b : Bytes) : Except String Bytes :=
  match rx.openPacket b with
  | .error _ => .error "open s2c (udp mux)"
  | .ok raw =>
    match readPaddedFrame raw with
    | .error _ => .error "bad frame"
    | .ok inner => .ok inner

/-- The DNS query of a request to port 53. -/
def Request.dnsExpect (P : Platform) (r : Request) : Option (Nat × Text) :=
  if r.dstPort = 53 then parseDnsQuery P r.payload else none

/-- The branch `ClientUdpCmd::Forward`, up to the point where the packet is handed to the
WebSocket, for the request `r` with index `i`. -/
def Session.forward (P : Platform) (C : Config) (s : Session) (i : Nat) (r : Request)
    (pad : PadCoins) (decoy : DecoyCoins) : Session :=
  let s := s.reclaimClosedPending
  if s.pending.size ≥ pendingCap then
    s.answer i (.error s!"udp mux: too many pending replies (cap {pendingCap})")
  else match s.pending.get r.xid with
    | some _ => s.answer i (.error "udp_mux_xid_collision")
    | none =>
      let s := s.register r.xid i (r.dnsExpect P)
      match encodeUdpReq P r.xid r.dstHost r.dstPort r.payload with
      | .error e => s.settle r.xid (.error e)
      | .ok req =>
        match packTunnelOut C s pad decoy req with
        | (.error e, s) => s.settle r.xid (.error e)
        | (.ok _, s) => { s with phase := .sending r.xid }

/-- One more bad frame; the twenty-fourth in a row ends the session with an error, which drops the
table. -/
def Session.badFrame (s : Session) : Session :=
  let n := saturatingAdd u32Max s.badFrames 1
  if n ≥ 24 then { s with badFrames := n, pending := .empty, phase := .ended }
  else { s with badFrames := n }

/-- The branch `Message::Binary`, with the call of `record_dns` that it makes. -/
def Session.receive (P : Platform) (s : Session) (b : Bytes) : Session × Option Snoop :=
  match unpackTunnelIn s.rx b with
  | .error _ => (s.badFrame, none)
  | .ok inner =>
    let s := { s with badFrames := 0 }
    match decodeUdpRep P inner with
    | .error _ => (s.badFrame, none)
    | .ok rep =>
      let s := { s with inbox := s.inbox ++ [rep] }
      match s.pending.get rep.xid with
      | none => (s, none)
      | some e =>
        let snoop := if rep.port = 53 then
          e.dnsExpect.map fun q => ⟨rep.payload, q.1, q.2⟩ else none
        (s.settle rep.xid (buildSocks5UdpDatagram P rep.host rep.port rep.payload), snoop)

/-- `pending.drain()`: every caller that still waits is told that the session ended. -/
def Session.drain (s : Session) : Session :=
  let s := s.pending.entries.foldl
    (fun s e => s.settle e.1 (.error "udp mux session ended")) s
  { s with pending := .empty, phase := .ended }

/-- One event, with the call of `record_dns` that it makes. -/
def Session.act (P : Platform) (C : Config) (s : Session) : Action → Option (Session × Option Snoop)
  | .submit data xid =>
    match parseSocks5UdpDatagram P data with
    | .error _ => none
    | .ok (host, port, payload) =>
      if s.queue.length < cmdQueueCap then
        some ({ s with
          requests := s.requests ++ [⟨xid, host, port, payload, false, [], none⟩]
          queue := s.queue ++ [s.requests.length] }, none)
      else none
  | .drop i => some ({ s with requests := s.requests.modify i Request.close }, none)
  | .forward pad decoy =>
    match s.phase, s.queue with
    | .running, i :: queue =>
      match s.requests[i]? with
      | none => none
      | some r => some ({ s with queue }.forward P C i r pad decoy, none)
    | _, _ => none
  | .sent error =>
    match s.phase, error with
    | .sending _, none => some ({ s with phase := .running }, none)
    | .sending xid, some e => some ({ s.settle xid (.error e) with phase := .draining }, none)
    | _, _ => none
  | .cmdClosed =>
    if s.phase = .running ∧ s.queue = [] then some ({ s with phase := .draining }, none) else none
  | .binary b => if s.phase = .running then some (s.receive P b) else none
  | .other => if s.phase = .running then some (s, none) else none
  | .wsClosed => if s.phase = .running then some ({ s with phase := .draining }, none) else none
  | .wsError =>
    if s.phase = .running then some ({ s with pending := .empty, phase := .ended }, none) else none
  | .tick => if s.phase = .running then some (s.reclaimClosedPending, none) else none
  | .drain => if s.phase = .draining then some (s.drain, none) else none
  | .abort =>
    if s.phase = .ended then none else some ({ s with pending := .empty, phase := .ended }, none)

/-- One event. -/
def Session.step (P : Platform) (C : Config) (s : Session) (a : Action) : Option Session :=
  (s.act P C a).map Prod.fst

/-! ## 3. The invariant -/

/-- A reply for the request arrived after its registration, and `body` is the datagram built from
it. -/
def Genuine (P : Platform) (inbox : List UdpRep) (r : Request) (body : Bytes) : Prop :=
  ∃ k n rep, r.registered = some k ∧ k ≤ n ∧ inbox[n]? = some rep ∧ rep.xid = r.xid ∧
    buildSocks5UdpDatagram P rep.host rep.port rep.payload = .ok body

/-- What an entry under the key `xid` says about the request it answers. -/
structure Entry.Owned (P : Platform) (s : Session) (xid : Nat) (e : Entry) (r : Request) :
    Prop where
  request : s.requests[e.reply]? = some r
  xid : r.xid = xid
  dns : e.dnsExpect = r.dnsExpect P
  unanswered : r.answers = []
  registered : ∃ k, r.registered = some k ∧ k ≤ s.inbox.length

/-- **The invariant of a session.** -/
structure Session.Inv (P : Platform) (s : Session) : Prop where
  bounded : s.pending.size ≤ pendingCap
  owned : ∀ xid e, s.pending.get xid = some e → ∃ r, e.Owned P s xid r
  queued : ∀ i ∈ s.queue, ∃ r, s.requests[i]? = some r ∧ r.answers = [] ∧ r.registered = none
  distinct : s.queue.Nodup
  once : ∀ r ∈ s.requests, r.answers.length ≤ 1
  genuine : ∀ r ∈ s.requests, ∀ body, .ok body ∈ r.answers → Genuine P s.inbox r body

variable {P : Platform} {s : Session} {r : Request} {i : Nat} {C : Config}

/-- The invariant reads four fields only. -/
theorem Session.Inv.congr {t : Session} (hI : s.Inv P) (hr : t.requests = s.requests)
    (hq : t.queue = s.queue) (hp : t.pending = s.pending) (hi : t.inbox = s.inbox) : t.Inv P where
  bounded := hp ▸ hI.bounded
  owned xid e h := by
    obtain ⟨r, hown⟩ := hI.owned xid e (hp ▸ h)
    exact ⟨r, hr ▸ hown.request, hown.xid, hown.dns, hown.unanswered, hi ▸ hown.registered⟩
  queued := by rw [hr, hq]; exact hI.queued
  distinct := hq ▸ hI.distinct
  once := hr ▸ hI.once
  genuine := by rw [hr, hi]; exact hI.genuine

theorem Session.Inv.start (P : Platform) (tx : ChaHalf) (rx : Aead) :
    (Session.start tx rx).Inv P where
  bounded := Nat.zero_le _
  owned _ _ h := nomatch h
  queued _ h := nomatch h
  distinct := List.nodup_nil
  once _ h := nomatch h
  genuine _ h := nomatch h

/-- Entries may be lost at any time. -/
theorem Session.Inv.shrink (hI : s.Inv P) {t : Table Nat Entry} (hsize : t.size ≤ s.pending.size)
    (hget : ∀ xid e, t.get xid = some e → s.pending.get xid = some e) (ph : Phase) :
    { s with pending := t, phase := ph }.Inv P where
  bounded := Nat.le_trans hsize hI.bounded
  owned xid e h := by
    obtain ⟨r, hown⟩ := hI.owned xid e (hget xid e h)
    exact ⟨r, hown.request, hown.xid, hown.dns, hown.unanswered, hown.registered⟩
  queued := hI.queued
  distinct := hI.distinct
  once := hI.once
  genuine := hI.genuine

/-- The table may be dropped. -/
theorem Session.Inv.dropped (hI : s.Inv P) (ph : Phase) :
    { s with pending := .empty, phase := ph }.Inv P :=
  hI.shrink (t := .empty) (Nat.zero_le _) (fun _ _ h => nomatch h) ph

/-! ## 4. The events keep it -/

/-- No entry and no command holds the oneshot of request `i`. -/
def Session.Free (s : Session) (i : Nat) : Prop :=
  (∀ xid e, s.pending.get xid = some e → e.reply ≠ i) ∧ i ∉ s.queue

theorem Genuine.mono {inbox : List UdpRep} {body : Bytes} (h : Genuine P inbox r body)
    (rep : UdpRep) : Genuine P (inbox ++ [rep]) r body := by
  obtain ⟨k, n, rep', hk, hn, hget, hrest⟩ := h
  obtain ⟨hlt, -⟩ := List.getElem?_eq_some_iff.mp hget
  exact ⟨k, n, rep', hk, hn, (List.getElem?_append_left hlt).trans hget, hrest⟩

theorem Genuine.congr {inbox : List UdpRep} {r' : Request} {body : Bytes}
    (h : Genuine P inbox r body) (hxid : r'.xid = r.xid) (hreg : r'.registered = r.registered) :
    Genuine P inbox r' body := by
  obtain ⟨k, n, rep, hk, hn, hget, hx, hb⟩ := h
  exact ⟨k, n, rep, hreg ▸ hk, hn, hget, hxid ▸ hx, hb⟩

/-- One request may be changed, as long as its identity stays and it is answered only when nobody
else can answer it, for the first time, and genuinely. -/
theorem Session.Inv.modify (hI : s.Inv P) {f : Request → Request} (hxid : ∀ r, (f r).xid = r.xid)
    (hdns : ∀ r, (f r).dnsExpect P = r.dnsExpect P) (hreg : ∀ r, (f r).registered = r.registered)
    (hanswers : ∀ r, s.requests[i]? = some r → (f r).answers = r.answers ∨
      s.Free i ∧ ∃ a, (f r).answers = [a] ∧ ∀ body, a = .ok body → Genuine P s.inbox r body) :
    { s with requests := s.requests.modify i f }.Inv P := by
  -- a request that an entry or a command holds keeps its answers
  have hheld : ∀ j r, s.requests[j]? = some r → ¬ s.Free j →
      ∃ r', (s.requests.modify i f)[j]? = some r' ∧ r'.xid = r.xid ∧
        r'.dnsExpect P = r.dnsExpect P ∧ r'.registered = r.registered ∧ r'.answers = r.answers := by
    intro j r hr hfree
    rw [List.getElem?_modify, hr]
    by_cases hij : i = j
    · subst hij
      refine ⟨f r, by simp, hxid r, hdns r, hreg r, ?_⟩
      rcases hanswers r hr with heq | ⟨hf, -⟩
      · exact heq
      · exact absurd hf hfree
    · exact ⟨r, by simp [hij], rfl, rfl, rfl, rfl⟩
  refine ⟨hI.bounded, fun xid e he => ?_, fun j hj => ?_, hI.distinct, fun r' hr' => ?_,
    fun r' hr' body hbody => ?_⟩
  · obtain ⟨r, hown⟩ := hI.owned xid e he
    obtain ⟨r', hr', h1, h2, h3, h4⟩ := hheld e.reply r hown.request
      fun hfree => hfree.1 xid e he rfl
    exact ⟨r', hr', h1 ▸ hown.xid, h2 ▸ hown.dns, h4 ▸ hown.unanswered, h3 ▸ hown.registered⟩
  · obtain ⟨r, hr, hans, hnone⟩ := hI.queued j hj
    obtain ⟨r', hr', -, -, h3, h4⟩ := hheld j r hr fun hfree => hfree.2 hj
    exact ⟨r', hr', h4 ▸ hans, h3 ▸ hnone⟩
  · rcases mem_modify hr' with hmem | ⟨r, hr, rfl⟩
    · exact hI.once r' hmem
    · rcases hanswers r hr with heq | ⟨-, a, ha, -⟩
      · exact heq ▸ hI.once r (List.mem_of_getElem? hr)
      · rw [ha]; exact Nat.le_refl 1
  · rcases mem_modify hr' with hmem | ⟨r, hr, rfl⟩
    · exact hI.genuine r' hmem body hbody
    · rcases hanswers r hr with heq | ⟨-, a, ha, hgen⟩
      · exact (hI.genuine r (List.mem_of_getElem? hr) body (heq ▸ hbody)).congr (hxid r) (hreg r)
      · rw [ha] at hbody
        exact (hgen body (List.mem_singleton.mp hbody).symm).congr (hxid r) (hreg r)

/-- A caller may stop waiting. -/
theorem Session.Inv.close (hI : s.Inv P) (i : Nat) :
    { s with requests := s.requests.modify i Request.close }.Inv P :=
  hI.modify (fun _ => rfl) (fun _ => rfl) (fun _ => rfl) fun _ _ => .inl rfl

variable {a : Except String Bytes} {s' : Session} {snoop : Option Snoop}

namespace Session

/-- A free request without an answer may be answered. -/
theorem Inv.answer (hI : s.Inv P) (hr : s.requests[i]? = some r) (hfree : s.Free i)
    (hans : r.answers = []) (hgen : ∀ body, a = .ok body → Genuine P s.inbox r body) :
    (s.answer i a).Inv P := by
  have hfields : ∀ r : Request, (r.answer a).xid = r.xid ∧
      (r.answer a).dnsExpect P = r.dnsExpect P ∧ (r.answer a).registered = r.registered := by
    intro r
    unfold Request.answer
    split <;> exact ⟨rfl, rfl, rfl⟩
  refine hI.modify (fun r => (hfields r).1) (fun r => (hfields r).2.1) (fun r => (hfields r).2.2) ?_
  intro r' hr'
  obtain rfl : r = r' := Option.some.inj (hr.symm.trans hr')
  unfold Request.answer
  split
  · exact .inl rfl
  · exact .inr ⟨hfree, a, by simp [hans], hgen⟩

/-- Every entry of a table is the only one for its request. -/
theorem Inv.reply_injective (hI : s.Inv P) {x y : Nat} {e e' : Entry}
    (he : s.pending.get x = some e) (he' : s.pending.get y = some e') (h : e.reply = e'.reply) :
    x = y := by
  obtain ⟨r, hown⟩ := hI.owned x e he
  obtain ⟨r', hown'⟩ := hI.owned y e' he'
  have hrr : r = r' := Option.some.inj (by rw [← hown.request, h, hown'.request])
  rw [← hown.xid, ← hown'.xid, hrr]

/-- The request of an entry is not queued. -/
theorem Inv.notMem_queue (hI : s.Inv P) {xid : Nat} {e : Entry} (he : s.pending.get xid = some e) :
    e.reply ∉ s.queue := by
  intro hmem
  obtain ⟨r, hown⟩ := hI.owned xid e he
  obtain ⟨r', hr', -, hnone⟩ := hI.queued _ hmem
  obtain ⟨k, hk, -⟩ := hown.registered
  rw [Option.some.inj (hown.request.symm.trans hr'), hnone] at hk
  cases hk

/-- An entry may be removed and answered with an error, or genuinely. -/
theorem Inv.settle (hI : s.Inv P) (xid : Nat)
    (hgen : ∀ body, a = .ok body → ∀ e r, s.pending.get xid = some e →
      e.Owned P s xid r → Genuine P s.inbox r body) : (s.settle xid a).Inv P := by
  unfold Session.settle
  split
  · exact hI
  · rename_i e he
    obtain ⟨r, hown⟩ := hI.owned xid e he
    have hsub : ∀ x e', (s.pending.erase xid).get x = some e' →
        x ≠ xid ∧ s.pending.get x = some e' := by
      intro x e' h
      rw [Table.get_erase] at h
      split at h
      · cases h
      · exact ⟨‹_›, h⟩
    have herase : { s with pending := s.pending.erase xid, phase := s.phase }.Inv P :=
      hI.shrink (by have := Table.size_erase_of_get he; omega)
        (fun x e' h => (hsub x e' h).2) s.phase
    refine herase.answer hown.request ⟨fun x e' h heq => ?_, hI.notMem_queue he⟩ hown.unanswered
      fun body hb => hgen body hb e r he hown
    obtain ⟨hne, hget⟩ := hsub x e' h
    exact hne (hI.reply_injective hget he heq)

/-- The first command of the queue is taken out. -/
theorem Inv.dequeue (hI : s.Inv P) {queue : List Nat} (hq : s.queue = i :: queue) :
    { s with queue }.Inv P ∧ { s with queue }.Free i := by
  have hnd := hI.distinct
  rw [hq] at hnd
  obtain ⟨hi, hnd⟩ := List.nodup_cons.mp hnd
  refine ⟨⟨hI.bounded, fun xid e he => ?_, fun j hj => hI.queued j ?_, hnd, hI.once, hI.genuine⟩,
    fun xid e he heq => ?_, hi⟩
  · obtain ⟨r, hown⟩ := hI.owned xid e he
    exact ⟨r, hown.request, hown.xid, hown.dns, hown.unanswered, hown.registered⟩
  · rw [hq]; exact List.mem_cons_of_mem i hj
  · exact hI.notMem_queue he (by rw [heq, hq]; exact List.mem_cons_self)

/-- Entries of callers that stopped waiting are removed. -/
theorem Inv.reclaim (hI : s.Inv P) : s.reclaimClosedPending.Inv P := by
  refine hI.shrink (Table.size_retain_le _ _) (fun xid e h => ?_) s.phase
  rw [Table.get_retain] at h
  exact (Option.filter_eq_some_iff.mp h).1

/-- A free request is entered in the table. -/
theorem Inv.register (hI : s.Inv P) (hr : s.requests[i]? = some r) (hfree : s.Free i)
    (hans : r.answers = []) (hsize : s.pending.size < pendingCap)
    (hnone : s.pending.get r.xid = none) : (s.register r.xid i (r.dnsExpect P)).Inv P := by
  have hget : ∀ j r', s.requests[j]? = some r' → j ≠ i →
      (s.requests.modify i (Request.register s.inbox.length))[j]? = some r' := by
    intro j r' hj hne
    rw [List.getElem?_modify, hj]
    simp [Ne.symm hne]
  refine ⟨?_, fun x e he => ?_, fun j hj => ?_, hI.distinct, fun r' hr' => ?_,
    fun r' hr' body hb => ?_⟩
  · show (s.pending.insert r.xid ⟨i, r.dnsExpect P⟩).size ≤ pendingCap
    rw [Table.size_insert, hnone]
    exact hsize
  · replace he : (s.pending.insert r.xid ⟨i, r.dnsExpect P⟩).get x = some e := he
    rw [Table.get_insert] at he
    split at he
    · cases he
      refine ⟨Request.register s.inbox.length r, ?_, ?_, rfl, hans, s.inbox.length, rfl,
        Nat.le_refl _⟩
      · show (s.requests.modify i _)[i]? = _
        rw [List.getElem?_modify, hr]
        simp
      · exact Eq.symm ‹_›
    · obtain ⟨r', hown⟩ := hI.owned x e he
      exact ⟨r', hget _ r' hown.request (hfree.1 x e he), hown.xid, hown.dns, hown.unanswered,
        hown.registered⟩
  · obtain ⟨r', hr', hrest⟩ := hI.queued j hj
    exact ⟨r', hget j r' hr' fun heq => hfree.2 (heq ▸ hj), hrest⟩
  · rcases mem_modify hr' with hmem | ⟨r₀, hr₀, rfl⟩
    · exact hI.once r' hmem
    · exact hI.once r₀ (List.mem_of_getElem? hr₀)
  · rcases mem_modify hr' with hmem | ⟨r₀, hr₀, rfl⟩
    · exact hI.genuine r' hmem body hb
    · obtain rfl : r = r₀ := Option.some.inj (hr.symm.trans hr₀)
      replace hb : .ok body ∈ r.answers := hb
      rw [hans] at hb
      cases hb

/-- A new request enters the queue. -/
theorem Inv.submit (hI : s.Inv P) (xid : Nat) (host : Text) (port : Nat) (payload : Bytes) :
    { s with
      requests := s.requests ++ [Request.mk xid host port payload false [] none]
      queue := s.queue ++ [s.requests.length] }.Inv P := by
  have hget : ∀ {j : Nat} {r : Request} (l : List Request), s.requests[j]? = some r →
      (s.requests ++ l)[j]? = some r := by
    intro j r l hj
    obtain ⟨hlt, -⟩ := List.getElem?_eq_some_iff.mp hj
    exact (List.getElem?_append_left hlt).trans hj
  refine ⟨hI.bounded, fun x e he => ?_, fun j hj => ?_, ?_, fun r hr => ?_, fun r hr body hb => ?_⟩
  · obtain ⟨r, hown⟩ := hI.owned x e he
    exact ⟨r, hget _ hown.request, hown.xid, hown.dns, hown.unanswered, hown.registered⟩
  · rcases List.mem_append.mp hj with hj | hj
    · obtain ⟨r, hr, hrest⟩ := hI.queued j hj
      exact ⟨r, hget _ hr, hrest⟩
    · cases List.mem_singleton.mp hj
      exact ⟨_, List.getElem?_concat_length, rfl, rfl⟩
  · refine List.nodup_append.mpr ⟨hI.distinct, by simp, fun j hj k hk heq => ?_⟩
    obtain ⟨r, hr, -⟩ := hI.queued j hj
    obtain ⟨hlt, -⟩ := List.getElem?_eq_some_iff.mp hr
    have := List.mem_singleton.mp hk
    omega
  · rcases List.mem_append.mp hr with hr | hr
    · exact hI.once r hr
    · cases List.mem_singleton.mp hr
      exact Nat.zero_le 1
  · rcases List.mem_append.mp hr with hr | hr
    · exact hI.genuine r hr body hb
    · cases List.mem_singleton.mp hr
      cases hb

/-- A reply is decoded. -/
theorem Inv.heard (hI : s.Inv P) (rep : UdpRep) : { s with inbox := s.inbox ++ [rep] }.Inv P where
  bounded := hI.bounded
  owned x e he := by
    obtain ⟨r, hown⟩ := hI.owned x e he
    obtain ⟨k, hk, hle⟩ := hown.registered
    refine ⟨r, hown.request, hown.xid, hown.dns, hown.unanswered, k, hk, ?_⟩
    rw [List.length_append]
    exact Nat.le_trans hle (Nat.le_add_right _ _)
  queued := hI.queued
  distinct := hI.distinct
  once := hI.once
  genuine r hr body hb := (hI.genuine r hr body hb).mono rep

/-- The entry of the request that a reply names is answered with the datagram built from it. -/
theorem Inv.replied (hI : s.Inv P) (rep : UdpRep) :
    ({ s with inbox := s.inbox ++ [rep] }.settle rep.xid
      (buildSocks5UdpDatagram P rep.host rep.port rep.payload)).Inv P := by
  refine (hI.heard rep).settle rep.xid fun body hb e r he hown => ?_
  -- the registration is older than the reply, which is the last of the inbox
  obtain ⟨r', hown'⟩ := hI.owned rep.xid e he
  obtain rfl : r = r' := Option.some.inj (hown.request.symm.trans hown'.request)
  obtain ⟨k, hk, hle⟩ := hown'.registered
  exact ⟨k, s.inbox.length, rep, hk, hle, List.getElem?_concat_length, hown.xid.symm, hb⟩

theorem Inv.badFrame (hI : s.Inv P) : s.badFrame.Inv P := by
  unfold Session.badFrame
  simp only
  split
  · exact (hI.dropped .ended).congr rfl rfl rfl rfl
  · exact hI.congr rfl rfl rfl rfl

theorem Inv.receive (hI : s.Inv P) (b : Bytes) : (s.receive P b).1.Inv P := by
  have h0 : { s with badFrames := 0 }.Inv P := hI.congr rfl rfl rfl rfl
  unfold Session.receive
  split
  · exact hI.badFrame
  · simp only
    split
    · exact h0.badFrame
    · split
      · exact h0.heard _
      · exact h0.replied _

theorem Inv.drain (hI : s.Inv P) : s.drain.Inv P := by
  have hfold : ∀ (es : List (Nat × Entry)) (s : Session), s.Inv P →
      (es.foldl (fun s e => s.settle e.1 (.error "udp mux session ended")) s).Inv P := by
    intro es
    induction es with
    | nil => intro s hs; exact hs
    | cons e es ih => intro s hs; exact ih _ (hs.settle e.1 fun _ h => nomatch h)
  exact (hfold s.pending.entries s hI).dropped .ended

end Session

/-! ### A forwarded request -/

/-- Packing changes the cipher and the padding counter only. -/
theorem packTunnelOut_snd (C : Config) (s : Session) (pad : PadCoins) (decoy : DecoyCoins)
    (body : Bytes) :
    ∃ tx adaptive, (packTunnelOut C s pad decoy body).2 = { s with tx, adaptive } := by
  unfold packTunnelOut
  split
  · exact ⟨s.tx, s.adaptive, rfl⟩
  · simp only
    split
    · exact ⟨_, _, rfl⟩
    · split <;> exact ⟨_, _, rfl⟩

namespace Session

/-- No room for the request `r`, or its `xid` is in use. -/
def Refuses (s : Session) (r : Request) : Prop :=
  pendingCap ≤ s.reclaimClosedPending.pending.size ∨
    (s.reclaimClosedPending.pending.get r.xid).isSome

/-- **What the branch `Forward` does**: it refuses the request, or registers it; a registered
request is handed to the WebSocket, or settled with an error at once. -/
theorem forward_cases (P : Platform) (C : Config) (s : Session) (i : Nat) (r : Request)
    (pad : PadCoins) (decoy : DecoyCoins) :
    (s.Refuses r ∧ ∃ text,
      s.forward P C i r pad decoy = s.reclaimClosedPending.answer i (.error text)) ∨
    (¬ s.Refuses r ∧ ∃ tx adaptive,
      let t := { s.reclaimClosedPending.register r.xid i (r.dnsExpect P) with tx, adaptive }
      (∃ text, s.forward P C i r pad decoy = t.settle r.xid (.error text)) ∨
      s.forward P C i r pad decoy = { t with phase := .sending r.xid }) := by
  unfold forward
  simp only
  split
  · rename_i hcap
    exact .inl ⟨.inl hcap, _, rfl⟩
  · rename_i hcap
    split
    · rename_i e he
      exact .inl ⟨.inr (by rw [he]; rfl), _, rfl⟩
    · rename_i hnone
      have hok : ¬ s.Refuses r := by
        rintro (h | h)
        · exact hcap h
        · rw [hnone] at h
          cases h
      refine .inr ⟨hok, ?_⟩
      split
      · exact ⟨s.tx, s.adaptive, .inl ⟨_, rfl⟩⟩
      · rename_i req _
        obtain ⟨tx, adaptive, hpack⟩ := packTunnelOut_snd C
          (s.reclaimClosedPending.register r.xid i (r.dnsExpect P)) pad decoy req
        refine ⟨tx, adaptive, ?_⟩
        split
        · rename_i e u hu
          rw [hu] at hpack
          obtain rfl := hpack
          exact .inl ⟨e, rfl⟩
        · rename_i u hu
          rw [hu] at hpack
          obtain rfl := hpack
          exact .inr rfl

theorem Inv.forward (hI : s.Inv P) (hr : s.requests[i]? = some r) (hfree : s.Free i)
    (hans : r.answers = []) (pad : PadCoins) (decoy : DecoyCoins) :
    (s.forward P C i r pad decoy).Inv P := by
  have hfree' : s.reclaimClosedPending.Free i := by
    refine ⟨fun x e he => hfree.1 x e ?_, hfree.2⟩
    replace he : (s.pending.retain fun e => !s.isClosed e.reply).get x = some e := he
    rw [Table.get_retain] at he
    exact (Option.filter_eq_some_iff.mp he).1
  rcases s.forward_cases P C i r pad decoy with ⟨-, text, heq⟩ | ⟨hok, tx, adaptive, hcase⟩
  · rw [heq]
    exact hI.reclaim.answer hr hfree' hans fun _ h => nomatch h
  · have hroom : s.reclaimClosedPending.pending.size < pendingCap :=
      Nat.lt_of_not_le fun h => hok (.inl h)
    have hnone : s.reclaimClosedPending.pending.get r.xid = none :=
      Option.not_isSome_iff_eq_none.mp fun h => hok (.inr h)
    have hreg := (hI.reclaim.register hr hfree' hans hroom hnone).congr
      (t := { s.reclaimClosedPending.register r.xid i (r.dnsExpect P) with tx, adaptive })
      rfl rfl rfl rfl
    rcases hcase with ⟨text, heq⟩ | heq
    · rw [heq]
      exact hreg.settle r.xid fun _ h => nomatch h
    · rw [heq]
      exact hreg.congr rfl rfl rfl rfl

/-! ### Every event -/

/-- **Every event keeps the invariant.** -/
theorem Inv.act {a : Action} (hI : s.Inv P) (h : s.act P C a = some (s', snoop)) : s'.Inv P := by
  revert h
  fun_cases Session.act P C s a <;> intro h <;> try cases h
  case case2 => exact hI.submit _ _ _ _
  case case4 i => exact hI.close i
  case case6 pad decoy i queue hq _ r hr =>
    obtain ⟨hdeq, hfree⟩ := hI.dequeue hq
    obtain ⟨r', hr', hans, -⟩ := hI.queued i (by rw [hq]; exact List.mem_cons_self)
    cases hr.symm.trans hr'
    exact hdeq.forward hr hfree hans pad decoy
  case case9 => exact (hI.settle (a := .error _) _ fun _ h => nomatch h).congr rfl rfl rfl rfl
  case case13 b _ =>
    obtain rfl : (s.receive P b).1 = s' := congrArg Prod.fst (Option.some.inj h)
    exact hI.receive b
  case case15 => exact hI
  case case19 | case26 => exact hI.dropped .ended
  case case21 => exact hI.reclaim
  case case23 => exact hI.drain
  all_goals exact hI.congr rfl rfl rfl rfl

/-! ## 5. Every forward is resolved correctly, and at most once -/

theorem settle_phase (s : Session) (xid : Nat) (a : Except String Bytes) :
    (s.settle xid a).phase = s.phase := by
  unfold settle
  split <;> rfl

/-- Settling an entry removes it and no other. -/
theorem get_settle (s : Session) (xid : Nat) (a : Except String Bytes) (x : Nat) :
    (s.settle xid a).pending.get x = if x = xid then none else s.pending.get x := by
  unfold settle
  split
  · rename_i hnone
    split
    · rename_i hx; rw [hx, hnone]
    · rfl
  · exact Table.get_erase _ _ _

/-- An ended session has no entries. -/
def Emptied (s : Session) : Prop := s.phase = .ended → s.pending = .empty

theorem emptied_of_ne (h : s.phase ≠ .ended) : s.Emptied := fun he => absurd he h

theorem emptied_badFrame (h : s.phase = .running) : s.badFrame.Emptied := by
  unfold badFrame
  simp only
  split
  · exact fun _ => rfl
  · exact emptied_of_ne (by simp [h])

theorem emptied_act {a : Action} (hE : s.Emptied) (h : s.act P C a = some (s', snoop)) :
    s'.Emptied := by
  revert h
  fun_cases act P C s a <;> intro h <;> try cases h
  case case6 pad decoy i queue _ hrun r _ =>
    refine emptied_of_ne ?_
    rcases forward_cases P C { s with queue } i r pad decoy with
      ⟨-, text, heq⟩ | ⟨-, tx, adaptive, ⟨text, heq⟩ | heq⟩
    · rw [heq]
      show s.phase ≠ _
      simp [hrun]
    · rw [heq, settle_phase]
      show s.phase ≠ _
      simp [hrun]
    · rw [heq]
      simp
  case case13 b hrun =>
    obtain rfl : (s.receive P b).1 = s' := congrArg Prod.fst (Option.some.inj h)
    unfold receive
    split
    · exact emptied_badFrame hrun
    · simp only
      split
      · exact emptied_badFrame hrun
      · split
        · exact emptied_of_ne (by simp [hrun])
        · exact emptied_of_ne (by rw [settle_phase]; simp [hrun])
  case case21 hrun => exact emptied_of_ne (by simp [reclaimClosedPending, hrun])
  case case2 | case4 | case15 => exact hE
  case case19 | case23 | case26 => exact fun _ => rfl
  all_goals exact emptied_of_ne (by simp)

/-- The table after an event that changes no entry but removes those whose caller is gone. -/
def KeepsWaiting (s s' : Session) : Prop :=
  ∀ xid, s'.pending.get xid = (s.pending.get xid).filter fun e => !s.isClosed e.reply

/-- What is true of a session between two events. -/
structure Sound (P : Platform) (s : Session) : Prop where
  bounded : s.pending.size ≤ pendingCap
  once : ∀ r ∈ s.requests, r.answers.length ≤ 1
  genuine : ∀ r ∈ s.requests, ∀ body, .ok body ∈ r.answers → Genuine P s.inbox r body
  finished : s.phase = .ended → s.pending = .empty

/-- What is true of an event. -/
structure Fair (s : Session) (a : Action) (s' : Session) : Prop where
  /-- a request that collides, or finds the table full, is answered with an error -/
  refused : ∀ pad decoy i queue r, a = .forward pad decoy → s.queue = i :: queue →
    s.requests[i]? = some r → s.Refuses r → s.KeepsWaiting s' ∧
      ∃ text, s'.requests = s.requests.modify i (Request.answer (.error text))
  /-- a request that cannot be encoded or packed is taken out again and answered with an error -/
  failed : ∀ pad decoy i queue r, a = .forward pad decoy → s.queue = i :: queue →
    s.requests[i]? = some r → ¬ s.Refuses r → s'.phase = .running → s.KeepsWaiting s' ∧
      ∃ text, s'.requests = (s.requests.modify i (Request.register s.inbox.length)).modify i
        (Request.answer (.error text))
  /-- a request that cannot be sent is taken out again -/
  unsent : ∀ text xid, a = .sent (some text) → s.phase = .sending xid →
    ∀ x, s'.pending.get x = if x = xid then none else s.pending.get x

theorem get_reclaim (s : Session) (xid : Nat) :
    s.reclaimClosedPending.pending.get xid =
      (s.pending.get xid).filter fun e => !s.isClosed e.reply := Table.get_retain _ _ _

theorem fair_act {a : Action} (h : s.act P C a = some (s', snoop)) : s.Fair a s' := by
  -- the event `forward`, for the request at the head of the queue
  have hforward : ∀ pad decoy i queue r, a = .forward pad decoy → s.queue = i :: queue →
      s.requests[i]? = some r → s.phase = .running ∧
        s' = { s with queue }.forward P C i r pad decoy := by
    intro pad decoy i queue r ha hq hr
    subst ha
    simp only [act] at h
    split at h
    · rename_i i' queue' hrun hq'
      obtain ⟨rfl, rfl⟩ := List.cons.inj (hq.symm.trans hq')
      rw [hr] at h
      cases h
      exact ⟨hrun, rfl⟩
    · cases h
  refine ⟨fun pad decoy i queue r ha hq hr href => ?_,
    fun pad decoy i queue r ha hq hr href hph => ?_, fun text xid ha hsend x => ?_⟩
  · obtain ⟨-, rfl⟩ := hforward pad decoy i queue r ha hq hr
    rcases forward_cases P C { s with queue } i r pad decoy with ⟨-, text, heq⟩ | ⟨hno, -⟩
    · rw [heq]
      exact ⟨fun x => s.get_reclaim x, text, rfl⟩
    · exact absurd href hno
  · obtain ⟨-, rfl⟩ := hforward pad decoy i queue r ha hq hr
    rcases forward_cases P C { s with queue } i r pad decoy with
      ⟨hyes, -⟩ | ⟨-, tx, adaptive, ⟨text, heq⟩ | heq⟩
    · exact absurd hyes href
    · have hnone : s.reclaimClosedPending.pending.get r.xid = none :=
        Option.not_isSome_iff_eq_none.mp fun hsome => href (.inr hsome)
      have hget : ∀ x, (s.reclaimClosedPending.pending.insert r.xid ⟨i, r.dnsExpect P⟩).get x =
          if x = r.xid then some ⟨i, r.dnsExpect P⟩ else s.reclaimClosedPending.pending.get x :=
        fun x => Table.get_insert _ _ _ _
      refine ⟨fun x => ?_, text, ?_⟩
      · rw [heq, get_settle, ← s.get_reclaim]
        split
        · rename_i hx
          rw [hx, hnone]
        · rename_i hx
          exact (hget x).trans (if_neg hx)
      · rw [heq]
        unfold settle
        have hself : (s.reclaimClosedPending.pending.insert r.xid ⟨i, r.dnsExpect P⟩).get r.xid =
            some ⟨i, r.dnsExpect P⟩ := (hget r.xid).trans (if_pos rfl)
        split
        · rename_i hbad
          cases hself.symm.trans hbad
        · rename_i e he
          obtain rfl := Option.some.inj (hself.symm.trans he)
          rfl
    · rw [heq] at hph
      cases hph
  · subst ha
    simp only [act, hsend] at h
    cases h
    exact s.get_settle xid _ x

end Session

/-- **The UDP mux client answers every request at most once, and only with its own reply.**  In
every reachable state the table is bounded, no oneshot was used twice, a successful answer is the
datagram built from a reply with the `xid` of the request that arrived after its registration, and
nothing is left when the session has ended; and every event treats the other entries fairly. -/
theorem forwards_resolved_once (P : Platform) (C : Config) (tx : ChaHalf) (rx : Aead)
    (s : Session) (h : Reachable (Session.step P C) (Session.start tx rx) s) :
    s.Sound P ∧ ∀ a s', s.step P C a = some s' → s.Fair a s' := by
  have hinv : s.Inv P ∧ s.Emptied := by
    refine Reachable.invariant (I := fun s => s.Inv P ∧ s.Emptied) h
      ⟨Session.Inv.start P tx rx, fun _ => rfl⟩ ?_
    intro s a s' hI hs
    obtain ⟨⟨t, snoop⟩, hact, rfl⟩ := Option.map_eq_some_iff.mp hs
    exact ⟨hI.1.act hact, Session.emptied_act hI.2 hact⟩
  refine ⟨⟨hinv.1.bounded, hinv.1.once, hinv.1.genuine, hinv.2⟩, fun a s' hs => ?_⟩
  obtain ⟨⟨t, snoop⟩, hact, rfl⟩ := Option.map_eq_some_iff.mp hs
  exact Session.fair_act hact

/-- A `UDP_REP` from `8.8.8.8:53`, as it arrives when the cipher does nothing. -/
def plainReply (xid : UInt8) (payload : Bytes) : Bytes :=
  let inner := v3CtrlUdpRep :: [0, 0, 0, 0, 0, 0, 0, xid, 1, 8, 8, 8, 8, 0, 53] ++ payload
  Aead.plain.packet 0 [] (frameVer :: toBe 3 inner.length ++ 0 :: inner)

/-- Two requests with different `xid`s are sent, their replies come back in the other order and one
of them twice, and the session ends: each caller has its own reply. -/
def twoForwards : List Action :=
  let coins : PadCoins := ⟨0, fun _ => 0⟩
  let decoy : DecoyCoins := ⟨0, fun _ => 0⟩
  [.submit [0, 0, 0, 1, 8, 8, 8, 8, 0, 53, 10] 1, .submit [0, 0, 0, 1, 8, 8, 8, 8, 0, 53, 20] 2,
    .forward coins decoy, .sent none, .forward coins decoy, .sent none,
    .binary (plainReply 2 [21]), .binary (plainReply 2 [22]), .binary (plainReply 1 [11]),
    .wsClosed, .drain]

theorem forwards_resolved_once_reordered :
    (run (Session.step .ascii ⟨0, .random, 1000, 0⟩) (Session.start ⟨.plain, 0⟩ .plain)
        twoForwards).map (fun s => (s.requests.map (·.answers), s.pending.size, s.phase)) =
      some ([[.ok [0, 0, 0, 1, 8, 8, 8, 8, 0, 53, 11]], [.ok [0, 0, 0, 1, 8, 8, 8, 8, 0, 53, 21]]],
        0, .ended) ∧
    ∀ s, run (Session.step .ascii ⟨0, .random, 1000, 0⟩) (Session.start ⟨.plain, 0⟩ .plain)
        twoForwards = some s →
      s.Sound .ascii ∧ ∀ a s', s.step .ascii ⟨0, .random, 1000, 0⟩ a = some s' → s.Fair a s' :=
  ⟨by decide, fun s hs => forwards_resolved_once .ascii _ _ _ s (Reachable.of_run hs)⟩

/-! ## 6. No caller is forgotten -/

namespace Session

/-- The caller of request `i` waits, and has no answer. -/
def Waits (s : Session) (i : Nat) (r : Request) : Prop :=
  s.requests[i]? = some r ∧ r.closed = false ∧ r.answers = []

/-- The oneshot of the request is in the queue, or in the table under its `xid`. -/
def Holds (s : Session) (i : Nat) (r : Request) : Prop :=
  i ∈ s.queue ∨ ∃ e, s.pending.get r.xid = some e ∧ e.reply = i

def Kept (s : Session) : Prop := ∀ i r, s.Waits i r → s.Holds i r

theorem Holds.mono {t : Session} (h : s.Holds i r) (hq : t.queue = s.queue)
    (hget : ∀ e, s.pending.get r.xid = some e → e.reply = i → t.pending.get r.xid = some e) :
    t.Holds i r := by
  rcases h with h | ⟨e, he, hi⟩
  · exact .inl (hq ▸ h)
  · exact .inr ⟨e, hget e he hi, hi⟩

theorem waits_answer {j : Nat} (h : (s.answer j a).Waits i r) : i ≠ j ∧ s.Waits i r := by
  obtain ⟨hr, hopen, hans⟩ := h
  rcases getElem?_of_modify hr with ⟨-, r₀, -, rfl⟩ | ⟨hne, hr₀⟩
  · -- an open request that was sent an answer has one
    unfold Request.answer at hopen hans
    split at hopen <;> simp_all
  · exact ⟨hne, hr₀, hopen, hans⟩

theorem Kept.settle (h : s.Kept) (xid : Nat) (a : Except String Bytes) : (s.settle xid a).Kept := by
  unfold Session.settle
  split
  · exact h
  · rename_i e he
    intro i r hw
    obtain ⟨hne, hw'⟩ := waits_answer hw
    refine (h i r hw').mono rfl fun e' he' hi => (Table.get_erase _ _ _).trans ?_
    rw [if_neg, he']
    intro hx
    rw [hx, he] at he'
    exact hne (Option.some.inj he' ▸ hi).symm

theorem Holds.reclaim (hw : s.Waits i r) (h : s.Holds i r) : s.reclaimClosedPending.Holds i r := by
  refine h.mono rfl fun e he hi => ?_
  rw [get_reclaim, he, Option.filter_some, if_pos]
  simp [isClosed, hi, hw.1, hw.2.1]

/-- A request that was taken out of the queue is refused, or registered. -/
theorem Kept.forward (h : ∀ j r, j ≠ i → s.Waits j r → s.Holds j r) (hr : s.requests[i]? = some r)
    (pad : PadCoins) (decoy : DecoyCoins) : (s.forward P C i r pad decoy).Kept := by
  rcases s.forward_cases P C i r pad decoy with ⟨-, text, heq⟩ | ⟨hok, tx, adaptive, hcase⟩
  · rw [heq]
    intro j r' hw
    obtain ⟨hne, hw'⟩ := waits_answer hw
    exact Holds.reclaim (s := s) hw' (h j r' hne hw')
  · have hreg : (s.reclaimClosedPending.register r.xid i (r.dnsExpect P)).Kept := by
      rintro j r' ⟨hr', hopen, hans⟩
      have hget := Table.get_insert s.reclaimClosedPending.pending r.xid
      rcases getElem?_of_modify hr' with ⟨rfl, r₀, hr₀, rfl⟩ | ⟨hne, hr₀⟩
      · obtain rfl := Option.some.inj (hr.symm.trans hr₀)
        exact .inr ⟨_, (hget _ _).trans (if_pos rfl), rfl⟩
      · have hw : s.Waits j r' := ⟨hr₀, hopen, hans⟩
        refine ((h j r' hne hw).reclaim hw).mono rfl fun e he _ => (hget _ _).trans ?_
        rw [if_neg, he]
        intro hx
        exact hok (.inr (by rw [← hx, he]; rfl))
    rcases hcase with ⟨text, heq⟩ | heq
    · rw [heq]
      exact Kept.settle (s := { s.reclaimClosedPending.register _ i _ with tx, adaptive }) hreg _ _
    · rw [heq]
      exact hreg

theorem Kept.act {a : Action} (hK : s.phase ≠ .ended → s.Kept)
    (h : s.act P C a = some (s', snoop)) : s'.phase ≠ .ended → s'.Kept := by
  revert h
  fun_cases Session.act P C s a <;> intro h <;> try cases h
  case case2 =>
    rintro hph i r ⟨hr, hopen, hans⟩
    by_cases hi : i = s.requests.length
    · exact .inl (by simp [hi])
    · have hold : s.requests[i]? = some r := by grind
      exact (hK hph i r ⟨hold, hopen, hans⟩).imp_left (List.mem_append_left _)
  case case4 j =>
    rintro hph i r ⟨hr, hopen, hans⟩
    rcases getElem?_of_modify hr with ⟨-, r₀, -, rfl⟩ | ⟨-, hr₀⟩
    · cases hopen
    · exact hK hph i r ⟨hr₀, hopen, hans⟩
  case case6 pad decoy i queue hq hrun r hr =>
    refine fun _ => .forward (s := { s with queue }) (fun j r' hne hw => ?_) hr pad decoy
    refine (hK (by simp [hrun]) j r' hw).imp_left fun hj => ?_
    rw [hq] at hj
    exact (List.mem_cons.mp hj).resolve_left hne
  case case9 hrun => exact fun _ => (hK (by simp [hrun])).settle _ _
  case case13 b hrun =>
    obtain rfl : (s.receive P b).1 = s' := congrArg Prod.fst (Option.some.inj h)
    have hs := hK (by simp [hrun])
    have hbad : ∀ t : Session, t.Kept → t.badFrame.phase ≠ .ended → t.badFrame.Kept := by
      intro t ht
      unfold badFrame
      simp only
      split
      · exact fun hph => absurd rfl hph
      · exact fun _ => ht
    unfold receive
    split
    · exact hbad s hs
    · simp only
      split
      · exact hbad _ hs
      · split
        · exact fun _ => hs
        · exact fun _ => Kept.settle (s := { s with badFrames := 0, inbox := _ }) hs _ _
  case case15 => exact hK
  case case19 | case23 | case26 => exact fun hph => absurd rfl hph
  case case21 hrun => exact fun _ i r hw => (hK (by simp [hrun]) i r hw).reclaim hw
  all_goals exact fun _ => hK (by simp [*])

/-- The requests without an answer behind `pending.drain()`. -/
theorem Kept.drain (h : s.Kept) (hw : s.drain.Waits i r) : i ∈ s.drain.queue := by
  have hfold : ∀ (es : List (Nat × Entry)) (s : Session), s.Kept →
      let t := es.foldl (fun s e => s.settle e.1 (.error "udp mux session ended")) s
      t.Kept ∧ ∀ x e, t.pending.get x = some e →
        x ∉ es.map Prod.fst ∧ s.pending.get x = some e := by
    intro es
    induction es with
    | nil => exact fun s hs => ⟨hs, fun x e he => ⟨List.not_mem_nil, he⟩⟩
    | cons e es ih =>
      intro s hs
      obtain ⟨hkept, hget⟩ := ih _ (hs.settle e.1 (.error "udp mux session ended"))
      refine ⟨hkept, fun x e' he' => ?_⟩
      obtain ⟨hx, hold⟩ := hget x e' he'
      rw [get_settle] at hold
      split at hold
      · cases hold
      · exact ⟨by simp_all, hold⟩
  obtain ⟨hkept, hget⟩ := hfold s.pending.entries s h
  rcases hkept i r hw with hq | ⟨e, he, -⟩
  · exact hq
  · obtain ⟨hx, hold⟩ := hget _ e he
    exact absurd (List.mem_map_of_mem (f := Prod.fst) (Table.get_eq_some_iff.mp hold)) hx

/-- What the callers of a session rely on. -/
structure CallersKept (s : Session) : Prop where
  /-- a caller that waits has no answer exactly if its oneshot is in the queue or in the table -/
  held : s.phase ≠ .ended → ∀ i r, s.requests[i]? = some r → r.closed = false →
    (r.answers = [] ↔ s.Holds i r)
  /-- behind `pending.drain()`, only requests that were never taken from the queue have none -/
  drained : s.phase = .draining → ∀ i r, s.drain.Waits i r → i ∈ s.drain.queue

end Session

/-- **No caller of the UDP mux is forgotten**, whatever was refused, failed, answered, reclaimed or
dropped before. -/
theorem waiting_callers_kept (P : Platform) (C : Config) (tx : ChaHalf) (rx : Aead) (s : Session)
    (h : Reachable (Session.step P C) (Session.start tx rx) s) : s.CallersKept := by
  obtain ⟨hI, hK⟩ : s.Inv P ∧ (s.phase ≠ .ended → s.Kept) := by
    refine Reachable.invariant (I := fun s => s.Inv P ∧ (s.phase ≠ .ended → s.Kept)) h
      ⟨Session.Inv.start P tx rx, fun _ _ _ hw => by cases hw.1⟩ ?_
    intro s a s' hs hstep
    obtain ⟨⟨t, snoop⟩, hact, rfl⟩ := Option.map_eq_some_iff.mp hstep
    exact ⟨hs.1.act hact, .act hs.2 hact⟩
  refine ⟨fun hph i r hr hopen => ⟨fun hans => hK hph i r ⟨hr, hopen, hans⟩, ?_⟩,
    fun hd i r hw => (hK (by simp [hd])).drain hw⟩
  rintro (hq | ⟨e, he, rfl⟩)
  · obtain ⟨r', hr', hans, -⟩ := hI.queued i hq
    exact Option.some.inj (hr.symm.trans hr') ▸ hans
  · obtain ⟨r', hown⟩ := hI.owned _ e he
    exact Option.some.inj (hr.symm.trans hown.request) ▸ hown.unanswered

/-- One request is in the table, the other one in the queue. -/
theorem waiting_callers_kept_queued :
    ∃ s : Session, (s.queue, s.pending.entries) = ([1], [(1, ⟨0, none⟩)]) ∧ s.CallersKept := by
  have hrun : (run (Session.step .ascii ⟨0, .random, 1000, 0⟩) (Session.start ⟨.plain, 0⟩ .plain)
      (twoForwards.take 4)).map (fun s => (s.queue, s.pending.entries)) =
        some ([1], [(1, ⟨0, none⟩)]) := by decide
  obtain ⟨s, hs, heq⟩ := Option.map_eq_some_iff.mp hrun
  exact ⟨s, heq, waiting_callers_kept .ascii _ _ _ s (Reachable.of_run hs)⟩

end BibaVpn.Udp.Client
