/-
# The server's UDP socket pool, and whose answer a reply carries

`bridge_ws_udp_mux_server` (`udp_mux.rs`) serves each `UDP_REQ` in a task of its own: lease a
socket, send the datagram, wait for one datagram and return it under the request's `xid`.
With `--udp-socket-pool-size` the sockets outlive the requests.  A lease is given back to the
pool when a reply was consumed on it, after up to 64 datagrams that are already buffered have
been thrown away, and a pooled receive ignores datagrams from other sources than its own
destination.

* §1 is the server with its network: tasks of any number of sessions, the pool with its permits
  and idle stacks, the kernel buffer of each bound port, and the datagrams under way.  A
  destination answers what it was sent as often and as late as it likes.
* §2 is the run on which a duplicate answer to one request is returned to another
  (`duplicate_reaches_other_request`).  It arrives after the drain, while the socket is idle, and
  the next request has the same destination, so the source filter lets it through.
* §3 is the condition under which this cannot happen, on the sends and on the answers, and the
  invariant it preserves.
-/
import BibaVpn.Lib.Lts
import BibaVpn.Lib.Machine

namespace BibaVpn.Udp

open Machine Lts

/-! ## 1. The server and its network -/

/-- A local UDP port: the identity of a bound socket.  Once closed it can be bound again. -/
abbrev Port := Nat

/-- `SocketAddr`. -/
structure Addr where
  v6 : Bool
  ip : Nat
  port : Nat
  deriving DecidableEq, Repr

/-- A datagram on its way to the server.  `answers` is the request its sender answers, if it
answers one. -/
structure Datagram where
  src : Addr
  target : Port
  answers : Option Nat
  payload : Bytes
  deriving DecidableEq, Repr

/-- `UdpSockHolder` and the `UdpLease` in it. -/
structure Holder where
  pooled : Bool
  port : Port
  v6 : Bool
  recycleOnDrop : Bool
  deriving DecidableEq, Repr

/-- `mark_sent_awaiting_reply`. -/
def Holder.markSentAwaitingReply (h : Holder) : Holder := { h with recycleOnDrop := false }

/-- `mark_reply_consumed`. -/
def Holder.markReplyConsumed (h : Holder) : Holder := { h with recycleOnDrop := true }

/-- The test on a received datagram: a pooled receive drops it when `src != dest`. -/
def Holder.accepts (h : Holder) (dest : Addr) (d : Datagram) : Bool :=
  !(h.pooled && d.src != dest)

/-- Where a request's task stands. -/
inductive Phase
  /-- at the head of the loop over the resolved addresses -/
  | next (addrs : List Addr)
  /-- in `UdpSocketPool::lease`, the permit acquired -/
  | permitted (dest : Addr) (rest : List Addr)
  /-- a socket is held, nothing sent yet -/
  | leased (h : Holder) (dest : Addr) (rest : List Addr)
  /-- sent, in the receive loop -/
  | awaiting (h : Holder) (dest : Addr) (rest : List Addr)
  /-- `recv_result` is `Some`: the reply is being built and sent -/
  | answered (h : Holder) (d : Datagram)
  /-- the deadline passed: the empty reply is being built and sent -/
  | timedOut (h : Holder)
  | ended
  deriving DecidableEq, Repr

/-- A request: the session that sent it, its transaction id there, and its task. -/
structure Request where
  session : Nat
  xid : Nat
  phase : Phase
  deriving DecidableEq, Repr

/-- A `UDP_REP` sent for `request`, on its session and under its `xid`; the datagram is absent in
the empty reply of a timeout. -/
structure Reply where
  session : Nat
  xid : Nat
  request : Nat
  datagram : Option Datagram
  deriving DecidableEq, Repr

structure Server where
  /-- `max_idle_per_family`, when there is a pool -/
  pool : Option Nat
  /-- available permits of the pool's semaphore -/
  permits : Nat
  /-- `v4_idle` and `v6_idle`, the last pushed first -/
  idle : Bool → List Port
  /-- sockets moved into the spawned task that puts them back -/
  returning : List (Bool × Port)
  /-- the receive buffer of each bound port -/
  buffers : Port → Option (List Datagram)
  inFlight : List Datagram
  /-- requests so far; they are numbered from 0 -/
  count : Nat
  requests : Nat → Request
  /-- what was sent: for which request, to whom, from which port -/
  sent : List (Nat × Addr × Port)
  replies : List Reply

/-- A server that has just started, with or without a pool (`UdpSocketPool::new`). -/
def Server.start (pool : Option Nat) : Server where
  pool := pool.map (max 1)
  permits := (pool.map (max 1)).getD 0
  idle := fun _ => []
  returning := []
  buffers := fun _ => none
  inFlight := []
  count := 0
  requests := fun _ => ⟨0, 0, .ended⟩
  sent := []
  replies := []

def Server.setPhase (s : Server) (i : Nat) (ph : Phase) : Server :=
  { s with requests := Function.update s.requests i { s.requests i with phase := ph } }

def Server.setBuffer (s : Server) (p : Port) (b : Option (List Datagram)) : Server :=
  { s with buffers := Function.update s.buffers p b }

/-- `MAX_STALE_DRAIN`. -/
def maxStaleDrain : Nat := 64

/-- Dropping the holder of a socket: an ephemeral socket is closed; a lease gives its permit back
and either closes its socket or drains it and has it put back. -/
def Server.dropHolder (s : Server) (h : Holder) : Server :=
  if !h.pooled then s.setBuffer h.port none
  else
    let s := { s with permits := s.permits + 1 }
    if !h.recycleOnDrop then s.setBuffer h.port none
    else
      let s := s.setBuffer h.port ((s.buffers h.port).map (List.drop maxStaleDrain))
      { s with returning := s.returning ++ [(h.v6, h.port)] }

/-- `bind_udp_for_family`: any port that is not bound. -/
def Server.bind (s : Server) (p : Port) : Option Server :=
  if s.buffers p = none then some (s.setBuffer p (some [])) else none

/-- `encode_udp_rep` and its send, for request `i`. -/
def Server.sendReply (s : Server) (i : Nat) (d : Option Datagram) : Server :=
  { s with replies := ⟨(s.requests i).session, (s.requests i).xid, i, d⟩ :: s.replies }

inductive Action
  /-- a `UDP_REQ` whose host resolves to `addrs` -/
  | request (session xid : Nat) (addrs : List Addr)
  /-- take the next address: acquire the permit, or end when none is left -/
  | acquire (i : Nat)
  /-- pop an idle socket, or bind the port `fresh` -/
  | lease (i : Nat) (fresh : Port)
  | bindFailed (i : Nat)
  | send (i : Nat)
  | sendFailed (i : Nat)
  | recv (i : Nat)
  | recvFailed (i : Nat)
  | recvTimeout (i : Nat)
  | reply (i : Nat)
  /-- the reply cannot be encoded, is too large, or the WebSocket is gone -/
  | replyFailed (i : Nat)
  /-- the session ends and the task is aborted -/
  | abort (i : Nat)
  /-- the `k`-th spawned task puts its socket back -/
  | putBack (k : Nat)
  /-- `dest` answers request `i`, which sent to it from `port` -/
  | answer (i : Nat) (dest : Addr) (port : Port) (payload : Bytes)
  /-- anybody sends a datagram that answers nothing -/
  | stray (src : Addr) (port : Port) (payload : Bytes)
  /-- the `k`-th datagram under way reaches its port -/
  | deliver (k : Nat)
  deriving DecidableEq, Repr

/-- One step of the server and its network. -/
def Server.step (s : Server) : Action → Option Server
  | .request session xid addrs =>
    some { s with
      count := s.count + 1
      requests := Function.update s.requests s.count ⟨session, xid, .next addrs⟩ }
  | .acquire i =>
    match (s.requests i).phase with
    | .next [] => some (s.setPhase i .ended)
    | .next (dest :: rest) =>
      if s.pool.isNone then some (s.setPhase i (.permitted dest rest))
      else if 0 < s.permits then
        some ({ s with permits := s.permits - 1 }.setPhase i (.permitted dest rest))
      else none
    | _ => none
  | .lease i fresh =>
    match (s.requests i).phase with
    | .permitted dest rest =>
      if s.pool.isNone then
        (s.bind fresh).map fun s => s.setPhase i (.leased ⟨false, fresh, dest.v6, true⟩ dest rest)
      else
        match s.idle dest.v6 with
        | p :: ps =>
          some ({ s with idle := Function.update s.idle dest.v6 ps }.setPhase i
            (.leased ⟨true, p, dest.v6, true⟩ dest rest))
        | [] =>
          (s.bind fresh).map fun s => s.setPhase i (.leased ⟨true, fresh, dest.v6, true⟩ dest rest)
    | _ => none
  | .bindFailed i =>
    match (s.requests i).phase with
    | .permitted dest _ =>
      if s.pool.isNone then some (s.setPhase i .ended)
      else if s.idle dest.v6 = [] then
        some ({ s with permits := s.permits + 1 }.setPhase i .ended)
      else none
    | _ => none
  | .send i =>
    match (s.requests i).phase with
    | .leased h dest rest =>
      some ({ s with sent := (i, dest, h.port) :: s.sent }.setPhase i
        (.awaiting h.markSentAwaitingReply dest rest))
    | _ => none
  | .sendFailed i =>
    match (s.requests i).phase with
    | .leased h _ rest => some ((s.dropHolder h).setPhase i (.next rest))
    | _ => none
  | .recv i =>
    match (s.requests i).phase with
    | .awaiting h dest rest =>
      match s.buffers h.port with
      | some (d :: ds) =>
        let s := s.setBuffer h.port (some ds)
        if h.accepts dest d then some (s.setPhase i (.answered h.markReplyConsumed d))
        else some (s.setPhase i (.awaiting h dest rest))
      | _ => none
    | _ => none
  | .recvFailed i =>
    match (s.requests i).phase with
    | .awaiting h _ rest => some ((s.dropHolder h).setPhase i (.next rest))
    | _ => none
  | .recvTimeout i =>
    match (s.requests i).phase with
    | .awaiting h _ _ => some (s.setPhase i (.timedOut h))
    | _ => none
  | .reply i =>
    match (s.requests i).phase with
    | .answered h d => some (((s.sendReply i (some d)).dropHolder h).setPhase i .ended)
    | .timedOut h => some (((s.sendReply i none).dropHolder h).setPhase i .ended)
    | _ => none
  | .replyFailed i =>
    match (s.requests i).phase with
    | .answered h _ => some ((s.dropHolder h).setPhase i .ended)
    | .timedOut h => some ((s.dropHolder h).setPhase i .ended)
    | _ => none
  | .abort i =>
    match (s.requests i).phase with
    | .next _ => some (s.setPhase i .ended)
    | .permitted _ _ =>
      some ({ s with permits := if s.pool.isNone then s.permits else s.permits + 1 }.setPhase i
        .ended)
    | .leased h _ _ => some ((s.dropHolder h).setPhase i .ended)
    | .awaiting h _ _ => some ((s.dropHolder h).setPhase i .ended)
    | .answered h _ => some ((s.dropHolder h).setPhase i .ended)
    | .timedOut h => some ((s.dropHolder h).setPhase i .ended)
    | .ended => none
  | .putBack k =>
    match s.returning[k]?, s.pool with
    | some (v6, p), some cap =>
      let s := { s with returning := s.returning.eraseIdx k }
      if (s.idle v6).length < cap then
        some { s with idle := Function.update s.idle v6 (p :: s.idle v6) }
      else some (s.setBuffer p none)
    | _, _ => none
  | .answer i dest port payload =>
    if (i, dest, port) ∈ s.sent then
      some { s with inFlight := s.inFlight ++ [⟨dest, port, some i, payload⟩] }
    else none
  | .stray src port payload =>
    some { s with inFlight := s.inFlight ++ [⟨src, port, none, payload⟩] }
  | .deliver k =>
    match s.inFlight[k]? with
    | none => none
    | some d =>
      let s := { s with inFlight := s.inFlight.eraseIdx k }
      match s.buffers d.target with
      | none => some s
      | some b => some (s.setBuffer d.target (some (b ++ [d])))

/-! ## 2. The run that gives one request the answer to another -/

/-- A destination for the run. -/
def dns : Addr := ⟨false, 8, 53⟩

/-- Session 0 asks `dns` under xid 1 and gets the first of two answers.  The socket is put back,
the second answer reaches it there, and session 1, which asks `dns` under xid 2, leases it. -/
def duplicateRun : List Action :=
  [.request 0 1 [dns], .acquire 0, .lease 0 5, .send 0,
    .answer 0 dns 5 [1], .answer 0 dns 5 [1], .deliver 0, .recv 0, .reply 0, .putBack 0,
    .deliver 0,
    .request 1 2 [dns], .acquire 1, .lease 1 6, .send 1, .recv 1, .reply 1]

/-- **A duplicate answer to one request is the reply to another**, of another session: request 1
has been answered with a datagram that `dns` sent in answer to request 0. -/
theorem duplicate_reaches_other_request :
    ∃ s, run Server.step (Server.start (some 1)) duplicateRun = some s ∧
      s.replies = [⟨1, 2, 1, some ⟨dns, 5, some 0, [1]⟩⟩,
        ⟨0, 1, 0, some ⟨dns, 5, some 0, [1]⟩⟩] ∧
      ¬ ∀ r ∈ s.replies, ∀ d, r.datagram = some d → ∀ a, d.answers = some a → a = r.request := by
  refine ⟨_, rfl, by decide, ?_⟩
  intro h
  exact absurd (h _ List.mem_cons_self _ rfl 0 rfl) (by decide)

/-! ## 3. Replies are the request's own, while no foreign answer can pass -/

/-- `d` can still be received on port `p`: it is under way to it or buffered there. -/
def Outstanding (s : Server) (p : Port) (d : Datagram) : Prop :=
  (d ∈ s.inFlight ∧ d.target = p) ∨ ∃ b, s.buffers p = some b ∧ d ∈ b

/-- `d` answers request `i`, or none at all. -/
def OwnAnswer (i : Nat) (d : Datagram) : Prop := ∀ a, d.answers = some a → a = i

/-- The condition on a step.  When a request sends from a port, no answer to another request that
its receive loop would accept is still outstanding there; and while a request waits on a port,
no answer to another request that it would accept is sent there. -/
def Unambiguous (s : Server) : Action → Prop
  | .send i => ∀ h dest rest, (s.requests i).phase = .leased h dest rest →
      ∀ d, Outstanding s h.port d → h.accepts dest d = true → OwnAnswer i d
  | .answer i dest port payload => ∀ j h own rest,
      (s.requests j).phase = .awaiting h own rest → h.port = port →
        h.accepts own ⟨dest, port, some i, payload⟩ = true → i = j
  | _ => True

/-- The invariant: all that a waiting request can still accept, what it has accepted, and what has
been replied, is its own. -/
structure Server.Inv (s : Server) : Prop where
  awaiting : ∀ i h dest rest, (s.requests i).phase = .awaiting h dest rest →
    ∀ d, Outstanding s h.port d → h.accepts dest d = true → OwnAnswer i d
  answered : ∀ i h d, (s.requests i).phase = .answered h d → OwnAnswer i d
  replied : ∀ r ∈ s.replies, ∀ d, r.datagram = some d → OwnAnswer r.request d

/-- `s'` gives no request anything new to receive: no request has started to wait or accepted a
datagram, no datagram has become outstanding, nothing was replied. -/
structure Quiet (s s' : Server) : Prop where
  awaiting : ∀ i h dest rest, (s'.requests i).phase = .awaiting h dest rest →
    (s.requests i).phase = .awaiting h dest rest
  answered : ∀ i h d, (s'.requests i).phase = .answered h d → (s.requests i).phase = .answered h d
  outstanding : ∀ p d, Outstanding s' p d → Outstanding s p d
  replies : s'.replies = s.replies

variable {s s' : Server} {i : Nat}

theorem Quiet.inv (h : Quiet s s') (hI : s.Inv) : s'.Inv where
  awaiting i hd dest rest hp d ho := hI.awaiting i hd dest rest (h.awaiting _ _ _ _ hp) d
    (h.outstanding _ _ ho)
  answered i hd d hp := hI.answered i hd d (h.answered _ _ _ hp)
  replied := by rw [h.replies]; exact hI.replied

theorem Quiet.refl (s : Server) : Quiet s s :=
  ⟨fun _ _ _ _ => id, fun _ _ _ => id, fun _ _ => id, rfl⟩

theorem Quiet.trans {t u : Server} (h1 : Quiet s t) (h2 : Quiet t u) : Quiet s u where
  awaiting i h dest rest hp := h1.awaiting i h dest rest (h2.awaiting _ _ _ _ hp)
  answered i h d hp := h1.answered i h d (h2.answered _ _ _ hp)
  outstanding p d ho := h1.outstanding p d (h2.outstanding p d ho)
  replies := h2.replies.trans h1.replies

/-- Changes of the pool's own bookkeeping are quiet. -/
theorem quiet_of_eq (hr : s'.requests = s.requests) (hb : s'.buffers = s.buffers)
    (hf : s'.inFlight = s.inFlight) (hp : s'.replies = s.replies) : Quiet s s' where
  awaiting i h dest rest := by rw [hr]; exact id
  answered i h d := by rw [hr]; exact id
  outstanding p d := by unfold Outstanding; rw [hb, hf]; exact id
  replies := hp

/-- So are the phases in which nothing is awaited or accepted. -/
theorem quiet_update {r : Request} (ha : ∀ h dest rest, r.phase ≠ .awaiting h dest rest)
    (hd : ∀ h d, r.phase ≠ .answered h d) :
    Quiet s { s with requests := Function.update s.requests i r } where
  awaiting j h dest rest hp := by
    by_cases hj : j = i
    · subst hj
      simp only [Function.update_self] at hp
      exact absurd hp (ha _ _ _)
    · simpa only [Function.update_of_ne hj] using hp
  answered j h d hp := by
    by_cases hj : j = i
    · subst hj
      simp only [Function.update_self] at hp
      exact absurd hp (hd _ _)
    · simpa only [Function.update_of_ne hj] using hp
  outstanding p d := id
  replies := rfl

/-- So is any change of a buffer that adds nothing to it. -/
theorem quiet_setBuffer {p : Port} {b : Option (List Datagram)}
    (hb : ∀ l, b = some l → ∀ d ∈ l, ∃ l0, s.buffers p = some l0 ∧ d ∈ l0) :
    Quiet s (s.setBuffer p b) where
  awaiting i h dest rest := id
  answered i h d := id
  outstanding q d ho := by
    rcases ho with ho | ⟨l, hl, hd⟩
    · exact Or.inl ho
    · by_cases hq : q = p
      · subst hq
        simp only [Server.setBuffer, Function.update_self] at hl
        exact Or.inr (hb l hl d hd)
      · simp only [Server.setBuffer, Function.update_of_ne hq] at hl
        exact Or.inr ⟨l, hl, hd⟩
  replies := rfl

theorem quiet_close (s : Server) (p : Port) : Quiet s (s.setBuffer p none) :=
  quiet_setBuffer (fun _ h => by cases h)

theorem quiet_dropHolder (s : Server) (h : Holder) : Quiet s (s.dropHolder h) := by
  have hpermit : Quiet s { s with permits := s.permits + 1 } := quiet_of_eq rfl rfl rfl rfl
  unfold Server.dropHolder
  split
  · exact quiet_close s h.port
  · dsimp only
    split
    · exact hpermit.trans (quiet_close _ _)
    · refine hpermit.trans (Quiet.trans (quiet_setBuffer (p := h.port) ?_)
        (quiet_of_eq rfl rfl rfl rfl))
      intro l hl d hd
      obtain ⟨l0, h0, rfl⟩ := Option.map_eq_some_iff.mp hl
      exact ⟨l0, h0, List.mem_of_mem_drop hd⟩

theorem quiet_bind {p : Port} (h : s.bind p = some s') : Quiet s s' := by
  unfold Server.bind at h
  split at h
  · cases h
    refine quiet_setBuffer ?_
    rintro l hl d hd
    cases hl
    cases hd
  · cases h

theorem Quiet.setPhase {t : Server} {ph : Phase} (h : Quiet s t)
    (ha : ∀ h dest rest, ph ≠ .awaiting h dest rest) (hd : ∀ h d, ph ≠ .answered h d) :
    Quiet s (t.setPhase i ph) :=
  h.trans (quiet_update ha hd)

/-- A delivered datagram was outstanding for its port before, whether the port is bound or not. -/
theorem quiet_deliver {k : Nat} (h : s.step (.deliver k) = some s') : Quiet s s' := by
  simp only [Server.step] at h
  split at h
  · cases h
  · rename_i d hk
    have hd := List.mem_of_getElem? hk
    have herase : Quiet s { s with inFlight := s.inFlight.eraseIdx k } :=
      ⟨fun _ _ _ _ => id, fun _ _ _ => id,
        fun _ _ ho => ho.imp_left (fun ho => ⟨List.mem_of_mem_eraseIdx ho.1, ho.2⟩), rfl⟩
    split at h
    · cases h
      exact herase
    · rename_i b hb
      cases h
      refine ⟨herase.awaiting, herase.answered, ?_, rfl⟩
      intro p x ho
      rcases ho with ho | ⟨l, hl, hx⟩
      · exact herase.outstanding p x (Or.inl ho)
      · by_cases hp : p = d.target
        · subst hp
          simp only [Server.setBuffer, Function.update_self, Option.some.injEq] at hl
          subst hl
          rcases List.mem_append.mp hx with hx | hx
          · exact Or.inr ⟨b, hb, hx⟩
          · rw [List.mem_singleton] at hx
            subst hx
            exact Or.inl ⟨hd, rfl⟩
        · simp only [Server.setBuffer, Function.update_of_ne hp] at hl
          exact Or.inr ⟨l, hl, hx⟩

/-- A datagram enters the network: every waiting request that would accept it is the one it
answers. -/
theorem inv_emit {d : Datagram} (hI : s.Inv)
    (hd : ∀ j h own rest, (s.requests j).phase = .awaiting h own rest → h.port = d.target →
      h.accepts own d = true → OwnAnswer j d) :
    Server.Inv { s with inFlight := s.inFlight ++ [d] } where
  awaiting i h dest rest hp x ho hacc := by
    rcases ho with ⟨hm, ht⟩ | ho
    · rcases List.mem_append.mp hm with hm | hm
      · exact hI.awaiting i h dest rest hp x (Or.inl ⟨hm, ht⟩) hacc
      · rw [List.mem_singleton] at hm
        subst hm
        exact hd i h dest rest hp ht.symm hacc
    · exact hI.awaiting i h dest rest hp x (Or.inr ho) hacc
  answered := hI.answered
  replied := hI.replied

/-- A request starts to wait on a port where all it would accept is its own. -/
theorem inv_send {h : Holder} {dest : Addr} {rest : List Addr} (hI : s.Inv)
    (hc : ∀ d, Outstanding s h.port d → h.accepts dest d = true → OwnAnswer i d) :
    Server.Inv ({ s with sent := (i, dest, h.port) :: s.sent }.setPhase i
      (.awaiting h.markSentAwaitingReply dest rest)) where
  awaiting j h' dest' rest' hp x ho hacc := by
    by_cases hj : j = i
    · subst hj
      simp only [Server.setPhase, Function.update_self, Phase.awaiting.injEq] at hp
      obtain ⟨rfl, rfl, rfl⟩ := hp
      exact hc x ho hacc
    · simp only [Server.setPhase, Function.update_of_ne hj] at hp
      exact hI.awaiting j h' dest' rest' hp x ho hacc
  answered j h' d hp := by
    by_cases hj : j = i
    · subst hj
      simp [Server.setPhase] at hp
    · simp only [Server.setPhase, Function.update_of_ne hj] at hp
      exact hI.answered j h' d hp
  replied := hI.replied

/-- A request takes the first datagram of its port's buffer. -/
theorem inv_recv (hI : s.Inv) (h : s.step (.recv i) = some s') : s'.Inv := by
  simp only [Server.step] at h
  split at h
  · rename_i hd dest rest hph
    split at h
    · rename_i d ds hb
      have hq : Quiet s (s.setBuffer hd.port (some ds)) := by
        refine quiet_setBuffer ?_
        rintro l hl x hx
        cases hl
        exact ⟨_, hb, List.mem_cons_of_mem _ hx⟩
      have hI' := hq.inv hI
      split at h
      · rename_i hacc
        cases h
        have hown : OwnAnswer i d := hI.awaiting i hd dest rest hph d
          (Or.inr ⟨_, hb, List.mem_cons_self⟩) hacc
        refine ⟨?_, ?_, hI'.replied⟩
        · intro j h' dest' rest' hp
          by_cases hj : j = i
          · subst hj
            simp [Server.setPhase] at hp
          · simp only [Server.setPhase, Function.update_of_ne hj] at hp
            exact hI'.awaiting j h' dest' rest' hp
        · intro j h' d' hp
          by_cases hj : j = i
          · subst hj
            simp only [Server.setPhase, Function.update_self, Phase.answered.injEq] at hp
            obtain ⟨-, rfl⟩ := hp
            exact hown
          · simp only [Server.setPhase, Function.update_of_ne hj] at hp
            exact hI'.answered j h' d' hp
      · -- dropped by the source filter: the request waits on as it was
        cases h
        have hsame : (s.setBuffer hd.port (some ds)).setPhase i (.awaiting hd dest rest)
            = s.setBuffer hd.port (some ds) := by
          simp only [Server.setPhase, Server.setBuffer, ← hph, Function.update_eq_self]
        rw [hsame]
        exact hI'
    · cases h
  · cases h

/-- The reply of a request that has accepted `d` (or, with none, has timed out). -/
theorem inv_reply {o : Option Datagram} (h : Holder) (hI : s.Inv)
    (ho : ∀ d, o = some d → OwnAnswer i d) :
    Server.Inv (((s.sendReply i o).dropHolder h).setPhase i .ended) := by
  have hI' : Server.Inv (s.sendReply i o) := by
    refine ⟨hI.awaiting, hI.answered, ?_⟩
    intro r hr d hd
    rcases List.mem_cons.mp hr with rfl | hr
    · exact ho d hd
    · exact hI.replied r hr d hd
  exact ((quiet_dropHolder _ h).setPhase (by simp) (by simp)).inv hI'

/-- Giving a socket up and moving on to a phase without one. -/
theorem quiet_giveUp (s : Server) (h : Holder) (i : Nat) {ph : Phase}
    (ha : ∀ h dest rest, ph ≠ .awaiting h dest rest) (hd : ∀ h d, ph ≠ .answered h d) :
    Quiet s ((s.dropHolder h).setPhase i ph) :=
  (quiet_dropHolder s h).setPhase ha hd

theorem quiet_lease {p : Port} (h : s.step (.lease i p) = some s') : Quiet s s' := by
  simp only [Server.step] at h
  split at h
  · split at h
    · obtain ⟨t, hb, rfl⟩ := Option.map_eq_some_iff.mp h
      exact (quiet_bind hb).setPhase (by simp) (by simp)
    · split at h
      · cases h
        exact Quiet.setPhase (quiet_of_eq rfl rfl rfl rfl) (by simp) (by simp)
      · obtain ⟨t, hb, rfl⟩ := Option.map_eq_some_iff.mp h
        exact (quiet_bind hb).setPhase (by simp) (by simp)
  · cases h

theorem quiet_acquire (h : s.step (.acquire i) = some s') : Quiet s s' := by
  simp only [Server.step] at h
  split at h
  · cases h
    exact (Quiet.refl s).setPhase (by simp) (by simp)
  · split at h
    · cases h
      exact (Quiet.refl s).setPhase (by simp) (by simp)
    · split at h
      · cases h
        exact Quiet.setPhase (quiet_of_eq rfl rfl rfl rfl) (by simp) (by simp)
      · cases h
  · cases h

theorem quiet_bindFailed (h : s.step (.bindFailed i) = some s') : Quiet s s' := by
  simp only [Server.step] at h
  split at h
  · split at h
    · cases h
      exact (Quiet.refl s).setPhase (by simp) (by simp)
    · split at h
      · cases h
        exact Quiet.setPhase (quiet_of_eq rfl rfl rfl rfl) (by simp) (by simp)
      · cases h
  · cases h

theorem quiet_abort (h : s.step (.abort i) = some s') : Quiet s s' := by
  simp only [Server.step] at h
  split at h
  · cases h
    exact (Quiet.refl s).setPhase (by simp) (by simp)
  · cases h
    exact Quiet.setPhase (quiet_of_eq rfl rfl rfl rfl) (by simp) (by simp)
  all_goals cases h
  all_goals exact quiet_giveUp s _ i (by simp) (by simp)

theorem quiet_putBack {k : Nat} (h : s.step (.putBack k) = some s') : Quiet s s' := by
  simp only [Server.step] at h
  split at h
  · split at h
    · cases h
      exact quiet_of_eq rfl rfl rfl rfl
    · cases h
      refine Quiet.trans ?_ (quiet_close _ _)
      exact quiet_of_eq rfl rfl rfl rfl
  · cases h

/-- **One step keeps the invariant**, if it is unambiguous. -/
theorem inv_step {a : Action} (hI : s.Inv) (hc : Unambiguous s a) (h : s.step a = some s') :
    s'.Inv := by
  cases a with
  | request session xid addrs =>
    cases h
    have hq : Quiet s { s with
        requests := Function.update s.requests s.count ⟨session, xid, .next addrs⟩ } :=
      quiet_update (by simp) (by simp)
    refine (hq.trans ?_).inv hI
    exact quiet_of_eq rfl rfl rfl rfl
  | acquire i => exact (quiet_acquire h).inv hI
  | lease i p => exact (quiet_lease h).inv hI
  | bindFailed i => exact (quiet_bindFailed h).inv hI
  | send i =>
    simp only [Server.step] at h
    split at h
    · rename_i hd dest rest hph
      cases h
      exact inv_send hI (hc hd dest rest hph)
    · cases h
  | sendFailed i =>
    simp only [Server.step] at h
    split at h
    · cases h
      exact (quiet_giveUp s _ i (by simp) (by simp)).inv hI
    · cases h
  | recv i => exact inv_recv hI h
  | recvFailed i =>
    simp only [Server.step] at h
    split at h
    · cases h
      exact (quiet_giveUp s _ i (by simp) (by simp)).inv hI
    · cases h
  | recvTimeout i =>
    simp only [Server.step] at h
    split at h
    · cases h
      exact ((Quiet.refl s).setPhase (by simp) (by simp)).inv hI
    · cases h
  | reply i =>
    simp only [Server.step] at h
    split at h
    · rename_i hd d hph
      cases h
      exact inv_reply hd hI (fun x hx => by cases hx; exact hI.answered i hd d hph)
    · cases h
      exact inv_reply _ hI (fun x hx => by cases hx)
    · cases h
  | replyFailed i =>
    simp only [Server.step] at h
    split at h
    · cases h
      exact (quiet_giveUp s _ i (by simp) (by simp)).inv hI
    · cases h
      exact (quiet_giveUp s _ i (by simp) (by simp)).inv hI
    · cases h
  | abort i => exact (quiet_abort h).inv hI
  | putBack k => exact (quiet_putBack h).inv hI
  | answer i dest port payload =>
    simp only [Server.step] at h
    split at h
    · cases h
      refine inv_emit hI ?_
      intro j hd own rest hph hport hacc a ha
      cases ha
      exact hc j hd own rest hph hport hacc
    · cases h
  | stray src port payload =>
    cases h
    exact inv_emit hI (fun j hd own rest _ _ _ a ha => by cases ha)
  | deliver k => exact (quiet_deliver h).inv hI

theorem inv_start (pool : Option Nat) : (Server.start pool).Inv where
  awaiting i h dest rest hp := by cases hp
  answered i h d hp := by cases hp
  replied r hr := by cases hr

/-- **In every run whose sends and answers are unambiguous, a `UDP_REP` never carries an answer to
another request**, of the same session or of another, with or without a pool. -/
theorem reply_answers_own_request {pool : Option Nat} {s : Server}
    (h : Path Server.step Unambiguous (Server.start pool) s) :
    ∀ r ∈ s.replies, ∀ d, r.datagram = some d → ∀ a, d.answers = some a → a = r.request :=
  (h.invariant (inv_start pool) fun _ _ _ hI hc hs => inv_step hI hc hs).replied

/-- Both requests of `duplicateRun`, on the same socket, with one answer to each. -/
def answeredRun : List Action :=
  [.request 0 1 [dns], .acquire 0, .lease 0 5, .send 0, .answer 0 dns 5 [1], .deliver 0, .recv 0,
    .reply 0, .putBack 0,
    .request 1 2 [dns], .acquire 1, .lease 1 6, .send 1, .answer 1 dns 5 [2], .deliver 0, .recv 1,
    .reply 1]

/-- In `answeredRun` nothing is under way to the socket when a request sends, and nobody else waits
on it when `dns` answers: it ends with two replies, and each is the request's own. -/
theorem reply_answers_own_request_pooled :
    (run Server.step (Server.start (some 1)) answeredRun).map Server.replies
        = some [⟨1, 2, 1, some ⟨dns, 5, some 1, [2]⟩⟩, ⟨0, 1, 0, some ⟨dns, 5, some 0, [1]⟩⟩] ∧
      ∀ s, run Server.step (Server.start (some 1)) answeredRun = some s →
        ∀ r ∈ s.replies, ∀ d, r.datagram = some d → ∀ a, d.answers = some a → a = r.request := by
  have hA : Allowed Server.step Unambiguous (Server.start (some 1)) answeredRun := by
    iterate 3 refine ⟨trivial, ?_⟩; rintro _ ⟨⟩
    refine ⟨?_, ?_⟩
    · rintro _ _ _ ⟨⟩ d (⟨⟨⟩, -⟩ | ⟨b, ⟨⟩, ⟨⟩⟩)
    rintro _ ⟨⟩
    refine ⟨?_, ?_⟩
    · intro j h own rest hp _ _
      cases j with
      | zero => rfl
      | succ j => cases hp
    rintro _ ⟨⟩
    iterate 7 refine ⟨trivial, ?_⟩; rintro _ ⟨⟩
    refine ⟨?_, ?_⟩
    · rintro _ _ _ ⟨⟩ d (⟨⟨⟩, -⟩ | ⟨b, ⟨⟩, ⟨⟩⟩)
    rintro _ ⟨⟩
    refine ⟨?_, ?_⟩
    · intro j h own rest hp _ _
      rcases j with _ | _ | j
      · cases hp
      · rfl
      · cases hp
    rintro _ ⟨⟩
    iterate 2 refine ⟨trivial, ?_⟩; rintro _ ⟨⟩
    exact ⟨trivial, fun _ _ => trivial⟩
  exact ⟨rfl, fun s hs => reply_answers_own_request (Path.of_run hA hs)⟩

end BibaVpn.Udp
