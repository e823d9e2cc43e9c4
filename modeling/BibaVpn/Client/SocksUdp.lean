/-
# A SOCKS UDP association

`run_socks_udp_assoc` (`local_client.rs`) serves the datagrams of one SOCKS client.  A loop reads
the control connection and the UDP socket; each datagram that it accepts gets a worker of its own,
which hands the request to the UDP mux, waits for the reply on a oneshot, and sends it back.  The
workers run beside the loop, and outlive the turn that spawned them.

* §1 is the code: the loop at its await points, and a worker at each of its own.  What was accepted,
  forwarded and sent is logged; nothing reads the log.  The mux may answer a oneshot with anything,
  late, or never;
* §2 says once what a step can do (`step_effect`);
* §3: whoever is served is the OWNER, who has the address of the control connection and the port of
  the first datagram that was accepted.  A worker knows that its datagram is the owner's and that it
  was forwarded before it waits; this carries over to whole runs
  (`association_serves_one_endpoint`).

An aborted task is dropped at its next await point.  Until then it may go on, so that the model lets
it take any step before it is dropped.  `select!` is biased towards the control connection; the
model allows either branch.
-/
import Mathlib.Data.List.Infix
import BibaVpn.Lib.Lts
import BibaVpn.Lib.Tasks
import BibaVpn.Wire.UdpWire

namespace BibaVpn.Client.SocksUdp

open Machine Lts Tasks Wire

/-! ## 1. The code -/

/-- `SOCKS_UDP_WORKERS`. -/
def socksUdpWorkers : Nat := 256

/-- The retries of a worker after a collision. -/
def maxCollisionRetries : Nat := 8

/-- `SocketAddr`. -/
structure SocketAddr where
  ip : IpAddr
  port : Nat
  deriving DecidableEq, Repr

/-- `canonical_ip`: an IPv4 address that is mapped into IPv6 is that IPv4 address. -/
def canonicalIp (ip : IpAddr) : IpAddr := ip.unmapped

/-- `socks_udp_source_allowed`. -/
def socksUdpSourceAllowed (ctrlPeerIp : IpAddr) (latchedPort : Option Nat) (src : SocketAddr) :
    Bool :=
  if canonicalIp src.ip ≠ canonicalIp ctrlPeerIp then false
  else match latchedPort with
    | some p => p == src.port
    | none => true

/-- The destination and the payload of a datagram. -/
structure Request where
  host : Text
  port : Nat
  payload : Bytes
  deriving DecidableEq, Repr

/-- Where a worker is. -/
inductive Worker
  /-- not yet polled -/
  | spawned (peer : SocketAddr) (data : Bytes)
  /-- in `timeout(reply_timeout, rx)`, on the oneshot `token` -/
  | waiting (peer : SocketAddr) (request : Request) (collisionRetries : Nat) (token : Nat)
  /-- in `send_to`, with what the oneshot `token` brought -/
  | sending (peer : SocketAddr) (token : Nat) (body : Bytes)
  | finished
  deriving DecidableEq, Repr

/-- Where the loop is. -/
inductive Phase
  /-- in `select!` -/
  | serving
  /-- in `acquire_owned`, for a datagram that was accepted -/
  | acquiring (peer : SocketAddr) (data : Bytes)
  /-- behind the loop, in `join_next` -/
  | closing
  | returned (result : Except String Unit)
  deriving DecidableEq

/-- What is logged. -/
inductive Event
  | accepted (peer : SocketAddr)
  | forwarded (token : Nat) (peer : SocketAddr) (xid : Nat) (request : Request)
  /-- the mux answered the oneshot -/
  | delivered (token : Nat) (body : Bytes)
  | replied (token : Nat) (peer : SocketAddr) (body : Bytes)
  /-- the control connection ended, and the loop is left -/
  | ended
  /-- the function returned behind its loop -/
  | returned
  deriving DecidableEq, Repr

/-- An association; `forwards` counts the oneshots. -/
structure Assoc where
  clientPort : Option Nat
  phase : Phase
  workers : List Worker
  forwards : Nat
  log : List Event
  deriving DecidableEq

def Assoc.start : Assoc := ⟨none, .serving, [], 0, []⟩

/-- What a worker gets while it waits. -/
inductive Reply
  | timeout
  | body (b : Bytes)
  | failed (error : Text)
  /-- the sender is gone -/
  | dropped
  deriving DecidableEq, Repr

/-- What can happen.  `refused` says that `forward` fails, because the queue is full or the driver
is gone. -/
inductive Action
  /-- `ctrl.read` returns: a number of bytes, or an error -/
  | control (read : Option Nat)
  | receive (peer : SocketAddr) (data : Bytes)
  | receiveFails (error : String)
  /-- `acquire_owned` returns a permit -/
  | acquire
  | semaphoreClosed
  /-- the first poll of a worker -/
  | begin (i : Nat) (xid : Nat) (refused : Bool)
  /-- a worker that waits goes on; `xid` is for a retry -/
  | resume (i : Nat) (reply : Reply) (xid : Nat) (refused : Bool)
  /-- `send_to` returns -/
  | sent (i : Nat) (ok : Bool)
  /-- an aborted worker is dropped -/
  | drop (i : Nat)
  /-- `join_next` finds no worker any more -/
  | join

def Assoc.finish (s : Assoc) (i : Nat) : Assoc := { s with workers := s.workers.set i .finished }

/-- `handle.forward(..)?`, and the wait for the reply. -/
def Assoc.forward (s : Assoc) (i : Nat) (peer : SocketAddr) (request : Request)
    (retries xid : Nat) (refused : Bool) : Assoc :=
  if refused then s.finish i
  else { s with
    workers := s.workers.set i (.waiting peer request retries s.forwards)
    forwards := s.forwards + 1
    log := s.log ++ [.forwarded s.forwards peer xid request] }

/-- The branch `ctrl.read`. -/
def Assoc.readControl (s : Assoc) : Option Nat → Assoc
  | some (_ + 1) => s
  | some 0 => { s with phase := .closing, log := s.log ++ [.ended] }
  | none => { s with phase := .closing, log := s.log ++ [.ended] }

/-- The branch `udp.recv_from`, up to the permit. -/
def Assoc.receive (ctrlPeerIp : IpAddr) (s : Assoc) (peer : SocketAddr) (data : Bytes) : Assoc :=
  if socksUdpSourceAllowed ctrlPeerIp s.clientPort peer then
    { s with
      clientPort := if s.clientPort.isNone then some peer.port else s.clientPort
      phase := .acquiring peer data
      log := s.log ++ [.accepted peer] }
  else s

/-- `e.to_string().contains("udp_mux_xid_collision")`. -/
def isCollision (error : Text) : Bool := decide ("udp_mux_xid_collision".toList <:+: error)

/-- What a worker does with its reply. -/
def Assoc.resume (s : Assoc) (i : Nat) (peer : SocketAddr) (request : Request)
    (retries token : Nat) (xid : Nat) (refused : Bool) : Reply → Assoc
  | .timeout => s.finish i
  | .body b => { s with
      workers := s.workers.set i (.sending peer token b)
      log := s.log ++ [.delivered token b] }
  | .failed e =>
    if isCollision e ∧ retries < maxCollisionRetries then
      s.forward i peer request (retries + 1) xid refused
    else s.finish i
  | .dropped => s.finish i

/-- The workers that hold a permit. -/
def Assoc.running (s : Assoc) : Nat := s.workers.countP (· ≠ .finished)

/-- Whether the workers were aborted: by `abort_all`, or with the set of tasks. -/
def Phase.aborts : Phase → Bool
  | .closing => true
  | .returned _ => true
  | _ => false

def Assoc.step (P : Platform) (ctrlPeerIp : IpAddr) (s : Assoc) : Action → Option Assoc
  | .control read => if s.phase = .serving then some (s.readControl read) else none
  | .receive peer data => if s.phase = .serving then some (s.receive ctrlPeerIp peer data) else none
  | .receiveFails e =>
    if s.phase = .serving then some { s with phase := .returned (.error ("socks udp recv: " ++ e)) }
    else none
  | .acquire =>
    match s.phase with
    | .acquiring peer data =>
      if s.running < socksUdpWorkers then
        some { s with phase := .serving, workers := s.workers ++ [.spawned peer data] }
      else none
    | _ => none
  | .semaphoreClosed =>
    match s.phase with
    | .acquiring _ _ => some { s with phase := .closing }
    | _ => none
  | .begin i xid refused =>
    match s.workers[i]? with
    | some (.spawned peer data) =>
      match parseSocks5UdpDatagram P data with
      | .error _ => some (s.finish i)
      | .ok (host, port, payload) => some (s.forward i peer ⟨host, port, payload⟩ 0 xid refused)
    | _ => none
  | .resume i reply xid refused =>
    match s.workers[i]? with
    | some (.waiting peer request retries token) =>
      some (s.resume i peer request retries token xid refused reply)
    | _ => none
  | .sent i ok =>
    match s.workers[i]? with
    | some (.sending peer token body) =>
      some (if ok then { s.finish i with log := s.log ++ [.replied token peer body] }
        else s.finish i)
    | _ => none
  | .drop i => if s.phase.aborts ∧ i < s.workers.length then some (s.finish i) else none
  | .join =>
    if s.phase = .closing ∧ ∀ w ∈ s.workers, w = .finished then
      some { s with phase := .returned (.ok ()), log := s.log ++ [.returned] }
    else none

/-! ## 2. What a step can do -/

/-- The peer of a worker that is not finished. -/
def Worker.peer? : Worker → Option SocketAddr
  | .spawned peer _ => some peer
  | .waiting peer _ _ _ => some peer
  | .sending peer _ _ => some peer
  | .finished => none

/-- **The effect of a step.**  Everything that a step can change is in one of these. -/
inductive Effect (P : Platform) (ctrlPeerIp : IpAddr) (s : Assoc) : Assoc → Prop
  | idle : Effect P ctrlPeerIp s s
  /-- the control connection ends -/
  | ended (hphase : s.phase = .serving) :
      Effect P ctrlPeerIp s { s with phase := .closing, log := s.log ++ [.ended] }
  /-- the loop is left in another way -/
  | left {phase : Phase} (hbefore : s.phase.aborts = false)
      (hafter : ∀ peer data, phase ≠ .acquiring peer data) :
      Effect P ctrlPeerIp s { s with phase := phase }
  | accepted {peer : SocketAddr} {data : Bytes} (hphase : s.phase = .serving)
      (hallowed : socksUdpSourceAllowed ctrlPeerIp s.clientPort peer = true) :
      Effect P ctrlPeerIp s { s with
        clientPort := if s.clientPort.isNone then some peer.port else s.clientPort
        phase := .acquiring peer data
        log := s.log ++ [.accepted peer] }
  | spawned {peer : SocketAddr} {data : Bytes} (hphase : s.phase = .acquiring peer data) :
      Effect P ctrlPeerIp s
        { s with phase := .serving, workers := s.workers ++ [.spawned peer data] }
  | finished (i : Nat) : Effect P ctrlPeerIp s (s.finish i)
  | forwarded {i : Nat} {w : Worker} {peer : SocketAddr} (hw : s.workers[i]? = some w)
      (hpeer : w.peer? = some peer) (request : Request) (retries xid : Nat) :
      Effect P ctrlPeerIp s { s with
        workers := s.workers.set i (.waiting peer request retries s.forwards)
        forwards := s.forwards + 1
        log := s.log ++ [.forwarded s.forwards peer xid request] }
  | delivered {i : Nat} {peer : SocketAddr} {request : Request} {retries token : Nat} (body : Bytes)
      (hw : s.workers[i]? = some (.waiting peer request retries token)) :
      Effect P ctrlPeerIp s { s with
        workers := s.workers.set i (.sending peer token body)
        log := s.log ++ [.delivered token body] }
  | replied {i : Nat} {peer : SocketAddr} {token : Nat} {body : Bytes}
      (hw : s.workers[i]? = some (.sending peer token body)) :
      Effect P ctrlPeerIp s { s.finish i with log := s.log ++ [.replied token peer body] }
  | returned (hphase : s.phase = .closing) (hjoined : ∀ w ∈ s.workers, w = .finished) :
      Effect P ctrlPeerIp s { s with phase := .returned (.ok ()), log := s.log ++ [.returned] }

section Step

variable {P : Platform} {ctrlPeerIp : IpAddr} {s s' : Assoc}

theorem forward_effect {i : Nat} {w : Worker} {peer : SocketAddr} (hw : s.workers[i]? = some w)
    (hpeer : w.peer? = some peer) (request : Request) (retries xid : Nat) (refused : Bool) :
    Effect P ctrlPeerIp s (s.forward i peer request retries xid refused) := by
  cases refused with
  | true => exact .finished i
  | false => exact .forwarded hw hpeer request retries xid

theorem resume_effect {i : Nat} {peer : SocketAddr} {request : Request} {retries token : Nat}
    (hw : s.workers[i]? = some (.waiting peer request retries token)) (xid : Nat) (refused : Bool)
    (reply : Reply) :
    Effect P ctrlPeerIp s (s.resume i peer request retries token xid refused reply) := by
  cases reply with
  | timeout | dropped => exact .finished i
  | body b => exact .delivered b hw
  | failed e =>
    rw [Assoc.resume]
    by_cases hretry : isCollision e ∧ retries < maxCollisionRetries
    · rw [if_pos hretry]
      exact forward_effect hw rfl request (retries + 1) xid refused
    · rw [if_neg hretry]
      exact .finished i

theorem step_effect {a : Action} (h : s.step P ctrlPeerIp a = some s') :
    Effect P ctrlPeerIp s s' := by
  revert h
  fun_cases Assoc.step P ctrlPeerIp s a <;> intro h <;> cases h
  case case1 read hphase =>
    match read with
    | some (_ + 1) => exact .idle
    | some 0 => exact .ended hphase
    | none => exact .ended hphase
  case case3 peer data hphase =>
    rw [Assoc.receive]
    split
    · rename_i hallowed
      exact .accepted hphase hallowed
    · exact .idle
  case case5 hphase | case10 hphase => exact .left (by rw [hphase]; rfl) (by simp)
  case case7 hphase _ => exact .spawned hphase
  case case12 i _ _ _ _ _ _ _ | case19 i _ => exact .finished i
  case case13 xid refused _ _ hw _ _ _ _ => exact forward_effect hw rfl _ 0 xid refused
  case case15 reply xid refused _ _ _ _ hw => exact resume_effect hw xid refused reply
  case case17 i ok _ _ _ hw =>
    cases ok with
    | true => exact .replied hw
    | false => exact .finished i
  case case21 hjoined => exact .returned hjoined.1 hjoined.2

end Step

/-! ## 3. One endpoint -/

/-- The source of what was accepted or forwarded, and the destination of a reply. -/
def Event.endpoint? : Event → Option SocketAddr
  | .accepted peer => some peer
  | .forwarded _ peer _ _ => some peer
  | .replied _ peer _ => some peer
  | _ => none

def Event.accepted? : Event → Option SocketAddr
  | .accepted peer => some peer
  | _ => none

/-- The source of the first datagram that was accepted. -/
def firstAccepted (log : List Event) : Option SocketAddr := log.findSome? Event.accepted?

/-- The oneshot of a forwarded request. -/
def Event.token? : Event → Option Nat
  | .forwarded token _ _ _ => some token
  | _ => none

def Event.IsReply : Event → Prop
  | .replied _ _ _ => True
  | _ => False

/-- `peer` has the address of the control connection and the port that is latched. -/
def Owner (ctrlPeerIp : IpAddr) (port : Option Nat) (peer : SocketAddr) : Prop :=
  canonicalIp peer.ip = canonicalIp ctrlPeerIp ∧ port = some peer.port

/-- A request of `peer` was forwarded with this oneshot. -/
def Forwarded (log : List Event) (token : Nat) (peer : SocketAddr) : Prop :=
  ∃ xid request, Event.forwarded token peer xid request ∈ log

/-- A reply stands behind the request that it answers, and behind the answer of the mux. -/
def Answers (e : Event) (before : List Event) : Prop :=
  ∀ token peer body, e = .replied token peer body →
    Forwarded before token peer ∧ Event.delivered token body ∈ before

/-- **An association that serves one endpoint.** -/
structure OneEndpoint (ctrlPeerIp : IpAddr) (log : List Event) : Prop where
  /-- all that is accepted, forwarded or sent has the address of the control peer and the port of
  the first datagram that was accepted -/
  endpoint : ∀ e ∈ log, ∀ peer, e.endpoint? = some peer →
    Owner ctrlPeerIp ((firstAccepted log).map SocketAddr.port) peer
  answered : Preceded Answers log
  /-- a oneshot belongs to one request -/
  tokens : (log.filterMap Event.token?).Nodup
  /-- there is no reply after the function returned from behind its loop -/
  quiet : NothingAfter (· = .returned) Event.IsReply log

/-- What holds of a log, with the port that is latched and the number of oneshots. -/
structure LogInv (ctrlPeerIp : IpAddr) (port : Option Nat) (forwards : Nat) (log : List Event) :
    Prop where
  latched : port = (firstAccepted log).map SocketAddr.port
  endpoint : ∀ e ∈ log, ∀ peer, e.endpoint? = some peer → Owner ctrlPeerIp port peer
  answered : Preceded Answers log
  tokens : log.filterMap Event.token? = List.range forwards

/-- What a worker knows. -/
def Worker.Knows (ctrlPeerIp : IpAddr) (port : Option Nat) (log : List Event) : Worker → Prop
  | .spawned peer _ => Owner ctrlPeerIp port peer
  | .waiting peer _ _ token => Owner ctrlPeerIp port peer ∧ Forwarded log token peer
  | .sending peer token body =>
    Owner ctrlPeerIp port peer ∧ Forwarded log token peer ∧ Event.delivered token body ∈ log
  | .finished => True

/-- How an association ends: it returns from behind its loop when all workers are finished, and the
end of the control connection leaves no other way to return. -/
structure Ending (phase : Phase) (workers : List Worker) (log : List Event) : Prop where
  joined : Event.returned ∈ log → (∃ r, phase = .returned r) ∧ ∀ w ∈ workers, w = .finished
  left : Event.ended ∈ log → phase = .closing ∨ Event.returned ∈ log
  quiet : NothingAfter (· = .returned) Event.IsReply log

structure Inv (ctrlPeerIp : IpAddr) (s : Assoc) : Prop where
  log : LogInv ctrlPeerIp s.clientPort s.forwards s.log
  acquiring : ∀ peer data, s.phase = .acquiring peer data → Owner ctrlPeerIp s.clientPort peer
  workers : Each s.workers fun _ w => w.Knows ctrlPeerIp s.clientPort s.log
  ending : Ending s.phase s.workers s.log

section Invariant

variable {P : Platform} {ctrlPeerIp : IpAddr} {s s' : Assoc} {port port' : Option Nat}
  {log log' : List Event} {forwards : Nat} {e : Event} {phase phase' : Phase}
  {workers workers' : List Worker}

theorem firstAccepted_snoc (h : e.accepted? = none) :
    firstAccepted (log ++ [e]) = firstAccepted log := by
  simp [firstAccepted, List.findSome?_append, h]

theorem LogInv.snoc (h : LogInv ctrlPeerIp port forwards log) (hne : e.accepted? = none)
    (howner : ∀ peer, e.endpoint? = some peer → Owner ctrlPeerIp port peer) (hans : Answers e log)
    {forwards' : Nat}
    (htokens : List.range forwards ++ [e].filterMap Event.token? = List.range forwards') :
    LogInv ctrlPeerIp port forwards' (log ++ [e]) where
  latched := by rw [firstAccepted_snoc hne]; exact h.latched
  endpoint := by
    intro x hx peer hpeer
    rcases List.mem_append.mp hx with hx | hx
    · exact h.endpoint x hx peer hpeer
    · cases List.mem_singleton.mp hx
      exact howner peer hpeer
  answered := h.answered.snoc hans
  tokens := by rw [List.filterMap_append, h.tokens, htokens]

/-- An entry that is neither about a datagram nor about a reply. -/
theorem LogInv.snoc_silent (h : LogInv ctrlPeerIp port forwards log)
    (hsilent : e.endpoint? = none) : LogInv ctrlPeerIp port forwards (log ++ [e]) := by
  have hkind : e.accepted? = none ∧ e.token? = none := by
    cases e with
    | accepted | forwarded | replied => cases hsilent
    | delivered | ended | returned => exact ⟨rfl, rfl⟩
  refine h.snoc hkind.1 ?_ ?_ ?_
  · intro peer hpeer
    rw [hsilent] at hpeer
    cases hpeer
  · intro token peer body he
    rw [he] at hsilent
    cases hsilent
  · rw [List.filterMap_cons_none hkind.2, List.filterMap_nil, List.append_nil]

variable {peer : SocketAddr} {w : Worker}

/-- **A datagram that is accepted is the owner's**, and nobody who was the owner ceases to be. -/
theorem owner_of_allowed (h : socksUdpSourceAllowed ctrlPeerIp port peer = true)
    (hport : port' = if port.isNone then some peer.port else port) :
    Owner ctrlPeerIp port' peer ∧
      ∀ other, Owner ctrlPeerIp port other → Owner ctrlPeerIp port' other := by
  unfold socksUdpSourceAllowed at h
  by_cases hip : canonicalIp peer.ip = canonicalIp ctrlPeerIp
  · rw [if_neg (not_not_intro hip)] at h
    cases port with
    | none => exact ⟨⟨hip, hport⟩, fun _ ho => nomatch ho.2⟩
    | some p =>
      have hp : p = peer.port := beq_iff_eq.mp h
      have hsame : port' = some p := hport
      exact ⟨⟨hip, by rw [hsame, hp]⟩, fun _ ho => ⟨ho.1, hsame.trans ho.2⟩⟩
  · rw [if_pos hip] at h
    cases h

theorem LogInv.accept (h : LogInv ctrlPeerIp port forwards log)
    (hallowed : socksUdpSourceAllowed ctrlPeerIp port peer = true) :
    LogInv ctrlPeerIp (if port.isNone then some peer.port else port) forwards
      (log ++ [.accepted peer]) where
  latched := by
    rw [h.latched, firstAccepted, firstAccepted, List.findSome?_append]
    cases List.findSome? Event.accepted? log with
    | none | some => rfl
  endpoint := by
    obtain ⟨howner, hkept⟩ := owner_of_allowed hallowed rfl
    intro x hx other hother
    rcases List.mem_append.mp hx with hx | hx
    · exact hkept other (h.endpoint x hx other hother)
    · cases List.mem_singleton.mp hx
      cases hother
      exact howner
  answered := h.answered.snoc fun _ _ _ h => nomatch h
  tokens := by
    rw [List.filterMap_append, h.tokens]
    exact List.append_nil _

theorem Forwarded.mono {token : Nat} (h : Forwarded log token peer) (hlog : log ⊆ log') :
    Forwarded log' token peer := by
  obtain ⟨xid, request, hm⟩ := h
  exact ⟨xid, request, hlog hm⟩

theorem Worker.Knows.mono (h : w.Knows ctrlPeerIp port log)
    (hport : ∀ peer, Owner ctrlPeerIp port peer → Owner ctrlPeerIp port' peer) (hlog : log ⊆ log') :
    w.Knows ctrlPeerIp port' log' := by
  cases w with
  | spawned peer data => exact hport peer h
  | waiting peer request retries token => exact ⟨hport peer h.1, h.2.mono hlog⟩
  | sending peer token body => exact ⟨hport peer h.1, h.2.1.mono hlog, hlog h.2.2⟩
  | finished => trivial

theorem Worker.Knows.owner (h : w.Knows ctrlPeerIp port log) (hpeer : w.peer? = some peer) :
    Owner ctrlPeerIp port peer := by
  cases w with
  | spawned p data => cases hpeer; exact h
  | waiting | sending => cases hpeer; exact h.1
  | finished => cases hpeer

/-- Workers stand still while the log grows. -/
theorem Inv.workers_snoc (h : Inv ctrlPeerIp s) (e : Event) :
    Each s.workers fun _ w => w.Knows ctrlPeerIp s.clientPort (s.log ++ [e]) :=
  h.workers.mono fun _ _ _ hw => hw.mono (fun _ ho => ho) (List.subset_append_left _ _)

/-- One worker moves while the log grows. -/
theorem Inv.workers_set (h : Inv ctrlPeerIp s) {i : Nat} {e : Event}
    (hw : w.Knows ctrlPeerIp s.clientPort (s.log ++ [e])) :
    Each (s.workers.set i w) fun _ w => w.Knows ctrlPeerIp s.clientPort (s.log ++ [e]) :=
  (h.workers_snoc e).set hw fun _ _ _ _ hu => hu

/-- While the loop runs, nothing has ended. -/
theorem Ending.not_ended (h : Ending phase workers log) (hphase : phase.aborts = false) :
    Event.returned ∉ log ∧ Event.ended ∉ log := by
  have hreturned : Event.returned ∉ log := by
    intro hm
    obtain ⟨⟨r, rfl⟩, -⟩ := h.joined hm
    cases hphase
  refine ⟨hreturned, fun hm => ?_⟩
  rcases h.left hm with rfl | hr
  · cases hphase
  · exact hreturned hr

/-- As long as a worker is not finished, the function has not returned from behind its loop. -/
theorem Ending.not_returned (h : Ending phase workers log) {i : Nat} (hw : workers[i]? = some w)
    (hpeer : w.peer? = some peer) : Event.returned ∉ log := by
  intro hm
  have hfinished := (h.joined hm).2 w (List.mem_of_getElem? hw)
  rw [hfinished] at hpeer
  cases hpeer

theorem not_mem_snoc {x : Event} (h : x ∉ log) (he : e ≠ x) : x ∉ log ++ [e] := by
  intro hm
  rcases List.mem_append.mp hm with hm | hm
  · exact h hm
  · exact he (List.mem_singleton.mp hm).symm

theorem quiet_snoc (h : NothingAfter (· = .returned) Event.IsReply log)
    (hreply : e.IsReply → Event.returned ∉ log) :
    NothingAfter (· = .returned) Event.IsReply (log ++ [e]) := by
  refine nothingAfter_snoc.mpr ⟨h, fun he x hx hr => ?_⟩
  rw [hr] at hx
  exact hreply he hx

/-- Where nothing has ended, the phase and the workers may be any. -/
theorem Ending.of_not_ended (hreturned : Event.returned ∉ log) (hended : Event.ended ∉ log)
    (hquiet : NothingAfter (· = .returned) Event.IsReply log) : Ending phase workers log :=
  ⟨fun hm => absurd hm hreturned, fun hm => absurd hm hended, hquiet⟩

/-- A worker that is not finished moves, and logs something. -/
theorem Ending.snoc (h : Ending phase workers log) (hnot : Event.returned ∉ log)
    (hr : e ≠ .returned) (he : e ≠ .ended) : Ending phase workers' (log ++ [e]) where
  joined hm := absurd hm (not_mem_snoc hnot hr)
  left hm := by
    rcases List.mem_append.mp hm with hm | hm
    · rcases h.left hm with hphase | hm
      · exact .inl hphase
      · exact absurd hm hnot
    · exact absurd (List.mem_singleton.mp hm).symm he
  quiet := quiet_snoc h.quiet fun _ => hnot

theorem inv_start : Inv ctrlPeerIp .start where
  log := ⟨rfl, (fun _ h => nomatch h), .nil, rfl⟩
  acquiring := fun _ _ h => nomatch h
  workers := .nil
  ending := ⟨(fun h => nomatch h), (fun h => nomatch h), .nil⟩

/-- **Every effect keeps the invariant.** -/
theorem inv_effect (hI : Inv ctrlPeerIp s) (h : Effect P ctrlPeerIp s s') : Inv ctrlPeerIp s' := by
  cases h with
  | idle => exact hI
  | ended hphase =>
    have hnot := (hI.ending.not_ended (by rw [hphase]; rfl)).1
    refine ⟨hI.log.snoc_silent rfl, (fun _ _ h => nomatch h), hI.workers_snoc _, ?_⟩
    exact ⟨(fun hm => absurd hm (not_mem_snoc hnot (by simp))), (fun _ => .inl rfl),
      quiet_snoc hI.ending.quiet (fun h => h.elim)⟩
  | left hbefore hafter =>
    obtain ⟨hreturned, hended⟩ := hI.ending.not_ended hbefore
    exact ⟨hI.log, (fun peer data h => absurd h (hafter peer data)), hI.workers,
      .of_not_ended hreturned hended hI.ending.quiet⟩
  | accepted hphase hallowed =>
    obtain ⟨hreturned, hended⟩ := hI.ending.not_ended (by rw [hphase]; rfl)
    obtain ⟨howner, hkept⟩ := owner_of_allowed hallowed rfl
    refine ⟨hI.log.accept hallowed, ?_, ?_, ?_⟩
    · intro peer data hacq
      cases hacq
      exact howner
    · exact hI.workers.mono fun _ _ _ hw => hw.mono hkept (List.subset_append_left _ _)
    · exact .of_not_ended (not_mem_snoc hreturned (by simp)) (not_mem_snoc hended (by simp))
        (quiet_snoc hI.ending.quiet fun h => h.elim)
  | spawned hphase =>
    obtain ⟨hreturned, hended⟩ := hI.ending.not_ended (by rw [hphase]; rfl)
    exact ⟨hI.log, (fun _ _ h => nomatch h), hI.workers.spawn (hI.acquiring _ _ hphase),
      .of_not_ended hreturned hended hI.ending.quiet⟩
  | finished i =>
    refine ⟨hI.log, hI.acquiring, hI.workers.set trivial fun _ _ _ _ hu => hu, ?_⟩
    refine ⟨fun hm => ?_, hI.ending.left, hI.ending.quiet⟩
    obtain ⟨hphase, hall⟩ := hI.ending.joined hm
    refine ⟨hphase, fun w hw => ?_⟩
    rcases List.mem_or_eq_of_mem_set hw with hw | hw
    · exact hall w hw
    · exact hw
  | @forwarded i w peer hw hpeer request retries xid =>
    have hnot := hI.ending.not_returned hw hpeer
    have howner := (hI.workers _ _ hw).owner hpeer
    refine ⟨hI.log.snoc rfl ?_ ?_ List.range_succ.symm, hI.acquiring, ?_,
      hI.ending.snoc hnot (by simp) (by simp)⟩
    · intro p hp
      cases hp
      exact howner
    · intro token p body he
      cases he
    · exact hI.workers_set ⟨howner, xid, request, by simp⟩
  | delivered body hw =>
    have hnot := hI.ending.not_returned hw rfl
    obtain ⟨howner, hforwarded⟩ := hI.workers _ _ hw
    refine ⟨hI.log.snoc_silent rfl, hI.acquiring, ?_, hI.ending.snoc hnot (by simp) (by simp)⟩
    exact hI.workers_set ⟨howner, hforwarded.mono (List.subset_append_left _ _), by simp⟩
  | replied hw =>
    have hnot := hI.ending.not_returned hw rfl
    obtain ⟨howner, hforwarded, hdelivered⟩ := hI.workers _ _ hw
    refine ⟨hI.log.snoc rfl ?_ ?_ (List.append_nil _), hI.acquiring, hI.workers_set trivial,
      hI.ending.snoc hnot (by simp) (by simp)⟩
    · intro p hp
      cases hp
      exact howner
    · intro token peer body he
      cases he
      exact ⟨hforwarded, hdelivered⟩
  | returned hphase hjoined =>
    refine ⟨hI.log.snoc_silent rfl, (fun _ _ h => nomatch h), hI.workers_snoc _, ?_⟩
    exact ⟨(fun _ => ⟨⟨_, rfl⟩, hjoined⟩), (fun _ => .inr (by simp)),
      quiet_snoc hI.ending.quiet (fun h => h.elim)⟩

theorem inv_reachable (h : Reachable (Assoc.step P ctrlPeerIp) .start s) : Inv ctrlPeerIp s :=
  h.invariant inv_start fun _ _ _ hI hs => inv_effect hI (step_effect hs)

/-- The function returned, and no worker is left. -/
def Assoc.AllOver (s : Assoc) :
    Prop := (∃ r, s.phase = .returned r) ∧ ∀ w ∈ s.workers, w = .finished

/-- Nothing is logged any more when all is over, and it stays over. -/
theorem allOver_effect (hover : s.AllOver) (h : Effect P ctrlPeerIp s s') :
    s'.AllOver ∧ s'.log = s.log := by
  obtain ⟨⟨r, hr⟩, hall⟩ := hover
  have hidle : ∀ {i : Nat} {w : Worker}, s.workers[i]? = some w → w = .finished :=
    fun hw => hall _ (List.mem_of_getElem? hw)
  cases h with
  | idle => exact ⟨⟨⟨r, hr⟩, hall⟩, rfl⟩
  | ended hphase => exact nomatch hr.symm.trans hphase
  | left hbefore _ =>
    rw [hr] at hbefore
    cases hbefore
  | accepted hphase _ => exact nomatch hr.symm.trans hphase
  | spawned hphase => exact nomatch hr.symm.trans hphase
  | finished i =>
    refine ⟨⟨⟨r, hr⟩, fun w hw => ?_⟩, rfl⟩
    rcases List.mem_or_eq_of_mem_set hw with hw | hw
    · exact hall w hw
    · exact hw
  | forwarded hw hpeer =>
    rw [hidle hw] at hpeer
    cases hpeer
  | delivered _ hw => exact nomatch hidle hw
  | replied hw => exact nomatch hidle hw
  | returned hphase _ => exact nomatch hr.symm.trans hphase

/-- **A SOCKS UDP association serves one endpoint**, in every run: whatever datagrams arrive, from
wherever, whatever the mux answers and whenever, and whatever happens to the control connection.
When the control connection ended and the function returned, nothing is forwarded or sent any
more. -/
theorem association_serves_one_endpoint (h : Reachable (Assoc.step P ctrlPeerIp) .start s) :
    OneEndpoint ctrlPeerIp s.log ∧
      (Event.ended ∈ s.log → (∃ r, s.phase = .returned r) →
        ∀ t, Reachable (Assoc.step P ctrlPeerIp) s t → t.log = s.log) := by
  have hI := inv_reachable h
  refine ⟨⟨?_, hI.log.answered, ?_, hI.ending.quiet⟩, ?_⟩
  · intro e he peer hpeer
    have howner := hI.log.endpoint e he peer hpeer
    rwa [hI.log.latched] at howner
  · rw [hI.log.tokens]
    exact List.nodup_range
  · rintro hended ⟨r, hr⟩ t ht
    have hover : s.AllOver := by
      rcases hI.ending.left hended with hclosing | hreturned
      · exact nomatch hr.symm.trans hclosing
      · exact hI.ending.joined hreturned
    have hkept : t.AllOver ∧ t.log = s.log := by
      refine ht.invariant (I := fun u => u.AllOver ∧ u.log = s.log) ⟨hover, rfl⟩ ?_
      intro u a u' hu hstep
      obtain ⟨hover', hlog⟩ := allOver_effect hu.1 (step_effect hstep)
      exact ⟨hover', hlog.trans hu.2⟩
    exact hkept.2

end Invariant

/-- A client at `10.0.0.7`, whose first datagram comes from an address that is mapped into IPv6; a
datagram of a stranger and one from another port; a collision; and the end. -/
def twoSpellings : List Action :=
  let data : Bytes := [0, 0, 0, 1, 9, 9, 9, 9, 0, 53, 0x71]
  [.receive ⟨.v4 [10, 0, 0, 8], 4000⟩ data,
   .receive ⟨.v6 (List.replicate 10 0 ++ [0xff, 0xff, 10, 0, 0, 7]), 4000⟩ data, .acquire,
   .receive ⟨.v4 [10, 0, 0, 7], 4001⟩ data,
   .begin 0 1 false, .resume 0 (.failed "udp_mux_xid_collision".toList) 2 false,
   .receive ⟨.v4 [10, 0, 0, 7], 4000⟩ data, .acquire, .begin 1 3 false,
   .resume 1 (.body [1]) 0 false, .sent 1 true, .resume 0 (.body [2]) 0 false, .sent 0 true,
   .control (some 0), .join]

/-- The two replies, to the two ways to write the owner's address. -/
theorem both_spellings_of_owner_served :
    ∃ s, run (Assoc.step .ascii (.v4 [10, 0, 0, 7])) .start twoSpellings = some s ∧
      s.log.filter (fun e => e matches .replied ..) =
        [.replied 2 ⟨.v4 [10, 0, 0, 7], 4000⟩ [1],
         .replied 1 ⟨.v6 (List.replicate 10 0 ++ [0xff, 0xff, 10, 0, 0, 7]), 4000⟩ [2]] ∧
      OneEndpoint (.v4 [10, 0, 0, 7]) s.log ∧ Event.ended ∈ s.log ∧ s.phase = .returned (.ok ()) ∧
      ∀ t, Reachable (Assoc.step .ascii (.v4 [10, 0, 0, 7])) s t → t.log = s.log := by
  obtain ⟨s, hrun, hlog, hended, hphase⟩ : ∃ s,
      run (Assoc.step .ascii (.v4 [10, 0, 0, 7])) .start twoSpellings = some s ∧
        s.log.filter (fun e => e matches .replied ..) =
          [.replied 2 ⟨.v4 [10, 0, 0, 7], 4000⟩ [1],
           .replied 1 ⟨.v6 (List.replicate 10 0 ++ [0xff, 0xff, 10, 0, 0, 7]), 4000⟩ [2]] ∧
        Event.ended ∈ s.log ∧ s.phase = .returned (.ok ()) :=
    ⟨_, rfl, by decide +kernel, by decide +kernel, rfl⟩
  obtain ⟨hone, hover⟩ := association_serves_one_endpoint (.of_run hrun)
  exact ⟨s, hrun, hlog, hone, hended, hphase, hover hended ⟨_, hphase⟩⟩

end BibaVpn.Client.SocksUdp
