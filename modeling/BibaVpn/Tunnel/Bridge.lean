/-
# The bridge of a dedicated tunnel

`bridge_ws_tcp_padded` joins a WebSocket to a TCP connection.  Four futures of one task share a
queue of at most 512 messages: `down` reads TCP and queues a padded frame for every chunk, `dummy`
queues empty frames, `up` reads the WebSocket, writes the payloads to TCP and queues a pong for
every ping, and the `writer` feeds what is queued to the WebSocket.  When TCP ends, a `Close` is
queued behind the data, and the writer and `up` go on for at most five seconds.

* §1 is what a message carries, on the way out and on the way in;
* §2 is the state machine.  A label says which future moves, and what the sockets, the timers and
  the random draws answered; whether the WebSocket takes a message is one of these answers;
* §3 is the one inversion of the step function, from which the invariants are derived.
-/
import BibaVpn.Lib.Lts
import BibaVpn.Tunnel.FrameCap

namespace BibaVpn.Tunnel.Bridge

open Machine Wire Lts

/-! ## 1. Messages and what they carry -/

/-- `TunnelEnd`. -/
inductive TunnelEnd
  | client
  | server
  deriving DecidableEq, Repr

/-- `SharedCrypto`: the ciphers of the two directions. -/
structure SharedCrypto where
  clientToServer : Aead
  serverToClient : Aead

/-- The arguments of `bridge_ws_tcp_padded` that do not only delay it. -/
structure Params where
  cfg : BridgeCfg
  crypto : Option SharedCrypto
  side : TunnelEnd
  wsPingSecs : Nat
  dummyIntervalSecs : Nat

/-- The cipher of what this end sends. -/
def Params.sealing (B : Params) : Option Aead :=
  B.crypto.map fun c => match B.side with
    | .client => c.clientToServer
    | .server => c.serverToClient

/-- The cipher of what the other end sends. -/
def Params.opening (B : Params) : Option Aead :=
  B.crypto.map fun c => match B.side with
    | .client => c.serverToClient
    | .server => c.clientToServer

/-- **The payload that a message carries**: what its frame opens and unpads to. -/
def carried (cipher : Option Aead) : Message → Bytes
  | .binary b =>
    match cipher with
    | some A => (openFrame A "decrypt" "unpad" b).toOption.getD []
    | none => (readPaddedFrame b).toOption.getD []
  | _ => []

/-- The branch `Message::Binary` of `up`: what it writes to TCP, or why it gives up. -/
def Params.openBinary (B : Params) (b : Bytes) : Except String Bytes :=
  if isOpenOk b then .ok []
  else match decodeOpenErr b with
    | .ok err => .error s!"remote OPEN failed: {err}"
    | .error _ =>
      if b.length > saturatingMul u64Max B.cfg.maxWsBinary 4 then
        .error s!"oversized WS binary from peer (>{saturatingMul u64Max B.cfg.maxWsBinary 4})"
      else match B.crypto, B.side with
        | some c, .client =>
          (openFrame c.serverToClient "v2 open s2c" "padded frame" b).bind fun inner =>
            (filterClientDownlink inner).map fun o => o.getD []
        | some c, .server => openFrame c.clientToServer "v2 open c2s" "padded frame" b
        | none, _ => (readPaddedFrame b).mapError fun _ => "padded frame"

/-- A frame carries the payload that it was made of. -/
theorem carried_frameBlob {cfg : BridgeCfg} {cipher : Option Aead} {adaptive : AdaptivePadState}
    {d : Draws} {payload blob : Bytes} {adaptive' : Option AdaptivePadState}
    (h : frameBlob cfg cipher adaptive d payload = .ok (blob, adaptive')) :
    carried cipher (.binary blob) = payload := by
  unfold frameBlob at h
  split at h
  · cases h
  · rename_i frame adaptive'' hnew
    cases cipher with
    | none =>
      cases h
      have hpay : frame.payload = payload := by
        unfold PreparedFrame.new at hnew
        split at hnew
        · cases hnew
          exact List.append_nil _
        · cases hnew
      simp only [carried, readPaddedFrame_toBytes, hpay]
      rfl
    | some A =>
      dsimp only at h
      split at h
      · cases h
      · rename_i blob' half hseal
        cases h
        have hmade : padAndSeal cfg ⟨A, d.ctr⟩ adaptive d.pad d.decoy payload =
            .ok (blob, half, adaptive') := by
          simp only [padAndSeal, hnew, hseal, Except.map]
        have hopen := SealedFrame.openFrame_blob
          (⟨payload, blob, _, _, _, _, _, rfl, hmade⟩ : SealedFrame A cfg) "decrypt" "unpad"
        simp only [carried, hopen]
        rfl

/-! ## 2. The state machine -/

/-- `WS_OUT_CAP`. -/
def wsOutCap : Nat := 512

/-- What `ws_rx.next()` yields. -/
inductive WsRead
  | message (m : Message)
  | failed
  | ended
  deriving DecidableEq, Repr

/-- One item of the loop of `up`: first the prefetched ones, then those of the WebSocket. -/
inductive Inbound
  | openedPayload (bytes : Bytes)
  | message (m : Message)
  | failed
  | ended
  deriving DecidableEq, Repr

def Inbound.ofPrefetch : WsBridgePrefetch → Inbound
  | .ws m => .message m
  | .openedPayload bytes => .openedPayload bytes

def Inbound.ofRead : WsRead → Inbound
  | .message m => .message m
  | .failed => .failed
  | .ended => .ended

/-- How the bridge returns. -/
inductive Ending
  | ok
  /-- feeding, flushing or reading the WebSocket failed -/
  | webSocket (what : String)
  /-- `CLOSE_TIMEOUT` has passed -/
  | timedOut (what : String)
  /-- the writer has dropped its end of the queue -/
  | queue (what : String)
  /-- reading or writing TCP failed -/
  | tcp
  /-- `up` was sent something that it does not take -/
  | up (why : String)
  | down (e : DownError)
  deriving DecidableEq, Repr

/-- Which futures the bridge polls. -/
inductive Phase
  /-- `select!` over all four -/
  | running
  /-- `up` has returned and `peer_closed_tx` was sent: the writer only -/
  | peerClosed
  /-- `down` has returned: `try_join!` of the close, the writer and `up` -/
  | closing
  | ended (e : Ending)
  deriving DecidableEq, Repr

/-- What a `flush` of the writer is for. -/
inductive Flushing
  | batch
  | ping
  | close
  | closeReply
  deriving DecidableEq, Repr

def Flushing.context : Flushing → String
  | .batch => "ws flush"
  | .ping => "ws ping"
  | .close => "ws close"
  | .closeReply => "ws close reply"

/-- Where the writer waits. -/
inductive Writer
  | select
  | ping
  | feed (m : Message)
  | flush (what : Flushing)
  | done
  deriving DecidableEq, Repr

/-- Where `up` waits. -/
inductive Up
  | next
  | writing (bytes : Bytes)
  | ponging (payload : Bytes)
  | done
  deriving DecidableEq, Repr

/-- Where `down` waits: before it packs the first chunk of `todo`, or reads if there is none, or
with a frame that it has packed. -/
inductive Down
  | loop (todo : List Bytes)
  | send (blob : Bytes) (todo : List Bytes)
  | done
  deriving DecidableEq, Repr

inductive Dummy
  | asleep
  | send (blob : Bytes)
  deriving DecidableEq, Repr

/-- What is of interest about a run. -/
inductive Event
  /-- the writer fed a message to the WebSocket -/
  | fed (m : Message)
  /-- `up` took the `Close` of the peer -/
  | peerClose
  deriving DecidableEq, Repr

structure State where
  phase : Phase
  writer : Writer
  up : Up
  down : Down
  downPad : AdaptivePadState
  dummy : Dummy
  dummyPad : AdaptivePadState
  queue : List Message
  /-- the `Close` was queued -/
  closeSent : Bool
  /-- what `up` has not taken yet -/
  inbox : List Inbound
  log : List Event
  /-- the bytes read from TCP -/
  received : Bytes
  /-- the bytes written to TCP -/
  written : Bytes

/-- Everything that `up` is given. -/
def inboxOf (prefetched : List WsBridgePrefetch) (stream : List WsRead) : List Inbound :=
  prefetched.map .ofPrefetch ++ stream.map .ofRead

def State.start (prefetched : List WsBridgePrefetch) (stream : List WsRead) : State :=
  { phase := .running, writer := .select, up := .next, down := .loop [], downPad := ⟨0⟩
    dummy := .asleep, dummyPad := ⟨0⟩, queue := [], closeSent := false
    inbox := inboxOf prefetched stream, log := [], received := [], written := [] }

/-- The bridge returns; the futures are dropped where they are. -/
def State.ends (s : State) (e : Ending) : State := { s with phase := .ended e }

/-- `ws_out_tx.send(m).await`: waits for room, and fails if the writer has returned. -/
def State.send (s : State) (what : String) (m : Message) (go : State → State) : Option State :=
  if s.writer = .done then some (s.ends (.queue what))
  else if s.queue.length < wsOutCap then some (go { s with queue := s.queue ++ [m] })
  else none

/-- `try_join!` has its three results. -/
def State.joined (s : State) : Phase :=
  if s.closeSent ∧ s.writer = .done ∧ s.up = .done then .ended .ok else s.phase

/-- The writer returns `Ok`.  Alone, its result is that of the bridge. -/
def State.writerDone (s : State) : State :=
  match s.phase with
  | .closing => { s with writer := .done, phase := { s with writer := .done }.joined }
  | _ => s.ends .ok

/-- `up` returns `Ok`.  In the `select!` this is what `peer_closed_tx` signals. -/
def State.upDone (s : State) : State :=
  match s.phase with
  | .running => { s with up := .done, phase := .peerClosed }
  | _ => { s with up := .done, phase := { s with up := .done }.joined }

/-- A message of a batch was fed: after a `Close` the writer leaves, else it goes on with what
`try_recv` yields. -/
def State.fed (s : State) (m : Message) : State :=
  if m = .close then { s with log := s.log ++ [.fed m], writer := .flush .close }
  else match s.queue with
    | next :: queue => { s with log := s.log ++ [.fed m], writer := .feed next, queue }
    | [] => { s with log := s.log ++ [.fed m], writer := .flush .batch }

/-- What `up` does with an item. -/
inductive Reaction
  /-- `write_all`, unless there is nothing to write -/
  | write (bytes : Bytes)
  | pong (payload : Bytes)
  /-- `break` on a `Close` -/
  | closed
  /-- `break` at the end of the stream -/
  | ended
  | fails (e : Ending)
  deriving DecidableEq, Repr

def Params.react (B : Params) : Inbound → Reaction
  | .openedPayload bytes => .write bytes
  | .message (.binary b) =>
    match B.openBinary b with
    | .ok bytes => .write bytes
    | .error why => .fails (.up why)
  | .message (.ping payload) => .pong payload
  | .message (.pong _) => .write []
  | .message (.text _) => .write []
  | .message .close => .closed
  | .failed => .fails (.webSocket "websocket read")
  | .ended => .ended

/-- The futures. -/
inductive Task
  | writer
  | up
  | down
  | dummy
  | close
  | timer
  deriving DecidableEq, Repr

def Phase.polls : Phase → Task → Bool
  | .running, .writer => true
  | .running, .up => true
  | .running, .down => true
  | .running, .dummy => true
  | .peerClosed, .writer => true
  | .peerClosed, .timer => true
  | .closing, .writer => true
  | .closing, .up => true
  | .closing, .close => true
  | .closing, .timer => true
  | _, _ => false

/-- What can happen. -/
inductive Act
  /-- the `select!` of the writer, and whether its ping timer has run out -/
  | select (timer : Bool)
  /-- `feed` returns -/
  | feed (ok : Bool)
  /-- `flush` returns -/
  | flush (ok : Bool)
  /-- `up` takes an item -/
  | next
  /-- `write_all` returns -/
  | write (ok : Bool)
  /-- `up` queues a pong -/
  | pong
  /-- `read` returns; an empty read is the end of TCP -/
  | read (bytes : Option Bytes)
  /-- `down` packs a chunk -/
  | pack (d : Draws)
  /-- `down` queues a frame -/
  | sendData
  /-- the `dummy` timer runs out, and an empty frame is packed -/
  | dummyPack (d : Draws)
  | dummySend
  /-- the `Close` is queued -/
  | close
  | timeout

def Act.task : Act → Task
  | .select _ => .writer
  | .feed _ => .writer
  | .flush _ => .writer
  | .next => .up
  | .write _ => .up
  | .pong => .up
  | .read _ => .down
  | .pack _ => .down
  | .sendData => .down
  | .dummyPack _ => .dummy
  | .dummySend => .dummy
  | .close => .close
  | .timeout => .timer

/-- `writer`.  Its `recv` never yields `None`: the bridge keeps a sender. -/
def Params.writerAct (B : Params) (s : State) : Act → Option State
  | .select timer =>
    if s.writer = .select then
      -- `biased`: the signal, then the queue, then the timer
      if s.phase = .peerClosed then some { s with writer := .flush .closeReply }
      else match s.queue with
        | m :: queue => some { s with writer := .feed m, queue }
        | [] => if timer ∧ 0 < B.wsPingSecs then some { s with writer := .ping } else none
    else none
  | .feed ok =>
    match s.writer with
    | .ping =>
      if ok then some { s with log := s.log ++ [.fed (.ping [])], writer := .flush .ping }
      else some (s.ends (.webSocket "ws ping"))
    | .feed m => if ok then some (s.fed m) else some (s.ends (.webSocket "ws feed"))
    | _ => none
  | .flush ok =>
    match s.writer with
    | .flush what =>
      if ok then
        match what with
        | .batch => some { s with writer := .select }
        | .ping => some { s with writer := .select }
        | .close => some s.writerDone
        | .closeReply => some s.writerDone
      else some (s.ends (.webSocket what.context))
    | _ => none
  | _ => none

/-- `up`. -/
def Params.upAct (B : Params) (s : State) : Act → Option State
  | .next =>
    match s.up, s.inbox with
    | .next, i :: inbox =>
      match B.react i with
      | .write bytes =>
        some { s with inbox, up := if bytes = [] then .next else .writing bytes }
      | .pong payload => some { s with inbox, up := .ponging payload }
      | .closed => some (State.upDone { s with inbox, log := s.log ++ [.peerClose] })
      | .ended => some (State.upDone { s with inbox })
      | .fails e => some (s.ends e)
    | _, _ => none
  | .write ok =>
    match s.up with
    | .writing bytes =>
      if ok then some { s with up := .next, written := s.written ++ bytes }
      else some (s.ends .tcp)
    | _ => none
  | .pong =>
    match s.up with
    | .ponging payload => s.send "ws pong" (.pong payload) fun s => { s with up := .next }
    | _ => none
  | _ => none

/-- `down`. -/
def Params.downAct (B : Params) (s : State) : Act → Option State
  | .read bytes =>
    if s.down = .loop [] then
      match bytes with
      | none => some (s.ends .tcp)
      | some [] => some { s with down := .done, phase := .closing }
      | some (b :: bs) =>
        if (b :: bs).length ≤ B.cfg.readCap B.crypto.isSome then
          some { s with
            received := s.received ++ b :: bs
            down := .loop (cut (B.cfg.maxChunk B.crypto.isSome) (b :: bs).length (b :: bs)) }
        else none
    else none
  | .pack d =>
    match s.down with
    | .loop (chunk :: todo) =>
      match frameBlob B.cfg B.sealing s.downPad d chunk with
      | .error e => some (s.ends (.down e))
      | .ok (blob, pad) =>
        if blob.length > B.cfg.maxWsBinary then
          some (s.ends (.down (.exceeds blob.length B.cfg.maxWsBinary)))
        else some { s with down := .send blob todo, downPad := pad.getD s.downPad }
    | _ => none
  | .sendData =>
    match s.down with
    | .send blob todo =>
      s.send "websocket send queue" (.binary blob) fun s => { s with down := .loop todo }
    | _ => none
  | _ => none

/-- `dummy`: whatever fails, it sleeps again.  (Sealing fails only when the counter is used up, and
then for good, so the padding state that is left behind is not looked at.) -/
def Params.dummyAct (B : Params) (s : State) : Act → Option State
  | .dummyPack d =>
    if s.dummy = .asleep ∧ B.dummyIntervalSecs ≠ 0 then
      match frameBlob B.cfg B.sealing s.dummyPad d [] with
      | .error _ => some s
      | .ok (blob, pad) =>
        if blob.length > B.cfg.maxWsBinary then some { s with dummyPad := pad.getD s.dummyPad }
        else some { s with dummy := .send blob, dummyPad := pad.getD s.dummyPad }
    else none
  | .dummySend =>
    match s.dummy with
    | .send blob =>
      if s.writer = .done then some { s with dummy := .asleep }
      else if s.queue.length < wsOutCap then
        some { s with dummy := .asleep, queue := s.queue ++ [.binary blob] }
      else none
    | _ => none
  | _ => none

/-- The close of `down`'s arm. -/
def State.closeAct (s : State) : Option State :=
  if s.closeSent = false then
    s.send "queue WS close" .close fun s => { s with closeSent := true }
  else none

/-- `CLOSE_TIMEOUT` in the two arms. -/
def State.timeoutAct (s : State) : State :=
  match s.phase with
  | .peerClosed => s.ends (.timedOut "WS close reply timed out")
  | _ => s.ends (.timedOut "WS close handshake timed out")

/-- **One step of the bridge.** -/
def Params.step (B : Params) (s : State) (a : Act) : Option State :=
  if s.phase.polls a.task then
    match a.task with
    | .writer => B.writerAct s a
    | .up => B.upAct s a
    | .down => B.downAct s a
    | .dummy => B.dummyAct s a
    | .close => s.closeAct
    | .timer => some s.timeoutAct
  else none

/-! ## 3. What a step does -/

/-- The failures. -/
inductive Stops (B : Params) (s : State) : Act → Ending → Prop
  | webSocket {a : Act} (what : String) : Stops B s a (.webSocket what)
  | timedOut {a : Act} (what : String) : Stops B s a (.timedOut what)
  /-- one of the futures that only the `select!` polls -/
  | running {a : Act} {e : Ending} (hrun : s.phase = .running) : Stops B s a e
  | unreadable {b : Bytes} {why : String} {inbox : List Inbound}
      (hi : s.inbox = .message (.binary b) :: inbox) (hb : B.openBinary b = .error why) :
      Stops B s .next (.up why)
  | unwritten : Stops B s (.write false) .tcp
  | latePong (hw : s.writer = .done) : Stops B s .pong (.queue "ws pong")
  | lateClose (hw : s.writer = .done) (hnew : s.closeSent = false) :
      Stops B s .close (.queue "queue WS close")

/-- **The steps.** -/
inductive Effect (B : Params) (s : State) : Act → State → Prop
  | reply {t : Bool} (hphase : s.phase = .peerClosed) (hw : s.writer = .select) :
      Effect B s (.select t) { s with writer := .flush .closeReply }
  | take {t : Bool} {m : Message} {queue : List Message} (hphase : s.phase ≠ .peerClosed)
      (hw : s.writer = .select) (hq : s.queue = m :: queue) :
      Effect B s (.select t) { s with writer := .feed m, queue }
  | ping {t : Bool} (hphase : s.phase ≠ .peerClosed) (hw : s.writer = .select)
      (hq : s.queue = []) : Effect B s (.select t) { s with writer := .ping }
  | fedPing (hw : s.writer = .ping) :
      Effect B s (.feed true)
        { s with log := s.log ++ [.fed (.ping [])], writer := .flush .ping }
  | fed {m : Message} (hw : s.writer = .feed m) : Effect B s (.feed true) (s.fed m)
  | flushed {what : Flushing} (hw : s.writer = .flush what) (hgo : what = .batch ∨ what = .ping) :
      Effect B s (.flush true) { s with writer := .select }
  | finished {what : Flushing} (hw : s.writer = .flush what)
      (hend : what = .close ∨ what = .closeReply) : Effect B s (.flush true) s.writerDone
  | takes {i : Inbound} {inbox : List Inbound} {bytes : Bytes} (hup : s.up = .next)
      (hi : s.inbox = i :: inbox) (hr : B.react i = .write bytes) :
      Effect B s .next { s with inbox, up := if bytes = [] then .next else .writing bytes }
  | pinged {payload : Bytes} {inbox : List Inbound} (hup : s.up = .next)
      (hi : s.inbox = .message (.ping payload) :: inbox) :
      Effect B s .next { s with inbox, up := .ponging payload }
  | closes {inbox : List Inbound} (hup : s.up = .next) (hi : s.inbox = .message .close :: inbox) :
      Effect B s .next (State.upDone { s with inbox, log := s.log ++ [.peerClose] })
  | streamEnds {inbox : List Inbound} (hup : s.up = .next) (hi : s.inbox = .ended :: inbox) :
      Effect B s .next (State.upDone { s with inbox })
  | writes {bytes : Bytes} (hup : s.up = .writing bytes) :
      Effect B s (.write true) { s with up := .next, written := s.written ++ bytes }
  | pongs {payload : Bytes} (hup : s.up = .ponging payload) (hw : s.writer ≠ .done) :
      Effect B s .pong { s with queue := s.queue ++ [.pong payload], up := .next }
  | reads {r : Bytes} (hrun : s.phase = .running) (hd : s.down = .loop []) :
      Effect B s (.read (some r)) { s with
        received := s.received ++ r
        down := .loop (cut (B.cfg.maxChunk B.crypto.isSome) r.length r) }
  | eof (hrun : s.phase = .running) (hd : s.down = .loop []) :
      Effect B s (.read (some [])) { s with down := .done, phase := .closing }
  | packs {d : Draws} {chunk blob : Bytes} {todo : List Bytes} {pad : AdaptivePadState}
      (hrun : s.phase = .running) (hd : s.down = .loop (chunk :: todo))
      (hb : carried B.sealing (.binary blob) = chunk) :
      Effect B s (.pack d) { s with down := .send blob todo, downPad := pad }
  | sends {blob : Bytes} {todo : List Bytes} (hrun : s.phase = .running)
      (hd : s.down = .send blob todo) :
      Effect B s .sendData { s with queue := s.queue ++ [.binary blob], down := .loop todo }
  | dozes {a : Act} {pad : AdaptivePadState} (ha : a.task = .dummy) :
      Effect B s a { s with dummy := .asleep, dummyPad := pad }
  | dummyPacks {d : Draws} {blob : Bytes} {pad : AdaptivePadState}
      (hb : carried B.sealing (.binary blob) = []) :
      Effect B s (.dummyPack d) { s with dummy := .send blob, dummyPad := pad }
  | dummySends {blob : Bytes} (hd : s.dummy = .send blob) :
      Effect B s .dummySend { s with dummy := .asleep, queue := s.queue ++ [.binary blob] }
  | closing (hphase : s.phase = .closing) (hw : s.writer ≠ .done) (hnew : s.closeSent = false) :
      Effect B s .close { s with queue := s.queue ++ [.close], closeSent := true }
  | stops {a : Act} {e : Ending} (h : Stops B s a e) : Effect B s a (s.ends e)

section Inversion

variable {B : Params} {s s' : State} {a : Act}

/-- A state in which the bridge has returned makes no step. -/
theorem live_of_step (h : B.step s a = some s') (e : Ending) : s.phase ≠ .ended e := by
  intro he
  unfold Params.step at h
  rw [he] at h
  cases h

/-- Queueing a message: it is queued, or the writer is gone. -/
theorem send_cases {what : String} {m : Message} {go : State → State}
    (h : s.send what m go = some s') :
    s.writer = .done ∧ s' = s.ends (.queue what) ∨
      s.writer ≠ .done ∧ s' = go { s with queue := s.queue ++ [m] } := by
  unfold State.send at h
  split at h
  · rename_i hw
    exact .inl ⟨hw, (Option.some.inj h).symm⟩
  · rename_i hw
    split at h
    · exact .inr ⟨hw, (Option.some.inj h).symm⟩
    · cases h

theorem writer_effect (h : B.writerAct s a = some s') : Effect B s a s' := by
  unfold Params.writerAct at h
  split at h
  · rename_i timer
    split at h
    · rename_i hw
      split at h
      · rename_i hphase
        cases h
        exact .reply hphase hw
      · rename_i hphase
        split at h
        · rename_i m queue hq
          cases h
          exact .take hphase hw hq
        · rename_i hq
          split at h
          · cases h
            exact .ping hphase hw hq
          · cases h
    · cases h
  · rename_i ok
    split at h
    · rename_i hw
      cases ok with
      | true => cases h; exact .fedPing hw
      | false => cases h; exact .stops (.webSocket _)
    · rename_i m hw
      cases ok with
      | true => cases h; exact .fed hw
      | false => cases h; exact .stops (.webSocket _)
    · cases h
  · rename_i ok
    split at h
    · rename_i what hw
      cases ok with
      | false => cases h; exact .stops (.webSocket _)
      | true =>
        cases what with
        | batch => cases h; exact .flushed hw (.inl rfl)
        | ping => cases h; exact .flushed hw (.inr rfl)
        | close => cases h; exact .finished hw (.inl rfl)
        | closeReply => cases h; exact .finished hw (.inr rfl)
    · cases h
  · cases h

/-- What `up` does with an item, by the item. -/
theorem react_cases (B : Params) (i : Inbound) :
    (∃ bytes, B.react i = .write bytes) ∨
    (∃ payload, i = .message (.ping payload) ∧ B.react i = .pong payload) ∨
    (i = .message .close ∧ B.react i = .closed) ∨
    (i = .ended ∧ B.react i = .ended) ∨
    (i = .failed ∧ B.react i = .fails (.webSocket "websocket read")) ∨
    ∃ b why, i = .message (.binary b) ∧ B.openBinary b = .error why ∧
      B.react i = .fails (.up why) := by
  cases i with
  | openedPayload bytes => exact .inl ⟨bytes, rfl⟩
  | failed => exact .inr (.inr (.inr (.inr (.inl ⟨rfl, rfl⟩))))
  | ended => exact .inr (.inr (.inr (.inl ⟨rfl, rfl⟩)))
  | message m =>
    cases m with
    | binary b =>
      cases hb : B.openBinary b with
      | ok bytes => exact .inl ⟨bytes, by simp only [Params.react, hb]⟩
      | error why =>
        exact .inr (.inr (.inr (.inr (.inr ⟨b, why, rfl, hb, by simp only [Params.react, hb]⟩))))
    | ping payload => exact .inr (.inl ⟨payload, rfl, rfl⟩)
    | pong payload => exact .inl ⟨[], rfl⟩
    | text t => exact .inl ⟨[], rfl⟩
    | close => exact .inr (.inr (.inl ⟨rfl, rfl⟩))

theorem up_effect (h : B.upAct s a = some s') : Effect B s a s' := by
  unfold Params.upAct at h
  split at h
  · split at h
    · rename_i i inbox hup hi
      rcases react_cases B i with ⟨bytes, hr⟩ | ⟨payload, rfl, hr⟩ | ⟨rfl, hr⟩ | ⟨rfl, hr⟩ |
        ⟨rfl, hr⟩ | ⟨b, why, rfl, hb, hr⟩ <;> rw [hr] at h <;> cases h
      · exact .takes hup hi hr
      · exact .pinged hup hi
      · exact .closes hup hi
      · exact .streamEnds hup hi
      · exact .stops (.webSocket _)
      · exact .stops (.unreadable hi hb)
    · cases h
  · rename_i ok
    split at h
    · rename_i bytes hup
      cases ok with
      | true => cases h; exact .writes hup
      | false => cases h; exact .stops .unwritten
    · cases h
  · split at h
    · rename_i payload hup
      rcases send_cases h with ⟨hw, rfl⟩ | ⟨hw, rfl⟩
      · exact .stops (.latePong hw)
      · exact .pongs hup hw
    · cases h
  · cases h

theorem down_effect (hrun : s.phase = .running) (h : B.downAct s a = some s') :
    Effect B s a s' := by
  unfold Params.downAct at h
  split at h
  · split at h
    · rename_i hd
      split at h
      · cases h
        exact .stops (.running hrun)
      · cases h
        exact .eof hrun hd
      · split at h
        · cases h
          exact .reads hrun hd
        · cases h
    · cases h
  · split at h
    · rename_i d chunk todo hd
      split at h
      · cases h
        exact .stops (.running hrun)
      · rename_i blob pad hb
        split at h
        · cases h
          exact .stops (.running hrun)
        · cases h
          exact .packs hrun hd (carried_frameBlob hb)
    · cases h
  · split at h
    · rename_i blob todo hd
      rcases send_cases h with ⟨-, rfl⟩ | ⟨-, rfl⟩
      · exact .stops (.running hrun)
      · exact .sends hrun hd
    · cases h
  · cases h

theorem dummy_effect (h : B.dummyAct s a = some s') : Effect B s a s' := by
  unfold Params.dummyAct at h
  split at h
  · split at h
    · rename_i hd
      split at h
      · cases h
        have hsame : s = { s with dummy := .asleep, dummyPad := s.dummyPad } := by rw [← hd.1]
        rw [hsame]
        exact .dozes rfl
      · rename_i blob pad hb
        split at h
        · cases h
          have hsame : ∀ p,
              { s with dummyPad := p } = { s with dummy := .asleep, dummyPad := p } := by
            intro p
            rw [← hd.1]
          rw [hsame]
          exact .dozes rfl
        · cases h
          exact .dummyPacks (carried_frameBlob hb)
    · cases h
  · split at h
    · rename_i blob hd
      split at h
      · cases h
        have hdoze : Effect B s .dummySend { s with dummy := .asleep, dummyPad := s.dummyPad } :=
          .dozes rfl
        exact hdoze
      · split at h
        · cases h
          exact .dummySends hd
        · cases h
    · cases h
  · cases h

/-- **Every step is one of these.** -/
theorem step_effect (h : B.step s a = some s') : Effect B s a s' := by
  unfold Params.step at h
  split at h
  · rename_i hpolls
    split at h
    · exact writer_effect h
    · exact up_effect h
    · rename_i htask
      rw [htask] at hpolls
      refine down_effect ?_ h
      cases hphase : s.phase with
      | running => rfl
      | _ => rw [hphase] at hpolls; cases hpolls
    · exact dummy_effect h
    · rename_i htask
      have hclosing : s.phase = .closing := by
        rw [htask] at hpolls
        cases hphase : s.phase with
        | closing => rfl
        | _ => rw [hphase] at hpolls; cases hpolls
      have ha : a = .close := by
        cases a with
        | close => rfl
        | _ => cases htask
      subst ha
      unfold State.closeAct at h
      split at h
      · rename_i hnew
        rcases send_cases h with ⟨hw, rfl⟩ | ⟨hw, rfl⟩
        · exact .stops (.lateClose hw hnew)
        · exact .closing hclosing hw hnew
      · cases h
    · cases h
      unfold State.timeoutAct
      split
      · exact .stops (.timedOut _)
      · exact .stops (.timedOut _)
  · cases h

end Inversion

end BibaVpn.Tunnel.Bridge
