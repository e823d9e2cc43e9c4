/-
# One end of a mux session: the `Endpoint`

`Endpoint` (`tcp_mux_flow.rs`) carries any number of streams over one WebSocket.  Its state is
shared by the tasks of the streams, the session's reader and the session's writer:

* `streams` maps a stream id to the flow registered under it.  A flow is a GENERATION of its id: the
  id can be used again while tasks and queued records of the old generation are still around, so
  everything that acts on a stream carries the flow itself and compares its `epoch`;
* the output lane takes `OPEN`, `DATA` and `CLOSE` and makes its senders wait; the control lane
  takes `WIN`, `RST` and pongs and never makes anyone wait: a full control lane ends the session;
* the writer takes records from both lanes in batches and looks at the registered generation before
  it passes a record on.

Here the generations that were ever created are kept in the list `gens`, and `streams`, the records
in the lanes and the hands of reader and writer refer to them by their place in that list.  Every
function below is one critical section of the source or, where the source takes a lock twice, one of
the two.  The peer is arbitrary: what it sends is in the label of the reader's step.
-/
import BibaVpn.Lib.Lts
import BibaVpn.Mux.Half
import BibaVpn.Wire.Control

namespace BibaVpn.Mux

open Machine Wire

/-! ## 1. The state -/

/-- `MAX_STREAMS`. -/
def maxStreams : Nat := 256

/-- `RECEIVE_BUDGET`. -/
def receiveBudget : Nat := 64 * 1024 * 1024

/-- `OUTPUT_BUDGET`. -/
def outputBudget : Nat := 8 * 1024 * 1024

/-- The capacity of both lanes. -/
def laneCapacity : Nat := 512

/-- The number of records the writer takes before it flushes. -/
def batchSize : Nat := 64

/-- `Record`: `gen` is its `flow`. -/
structure Rec where
  sid : Nat
  msg : Msg
  gen : Option Nat
  deriving DecidableEq, Repr

/-- `Output`. -/
inductive Output
  | record (r : Rec)
  | pong (payload : Bytes)
  deriving DecidableEq, Repr

/-- Where the task that owns a generation is. -/
inductive Task
  /-- in `open_stream`, sending `OPEN` under the admission guard -/
  | opening (target : Bytes) (acquired : Bool)
  /-- the server's task, connecting to the target -/
  | connecting
  | bridging
  /-- it has removed the stream and is about to queue `RST` -/
  | resetting
  | ended
  deriving DecidableEq, Repr

structure Gen where
  sid : Nat
  side : Side
  task : Task
  deriving DecidableEq, Repr

def Gen.epoch (g : Gen) : Nat := g.side.flow.epoch

def Gen.cancel (preserve : Bool) (g : Gen) : Gen := { g with side := g.side.cancel preserve }

/-- `Negotiation`. -/
inductive Negotiation
  | pending
  | legacy
  | credit (window : Nat)
  deriving DecidableEq, Repr

/-- The peer's window, once it is settled that there is one. -/
def Negotiation.window? : Negotiation → Option Nat
  | .credit window => some window
  | _ => none

/-- A record as the reader gets it. -/
structure Incoming where
  sid : Nat
  flags : UInt8
  payload : Bytes
  deriving DecidableEq, Repr

inductive ReaderPhase
  | idle
  /-- `get` returned the generation `gen` for this record -/
  | got (f : Incoming) (gen : Nat)
  /-- the flow refused the record: about to remove the stream -/
  | refused (f : Incoming) (gen : Nat)
  /-- an `OPEN` was rejected: about to look the id up -/
  | rejecting (sid : Nat)
  /-- about to queue `RST` -/
  | resetting (sid : Nat) (gen : Option Nat)
  deriving DecidableEq, Repr

/-- `n` counts the records the writer has handled in its batch. -/
inductive WriterPhase
  /-- waiting for either lane -/
  | select
  | batch (n : Nat)
  | took (n : Nat) (o : Output)
  /-- it has looked the id up: `current` was registered, and `valid` records whether the output of
  the record's own generation was valid at that moment -/
  | looked (n : Nat) (r : Rec) (current : Option Nat) (valid : Bool)
  deriving DecidableEq, Repr

/-- An `open_stream` that has its id and has not allocated yet; `target` is what
`encode_mux_open_target` returned. -/
structure PendingOpen where
  sid : Nat
  window : Option Nat
  target : Option Bytes
  pre : Bytes
  deriving DecidableEq, Repr

structure Endpoint where
  client : Bool
  window : MuxWindow
  chunk : ChunkSize
  streams : List (Nat × Nat)
  gens : List Gen
  output : List Rec
  control : List Output
  opens : List PendingOpen
  nextSid : Nat
  nextEpoch : Nat
  closed : Bool
  /-- `run` has not returned: reader, writer and the receiving ends of the lanes exist -/
  running : Bool
  negotiation : Negotiation
  reader : ReaderPhase
  writer : WriterPhase
  /-- what the writer has passed on and the peer has not read -/
  wire : List Rec
  /-- history: how many ids `open_stream` has taken -/
  issued : Nat
  /-- history: a `WIN` or `RST` found the control lane full -/
  exhausted : Bool

namespace Endpoint

/-- `Endpoint::new` with `run` just started: a client announces its window. -/
def new (client : Bool) (window : MuxWindow) (chunk : ChunkSize) : Endpoint where
  client := client
  window := window
  chunk := chunk
  streams := []
  gens := []
  output := []
  control := if client then [.record ⟨0, .cap 1 window.bytes, none⟩] else []
  opens := []
  nextSid := 1
  nextEpoch := 1
  closed := false
  running := true
  negotiation := .pending
  reader := .idle
  writer := .select
  wire := []
  issued := 0
  exhausted := false

/-! ## 2. The registry -/

/-- `Endpoint::get`. -/
def get (e : Endpoint) (sid : Nat) : Option Nat := e.streams.lookup sid

def epochOf (e : Endpoint) (i : Nat) : Option Nat := e.gens[i]?.map Gen.epoch

def setTask (e : Endpoint) (i : Nat) (task : Task) : Endpoint :=
  { e with gens := e.gens.modify i fun g => { g with task := task } }

def setSide (e : Endpoint) (i : Nat) (side : Side) : Endpoint :=
  { e with gens := e.gens.modify i fun g => { g with side := side } }

/-- `Endpoint::finish`: whether it removed the stream is the second component. -/
def finish (e : Endpoint) (sid epoch : Nat) (preserve : Bool) : Endpoint × Bool :=
  match e.get sid with
  | none => (e, false)
  | some i =>
    if e.epochOf i = some epoch then
      ({ e with
        streams := e.streams.filter fun s => s.1 ≠ sid
        gens := e.gens.modify i (Gen.cancel preserve) }, true)
    else (e, false)

/-- `Endpoint::remove`. -/
def remove (e : Endpoint) (sid epoch : Nat) : Endpoint × Bool := e.finish sid epoch false

/-- Whether a generation is in the registry. -/
def registered (e : Endpoint) (i : Nat) : Bool := e.streams.any fun s => s.2 = i

/-- `settle_negotiation_if_pending`. -/
def settle (e : Endpoint) (n : Negotiation) : Endpoint :=
  match e.negotiation with
  | .pending => { e with negotiation := n }
  | _ => e

/-- `Endpoint::shutdown`. -/
def shutdown (e : Endpoint) : Endpoint :=
  ({ e with
    closed := true
    streams := []
    gens := e.gens.mapIdx fun i g => if e.registered i then Gen.cancel false g else g }).settle
      .legacy

/-- `run` returns. -/
def stop (e : Endpoint) : Endpoint := { e.shutdown with running := false }

/-- A generation whose flow something still holds, with its share of the receive budget. -/
def holds (e : Endpoint) (i : Nat) : Bool :=
  e.registered i || (e.gens[i]?.map Gen.task) != some .ended ||
    e.output.any (fun r => r.gen = some i) ||
    e.control.any (fun o => match o with | .record r => r.gen = some i | .pong _ => false) ||
    (match e.reader with
      | .got _ j => i = j
      | .refused _ j => i = j
      | .resetting _ j => j = some i
      | _ => false) ||
    (match e.writer with
      | .took _ (.record r) => r.gen = some i
      | .looked _ r current _ => r.gen = some i || current = some i
      | _ => false)

def reserved (e : Endpoint) : Nat :=
  ((List.range e.gens.length).filter e.holds).length * e.window.bytes

/-- `Endpoint::allocate`, and the task that owns the new generation. -/
def allocate (e : Endpoint) (sid : Nat) (peerWindow : Option Nat) (pre : Bytes) (task : Task) :
    Except String Endpoint :=
  if e.closed then .error "tcp mux writer stopped"
  else if sid = 0 ∨ (e.get sid).isSome then .error "mux stream unavailable"
  else if e.streams.length ≥ maxStreams then .error "mux session admission capacity exhausted"
  else if e.reserved + e.window.bytes > receiveBudget then
    .error "mux session admission capacity exhausted"
  else .ok { e with
    nextEpoch := e.nextEpoch + 1
    gens := e.gens ++
      [⟨sid, Side.new (Flow.new e.nextEpoch peerWindow e.window.bytes) e.chunk.bytes pre, task⟩]
    streams := (sid, e.gens.length) :: e.streams }

/-! ## 3. The lanes -/

/-- The control lane takes one more. -/
def controlRoom (e : Endpoint) : Bool := e.running && e.control.length < laneCapacity

/-- `Endpoint::control` and `control.try_send`: `none` if the lane is full or closed. -/
def tryControl (e : Endpoint) (o : Output) : Option Endpoint :=
  if e.controlRoom then some { e with control := e.control ++ [o] } else none

/-- The lane was full, if it was there. -/
def noteExhausted (e : Endpoint) : Endpoint :=
  { e with exhausted := e.exhausted || e.running }

end Endpoint

/-- The bytes of the output budget that a record needs. -/
def Rec.cost (r : Rec) : Nat := r.msg.payload.length + 9

/-- The records that go through the output lane, under its budget. -/
def Msg.isOutput : Msg → Bool
  | .opening _ _ => true
  | .data _ => true
  | .close => true
  | _ => false

/-- The permits that a record in the writer's hand holds: one of the control lane holds none. -/
def Rec.permits (r : Rec) : Nat := if r.msg.isOutput then r.cost else 0

/-- The permits that the task of a generation holds for a record not yet in the lane. -/
def Gen.acquired (g : Gen) : Nat :=
  match g.task, g.side.up.phase with
  | .opening target true, _ => target.length + 9
  | .bridging, .sending payload _ true => payload.length + 9
  | .bridging, .closing true => 9
  | _, _ => 0

def Endpoint.outputUsed (e : Endpoint) : Nat :=
  (e.output.map Rec.cost).sum + (e.gens.map Gen.acquired).sum +
    match e.writer with
    | .took _ (.record r) => r.permits
    | .looked _ r _ _ => r.permits
    | _ => 0

/-- The output budget has `n` bytes. -/
def Endpoint.canAcquire (e : Endpoint) (n : Nat) : Bool :=
  !e.closed && e.outputUsed + n ≤ outputBudget

/-- The output lane takes one more. -/
def Endpoint.canEmit (e : Endpoint) : Bool := e.running && e.output.length < laneCapacity

/-! ## 4. The tasks of the streams -/

/-- What the endpoint lets an uplink do. -/
def Endpoint.allowsUp (e : Endpoint) (u : Uplink) : UpAction → Bool
  | .acquire =>
    match u.phase with
    | .sending payload _ _ => e.canAcquire (payload.length + 9)
    | _ => e.canAcquire 9
  | .emit => e.canEmit
  | .sendFailed => e.closed || !e.running
  | _ => true

/-- What it lets a downlink do. -/
def Endpoint.allowsDown (e : Endpoint) : DownAction → Bool
  | .publish => e.controlRoom
  | .publishFailed => !e.controlRoom
  | _ => true

/-- Both pumps, joined as `bridge` joins them, have ended well. -/
def Gen.joined (g : Gen) : Bool :=
  if g.side.flow.negotiated then
    decide (g.side.up.phase = .done) && decide (g.side.down.phase = .done)
  else decide (g.side.up.phase = .done) || decide (g.side.down.phase = .done)

def Gen.failed (g : Gen) : Bool := g.side.up.phase.isFailed || decide (g.side.down.phase = .failed)

/-- The closure `prepare` of `open_stream`. -/
def Endpoint.prepare (e : Endpoint) (p : PendingOpen) : Except String Endpoint :=
  if p.pre.length > e.window.bytes then .error "mux uplink prefix too large"
  else match p.target with
    | none => .error "host too long"
    | some target => e.allocate p.sid p.window p.pre (.opening target false)

/-- A pending `open_stream` prepares its stream; an error is its caller's and changes nothing. -/
def Endpoint.tryPrepare (e : Endpoint) (p : PendingOpen) : Endpoint :=
  (e.prepare p).toOption.getD e

/-- The task removes its stream without an error of its own. -/
def Endpoint.endTask (e : Endpoint) (i : Nat) (g : Gen) (preserve : Bool) : Endpoint :=
  (e.finish g.sid g.epoch preserve).1.setTask i .ended

/-- The task removes its stream; if it was still registered, a reset is due. -/
def Endpoint.failTask (e : Endpoint) (i : Nat) (g : Gen) : Endpoint :=
  let r := e.finish g.sid g.epoch false
  r.1.setTask i (if r.2 then .resetting else .ended)

/-- The task queues its reset, or ends the session. -/
def Endpoint.resetTask (e : Endpoint) (i : Nat) (g : Gen) : Endpoint :=
  match e.tryControl (.record ⟨g.sid, .rst, some i⟩) with
  | some e' => e'.setTask i .ended
  | none => (e.noteExhausted.shutdown).setTask i .ended

inductive TaskAction
  /-- `OPEN` has its output bytes -/
  | openAcquire
  /-- `OPEN` is in the output lane: the bridge is spawned -/
  | openEmit
  /-- `open_stream` is dropped or its send fails: the guard removes the stream -/
  | openDrop
  | connected
  | connectFailed
  /-- the connecting task sees the cancellation -/
  | connectCancelled
  | up (a : UpAction)
  | down (a : DownAction)
  /-- `bridge` ends without an error -/
  | complete
  /-- `bridge` ends with an error -/
  | fail
  | reset
  deriving DecidableEq, Repr

/-- One step of the task that owns generation `i`, which is `g`. -/
def Endpoint.taskStep (e : Endpoint) (i : Nat) (g : Gen) : TaskAction → Option Endpoint
  | .openAcquire =>
    match g.task with
    | .opening target false =>
      if e.canAcquire (target.length + 9) then some (e.setTask i (.opening target true)) else none
    | _ => none
  | .openEmit =>
    match g.task with
    | .opening target true =>
      if e.canEmit then
        let r : Rec := ⟨g.sid, .opening g.side.flow.negotiated target, some i⟩
        some ({ e with output := e.output ++ [r] }.setTask i .bridging)
      else none
    | _ => none
  | .openDrop =>
    match g.task with
    | .opening _ _ => some (e.endTask i g false)
    | _ => none
  | .connected => if g.task = .connecting then some (e.setTask i .bridging) else none
  | .connectFailed => if g.task = .connecting then some (e.failTask i g) else none
  | .connectCancelled =>
    if g.task = .connecting ∧ g.side.flow.cancelled then some (e.setTask i .ended) else none
  | .up a =>
    if g.task = .bridging ∧ e.allowsUp g.side.up a then
      (g.side.stepUp a).map fun r =>
        { e.setSide i r.1 with
          output := e.output ++ r.2.toList.map fun m => Rec.mk g.sid m (some i) }
    else none
  | .down a =>
    if g.task = .bridging ∧ e.allowsDown a then
      (g.side.stepDown a).map fun r =>
        { e.setSide i r.1 with
          control := e.control ++ r.2.toList.map fun m => Output.record (Rec.mk g.sid m (some i))
          exhausted := e.exhausted || (decide (a = .publishFailed) && e.running) }
    else none
  | .complete =>
    if g.task = .bridging ∧ (g.side.flow.cancelled ∨ g.joined) then some (e.endTask i g true)
    else none
  | .fail => if g.task = .bridging ∧ g.failed then some (e.failTask i g) else none
  | .reset => if g.task = .resetting then some (e.resetTask i g) else none

/-! ## 5. The reader -/

/-- `parse_capability`. -/
def parseCapability (payload : Bytes) (kind : UInt8) : Option Nat :=
  if payload.length ≠ 9 ∨ payload.take 4 ≠ capMagic ∨ payload[4]? ≠ some kind then none
  else
    let window := fromBe (payload.drop 5)
    if 0 < window ∧ window ≤ maxPeerWindow then some window else none

/-- The reader queues a record; if it cannot, its error ends the session. -/
def Endpoint.readerControl (e : Endpoint) (r : Rec) : Endpoint :=
  match e.tryControl (.record r) with
  | some e' => { e' with reader := .idle }
  | none => { e.noteExhausted with reader := .idle }.stop

/-- `dispatch` of a capability record. -/
def Endpoint.receiveCapability (e : Endpoint) (payload : Bytes) : Endpoint :=
  if e.client then
    match parseCapability payload 2 with
    | some window => e.settle (.credit window)
    | none => e
  else
    match parseCapability payload 1 with
    | some window =>
      { e with negotiation := .credit window }.readerControl ⟨0, .cap 2 e.window.bytes, none⟩
    | none => e

/-- The allocation for an `OPEN` with a valid target. -/
def Endpoint.allocateOpen (e : Endpoint) (f : Incoming) (peerWindow : Option Nat) :
    Option Endpoint :=
  match decodeMuxOpenTarget f.payload with
  | .ok _ => (e.allocate f.sid peerWindow [] .connecting).toOption
  | .error _ => none

/-- `dispatch` of `OPEN` at a server. -/
def Endpoint.receiveOpen (e : Endpoint) (f : Incoming) : Endpoint :=
  let admitted :=
    if hasFlag f.flags flagOpenCredit then
      match e.negotiation with
      | .credit window => e.allocateOpen f (some window)
      | _ => none
    else e.allocateOpen f none
  match admitted with
  | some e' => e'
  | none => { e with reader := .rejecting f.sid }

/-- `dispatch`, up to the flow: the reader takes one record. -/
def Endpoint.receive (e : Endpoint) (f : Incoming) : Endpoint :=
  if f.flags = flagWin ∧ f.sid = 0 then e.receiveCapability f.payload
  else if hasFlag f.flags flagOpen ∧ !e.client then e.receiveOpen f
  else match e.get f.sid with
    | some i => { e with reader := .got f i }
    | none =>
      if hasFlag f.flags flagData ∧ f.payload ≠ [] ∧ !e.client then
        e.readerControl ⟨f.sid, .rst, none⟩
      else e

inductive ReaderAction
  | receive (f : Incoming)
  /-- the record is applied to the flow -/
  | apply
  /-- the stream whose flow refused the record is removed -/
  | remove
  /-- `get` for the reset of a rejected `OPEN` -/
  | lookup
  /-- the reset is queued -/
  | reply
  | ping (payload : Bytes)
  deriving DecidableEq, Repr

def Endpoint.readerStep (e : Endpoint) : ReaderAction → Option Endpoint
  | .receive f => if e.reader = .idle then some (e.receive f) else none
  | .apply =>
    match e.reader with
    | .got f i =>
      match e.gens[i]? with
      | none => none
      | some g =>
        if hasFlag f.flags flagRst then
          some { (e.remove f.sid g.epoch).1 with reader := .idle }
        else match g.side.dispatch f.flags f.payload with
          | .ok side => some { e.setSide i side with reader := .idle }
          | .error _ => some { e with reader := .refused f i }
    | _ => none
  | .remove =>
    match e.reader with
    | .refused f i =>
      match e.gens[i]? with
      | none => none
      | some g =>
        let r := e.remove f.sid g.epoch
        some { r.1 with reader := if r.2 then .resetting f.sid (some i) else .idle }
    | _ => none
  | .lookup =>
    match e.reader with
    | .rejecting sid => some { e with reader := .resetting sid (e.get sid) }
    | _ => none
  | .reply =>
    match e.reader with
    | .resetting sid gen => some (e.readerControl ⟨sid, .rst, gen⟩)
    | _ => none
  | .ping payload =>
    if e.reader = .idle then
      match e.tryControl (.pong payload) with
      | some e' => some e'
      | none => some e.stop
    else none

/-! ## 6. The writer -/

/-- Whether the output of a record's own generation is valid. -/
def Endpoint.outputValid (e : Endpoint) (r : Rec) : Bool :=
  match r.gen with
  | none => true
  | some i => (e.gens[i]?.map fun g => g.side.flow.outputValid) == some true

/-- Whether the writer drops a record, given the generation it found registered.  A reset is for its
own generation, or for the absence of one. -/
def Endpoint.drops (e : Endpoint) (r : Rec) (current : Option Nat) : Bool :=
  if r.msg = .rst then
    match current, r.gen with
    | none, _ => false
    | some _, none => true
    | some c, some i => e.epochOf i != e.epochOf c
  else
    match r.gen with
    | none => false
    | some i =>
      !e.outputValid r ||
        match current with
        | none => false
        | some c => e.epochOf c != e.epochOf i

inductive WriterAction
  /-- `select!` takes from the control lane -/
  | selectControl
  | selectOutput
  /-- the next record of the batch, from the control lane if there is one -/
  | tryRecv
  /-- the batch is over: `flush` -/
  | flush
  | pong
  /-- `get` for the record in hand -/
  | lookup
  /-- the record is passed on, or dropped -/
  | pass
  deriving DecidableEq, Repr

def Endpoint.writerStep (e : Endpoint) : WriterAction → Option Endpoint
  | .selectControl =>
    match e.writer, e.control with
    | .select, o :: rest => some { e with control := rest, writer := .took 0 o }
    | _, _ => none
  | .selectOutput =>
    match e.writer, e.output with
    | .select, r :: rest => some { e with output := rest, writer := .took 0 (.record r) }
    | _, _ => none
  | .tryRecv =>
    match e.writer with
    | .batch n =>
      if n < batchSize then
        match e.control, e.output with
        | o :: rest, _ => some { e with control := rest, writer := .took n o }
        | [], r :: rest => some { e with output := rest, writer := .took n (.record r) }
        | [], [] => none
      else none
    | _ => none
  | .flush =>
    match e.writer with
    | .batch n =>
      if n = batchSize ∨ (e.control = [] ∧ e.output = []) then some { e with writer := .select }
      else none
    | _ => none
  | .pong =>
    match e.writer with
    | .took n (.pong _) => some { e with writer := .batch (n + 1) }
    | _ => none
  | .lookup =>
    match e.writer with
    | .took n (.record r) =>
      some { e with writer := .looked n r (e.get r.sid) (e.outputValid r) }
    | _ => none
  | .pass =>
    match e.writer with
    | .looked n r current _ =>
      if e.drops r current then some { e with writer := .batch (n + 1) }
      else some { e with writer := .batch (n + 1), wire := e.wire ++ [r] }
    | _ => none

/-! ## 7. One step of the endpoint -/

inductive Action
  /-- `open_stream` takes its id; the negotiation is settled -/
  | openFetch (target : Option Bytes) (pre : Bytes)
  /-- the `k`-th pending `open_stream` prepares its stream -/
  | openPrepare (k : Nat)
  | task (i : Nat) (a : TaskAction)
  | read (a : ReaderAction)
  | write (a : WriterAction)
  /-- `NEGOTIATION_WAIT` is over -/
  | timeout
  /-- `run` returns, for a reason outside the model -/
  | stop
  deriving DecidableEq, Repr

def Endpoint.step (e : Endpoint) : Action → Option Endpoint
  | .openFetch target pre =>
    if e.client ∧ e.negotiation ≠ .pending then
      some { e with
        nextSid := (e.nextSid + 1) % 2 ^ 32
        issued := e.issued + 1
        opens := e.opens ++ [⟨e.nextSid, e.negotiation.window?, target, pre⟩] }
    else none
  | .openPrepare k =>
    match e.opens[k]? with
    | none => none
    | some p => some ({ e with opens := e.opens.eraseIdx k }.tryPrepare p)
  | .task i a =>
    match e.gens[i]? with
    | none => none
    | some g => e.taskStep i g a
  | .read a => if e.running then e.readerStep a else none
  | .write a => if e.running then e.writerStep a else none
  | .timeout => if e.client then some (e.settle .legacy) else none
  | .stop => if e.running then some e.stop else none

end BibaVpn.Mux
