/-
# One stream at one end: the two pumps of `Endpoint::bridge`

`bridge` runs two loops over one `Flow` and one local socket.  The UPLINK reads the socket (after
an optional prefix that was read earlier), takes credit for a part of what it holds, and hands it
to the output lane as one `DATA` record; at EOF it hands over `CLOSE`.  The DOWNLINK takes a record
from the receive queue, writes it to the socket, counts it as consumed, and grants the peer new
credit with a `WIN` record when an eighth of the window is pending or the queue is empty.

Each loop is cut at its locks and at its awaits (`UpPhase`, `DownPhase`), so that the reader, the
writer and the other pump can run in between.  What the environment decides (how much a read
returns, how much a write takes, whether a queue has room) is in the label of the step.

§3 is the LOCAL invariant of an end, `Side.Inv`.  It holds whatever the peer sends: the credit
equation of the receiving half, and where every byte that came in or went out is.  The results
about two ends are this invariant on both sides, and what the lanes between them preserve.
-/
import BibaVpn.Mux.Flow

namespace BibaVpn.Mux

open Machine

/-! ## 1. The pumps -/

inductive UpPhase
  /-- at the head of the loop, about to read -/
  | reading
  /-- `offset < n`: about to take credit for `rest` -/
  | holding (rest : Bytes)
  /-- in `ready.await`: there was no credit -/
  | waiting (rest : Bytes)
  /-- in `send` with `payload`; `acquired` once the output bytes are granted -/
  | sending (payload rest : Bytes) (acquired : Bool)
  /-- in `send` with `CLOSE` -/
  | closing (acquired : Bool)
  | done
  /-- ended with an error; `unsent` bytes had been taken from the credit -/
  | failed (unsent : Nat)
  deriving DecidableEq, Repr

def UpPhase.isFailed : UpPhase → Bool
  | .failed _ => true
  | _ => false

/-- The uplink loop.  `source` and `emitted` are histories: the prefix and all that was read from
the socket, and the payload handed to the output lane. -/
structure Uplink where
  phase : UpPhase
  maxChunk : Nat
  /-- the part of the prefix that has not been read yet -/
  pre : Bytes
  source : Bytes
  emitted : Bytes
  deriving DecidableEq, Repr

inductive DownPhase
  /-- in `receive`, about to look at the queue -/
  | receiving
  /-- in `ready.await`: the queue was empty -/
  | waiting
  /-- in `write_all(data)`, `left` still to write -/
  | writing (data left : Bytes)
  /-- consumed; about to look whether the queue is empty -/
  | checking
  /-- about to raise the credit by all that is pending -/
  | raising
  /-- raised; about to queue the `WIN` -/
  | publishing (amount : Nat)
  /-- `receive` returned `None`: in `write.shutdown()` -/
  | closing
  | done
  | failed
  deriving DecidableEq, Repr

/-- The downlink loop.  `received` and `written` are histories: the payload accepted by `enqueue`,
and what was written to the socket; `sawFin` records that `receive` returned `None` on a stream
that was not cancelled. -/
structure Downlink where
  phase : DownPhase
  pending : Nat
  received : Bytes
  written : Bytes
  sawFin : Bool
  deriving DecidableEq, Repr

/-! ## 2. Their steps -/

inductive UpAction
  /-- read the next chunk of the prefix -/
  | readPre
  /-- the socket's `read` returns `bytes`; none is EOF -/
  | readSocket (bytes : Bytes)
  | readFailed
  | takeCredit
  | wake
  /-- the output bytes of the record are granted -/
  | acquire
  /-- the record enters the output lane -/
  | emit
  /-- the output side is closed -/
  | sendFailed
  deriving DecidableEq, Repr

def Uplink.goto (u : Uplink) (phase : UpPhase) : Uplink := { u with phase := phase }

/-- One step of the uplink: the loop and the flow it leaves, and the record it hands to the output
lane, if any. -/
def Uplink.step (u : Uplink) (f : Flow) : UpAction → Option (Uplink × Flow × Option Msg)
  | .readPre =>
    match u.phase, u.pre with
    | .reading, b :: bs =>
      some ({ u with
        phase := .holding ((b :: bs).take u.maxChunk), pre := (b :: bs).drop u.maxChunk }, f, none)
    | _, _ => none
  | .readSocket bytes =>
    match u.phase, u.pre with
    | .reading, [] =>
      if bytes.length ≤ u.maxChunk then
        some ({ u with
          phase := if bytes = [] then .closing false else .holding bytes
          source := u.source ++ bytes }, f, none)
      else none
    | _, _ => none
  | .readFailed =>
    match u.phase, u.pre with
    | .reading, [] => some (u.goto (.failed 0), f, none)
    | _, _ => none
  | .takeCredit =>
    match u.phase with
    | .holding rest =>
      if !f.negotiated then some (u.goto (.sending rest [] false), f, none)
      else if 0 < f.sendAvailable then
        let amount := min rest.length f.sendAvailable
        some (u.goto (.sending (rest.take amount) (rest.drop amount) false),
          { f with sendAvailable := f.sendAvailable - amount }, none)
      else some (u.goto (.waiting rest), f, none)
    | _ => none
  | .wake =>
    match u.phase with
    | .waiting rest =>
      if f.sendReady then some (u.goto (.holding rest), { f with sendReady := false }, none)
      else none
    | _ => none
  | .acquire =>
    match u.phase with
    | .sending payload rest false => some (u.goto (.sending payload rest true), f, none)
    | .closing false => some (u.goto (.closing true), f, none)
    | _ => none
  | .emit =>
    match u.phase with
    | .sending payload rest true =>
      some ({ u with
        phase := if rest = [] then .reading else .holding rest
        emitted := u.emitted ++ payload }, f, some (.data payload))
    | .closing true => some (u.goto .done, f, some .close)
    | _ => none
  | .sendFailed =>
    match u.phase with
    | .sending payload _ _ => some (u.goto (.failed payload.length), f, none)
    | .closing _ => some (u.goto (.failed 0), f, none)
    | _ => none

inductive DownAction
  | receive
  | wake
  /-- `n` more bytes are written -/
  | write (n : Nat)
  | writeFailed
  | consume
  | check
  | raise
  /-- `try_send` of the `WIN` succeeds -/
  | publish
  /-- `try_send` of the `WIN` fails -/
  | publishFailed
  | shutdown
  | shutdownFailed
  deriving DecidableEq, Repr

def Downlink.goto (d : Downlink) (phase : DownPhase) : Downlink := { d with phase := phase }

/-- One step of the downlink: the loop and the flow it leaves, and the record it hands to the
control lane, if any. -/
def Downlink.step (d : Downlink) (f : Flow) : DownAction → Option (Downlink × Flow × Option Msg)
  | .receive =>
    match d.phase, f.queue with
    | .receiving, data :: queue =>
      some (d.goto (.writing data data), { f with queue := queue }, none)
    | .receiving, [] =>
      if f.fin then
        some ({ d with phase := .closing, sawFin := d.sawFin || !f.cancelled }, f, none)
      else some (d.goto .waiting, f, none)
    | _, _ => none
  | .wake =>
    match d.phase with
    | .waiting =>
      if f.receiveReady then some (d.goto .receiving, { f with receiveReady := false }, none)
      else none
    | _ => none
  | .write n =>
    match d.phase with
    | .writing data left =>
      if n ≤ left.length then
        some ({ d with phase := .writing data (left.drop n), written := d.written ++ left.take n },
          f, none)
      else none
    | _ => none
  | .writeFailed =>
    match d.phase with
    | .writing _ _ => some (d.goto .failed, f, none)
    | _ => none
  | .consume =>
    match d.phase with
    | .writing data [] =>
      if f.negotiated then
        some ({ d with phase := .checking, pending := d.pending + data.length },
          f.consumed data.length, none)
      else some (d.goto .receiving, f.consumed data.length, none)
    | _ => none
  | .check =>
    match d.phase with
    | .checking =>
      if f.receiveLimit / 8 ≤ d.pending ∨ f.queue = [] then some (d.goto .raising, f, none)
      else some (d.goto .receiving, f, none)
    | _ => none
  | .raise =>
    match d.phase with
    | .raising =>
      match f.raiseCredit d.pending with
      | .ok g => some ({ d with phase := .publishing d.pending, pending := 0 }, g, none)
      | .error _ => some (d.goto .failed, f, none)
    | _ => none
  | .publish =>
    match d.phase with
    | .publishing amount => some (d.goto .receiving, f, some (.win amount))
    | _ => none
  | .publishFailed =>
    match d.phase with
    | .publishing _ => some (d.goto .failed, f.cancel false, none)
    | _ => none
  | .shutdown =>
    match d.phase with
    | .closing => some (d.goto .done, f, none)
    | _ => none
  | .shutdownFailed =>
    match d.phase with
    | .closing => some (d.goto .failed, f, none)
    | _ => none

/-- One stream at one end. -/
structure Side where
  flow : Flow
  up : Uplink
  down : Downlink
  deriving DecidableEq, Repr

/-- A stream whose pumps have not moved yet. -/
def Side.new (flow : Flow) (maxChunk : Nat) (pre : Bytes) : Side where
  flow := flow
  up := ⟨.reading, maxChunk, pre, pre, []⟩
  down := ⟨.receiving, 0, [], [], false⟩

def Side.stepUp (s : Side) (a : UpAction) : Option (Side × Option Msg) :=
  (s.up.step s.flow a).map fun r => ({ s with up := r.1, flow := r.2.1 }, r.2.2)

def Side.stepDown (s : Side) (a : DownAction) : Option (Side × Option Msg) :=
  (s.down.step s.flow a).map fun r => ({ s with down := r.1, flow := r.2.1 }, r.2.2)

/-- The reader's half for a registered stream: `dispatch` of a record other than a reset. -/
def Side.dispatch (s : Side) (flags : UInt8) (payload : Bytes) : Except String Side :=
  (s.flow.dispatch flags payload).map fun flow =>
    { s with
      flow := flow
      down := { s.down with
        received := if flags ≠ flagWin ∧ hasFlag flags flagData then s.down.received ++ payload
          else s.down.received } }

/-- Cancelling the stream at this end. -/
def Side.cancel (s : Side) (preserveOutput : Bool) : Side :=
  { s with flow := s.flow.cancel preserveOutput }

/-! ## 3. The local invariant -/

/-- What the uplink holds and has not handed over. -/
def Uplink.held (u : Uplink) : Bytes :=
  match u.phase with
  | .holding rest => rest
  | .waiting rest => rest
  | .sending payload rest _ => payload ++ rest
  | _ => []

/-- The credit it has taken for bytes it has not handed over. -/
def Uplink.taken (u : Uplink) : Nat :=
  match u.phase with
  | .sending payload _ _ => payload.length
  | .failed unsent => unsent
  | _ => 0

/-- What the downlink has still to write of the record in hand. -/
def Downlink.left (d : Downlink) : Bytes :=
  match d.phase with
  | .writing _ left => left
  | _ => []

/-- The length of the record in hand. -/
def Downlink.inHand (d : Downlink) : Nat :=
  match d.phase with
  | .writing data _ => data.length
  | _ => 0

/-- The amount of a `WIN` that is granted and not yet in the lane. -/
def Downlink.granting (d : Downlink) : Nat :=
  match d.phase with
  | .publishing amount => amount
  | _ => 0

/-- The uplink and the credit it sends under.  `flow`: until it fails, everything it read is handed
over, in hand, or still in the prefix. -/
structure Uplink.Inv (u : Uplink) (f : Flow) : Prop where
  available : f.sendAvailable ≤ f.sendLimit
  chunk_pos : 1 ≤ u.maxChunk
  flow : (∀ n, u.phase ≠ .failed n) → u.emitted ++ u.held ++ u.pre = u.source
  emitted_le : u.emitted <+: u.source
  holding : ∀ rest, u.phase = .holding rest ∨ u.phase = .waiting rest → rest ≠ []
  sending : ∀ payload rest acquired, u.phase = .sending payload rest acquired → payload ≠ []
  ended : (∃ acquired, u.phase = .closing acquired) ∨ u.phase = .done → u.pre = []

/-- The downlink and the window it receives under. -/
structure Downlink.Inv (d : Downlink) (f : Flow) : Prop where
  limit : f.receiveLimit ≤ u32Max
  credit : f.credit + f.bytes + d.pending = f.receiveLimit
  bytes : f.queue.flatten.length + d.inHand ≤ f.bytes
  records : ∀ q ∈ f.queue, q ≠ []
  inHand : ∀ data left, d.phase = .writing data left → data ≠ []
  pending : d.phase = .checking ∨ d.phase = .raising → 0 < d.pending
  granting : ∀ amount, d.phase = .publishing amount → 0 < amount ∧ amount ≤ f.receiveLimit
  cancelled : f.cancelled = true → f.queue = []
  written_le : (d.written ++ d.left) <+: d.received
  flow : f.cancelled = false → d.phase ≠ .failed →
    d.written ++ d.left ++ f.queue.flatten = d.received
  fin : d.sawFin = true →
    f.fin = true ∧ d.written = d.received ∧
      (d.phase = .closing ∨ d.phase = .done ∨ d.phase = .failed)

structure Side.Inv (s : Side) : Prop where
  up : s.up.Inv s.flow
  down : s.down.Inv s.flow

variable {f g f' : Flow} {u u' : Uplink} {o : Option Msg} {d d' : Downlink} {s : Side}
  {payload : Bytes}

theorem Uplink.Inv.new (hf : f.sendAvailable ≤ f.sendLimit) {maxChunk : Nat} (hc : 1 ≤ maxChunk)
    (pre : Bytes) : Uplink.Inv ⟨.reading, maxChunk, pre, pre, []⟩ f where
  available := hf
  chunk_pos := hc
  flow _ := rfl
  emitted_le := List.nil_prefix
  holding := by simp
  sending := by simp
  ended := by simp

theorem Downlink.Inv.new (epoch : Nat) (peer : Option Nat) {window : Nat} (hw : window ≤ u32Max) :
    Downlink.Inv ⟨.receiving, 0, [], [], false⟩ (Flow.new epoch peer window) where
  limit := hw
  credit := rfl
  bytes := Nat.le_refl 0
  records := by simp [Flow.new]
  inHand := by simp
  pending := by simp
  granting := by simp
  cancelled := by simp [Flow.new]
  written_le := List.nil_prefix
  flow _ _ := rfl
  fin := by simp

theorem Side.Inv.new (epoch : Nat) (peer : Option Nat) {window maxChunk : Nat}
    (hw : window ≤ u32Max) (hc : 1 ≤ maxChunk) (pre : Bytes) :
    (Side.new (Flow.new epoch peer window) maxChunk pre).Inv :=
  ⟨Uplink.Inv.new (Nat.le_refl _) hc pre, Downlink.Inv.new epoch peer hw⟩

/-- The part of the flow that the uplink's invariant reads. -/
theorem Uplink.Inv.congr (h : u.Inv f) (ha : g.sendAvailable = f.sendAvailable)
    (hl : g.sendLimit = f.sendLimit) : u.Inv g :=
  { h with available := by rw [ha, hl]; exact h.available }

/-! ## 4. What a step of the uplink does -/

/-- The payload length of a record that carries data. -/
def Msg.dataLen : Msg → Nat
  | .data payload => payload.length
  | _ => 0

/-- The amount of a record that grants credit. -/
def Msg.winAmount : Msg → Nat
  | .win amount => amount
  | _ => 0

def optSum (size : Msg → Nat) : Option Msg → Nat
  | none => 0
  | some m => size m

/-- **Everything a step of the uplink can do.**  It keeps the invariant; it touches only the send
half of the flow; the credit taken and left changes exactly by the data handed over; and it hands
over nothing, or the next bytes of the source, or, once, `CLOSE`. -/
structure Uplink.StepSpec (u : Uplink) (f : Flow) (u' : Uplink) (f' : Flow) (o : Option Msg) :
    Prop where
  inv : u'.Inv f'
  frame : f' = { f with sendAvailable := f'.sendAvailable, sendReady := f'.sendReady }
  balance : f.negotiated = true →
    f.sendAvailable + u.taken = f'.sendAvailable + u'.taken + optSum Msg.dataLen o
  running : u.phase ≠ .done
  emits : (o = none ∧ u'.emitted = u.emitted ∧ u'.phase ≠ .done) ∨
    (∃ payload, o = some (.data payload) ∧ payload ≠ [] ∧ u'.emitted = u.emitted ++ payload ∧
      u'.phase ≠ .done) ∨
    (o = some .close ∧ u'.emitted = u.emitted ∧ u'.emitted = u'.source ∧ u'.phase = .done)

/-- What the phase of an uplink says about the bytes in it. -/
def UpPhase.Ok (pre : Bytes) : UpPhase → Prop
  | .holding rest => rest ≠ []
  | .waiting rest => rest ≠ []
  | .sending payload _ _ => payload ≠ []
  | .closing _ => pre = []
  | .done => pre = []
  | _ => True

def UpPhase.runs : UpPhase → Bool
  | .done => false
  | .failed _ => false
  | _ => true

namespace Uplink

theorem Inv.ok (hI : u.Inv f) : u.phase.Ok u.pre := by
  cases hph : u.phase with
  | holding rest => exact hI.holding rest (Or.inl hph)
  | waiting rest => exact hI.holding rest (Or.inr hph)
  | sending payload rest acquired => exact hI.sending payload rest acquired hph
  | closing acquired => exact hI.ended (Or.inl ⟨acquired, hph⟩)
  | done => exact hI.ended (Or.inr hph)
  | _ => trivial

theorem Inv.of_ok (hav : f.sendAvailable ≤ f.sendLimit) (hc : 1 ≤ u.maxChunk)
    (hflow : (∀ n, u.phase ≠ .failed n) → u.emitted ++ u.held ++ u.pre = u.source)
    (hle : u.emitted <+: u.source) (hok : u.phase.Ok u.pre) : u.Inv f where
  available := hav
  chunk_pos := hc
  flow := hflow
  emitted_le := hle
  holding rest h := by rcases h with h | h <;> exact (h ▸ hok :)
  sending payload rest acquired h := (h ▸ hok :)
  ended h := by rcases h with ⟨acquired, h⟩ | h <;> exact (h ▸ hok :)

variable {p : UpPhase}

theorem Inv.flow_of_runs (hI : u.Inv f) (hph : u.phase = p) (hrun : p.runs = true) :
    u.emitted ++ (u.goto p).held ++ u.pre = u.source := by
  subst hph
  exact hI.flow fun n hn => by rw [hn] at hrun; cases hrun

/-- A step that hands nothing over: it reads `new` bytes, and all that it has is still in hand. -/
theorem Inv.spec_quiet {new : Bytes} {avail : Nat} {ready : Bool} (hI : u.Inv f)
    (hph : u.phase = p) (hrun : p.runs = true)
    (hsame : u'.maxChunk = u.maxChunk ∧ u'.emitted = u.emitted ∧ u'.source = u.source ++ new)
    (hhand : u'.held ++ u'.pre = (u.goto p).held ++ u.pre ++ new) (hok : u'.phase.Ok u'.pre)
    (hdone : u'.phase ≠ .done) (hav : avail ≤ f.sendAvailable)
    (hbal : f.negotiated = true → f.sendAvailable + (u.goto p).taken = avail + u'.taken) :
    u.StepSpec f u' { f with sendAvailable := avail, sendReady := ready } none := by
  obtain ⟨hchunk, hem, hsrc⟩ := hsame
  have hflow := hI.flow_of_runs hph hrun
  subst hph
  exact {
    inv := .of_ok (Nat.le_trans hav hI.available) (hchunk ▸ hI.chunk_pos)
      (fun _ => by rw [hem, hsrc, List.append_assoc, hhand, ← hflow]; simp only [List.append_assoc])
      (by rw [hem, hsrc]; exact hI.emitted_le.trans (List.prefix_append _ _)) hok
    frame := rfl
    balance := hbal
    running := fun hd => by rw [hd] at hrun; cases hrun
    emits := Or.inl ⟨rfl, hem, hdone⟩ }

/-- A step that only moves to another phase, with the same bytes in hand. -/
theorem Inv.spec_goto {p ph : UpPhase} {avail : Nat} {ready : Bool} (hI : u.Inv f)
    (hph : u.phase = p) (hrun : p.runs = true) (hheld : (u.goto ph).held = (u.goto p).held)
    (hok : p.Ok u.pre → ph.Ok u.pre) (hdone : ph ≠ .done) (hav : avail ≤ f.sendAvailable)
    (hbal : f.negotiated = true →
      f.sendAvailable + (u.goto p).taken = avail + (u.goto ph).taken) :
    u.StepSpec f (u.goto ph) { f with sendAvailable := avail, sendReady := ready } none :=
  hI.spec_quiet hph hrun ⟨rfl, rfl, (List.append_nil _).symm⟩
    (by rw [hheld, List.append_nil]; rfl) (hok (hph ▸ hI.ok)) hdone hav hbal

/-- The ways to fail: the source stops growing, and the credit taken stays counted. -/
theorem Inv.spec_failed (hI : u.Inv f) (hph : u.phase = p) (hrun : p.runs = true) :
    u.StepSpec f (u.goto (.failed (u.goto p).taken)) f none where
  inv := .of_ok hI.available hI.chunk_pos (fun h => absurd rfl (h _)) hI.emitted_le trivial
  frame := rfl
  balance _ := by subst hph; rfl
  running hd := by rw [← hph, hd] at hrun; cases hrun
  emits := Or.inl ⟨rfl, rfl, by simp [goto]⟩

theorem Inv.spec_emit {rest : Bytes} (hI : u.Inv f) (hph : u.phase = .sending payload rest true)
    (hok : p.Ok u.pre) (hheld : (u.goto p).held = rest) (hfree : (u.goto p).taken = 0)
    (hdone : p ≠ .done) :
    u.StepSpec f { u with phase := p, emitted := u.emitted ++ payload } f
      (some (.data payload)) := by
  have hflow := hI.flow_of_runs hph rfl
  have hsplit : u.emitted ++ payload ++ rest ++ u.pre = u.source := by
    rw [← hflow]
    simp only [held, goto, List.append_assoc]
  exact {
    inv := .of_ok hI.available hI.chunk_pos (fun _ => hheld ▸ hsplit)
      ⟨rest ++ u.pre, by rw [← hsplit, List.append_assoc (_ ++ _)]⟩ hok
    frame := rfl
    balance := fun _ => by
      rw [show taken { u with phase := p, emitted := u.emitted ++ payload } = 0 from hfree]
      simp [taken, hph, optSum, Msg.dataLen]
    running := by simp [hph]
    emits := Or.inr (Or.inl ⟨payload, rfl, hI.sending _ _ _ hph, rfl, hdone⟩) }

theorem Inv.spec_close (hI : u.Inv f) (hph : u.phase = .closing true) :
    u.StepSpec f (u.goto .done) f (some .close) := by
  have hflow := hI.flow_of_runs hph rfl
  have hpre := hI.ended (Or.inl ⟨true, hph⟩)
  exact {
    inv := .of_ok hI.available hI.chunk_pos (fun _ => hflow) hI.emitted_le hpre
    frame := rfl
    balance := fun _ => by simp [taken, goto, hph, optSum, Msg.dataLen]
    running := by simp [hph]
    emits := Or.inr (Or.inr ⟨rfl, rfl, by simpa [held, goto, hpre] using hflow, rfl⟩) }

theorem step_spec {a : UpAction} (hI : u.Inv f) (h : u.step f a = some (u', f', o)) :
    u.StepSpec f u' f' o := by
  revert h
  fun_cases step u f a <;> intro h <;> cases h
  · -- the prefix
    rename_i b bs hpre hph
    have hsrc : u.source = u.source ++ [] := (List.append_nil _).symm
    refine hI.spec_quiet hph rfl ⟨rfl, rfl, hsrc⟩ ?_ ?_ (by simp) (Nat.le_refl _) fun _ => rfl
    · simp [held, goto, hpre]
    · have hpos := hI.chunk_pos
      simp only [UpPhase.Ok, ne_eq, List.take_eq_nil_iff, reduceCtorEq, or_false]
      omega
  · -- the socket
    rename_i bytes hpre hph hlen
    by_cases hb : bytes = []
    · subst hb
      exact hI.spec_quiet hph rfl ⟨rfl, rfl, rfl⟩ (by simp [held, goto]) hpre
        (by simp) (Nat.le_refl _) fun _ => rfl
    · rw [if_neg hb]
      exact hI.spec_quiet hph rfl ⟨rfl, rfl, rfl⟩ (by simp [held, goto, hpre]) hb
        (by simp) (Nat.le_refl _) fun _ => rfl
  · exact hI.spec_failed ‹_› rfl
  · -- credit: none is needed, some is taken, or there is none
    rename_i rest hph hneg
    exact hI.spec_goto hph rfl (List.append_nil _) id (by simp) (Nat.le_refl _)
      fun hn => by simp [hn] at hneg
  · rename_i rest hph hneg hav amount
    have hmin : (rest.take amount).length = amount := List.length_take_of_le (Nat.min_le_left _ _)
    refine hI.spec_goto hph rfl (List.take_append_drop _ _) (fun hne hnil => ?_) (by simp)
      (Nat.sub_le _ _) fun _ => ?_
    · have hpos := List.length_pos_iff.mpr hne
      rw [hnil, List.length_nil] at hmin
      omega
    · show f.sendAvailable + 0 = f.sendAvailable - amount + (rest.take amount).length
      omega
  · rename_i hph _ _
    exact hI.spec_goto hph rfl rfl id (by simp) (Nat.le_refl _) fun _ => rfl
  · rename_i hph _
    exact hI.spec_goto hph rfl rfl id (by simp) (Nat.le_refl _) fun _ => rfl
  · rename_i hph
    exact hI.spec_goto hph rfl rfl id (by simp) (Nat.le_refl _) fun _ => rfl
  · rename_i hph
    exact hI.spec_goto hph rfl rfl id (by simp) (Nat.le_refl _) fun _ => rfl
  · -- a record is handed over
    rename_i payload rest hph
    by_cases hr : rest = []
    · subst hr
      exact hI.spec_emit hph trivial rfl rfl (by simp)
    · rw [if_neg hr]
      exact hI.spec_emit hph hr rfl rfl (by simp)
  · exact hI.spec_close ‹_›
  · exact hI.spec_failed ‹_› rfl
  · exact hI.spec_failed ‹_› rfl

end Uplink

/-! ## 5. What a step of the downlink does -/

/-- The fields that the downlink leaves alone. -/
structure Flow.KeepsSend (f g : Flow) : Prop where
  epoch : g.epoch = f.epoch
  negotiated : g.negotiated = f.negotiated
  sendLimit : g.sendLimit = f.sendLimit
  sendAvailable : g.sendAvailable = f.sendAvailable
  sendReady : g.sendReady = f.sendReady
  receiveLimit : g.receiveLimit = f.receiveLimit
  fin : g.fin = f.fin

/-- **Everything a step of the downlink can do.**  It keeps the invariant and the send half of the
flow; on a stream that it does not cancel, what is queued, consumed and granted changes exactly by
the credit handed over; the histories only grow; and it hands over nothing, or a positive `WIN`. -/
structure Downlink.StepSpec (d : Downlink) (f : Flow) (d' : Downlink) (f' : Flow)
    (o : Option Msg) : Prop where
  inv : d'.Inv f'
  frame : f.KeepsSend f'
  queue_le : f'.queue.length ≤ f.queue.length
  status : (f'.cancelled = f.cancelled ∧ f'.outputValid = f.outputValid) ∨
    (f'.cancelled = true ∧ f'.outputValid = false)
  balance_le : f.negotiated = true →
    f'.bytes + d'.pending + d'.granting + optSum Msg.winAmount o ≤ f.bytes + d.pending + d.granting
  balance : f.negotiated = true → f'.cancelled = false →
    f'.bytes + d'.pending + d'.granting + optSum Msg.winAmount o = f.bytes + d.pending + d.granting
  received : d'.received = d.received
  written : d.written <+: d'.written
  emits : o = none ∨ ∃ amount, o = some (.win amount) ∧ 0 < amount ∧ amount ≤ u32Max

/-- What the phase of a downlink says about what is in it. -/
def DownPhase.Ok (pending limit : Nat) : DownPhase → Prop
  | .writing data _ => data ≠ []
  | .checking => 0 < pending
  | .raising => 0 < pending
  | .publishing amount => 0 < amount ∧ amount ≤ limit
  | _ => True

def DownPhase.running : DownPhase → Bool
  | .closing => false
  | .done => false
  | .failed => false
  | _ => true

namespace Downlink

theorem Inv.ok (hI : d.Inv f) : d.phase.Ok d.pending f.receiveLimit := by
  cases hph : d.phase with
  | writing data left => exact hI.inHand data left hph
  | checking => exact hI.pending (Or.inl hph)
  | raising => exact hI.pending (Or.inr hph)
  | publishing amount => exact hI.granting amount hph
  | _ => trivial

theorem Inv.of_ok (hlimit : f.receiveLimit ≤ u32Max)
    (hcredit : f.credit + f.bytes + d.pending = f.receiveLimit)
    (hbytes : f.queue.flatten.length + d.inHand ≤ f.bytes) (hrec : ∀ q ∈ f.queue, q ≠ [])
    (hok : d.phase.Ok d.pending f.receiveLimit) (hcan : f.cancelled = true → f.queue = [])
    (hle : (d.written ++ d.left) <+: d.received)
    (hflow : f.cancelled = false → d.phase ≠ .failed →
      d.written ++ d.left ++ f.queue.flatten = d.received)
    (hfin : d.sawFin = true → f.fin = true ∧ d.written = d.received ∧
      (d.phase = .closing ∨ d.phase = .done ∨ d.phase = .failed)) : d.Inv f where
  limit := hlimit
  credit := hcredit
  bytes := hbytes
  records := hrec
  inHand data left h := (h ▸ hok :)
  pending h := by rcases h with h | h <;> exact (h ▸ hok :)
  granting amount h := (h ▸ hok :)
  cancelled := hcan
  written_le := hle
  flow := hflow
  fin := hfin

variable {p : DownPhase}

/-- While the loop still runs it has not seen FIN. -/
theorem Inv.no_fin {A : Prop} (hI : d.Inv f) (hph : d.phase = p) (hrun : p.running = true)
    (hs : d.sawFin = true) : A := by
  subst hph
  rcases (hI.fin hs).2.2 with h | h | h <;> rw [h] at hrun <;> cases hrun

/-- A step that leaves the queue as it is, and has the same bytes written or in hand. -/
theorem Inv.spec_quiet (hI : d.Inv f) (hph : d.phase = p) (hne : p ≠ .failed)
    (hframe : f.KeepsSend f')
    (hflow : f'.queue = f.queue ∧ f'.cancelled = f.cancelled ∧ f'.outputValid = f.outputValid)
    (hrec : d'.received = d.received) (hwr : d.written <+: d'.written)
    (hhand : d'.written ++ d'.left = d.written ++ (d.goto p).left)
    (hok : d'.phase.Ok d'.pending f.receiveLimit)
    (hcredit : f'.credit + f'.bytes + d'.pending = f.receiveLimit)
    (hbytes : f.queue.flatten.length + d'.inHand ≤ f'.bytes)
    (hfin : d'.sawFin = true → f.fin = true ∧ d'.written = d'.received ∧
      (d'.phase = .closing ∨ d'.phase = .done ∨ d'.phase = .failed))
    (hbal : f.negotiated = true → f'.bytes + d'.pending + d'.granting + optSum Msg.winAmount o =
      f.bytes + d.pending + (d.goto p).granting)
    (hem : o = none ∨ ∃ amount, o = some (.win amount) ∧ 0 < amount ∧ amount ≤ u32Max) :
    d.StepSpec f d' f' o := by
  obtain ⟨hq, hcan, hval⟩ := hflow
  subst hph
  exact {
    inv := .of_ok (hframe.receiveLimit ▸ hI.limit) (hcredit.trans hframe.receiveLimit.symm)
      (hq ▸ hbytes) (hq ▸ hI.records) (hframe.receiveLimit ▸ hok)
      (by rw [hcan, hq]; exact hI.cancelled) (by rw [hhand, hrec]; exact hI.written_le)
      (fun hc _ => by rw [hhand, hq, hrec]; exact hI.flow (hcan ▸ hc) hne)
      fun hs => hframe.fin ▸ hfin hs
    frame := hframe
    queue_le := by rw [hq]
    status := Or.inl ⟨hcan, hval⟩
    balance_le := fun hn => Nat.le_of_eq (hbal hn)
    balance := fun hn _ => hbal hn
    received := hrec
    written := hwr
    emits := hem }

/-- A step that only moves to another phase. -/
theorem Inv.spec_goto {p ph : DownPhase} {ready : Bool} (hI : d.Inv f) (hph : d.phase = p)
    (hne : p ≠ .failed) (hleft : (d.goto ph).left = (d.goto p).left)
    (hhand : (d.goto ph).inHand = (d.goto p).inHand) (hok : ph.Ok d.pending f.receiveLimit)
    (hfin : d.sawFin = true → ph = .closing ∨ ph = .done ∨ ph = .failed)
    (hgrant : (d.goto ph).granting + optSum Msg.winAmount o = (d.goto p).granting)
    (hem : o = none ∨ ∃ amount, o = some (.win amount) ∧ 0 < amount ∧ amount ≤ u32Max) :
    d.StepSpec f (d.goto ph) { f with receiveReady := ready } o :=
  hI.spec_quiet hph hne ⟨rfl, rfl, rfl, rfl, rfl, rfl, rfl⟩ ⟨rfl, rfl, rfl⟩ rfl
    (List.prefix_refl _) (congrArg (d.written ++ ·) hleft) hok hI.credit
    (by subst hph; rw [hhand]; exact hI.bytes)
    (fun hs => ⟨(hI.fin hs).1, (hI.fin hs).2.1, hfin hs⟩)
    (fun _ => (Nat.add_assoc _ _ _).trans (congrArg (_ + ·) hgrant)) hem

theorem Inv.failed (hI : d.Inv f) : (d.goto .failed).Inv f :=
  .of_ok hI.limit hI.credit (Nat.le_trans (Nat.le_add_right _ _) hI.bytes) hI.records trivial
    hI.cancelled (by
      rw [show (d.goto .failed).left = [] from rfl, List.append_nil]
      exact (List.prefix_append _ _).trans hI.written_le)
    (fun _ h => absurd rfl h) fun hs => ⟨(hI.fin hs).1, (hI.fin hs).2.1, Or.inr (Or.inr rfl)⟩

theorem Inv.cancel (hI : d.Inv f) (preserve : Bool) : d.Inv (f.cancel preserve) :=
  { hI with
    bytes := by
      have hbytes := hI.bytes
      simp only [Flow.cancel, List.flatten_nil, List.length_nil]
      omega
    records := by simp [Flow.cancel]
    cancelled := fun _ => rfl
    flow := fun hc => by simp [Flow.cancel] at hc }

theorem Inv.spec_failed (hI : d.Inv f) (hph : d.phase = p) (hgrant : (d.goto p).granting = 0) :
    d.StepSpec f (d.goto .failed) f none := by
  subst hph
  have hbal : d.granting = 0 := hgrant
  exact {
    inv := hI.failed
    frame := ⟨rfl, rfl, rfl, rfl, rfl, rfl, rfl⟩
    queue_le := Nat.le_refl _
    status := Or.inl ⟨rfl, rfl⟩
    balance_le := fun _ => by rw [hbal]; exact Nat.le_refl _
    balance := fun _ _ => by rw [hbal]; rfl
    received := rfl
    written := List.prefix_refl _
    emits := Or.inl rfl }

theorem Inv.spec_receive {data : Bytes} {queue : List Bytes} (hI : d.Inv f)
    (hph : d.phase = .receiving) (hq : f.queue = data :: queue) :
    d.StepSpec f (d.goto (.writing data data)) { f with queue := queue } none := by
  -- a nonempty queue means that the stream is not cancelled
  have hcan : f.cancelled = false := by
    cases hc : f.cancelled with
    | false => rfl
    | true => cases (hI.cancelled hc).symm.trans hq
  have hflow := hI.flow hcan (by simp [hph])
  simp only [left, hph, hq, List.append_nil, List.flatten_cons,
    ← List.append_assoc] at hflow
  have hbytes := hI.bytes
  simp only [Downlink.inHand, hph, hq, List.flatten_cons, List.length_append] at hbytes
  have hbal : ∀ n, n + (d.goto (.writing data data)).granting = n + d.granting := fun n => by
    simp [Downlink.granting, goto, hph]
  exact {
    inv := .of_ok hI.limit hI.credit
      (by
        simp only [Downlink.inHand, goto]
        omega)
      (fun q hq' => hI.records q (hq ▸ List.mem_cons_of_mem _ hq'))
      (hI.records data (hq ▸ List.mem_cons_self)) (fun hc => absurd (hcan.symm.trans hc) (by simp))
      ⟨queue.flatten, hflow⟩ (fun _ _ => hflow) (hI.no_fin hph rfl)
    frame := ⟨rfl, rfl, rfl, rfl, rfl, rfl, rfl⟩
    queue_le := by rw [hq]; exact Nat.le_succ _
    status := Or.inl ⟨rfl, rfl⟩
    balance_le := fun _ => Nat.le_of_eq (hbal _)
    balance := fun _ _ => hbal _
    received := rfl
    written := List.prefix_refl _
    emits := Or.inl rfl }

/-- The overflow test of `publish_credit` never fails: what is pending is part of the window. -/
theorem Inv.raiseCredit_eq (hI : d.Inv f) :
    f.raiseCredit d.pending = .ok { f with credit := f.credit + d.pending } := by
  have := hI.credit
  exact Flow.raiseCredit_of_le (by omega) hI.limit

theorem Inv.spec_publishFailed {amount : Nat} (hI : d.Inv f) (hph : d.phase = .publishing amount) :
    d.StepSpec f (d.goto .failed) (f.cancel false) none where
  inv := hI.failed.cancel false
  frame := ⟨rfl, rfl, rfl, rfl, rfl, rfl, rfl⟩
  queue_le := Nat.zero_le _
  status := Or.inr ⟨rfl, by simp [Flow.cancel]⟩
  balance_le _ := by simp [Downlink.granting, goto, hph, optSum, Flow.cancel]
  balance _ hc := by simp [Flow.cancel] at hc
  received := rfl
  written := List.prefix_refl _
  emits := Or.inl rfl

theorem Inv.spec_consume {data : Bytes} (hI : d.Inv f) (hph : d.phase = .writing data []) :
    if f.negotiated then d.StepSpec f
      { d with phase := .checking, pending := d.pending + data.length }
      (f.consumed data.length) none
    else d.StepSpec f (d.goto .receiving) (f.consumed data.length) none := by
  have hcredit := hI.credit
  have hbytes := hI.bytes
  have hpos := List.length_pos_iff.mpr (hI.inHand data [] hph)
  simp only [Downlink.inHand, hph] at hbytes
  have hframe : f.KeepsSend (f.consumed data.length) := ⟨rfl, rfl, rfl, rfl, rfl, rfl, rfl⟩
  split
  · rename_i hneg
    refine hI.spec_quiet hph (by simp) hframe ⟨rfl, rfl, rfl⟩ rfl (List.prefix_refl _) rfl
      (Nat.add_pos_right _ hpos) ?_ ?_ (hI.no_fin hph rfl) (fun _ => ?_) (Or.inl rfl)
    · simp only [Flow.consumed, hneg, if_true]
      omega
    · simp only [Flow.consumed, Downlink.inHand]
      omega
    · simp only [Downlink.granting, goto, optSum, Flow.consumed]
      omega
  · rename_i hneg
    refine hI.spec_quiet hph (by simp) hframe ⟨rfl, rfl, rfl⟩ rfl (List.prefix_refl _) rfl trivial
      ?_ ?_ (hI.no_fin hph rfl) (fun hn => absurd hn hneg) (Or.inl rfl)
    · simp only [Flow.consumed, hneg, Bool.false_eq_true, if_false, goto]
      omega
    · simp only [Flow.consumed, Downlink.inHand, goto]
      omega

theorem step_spec {a : DownAction} (hI : d.Inv f) (h : d.step f a = some (d', f', o)) :
    d.StepSpec f d' f' o := by
  have hcredit := hI.credit
  revert h
  fun_cases step d f a <;> intro h <;> cases h
  · exact hI.spec_receive ‹_› ‹_›
  · -- FIN: what was received is written
    rename_i hq hph hfin
    refine hI.spec_quiet hph (by simp) ⟨rfl, rfl, rfl, rfl, rfl, rfl, rfl⟩ ⟨rfl, rfl, rfl⟩ rfl
      (List.prefix_refl _) rfl trivial hcredit (Nat.le_trans (Nat.le_add_right _ _) hI.bytes)
      (fun hs => ⟨hfin, ?_, Or.inl rfl⟩) (fun _ => rfl) (Or.inl rfl)
    rcases Bool.or_eq_true_iff.mp hs with hs | hs
    · exact hI.no_fin hph rfl hs
    · have hflow := hI.flow (by simpa using hs) (by simp [hph])
      simpa [Downlink.left, hph, hq] using hflow
  · rename_i hph _
    exact hI.spec_goto hph (by simp) rfl rfl trivial (hI.no_fin hph rfl) rfl (Or.inl rfl)
  · rename_i hph _
    exact hI.spec_goto hph (by simp) rfl rfl trivial (hI.no_fin hph rfl) rfl (Or.inl rfl)
  · rename_i n data left hph _
    refine hI.spec_quiet hph (by simp) ⟨rfl, rfl, rfl, rfl, rfl, rfl, rfl⟩ ⟨rfl, rfl, rfl⟩ rfl
      (List.prefix_append _ _) ?_ (hI.inHand data left hph) hcredit ?_ (hI.no_fin hph rfl)
      (fun _ => rfl) (Or.inl rfl)
    · simp only [Downlink.left, goto, List.append_assoc, List.take_append_drop]
    · have hbytes := hI.bytes
      simpa only [inHand, hph] using hbytes
  · exact hI.spec_failed ‹_› rfl
  · rename_i hph hneg
    simpa only [if_pos hneg] using hI.spec_consume hph
  · rename_i hph hneg
    simpa only [if_neg hneg] using hI.spec_consume hph
  · rename_i hph _
    exact hI.spec_goto hph (by simp) rfl rfl (hI.pending (Or.inl hph)) (hI.no_fin hph rfl) rfl
      (Or.inl rfl)
  · rename_i hph _
    exact hI.spec_goto hph (by simp) rfl rfl trivial (hI.no_fin hph rfl) rfl (Or.inl rfl)
  · -- the credit is raised
    rename_i hph hg
    obtain rfl := Except.ok.inj (hI.raiseCredit_eq.symm.trans hg)
    have hbytes := hI.bytes
    have hpos : DownPhase.Ok d.pending f.receiveLimit .raising := hph ▸ hI.ok
    refine hI.spec_quiet hph (by simp) ⟨rfl, rfl, rfl, rfl, rfl, rfl, rfl⟩ ⟨rfl, rfl, rfl⟩ rfl
      (List.prefix_refl _) rfl ⟨hpos, by omega⟩ ?_ (Nat.le_trans (Nat.le_add_right _ _) hbytes)
      (hI.no_fin hph rfl) (fun _ => ?_) (Or.inl rfl)
    · simp only
      omega
    · simp only [granting, goto, optSum]
      omega
  · rename_i hg
    cases hI.raiseCredit_eq.symm.trans hg
  · rename_i amount hph
    obtain ⟨hpos, hlim⟩ := hI.granting amount hph
    exact hI.spec_goto hph (by simp) rfl rfl trivial (hI.no_fin hph rfl) (Nat.zero_add _)
      (Or.inr ⟨amount, rfl, hpos, Nat.le_trans hlim hI.limit⟩)
  · exact hI.spec_publishFailed ‹_›
  · rename_i hph
    exact hI.spec_goto hph (by simp) rfl rfl trivial (fun _ => Or.inr (Or.inl rfl)) rfl (Or.inl rfl)
  · exact hI.spec_failed ‹_› rfl

end Downlink

/-! ## 6. The invariant of an end -/

variable {s' : Side}

theorem Side.Inv.stepUp {a : UpAction} (hI : s.Inv) (h : s.stepUp a = some (s', o)) :
    s'.Inv ∧ s.up.StepSpec s.flow s'.up s'.flow o ∧
      s'.down = s.down := by
  unfold Side.stepUp at h
  obtain ⟨⟨u, f, o'⟩, hs, hr⟩ := Option.map_eq_some_iff.mp h
  cases hr
  have hspec := Uplink.step_spec hI.up hs
  refine ⟨⟨hspec.inv, ?_⟩, hspec, rfl⟩
  rw [hspec.frame]
  exact { hI.down with }

theorem Side.Inv.stepDown {a : DownAction} (hI : s.Inv) (h : s.stepDown a = some (s', o)) :
    s'.Inv ∧ s.down.StepSpec s.flow s'.down s'.flow o ∧
      s'.up = s.up := by
  unfold Side.stepDown at h
  obtain ⟨⟨d, f, o'⟩, hs, hr⟩ := Option.map_eq_some_iff.mp h
  cases hr
  have hspec := Downlink.step_spec hI.down hs
  exact ⟨⟨hI.up.congr hspec.frame.sendAvailable hspec.frame.sendLimit, hspec.inv⟩, hspec, rfl⟩

/-- **Everything `dispatch` can do when it accepts a record**: nothing, or add a positive amount of
credit within the send window, or enqueue. -/
theorem Flow.dispatch_ok {flags : UInt8} (h : f.dispatch flags payload = .ok g) :
    (flags = flagWin ∧ (g = f ∨ ∃ amount, 0 < amount ∧ amount ≤ f.sendLimit - f.sendAvailable ∧
      g = { f with sendAvailable := f.sendAvailable + amount, sendReady := true })) ∨
    (flags ≠ flagWin ∧ hasFlag flags flagData = false ∧ hasFlag flags flagClose = false ∧ g = f) ∨
    (flags ≠ flagWin ∧
      f.enqueue (if hasFlag flags flagData then payload else []) (hasFlag flags flagClose)
        = .ok g) := by
  unfold Flow.dispatch at h
  split at h
  · cases h
  · split at h
    · rename_i hwin
      refine Or.inl ⟨hwin, ?_⟩
      unfold Flow.addCredit at h
      split at h
      · cases h
        exact Or.inl rfl
      · split at h
        · cases h
        · dsimp only at h
          split at h
          · cases h
          · rename_i hamount
            cases h
            refine Or.inr ⟨_, ?_, ?_, rfl⟩ <;> omega
    · rename_i hwin
      split at h
      · exact Or.inr (Or.inr ⟨hwin, h⟩)
      · rename_i hnone
        cases h
        simp only [Bool.or_eq_true, not_or, Bool.not_eq_true] at hnone
        exact Or.inr (Or.inl ⟨hwin, hnone.1, hnone.2, rfl⟩)

/-- Enqueueing keeps the downlink's invariant; the payload is the new end of what was received. -/
theorem Downlink.Inv.enqueue {fin : Bool} (hI : d.Inv f) (h : f.enqueue payload fin = .ok g)
    (hq : ∀ q ∈ g.queue, q ≠ []) : Downlink.Inv { d with received := d.received ++ payload } g := by
  obtain ⟨hfin, hcan, hst, -, -, -, hcr, hle, hby, hqu⟩ := Flow.enqueue_ok h
  have hcredit := hI.credit
  have hbytes := hI.bytes
  exact {
    limit := by rw [hst.receiveLimit]; exact hI.limit
    credit := by
      rw [hcr, hby, hst.receiveLimit]
      show f.credit - payload.length + (f.bytes + payload.length) + d.pending = f.receiveLimit
      omega
    bytes := by
      rw [hqu, hby, List.length_append]
      simp only [Downlink.inHand] at hbytes ⊢
      omega
    records := hq
    inHand := hI.inHand
    pending := hI.pending
    granting := fun n hn => by
      rw [hst.receiveLimit]
      exact hI.granting n hn
    cancelled := fun hc => by rw [hst.cancelled, hcan] at hc; cases hc
    written_le := hI.written_le.trans (List.prefix_append _ _)
    flow := fun _ hne => by
      have := hI.flow hcan hne
      rw [hqu, ← List.append_assoc]
      simp only [Downlink.left] at this ⊢
      rw [this]
    fin := fun hs => by
      rw [(hI.fin hs).1] at hfin
      cases hfin }

/-- Only nonempty records are queued. -/
theorem Flow.enqueue_records {fin : Bool} (h : f.enqueue payload fin = .ok g)
    (hq : ∀ q ∈ f.queue, q ≠ []) : ∀ q ∈ g.queue, q ≠ [] := by
  unfold Flow.enqueue at h
  split at h
  · cases h
  · split at h
    · cases h
    · split at h
      · rename_i hne
        cases h
        intro q hmem
        rcases List.mem_append.mp hmem with hmem | hmem
        · exact hq q hmem
        · rw [List.mem_singleton] at hmem
          exact hmem ▸ hne
      · cases h
        exact hq

theorem Side.Inv.dispatch {flags : UInt8} (hI : s.Inv) (h : s.dispatch flags payload = .ok s') :
    s'.Inv := by
  unfold Side.dispatch at h
  cases hd : s.flow.dispatch flags payload with
  | error e => rw [hd] at h; cases h
  | ok g =>
    rw [hd] at h
    cases h
    rcases Flow.dispatch_ok hd with ⟨hwin, hg⟩ | ⟨hwin, hdata, -, hg⟩ | ⟨hwin, henq⟩
    · rw [if_neg (by simp [hwin])]
      rcases hg with rfl | ⟨amount, -, hle, rfl⟩
      · exact hI
      · have := hI.up.available
        exact ⟨{ hI.up with available := by simp only; omega }, { hI.down with }⟩
    · subst hg
      rw [if_neg (by simp [hdata])]
      exact hI
    · have hst := (Flow.enqueue_ok henq).2.2.1
      have hav := (Flow.enqueue_ok henq).2.2.2.1
      have hrec := Flow.enqueue_records henq hI.down.records
      refine ⟨hI.up.congr hav hst.sendLimit, ?_⟩
      have hdown := hI.down.enqueue henq hrec
      cases hdf : hasFlag flags flagData with
      | true => simpa [hdf, hwin] using hdown
      | false => simpa [hdf] using hdown

theorem Side.Inv.cancel (hI : s.Inv) (preserve : Bool) : (s.cancel preserve).Inv :=
  ⟨{ hI.up with }, hI.down.cancel preserve⟩

end BibaVpn.Mux
