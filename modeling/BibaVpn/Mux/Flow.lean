/-
# One mux stream at one end: the `Flow`

`Flow` (`tcp_mux_flow.rs`) is the state that the tasks of one stream share at one endpoint: how
much the peer still lets this end send (`send_available`), the receive queue with its byte count
and the credit still granted to the peer, the FIN flag, and the cancellation flags.  Every
operation below is one critical section of the source, so it is one atomic step of whatever
runs it.

The byte counters are `u32` and `usize` in the source.  They are naturals here; that none of the
subtractions goes below zero and none of the sums leaves its type is part of what is proved about
the pair of ends that use them.
-/
import BibaVpn.Lib.Machine

namespace BibaVpn.Mux

open Machine

/-! ## 1. Records -/

/-- `MUX_FLAG_OPEN`. -/
def flagOpen : UInt8 := 0x01

/-- `MUX_FLAG_DATA`. -/
def flagData : UInt8 := 0x02

/-- `MUX_FLAG_CLOSE`. -/
def flagClose : UInt8 := 0x04

/-- `MUX_FLAG_RST`. -/
def flagRst : UInt8 := 0x08

/-- `MUX_FLAG_WIN`. -/
def flagWin : UInt8 := 0x10

/-- `OPEN_CREDIT`. -/
def flagOpenCredit : UInt8 := 0x20

/-- `flags & flag != 0`. -/
def hasFlag (flags flag : UInt8) : Bool := flags &&& flag != 0

/-- `CAP_MAGIC`. -/
def capMagic : Bytes := [0x42, 0x46, 0x43, 0x31]

/-- `capability`. -/
def capability (kind : UInt8) (localWindow : Nat) : Bytes :=
  capMagic ++ kind :: toBe 4 localWindow

/-- The records an endpoint itself produces. -/
inductive Msg
  /-- `OPEN`, with `OPEN_CREDIT` when credit was negotiated, and the encoded target -/
  | opening (credit : Bool) (target : Bytes)
  | data (payload : Bytes)
  | close
  /-- `WIN` of one stream -/
  | win (amount : Nat)
  | rst
  /-- `WIN` of stream 0: the capability exchange -/
  | cap (kind : UInt8) (window : Nat)
  deriving DecidableEq, Repr

/-- The flags byte of a record. -/
def Msg.flags : Msg → UInt8
  | .opening credit _ => if credit then flagOpen ||| flagOpenCredit else flagOpen
  | .data _ => flagData
  | .close => flagClose
  | .win _ => flagWin
  | .rst => flagRst
  | .cap _ _ => flagWin

/-- The payload of a record. -/
def Msg.payload : Msg → Bytes
  | .opening _ target => target
  | .data payload => payload
  | .close => []
  | .win amount => toBe 4 amount
  | .rst => []
  | .cap kind window => capability kind window

/-! ## 2. The flow -/

/-- `MAX_QUEUED_RECORDS`. -/
def maxQueuedRecords : Nat := 8192

/-- `MAX_PEER_WINDOW`. -/
def maxPeerWindow : Nat := 16 * 1024 * 1024

/-- `MuxWindow`: the receive window of a stream, 1 to 4 MiB. -/
structure MuxWindow where
  mib : Nat
  one_le : 1 ≤ mib
  le_four : mib ≤ 4

theorem one_le_four : 1 ≤ 4 := by decide

/-- `MuxWindow::bytes`. -/
def MuxWindow.bytes (w : MuxWindow) : Nat := w.mib * (1024 * 1024)

theorem MuxWindow.bytes_pos (w : MuxWindow) : 0 < w.bytes := by
  have := w.one_le
  simp only [MuxWindow.bytes]
  omega

theorem MuxWindow.bytes_le (w : MuxWindow) : w.bytes ≤ 4 * 1024 * 1024 := by
  have := w.le_four
  simp only [MuxWindow.bytes]
  omega

/-- `Flow` with its `ReceiveState`.  `sendReady` and `receiveReady` are the stored permits of the
two `Notify`s. -/
structure Flow where
  epoch : Nat
  negotiated : Bool
  sendLimit : Nat
  receiveLimit : Nat
  sendAvailable : Nat
  sendReady : Bool
  queue : List Bytes
  bytes : Nat
  credit : Nat
  fin : Bool
  receiveReady : Bool
  cancelled : Bool
  outputValid : Bool
  deriving DecidableEq, Repr

namespace Flow

/-- `Flow::new`. -/
def new (epoch : Nat) (peerWindow : Option Nat) (localWindow : Nat) : Flow where
  epoch := epoch
  negotiated := peerWindow.isSome
  sendLimit := peerWindow.getD 0
  receiveLimit := localWindow
  sendAvailable := peerWindow.getD 0
  sendReady := false
  queue := []
  bytes := 0
  credit := localWindow
  fin := false
  receiveReady := false
  cancelled := false
  outputValid := true

/-- `Flow::cancel`. -/
def cancel (f : Flow) (preserveOutput : Bool) : Flow :=
  { f with outputValid := f.outputValid && preserveOutput, cancelled := true, queue := [] }

/-- `Flow::enqueue`. -/
def enqueue (f : Flow) (payload : Bytes) (fin : Bool) : Except String Flow :=
  if f.fin || f.cancelled then .error "DATA after stream FIN/reset"
  else if payload ≠ [] ∧ (payload.length > f.credit ∨ f.bytes + payload.length > f.receiveLimit ∨
      f.queue.length ≥ maxQueuedRecords) then .error "mux receive window exceeded"
  else if payload ≠ [] then
    .ok { f with
      credit := f.credit - payload.length
      bytes := f.bytes + payload.length
      queue := f.queue ++ [payload]
      fin := fin
      receiveReady := true }
  else .ok { f with fin := fin, receiveReady := true }

/-- `Flow::consumed`. -/
def consumed (f : Flow) (n : Nat) : Flow :=
  { f with
    bytes := f.bytes - n
    credit := if f.negotiated then f.credit else f.credit + n }

/-- The locked half of `Flow::publish_credit`. -/
def raiseCredit (f : Flow) (amount : Nat) : Except String Flow :=
  match checkedAdd u32Max f.credit amount with
  | none => .error "mux receive credit overflow"
  | some credit =>
    if credit ≤ f.receiveLimit then .ok { f with credit := credit }
    else .error "mux receive credit overflow"

/-- `Flow::add_credit`. -/
def addCredit (f : Flow) (payload : Bytes) : Except String Flow :=
  if !f.negotiated then .ok f
  else if payload.length ≠ 4 then .error "malformed mux credit"
  else
    let amount := fromBe payload
    if amount = 0 ∨ amount > f.sendLimit - f.sendAvailable then
      .error "invalid mux credit increment"
    else .ok { f with sendAvailable := f.sendAvailable + amount, sendReady := true }

/-- What `dispatch` does with a record for a registered stream, resets apart. -/
def dispatch (f : Flow) (flags : UInt8) (payload : Bytes) : Except String Flow :=
  if f.negotiated && hasFlag flags flagWin && flags != flagWin then .error "mixed mux WIN flags"
  else if flags = flagWin then f.addCredit payload
  else if hasFlag flags flagData || hasFlag flags flagClose then
    f.enqueue (if hasFlag flags flagData then payload else []) (hasFlag flags flagClose)
  else .ok f

/-! ## 3. What each operation changes

One lemma per outcome; everything later cites these instead of unfolding the operations. -/

/-- The fields that no operation but `cancel` touches. -/
structure SameStatus (f g : Flow) : Prop where
  epoch : g.epoch = f.epoch
  negotiated : g.negotiated = f.negotiated
  sendLimit : g.sendLimit = f.sendLimit
  receiveLimit : g.receiveLimit = f.receiveLimit
  cancelled : g.cancelled = f.cancelled
  outputValid : g.outputValid = f.outputValid

theorem SameStatus.refl (f : Flow) : f.SameStatus f := ⟨rfl, rfl, rfl, rfl, rfl, rfl⟩

/-- An accepted record: the flow was open, the payload fits, and it is the new end of the queue. -/
theorem enqueue_ok {f g : Flow} {payload : Bytes} {fin : Bool} (h : f.enqueue payload fin = .ok g) :
    f.fin = false ∧ f.cancelled = false ∧ f.SameStatus g ∧
      g.sendAvailable = f.sendAvailable ∧ g.sendReady = f.sendReady ∧ g.fin = fin ∧
      g.credit = f.credit - payload.length ∧ payload.length ≤ f.credit ∧
      g.bytes = f.bytes + payload.length ∧ g.queue.flatten = f.queue.flatten ++ payload := by
  unfold enqueue at h
  split at h
  · cases h
  · rename_i hopen
    simp only [Bool.or_eq_true, not_or, Bool.not_eq_true] at hopen
    split at h
    · cases h
    · rename_i hfit
      split at h
      · rename_i hne
        cases h
        have hle : payload.length ≤ f.credit := by
          by_contra hlt
          exact hfit ⟨hne, Or.inl (Nat.lt_of_not_le hlt)⟩
        refine ⟨hopen.1, hopen.2, ⟨rfl, rfl, rfl, rfl, rfl, rfl⟩, rfl, rfl, rfl, rfl, hle, rfl, ?_⟩
        simp
      · rename_i hempty
        cases h
        have hnil : payload = [] := not_not.mp hempty
        subst hnil
        exact ⟨hopen.1, hopen.2, ⟨rfl, rfl, rfl, rfl, rfl, rfl⟩, rfl, rfl, rfl, rfl,
          Nat.zero_le _, rfl, by simp⟩

/-- **When `enqueue` refuses**: the stream is over, or it is a payload and one of the three limits
is reached. -/
theorem enqueue_error {f : Flow} {payload : Bytes} {fin : Bool} {e : String}
    (h : f.enqueue payload fin = .error e) :
    f.fin = true ∨ f.cancelled = true ∨
      payload ≠ [] ∧ (payload.length > f.credit ∨ f.bytes + payload.length > f.receiveLimit ∨
        f.queue.length ≥ maxQueuedRecords) := by
  unfold enqueue at h
  split at h
  · rename_i hover
    rcases Bool.or_eq_true _ _ ▸ hover with hfin | hcan
    · exact Or.inl hfin
    · exact Or.inr (Or.inl hcan)
  · split at h
    · rename_i hfull
      exact Or.inr (Or.inr hfull)
    · split at h <;> cases h

theorem raiseCredit_ok {f g : Flow} {amount : Nat} (h : f.raiseCredit amount = .ok g) :
    g = { f with credit := f.credit + amount } ∧ f.credit + amount ≤ f.receiveLimit := by
  unfold raiseCredit at h
  split at h
  · cases h
  · rename_i c hc
    obtain ⟨rfl, -⟩ := checkedAdd_eq_some_iff.mp hc
    split at h
    · cases h
      exact ⟨rfl, ‹_›⟩
    · cases h

/-- The overflow test of `publish_credit` passes whenever the sum is within the window. -/
theorem raiseCredit_of_le {f : Flow} {amount : Nat} (h : f.credit + amount ≤ f.receiveLimit)
    (hu : f.receiveLimit ≤ u32Max) :
    f.raiseCredit amount = .ok { f with credit := f.credit + amount } := by
  have hc : checkedAdd u32Max f.credit amount = some (f.credit + amount) :=
    checkedAdd_eq_some_iff.mpr ⟨rfl, le_trans h hu⟩
  simp only [raiseCredit, hc, if_pos h]

/-- A `WIN` of an honest peer: accepted exactly when it is positive and within the send window. -/
theorem dispatch_win {f : Flow} (hn : f.negotiated = true) {amount : Nat} (ha : amount < 256 ^ 4) :
    f.dispatch flagWin (toBe 4 amount) =
      if amount = 0 ∨ amount > f.sendLimit - f.sendAvailable then
        .error "invalid mux credit increment"
      else .ok { f with sendAvailable := f.sendAvailable + amount, sendReady := true } := by
  have hmix : (flagWin != flagWin) = false := by decide
  simp only [dispatch, hmix, Bool.and_false, Bool.false_eq_true, if_false, if_true,
    addCredit, hn, Bool.not_true, length_toBe, ne_eq, not_true_eq_false, fromBe_toBe ha]

theorem dispatch_data (f : Flow) (payload : Bytes) :
    f.dispatch flagData payload = f.enqueue payload false := by
  have h1 : hasFlag flagData flagWin = false := by decide
  have h2 : ¬ flagData = flagWin := by decide
  have h3 : hasFlag flagData flagData = true := by decide
  have h4 : hasFlag flagData flagClose = false := by decide
  simp [dispatch, h1, h2, h3, h4]

theorem dispatch_close (f : Flow) : f.dispatch flagClose [] = f.enqueue [] true := by
  have h1 : hasFlag flagClose flagWin = false := by decide
  have h2 : ¬ flagClose = flagWin := by decide
  have h3 : hasFlag flagClose flagData = false := by decide
  have h4 : hasFlag flagClose flagClose = true := by decide
  simp [dispatch, h1, h2, h3, h4]

end Flow

end BibaVpn.Mux
