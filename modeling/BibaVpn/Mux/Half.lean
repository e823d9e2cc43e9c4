/-
# One end of a stream, with its lanes

One end of one mux stream on its own: its `Side`, what it has put into its endpoint's output and
control lanes, and what it has on the WebSocket.  In the program the lanes and the WebSocket are
shared with other streams, and an end is removed and reset for many reasons; here a record of the
stream may be written at any time, an end may be removed at any time, and an end that is removed may
send resets at any time.

* §1 is the end and its steps;
* §2 is what one end keeps (`Half.Honest`) and everything a step can do (`Half.LocalSpec`);
* §3 is the reader's half: the three outcomes of a record that arrives.
-/
import BibaVpn.Mux.Side

namespace BibaVpn.Mux

open Machine

/-! ## 1. An end and its steps -/

/-- One end, and what it has on the way to the other. -/
structure Half where
  side : Side
  /-- in `streams` of its endpoint -/
  registered : Bool
  /-- `bridge` has started -/
  running : Bool
  /-- this stream's records in the output lane, in the control lane, and on the WebSocket -/
  out : List Msg
  ctl : List Msg
  wire : List Msg
  /-- a record that `dispatch` has refused, until the reader has removed the stream -/
  refused : Option Msg
  /-- history: a `DATA` or `CLOSE` was refused while the stream was not cancelled -/
  refusedLive : Bool
  deriving DecidableEq, Repr

/-- A chunk size of `bridge`: `clamp(1, 64 * 1024)`. -/
structure ChunkSize where
  bytes : Nat
  one_le : 1 ≤ bytes
  le_max : bytes ≤ 64 * 1024

def Half.new (epoch : Nat) (peer window : MuxWindow) (chunk : ChunkSize) (pre : Bytes) : Half where
  side := Side.new (Flow.new epoch (some peer.bytes) window.bytes) chunk.bytes pre
  registered := true
  running := false
  out := []
  ctl := []
  wire := []
  refused := none
  refusedLive := false

inductive HalfAction
  /-- `bridge` starts: `OPEN` is handed over, or the target is connected -/
  | connected
  | up (a : UpAction)
  | down (a : DownAction)
  /-- the writer takes the next output record -/
  | writeOutput
  /-- the writer takes the next control record -/
  | writeControl
  /-- the writer drops a reset that is not for the generation registered now -/
  | dropReset
  /-- the reader handles the peer's next record; `known` if `get` found the stream -/
  | deliver (known : Bool)
  /-- the reader removes the stream whose record was refused -/
  | reject
  /-- `bridge` ends without an error: both pumps are done, or the stream is cancelled -/
  | finish
  /-- the stream is removed for any other reason -/
  | abort
  /-- a reset for a stream that is gone -/
  | sendReset
  deriving DecidableEq, Repr

/-- `finish` of the endpoint: unregister and cancel. -/
def Half.remove (h : Half) (preserve : Bool) : Half :=
  { h with side := h.side.cancel preserve, registered := false }

/-- `DATA` or `CLOSE`. -/
def Msg.isStream : Msg → Bool
  | .data _ => true
  | .close => true
  | _ => false

/-- The reader of `h` handles one record.  It looked the stream up before, so a stream it found may
be gone by now; its flow is then cancelled. -/
def Half.handle (h : Half) (known : Bool) (m : Msg) : Half :=
  if !known then h
  else if m = .rst then (if h.registered then h.remove false else h)
  else match h.side.dispatch m.flags m.payload with
    | .ok side => { h with side := side }
    | .error _ =>
      { h with
        refused := some m
        refusedLive := h.refusedLive || (m.isStream && !h.side.flow.cancelled) }

/-- The step of one end that does not read from its peer. -/
def Half.local (h : Half) : HalfAction → Option Half
  | .connected => if !h.running then some { h with running := true } else none
  | .up a =>
    if h.running then
      (h.side.stepUp a).map fun r => { h with side := r.1, out := h.out ++ r.2.toList }
    else none
  | .down a =>
    if h.running then
      (h.side.stepDown a).map fun r => { h with side := r.1, ctl := h.ctl ++ r.2.toList }
    else none
  | .writeOutput =>
    match h.out with
    | m :: out =>
      -- the writer drops the records of an aborted stream
      some { h with out := out, wire := if h.side.flow.outputValid then h.wire ++ [m] else h.wire }
    | [] => none
  | .writeControl =>
    match h.ctl with
    | m :: ctl =>
      some { h with
        ctl := ctl
        wire := if m = .rst ∨ h.side.flow.outputValid then h.wire ++ [m] else h.wire }
    | [] => none
  | .dropReset =>
    match h.ctl with
    | .rst :: ctl => some { h with ctl := ctl }
    | _ => none
  | .deliver _ => none
  | .reject =>
    match h.refused with
    | some _ => some { (if h.registered then h.remove false else h) with refused := none }
    | none => none
  | .finish =>
    if h.registered ∧ (h.side.flow.cancelled = true ∨
        h.side.up.phase = .done ∧ h.side.down.phase = .done) then some (h.remove true)
    else none
  | .abort => if h.registered then some (h.remove false) else none
  | .sendReset => if h.registered then none else some { h with ctl := h.ctl ++ [.rst] }

/-! ## 2. What a step of an end does -/

/-- The payload bytes of the `DATA` records in a list. -/
def dataBytes (ms : List Msg) : Nat := (ms.map Msg.dataLen).sum

/-- The credit of the `WIN` records in a list. -/
def winTotal (ms : List Msg) : Nat := (ms.map Msg.winAmount).sum

/-- The payload of the `DATA` records in a list. -/
def dataOf : List Msg → Bytes
  | [] => []
  | .data payload :: ms => payload ++ dataOf ms
  | _ :: ms => dataOf ms

/-- The `DATA` and `CLOSE` records on the way, oldest first. -/
def Half.stream (h : Half) : List Msg := (h.wire ++ h.out).filter Msg.isStream

/-- As a sender: the credit left, taken, and on the way as data. -/
def Half.sendSum (h : Half) : Nat :=
  h.side.flow.sendAvailable + h.side.up.taken + dataBytes h.out + dataBytes h.wire

/-- As a receiver: what is held, consumed, granted, and on the way as credit. -/
def Half.recvSum (h : Half) : Nat :=
  h.side.flow.bytes + h.side.down.pending + h.side.down.granting + winTotal h.ctl +
    winTotal h.wire

@[simp] theorem dataBytes_nil : dataBytes [] = 0 := rfl

@[simp] theorem dataBytes_cons (m : Msg) (ms : List Msg) :
    dataBytes (m :: ms) = m.dataLen + dataBytes ms := by simp [dataBytes]

@[simp] theorem dataBytes_append (ms ns : List Msg) :
    dataBytes (ms ++ ns) = dataBytes ms + dataBytes ns := by simp [dataBytes]

@[simp] theorem winTotal_nil : winTotal [] = 0 := rfl

@[simp] theorem winTotal_cons (m : Msg) (ms : List Msg) :
    winTotal (m :: ms) = m.winAmount + winTotal ms := by simp [winTotal]

@[simp] theorem winTotal_append (ms ns : List Msg) :
    winTotal (ms ++ ns) = winTotal ms + winTotal ns := by simp [winTotal]

theorem dataBytes_toList (o : Option Msg) : dataBytes o.toList = optSum Msg.dataLen o := by
  cases o <;> simp [optSum]

theorem winTotal_toList (o : Option Msg) : winTotal o.toList = optSum Msg.winAmount o := by
  cases o <;> simp [optSum]

@[simp] theorem dataOf_nil : dataOf [] = [] := rfl

@[simp] theorem dataOf_append (ms ns : List Msg) : dataOf (ms ++ ns) = dataOf ms ++ dataOf ns := by
  induction ms with
  | nil => rfl
  | cons m ms ih => cases m <;> simp [dataOf, ih, List.append_assoc]

theorem dataOf_cons (m : Msg) (ms : List Msg) : dataOf (m :: ms) = dataOf [m] ++ dataOf ms :=
  dataOf_append [m] ms

variable {m : Msg} {h : Half} {o : Option Msg} {side : Side} {ws : List Msg}

theorem dataOf_of_not_isStream (h : m.isStream = false) : dataOf [m] = [] := by
  cases m <;> simp_all [dataOf, Msg.isStream]

/-- The data on the way is the data of the records that carry any. -/
theorem dataOf_filter (ms : List Msg) : dataOf (ms.filter Msg.isStream) = dataOf ms := by
  induction ms with
  | nil => rfl
  | cons m ms ih => cases m <;> simp [List.filter_cons, dataOf, Msg.isStream, ih]

/-- A credit record as an honest end sends it. -/
def IsWin (m : Msg) : Prop := ∃ amount, m = .win amount ∧ 0 < amount ∧ amount ≤ u32Max

theorem IsWin.dataLen (h : IsWin m) : m.dataLen = 0 := by
  obtain ⟨n, rfl, -⟩ := h
  rfl

theorem winAmount_of_isStream (h : m.isStream = true) : m.winAmount = 0 := by
  cases m <;> simp_all [Msg.isStream, Msg.winAmount]

/-- The invariant of one end: the local invariant of its side, and what it puts where. -/
structure Half.Honest (h : Half) : Prop where
  side : h.side.Inv
  negotiated : h.side.flow.negotiated = true
  unregistered : h.registered = false → h.side.flow.cancelled = true
  aborted : h.side.flow.outputValid = false → h.side.flow.cancelled = true
  out : ∀ m ∈ h.out, m.isStream = true
  ctl : ∀ m ∈ h.ctl, m = .rst ∨ IsWin m
  wire : ∀ m ∈ h.wire, m.isStream = true ∨ m = .rst ∨ IsWin m
  close : .close ∈ h.stream → h.side.up.phase = .done ∧
    ∃ before, h.stream = before ++ [.close] ∧ .close ∉ before

/-- **What an end has on the way, given that its peer has received `got`.**  On the wire are the
next bytes of what it emitted; as long as its output is valid, the lane has the rest; and when
`CLOSE` is on the wire nothing is missing before it. -/
structure Half.Carries (h : Half) (got : Bytes) : Prop where
  wire : got ++ dataOf h.wire <+: h.side.up.emitted
  whole : h.side.flow.outputValid = true → got ++ dataOf h.wire ++ dataOf h.out = h.side.up.emitted
  closed : .close ∈ h.wire → got ++ dataOf h.wire = h.side.up.emitted

/-- **Everything a step of one end can do without reading from its peer.** -/
structure Half.LocalSpec (h h' : Half) : Prop where
  honest : h'.Honest
  sendLimit : h'.side.flow.sendLimit = h.side.flow.sendLimit
  receiveLimit : h'.side.flow.receiveLimit = h.side.flow.receiveLimit
  fin : h'.side.flow.fin = h.side.flow.fin
  cancelled : h.side.flow.cancelled = true → h'.side.flow.cancelled = true
  send_le : h'.sendSum ≤ h.sendSum
  send_eq : h'.side.flow.cancelled = false → h'.sendSum = h.sendSum
  recv_le : h'.recvSum ≤ h.recvSum
  recv_eq : h'.side.flow.cancelled = false → h'.recvSum = h.recvSum
  refused : h'.refused = h.refused ∨ (h'.refused = none ∧ h'.registered = false)
  refusedLive : h'.refusedLive = h.refusedLive
  registered : h'.registered = true → h.registered = true
  received : h'.side.down.received = h.side.down.received
  emitted : h.side.up.emitted <+: h'.side.up.emitted
  carries : ∀ got, h.Carries got → h'.Carries got
  drained : h.side.up.phase = .done → h.stream = [] →
    h'.side.up.phase = .done ∧ h'.stream = [] ∧ h'.side.up.emitted = h.side.up.emitted

theorem Half.spec_remove (hh : h.Honest) (preserve : Bool) : h.LocalSpec (h.remove preserve) where
  honest := { hh with
    side := hh.side.cancel preserve
    negotiated := hh.negotiated
    unregistered := fun _ => rfl
    aborted := fun _ => rfl }
  sendLimit := rfl
  receiveLimit := rfl
  fin := rfl
  cancelled _ := rfl
  send_le := Nat.le_refl _
  send_eq hc := by simp [Half.remove, Side.cancel, Flow.cancel] at hc
  recv_le := Nat.le_refl _
  recv_eq hc := by simp [Half.remove, Side.cancel, Flow.cancel] at hc
  refused := Or.inl rfl
  refusedLive := rfl
  registered hr := by cases hr
  received := rfl
  emitted := List.prefix_refl _
  carries got hc := ⟨hc.wire, fun hv => hc.whole (Bool.and_eq_true_iff.mp hv).1, hc.closed⟩
  drained h1 h2 := ⟨h1, h2, rfl⟩

theorem Half.LocalSpec.refl (hh : h.Honest) : h.LocalSpec h :=
  ⟨hh, rfl, rfl, rfl, id, Nat.le_refl _, fun _ => rfl, Nat.le_refl _, fun _ => rfl, Or.inl rfl, rfl,
    id, rfl, List.prefix_refl _, fun _ hc => hc, fun h1 h2 => ⟨h1, h2, rfl⟩⟩

/-- Resets in the control lane are not counted. -/
theorem Half.spec_ctl {ctl : List Msg} (hh : h.Honest) (hc : ∀ m ∈ ctl, m = .rst ∨ IsWin m)
    (hw : winTotal ctl = winTotal h.ctl) : h.LocalSpec { h with ctl := ctl } :=
  { Half.LocalSpec.refl hh with
    honest := { hh with ctl := hc }
    recv_le := by simp only [Half.recvSum, hw]; exact Nat.le_refl _
    recv_eq := fun _ => by simp only [Half.recvSum, hw]
    carries := fun _ hg => ⟨hg.wire, hg.whole, hg.closed⟩ }

/-- What the uplink hands over is the new end of what is on the way. -/
theorem Uplink.StepSpec.carries {got : Bytes}
    (hspec : h.side.up.StepSpec h.side.flow side.up side.flow o) (hh : h.Honest)
    (hg : h.Carries got) : Half.Carries { h with side := side, out := h.out ++ o.toList } got := by
  have hvalid : side.flow.outputValid = h.side.flow.outputValid := by rw [hspec.frame]
  -- with `CLOSE` on the wire the uplink was done
  have hno : .close ∉ h.wire := fun hmem => by
    refine hspec.running (hh.close (List.mem_filter.mpr ⟨List.mem_append_left _ hmem, rfl⟩)).1
  have hout : ∃ new, side.up.emitted = h.side.up.emitted ++ new ∧ dataOf o.toList = new := by
    rcases hspec.emits with ⟨rfl, he, -⟩ | ⟨p, rfl, -, he, -⟩ | ⟨rfl, he, -⟩
    · exact ⟨[], by simpa using he, rfl⟩
    · exact ⟨p, he, by simp [dataOf]⟩
    · exact ⟨[], by simpa using he, rfl⟩
  obtain ⟨new, hem, hnew⟩ := hout
  exact {
    wire := by
      rw [hem]
      exact hg.wire.trans (List.prefix_append _ _)
    whole := fun hv => by
      rw [hem, ← hg.whole (hvalid ▸ hv)]
      simp only [dataOf_append, hnew, List.append_assoc]
    closed := fun hc => absurd hc hno }

theorem Half.spec_up {a : UpAction} (hh : h.Honest) (hs : h.side.stepUp a = some (side, o)) :
    h.LocalSpec { h with side := side, out := h.out ++ o.toList } := by
  obtain ⟨hinv, hspec, hdown⟩ := hh.side.stepUp hs
  have hframe := hspec.frame
  have hbal := hspec.balance hh.negotiated
  have hcan : side.flow.cancelled = h.side.flow.cancelled := by rw [hframe]
  have hstream : Half.stream { h with side := side, out := h.out ++ o.toList }
      = h.stream ++ o.toList.filter Msg.isStream := by
    simp [Half.stream, List.filter_append]
  have hsend : Half.sendSum { h with side := side, out := h.out ++ o.toList } = h.sendSum := by
    simp only [Half.sendSum, dataBytes_append, dataBytes_toList]
    omega
  have hrecv : Half.recvSum { h with side := side, out := h.out ++ o.toList } = h.recvSum := by
    have hb : side.flow.bytes = h.side.flow.bytes := by rw [hframe]
    simp only [Half.recvSum, hdown, hb]
  exact {
    honest := {
      side := hinv
      negotiated := by rw [hframe]; exact hh.negotiated
      unregistered := fun hr => by rw [hcan]; exact hh.unregistered hr
      aborted := fun hv => by
        rw [hcan]
        rw [hframe] at hv
        exact hh.aborted hv
      out := fun m hm => by
        rcases List.mem_append.mp hm with hm | hm
        · exact hh.out m hm
        · rcases hspec.emits with ⟨rfl, -⟩ | ⟨p, rfl, -⟩ | ⟨rfl, -⟩
          · cases hm
          · rw [List.mem_singleton.mp hm]; rfl
          · rw [List.mem_singleton.mp hm]; rfl
      ctl := hh.ctl
      wire := hh.wire
      close := fun hc => by
        rw [hstream] at hc ⊢
        -- no record follows a `CLOSE`: the loop would have to be done already
        have hno : .close ∉ h.stream := fun hmem => hspec.running (hh.close hmem).1
        rcases hspec.emits with ⟨rfl, -⟩ | ⟨p, rfl, -⟩ | ⟨rfl, -, -, hdone⟩
        · simp only [Option.toList_none, List.filter_nil, List.append_nil] at hc
          exact absurd hc hno
        · rcases List.mem_append.mp hc with hc | hc
          · exact absurd hc hno
          · simp [Msg.isStream] at hc
        · exact ⟨hdone, h.stream, rfl, hno⟩ }
    sendLimit := by rw [hframe]
    receiveLimit := by rw [hframe]
    fin := by rw [hframe]
    cancelled := fun hc => by rw [hcan]; exact hc
    send_le := Nat.le_of_eq hsend
    send_eq := fun _ => hsend
    recv_le := Nat.le_of_eq hrecv
    recv_eq := fun _ => hrecv
    refused := Or.inl rfl
    refusedLive := rfl
    registered := id
    received := by rw [hdown]
    emitted := by
      rcases hspec.emits with ⟨-, he, -⟩ | ⟨p, -, -, he, -⟩ | ⟨-, he, -⟩
      · exact he ▸ List.prefix_refl _
      · rw [he]; exact List.prefix_append _ _
      · exact he ▸ List.prefix_refl _
    carries := fun got hg => hspec.carries hh hg
    drained := fun hd _ => absurd hd hspec.running }

theorem Half.spec_down {a : DownAction} (hh : h.Honest) (hs : h.side.stepDown a = some (side, o)) :
    h.LocalSpec { h with side := side, ctl := h.ctl ++ o.toList } := by
  obtain ⟨hinv, hspec, hup⟩ := hh.side.stepDown hs
  have hsend : Half.sendSum { h with side := side, ctl := h.ctl ++ o.toList } = h.sendSum := by
    simp only [Half.sendSum, hup, hspec.frame.sendAvailable]
  have hcan : h.side.flow.cancelled = true → side.flow.cancelled = true := fun hc => by
    rcases hspec.status with hst | hst
    · rw [hst.1]; exact hc
    · exact hst.1
  exact {
    honest := {
      side := hinv
      negotiated := hspec.frame.negotiated.trans hh.negotiated
      unregistered := fun hr => hcan (hh.unregistered hr)
      aborted := fun hv => by
        rcases hspec.status with hst | hst
        · rw [hst.2] at hv
          exact hcan (hh.aborted hv)
        · exact hst.1
      out := hh.out
      ctl := fun m hm => by
        rcases List.mem_append.mp hm with hm | hm
        · exact hh.ctl m hm
        · rcases hspec.emits with rfl | ⟨n, rfl, hpos, hle⟩
          · cases hm
          · rw [List.mem_singleton.mp hm]
            exact Or.inr ⟨n, rfl, hpos, hle⟩
      wire := hh.wire
      close := fun hc => by rw [hup]; exact hh.close hc }
    sendLimit := hspec.frame.sendLimit
    receiveLimit := hspec.frame.receiveLimit
    fin := hspec.frame.fin
    cancelled := hcan
    send_le := Nat.le_of_eq hsend
    send_eq := fun _ => hsend
    recv_le := by
      have := hspec.balance_le hh.negotiated
      simp only [Half.recvSum, winTotal_append, winTotal_toList]
      omega
    recv_eq := fun hc => by
      have := hspec.balance hh.negotiated hc
      simp only [Half.recvSum, winTotal_append, winTotal_toList]
      omega
    refused := Or.inl rfl
    refusedLive := rfl
    registered := id
    received := hspec.received
    emitted := hup ▸ List.prefix_refl _
    carries := fun got hg => by
      refine ⟨by rw [hup]; exact hg.wire, fun hv => ?_, fun hc => by rw [hup]; exact hg.closed hc⟩
      rw [hup]
      refine hg.whole ?_
      rcases hspec.status with hst | hst
      · rw [← hst.2]; exact hv
      · rw [hst.2] at hv; cases hv
    drained := fun hd hs => ⟨by rw [hup]; exact hd, hs, by rw [hup]⟩ }

/-- Dropping one record from the way keeps `CLOSE` last. -/
theorem close_last_of_drop {xs ys : List Msg} (hc : .close ∈ xs ++ ys)
    (h : ∃ before, xs ++ m :: ys = before ++ [.close] ∧ .close ∉ before) :
    ∃ before, xs ++ ys = before ++ [.close] ∧ .close ∉ before := by
  obtain ⟨before, heq, hno⟩ := h
  rcases List.eq_nil_or_concat ys with rfl | ⟨ys', y, rfl⟩
  · -- the record dropped is the last one, so the rest has no `CLOSE`
    rw [List.append_nil] at hc
    obtain ⟨rfl, -⟩ := List.append_inj' heq rfl
    exact absurd hc hno
  · have heq' : (xs ++ m :: ys') ++ [y] = before ++ [.close] := by simpa using heq
    obtain ⟨rfl, hy⟩ := List.append_inj' heq' rfl
    refine ⟨xs ++ ys', by simp only [List.concat_eq_append, List.append_assoc, hy], ?_⟩
    intro hmem
    apply hno
    rcases List.mem_append.mp hmem with hmem | hmem
    · exact List.mem_append_left _ hmem
    · exact List.mem_append_right _ (List.mem_cons_of_mem _ hmem)

namespace Half

/-- An output record that reaches the wire. -/
theorem Carries.write {out : List Msg} {got : Bytes} (hh : h.Honest) (ho : h.out = m :: out)
    (hv : h.side.flow.outputValid = true) (hg : h.Carries got) :
    Half.Carries { h with out := out, wire := h.wire ++ [m] } got := by
  have hwhole := hg.whole hv
  have hall : got ++ dataOf (h.wire ++ [m]) ++ dataOf out = h.side.up.emitted := by
    rw [← hwhole, ho, dataOf_cons m out]
    simp only [dataOf_append, List.append_assoc]
  refine ⟨⟨dataOf out, hall⟩, fun _ => hall, fun hc => ?_⟩
  -- after `CLOSE` the lane is empty
  have hm : m.isStream = true := hh.out m (by rw [ho]; exact List.mem_cons_self)
  have hst : h.stream = (h.wire ++ [m]).filter Msg.isStream ++ out.filter Msg.isStream := by
    simp [stream, ho, List.filter_append, hm]
  have hmem : .close ∈ (h.wire ++ [m]).filter Msg.isStream := List.mem_filter.mpr ⟨hc, rfl⟩
  obtain ⟨-, before, heq, hno⟩ := hh.close (by rw [hst]; exact List.mem_append_left _ hmem)
  have hnil : out.filter Msg.isStream = [] := by
    rcases List.eq_nil_or_concat (out.filter Msg.isStream) with hnil | ⟨rest, x, hx⟩
    · exact hnil
    · rw [hst, hx, List.concat_eq_append, ← List.append_assoc] at heq
      obtain ⟨hb, -⟩ := List.append_inj' heq rfl
      exact absurd (hb ▸ List.mem_append_left _ hmem) hno
  have hdata : dataOf out = [] := by rw [← dataOf_filter, hnil]; rfl
  rw [hdata, List.append_nil] at hall
  exact hall

theorem spec_writeOutput {out : List Msg} (hh : h.Honest) (ho : h.out = m :: out) :
    h.LocalSpec { h with
      out := out, wire := if h.side.flow.outputValid then h.wire ++ [m] else h.wire } := by
  have hm : m.isStream = true := hh.out m (by rw [ho]; exact List.mem_cons_self)
  have hwin := winAmount_of_isStream hm
  have hold : h.stream = h.wire.filter Msg.isStream ++ m :: out.filter Msg.isStream := by
    simp [stream, ho, List.filter_append, hm]
  have hout : ∀ x ∈ out, x.isStream = true := fun x hx =>
    hh.out x (by rw [ho]; exact List.mem_cons_of_mem _ hx)
  cases hv : h.side.flow.outputValid with
  | true =>
    have hnew : stream { h with out := out, wire := h.wire ++ [m] } = h.stream := by
      rw [hold]
      simp [stream, List.filter_append, hm]
    have hsend : sendSum { h with out := out, wire := h.wire ++ [m] } = h.sendSum := by
      simp only [sendSum, ho, dataBytes_append, dataBytes_cons, dataBytes_nil]
      omega
    have hrecv : recvSum { h with out := out, wire := h.wire ++ [m] } = h.recvSum := by
      simp [recvSum, hwin]
    rw [if_pos rfl]
    exact { LocalSpec.refl hh with
      honest := { hh with
        out := hout
        wire := fun x hx => by
          rcases List.mem_append.mp hx with hx | hx
          · exact hh.wire x hx
          · rw [List.mem_singleton.mp hx]; exact Or.inl hm
        close := fun hc => by
          rw [hnew] at hc ⊢
          exact hh.close hc }
      send_le := Nat.le_of_eq hsend
      send_eq := fun _ => hsend
      recv_le := Nat.le_of_eq hrecv
      recv_eq := fun _ => hrecv
      carries := fun got hg => hg.write hh ho hv
      drained := fun hd hs => ⟨hd, by rw [hnew]; exact hs, rfl⟩ }
  | false =>
    have hcan := hh.aborted hv
    have hnew : stream { h with out := out }
        = h.wire.filter Msg.isStream ++ out.filter Msg.isStream := by
      simp [stream, List.filter_append]
    rw [if_neg Bool.false_ne_true]
    exact { LocalSpec.refl hh with
      honest := { hh with
        out := hout
        close := fun hc => by
          rw [hnew] at hc ⊢
          have hmem : .close ∈ h.stream := by
            rw [hold]
            rcases List.mem_append.mp hc with hc | hc
            · exact List.mem_append_left _ hc
            · exact List.mem_append_right _ (List.mem_cons_of_mem _ hc)
          obtain ⟨hdone, hlast⟩ := hh.close hmem
          rw [hold] at hlast
          exact ⟨hdone, close_last_of_drop hc hlast⟩ }
      send_le := by
        simp only [sendSum, ho, dataBytes_cons]
        omega
      send_eq := fun hc => by simp [hcan] at hc
      carries := fun got hg => ⟨hg.wire, fun hv' => by simp [hv] at hv', hg.closed⟩
      drained := fun hd hs => by
        rw [hold] at hs
        simp at hs }

theorem spec_writeControl {ctl : List Msg} (hh : h.Honest) (hc : h.ctl = m :: ctl) :
    h.LocalSpec { h with
      ctl := ctl
      wire := if m = .rst ∨ h.side.flow.outputValid then h.wire ++ [m] else h.wire } := by
  have hm := hh.ctl m (by rw [hc]; exact List.mem_cons_self)
  have hns : m.isStream = false := by
    rcases hm with rfl | ⟨n, rfl, -⟩ <;> rfl
  have hdl : m.dataLen = 0 := by
    rcases hm with rfl | hw
    · rfl
    · exact hw.dataLen
  have hctl : ∀ x ∈ ctl, x = .rst ∨ IsWin x := fun x hx =>
    hh.ctl x (by rw [hc]; exact List.mem_cons_of_mem _ hx)
  by_cases hv : m = .rst ∨ h.side.flow.outputValid = true
  · have hnew : stream { h with ctl := ctl, wire := h.wire ++ [m] } = h.stream := by
      simp [stream, List.filter_append, hns]
    have hsend : sendSum { h with ctl := ctl, wire := h.wire ++ [m] } = h.sendSum := by
      simp [sendSum, hdl]
    have hrecv : recvSum { h with ctl := ctl, wire := h.wire ++ [m] } = h.recvSum := by
      simp only [recvSum, hc, winTotal_append, winTotal_cons, winTotal_nil]
      omega
    have hdata : dataOf (h.wire ++ [m]) = dataOf h.wire := by
      rw [dataOf_append, dataOf_of_not_isStream hns, List.append_nil]
    rw [if_pos hv]
    exact { LocalSpec.refl hh with
      honest := { hh with
        ctl := hctl
        wire := fun x hx => by
          rcases List.mem_append.mp hx with hx | hx
          · exact hh.wire x hx
          · rw [List.mem_singleton.mp hx]; exact Or.inr hm
        close := fun hcl => by
          rw [hnew] at hcl ⊢
          exact hh.close hcl }
      send_le := Nat.le_of_eq hsend
      send_eq := fun _ => hsend
      recv_le := Nat.le_of_eq hrecv
      recv_eq := fun _ => hrecv
      carries := fun got hg => by
        refine ⟨by rw [hdata]; exact hg.wire, fun hval => by rw [hdata]; exact hg.whole hval, ?_⟩
        intro hcl
        rw [hdata]
        rcases List.mem_append.mp hcl with hcl | hcl
        · exact hg.closed hcl
        · rw [← List.mem_singleton.mp hcl] at hns
          cases hns
      drained := fun hd hs => ⟨hd, by rw [hnew]; exact hs, rfl⟩ }
  · have hcan : h.side.flow.cancelled = true :=
      hh.aborted (Bool.not_eq_true _ ▸ fun hval => hv (Or.inr hval))
    rw [if_neg hv]
    exact { LocalSpec.refl hh with
      honest := { hh with ctl := hctl }
      recv_le := by
        simp only [recvSum, hc, winTotal_cons]
        omega
      recv_eq := fun hc' => by simp [hcan] at hc'
      carries := fun got hg => ⟨hg.wire, hg.whole, hg.closed⟩ }

theorem spec_reject (hh : h.Honest) :
    h.LocalSpec { (if h.registered then h.remove false else h) with refused := none } := by
  cases hr : h.registered with
  | true =>
    have hs := spec_remove hh false
    simp only [if_true]
    exact { hs with
      honest := { hs.honest with }
      refused := Or.inr ⟨rfl, rfl⟩
      carries := fun got hg => { hs.carries got hg with } }
  | false =>
    have hs := LocalSpec.refl hh
    simp only [Bool.false_eq_true, if_false]
    exact { hs with
      honest := { hh with }
      refused := Or.inr ⟨rfl, hr⟩
      carries := fun got hg => { hg with } }

theorem spec_local {h h' : Half} {act : HalfAction} (hh : h.Honest) (hs : h.local act = some h') :
    h.LocalSpec h' := by
  cases act with
  | connected =>
    simp only [Half.local] at hs
    split at hs
    · cases hs
      exact { LocalSpec.refl hh with
        honest := { hh with }, carries := fun got hg => { hg with } }
    · cases hs
  | up a =>
    simp only [Half.local] at hs
    split at hs
    · obtain ⟨⟨side, o⟩, hstep, rfl⟩ := Option.map_eq_some_iff.mp hs
      exact spec_up hh hstep
    · cases hs
  | down a =>
    simp only [Half.local] at hs
    split at hs
    · obtain ⟨⟨side, o⟩, hstep, rfl⟩ := Option.map_eq_some_iff.mp hs
      exact spec_down hh hstep
    · cases hs
  | writeOutput =>
    simp only [Half.local] at hs
    split at hs
    · rename_i m out ho
      cases hs
      exact spec_writeOutput hh ho
    · cases hs
  | writeControl =>
    simp only [Half.local] at hs
    split at hs
    · rename_i m ctl hc
      cases hs
      exact spec_writeControl hh hc
    · cases hs
  | dropReset =>
    simp only [Half.local] at hs
    split at hs
    · rename_i ctl hc
      cases hs
      refine spec_ctl hh (fun m hm => hh.ctl m (by rw [hc]; exact List.mem_cons_of_mem _ hm)) ?_
      simp [hc, Msg.winAmount]
    · cases hs
  | deliver known => cases hs
  | reject =>
    simp only [Half.local] at hs
    split at hs
    · cases hs
      exact spec_reject hh
    · cases hs
  | finish =>
    simp only [Half.local] at hs
    split at hs
    · cases hs
      exact spec_remove hh true
    · cases hs
  | abort =>
    simp only [Half.local] at hs
    split at hs
    · cases hs
      exact spec_remove hh false
    · cases hs
  | sendReset =>
    simp only [Half.local] at hs
    split at hs
    · cases hs
    · cases hs
      refine spec_ctl hh (fun m hm => ?_) (by simp [Msg.winAmount])
      rcases List.mem_append.mp hm with hm | hm
      · exact hh.ctl m hm
      · exact Or.inl (List.mem_singleton.mp hm)

theorem LocalSpec.refused_le {h h' : Half} (hs : h.LocalSpec h') (size : Msg → Nat) :
    optSum size h'.refused ≤ optSum size h.refused := by
  rcases hs.refused with hr | ⟨hr, -⟩
  · rw [hr]
  · rw [hr]; exact Nat.zero_le _

theorem LocalSpec.refused_eq {h h' : Half} (hs : h.LocalSpec h')
    (hc : h'.side.flow.cancelled = false) : h'.refused = h.refused := by
  rcases hs.refused with hr | ⟨-, hreg⟩
  · exact hr
  · rw [hs.honest.unregistered hreg] at hc; cases hc

theorem LocalSpec.uncancelled {h h' : Half} (hs : h.LocalSpec h')
    (hc : h'.side.flow.cancelled = false) : h.side.flow.cancelled = false := by
  cases hh : h.side.flow.cancelled with
  | false => rfl
  | true => rw [hs.cancelled hh] at hc; cases hc

theorem Honest.new (epoch : Nat) (peer window : MuxWindow) (chunk : ChunkSize) (pre : Bytes) :
    (Half.new epoch peer window chunk pre).Honest where
  side := by
    refine Side.Inv.new epoch (some peer.bytes) ?_ chunk.one_le pre
    have := window.bytes_le
    simp only [u32Max]
    omega
  negotiated := rfl
  unregistered := by simp [Half.new]
  aborted := by simp [Half.new, Side.new, Flow.new]
  out := by simp [Half.new]
  ctl := by simp [Half.new]
  wire := by simp [Half.new]
  close := by simp [Half.new, stream]

/-! ## 3. A record arrives -/

/-- The end whose oldest record the peer's reader has just taken. -/
def pop (h : Half) : Half := { h with wire := h.wire.tail }

theorem stream_pop (hw : h.wire = m :: ws) :
    h.stream = if m.isStream then m :: h.pop.stream else h.pop.stream := by
  simp only [stream, pop, hw, List.cons_append, List.filter_cons, List.tail_cons]

theorem sendSum_pop (hw : h.wire = m :: ws) : h.sendSum = h.pop.sendSum + m.dataLen := by
  simp only [sendSum, pop, hw, List.tail_cons, dataBytes_cons]
  omega

theorem recvSum_pop (hw : h.wire = m :: ws) : h.recvSum = h.pop.recvSum + m.winAmount := by
  simp only [recvSum, pop, hw, List.tail_cons, winTotal_cons]
  omega

theorem stream_pop_nil (hw : h.wire = m :: ws) (hs : h.stream = []) : h.pop.stream = [] := by
  rw [stream_pop hw] at hs
  split at hs
  · cases hs
  · exact hs

theorem Honest.pop (hh : h.Honest) (hw : h.wire = m :: ws) : h.pop.Honest :=
  { hh with
    wire := fun x hx => hh.wire x (List.mem_of_mem_tail hx)
    close := fun hc => by
      have hst := stream_pop hw
      cases hm : m.isStream with
      | false =>
        rw [hm, if_neg Bool.false_ne_true] at hst
        rw [← hst] at hc ⊢
        exact hh.close hc
      | true =>
        rw [hm, if_pos rfl] at hst
        obtain ⟨hdone, hlast⟩ := hh.close (by rw [hst]; exact List.mem_cons_of_mem _ hc)
        rw [hst] at hlast
        exact ⟨hdone, @close_last_of_drop _ [] _ hc hlast⟩ }

/-- Once `CLOSE` is the oldest record, it is the only one. -/
theorem Honest.close_only (hh : h.Honest) (hw : h.wire = .close :: ws) :
    h.side.up.phase = .done ∧ h.pop.stream = [] := by
  have hst : h.stream = .close :: h.pop.stream := stream_pop hw
  obtain ⟨hdone, before, heq, hno⟩ := hh.close (by rw [hst]; exact List.mem_cons_self)
  rw [hst] at heq
  cases before with
  | nil => exact ⟨hdone, (List.cons.inj heq).2⟩
  | cons x xs =>
    rw [List.cons_append] at heq
    rw [← (List.cons.inj heq).1] at hno
    exact absurd List.mem_cons_self hno

end Half

/-- **What an accepted record changes at the end that reads it.** -/
structure Side.Accepted (s : Side) (m : Msg) (s' : Side) : Prop where
  up : s'.up = s.up
  phase : s'.down.phase = s.down.phase
  pending : s'.down.pending = s.down.pending
  status : s.flow.SameStatus s'.flow
  bytes : s'.flow.bytes = s.flow.bytes + m.dataLen
  available : s'.flow.sendAvailable = s.flow.sendAvailable + m.winAmount
  fin : s'.flow.fin = true → s.flow.fin = true ∨ m = .close
  received : s'.down.received = s.down.received ++ dataOf [m]
  open_of_isStream : m.isStream = true → s.flow.cancelled = false
  fin_of_isStream : m.isStream = true → s'.flow.fin = true → m = .close

theorem Side.accepted_of_enqueue {s : Side} {g : Flow} {received : Bytes} {payload : Bytes}
    {fin : Bool} (h : s.flow.enqueue payload fin = .ok g) (hlen : m.dataLen = payload.length)
    (hwin : m.winAmount = 0) (hfin : fin = true → m = .close)
    (hrec : received = s.down.received ++ dataOf [m]) :
    s.Accepted m { s with flow := g, down := { s.down with received := received } } := by
  obtain ⟨-, hcan, hst, hav, -, hf, -, -, hby, -⟩ := Flow.enqueue_ok h
  have hclose : g.fin = true → m = .close := fun hfin' => hfin (hf ▸ hfin')
  exact ⟨rfl, rfl, rfl, hst, by rw [hlen]; exact hby, by rw [hwin]; exact hav,
    fun hfin' => Or.inr (hclose hfin'), hrec, fun _ => hcan, fun _ => hclose⟩

theorem Side.accepted_of_dispatch {s s' : Side} (hn : s.flow.negotiated = true)
    (hm : m.isStream = true ∨ IsWin m) (h : s.dispatch m.flags m.payload = .ok s') :
    s.Accepted m s' := by
  unfold Side.dispatch at h
  cases hd : s.flow.dispatch m.flags m.payload with
  | error e => rw [hd] at h; cases h
  | ok g =>
    rw [hd] at h
    cases h
    rcases hm with hm | ⟨n, rfl, -, hle⟩
    · cases m with
      | data payload =>
        have henq := (Flow.dispatch_data s.flow payload).symm.trans hd
        refine Side.accepted_of_enqueue henq rfl rfl (by simp) ?_
        simp [Msg.flags, Msg.payload, flagData, flagWin, hasFlag, dataOf]
      | close =>
        have henq := (Flow.dispatch_close s.flow).symm.trans hd
        refine Side.accepted_of_enqueue henq rfl rfl (fun _ => rfl) ?_
        simp [Msg.flags, Msg.payload, flagData, flagClose, hasFlag, dataOf]
      | opening c t => cases hm
      | win n => cases hm
      | rst => cases hm
      | cap k w => cases hm
    · have hlt : n < 256 ^ 4 := by
        simp only [u32Max] at hle
        omega
      have hadd := (Flow.dispatch_win hn hlt).symm.trans hd
      split at hadd
      · cases hadd
      · cases hadd
        refine ⟨rfl, rfl, rfl, ⟨rfl, rfl, rfl, rfl, rfl, rfl⟩, rfl, rfl, Or.inl, ?_, ?_, ?_⟩
        · simp [Msg.flags, dataOf]
        · simp [Msg.isStream]
        · simp [Msg.isStream]

/-- **The three outcomes of a record.**  It reaches no stream or ends it; it is accepted; or it is
refused. -/
theorem Half.handle_cases (hh : h.Honest) {known : Bool}
    (hk : known = true ∨ h.registered = false) (m : Msg) :
    (h.LocalSpec (h.handle known m) ∧ (h.handle known m).registered = false) ∨
    (m ≠ .rst ∧ ∃ side, h.side.dispatch m.flags m.payload = .ok side ∧
      h.handle known m = { h with side := side }) ∨
    (m ≠ .rst ∧ ∃ e, h.side.dispatch m.flags m.payload = .error e ∧
      h.handle known m = { h with
        refused := some m
        refusedLive := h.refusedLive || (m.isStream && !h.side.flow.cancelled) }) := by
  cases known with
  | false =>
    rcases hk with hk | hk
    · cases hk
    · exact Or.inl ⟨Half.LocalSpec.refl hh, hk⟩
  | true =>
    simp only [Half.handle, Bool.not_true, Bool.false_eq_true, if_false]
    by_cases hrst : m = .rst
    · simp only [hrst, if_true]
      refine Or.inl ?_
      cases hr : h.registered with
      | true => exact ⟨Half.spec_remove hh false, rfl⟩
      | false => exact ⟨Half.LocalSpec.refl hh, hr⟩
    · simp only [hrst, if_false]
      cases hd : h.side.dispatch m.flags m.payload with
      | ok side => exact Or.inr (Or.inl ⟨hrst, side, rfl, rfl⟩)
      | error e => exact Or.inr (Or.inr ⟨hrst, e, rfl, rfl⟩)

theorem Half.Honest.accept (hh : h.Honest) (hs : h.side.dispatch m.flags m.payload = .ok side)
    (ha : h.side.Accepted m side) : Half.Honest { h with side := side } :=
  { hh with
    side := hh.side.dispatch hs
    negotiated := ha.status.negotiated.trans hh.negotiated
    unregistered := fun hr => ha.status.cancelled.trans (hh.unregistered hr)
    aborted := fun hv => ha.status.cancelled.trans (hh.aborted (ha.status.outputValid ▸ hv))
    close := fun hc => by
      show side.up.phase = .done ∧ _
      rw [ha.up]
      exact hh.close hc }

end BibaVpn.Mux
