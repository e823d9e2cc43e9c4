/-
# One stream between two honest endpoints

The two ends of one negotiated stream, each reading what the other has on the WebSocket.  Every run
of the program, seen from one stream, is a run of this model.

* §2 is the conserved quantity.  `inFlight a b` counts, for the direction from `a` to `b`, what `a`
  may still send, what it has taken or sent and `b` has not enqueued, what `b` holds or has
  consumed, and the credit on its way back.  It is `b`'s window while neither end is cancelled, and
  it never exceeds it.
* §3 puts both directions together into the invariant of the pair.
-/
import BibaVpn.Lib.Lts
import BibaVpn.Mux.Half

namespace BibaVpn.Mux

open Machine Lts

/-! ## 1. The pair -/

structure Pair where
  a : Half
  b : Half
  deriving DecidableEq, Repr

/-- The stream has just been allocated by the client, `a`, with `pre` read before; the other end is
as it will be when `OPEN` has arrived. -/
def Pair.start (wa wb : MuxWindow) (ca cb : ChunkSize) (ea eb : Nat) (pre : Bytes) : Pair where
  a := Half.new ea wb wa ca pre
  b := Half.new eb wa wb cb []

/-- One step of the end `a`. -/
def Pair.stepA (p : Pair) : HalfAction → Option Pair
  | .deliver known =>
    match p.a.refused, p.b.wire with
    | none, m :: wire =>
      if known ∨ p.a.registered = false then
        some ⟨p.a.handle known m, { p.b with wire := wire }⟩
      else none
    | _, _ => none
  | act => (p.a.local act).map fun a => { p with a := a }

def Pair.swap (p : Pair) : Pair := ⟨p.b, p.a⟩

/-- One step of the pair: of `a`, or of `b`. -/
def Pair.step (p : Pair) : Bool × HalfAction → Option Pair
  | (true, act) => p.stepA act
  | (false, act) => (p.swap.stepA act).map Pair.swap

/-! ## 2. One direction -/

/-- **The conserved quantity of the direction from `a` to `b`.** -/
def inFlight (a b : Half) : Nat :=
  a.sendSum + optSum Msg.dataLen b.refused + b.recvSum + optSum Msg.winAmount a.refused

/-- **The direction from `s` to `r`, under `r`'s window `w`.**  The sum is never above the window
and is the window while neither end is cancelled; after FIN nothing of the direction is left on the
way; and a refused record is never a credit. -/
structure Dir (w : Nat) (s r : Half) : Prop where
  sendLimit : s.side.flow.sendLimit = w
  receiveLimit : r.side.flow.receiveLimit = w
  le : inFlight s r ≤ w
  eq : s.side.flow.cancelled = false → r.side.flow.cancelled = false → inFlight s r = w
  fin : r.side.flow.fin = true → s.side.up.phase = .done ∧ s.stream = []
  refused : ∀ m, s.refused = some m → m.isStream = true

variable {w wa wb : Nat} {s r : Half} {m : Msg} {ws : List Msg} {side : Side} {p : Pair}

/-- A step of the sender keeps the direction. -/
theorem Dir.sender {s' : Half} (hd : Dir w s r) (hs : s.LocalSpec s') : Dir w s' r where
  sendLimit := hs.sendLimit.trans hd.sendLimit
  receiveLimit := hd.receiveLimit
  le := by
    have h1 := hs.send_le
    have h2 := hs.refused_le Msg.winAmount
    have h3 := hd.le
    simp only [inFlight] at h3 ⊢
    omega
  eq hc hr := by
    have h1 := hs.send_eq hc
    have h2 := hs.refused_eq hc
    have h3 := hd.eq (hs.uncancelled hc) hr
    simp only [inFlight, h2] at h3 ⊢
    omega
  fin hf := by
    obtain ⟨hdone, hnil, -⟩ := hs.drained (hd.fin hf).1 (hd.fin hf).2
    exact ⟨hdone, hnil⟩
  refused m hm := by
    rcases hs.refused with hr | ⟨hr, -⟩
    · exact hd.refused m (hr ▸ hm)
    · rw [hr] at hm; cases hm

/-- A step of the receiver keeps the direction. -/
theorem Dir.receiver {r' : Half} (hd : Dir w s r) (hs : r.LocalSpec r') : Dir w s r' where
  sendLimit := hd.sendLimit
  receiveLimit := hs.receiveLimit.trans hd.receiveLimit
  le := by
    have h1 := hs.recv_le
    have h2 := hs.refused_le Msg.dataLen
    have h3 := hd.le
    simp only [inFlight] at h3 ⊢
    omega
  eq hc hr := by
    have h1 := hs.recv_eq hr
    have h2 := hs.refused_eq hr
    have h3 := hd.eq hc (hs.uncancelled hr)
    simp only [inFlight, h2] at h3 ⊢
    omega
  fin hf := hd.fin (hs.fin ▸ hf)
  refused := hd.refused

/-- A record lost with its stream: the direction it belonged to has a cancelled end. -/
theorem Dir.pop_sender (hd : Dir w s r) (hw : s.wire = m :: ws)
    (hc : r.side.flow.cancelled = true) : Dir w s.pop r where
  sendLimit := hd.sendLimit
  receiveLimit := hd.receiveLimit
  le := by
    have h1 := Half.sendSum_pop hw
    have h2 := hd.le
    simp only [inFlight] at h2 ⊢
    have h3 : s.pop.refused = s.refused := rfl
    rw [h3]
    omega
  eq _ hr := by rw [hc] at hr; cases hr
  fin hf := ⟨(hd.fin hf).1, Half.stream_pop_nil hw (hd.fin hf).2⟩
  refused := hd.refused

/-- The same for the credit it may have carried. -/
theorem Dir.pop_receiver (hd : Dir w s r) (hw : r.wire = m :: ws)
    (hc : s.side.flow.cancelled = true) : Dir w s r.pop where
  sendLimit := hd.sendLimit
  receiveLimit := hd.receiveLimit
  le := by
    have h1 := Half.recvSum_pop hw
    have h2 := hd.le
    have h3 : r.pop.refused = r.refused := rfl
    simp only [inFlight, h3] at h2 ⊢
    omega
  eq hs _ := by rw [hc] at hs; cases hs
  fin := hd.fin
  refused := hd.refused

/-- An accepted record moves from the wire into the receiver's half of the sum. -/
theorem Dir.accept_data (hs : s.Honest) (hd : Dir w s r) (hw : s.wire = m :: ws)
    (ha : r.side.Accepted m side) : Dir w s.pop { r with side := side } := by
  have hsum : inFlight s.pop { r with side := side } = inFlight s r := by
    have h1 := Half.sendSum_pop hw
    have h2 : s.pop.refused = s.refused := rfl
    simp only [inFlight, Half.recvSum, Downlink.granting, ha.bytes, ha.pending, ha.phase, h2]
    omega
  exact {
    sendLimit := hd.sendLimit
    receiveLimit := ha.status.receiveLimit.trans hd.receiveLimit
    le := by rw [hsum]; exact hd.le
    eq := fun hc hr => by
      rw [hsum]
      exact hd.eq hc (ha.status.cancelled ▸ hr)
    fin := fun hf => by
      rcases ha.fin hf with hf | rfl
      · exact ⟨(hd.fin hf).1, Half.stream_pop_nil hw (hd.fin hf).2⟩
      · exact hs.close_only hw
    refused := hd.refused }

/-- An accepted credit moves from the wire into the sender's half of the sum. -/
theorem Dir.accept_win (hd : Dir w s r) (hw : r.wire = m :: ws) (ha : s.side.Accepted m side) :
    Dir w { s with side := side } r.pop := by
  have hsum : inFlight { s with side := side } r.pop = inFlight s r := by
    have h1 := Half.recvSum_pop hw
    have h2 : r.pop.refused = r.refused := rfl
    simp only [inFlight, Half.sendSum, ha.available, ha.up, h2]
    omega
  exact {
    sendLimit := ha.status.sendLimit.trans hd.sendLimit
    receiveLimit := hd.receiveLimit
    le := by rw [hsum]; exact hd.le
    eq := fun hc hr => by
      rw [hsum]
      exact hd.eq (ha.status.cancelled ▸ hc) hr
    fin := fun hf => by
      show side.up.phase = .done ∧ s.stream = []
      rw [ha.up]
      exact hd.fin hf
    refused := hd.refused }

/-- **An honest credit is accepted.**  What is on the way is within what the sender may add. -/
theorem Dir.win_accepted {n : Nat} (hs : s.Honest) (hd : Dir w s r) (hw : r.wire = .win n :: ws)
    (hpos : 0 < n) (hle : n ≤ u32Max) :
    s.side.flow.dispatch (Msg.win n).flags (Msg.win n).payload =
      .ok { s.side.flow with
        sendAvailable := s.side.flow.sendAvailable + n, sendReady := true } := by
  have hlt : n < 256 ^ 4 := by
    simp only [u32Max] at hle
    omega
  have hsum := hd.le
  have hlim := hd.sendLimit
  simp only [inFlight, Half.sendSum, Half.recvSum, hw, winTotal_cons, Msg.winAmount] at hsum
  refine (Flow.dispatch_win hs.negotiated hlt).trans ?_
  rw [if_neg]
  omega

/-- A refused record stays counted, at the end that refused it. -/
theorem Dir.refuse_data {live : Bool} (hd : Dir w s r) (hw : s.wire = m :: ws)
    (hr : r.refused = none) : Dir w s.pop { r with refused := some m, refusedLive := live } := by
  have hsum : inFlight s.pop { r with refused := some m, refusedLive := live } = inFlight s r := by
    have h1 := Half.sendSum_pop hw
    have h2 : s.pop.refused = s.refused := rfl
    simp only [inFlight, Half.recvSum, hr, optSum, h2]
    omega
  exact {
    sendLimit := hd.sendLimit
    receiveLimit := hd.receiveLimit
    le := by rw [hsum]; exact hd.le
    eq := fun hc hr' => by rw [hsum]; exact hd.eq hc hr'
    fin := fun hf => ⟨(hd.fin hf).1, Half.stream_pop_nil hw (hd.fin hf).2⟩
    refused := hd.refused }

theorem Dir.refuse_win {live : Bool} (hd : Dir w s r) (hw : r.wire = m :: ws)
    (hs : s.refused = none) (hm : m.isStream = true) :
    Dir w { s with refused := some m, refusedLive := live } r.pop := by
  have hwin := winAmount_of_isStream hm
  have hsum : inFlight { s with refused := some m, refusedLive := live } r.pop = inFlight s r := by
    have h1 := Half.recvSum_pop hw
    have h2 : r.pop.refused = r.refused := rfl
    simp only [inFlight, Half.sendSum, hs, optSum, h2]
    omega
  exact {
    sendLimit := hd.sendLimit
    receiveLimit := hd.receiveLimit
    le := by rw [hsum]; exact hd.le
    eq := fun hc hr => by rw [hsum]; exact hd.eq hc hr
    fin := hd.fin
    refused := fun x hx => by cases hx; exact hm }

/-! ## 3. The bytes of one direction -/

/-- **The bytes of the direction from `s` to `r`.**  What `r` received is the beginning of what `s`
emitted; while `r` takes records, the next ones are those on the way; and when `r` has seen FIN it
has all of them. -/
structure Way (s r : Half) : Prop where
  received : r.side.down.received <+: s.side.up.emitted
  carries : r.registered = true → r.refused = none → s.Carries r.side.down.received
  fin : r.side.flow.fin = true → r.side.down.received = s.side.up.emitted

/-- A step of the sender; `hf`: after FIN it has nothing left to send. -/
theorem Way.sender {s' : Half} (hw : Way s r) (hs : s.LocalSpec s')
    (hf : r.side.flow.fin = true → s.side.up.phase = .done ∧ s.stream = []) : Way s' r where
  received := hw.received.trans hs.emitted
  carries hr hn := hs.carries _ (hw.carries hr hn)
  fin hfin := by
    obtain ⟨-, -, hem⟩ := hs.drained (hf hfin).1 (hf hfin).2
    rw [hem]
    exact hw.fin hfin

theorem Way.receiver {r' : Half} (hw : Way s r) (hs : r.LocalSpec r') : Way s r' where
  received := by rw [hs.received]; exact hw.received
  carries hr hn := by
    rw [hs.received]
    rcases hs.refused with href | ⟨-, hreg⟩
    · exact hw.carries (hs.registered hr) (href ▸ hn)
    · rw [hreg] at hr; cases hr
  fin hfin := by
    rw [hs.received]
    exact hw.fin (hs.fin ▸ hfin)

/-- A record taken from the wire by an end that keeps what it had received. -/
theorem Way.pop (hw : Way s r) (hwire : s.wire = m :: ws)
    (hm : m.isStream = false ∨ r.registered = false ∨ r.refused ≠ none) : Way s.pop r where
  received := hw.received
  carries hr hn := by
    have hns : m.isStream = false := by
      rcases hm with hm | hm | hm
      · exact hm
      · rw [hm] at hr; cases hr
      · exact absurd hn hm
    have hg := hw.carries hr hn
    have hdata : dataOf s.wire = dataOf s.pop.wire := by
      rw [hwire, dataOf_cons, dataOf_of_not_isStream hns, Half.pop, hwire]
      rfl
    exact {
      wire := by rw [← hdata]; exact hg.wire
      whole := fun hv => by rw [← hdata]; exact hg.whole hv
      closed := fun hc => by rw [← hdata]; exact hg.closed (List.mem_of_mem_tail hc) }
  fin := hw.fin

/-- An accepted record: its payload is the new end of what was received. -/
theorem Way.accept (hs : s.Honest) (hr : r.Honest) (hw : Way s r) (hwire : s.wire = m :: ws)
    (href : r.refused = none) (hm : m.isStream = true) (ha : r.side.Accepted m side) :
    Way s.pop { r with side := side } := by
  have hreg : r.registered = true := by
    by_contra hne
    have hcan := hr.unregistered (Bool.not_eq_true _ ▸ hne)
    rw [ha.open_of_isStream hm] at hcan
    cases hcan
  have hg := hw.carries hreg href
  have hwd : dataOf s.wire = dataOf [m] ++ dataOf s.pop.wire := by
    rw [hwire, dataOf_cons, Half.pop, hwire]
    rfl
  have hrec := ha.received
  have hcar : s.pop.Carries side.down.received := {
    wire := by
      rw [hrec, List.append_assoc, ← hwd]
      exact hg.wire
    whole := fun hv => by
      rw [hrec, List.append_assoc _ (dataOf [m]), ← hwd]
      exact hg.whole hv
    closed := fun hc => by
      rw [hrec, List.append_assoc, ← hwd]
      exact hg.closed (List.mem_of_mem_tail hc) }
  refine ⟨(List.prefix_append _ _).trans hcar.wire, fun _ _ => hcar, fun hfin => ?_⟩
  -- the record that ends the stream is the last one on the way
  have hclose : m = .close := ha.fin_of_isStream hm hfin
  subst hclose
  obtain ⟨-, hnil⟩ := hs.close_only hwire
  have hdata : dataOf s.pop.wire = [] := by
    have : dataOf s.pop.stream = [] := by rw [hnil]; rfl
    rw [Half.stream, dataOf_filter, dataOf_append, List.append_eq_nil_iff] at this
    exact this.1
  have hend := hg.closed (by rw [hwire]; exact List.mem_cons_self)
  rw [hwd, hdata, List.append_nil, ← hrec] at hend
  exact hend

/-- An accepted credit changes nothing that was received. -/
theorem Way.accept_win (hw : Way s r) (hwire : s.wire = m :: ws) (hm : IsWin m)
    (ha : r.side.Accepted m side) : Way s.pop { r with side := side } := by
  obtain ⟨n, rfl, -⟩ := hm
  have hpop := hw.pop hwire (Or.inl rfl)
  have hrec : side.down.received = r.side.down.received := by
    rw [ha.received]
    exact List.append_nil _
  exact {
    received := by rw [hrec]; exact hpop.received
    carries := fun h1 h2 => by rw [hrec]; exact hpop.carries h1 h2
    fin := fun hf => by
      rw [hrec]
      rcases ha.fin hf with hf | hf
      · exact hpop.fin hf
      · cases hf }

/-- A record accepted by the sender: it emits and carries what it did before. -/
theorem Way.accepted (hw : Way s r) (ha : s.side.Accepted m side) :
    Way { s with side := side } r where
  received := by
    show _ <+: side.up.emitted
    rw [ha.up]
    exact hw.received
  carries h1 h2 := by
    have hg := hw.carries h1 h2
    refine ⟨?_, fun hv => ?_, fun hc => ?_⟩
    · show _ <+: side.up.emitted
      rw [ha.up]
      exact hg.wire
    · show _ = side.up.emitted
      rw [ha.up]
      exact hg.whole (ha.status.outputValid ▸ hv)
    · show _ = side.up.emitted
      rw [ha.up]
      exact hg.closed hc
  fin hf := by
    show _ = side.up.emitted
    rw [ha.up]
    exact hw.fin hf

/-! ## 4. The invariant of the pair -/

/-- **The invariant of the pair**: both ends honest, both directions accounted for. -/
structure Pair.Inv (wa wb : Nat) (p : Pair) : Prop where
  a : p.a.Honest
  b : p.b.Honest
  ab : Dir wb p.a p.b
  ba : Dir wa p.b p.a
  abWay : Way p.a p.b
  baWay : Way p.b p.a

theorem Pair.Inv.swap (h : p.Inv wa wb) : p.swap.Inv wb wa :=
  ⟨h.b, h.a, h.ba, h.ab, h.baWay, h.abWay⟩

/-- A record that is refused on an honest stream is `DATA` or `CLOSE`. -/
theorem Pair.Inv.isStream_of_refused {e : String} (h : p.Inv wa wb) (hw : p.b.wire = m :: ws)
    (hrst : m ≠ .rst) (he : p.a.side.dispatch m.flags m.payload = .error e) :
    m.isStream = true := by
  rcases h.b.wire m (by rw [hw]; exact List.mem_cons_self) with hm | rfl | ⟨n, rfl, hpos, hle⟩
  · exact hm
  · exact absurd rfl hrst
  · unfold Side.dispatch at he
    rw [h.ab.win_accepted h.a hw hpos hle] at he
    cases he

theorem Pair.Inv.deliver {known : Bool} (h : p.Inv wa wb)
    (hk : known = true ∨ p.a.registered = false) (hr : p.a.refused = none)
    (hw : p.b.wire = m :: ws) : Pair.Inv wa wb ⟨p.a.handle known m, p.b.pop⟩ := by
  have hb := h.b.pop hw
  rcases Half.handle_cases h.a hk m with ⟨hspec, hreg⟩ | ⟨hrst, side, hok, heq⟩ | ⟨hrst, e, he, heq⟩
  · have hcan := hspec.honest.unregistered hreg
    exact {
      a := hspec.honest
      b := hb
      ab := (h.ab.sender hspec).pop_receiver hw hcan
      ba := (h.ba.receiver hspec).pop_sender hw hcan
      abWay := { h.abWay.sender hspec h.ab.fin with }
      baWay := (h.baWay.receiver hspec).pop hw (Or.inr (Or.inl hreg)) }
  · have hm : m.isStream = true ∨ IsWin m := by
      rcases h.b.wire m (by rw [hw]; exact List.mem_cons_self) with hm | hm | hm
      · exact Or.inl hm
      · exact absurd hm hrst
      · exact Or.inr hm
    have ha := Side.accepted_of_dispatch h.a.negotiated hm hok
    rw [heq]
    exact {
      a := h.a.accept hok ha
      b := hb
      ab := h.ab.accept_win hw ha
      ba := h.ba.accept_data h.b hw ha
      abWay := { h.abWay.accepted ha with }
      baWay := by
        rcases hm with hm | hm
        · exact h.baWay.accept h.b h.a hw hr hm ha
        · exact h.baWay.accept_win hw hm ha }
  · have hm := h.isStream_of_refused hw hrst he
    rw [heq]
    exact {
      a := { h.a with }
      b := hb
      ab := h.ab.refuse_win hw hr hm
      ba := h.ba.refuse_data hw hr
      abWay := ⟨h.abWay.received, fun h1 h2 => { h.abWay.carries h1 h2 with }, h.abWay.fin⟩
      baWay := ⟨h.baWay.received, fun _ hn => (by cases hn), h.baWay.fin⟩ }

/-- **What a step of the end `a` can be**: its reader handles a record of the peer, or it moves by
itself. -/
theorem Pair.stepA_cases {q : Pair} {act : HalfAction} (h : p.stepA act = some q) :
    (∃ known, act = .deliver known ∧ (known = true ∨ p.a.registered = false) ∧ p.a.refused = none ∧
      ∃ m ws, p.b.wire = m :: ws ∧ q = ⟨p.a.handle known m, p.b.pop⟩) ∨
    (∃ a, p.a.local act = some a ∧ q = { p with a := a }) := by
  by_cases hact : ∃ known, act = .deliver known
  · obtain ⟨known, rfl⟩ := hact
    simp only [Pair.stepA] at h
    split at h
    · rename_i m ws hr hw
      split at h
      · rename_i hk
        cases h
        refine Or.inl ⟨known, rfl, hk, hr, m, ws, hw, ?_⟩
        simp only [Half.pop, hw, List.tail_cons]
      · cases h
    · cases h
  · have hlocal : p.stepA act = (p.a.local act).map fun a => { p with a := a } := by
      cases act <;> first | rfl | exact absurd ⟨_, rfl⟩ hact
    rw [hlocal] at h
    obtain ⟨a, ha, rfl⟩ := Option.map_eq_some_iff.mp h
    exact Or.inr ⟨a, ha, rfl⟩

theorem Pair.Inv.stepA {q : Pair} {act : HalfAction} (h : p.Inv wa wb) (hs : p.stepA act = some q) :
    q.Inv wa wb := by
  rcases Pair.stepA_cases hs with ⟨known, -, hk, hr, m, ws, hw, rfl⟩ | ⟨a, ha, rfl⟩
  · exact h.deliver hk hr hw
  · have hspec := Half.spec_local h.a ha
    exact ⟨hspec.honest, h.b, h.ab.sender hspec, h.ba.receiver hspec,
      h.abWay.sender hspec h.ab.fin, h.baWay.receiver hspec⟩

theorem Pair.Inv.step {q : Pair} {act : Bool × HalfAction} (h : p.Inv wa wb)
    (hs : p.step act = some q) : q.Inv wa wb := by
  obtain ⟨who, act⟩ := act
  cases who with
  | true => exact h.stepA hs
  | false =>
    obtain ⟨q', hq, rfl⟩ := Option.map_eq_some_iff.mp hs
    exact (h.swap.stepA hq).swap

theorem Dir.start (es er : Nat) (ws wr : MuxWindow) (cs cr : ChunkSize) (pres prer : Bytes) :
    Dir wr.bytes (Half.new es wr ws cs pres) (Half.new er ws wr cr prer) := by
  have hsum : inFlight (Half.new es wr ws cs pres) (Half.new er ws wr cr prer) = wr.bytes := by
    simp [inFlight, Half.sendSum, Half.recvSum, Half.new, Side.new, Flow.new, Uplink.taken,
      Downlink.granting, optSum]
  exact {
    sendLimit := rfl
    receiveLimit := rfl
    le := Nat.le_of_eq hsum
    eq := fun _ _ => hsum
    fin := by simp [Half.new, Side.new, Flow.new]
    refused := by simp [Half.new] }

theorem Way.start (es er : Nat) (ws wr : MuxWindow) (cs cr : ChunkSize) (pres prer : Bytes) :
    Way (Half.new es wr ws cs pres) (Half.new er ws wr cr prer) where
  received := List.prefix_refl _
  carries _ _ := ⟨List.prefix_refl _, fun _ => rfl, fun _ => rfl⟩
  fin := by simp [Half.new, Side.new, Flow.new]

theorem Pair.Inv.start (wa wb : MuxWindow) (ca cb : ChunkSize) (ea eb : Nat) (pre : Bytes) :
    (Pair.start wa wb ca cb ea eb pre).Inv wa.bytes wb.bytes :=
  ⟨Half.Honest.new ea wb wa ca pre, Half.Honest.new eb wa wb cb [],
    Dir.start ea eb wa wb ca cb pre [], Dir.start eb ea wb wa cb ca [] pre,
    Way.start ea eb wa wb ca cb pre [], Way.start eb ea wb wa cb ca [] pre⟩

theorem Pair.Inv.reachable {wa wb : MuxWindow} {ca cb : ChunkSize} {ea eb : Nat} {pre : Bytes}
    (h : Reachable Pair.step (Pair.start wa wb ca cb ea eb pre) p) : p.Inv wa.bytes wb.bytes :=
  Reachable.invariant h (Pair.Inv.start wa wb ca cb ea eb pre) fun _ _ _ hI hs => hI.step hs

/-! ## 5. What reaches the other socket -/

/-- **The stream from one side to the other is intact.**  What was written to the socket is the
beginning of the prefix and what was read from the other socket; and if the writing pump ended by
seeing FIN, it is all of it, up to the EOF at which the other pump ended. -/
structure Intact (s r : Side) : Prop where
  written : r.down.written <+: s.up.source
  complete : r.down.sawFin = true → s.up.phase = .done ∧ r.down.written = s.up.source

/-- An uplink that is done has emitted everything. -/
theorem Uplink.Inv.emitted_of_done {u : Uplink} {f : Flow} (h : u.Inv f) (hd : u.phase = .done) :
    u.emitted = u.source := by
  have hflow := h.flow (by simp [hd])
  rw [h.ended (Or.inr hd), List.append_nil] at hflow
  simpa [Uplink.held, hd] using hflow

theorem Way.intact (hs : s.Honest) (hr : r.Honest) (hd : Dir w s r) (hw : Way s r) :
    Intact s.side r.side where
  written :=
    ((List.prefix_append _ _).trans hr.side.down.written_le).trans
      (hw.received.trans hs.side.up.emitted_le)
  complete hfin := by
    obtain ⟨hf, hwr, -⟩ := hr.side.down.fin hfin
    obtain ⟨hdone, -⟩ := hd.fin hf
    exact ⟨hdone, by rw [hwr, hw.fin hf, hs.side.up.emitted_of_done hdone]⟩

/-- In every reachable state of the pair both directions are intact. -/
theorem Pair.Inv.intact (h : p.Inv wa wb) : Intact p.a.side p.b.side ∧ Intact p.b.side p.a.side :=
  ⟨h.abWay.intact h.a h.b h.ab, h.baWay.intact h.b h.a h.ba⟩

end BibaVpn.Mux
