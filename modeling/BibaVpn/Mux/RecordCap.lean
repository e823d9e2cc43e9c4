/-
# The size cap of the mux writer

The writer of a mux session fails with `mux ws binary cap` when a serialized record is longer than
`--max-ws-binary`, which ends the session and every stream in it.  No record of an endpoint should
get there: `bridge` cuts its `DATA` to what the cap leaves after the worst overhead and the nine
bytes of the header, and everything else is short.  The longest of the rest is the target of `OPEN`,
a name of 255 bytes with type, length and port.

* §1 is the configuration and the writer on one record;
* §2 is the length of a serialized record;
* §3 follows the payloads through an endpoint: an `Endpoint` keeps the targets of its opens, the
  chunks of its pumps and the records in its lanes within their bounds (`Endpoint.Compact`);
* §4 is the result, for every configuration that has room for the longest `OPEN`, every run, every
  record that the endpoint holds, and all draws.
-/
import BibaVpn.Mux.Session
import BibaVpn.Wire.Address
import BibaVpn.Wire.MuxWire

namespace BibaVpn.Mux

open Machine Lts Wire Fallible

/-! ## 1. The writer -/

/-- What `bridge` and the writer read of `MuxClientConfig`. -/
structure MuxCfg where
  maxPad : UInt8
  decoyMax : UInt8
  padMode : PadMode
  maxWsBinary : Nat
  transportV2 : Bool
  usize : maxWsBinary ≤ u64Max

def MuxCfg.maxTcpPayload (cfg : MuxCfg) : Nat :=
  maxTcpPayloadPerWsMessage cfg.transportV2 cfg.decoyMax cfg.maxPad cfg.maxWsBinary

/-- `max_chunk` of `bridge`: `.saturating_sub(9).clamp(1, 64 * 1024)`. -/
def MuxCfg.maxChunk (cfg : MuxCfg) : ChunkSize where
  bytes := min (max (cfg.maxTcpPayload - 9) 1) (64 * 1024)
  one_le := by omega
  le_max := Nat.min_le_right _ _

/-- The keys of a session that was configured so: `transport_v2` says whether there are any, and
they were made with its `decoy_max`. -/
structure MuxCfg.Keys (cfg : MuxCfg) (crypto : Option InPlace.SessionCrypto) : Prop where
  v2 : crypto.isSome = cfg.transportV2
  decoy : ∀ c, crypto = some c → c.decoyMax = cfg.decoyMax

/-- The writer of `run` on one record: it is serialized, and its length is looked at. -/
def MuxCfg.writeRecord (cfg : MuxCfg) (client : Bool) (crypto : Option InPlace.SessionCrypto)
    (adaptive : AdaptivePadState) (coins : InPlace.RecordCoins) (r : Rec) :
    Except String (Bytes × Option InPlace.SessionCrypto × Option AdaptivePadState) := do
  let header := InPlace.muxHeader (UInt32.ofNat r.sid) r.msg.flags r.msg.payload
  let out ← InPlace.serialize ⟨client, cfg.maxPad, cfg.padMode⟩ [header, r.msg.payload] crypto
    adaptive coins
  if out.1.length > cfg.maxWsBinary then .error "mux ws binary cap" else .ok out

/-- The receiver's test of the same cap. -/
def MuxCfg.oversized (cfg : MuxCfg) (blob : Bytes) : Bool :=
  blob.length > saturatingMul u64Max cfg.maxWsBinary 4

/-! ## 2. The length of a record -/

/-- A record with its header within the payload size is written within the cap, while there are
nonces. -/
theorem MuxCfg.writeRecord_of_le {cfg : MuxCfg} {crypto : Option InPlace.SessionCrypto}
    (hk : cfg.Keys crypto) (client : Bool) (adaptive : AdaptivePadState)
    (coins : InPlace.RecordCoins) (r : Rec) (hpos : 0 < cfg.maxTcpPayload)
    (hle : r.msg.payload.length + 9 ≤ cfg.maxTcpPayload)
    (hshort : r.msg.payload.length ≤ 64 * 1024) :
    (∃ out, cfg.writeRecord client crypto adaptive coins r = .ok out ∧
      out.1.length ≤ cfg.maxWsBinary) ∨
    ∃ c, crypto = some c ∧ (c.half client).ctr = u64Max ∧
      cfg.writeRecord client crypto adaptive coins r = .error "chacha nonce space exhausted" := by
  have hsum := maxTcpPayload_add_overhead hpos
  change cfg.maxTcpPayload + _ = _ at hsum
  have hfit : 9 + r.msg.payload.length ≤ 0xFFFFFF := by omega
  by_cases hctr : ∀ c, crypto = some c → (c.half client).ctr ≠ u64Max
  · obtain ⟨⟨wire, c', st⟩, hser⟩ := InPlace.serialize_total ⟨client, cfg.maxPad, cfg.padMode⟩
      (UInt32.ofNat r.sid) r.msg.flags adaptive coins hfit hctr
    have hlen := InPlace.length_serialize_le hk.decoy hser
    rw [hk.v2] at hlen
    have hcap : wire.length ≤ cfg.maxWsBinary := by
      dsimp only at hlen
      omega
    refine .inl ⟨(wire, c', st), ?_, hcap⟩
    simp only [writeRecord, hser, bind, Except.bind, if_neg (Nat.not_lt.mpr hcap)]
  · obtain ⟨c, hctr⟩ := not_forall.mp hctr
    obtain ⟨rfl, hmax⟩ := Classical.not_imp.mp hctr
    have hser := InPlace.serialize_exhausted ⟨client, cfg.maxPad, cfg.padMode⟩ (UInt32.ofNat r.sid)
      r.msg.flags adaptive coins hfit (not_not.mp hmax)
    refine .inr ⟨c, rfl, not_not.mp hmax, ?_⟩
    simp only [writeRecord, hser, bind, Except.bind]

/-! ## 3. What an endpoint holds -/

/-- The longest target: type and length, a name of 255 bytes, and the port. -/
def maxTargetLen : Nat := 1 + 1 + 255 + 2

theorem length_encodeMuxOpenTarget_le {P : Platform} (hP : P.Sized) {host : Text} {port : Nat}
    {target : Bytes} (h : encodeMuxOpenTarget P host port = .ok target) :
    target.length ≤ maxTargetLen := by
  unfold encodeMuxOpenTarget encodeAtypHostPort at h
  unfold maxTargetLen
  split at h
  · rename_i octets h4
    cases h
    have hlen := hP.octets_v4 h4
    simp only [List.length_append, List.length_cons, length_toBe]
    omega
  · split at h
    · rename_i octets h6
      cases h
      have hlen := hP.octets_v6 h6
      simp only [List.length_append, List.length_cons, length_toBe]
      omega
    · split at h
      · cases h
      · rename_i hlen
        cases h
        have hbytes : (Text.toUtf8 host).length = Text.len host := rfl
        simp only [List.length_append, List.length_cons, length_toBe]
        omega

/-- The pump never holds more than a chunk. -/
def Uplink.Cut (u : Uplink) : Prop := u.held.length ≤ u.maxChunk

/-- **A step of the pump keeps to the chunk**, in what it holds and in what it hands over. -/
theorem Uplink.Cut.step {u u' : Uplink} {f f' : Flow} {a : UpAction} {o : Option Msg} (h : u.Cut)
    (hs : u.step f a = some (u', f', o)) :
    u'.Cut ∧ u'.maxChunk = u.maxChunk ∧ ∀ payload, o = some (.data payload) →
      payload.length ≤ u.maxChunk := by
  unfold Uplink.Cut at h ⊢
  revert hs
  fun_cases Uplink.step u f a <;> intro hs <;> cases hs
  case case18 payload rest hph =>
    have hboth : payload.length + rest.length ≤ u.maxChunk := by
      simpa only [Uplink.held, hph, List.length_append] using h
    refine ⟨?_, rfl, fun p ho => ?_⟩
    · by_cases hr : rest = []
      · simp [Uplink.held, hr]
      · simp only [Uplink.held, if_neg hr]
        omega
    · cases ho
      omega
  all_goals refine ⟨?_, rfl, fun _ ho => by cases ho⟩
  case case1 => exact List.length_take_le _ _
  case case3 bytes _ _ hle =>
    by_cases hb : bytes = []
    · simp [Uplink.held, hb]
    · simpa only [Uplink.held, if_neg hb] using hle
  case case8 hph _ => simpa only [Uplink.held, Uplink.goto, hph, List.append_nil] using h
  case case9 hph _ _ _ => simpa only [Uplink.held, Uplink.goto, hph, List.take_append_drop] using h
  case case10 hph _ _ => simpa only [Uplink.held, Uplink.goto, hph] using h
  case case12 hph _ => simpa only [Uplink.held, Uplink.goto, hph] using h
  case case15 hph => simpa only [Uplink.held, Uplink.goto, hph] using h
  -- in the other branches nothing is held
  all_goals exact Nat.zero_le _

theorem Side.stepUp_eq {s s' : Side} {a : UpAction} {o : Option Msg}
    (h : s.stepUp a = some (s', o)) : ∃ f', s.up.step s.flow a = some (s'.up, f', o) := by
  obtain ⟨⟨u', f', o'⟩, hs, heq⟩ := Option.map_eq_some_iff.mp h
  cases heq
  exact ⟨f', hs⟩

theorem Side.Moves.cut {s s' : Side} (hm : s.Moves s') (h : s.up.Cut) :
    s'.up.Cut ∧ s'.up.maxChunk = s.up.maxChunk := by
  cases hm with
  | same | cancel => exact ⟨h, rfl⟩
  | up a s' o hs =>
    obtain ⟨f', hstep⟩ := Side.stepUp_eq hs
    obtain ⟨hcut, hchunk, -⟩ := h.step hstep
    exact ⟨hcut, hchunk⟩
  | down a s' o hs =>
    obtain ⟨r, -, heq⟩ := Option.map_eq_some_iff.mp hs
    cases heq
    exact ⟨h, rfl⟩
  | dispatch flags payload s' hs =>
    obtain ⟨flow, -, rfl⟩ := map_eq_ok.mp hs
    exact ⟨h, rfl⟩

section Step

variable {e e' : Endpoint} {a : Action} {acquired : Bool} {i : Nat} {target : Bytes} {P : Platform}

namespace Endpoint

/-- The chunk size never changes. -/
theorem chunk_step (hs : e.step a = some e') : e'.chunk = e.chunk := by
  rcases rest_step hs with heq | ⟨target, pre, -, -, -, rfl⟩ | ⟨k, -, heq⟩ | ⟨b, -, hws⟩
  · exact congrArg (·.chunk) heq
  · rfl
  · exact congrArg (·.chunk) heq
  · rw [writerStep_eq hws]

/-- A task in `open_stream` keeps its target. -/
theorem target_taskStep {g g' : Gen} {a : TaskAction} (hg : e.gens[i]? = some g)
    (hs : e.taskStep i g a = some e') (hg' : e'.gens[i]? = some g')
    (ht : g'.task = .opening target acquired) : ∃ b, g.task = .opening target b := by
  have ho : g'.task.isOpening = true := by rw [ht]; rfl
  have hopen := (opening_taskStep hg (taskStep_spec hs) hg' ho).1
  cases htask : g.task with
  | opening t b =>
    refine ⟨b, ?_⟩
    -- only `openAcquire` leaves it where it is
    cases a with
    | openAcquire =>
      simp only [taskStep, htask] at hs
      split at hs
      · rename_i heq
        cases heq
        split at hs
        · cases hs
          rw [setTask_self hg'] at ht
          cases ht
          rfl
        · cases hs
      · cases hs
    | openEmit =>
      simp only [taskStep, htask] at hs
      split at hs
      · split at hs
        · cases hs
          rw [setTask_self hg'] at ht
          cases ht
        · cases hs
      · cases hs
    | openDrop =>
      simp only [taskStep, htask] at hs
      cases hs
      rw [setTask_self hg'] at ht
      cases ht
    | _ => simp [taskStep, htask] at hs
  | _ =>
    rw [htask] at hopen
    cases hopen

/-- In any step. -/
theorem target_step {g g' : Gen} (hw : e.Wf) (hs : e.step a = some e') (hg : e.gens[i]? = some g)
    (hg' : e'.gens[i]? = some g') (ht : g'.task = .opening target acquired) :
    ∃ b, g.task = .opening target b := by
  rcases hw.task_of_step hs hg hg' with heq | ⟨b, -, hts⟩
  · exact ⟨acquired, heq ▸ ht⟩
  · exact target_taskStep hg hts hg' ht

end Endpoint

/-- The generation keeps to its bounds. -/
structure Gen.Compact (chunk : Nat) (g : Gen) : Prop where
  target : ∀ target acquired, g.task = .opening target acquired → target.length ≤ maxTargetLen
  chunk : g.side.up.maxChunk = chunk
  cut : g.side.up.Cut

/-- The payload that no record exceeds. -/
def Endpoint.maxRecord (e : Endpoint) : Nat := max maxTargetLen e.chunk.bytes

/-- **Nothing in the endpoint is longer than a record may be.** -/
structure Endpoint.Compact (e : Endpoint) : Prop where
  opens : ∀ p ∈ e.opens, ∀ target, p.target = some target → target.length ≤ maxTargetLen
  gens : ∀ (i : Nat) (g : Gen), e.gens[i]? = some g → g.Compact e.chunk.bytes
  records : ∀ r, e.HoldsRec r → r.msg.payload.length ≤ e.maxRecord

theorem Endpoint.Compact.new (client : Bool) (window : MuxWindow) (chunk : ChunkSize) :
    (Endpoint.new client window chunk).Compact where
  opens p hp := by cases hp
  gens i g hg := by simp [Endpoint.new] at hg
  records r hr := by
    obtain ⟨-, rfl⟩ := Endpoint.holdsRec_new hr
    have hlen : (Msg.cap 1 window.bytes).payload.length = 9 := rfl
    rw [hlen, Endpoint.maxRecord, maxTargetLen]
    omega

/-- **What is held after a step is within the bound.** -/
theorem Endpoint.Compact.records_step {r : Rec} (h : e.Compact) (hw : e.Wf)
    (hs : e.step a = some e') (hr : e'.HoldsRec r) : r.msg.payload.length ≤ e.maxRecord := by
  have hsmall : r.msg.payload.length ≤ 9 → r.msg.payload.length ≤ e.maxRecord := by
    intro hle
    rw [Endpoint.maxRecord, maxTargetLen]
    omega
  rcases hw.holds_step hs hr with hold | hq
  · exact h.records r hold
  cases hq with
  | task i g b _ hg _ _ hm =>
    cases hmsg : r.msg with
    | opening credit target =>
      rw [hmsg] at hm
      exact Nat.le_trans ((h.gens i g hg).target target true hm.1) (Nat.le_max_left _ _)
    | data payload =>
      rw [hmsg] at hm
      obtain ⟨-, b', side, hup⟩ := hm
      obtain ⟨f', hstep⟩ := Side.stepUp_eq hup
      have hle := ((h.gens i g hg).cut.step hstep).2.2 payload rfl
      rw [(h.gens i g hg).chunk] at hle
      exact Nat.le_trans hle (Nat.le_max_right _ _)
    | close => exact hmsg ▸ hsmall (by rw [hmsg]; exact Nat.zero_le _)
    | win amount => exact hmsg ▸ hsmall (by rw [hmsg, Msg.payload, length_toBe]; omega)
    | rst => exact hmsg ▸ hsmall (by rw [hmsg]; exact Nat.zero_le _)
    | cap kind window =>
      rw [hmsg] at hm
      cases hm
  | reply sid gen => exact hsmall (Nat.zero_le _)
  | unscoped b r hgen hm =>
    refine hsmall ?_
    rcases hm with ⟨f, -, rfl, -⟩ | ⟨rfl, -⟩
    · exact Nat.zero_le _
    · exact Nat.le_refl 9

/-- An `open_stream` asks for what `encode_mux_open_target` makes of some host and port. -/
def OpensHost (P : Platform) (_ : Endpoint) (a : Action) : Prop :=
  ∀ target pre, a = .openFetch target pre →
    ∃ host port, target = (encodeMuxOpenTarget P host port).toOption

namespace Endpoint

/-- The targets of the opens after a step. -/
theorem Compact.opens_step (hP : P.Sized) (h : e.Compact) (ha : OpensHost P e a)
    (hs : e.step a = some e') :
    ∀ p ∈ e'.opens, ∀ target, p.target = some target → target.length ≤ maxTargetLen := by
  intro p hp target ht
  rcases Endpoint.opens_step hs with ⟨t, pre, rfl, -, -, heq⟩ | ⟨k, -, heq, -⟩ | hsame
  · rw [heq] at hp
    rcases List.mem_append.mp hp with hp | hp
    · exact h.opens p hp target ht
    · cases List.mem_singleton.mp hp
      obtain ⟨host, port, rfl⟩ := ha t pre rfl
      cases henc : encodeMuxOpenTarget P host port with
      | error x =>
        rw [henc] at ht
        cases ht
      | ok bytes =>
        rw [henc] at ht
        cases ht
        exact length_encodeMuxOpenTarget_le hP henc
  · rw [heq] at hp
    exact h.opens p (List.mem_of_mem_eraseIdx hp) target ht
  · rw [hsame.opens] at hp
    exact h.opens p hp target ht

/-- A generation that a step adds in `open_stream` has the target of one of the opens. -/
theorem fresh_target {g' : Gen} (hw : e.Wf) (hs : e.step a = some e') (hnew : e.gens[i]? = none)
    (hg' : e'.gens[i]? = some g') (ht : g'.task = .opening target acquired) :
    ∃ p ∈ e.opens, p.target = some target := by
  rcases hw.gen_step hs hg' with ⟨g, hg, -⟩ | ⟨-, hcr, -⟩
  · rw [hnew] at hg
    cases hg
  · cases hcr with
    | prepared k p t hk hp =>
      cases ht
      exact ⟨p, List.mem_of_getElem? hk, hp⟩
    | admitted => cases ht

/-- **Every step keeps an endpoint compact**, whatever its peer sends. -/
theorem Compact.step (hP : P.Sized) (h : e.Compact) (hw : e.Wf) (ha : OpensHost P e a)
    (hs : e.step a = some e') : e'.Compact := by
  have hchunk := chunk_step hs
  have hmax : e'.maxRecord = e.maxRecord := by rw [maxRecord, maxRecord, hchunk]
  refine ⟨h.opens_step hP ha hs, fun i g' hg' => ?_, fun r hr => hmax ▸ h.records_step hw hs hr⟩
  rw [hchunk]
  have htarget : ∀ target acquired, g'.task = .opening target acquired →
      target.length ≤ maxTargetLen := by
    intro target acquired ht
    cases hg : e.gens[i]? with
    | none =>
      obtain ⟨p, hp, hpt⟩ := fresh_target hw hs hg hg' ht
      exact h.opens p hp target hpt
    | some g =>
      obtain ⟨b, htask⟩ := target_step hw hs hg hg' ht
      exact (h.gens i g hg).target target b htask
  rcases hw.gen_step hs hg' with ⟨g, hg, -, hmove⟩ | ⟨-, hcr, -⟩
  · have hold := h.gens i g hg
    obtain ⟨hcut, hsame⟩ := hmove.cut hold.cut
    exact ⟨htarget, hsame.trans hold.chunk, hcut⟩
  · -- a generation that is added has not read anything
    cases hcr <;> exact ⟨htarget, rfl, Nat.zero_le _⟩

theorem Compact.reachable (hP : P.Sized) {client : Bool} {window : MuxWindow} {chunk : ChunkSize}
    (h : Path Endpoint.step (OpensHost P) (Endpoint.new client window chunk) e) :
    e.Wf ∧ e.Compact ∧ e.chunk = chunk := by
  refine Path.invariant (I := fun e => e.Wf ∧ e.Compact ∧ e.chunk = chunk) h
    ⟨.new client window chunk, .new client window chunk, rfl⟩ ?_
  rintro s a s' ⟨hw, hc, hchunk⟩ ha hs
  exact ⟨hw.step hs, hc.step hP hw ha hs, (chunk_step hs).trans hchunk⟩

end Endpoint

end Step

/-! ## 4. The cap is out of reach -/

/-- **No record of an honest endpoint exceeds the cap.**  If the cap leaves room for the longest
`OPEN` and its header, then in every run, whatever the peer sends, every record that the endpoint
has queued is serialized within the cap, for every pad mode, adaptive counter, pad and decoy: the
writer passes it on, unless its nonces are used up, and a peer with the same cap does not take it
for oversized. -/
theorem record_cap_unreachable {P : Platform} (hP : P.Sized) {cfg : MuxCfg}
    (hroom : 268 ≤ cfg.maxTcpPayload) {client : Bool} {window : MuxWindow} {e : Endpoint}
    (hrun : Path Endpoint.step (OpensHost P) (Endpoint.new client window cfg.maxChunk) e)
    {r : Rec} (hr : e.HoldsRec r) {crypto : Option InPlace.SessionCrypto} (hk : cfg.Keys crypto)
    (adaptive : AdaptivePadState) (coins : InPlace.RecordCoins) :
    (∃ out, cfg.writeRecord client crypto adaptive coins r = .ok out ∧
      out.1.length ≤ cfg.maxWsBinary ∧ cfg.oversized out.1 = false) ∨
    ∃ c, crypto = some c ∧ (c.half client).ctr = u64Max ∧
      cfg.writeRecord client crypto adaptive coins r = .error "chacha nonce space exhausted" := by
  obtain ⟨-, hcompact, hchunk⟩ := Endpoint.Compact.reachable hP hrun
  have hle := hcompact.records r hr
  have hbytes : e.chunk.bytes = min (max (cfg.maxTcpPayload - 9) 1) (64 * 1024) := by
    rw [hchunk]
    rfl
  rw [Endpoint.maxRecord, maxTargetLen, hbytes] at hle
  rcases MuxCfg.writeRecord_of_le hk client adaptive coins r (by omega) (by omega) (by omega) with
    ⟨out, hok, hcap⟩ | hexhausted
  · refine .inl ⟨out, hok, hcap, ?_⟩
    have husize := cfg.usize
    simp only [MuxCfg.oversized, gt_iff_lt, decide_eq_false_iff_not, Nat.not_lt]
    unfold saturatingMul
    omega
  · exact .inr hexhausted

/-- A configuration with room for the longest `OPEN` and not one byte more. -/
def tightCfg : MuxCfg := ⟨0, 0, .random, 273, false, by decide⟩

/-- A client opens a stream to a name of 255 bytes. -/
def openLongest : List Action :=
  [.timeout,
    .openFetch (encodeMuxOpenTarget Platform.grouped (List.replicate 255 'a') 443).toOption [],
    .openPrepare 0, .task 0 .openAcquire, .task 0 .openEmit]

/-- Its `OPEN` fits. -/
theorem record_cap_unreachable_longest :
    ∃ e r out, run Endpoint.step (Endpoint.new true oneMiB tightCfg.maxChunk) openLongest = some e ∧
      r ∈ e.output ∧ r.msg.payload.length = 259 ∧
      tightCfg.writeRecord true none ⟨0⟩ ⟨⟨0, fun _ => 0⟩, ⟨0, fun _ => 0⟩⟩ r = .ok out ∧
      out.1.length ≤ 273 ∧ tightCfg.oversized out.1 = false := by
  have heval : (run Endpoint.step (Endpoint.new true oneMiB tightCfg.maxChunk) openLongest).map
      (fun e => e.output.map fun r => r.msg.payload.length) = some [259] := by decide +kernel
  obtain ⟨e, hrun, hout⟩ := Option.map_eq_some_iff.mp heval
  obtain ⟨r, hr, hlen⟩ : ∃ r ∈ e.output, r.msg.payload.length = 259 := by
    have hmem : 259 ∈ e.output.map fun r => r.msg.payload.length := by
      rw [hout]
      exact List.mem_singleton_self _
    exact List.mem_map.mp hmem
  have hpath : Path Endpoint.step (OpensHost Platform.grouped)
      (Endpoint.new true oneMiB tightCfg.maxChunk) e := by
    refine Path.of_run (allowed_of_mem _ (fun a ha s target pre heq => ?_) _) hrun
    subst heq
    simp only [openLongest, List.mem_cons, reduceCtorEq, Action.openFetch.injEq, List.not_mem_nil,
      or_false, false_or] at ha
    exact ⟨_, _, ha.1⟩
  have hkeys : tightCfg.Keys none := ⟨rfl, fun c hc => by cases hc⟩
  rcases record_cap_unreachable Platform.grouped_lawful.toSized (by decide) hpath (Or.inl hr)
    hkeys ⟨0⟩ ⟨⟨0, fun _ => 0⟩, ⟨0, fun _ => 0⟩⟩ with ⟨out, hok, hcap, hpeer⟩ | ⟨c, hc, -⟩
  · exact ⟨e, r, out, hrun, hr, hlen, hok, hcap, hpeer⟩
  · cases hc

end BibaVpn.Mux
