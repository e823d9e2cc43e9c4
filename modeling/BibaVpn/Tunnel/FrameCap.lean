/-
# The frame cap of a dedicated tunnel

The `down` half of `bridge_ws_tcp_padded` cuts what it reads from TCP into chunks, pads and seals
each, and gives up when the result is longer than `--max-ws-binary`.  The size of a chunk is meant
to rule that out: `max_tcp_payload_per_ws_message` is the cap less the worst overhead.  The bridge
raises it to 256, however, and then a chunk may be larger than the cap leaves room for.

* §1 is the `down` half in both crypto modes, with the draws of every frame as parameters;
* §2 is the length of a frame: at most payload and overhead, and for a chunk of 256 bytes exactly
  that if the draws are the largest;
* §3 is the exact result: the failure is unreachable IF AND ONLY IF the formula leaves at least the
  256 bytes of the floor.
-/
import BibaVpn.Tunnel.Downlink

namespace BibaVpn.Tunnel

open Machine Wire

/-! ## 1. The `down` half -/

/-- `read_cap`: the size of the buffer. -/
def BridgeCfg.readCap (cfg : BridgeCfg) (v2 : Bool) : Nat :=
  max (min (saturatingMul u64Max (cfg.maxChunk v2) 8) (512 * 1024)) (cfg.maxChunk v2)

/-- What is random about a frame, and the nonce counter: the `dummy` task seals with the same
half. -/
structure Draws where
  pad : PadCoins
  decoy : DecoyCoins
  ctr : Nat

/-- Why `down` gave up. -/
inductive DownError
  /-- `pack frame`. -/
  | packFrame
  /-- `v2 seal c2s`, `v2 seal s2c`. -/
  | sealing (what : String)
  /-- `WS binary {len} exceeds --max-ws-binary {cap} (lower MTU or max_pad/decoy)`. -/
  | exceeds (len cap : Nat)
  deriving DecidableEq, Repr

/-- One frame, before its length is looked at. -/
def frameBlob (cfg : BridgeCfg) (cipher : Option Aead) (adaptive : AdaptivePadState) (d : Draws)
    (payload : Bytes) : Except DownError (Bytes × Option AdaptivePadState) :=
  match PreparedFrame.new [payload] cfg.maxPad cfg.padMode (some adaptive) d.pad with
  | .error _ => .error .packFrame
  | .ok (frame, adaptive') =>
    match cipher with
    | none => .ok (frame.toBytes, adaptive')
    | some A =>
      match (ChaHalf.mk A d.ctr).seal cfg.decoyMax d.decoy frame.toBytes with
      | .error e => .error (.sealing e)
      | .ok (blob, _) => .ok (blob, adaptive')

/-- The frames of a list of chunks, the `i`-th with its own draws. -/
def sendChunks (cfg : BridgeCfg) (cipher : Option Aead) (draws : Nat → Draws) :
    Nat → AdaptivePadState → List Bytes → Except DownError (List Bytes)
  | _, _, [] => .ok []
  | i, adaptive, chunk :: rest =>
    match frameBlob cfg cipher adaptive (draws i) chunk with
    | .error e => .error e
    | .ok (blob, adaptive') =>
      if blob.length > cfg.maxWsBinary then .error (.exceeds blob.length cfg.maxWsBinary)
      else (sendChunks cfg cipher draws (i + 1) (adaptive'.getD adaptive) rest).map (blob :: ·)

/-- The `down` half on a sequence of reads, up to the first empty one. -/
def down (cfg : BridgeCfg) (cipher : Option Aead) (draws : Nat → Draws) (reads : List Bytes) :
    Except DownError (List Bytes) :=
  sendChunks cfg cipher draws 0 ⟨0⟩
    ((reads.takeWhile (· ≠ [])).flatMap fun r => cut (cfg.maxChunk cipher.isSome) r.length r)

/-- No read is larger than the buffer. -/
def FitsBuffer (cfg : BridgeCfg) (v2 : Bool) (reads : List Bytes) : Prop :=
  ∀ r ∈ reads, r.length ≤ cfg.readCap v2

/-! ## 2. The length of a frame -/

theorem length_of_mem_cut {size : Nat} : ∀ {k : Nat} {r c : Bytes}, c ∈ cut size k r →
    c.length ≤ size
  | 0, _, _, h => absurd h List.not_mem_nil
  | _ + 1, [], _, h => absurd h List.not_mem_nil
  | k + 1, b :: bs, c, h => by
    rw [cut] at h
    rcases List.mem_cons.mp h with rfl | h
    · exact List.length_take_le _ _
    · exact length_of_mem_cut h

/-- A read that fits one chunk is one. -/
theorem cut_of_le {size : Nat} {r : Bytes} (hne : r ≠ []) (hle : r.length ≤ size) :
    cut size r.length r = [r] := by
  cases r with
  | nil => exact absurd rfl hne
  | cons b bs =>
    rw [List.length_cons, cut, List.take_of_length_le hle, List.drop_of_length_le hle]
    cases bs <;> rfl

variable {cfg : BridgeCfg} {cipher : Option Aead}

theorem down_single {draws : Nat → Draws} {r : Bytes} (hne : r ≠ [])
    (hle : r.length ≤ cfg.maxChunk cipher.isSome) :
    down cfg cipher draws [r] = sendChunks cfg cipher draws 0 ⟨0⟩ [r] := by
  have hone : [r].takeWhile (· ≠ []) = [r] := by
    rw [List.takeWhile_cons_of_pos (by simpa using hne), List.takeWhile_nil]
  rw [down, hone, List.flatMap_singleton, cut_of_le hne hle]

/-- **The length of a frame.** -/
theorem length_frameBlob {adaptive : AdaptivePadState} {d : Draws} {payload blob : Bytes}
    {adaptive' : Option AdaptivePadState}
    (h : frameBlob cfg cipher adaptive d payload = .ok (blob, adaptive')) :
    blob.length =
      5 + padLen cfg.maxPad cfg.padMode (some adaptive) (5 + payload.length) d.pad.pick +
      payload.length +
      if cipher.isSome then 29 + (decoyBytes cfg.decoyMax d.decoy).length else 0 := by
  unfold frameBlob at h
  split at h
  · cases h
  · rename_i frame adaptive'' hnew
    have hwire := PreparedFrame.wireLen_of_new hnew
    rw [List.flatten_singleton] at hwire
    cases cipher with
    | none =>
      cases h
      rw [PreparedFrame.length_toBytes, hwire]
      rfl
    | some A =>
      dsimp only at h
      split at h
      · cases h
      · rename_i blob' half hseal
        cases h
        rw [ChaHalf.length_seal hseal, PreparedFrame.length_toBytes, hwire]
        simp only [Option.isSome_some, if_true]
        omega

theorem length_frameBlob_le {adaptive : AdaptivePadState} {d : Draws} {payload blob : Bytes}
    {adaptive' : Option AdaptivePadState}
    (h : frameBlob cfg cipher adaptive d payload = .ok (blob, adaptive')) :
    blob.length ≤ payload.length + wsOverhead cipher.isSome cfg.decoyMax cfg.maxPad := by
  have hpad := padLen_le cfg.maxPad cfg.padMode (some adaptive) (5 + payload.length) d.pad.pick
  have hdecoy := length_decoyBytes_le cfg.decoyMax d.decoy
  rw [length_frameBlob h, wsOverhead]
  split <;> omega

/-- The largest draws. -/
def worstDraws (cfg : BridgeCfg) : Draws :=
  ⟨⟨longestPick cfg.maxPad cfg.padMode, fun _ => 0⟩, ⟨cfg.decoyMax.toNat, fun _ => 0⟩, 0⟩

theorem length_decoyBytes_worst (cfg : BridgeCfg) :
    (decoyBytes cfg.decoyMax (worstDraws cfg).decoy).length = cfg.decoyMax.toNat := by
  simp only [decoyBytes, List.length_map, List.length_range, worstDraws]
  split
  · rename_i hzero
    rw [hzero]
    rfl
  · rw [genRange, Nat.zero_add, Nat.sub_zero]
    exact Nat.mod_eq_of_lt (Nat.lt_succ_self _)

/-- With the largest draws the first frame of 256 bytes has the whole overhead. -/
theorem frameBlob_worst (cfg : BridgeCfg) (cipher : Option Aead) {chunk : Bytes}
    (hlen : chunk.length = 256) :
    ∃ blob adaptive', frameBlob cfg cipher ⟨0⟩ (worstDraws cfg) chunk = .ok (blob, adaptive') ∧
      blob.length = 256 + wsOverhead cipher.isSome cfg.decoyMax cfg.maxPad := by
  have hok : ∃ blob adaptive', frameBlob cfg cipher ⟨0⟩ (worstDraws cfg) chunk =
      .ok (blob, adaptive') := by
    have hfit : [chunk].flatten.length ≤ maxPayload ∧ [chunk].flatten.length ≤ 0xFFFFFF := by
      rw [List.flatten_singleton, hlen]
      decide
    have hctr : ¬ (worstDraws cfg).ctr = u64Max := by
      change ¬ 0 = u64Max
      decide
    cases cipher with
    | none =>
      simp only [frameBlob, PreparedFrame.new, dif_pos hfit]
      exact ⟨_, _, rfl⟩
    | some A =>
      simp only [frameBlob, PreparedFrame.new, dif_pos hfit, ChaHalf.seal, ChaHalf.nextNonce,
        if_neg hctr, Except.map]
      exact ⟨_, _, rfl⟩
  obtain ⟨blob, adaptive', h⟩ := hok
  refine ⟨blob, adaptive', h, ?_⟩
  have hpad : padLen cfg.maxPad cfg.padMode (some ⟨0⟩) (5 + chunk.length)
      (worstDraws cfg).pad.pick = cfg.maxPad.toNat := by
    rw [hlen]
    exact padLen_longestPick cfg.maxPad cfg.padMode (by decide)
  rw [length_frameBlob h, hpad, hlen, length_decoyBytes_worst, wsOverhead]
  split <;> omega

/-! ## 3. When the cap is unreachable -/

/-- Chunks that leave room for the overhead are all sent, or stopped by something else. -/
theorem sendChunks_ne_exceeds {draws : Nat → Draws} :
    ∀ {i : Nat} {adaptive : AdaptivePadState} {chunks : List Bytes},
    (∀ c ∈ chunks, c.length + wsOverhead cipher.isSome cfg.decoyMax cfg.maxPad ≤ cfg.maxWsBinary) →
    ∀ len cap, sendChunks cfg cipher draws i adaptive chunks ≠ .error (.exceeds len cap)
  | _, _, [], _, _, _, h => by cases h
  | i, adaptive, chunk :: rest, hroom, len, cap, h => by
    rw [sendChunks] at h
    split at h
    · rename_i e hblob
      -- making a frame fails for other reasons only
      cases h
      unfold frameBlob at hblob
      split at hblob
      · cases hblob
      · cases cipher with
        | none => cases hblob
        | some A =>
          dsimp only at hblob
          split at hblob <;> cases hblob
    · rename_i blob adaptive' hblob
      have hle := length_frameBlob_le hblob
      have hchunk := hroom chunk List.mem_cons_self
      rw [if_neg (by omega)] at h
      cases hrest : sendChunks cfg cipher draws (i + 1) (adaptive'.getD adaptive) rest with
      | ok frames =>
        rw [hrest] at h
        cases h
      | error e =>
        rw [hrest] at h
        cases h
        exact sendChunks_ne_exceeds (fun c hc => hroom c (List.mem_cons_of_mem _ hc)) len cap hrest

/-- **The frame cap is unreachable exactly if the formula leaves the bridge its 256 bytes.** -/
theorem frame_cap_unreachable_iff (cfg : BridgeCfg) (cipher : Option Aead)
    (hpos : 0 < cfg.maxTcpPayload cipher.isSome) :
    (∀ draws reads, FitsBuffer cfg cipher.isSome reads →
      ∀ len cap, down cfg cipher draws reads ≠ .error (.exceeds len cap)) ↔
        256 ≤ cfg.maxTcpPayload cipher.isSome := by
  have hsum := maxTcpPayload_add_overhead hpos
  change cfg.maxTcpPayload cipher.isSome + _ = _ at hsum
  constructor
  · intro h
    by_contra hsmall
    have hsmall : cfg.maxTcpPayload cipher.isSome < 256 := Nat.lt_of_not_le hsmall
    have hchunk : cfg.maxChunk cipher.isSome = 256 := max_eq_right (Nat.le_of_lt hsmall)
    have hlen : (List.replicate 256 (0 : UInt8)).length = 256 := List.length_replicate
    obtain ⟨blob, adaptive', hblob, hblen⟩ := frameBlob_worst cfg cipher hlen
    have hfits : FitsBuffer cfg cipher.isSome [List.replicate 256 0] := by
      intro r hr
      rw [List.mem_singleton.mp hr, hlen, ← hchunk]
      exact le_max_right _ _
    refine h (fun _ => worstDraws cfg) _ hfits blob.length cfg.maxWsBinary ?_
    have hne : List.replicate 256 (0 : UInt8) ≠ [] := List.ne_nil_of_length_eq_add_one hlen
    rw [down_single hne (by rw [hlen, hchunk]), sendChunks, hblob]
    dsimp only
    rw [if_pos (by omega)]
  · intro hroom draws reads _ len cap
    have hchunk : cfg.maxChunk cipher.isSome = cfg.maxTcpPayload cipher.isSome := max_eq_left hroom
    refine sendChunks_ne_exceeds (fun c hc => ?_) len cap
    obtain ⟨r, -, hr⟩ := List.mem_flatMap.mp hc
    have hle := length_of_mem_cut hr
    omega

/-- A cap of 4096 bytes with padding of up to 64 is never exceeded. -/
theorem frame_cap_unreachable_wide :
    256 ≤ (BridgeCfg.mk 64 0 .random 4096).maxTcpPayload true ∧
    ∀ draws reads, FitsBuffer ⟨64, 0, .random, 4096⟩ true reads →
      ∀ len cap, down ⟨64, 0, .random, 4096⟩ (some Aead.plain) draws reads ≠
        .error (.exceeds len cap) :=
  ⟨by decide,
    (frame_cap_unreachable_iff ⟨64, 0, .random, 4096⟩ (some Aead.plain) (by decide)).mpr
    (by decide)⟩

/-- **A cap of 300 bytes with padding of up to 64 is exceeded** by the first 256 bytes that the
target sends at once, although a payload of 202 bytes would fit. -/
theorem frame_cap_exceeded :
    (BridgeCfg.mk 64 0 .random 300).maxTcpPayload true = 202 ∧
      FitsBuffer ⟨64, 0, .random, 300⟩ true [List.replicate 256 0] ∧
      down ⟨64, 0, .random, 300⟩ (some Aead.plain) (fun _ => worstDraws ⟨64, 0, .random, 300⟩)
        [List.replicate 256 0] = .error (.exceeds 354 300) := by
  refine ⟨by decide, ?_, by decide +kernel⟩
  intro r hr
  rw [List.mem_singleton.mp hr, List.length_replicate]
  decide

end BibaVpn.Tunnel
